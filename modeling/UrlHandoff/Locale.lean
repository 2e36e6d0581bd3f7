import UrlHandoff.Text.Blank

/-!
The locales a user asks for, read from the variables of the environment. `LANGUAGE` lists names in
order of preference; after it comes the first of `LC_ALL`, `LC_MESSAGES` and `LANG` that is set and
not empty. A regional name brings its language along as a second choice.
-/

namespace UrlHandoff.Locale

abbrev Lookup := String → Option String

/-- A variable set to the empty text counts as not set. -/
def valueOf (lookup : Lookup) (name : String) : Option String :=
  (lookup name).filter fun value => value ≠ ""

def listedNames (lookup : Lookup) : List String :=
  match valueOf lookup "LANGUAGE" with
  | none => []
  | some list => (list.toList.splitOn ':').map String.ofList

def singleName? (lookup : Lookup) : Option String :=
  ["LC_ALL", "LC_MESSAGES", "LANG"].findSome? (valueOf lookup)

def names (lookup : Lookup) : List String :=
  listedNames lookup ++ (singleName? lookup).toList

def startsMarker (c : Char) : Bool := c == '.' || c == '@'

def base (name : String) : String :=
  String.ofList (Text.trim (name.toList.takeWhile fun c => !startsMarker c))

def language? (base : String) : Option String :=
  if '_' ∈ base.toList then
    let language := String.ofList (base.toList.takeWhile (· ≠ '_'))
    if language = "" then none else some language
  else none

def isUntranslated (base : String) : Bool := base == "" || base == "C" || base == "POSIX"

def expansion (name : String) : List String :=
  if isUntranslated (base name) then [] else base name :: (language? (base name)).toList

def candidates (lookup : Lookup) : List String :=
  ((names lookup).flatMap expansion).eraseDups

theorem valueOf_eq_some_iff (lookup : Lookup) (name value : String) :
    valueOf lookup name = some value ↔ lookup name = some value ∧ value ≠ "" := by
  simp [valueOf, Option.filter_eq_some_iff]

theorem expansion_of_isUntranslated {name : String} (h : isUntranslated (base name) = true) :
    expansion name = [] := by
  simp [expansion, h]

end UrlHandoff.Locale
