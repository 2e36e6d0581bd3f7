import UrlHandoff.Dictionary
import UrlHandoff.Locale
import UrlHandoff.Text.Quoted

namespace UrlHandoff

abbrev Tables := Dictionary (Dictionary String)

namespace Tables

def find? (tables : Tables) (locale text : String) : Option String :=
  (tables.get? locale).bind fun table => table.get? text

def braced {α : Type} (written : α → String) (entries : List (String × α)) : String :=
  "\x7b" ++ String.intercalate ", "
    (entries.map fun entry => Text.quote entry.1 ++ ": " ++ written entry.2) ++ "\x7d"

def describe (tables : Tables) : String :=
  braced (fun table => braced Text.quote table.entries) tables.entries

end Tables

structure Catalog where
  locales : List String := []
  tables : Tables := ∅
  deriving DecidableEq

namespace Catalog

def ofEnvironment (lookup : Locale.Lookup) (tables : Tables) : Catalog :=
  ⟨Locale.candidates lookup, tables⟩

def find? (catalog : Catalog) (text : String) : Option String :=
  catalog.locales.findSome? fun locale => catalog.tables.find? locale text

def translate (catalog : Catalog) (text : String) : String := (catalog.find? text).getD text

def describe (catalog : Catalog) : String :=
  "Catalog \x7b locales: " ++ Text.quoteList catalog.locales ++
    ", tables: " ++ catalog.tables.describe ++ " \x7d"

theorem translate_of_find?_eq_none {catalog : Catalog} {text : String}
    (h : catalog.find? text = none) : catalog.translate text = text := by
  simp [translate, h]

theorem translate_of_find?_eq_some {catalog : Catalog} {text found : String}
    (h : catalog.find? text = some found) : catalog.translate text = found := by
  simp [translate, h]

end Catalog

structure Target where
  url : String
  deriving DecidableEq, Repr

namespace Target

def standard : Target := ⟨"http://www.inkscape.org/"⟩

/-- The flag decides, then the configured URL. A flag given as the empty text decides too. -/
def choose (flag configured : Option String) : Target :=
  match flag.or configured with
  | some url => ⟨url⟩
  | none => standard

def localized (target : Target) (catalog : Catalog) : Target := ⟨catalog.translate target.url⟩

def describe (target : Target) : String := "TargetUrl(" ++ Text.quote target.url ++ ")"

end Target

end UrlHandoff
