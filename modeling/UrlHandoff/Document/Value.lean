import UrlHandoff.Document.Literal
import UrlHandoff.Document.Moment.Reader
import UrlHandoff.Document.Numeral
import UrlHandoff.Document.Placement

namespace UrlHandoff.Document

def isBareKeyChar (c : Char) : Bool := c.isAlphanum || c == '_' || c == '-'

def keyName : Reader String := fun s =>
  match singleLineString s with
  | some result => some result
  | none =>
    match s.takeWhile isBareKeyChar with
    | [] => none
    | name => some (String.ofList name, s.dropWhile isBareKeyChar)

def depthLimit : Nat := 80

def keyParts : Nat → Reader (List Key)
  | 0, _ => none
  | count + 1, s =>
    (withSpan keyName Key.mk (skipSpaces s)).bind fun (key, rest) =>
      match skipSpaces rest with
      | '.' :: rest => (keyParts count rest).map fun (keys, rest) => (key :: keys, rest)
      | rest => some ([key], rest)

def dottedKey : Reader (List Key × Key) := fun s =>
  (keyParts (depthLimit - 1) s).bind fun (keys, rest) =>
    keys.getLast?.map fun last => ((keys.dropLast, last), rest)

def assignment (value : Reader Node) : Reader Assignment := fun s => do
  let ((path, key), s) ← dottedKey s
  let s ← expect '=' s
  let (node, s) ← value (skipSpaces s)
  some (⟨path, key, node⟩, s)

def boolean : Reader Bool
  | 't' :: 'r' :: 'u' :: 'e' :: rest => some (true, rest)
  | 'f' :: 'a' :: 'l' :: 's' :: 'e' :: rest => some (false, rest)
  | _ => none

def scalar : Reader Scalar := fun s =>
  match string s with
  | some (value, rest) => some (.text value, rest)
  | none =>
    match boolean s with
    | some (value, rest) => some (.boolean value, rest)
    | none =>
      match moment s with
      | some (value, rest) => some (.moment value, rest)
      | none =>
        match float s with
        | some (value, rest) => some (.float value, rest)
        | none => (integer s).map fun (value, rest) => (.integer value, rest)

def arrayItems (value : Reader Node) (s : List Char) : Option (List Node × List Char) :=
  match skipLines false s with
  | none => none
  | some (']' :: rest) => some ([], rest)
  | some start =>
    match value start with
    | none => none
    | some (item, after) =>
      match skipLines false after with
      | some (']' :: rest) => some ([item], rest)
      | some (',' :: rest) =>
        if rest.length < s.length then
          (arrayItems value rest).map fun (items, rest) => (item :: items, rest)
        else none
      | _ => none
termination_by s.length

def braceItems (value : Reader Node) (s : List Char) : Option (List Assignment × List Char) :=
  match assignment value s with
  | none => none
  | some (item, after) =>
    match skipSpaces after with
    | '\x7d' :: rest => some ([item], rest)
    | ',' :: rest =>
      if rest.length < s.length then
        (braceItems value rest).map fun (items, rest) => (item :: items, rest)
      else none
    | _ => none
termination_by s.length

def array (value : Reader Node) : Reader (List Node)
  | '[' :: rest => arrayItems value rest
  | _ => none

/-- The span of a braced table is not known before its end, and none of its parts needs it. -/
def braced (value : Reader Node) : Reader Entries
  | '\x7b' :: rest =>
    match skipSpaces rest with
    | '\x7d' :: rest => some ([], rest)
    | start =>
      (braceItems value start).bind fun (items, rest) =>
        (fill .passage [] items).map fun entries => (entries, rest)
  | _ => none

def value : Nat → Reader Node
  | 0, s => withSpan scalar .scalar s
  | depth + 1, s =>
    match s with
    | '[' :: _ => withSpan (array (value depth)) .array s
    | '\x7b' :: _ =>
      withSpan (braced (value depth)) (fun entries span => .table (.braces span) entries) s
    | _ => withSpan scalar .scalar s

end UrlHandoff.Document
