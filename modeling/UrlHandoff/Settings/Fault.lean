import UrlHandoff.Document.Node
import UrlHandoff.Text.Quoted

namespace UrlHandoff.Settings

open Document

inductive Requirement
  | text
  | seconds
  | table
  deriving DecidableEq, Repr

inductive Appearance
  | text (value : String)
  | integer (value : Int)
  | float (value : Binary64)
  | boolean (value : Bool)
  | sequence
  | map
  deriving DecidableEq, Repr

structure Fault where
  appearance : Appearance
  requirement : Requirement
  span : Span
  deriving DecidableEq, Repr

def Requirement.name : Requirement → String
  | text => "a string"
  | seconds => "u64"
  | table => "a map"

def Appearance.name : Appearance → String
  | text value => "string " ++ Text.quote value
  | integer value => "integer `" ++ toString value ++ "`"
  | float value => "floating point `" ++ value.text ++ "`"
  | boolean value => "boolean `" ++ toString value ++ "`"
  | sequence => "sequence"
  | map => "map"

def Appearance.ofScalar : Scalar → Appearance
  | .text value => text value
  | .integer value => integer value
  | .float value => float value
  | .boolean value => boolean value
  | .moment _ => map

def Appearance.ofNode : Node → Appearance
  | .scalar value _ => ofScalar value
  | .array _ _ => sequence
  | .table _ _ => map
  | .tables _ => sequence

namespace Fault

def isOfValue (fault : Fault) : Bool :=
  match fault.appearance, fault.requirement with
  | .integer _, .seconds => true
  | _, _ => false

def message (fault : Fault) : String :=
  (if fault.isOfValue then "invalid value: " else "invalid type: ") ++
    fault.appearance.name ++ ", expected " ++ fault.requirement.name

def position (fault : Fault) (text : List Char) : Position := fault.span.position text

def utf8Length (s : List Char) : Nat := s.foldr (fun c total => c.utf8Size + total) 0

def caretCount (fault : Fault) (text lineText : List Char) : Nat :=
  let column := (fault.position text).column - 1
  max 1 (min (utf8Length (fault.span.content text)) (utf8Length lineText - column))

def report (fault : Fault) (text : List Char) : List Char :=
  let place := fault.position text
  let lineText := ((text.splitOn '\n')[place.line - 1]?).getD []
  let number := Nat.toDigits 10 place.line
  let gutter := List.replicate (number.length + 1) ' ' ++ ['|']
  "TOML parse error at line ".toList ++ number ++ ", column ".toList ++
    Nat.toDigits 10 place.column ++ ['\n'] ++
    gutter ++ ['\n'] ++
    number ++ " | ".toList ++ lineText ++ ['\n'] ++
    gutter ++ List.replicate place.column ' ' ++
    List.replicate (fault.caretCount text lineText) '^' ++ ['\n'] ++
    fault.message.toList ++ ['\n']

end Fault

end UrlHandoff.Settings
