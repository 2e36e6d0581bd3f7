import UrlHandoff.Text.Quoted

namespace UrlHandoff.Log

inductive Level
  | error
  | warn
  | info
  | debug
  | trace
  deriving DecidableEq, Repr

namespace Level

def verbosity : Level → Nat
  | error => 1
  | warn => 2
  | info => 3
  | debug => 4
  | trace => 5

def label : Level → String
  | error => "ERROR"
  | warn => " WARN"
  | info => " INFO"
  | debug => "DEBUG"
  | trace => "TRACE"

end Level

structure Record where
  level : Level
  target : String
  message : String
  fields : List (String × String) := []
  deriving DecidableEq, Repr

def neutralized (c : Char) : List Char :=
  if c = '\x1b' then "\\x1b".toList
  else if c = '\x07' then "\\x07".toList
  else if c = '\x08' then "\\x08".toList
  else if c = '\x0c' then "\\x0c".toList
  else if c = '\x7f' then "\\x7f".toList
  else if 0x80 ≤ c.toNat ∧ c.toNat ≤ 0x9F then Text.codePointEscape c
  else [c]

namespace Record

def hasField (record : Record) (name : String) : Bool :=
  name == "message" || record.fields.any fun field => field.1 == name

def line (record : Record) : String :=
  record.level.label ++ " " ++ record.target ++ ": " ++
    String.ofList (record.message.toList.flatMap neutralized) ++
    String.join (record.fields.map fun field => " " ++ field.1 ++ "=" ++ field.2)

end Record

def text (records : List Record) : String :=
  String.join (records.map fun record => record.line ++ "\n")

end UrlHandoff.Log
