import UrlHandoff.Document.Binary64
import UrlHandoff.Document.Moment
import UrlHandoff.Document.Span

/-!
The tree of a TOML document. Tables keep their entries in the order in which they were written,
and every value knows the stretch of text that wrote it. A table that no text of its own wrote has
no stretch; the key that brought it about tells where it stands.
-/

namespace UrlHandoff.Document

inductive Scalar
  | text (value : String)
  | integer (value : Int)
  | float (value : Binary64)
  | boolean (value : Bool)
  | moment (value : Moment)
  deriving DecidableEq, Repr

structure Key where
  name : String
  span : Span
  deriving DecidableEq, Repr

inductive Origin
  | header (span : Span)
  | passage
  | dotted
  | braces (span : Span)
  deriving DecidableEq, Repr

def Origin.isImplicit : Origin → Bool
  | passage | dotted => true
  | header _ | braces _ => false

def Origin.span? : Origin → Option Span
  | header span | braces span => some span
  | passage | dotted => none

inductive Node
  | scalar (value : Scalar) (span : Span)
  | array (items : List Node) (span : Span)
  | table (origin : Origin) (entries : List (Key × Node))
  | tables (elements : List (Span × List (Key × Node)))

abbrev Entries := List (Key × Node)

namespace Node

def span? : Node → Option Span
  | scalar _ span => some span
  | array _ span => some span
  | table origin _ => origin.span?
  | tables elements =>
    match elements.head?, elements.getLast? with
    | some first, some last => some (first.1.join last.1)
    | _, _ => none

end Node

namespace Entries

def node? (entries : Entries) (name : String) : Option Node :=
  (List.find? (fun entry => entry.1.name == name) entries).map (·.2)

def without (entries : Entries) (name : String) : Entries :=
  entries.filter fun entry => entry.1.name != name

def setNode (entries : Entries) (name : String) (node : Node) : Entries :=
  entries.map fun entry => if entry.1.name = name then (entry.1, node) else entry

def add (entries : Entries) (key : Key) (node : Node) : Entries := entries ++ [(key, node)]

theorem node?_add (entries : Entries) (key : Key) (node : Node) (name : String) :
    (entries.add key node).node? name =
      (entries.node? name).or (if key.name = name then some node else none) := by
  simp only [node?, add, List.find?_append]
  cases List.find? (fun entry => entry.1.name == name) entries with
  | some entry => rfl
  | none => by_cases h : key.name = name <;> simp [h]

end Entries

end UrlHandoff.Document
