import UrlHandoff.Document.Node

/-!
How the lines of a TOML document fill its tree. Nothing is ever defined twice: a table under a
header can be opened once, a dotted key only extends tables that dotted keys made, and what stands
between braces or brackets is closed.
-/

namespace UrlHandoff.Document

/-- Goes down from a table along a path, makes the tables that are missing on the way, and changes
the one at its end. The flag tells whether the path is that of a dotted key. -/
def within (dotted : Bool) (change : Origin → Entries → Option Entries) :
    List Key → Origin → Entries → Option Entries
  | [], origin, entries => change origin entries
  | key :: path, _, entries =>
    match Entries.node? entries key.name with
    | none =>
      let origin : Origin := if dotted then .dotted else .passage
      (within dotted change path origin []).map fun inner =>
        entries.add key (.table origin inner)
    | some (.table (.braces _) _) => none
    | some (.table origin inner) =>
      if dotted && !origin.isImplicit then none
      else (within dotted change path origin inner).map fun inner =>
        entries.setNode key.name (.table origin inner)
    | some (.tables elements) =>
      elements.getLast?.bind fun (span, inner) =>
        (within dotted change path (.header span) inner).map fun inner =>
          entries.setNode key.name (.tables (elements.dropLast ++ [(span, inner)]))
    | some _ => none

structure Assignment where
  path : List Key
  key : Key
  value : Node

def Assignment.add (assignment : Assignment) (origin : Origin) (inner : Entries) :
    Option Entries :=
  if assignment.path ≠ [] ∧ origin ≠ .dotted then none
  else if (inner.node? assignment.key.name).isSome then none
  else some (inner.add assignment.key assignment.value)

def Assignment.place (assignment : Assignment) (origin : Origin) (entries : Entries) :
    Option Entries :=
  within true assignment.add assignment.path origin entries

def fill (origin : Origin) (entries : Entries) (assignments : List Assignment) : Option Entries :=
  assignments.foldlM (fun entries assignment => assignment.place origin entries) entries

structure Section where
  doubled : Bool
  path : List Key
  key : Key
  span : Span
  assignments : List Assignment

def Section.reach (part : Section) : Span :=
  match part.assignments.getLast?.bind fun assignment => assignment.value.span? with
  | some last => part.span.join last
  | none => part.span

def Section.write (part : Section) (outer : Entries) : Option Entries :=
  let origin := Origin.header part.reach
  match part.doubled, Entries.node? outer part.key.name with
  | false, none =>
    (fill origin [] part.assignments).map fun inner => outer.add part.key (.table origin inner)
  | false, some (.table .passage old) =>
    (fill origin old part.assignments).map fun inner =>
      (outer.without part.key.name).add part.key (.table origin inner)
  | true, none =>
    (fill origin [] part.assignments).map fun inner =>
      outer.add part.key (.tables [(part.reach, inner)])
  | true, some (.tables elements) =>
    (fill origin [] part.assignments).map fun inner =>
      outer.setNode part.key.name (.tables (elements ++ [(part.reach, inner)]))
  | _, some _ => none

def Section.place (part : Section) (root : Entries) : Option Entries :=
  within false (fun _ outer => part.write outer) part.path .passage root

def assemble (leading : List Assignment) (sections : List Section) : Option Entries :=
  (fill .passage [] leading).bind fun root =>
    sections.foldlM (fun root part => part.place root) root

end UrlHandoff.Document
