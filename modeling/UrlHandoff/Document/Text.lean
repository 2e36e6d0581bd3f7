import UrlHandoff.Document.Value

namespace UrlHandoff.Document

inductive Line
  | empty
  | header (doubled : Bool) (path : List Key) (key : Key) (span : Span)
  | assignment (line : Assignment)

def header : Reader (Bool × List Key × Key)
  | '[' :: '[' :: rest =>
    match dottedKey rest with
    | some ((path, key), ']' :: ']' :: rest) => some ((true, path, key), rest)
    | _ => none
  | '[' :: rest =>
    match dottedKey rest with
    | some ((path, key), ']' :: rest) => some ((false, path, key), rest)
    | _ => none
  | _ => none

def line : Reader Line := fun s =>
  match skipSpaces s with
  | [] => some (.empty, [])
  | c :: rest =>
    if c = '#' ∨ (newline? (c :: rest)).isSome then some (.empty, c :: rest)
    else if c = '[' then
      withSpan header (fun (doubled, path, key) span => .header doubled path key span) (c :: rest)
    else
      (Document.assignment (value (depthLimit - 1)) (c :: rest)).map fun (item, rest) =>
        (.assignment item, rest)

def lines (s : List Char) : Option (List Line) :=
  if s = [] then some []
  else
    match line s with
    | none => none
    | some (first, rest) =>
      match endLine? rest with
      | none => none
      | some next =>
        if next.length < s.length then (lines next).map (first :: ·) else none
termination_by s.length

def divide : List Line → List Assignment × List Section
  | [] => ([], [])
  | .empty :: rest => divide rest
  | .assignment item :: rest =>
    let (leading, sections) := divide rest
    (item :: leading, sections)
  | .header doubled path key span :: rest =>
    let (leading, sections) := divide rest
    ([], ⟨doubled, path, key, span, leading⟩ :: sections)

def withoutMark : List Char → List Char
  | '\ufeff' :: rest => rest
  | s => s

def parse (text : List Char) : Option Entries :=
  (lines (withoutMark text)).bind fun lines =>
    let (leading, sections) := divide lines
    assemble leading sections

end UrlHandoff.Document
