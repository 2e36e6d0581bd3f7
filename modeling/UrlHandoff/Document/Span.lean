namespace UrlHandoff.Document

/-- A stretch of a text, given by how many characters of the text are left at its two ends. -/
structure Span where
  leftAtStart : Nat
  leftAtStop : Nat
  deriving DecidableEq, Repr

structure Position where
  line : Nat
  column : Nat
  deriving DecidableEq, Repr

def Position.after (before : List Char) : Position where
  line := before.count '\n' + 1
  column := (before.reverse.takeWhile (· ≠ '\n')).length + 1

namespace Span

def between (start stop : List Char) : Span := ⟨start.length, stop.length⟩

def offset (span : Span) (text : List Char) : Nat := text.length - span.leftAtStart

def position (span : Span) (text : List Char) : Position :=
  .after (text.take (span.offset text))

def join (first last : Span) : Span := ⟨first.leftAtStart, last.leftAtStop⟩

def content (span : Span) (text : List Char) : List Char :=
  (text.drop (span.offset text)).take (span.leftAtStart - span.leftAtStop)

end Span

end UrlHandoff.Document
