/-!
How alike two words are, by Jaro's measure. Two characters match if they are equal and not too far
apart, each character at most once; the measure is the mean of the matched shares of both words and
of the share of matches that come in the same order.
-/

namespace UrlHandoff.CommandLine

structure Ratio where
  num : Nat
  den : Nat
  deriving DecidableEq, Repr

namespace Ratio

def exceeds (a b : Ratio) : Bool := decide (b.num * a.den < a.num * b.den)

end Ratio

def reach (a b : List Char) : Nat := max a.length b.length / 2 - 1

/-- Takes the first free place in the window from `low` up to but not including `high` that holds
the character. Each place holds a character and whether it is taken; `place` is the number of the
first. -/
def takeMatch (c : Char) (low high : Nat) :
    Nat → List (Char × Bool) → Option (List (Char × Bool))
  | _, [] => none
  | place, (d, taken) :: rest =>
    if low ≤ place ∧ place < high ∧ c = d ∧ !taken then some ((d, true) :: rest)
    else (takeMatch c low high (place + 1) rest).map ((d, taken) :: ·)

def matching (reach : Nat) : Nat → List Char → List (Char × Bool) → List Char × List (Char × Bool)
  | _, [], places => ([], places)
  | place, c :: rest, places =>
    match takeMatch c (place - reach) (place + reach + 1) 0 places with
    | none => matching reach (place + 1) rest places
    | some marked =>
      let (matched, last) := matching reach (place + 1) rest marked
      (c :: matched, last)

def jaro (a b : List Char) : Ratio :=
  let (left, places) := matching (reach a b) 0 a (b.map fun c => (c, false))
  let right := (places.filter (·.2)).map (·.1)
  let count := left.length
  if count = 0 then ⟨0, 1⟩
  else
    let unordered := ((left.zip right).filter fun pair => pair.1 ≠ pair.2).length / 2
    ⟨count * count * b.length + count * count * a.length +
        (count - unordered) * a.length * b.length,
      3 * a.length * b.length * count⟩

end UrlHandoff.CommandLine
