import UrlHandoff.Text.Composition.Accent
import UrlHandoff.Text.Composition.Rank

namespace UrlHandoff.Text

structure Composite where
  base : Char
  mark : Char
  whole : Char

def Accent.table (accent : Accent) : List Composite :=
  List.zipWith (fun base whole => ⟨base, Char.ofNat accent.mark, whole⟩)
    accent.bases.toList accent.composites.toList

def composites : List Composite := accents.flatMap Accent.table

def takenApart : Nat → Char → List Char
  | 0, c => [c]
  | most + 1, c =>
    match composites.find? (·.whole == c) with
    | none => [c]
    | some composite => takenApart most composite.base ++ [composite.mark]

def decompose (s : List Char) : List Char := s.flatMap (takenApart 3)

def insertRanked (entry : Nat × Char) : List (Nat × Char) → List (Nat × Char)
  | [] => [entry]
  | next :: rest =>
    if 0 < next.1 ∧ next.1 < entry.1 then next :: insertRanked entry rest
    else entry :: next :: rest

def arrange (s : List Char) : List (Nat × Char) :=
  (s.map fun c => (rank c, c)).foldr insertRanked []

def between (low high : Nat) (c : Char) : Bool := decide (low ≤ c.toNat ∧ c.toNat ≤ high)

def syllable? (a b : Char) : Option Char :=
  if between 0x1100 0x1112 a && between 0x1161 0x1175 b then
    some (Char.ofNat (0xAC00 + ((a.toNat - 0x1100) * 21 + (b.toNat - 0x1161)) * 28))
  else if between 0xAC00 0xD7A3 a && (a.toNat - 0xAC00) % 28 == 0 && between 0x11A8 0x11C2 b then
    some (Char.ofNat (a.toNat + (b.toNat - 0x11A7)))
  else none

def whole? (a b : Char) : Option Char :=
  (syllable? a b).or
    ((composites.find? fun composite => composite.base == a && composite.mark == b).map (·.whole))

def absorb (letter : Char) (passed : Nat) : List (Nat × Char) → Char × List Char
  | [] => (letter, [])
  | (rank, c) :: rest =>
    match if 0 < passed ∧ rank ≤ passed then none else whole? letter c with
    | some whole => absorb whole passed rest
    | none =>
      if rank = 0 then
        let (next, behind) := absorb c 0 rest
        (letter, next :: behind)
      else
        let (letter, behind) := absorb letter rank rest
        (letter, c :: behind)

def compose (s : List Char) : List Char :=
  match arrange (decompose s) with
  | [] => []
  | (_, c) :: rest =>
    let (letter, behind) := absorb c 0 rest
    letter :: behind

end UrlHandoff.Text
