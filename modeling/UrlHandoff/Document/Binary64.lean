/-!
Double-precision numbers read from decimals and written back as decimals. Reading takes the nearest
number, of two equally near ones that with the even significand. Writing takes the fewest digits
that read back as the number, of several such decimals the nearest, of two equally near ones the
one farther from zero, and uses no exponent.
-/

namespace UrlHandoff.Document

/-- A finite number is `significand * 2 ^ exponent`, with a significand below `2 ^ 53`. -/
inductive Binary64
  | finite (negative : Bool) (significand : Nat) (exponent : Int)
  | infinite (negative : Bool)
  | nan
  deriving DecidableEq, Repr

namespace Binary64

def roundDiv (num den : Nat) : Nat :=
  let quotient := num / den
  let twice := 2 * (num % den)
  if twice < den ∨ (twice = den ∧ quotient % 2 = 0) then quotient else quotient + 1

def roundHalfUp (num den : Nat) : Nat := (2 * num + den) / (2 * den)

def floorLog2 (num den : Nat) : Int :=
  let guess : Int := (Nat.log2 num : Int) - (Nat.log2 den : Int)
  if den <<< guess.toNat ≤ num <<< (-guess).toNat then guess else guess - 1

def ofRatio (negative : Bool) (num den : Nat) : Binary64 :=
  if num = 0 then finite negative 0 0
  else
    let exponent := max (floorLog2 num den - 52) (-1074)
    let significand := roundDiv (num <<< (-exponent).toNat) (den <<< exponent.toNat)
    let (significand, exponent) :=
      if significand = 1 <<< 53 then (1 <<< 52, exponent + 1) else (significand, exponent)
    if exponent > 971 then infinite negative else finite negative significand exponent

def digitCount (n : Nat) : Nat := (Nat.toDigits 10 n).length

def ofDecimal (negative : Bool) (digits : Nat) (scale : Int) : Binary64 :=
  if digits = 0 then finite negative 0 0
  else if (digitCount digits : Int) + scale > 400 then infinite negative
  else if (digitCount digits : Int) + scale < -400 then finite negative 0 0
  else ofRatio negative (digits * Nat.pow 10 scale.toNat) (Nat.pow 10 (-scale).toNat)

def ceilLog10 (num den : Nat) : Int :=
  if den ≤ num then (digitCount (num / den) : Int)
  else -((List.range 400).findIdx fun zeros => decide (den ≤ num * Nat.pow 10 (zeros + 1)) : Nat)

def onGrid (low num high den : Nat) (closed : Bool) (unit : Int) : Option Nat :=
  let den := den * Nat.pow 10 unit.toNat
  let scale := Nat.pow 10 (-unit).toNat
  let num := num * scale
  let inside (multiple : Nat) : Bool :=
    if closed then decide (low * scale ≤ multiple * den ∧ multiple * den ≤ high * scale)
    else decide (low * scale < multiple * den ∧ multiple * den < high * scale)
  let below := num / den
  let rounded := roundHalfUp num den
  let other := if rounded = below then below + 1 else below
  if inside rounded then some rounded else if inside other then some other else none

def shortest (significand : Nat) (exponent : Int) : Nat × Int :=
  let power := exponent - 2
  let num := (4 * significand) <<< power.toNat
  let den := 1 <<< (-power).toNat
  let gap := 1 <<< power.toNat
  let low := if significand = 1 <<< 52 ∧ exponent ≠ -1074 then num - gap else num - 2 * gap
  let high := num + 2 * gap
  let top := ceilLog10 num den
  let attempt (count : Nat) : Option (Nat × Int) :=
    let unit := top - ((count : Int) + 1)
    (onGrid low num high den (significand % 2 = 0) unit).map fun digits =>
      if digits % 10 = 0 then (digits / 10, unit + 1) else (digits, unit)
  ((List.range 17).findSome? attempt).getD (significand, exponent)

def positional (digits : Nat) (scale : Int) : List Char :=
  let text := Nat.toDigits 10 digits
  if 0 ≤ scale then text ++ List.replicate scale.toNat '0' ++ ['.', '0']
  else
    let places := (-scale).toNat
    let padded := List.replicate (places + 1 - text.length) '0' ++ text
    padded.take (padded.length - places) ++ '.' :: padded.drop (padded.length - places)

def text : Binary64 → String
  | nan => "NaN"
  | infinite negative => if negative then "-inf" else "inf"
  | finite negative significand exponent =>
    let (digits, scale) := if significand = 0 then (0, 0) else shortest significand exponent
    (if negative then "-" else "") ++ String.ofList (positional digits scale)

end Binary64

end UrlHandoff.Document
