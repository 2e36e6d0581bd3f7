import UrlHandoff.Url.Percent

namespace UrlHandoff.Url

def radixValue (radix : Nat) (digits : List Char) : Option Nat :=
  digits.foldlM
    (fun n c => (hexValue? c).bind fun d => if d < radix then some (n * radix + d) else none) 0

def part4 : List Char → Option Nat
  | [] => none
  | '0' :: 'x' :: digits => radixValue 16 digits
  | '0' :: 'X' :: digits => radixValue 16 digits
  | '0' :: c :: digits => radixValue 8 (c :: digits)
  | digits => radixValue 10 digits

def dottedParts (s : List Char) : List (List Char) :=
  let parts := s.splitOn '.'
  if parts.getLast? = some [] then parts.dropLast else parts

def endsInNumber (s : List Char) : Bool :=
  match (dottedParts s).getLast? with
  | none => false
  | some last => (last != [] && last.all Char.isDigit) || (part4 last).isSome

def address4 (s : List Char) : Option Nat := do
  let parts := dottedParts s
  if parts.length > 4 then none
  else
    let numbers ← parts.mapM part4
    let last ← numbers.getLast?
    let leading := numbers.dropLast
    if leading.any (· > 255) ∨ Nat.pow 256 (4 - leading.length) ≤ last then none
    else
      some (leading.foldl (fun n octet => n * 256 + octet) 0 *
        Nat.pow 256 (4 - leading.length) + last)

def decimal (n : Nat) : List Char := Nat.toDigits 10 n

def address4Text (n : Nat) : List Char :=
  List.intercalate ['.'] ([n >>> 24, n >>> 16 % 256, n >>> 8 % 256, n % 256].map decimal)

def group6 (s : List Char) : Option Nat :=
  if s = [] ∨ s.length > 4 then none else radixValue 16 s

def octet4 (s : List Char) : Option Nat :=
  if s = [] ∨ (s.head? = some '0' ∧ s.length > 1) then none
  else (radixValue 10 s).filter (· ≤ 255)

def tail6 (s : List Char) : Option (List Nat) :=
  match (s.splitOn '.').mapM octet4 with
  | some [a, b, c, d] => some [a * 256 + b, c * 256 + d]
  | _ => none

def groups6 (s : List Char) : Option (List Nat) :=
  if s = [] then some []
  else
    let parts := s.splitOn ':'
    let last := (parts.getLast?).getD []
    (parts.dropLast.mapM group6).bind fun leading =>
      if last.contains '.' then (tail6 last).map fun groups => leading ++ groups
      else (group6 last).map fun group => leading ++ [group]

def splitDouble : List Char → Option (List Char × List Char)
  | ':' :: ':' :: rest => some ([], rest)
  | c :: rest => (splitDouble rest).map fun (before, after) => (c :: before, after)
  | [] => none

def address6 (s : List Char) : Option (List Nat) :=
  match splitDouble s with
  | none => (groups6 s).filter (·.length = 8)
  | some (before, after) =>
    if before.contains '.' then none
    else
      (groups6 before).bind fun left =>
        (groups6 after).bind fun right =>
          if left.length + right.length ≤ 7 then
            some (left ++ List.replicate (8 - left.length - right.length) 0 ++ right)
          else none

def zeroRun (groups : List Nat) : Nat := (groups.takeWhile (· = 0)).length

def longestZeros (groups : List Nat) : Nat × Nat :=
  (List.range groups.length).foldl
    (fun best start =>
      let length := zeroRun (groups.drop start)
      if length > best.2 then (start, length) else best)
    (0, 0)

def joinGroups (groups : List Nat) : List Char :=
  List.intercalate [':'] (groups.map (Nat.toDigits 16))

def address6Text (groups : List Nat) : List Char :=
  let (start, length) := longestZeros groups
  if length < 2 then joinGroups groups
  else joinGroups (groups.take start) ++ [':', ':'] ++ joinGroups (groups.drop (start + length))

end UrlHandoff.Url
