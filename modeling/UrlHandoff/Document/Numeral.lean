import UrlHandoff.Document.Binary64
import UrlHandoff.Document.Reader

namespace UrlHandoff.Document

def digitTail (radix : Nat) : List Char → List Char × List Char
  | '_' :: c :: rest =>
    if isDigitIn radix c then
      let (digits, after) := digitTail radix rest
      (c :: digits, after)
    else ([], '_' :: c :: rest)
  | c :: rest =>
    if isDigitIn radix c then
      let (digits, after) := digitTail radix rest
      (c :: digits, after)
    else ([], c :: rest)
  | [] => ([], [])

def digitRun (radix : Nat) : Reader (List Char)
  | c :: rest =>
    if isDigitIn radix c then
      let (digits, after) := digitTail radix rest
      some (c :: digits, after)
    else none
  | [] => none

def sign : List Char → Bool × List Char
  | '-' :: rest => (true, rest)
  | '+' :: rest => (false, rest)
  | s => (false, s)

def wholeDigits : Reader (List Char)
  | '0' :: rest => some (['0'], rest)
  | s => digitRun 10 s

def signed (negative : Bool) (n : Nat) : Int := if negative then -n else n

def fitsWord (n : Int) : Bool :=
  decide (Int64.minValue.toInt ≤ n ∧ n ≤ Int64.maxValue.toInt)

def wordOf (n : Int) (rest : List Char) : Option (Int × List Char) :=
  if fitsWord n then some (n, rest) else none

def radixInteger (radix : Nat) (s : List Char) : Option (Int × List Char) :=
  (digitRun radix s).bind fun (digits, rest) => wordOf (numberOf radix digits) rest

def integer : Reader Int
  | '0' :: 'x' :: rest => radixInteger 16 rest
  | '0' :: 'o' :: rest => radixInteger 8 rest
  | '0' :: 'b' :: rest => radixInteger 2 rest
  | s =>
    let (negative, body) := sign s
    (wholeDigits body).bind fun (digits, rest) =>
      wordOf (signed negative (numberOf 10 digits)) rest

def exponent? : List Char → Option (Int × List Char)
  | c :: rest =>
    if c = 'e' ∨ c = 'E' then
      let (negative, body) := sign rest
      (digitRun 10 body).map fun (digits, rest) => (signed negative (numberOf 10 digits), rest)
    else none
  | [] => none

def floatTail : Reader (List Char × Int)
  | '.' :: rest =>
    (digitRun 10 rest).map fun (fraction, after) =>
      match exponent? after with
      | some (exponent, last) => ((fraction, exponent), last)
      | none => ((fraction, 0), after)
  | s => (exponent? s).map fun (exponent, rest) => (([], exponent), rest)

def float : Reader Binary64 := fun s =>
  match sign s with
  | (negative, 'i' :: 'n' :: 'f' :: rest) => some (.infinite negative, rest)
  | (_, 'n' :: 'a' :: 'n' :: rest) => some (.nan, rest)
  | (negative, body) =>
    (wholeDigits body).bind fun (whole, tail) =>
      (floatTail tail).bind fun ((fraction, exponent), rest) =>
        match Binary64.ofDecimal negative (numberOf 10 (whole ++ fraction))
            (exponent - fraction.length) with
        | .infinite false => none
        | value => some (value, rest)

end UrlHandoff.Document
