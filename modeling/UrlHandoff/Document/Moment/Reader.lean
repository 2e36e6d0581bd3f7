import UrlHandoff.Document.Moment
import UrlHandoff.Document.Reader

namespace UrlHandoff.Document

def date : Reader Date := fun s => do
  let (year, s) ← fixedDigits 10 4 s
  let s ← expect '-' s
  let (month, s) ← fixedDigits 10 2 s
  let s ← expect '-' s
  let (day, s) ← fixedDigits 10 2 s
  let date : Date := ⟨year, month, day⟩
  if date.isValid then some (date, s) else none

def nanoseconds (digits : List Char) : Nat :=
  let kept := digits.take 9
  numberOf 10 kept * Nat.pow 10 (9 - kept.length)

def fraction : List Char → Nat × List Char
  | '.' :: c :: rest =>
    if isDigitIn 10 c then
      let digits := c :: rest.takeWhile (isDigitIn 10)
      (nanoseconds digits, rest.dropWhile (isDigitIn 10))
    else (0, '.' :: c :: rest)
  | s => (0, s)

def timeOfDay : Reader TimeOfDay := fun s => do
  let (hour, s) ← fixedDigits 10 2 s
  let s ← expect ':' s
  let (minute, s) ← fixedDigits 10 2 s
  let s ← expect ':' s
  let (second, s) ← fixedDigits 10 2 s
  let (nanosecond, s) := fraction s
  let time : TimeOfDay := ⟨hour, minute, second, nanosecond⟩
  if time.isValid then some (time, s) else none

def offset? : List Char → Option (Offset × List Char)
  | 'Z' :: rest => some (.universal, rest)
  | 'z' :: rest => some (.universal, rest)
  | c :: rest =>
    if c = '+' ∨ c = '-' then do
      let (hour, s) ← fixedDigits 10 2 rest
      let s ← expect ':' s
      let (minute, s) ← fixedDigits 10 2 s
      let east : Int := hour * 60 + minute
      if hour ≤ 23 ∧ minute ≤ 59 then some (.minutes (if c = '-' then -east else east), s)
      else none
    else none
  | [] => none

def isTimeMark (c : Char) : Bool := c == 'T' || c == 't' || c == ' '

def afterDate (day : Date) : List Char → Moment × List Char
  | c :: rest =>
    match (if isTimeMark c then timeOfDay rest else none) with
    | none => (.date day, c :: rest)
    | some (clock, rest) =>
      match offset? rest with
      | none => (.both day clock none, rest)
      | some (offset, rest) => (.both day clock (some offset), rest)
  | [] => (.date day, [])

def moment : Reader Moment := fun s =>
  match date s with
  | some (day, rest) => some (afterDate day rest)
  | none => (timeOfDay s).map fun (clock, rest) => (.time clock, rest)

end UrlHandoff.Document
