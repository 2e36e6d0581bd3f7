namespace UrlHandoff.Document

structure Date where
  year : Nat
  month : Nat
  day : Nat
  deriving DecidableEq, Repr

structure TimeOfDay where
  hour : Nat
  minute : Nat
  second : Nat
  nanosecond : Nat
  deriving DecidableEq, Repr

inductive Offset
  | universal
  | minutes (east : Int)
  deriving DecidableEq, Repr

inductive Moment
  | date (day : Date)
  | time (clock : TimeOfDay)
  | both (day : Date) (clock : TimeOfDay) (offset : Option Offset)
  deriving DecidableEq, Repr

def isLeapYear (year : Nat) : Bool :=
  year % 4 == 0 && (year % 100 != 0 || year % 400 == 0)

def daysInMonth (year month : Nat) : Nat :=
  if month = 2 then if isLeapYear year then 29 else 28
  else if month ∈ [4, 6, 9, 11] then 30
  else 31

def Date.isValid (date : Date) : Bool :=
  decide (1 ≤ date.month ∧ date.month ≤ 12 ∧ 1 ≤ date.day ∧
    date.day ≤ daysInMonth date.year date.month)

def TimeOfDay.isValid (time : TimeOfDay) : Bool :=
  decide (time.hour ≤ 23 ∧ time.minute ≤ 59 ∧ time.second ≤ 60)

def padded (width n : Nat) : List Char :=
  let digits := Nat.toDigits 10 n
  List.replicate (width - digits.length) '0' ++ digits

def Date.chars (date : Date) : List Char :=
  padded 4 date.year ++ '-' :: padded 2 date.month ++ '-' :: padded 2 date.day

def TimeOfDay.chars (time : TimeOfDay) : List Char :=
  let fraction := ((padded 9 time.nanosecond).reverse.dropWhile (· == '0')).reverse
  padded 2 time.hour ++ ':' :: padded 2 time.minute ++ ':' :: padded 2 time.second ++
    if fraction = [] then [] else '.' :: fraction

def Offset.chars : Offset → List Char
  | universal => ['Z']
  | minutes east =>
    (if east < 0 then '-' else '+') ::
      (padded 2 (east.natAbs / 60) ++ ':' :: padded 2 (east.natAbs % 60))

def Moment.chars : Moment → List Char
  | .date day => day.chars
  | .time clock => clock.chars
  | .both day clock offset =>
    day.chars ++ 'T' :: clock.chars ++ (offset.map Offset.chars).getD []

def Moment.text (moment : Moment) : String := String.ofList moment.chars

end UrlHandoff.Document
