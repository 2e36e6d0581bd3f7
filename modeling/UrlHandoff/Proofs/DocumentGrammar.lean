import Mathlib.Algebra.Field.Rat
import Mathlib.Data.Bool.AllAny
import Mathlib.Data.Nat.Digits.Defs
import Mathlib.Logic.Function.Basic
import UrlHandoff.Proofs.DocumentContent
import UrlHandoff.Proofs.QuotedText

/-!
The texts of TOML documents, and what each of them says. The rules are those of TOML 1.0, and a
little wider: a byte order mark may stand at the start, and a dotted key may lead through a table
that stands on the way to one with a header, or through the last of several tables of one name, to a
table that dotted keys make there.
-/

namespace UrlHandoff.Document.Grammar

/-- How deep brackets and braces may nest, how many parts a dotted key may have, and whether a
decimal may round to infinity. -/
structure Limits where
  depth : Nat
  parts : Nat
  overflow : Bool

def Limits.reader : Limits := ⟨79, 79, false⟩

/-- The text is empty or begins with such a character. -/
def Ahead (Allowed : Char → Prop) (s : List Char) : Prop := ∀ c ∈ s.head?, Allowed c

section Ahead

variable {Allowed Other : Char → Prop} {c : Char} {s : List Char}

theorem ahead_nil : Ahead Allowed [] := nofun

theorem ahead_cons : Ahead Allowed (c :: s) ↔ Allowed c := by simp [Ahead]

theorem Ahead.imp (imp : ∀ c, Allowed c → Other c) (h : Ahead Allowed s) : Ahead Other s :=
  fun c head => imp c (h c head)

theorem Ahead.append (h : Ahead Allowed s) (nonempty : s ≠ []) (rest : List Char) :
    Ahead Allowed (s ++ rest) := by
  rwa [Ahead, List.head?_append_of_ne_nil _ nonempty]

end Ahead

def IsBlank (c : Char) : Prop := c = ' ' ∨ c = '\t'

instance : DecidablePred IsBlank := fun _ => inferInstanceAs (Decidable (_ ∨ _))

def Blanks (s : List Char) : Prop := ∀ c ∈ s, IsBlank c

def IsEnd (c : Char) : Prop := c = '\n' ∨ c = '\r'

instance : DecidablePred IsEnd := fun _ => inferInstanceAs (Decidable (_ ∨ _))

inductive Newline : List Char → Prop
  | feed : Newline ['\n']
  | pair : Newline ['\r', '\n']

inductive Comment : List Char → Prop
  | written {body : List Char} (shown : ∀ c ∈ body, IsShown c) : Comment ('#' :: body)

inductive Spaces : List Char → Prop
  | none : Spaces []
  | blank {c : Char} {s : List Char} (h : IsBlank c) (rest : Spaces s) : Spaces (c :: s)
  | newline {n s : List Char} (h : Newline n) (rest : Spaces s) : Spaces (n ++ s)

inductive Gap : List Char → Prop
  | none : Gap []
  | blank {c : Char} {s : List Char} (h : IsBlank c) (rest : Gap s) : Gap (c :: s)
  | newline {n s : List Char} (h : Newline n) (rest : Gap s) : Gap (n ++ s)
  | comment {w n s : List Char} (h : Comment w) (ends : Newline n) (rest : Gap s) :
      Gap (w ++ (n ++ s))

inductive LiteralText : List Char → String → Prop
  | written {body : List Char} (each : ∀ c ∈ body, IsShown c ∧ c ≠ '\'') :
      LiteralText ('\'' :: (body ++ ['\''])) (String.ofList body)

inductive LongBody : List Char → List Char → Prop
  | close {count : Nat} (few : count ≤ 2) :
      LongBody (List.replicate (count + 3) '"') (List.replicate count '"')
  | quote {w s : List Char} (apart : ¬['"', '"'] <+: w) (rest : LongBody w s) :
      LongBody ('"' :: w) ('"' :: s)
  | spelled {piece w s : List Char} {c : Char} (h : Spells piece c) (rest : LongBody w s) :
      LongBody (piece ++ w) (c :: s)
  | newline {n w s : List Char} (h : Newline n) (rest : LongBody w s) : LongBody (n ++ w) ('\n' :: s)
  /-- A backslash at the end of a line. -/
  | folded {gap w s : List Char} (spaces : Spaces gap) (breaks : '\n' ∈ gap)
      (stops : Ahead (fun c => ¬IsBlank c ∧ ¬IsEnd c) w) (rest : LongBody w s) :
      LongBody ('\\' :: (gap ++ w)) s

inductive LongLiteralBody : List Char → List Char → Prop
  | close {count : Nat} (few : count ≤ 2) :
      LongLiteralBody (List.replicate (count + 3) '\'') (List.replicate count '\'')
  | quote {w s : List Char} (apart : ¬['\'', '\''] <+: w) (rest : LongLiteralBody w s) :
      LongLiteralBody ('\'' :: w) ('\'' :: s)
  | itself {c : Char} {w s : List Char} (shown : IsShown c) (noQuote : c ≠ '\'')
      (rest : LongLiteralBody w s) : LongLiteralBody (c :: w) (c :: s)
  | newline {n w s : List Char} (h : Newline n) (rest : LongLiteralBody w s) :
      LongLiteralBody (n ++ w) ('\n' :: s)

/-- A line end straight after the opening quotes is dropped. -/
inductive Trims : List Char → List Char → Prop
  | trimmed {n body : List Char} (h : Newline n) : Trims (n ++ body) body
  | whole {body : List Char} (h : Ahead (¬IsEnd ·) body) : Trims body body

inductive StringText : List Char → String → Prop
  | basic {w : List Char} {s : String} (h : Quotes w s) : StringText w s
  | literal {w : List Char} {s : String} (h : LiteralText w s) : StringText w s
  | long {w body s : List Char} (trims : Trims w body) (h : LongBody body s) :
      StringText ('"' :: '"' :: '"' :: w) (String.ofList s)
  | longLiteral {w body s : List Char} (trims : Trims w body) (h : LongLiteralBody body s) :
      StringText ('\'' :: '\'' :: '\'' :: w) (String.ofList s)

def IsBare (c : Char) : Prop :=
  'A' ≤ c ∧ c ≤ 'Z' ∨ 'a' ≤ c ∧ c ≤ 'z' ∨ '0' ≤ c ∧ c ≤ '9' ∨ c = '_' ∨ c = '-'

instance : DecidablePred IsBare := fun _ => inferInstanceAs (Decidable (_ ∨ _))

inductive KeyPart : List Char → String → Prop
  | bare {name : List Char} (nonempty : name ≠ []) (each : ∀ c ∈ name, IsBare c) :
      KeyPart name (String.ofList name)
  | quoted {w : List Char} {name : String} (h : Quotes w name) : KeyPart w name
  | literal {w : List Char} {name : String} (h : LiteralText w name) : KeyPart w name

inductive KeyText : List Char → List String → Prop
  | last {b w a : List Char} {name : String} (before : Blanks b) (h : KeyPart w name)
      (after : Blanks a) : KeyText (b ++ (w ++ a)) [name]
  | point {b w a more : List Char} {name : String} {names : List String} (before : Blanks b)
      (h : KeyPart w name) (after : Blanks a) (rest : KeyText more names) :
      KeyText (b ++ (w ++ (a ++ '.' :: more))) (name :: names)

def digitValues : List (Char × Nat) :=
  [('0', 0), ('1', 1), ('2', 2), ('3', 3), ('4', 4), ('5', 5), ('6', 6), ('7', 7), ('8', 8),
   ('9', 9), ('a', 10), ('b', 11), ('c', 12), ('d', 13), ('e', 14), ('f', 15), ('A', 10),
   ('B', 11), ('C', 12), ('D', 13), ('E', 14), ('F', 15)]

def IsDigit (radix : Nat) (c : Char) (n : Nat) : Prop := (c, n) ∈ digitValues ∧ n < radix

def valueOf (radix : Nat) (digits : List Nat) : Nat := Nat.ofDigits radix digits.reverse

inductive DigitText (radix : Nat) : List Char → List Nat → Prop
  | last {c : Char} {n : Nat} (h : IsDigit radix c n) : DigitText radix [c] [n]
  | next {c : Char} {n : Nat} {w : List Char} {ns : List Nat} (h : IsDigit radix c n)
      (rest : DigitText radix w ns) : DigitText radix (c :: w) (n :: ns)
  | apart {c : Char} {n : Nat} {w : List Char} {ns : List Nat} (h : IsDigit radix c n)
      (rest : DigitText radix w ns) : DigitText radix (c :: '_' :: w) (n :: ns)

inductive WholeText : List Char → List Nat → Prop
  | zero : WholeText ['0'] [0]
  | positive {c : Char} {w : List Char} {ns : List Nat} (nonzero : c ≠ '0')
      (h : DigitText 10 (c :: w) ns) : WholeText (c :: w) ns

inductive SignText : List Char → Bool → Prop
  | none : SignText [] false
  | plus : SignText ['+'] false
  | minus : SignText ['-'] true

inductive IntegerText : List Char → Int → Prop
  | decimal {s w : List Char} {negative : Bool} {ns : List Nat} (sign : SignText s negative)
      (h : WholeText w ns) : IntegerText (s ++ w) (signed negative (valueOf 10 ns))
  | radix {mark : Char} {radix : Nat} {w : List Char} {ns : List Nat}
      (known : (mark, radix) ∈ [('x', 16), ('o', 8), ('b', 2)]) (h : DigitText radix w ns) :
      IntegerText ('0' :: mark :: w) (valueOf radix ns)

inductive ExponentText : List Char → Int → Prop
  | written {e : Char} {s w : List Char} {negative : Bool} {ns : List Nat} (mark : e = 'e' ∨ e = 'E')
      (sign : SignText s negative) (h : DigitText 10 w ns) :
      ExponentText (e :: (s ++ w)) (signed negative (valueOf 10 ns))

inductive FloatTail : List Char → List Nat → Int → Prop
  | fraction {w : List Char} {ns : List Nat} (h : DigitText 10 w ns) : FloatTail ('.' :: w) ns 0
  | exponent {w : List Char} {n : Int} (h : ExponentText w n) : FloatTail w [] n
  | both {w e : List Char} {ns : List Nat} {n : Int} (h : DigitText 10 w ns)
      (exponent : ExponentText e n) : FloatTail ('.' :: (w ++ e)) ns n

inductive FloatText (limits : Limits) : List Char → Binary64 → Prop
  | infinite {s : List Char} {negative : Bool} (sign : SignText s negative) :
      FloatText limits (s ++ ['i', 'n', 'f']) (.infinite negative)
  | nan {s : List Char} {negative : Bool} (sign : SignText s negative) :
      FloatText limits (s ++ ['n', 'a', 'n']) .nan
  | decimal {s w t : List Char} {negative : Bool} {whole fraction : List Nat} {exponent : Int}
      (sign : SignText s negative) (h : WholeText w whole) (tail : FloatTail t fraction exponent)
      (fits : limits.overflow = true ∨ negative = true ∨
        valueOf 10 (whole ++ fraction) * (10 : ℚ) ^ (exponent - fraction.length) <
          2 ^ 1024 - 2 ^ 970) :
      FloatText limits (s ++ (w ++ t)) (Binary64.ofDecimal negative
        (valueOf 10 (whole ++ fraction)) (exponent - fraction.length))

inductive FixedText (count : Nat) : List Char → Nat → Prop
  | written {w : List Char} {ns : List Nat} (h : List.Forall₂ (IsDigit 10) w ns)
      (length : w.length = count) : FixedText count w (valueOf 10 ns)

def daysIn (year month : Nat) : Nat :=
  if month = 2 then
    if year % 4 = 0 ∧ (year % 100 = 0 → year % 400 = 0) then 29 else 28
  else if month = 4 ∨ month = 6 ∨ month = 9 ∨ month = 11 then 30
  else 31

inductive DateText : List Char → Date → Prop
  | written {y m d : List Char} {year month day : Nat} (hy : FixedText 4 y year)
      (hm : FixedText 2 m month) (hd : FixedText 2 d day) (hmonth : 1 ≤ month ∧ month ≤ 12)
      (hday : 1 ≤ day ∧ day ≤ daysIn year month) :
      DateText (y ++ '-' :: (m ++ '-' :: d)) ⟨year, month, day⟩

/-- Parts of a second, of which nine digits count. -/
inductive PartText : List Char → Nat → Prop
  | none : PartText [] 0
  | written {w : List Char} {ns : List Nat} (h : List.Forall₂ (IsDigit 10) w ns) (some : ns ≠ []) :
      PartText ('.' :: w) (valueOf 10 (ns.take 9) * 10 ^ (9 - ns.length))

inductive TimeText : List Char → TimeOfDay → Prop
  | written {h m s p : List Char} {hour minute second nanosecond : Nat} (hh : FixedText 2 h hour)
      (hm : FixedText 2 m minute) (hs : FixedText 2 s second) (hp : PartText p nanosecond)
      (hhour : hour ≤ 23) (hminute : minute ≤ 59) (hsecond : second ≤ 60) :
      TimeText (h ++ ':' :: (m ++ ':' :: (s ++ p))) ⟨hour, minute, second, nanosecond⟩

inductive OffsetText : List Char → Offset → Prop
  | universal {z : Char} (mark : z = 'Z' ∨ z = 'z') : OffsetText [z] .universal
  | east {h m : List Char} {hour minute : Nat} (hh : FixedText 2 h hour) (hm : FixedText 2 m minute)
      (hhour : hour ≤ 23) (hminute : minute ≤ 59) :
      OffsetText ('+' :: (h ++ ':' :: m)) (.minutes (hour * 60 + minute))
  | west {h m : List Char} {hour minute : Nat} (hh : FixedText 2 h hour) (hm : FixedText 2 m minute)
      (hhour : hour ≤ 23) (hminute : minute ≤ 59) :
      OffsetText ('-' :: (h ++ ':' :: m)) (.minutes (-(hour * 60 + minute)))

inductive MomentText : List Char → Moment → Prop
  | date {w : List Char} {day : Date} (h : DateText w day) : MomentText w (.date day)
  | time {w : List Char} {clock : TimeOfDay} (h : TimeText w clock) : MomentText w (.time clock)
  | both {d t : List Char} {day : Date} {mark : Char} {clock : TimeOfDay} (h : DateText d day)
      (between : mark = 'T' ∨ mark = 't' ∨ mark = ' ') (time : TimeText t clock) :
      MomentText (d ++ mark :: t) (.both day clock none)
  | instant {d t o : List Char} {day : Date} {mark : Char} {clock : TimeOfDay} {offset : Offset}
      (h : DateText d day) (between : mark = 'T' ∨ mark = 't' ∨ mark = ' ') (time : TimeText t clock)
      (zone : OffsetText o offset) :
      MomentText (d ++ mark :: (t ++ o)) (.both day clock (some offset))

inductive ScalarText (limits : Limits) : List Char → Scalar → Prop
  | text {w : List Char} {s : String} (h : StringText w s) : ScalarText limits w (.text s)
  | integer {w : List Char} {n : Int} (h : IntegerText w n) (low : -2 ^ 63 ≤ n) (high : n < 2 ^ 63) :
      ScalarText limits w (.integer n)
  | float {w : List Char} {x : Binary64} (h : FloatText limits w x) : ScalarText limits w (.float x)
  | true : ScalarText limits ['t', 'r', 'u', 'e'] (.boolean true)
  | false : ScalarText limits ['f', 'a', 'l', 's', 'e'] (.boolean false)
  | moment {w : List Char} {t : Moment} (h : MomentText w t) : ScalarText limits w (.moment t)

inductive Kind
  | header
  | passage
  | dotted
  deriving DecidableEq

/-- What stands at a name while a document is put together. A value is closed. -/
inductive Tree
  | value (datum : Datum)
  | table (kind : Kind) (item? : String → Option Tree)
  | tables (elements : List (String → Option Tree))

abbrev Items := String → Option Tree

def Items.none : Items := fun _ => Option.none

def Items.set (items : Items) (name : String) (tree : Tree) : Items :=
  Function.update items name (some tree)

mutual

def Tree.datum : Tree → Datum
  | .value datum => datum
  | .table _ item? => .table fun name => optionDatum (item? name)
  | .tables elements => .sequence (tablesData elements)

def optionDatum : Option Tree → Option Datum
  | none => none
  | some tree => some tree.datum

def tablesData : List (String → Option Tree) → List Datum
  | [] => []
  | item? :: rest => .table (fun name => optionDatum (item? name)) :: tablesData rest

end

def Items.data (items : Items) : String → Option Datum := fun name => optionDatum (items name)

inductive Run {α β : Type} (Step : α → β → β → Prop) : List α → β → β → Prop
  | none {b : β} : Run Step [] b b
  | next {a : α} {rest : List α} {old between new : β} (h : Step a old between)
      (later : Run Step rest between new) : Run Step (a :: rest) old new

/-- A change at the end of a path. Tables that are missing on the way are made. A dotted key enters
no table that has a header, and of several tables of one name a path enters the last. -/
inductive Along (dotted : Bool) (Change : Kind → Items → Items → Prop) :
    List String → Kind → Items → Items → Prop
  | here {kind : Kind} {old new : Items} (h : Change kind old new) :
      Along dotted Change [] kind old new
  | made {name : String} {path : List String} {kind : Kind} {items new : Items}
      (absent : items name = none)
      (h : Along dotted Change path (if dotted then .dotted else .passage) .none new) :
      Along dotted Change (name :: path) kind items
        (items.set name (.table (if dotted then .dotted else .passage) new))
  | into {name : String} {path : List String} {kind inside : Kind} {items old new : Items}
      (held : items name = some (.table inside old)) (opened : dotted = true → inside ≠ .header)
      (h : Along dotted Change path inside old new) :
      Along dotted Change (name :: path) kind items (items.set name (.table inside new))
  | element {name : String} {path : List String} {kind : Kind} {items old new : Items}
      {elements : List Items} (held : items name = some (.tables (elements ++ [old])))
      (h : Along dotted Change path .header old new) :
      Along dotted Change (name :: path) kind items (items.set name (.tables (elements ++ [new])))

structure Field where
  path : List String
  name : String
  datum : Datum

inductive Field.Adds (field : Field) : Kind → Items → Items → Prop
  | added {kind : Kind} {items : Items} (own : field.path ≠ [] → kind = .dotted)
      (absent : items field.name = none) :
      Field.Adds field kind items (items.set field.name (.value field.datum))

def Fills (kind : Kind) : List Field → Items → Items → Prop :=
  Run fun field => Along true field.Adds field.path kind

structure Headed where
  doubled : Bool
  path : List String
  name : String
  fields : List Field

inductive Headed.Opens (part : Headed) : Kind → Items → Items → Prop
  | table {kind : Kind} {items new : Items} (single : part.doubled = false)
      (absent : items part.name = none) (h : Fills .header part.fields .none new) :
      Headed.Opens part kind items (items.set part.name (.table .header new))
  | passage {kind : Kind} {items old new : Items} (single : part.doubled = false)
      (held : items part.name = some (.table .passage old)) (h : Fills .header part.fields old new) :
      Headed.Opens part kind items (items.set part.name (.table .header new))
  | first {kind : Kind} {items new : Items} (doubled : part.doubled = true)
      (absent : items part.name = none) (h : Fills .header part.fields .none new) :
      Headed.Opens part kind items (items.set part.name (.tables [new]))
  | further {kind : Kind} {items new : Items} {elements : List Items} (doubled : part.doubled = true)
      (held : items part.name = some (.tables elements)) (h : Fills .header part.fields .none new) :
      Headed.Opens part kind items (items.set part.name (.tables (elements ++ [new])))

def Assembles (fields : List Field) (parts : List Headed) (items : Items) : Prop :=
  ∃ root, Fills .passage fields .none root ∧
    Run (fun part => Along false part.Opens part.path .passage) parts root items

inductive ArrayText (Value : List Char → Datum → Prop) : List Char → List Datum → Prop
  | none {g : List Char} (gap : Gap g) : ArrayText Value (g ++ [']']) []
  | last {g w g' : List Char} {datum : Datum} (gap : Gap g) (h : Value w datum) (gap' : Gap g') :
      ArrayText Value (g ++ (w ++ (g' ++ [']']))) [datum]
  | next {g w g' more : List Char} {datum : Datum} {data : List Datum} (gap : Gap g)
      (h : Value w datum) (gap' : Gap g') (rest : ArrayText Value more data) :
      ArrayText Value (g ++ (w ++ (g' ++ ',' :: more))) (datum :: data)

inductive FieldText (limits : Limits) (Value : List Char → Datum → Prop) : List Char → Field → Prop
  | written {k b w : List Char} {path : List String} {name : String} {datum : Datum}
      (key : KeyText k (path ++ [name])) (few : path.length < limits.parts) (blanks : Blanks b)
      (h : Value w datum) : FieldText limits Value (k ++ '=' :: (b ++ w)) ⟨path, name, datum⟩

inductive BraceText (Field : List Char → Field → Prop) : List Char → List Grammar.Field → Prop
  | last {w b : List Char} {field : Grammar.Field} (h : Field w field) (blanks : Blanks b) :
      BraceText Field (w ++ (b ++ ['\x7d'])) [field]
  | next {w b more : List Char} {field : Grammar.Field} {fields : List Grammar.Field}
      (h : Field w field) (blanks : Blanks b) (rest : BraceText Field more fields) :
      BraceText Field (w ++ (b ++ ',' :: more)) (field :: fields)

inductive NestText (limits : Limits) (Value : List Char → Datum → Prop) : List Char → Datum → Prop
  | array {w : List Char} {data : List Datum} (h : ArrayText Value w data) :
      NestText limits Value ('[' :: w) (.sequence data)
  | empty {b : List Char} (blanks : Blanks b) :
      NestText limits Value ('\x7b' :: (b ++ ['\x7d'])) (.table fun _ => none)
  | braces {w : List Char} {fields : List Field} {items : Items}
      (h : BraceText (FieldText limits Value) w fields) (filled : Fills .passage fields .none items) :
      NestText limits Value ('\x7b' :: w) (.table items.data)

def ValueText (limits : Limits) : Nat → List Char → Datum → Prop
  | 0, w, datum => ∃ value, ScalarText limits w value ∧ datum = .scalar value
  | depth + 1, w, datum =>
    (∃ value, ScalarText limits w value ∧ datum = .scalar value) ∨
      NestText limits (ValueText limits depth) w datum

inductive Statement
  | field (field : Field)
  | header (doubled : Bool) (path : List String) (name : String)

inductive HeaderText (limits : Limits) : List Char → Statement → Prop
  | single {k : List Char} {path : List String} {name : String} (key : KeyText k (path ++ [name]))
      (few : path.length < limits.parts) :
      HeaderText limits ('[' :: (k ++ [']'])) (.header false path name)
  | doubled {k : List Char} {path : List String} {name : String} (key : KeyText k (path ++ [name]))
      (few : path.length < limits.parts) :
      HeaderText limits ('[' :: '[' :: (k ++ [']', ']'])) (.header true path name)

inductive TailText : List Char → Prop
  | blanks {b : List Char} (h : Blanks b) : TailText b
  | comment {b w : List Char} (h : Blanks b) (comment : Comment w) : TailText (b ++ w)

inductive LineText (limits : Limits) : List Char → List Statement → Prop
  | empty {t : List Char} (tail : TailText t) : LineText limits t []
  | field {w t : List Char} {field : Field}
      (h : FieldText limits (ValueText limits limits.depth) w field) (tail : TailText t) :
      LineText limits (w ++ t) [.field field]
  | header {b w t : List Char} {statement : Statement} (blanks : Blanks b)
      (h : HeaderText limits w statement) (tail : TailText t) :
      LineText limits (b ++ (w ++ t)) [statement]

inductive LinesText (limits : Limits) : List Char → List Statement → Prop
  | last {w : List Char} {statements : List Statement} (h : LineText limits w statements) :
      LinesText limits w statements
  | next {w n more : List Char} {statements later : List Statement} (h : LineText limits w statements)
      (newline : Newline n) (rest : LinesText limits more later) :
      LinesText limits (w ++ (n ++ more)) (statements ++ later)

def Headed.statements (part : Headed) : List Statement :=
  .header part.doubled part.path part.name :: part.fields.map .field

/-- What a text says. -/
inductive Says (limits : Limits) : List Char → (String → Option Datum) → Prop
  | written {mark text : List Char} {fields : List Field} {parts : List Headed} {items : Items}
      (marked : mark = [] ∨ mark = ['\ufeff'])
      (lines : LinesText limits text (fields.map .field ++ parts.flatMap Headed.statements))
      (assembles : Assembles fields parts items) : Says limits (mark ++ text) items.data

end UrlHandoff.Document.Grammar
