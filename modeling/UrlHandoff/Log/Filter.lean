import UrlHandoff.Log.Record
import UrlHandoff.Text.Alphanumeric
import UrlHandoff.Text.Blank

/-!
Which records are written. A filter is a list of directives separated by commas, such as
`target[span{field=value}]=level`, of which most parts may be missing. A directive that names a span
or the value of a field waits for spans, and the program has none. Of the other directives that
concern a record the most specific one decides.
-/

namespace UrlHandoff.Log

structure Condition where
  field : String
  pattern : Option String
  deriving DecidableEq, Repr

/-- No target stands for all targets, and no level for silence. -/
structure Directive where
  target : Option String
  span : Option String := none
  condition : Option Condition := none
  level : Option Level
  deriving DecidableEq, Repr

abbrev Filter := List Directive

def levelNames : List (String × Option Level) :=
  [("off", none), ("error", some .error), ("warn", some .warn), ("info", some .info),
   ("debug", some .debug), ("trace", some .trace)]

def levelNumbers : List (Nat × Option Level) :=
  [(0, none), (1, some .error), (2, some .warn), (3, some .info), (4, some .debug),
   (5, some .trace)]

def number? (s : List Char) : Option Nat :=
  let digits := if s.head? = some '+' then s.drop 1 else s
  if digits ≠ [] ∧ digits.all Char.isDigit then
    some (digits.foldl (fun n c => n * 10 + (c.toNat - '0'.toNat)) 0)
  else none

def level? (s : List Char) : Option (Option Level) :=
  match number? s with
  | some number => List.lookup number levelNumbers
  | none => List.lookup (String.ofList (s.map Char.toLower)) levelNames

def isDirectiveStart (c : Char) : Bool :=
  c == '-' || c == ':' || c == '_' || Text.isAlphanumeric c

abbrev IsPattern := String → Bool

def Condition.parse? (isPattern : IsPattern) (s : List Char) : Option Condition :=
  match s.splitOn '=' with
  | field :: value :: _ =>
    let pattern := String.ofList value
    if isPattern pattern then some ⟨String.ofList field, some pattern⟩ else none
  | _ => if s = [] then none else some ⟨String.ofList s, none⟩

namespace Directive

def levelFrom? (s : List Char) : Option (Option Level) :=
  if s = [] then some (some .trace) else level? s

def bracketed? (isPattern : IsPattern) (marked text : List Char) :
    Option (Option String × Option Condition × Nat) :=
  let name := marked.takeWhile fun c => c ≠ ']' && c ≠ '\x7b'
  let span := String.ofList (text.take name.length)
  match marked.drop name.length with
  | ']' :: _ => some (some span, none, name.length + 1)
  | '\x7b' :: inner =>
    let field := inner.takeWhile (· ≠ '\x7d')
    match inner.drop field.length with
    | '\x7d' :: ']' :: _ =>
      (Condition.parse? isPattern ((text.drop (name.length + 1)).take field.length)).map
        fun condition => (if name = [] then none else some span, some condition,
          name.length + field.length + 3)
    | _ => none
  | _ => none

/-- A level alone holds for all targets; a target alone is let through wholly. Blanks at the ends are
looked through for the marks of a directive, and then count as part of what stands there. -/
def parse? (isPattern : IsPattern) (s : List Char) : Option Directive :=
  let marked := Text.trim s
  let name := marked.takeWhile fun c => c ≠ '=' && c ≠ '['
  let target := if name = [] then none else some (String.ofList (s.take name.length))
  let next := name.length + 1
  if !(marked.head?.map fun c => c == '[' || isDirectiveStart c).getD false then none
  else
    match marked.drop name.length with
    | [] =>
      match level? s with
      | some level => some { target := none, level }
      | none => some { target := some (String.ofList s), level := some .trace }
    | '[' :: rest => do
      let (span, condition, reach) ← bracketed? isPattern rest (s.drop next)
      match rest.drop reach with
      | [] => some ⟨target, span, condition, some .trace⟩
      | '=' :: _ =>
        (levelFrom? (s.drop (next + reach + 1))).map fun level => ⟨target, span, condition, level⟩
      | _ => none
    | _ => (levelFrom? (s.drop next)).map fun level => { target, level }

def isStatic (directive : Directive) : Bool :=
  directive.span.isNone && (directive.condition.bind Condition.pattern).isNone

def concerns (directive : Directive) (record : Record) : Bool :=
  (directive.target.all fun start => start.toList.isPrefixOf record.target.toList) &&
    directive.condition.all fun condition => record.hasField condition.field

def weight (directive : Directive) : Nat × Nat :=
  ((directive.target.map fun start => start.utf8ByteSize + 1).getD 0,
    if directive.condition.isSome then 1 else 0)

def fieldName (directive : Directive) : String :=
  (directive.condition.map Condition.field).getD ""

/-- Of two directives that concern one record, the first is the more specific one. Two fields are
told apart by their names. -/
def outweighs (directive other : Directive) : Bool :=
  decide (other.weight.1 < directive.weight.1 ∨ other.weight.1 = directive.weight.1 ∧
    (other.weight.2 < directive.weight.2 ∨ other.weight.2 = directive.weight.2 ∧
      other.fieldName < directive.fieldName))

def allows (directive : Directive) (level : Level) : Bool :=
  match directive.level with
  | none => false
  | some most => decide (level.verbosity ≤ most.verbosity)

end Directive

namespace Filter

def deciding (filter : Filter) (record : Record) : Option Directive :=
  (filter.filter fun directive => directive.isStatic && directive.concerns record).foldl
    (fun best directive =>
      match best with
      | none => some directive
      | some old => if old.outweighs directive then some old else some directive)
    none

def allows (filter : Filter) (record : Record) : Bool :=
  match filter.deciding record with
  | none => false
  | some directive => directive.allows record.level

def errorsOnly : Filter := [{ target := none, level := some .error }]

def standard : Filter :=
  [{ target := none, level := some .info }, { target := some "weblaunch", level := some .debug }]

def parse? (isPattern : IsPattern) (s : List Char) : Option Filter :=
  (((s.splitOn ',').filter (· ≠ [])).mapM (Directive.parse? isPattern)).map fun directives =>
    if directives = [] then errorsOnly else directives

def ofVariable (isPattern : IsPattern) (text : Option String) : Filter :=
  (text.bind fun text => parse? isPattern text.toList).getD standard

end Filter

end UrlHandoff.Log
