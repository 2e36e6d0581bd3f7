import UrlHandoff.CommandLine.Refusal

/-!
The arguments of the program: one option with a value, given at most once, and any number of other
words. A double dash ends the options. An option's value may follow as a word of its own, but then
it does not begin with a dash, unless it is a single one.

What has been read last is still pending: it is accepted, and its text looked at, when the next
option begins, when a word of another sort comes, or at the end.
-/

namespace UrlHandoff.CommandLine

structure Arguments where
  url : Option String := none
  rest : List String := []
  deriving DecidableEq, Repr

namespace Arguments

def describe (arguments : Arguments) : String :=
  "Cli \x7b url: " ++ Text.quoteOption arguments.url ++ ", rest: " ++
    Text.quoteList arguments.rest ++ " \x7d"

end Arguments

inductive Pending
  | nothing
  | url
  | value (octets : Octets)
  | words (octets : List Octets)
  deriving DecidableEq, Repr

structure Scan where
  accepted : Arguments := {}
  pending : Pending := .nothing
  deriving DecidableEq, Repr

namespace Scan

/-- The options that count as given once it has been tried to accept what is pending. A second URL
takes the first one away with it. -/
def given (scan : Scan) : List LongOption :=
  match scan.pending with
  | .value _ => if scan.accepted.url.isSome then [] else [.url]
  | _ => if scan.accepted.url.isSome then [.url] else []

def acceptUrl (arguments : Arguments) (value : Octets) : Except Refusal Arguments :=
  if arguments.url.isSome then .error .urlRepeated
  else
    match value.text? with
    | none => .error .notText
    | some url => .ok { arguments with url := some url }

def acceptWords (arguments : Arguments) (words : List Octets) : Except Refusal Arguments :=
  match words.mapM Octets.text? with
  | none => .error .notText
  | some texts => .ok { arguments with rest := arguments.rest ++ texts }

def settle (scan : Scan) : Except Refusal Arguments :=
  match scan.pending with
  | .nothing => .ok scan.accepted
  | .url => .error .valueMissing
  | .value octets => acceptUrl scan.accepted octets
  | .words octets => acceptWords scan.accepted octets

def urlOption (scan : Scan) (value : Option Octets) : Except Refusal Scan :=
  match scan.settle with
  | .error refusal => .error refusal
  | .ok accepted =>
    match value with
    | none => .ok ⟨accepted, .url⟩
    | some octets =>
      match acceptUrl accepted octets with
      | .error refusal => .error refusal
      | .ok accepted => .ok ⟨accepted, .nothing⟩

def helpOption (scan : Scan) : Refusal :=
  match scan.settle with
  | .error refusal => refusal
  | .ok _ => .helpAsked

def unknownLong (scan : Scan) (name : String) : Refusal :=
  .unknown ("--" ++ name) (LongOption.similarTo name) scan.given

def dash : UInt8 := 0x2D

def equals : UInt8 := 0x3D

def long (scan : Scan) (body : Octets) : Except Refusal Scan :=
  let name : Octets := body.takeWhile (· ≠ equals)
  let value : Option Octets :=
    if equals ∈ body then some ((body.dropWhile (· ≠ equals)).drop 1) else none
  match name.text? with
  | none => .error (scan.unknownLong name.lossyText)
  | some name =>
    match LongOption.ofName? name with
    | none => .error (scan.unknownLong name)
    | some .url => scan.urlOption value
    | some .help =>
      match value with
      | none => .error scan.helpOption
      | some octets => .error (.helpValue octets.lossyText (scan.accepted = {}))

def short (scan : Scan) (body : Octets) : Except Refusal Scan :=
  match body.uncons? with
  | none => .error (.unknown ("-" ++ body.lossyText) none [])
  | some (letter, rest) =>
    if letter = 'u' then
      scan.urlOption
        (if rest = [] then none
          else if rest.head? = some equals then some (rest.drop 1) else some rest)
    else if letter = 'h' then .error scan.helpOption
    else .error (.unknown ("-" ++ letter.toString) none [])

def word (scan : Scan) (octets : Octets) : Except Refusal Scan :=
  match scan.pending with
  | .words earlier => .ok ⟨scan.accepted, .words (earlier ++ [octets])⟩
  | _ =>
    match scan.settle with
    | .error refusal => .error refusal
    | .ok accepted => .ok ⟨accepted, .words [octets]⟩

def token (scan : Scan) (octets : Octets) : Except Refusal Scan :=
  match octets with
  | 0x2D :: 0x2D :: body => scan.long body
  | 0x2D :: first :: body => scan.short (first :: body)
  | _ =>
    if scan.pending = .url then .ok { scan with pending := .value octets } else scan.word octets

def words (scan : Scan) : List Octets → Except Refusal Scan
  | [] => .ok scan
  | octets :: rest =>
    match scan.word octets with
    | .error refusal => .error refusal
    | .ok next => next.words rest

def escape : Octets := [dash, dash]

def tokens (scan : Scan) : List Octets → Except Refusal Scan
  | [] => .ok scan
  | octets :: rest =>
    if octets = escape then scan.words rest
    else
      match scan.token octets with
      | .error refusal => .error refusal
      | .ok next => next.tokens rest

end Scan

def parse (octets : List Octets) : Except Refusal Arguments :=
  match ({} : Scan).tokens octets with
  | .error refusal => .error refusal
  | .ok scan => scan.settle

end UrlHandoff.CommandLine
