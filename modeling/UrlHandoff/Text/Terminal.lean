/-!
Text without what would steer a terminal: control characters other than blanks and line ends are
left out, and with an escape character the whole sequence that it begins.
-/

namespace UrlHandoff.Text

inductive Place
  | outside
  | begun
  | prepared
  | parameters
  | title
  | device
  | deviceNumbers
  | devicePrepared
  | message
  deriving DecidableEq, Repr

def isBlankControl (c : Char) : Bool := c == '\t' || c == '\n' || c == '\x0c' || c == '\r'

def isCancel (c : Char) : Bool := c == '\x18' || c == '\x1a'

def isAmong (first last : Char) (c : Char) : Bool := decide (first ≤ c ∧ c ≤ last)

def isVisible (c : Char) : Bool :=
  isAmong ' ' '~' c || isBlankControl c || decide (0x80 ≤ c.toNat)

def holdsTerminator (c : Char) : Bool := (String.utf8EncodeChar c).contains 0x9c

namespace Place

def after (place : Place) (c : Char) : Place :=
  if c = '\x1b' then .begun
  else if isCancel c then .outside
  else
    match place with
    | .outside => .outside
    | .begun =>
      if isAmong ' ' '/' c then .prepared
      else if c = '[' then .parameters
      else if c = ']' then .title
      else if c = 'P' then .device
      else if c = 'X' ∨ c = '^' ∨ c = '_' then .message
      else if isAmong '0' '~' c then .outside
      else .begun
    | .prepared => if isAmong '0' '~' c then .outside else .prepared
    | .parameters => if isAmong '@' '~' c then .outside else .parameters
    | .title => if c = '\x07' then .outside else .title
    | .device =>
      if isAmong ' ' '/' c then .devicePrepared
      else if isAmong '0' '?' c then .deviceNumbers
      else if isAmong '@' '~' c then .message
      else .device
    | .deviceNumbers =>
      if isAmong ' ' '/' c then .devicePrepared
      else if isAmong '<' '~' c then .message
      else .deviceNumbers
    | .devicePrepared => if isAmong '0' '~' c then .message else .devicePrepared
    | .message => if holdsTerminator c then .outside else .message

def shows (place : Place) (c : Char) : Bool :=
  match place with
  | .outside => isVisible c
  | .begun | .prepared | .parameters => isBlankControl c
  | _ => false

end Place

inductive Interruption
  | ends
  | pauses
  deriving DecidableEq, Repr

def Interruption.placeAfter (interruption : Interruption) (place : Place) (c : Char) : Place :=
  if interruption = pauses ∧ c.toNat < 0x80 then place else .outside

def shownChars (interruption : Interruption) (place : Place) (running : Bool) :
    List Char → List Char
  | [] => []
  | c :: rest =>
    if (running && isVisible c) || place.shows c then
      c :: shownChars interruption (interruption.placeAfter place c) true rest
    else shownChars interruption (place.after c) false rest

def shown (interruption : Interruption) (s : String) : String :=
  String.ofList (shownChars interruption .outside false s.toList)

end UrlHandoff.Text
