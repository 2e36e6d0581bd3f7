import UrlHandoff.Text.Unprintable
import UrlHandoff.Text.GraphemeExtender

namespace UrlHandoff.Text

def isControl (c : Char) : Bool := decide (c.toNat < 0x20 ∨ 0x7F ≤ c.toNat ∧ c.toNat < 0xA0)

def isPlain (c : Char) : Bool :=
  !isControl c && !unprintable.contains c && !fillers.contains c && !graphemeExtenders.contains c

def codePointEscape (c : Char) : List Char :=
  ['\\', 'u', '\x7b'] ++ Nat.toDigits 16 c.toNat ++ ['\x7d']

def escape (c : Char) : List Char :=
  if c = '\x00' then ['\\', '0']
  else if c = '\t' then ['\\', 't']
  else if c = '\n' then ['\\', 'n']
  else if c = '\r' then ['\\', 'r']
  else if c = '"' then ['\\', '"']
  else if c = '\\' then ['\\', '\\']
  else if isPlain c then [c]
  else codePointEscape c

def escaped (s : List Char) : List Char := s.flatMap escape

def quoteChars (s : List Char) : List Char := '"' :: escaped s ++ ['"']

def quote (s : String) : String := String.ofList (quoteChars s.toList)

def quoteList (items : List String) : String :=
  "[" ++ String.intercalate ", " (items.map quote) ++ "]"

def quoteOption : Option String → String
  | none => "None"
  | some s => "Some(" ++ quote s ++ ")"

theorem escaped_nil : escaped [] = [] := rfl

theorem escaped_cons (c : Char) (s : List Char) : escaped (c :: s) = escape c ++ escaped s := rfl

theorem escaped_append (s t : List Char) : escaped (s ++ t) = escaped s ++ escaped t := by
  simp [escaped]

end UrlHandoff.Text
