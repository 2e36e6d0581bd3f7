import UrlHandoff.Text.Octets

namespace UrlHandoff.Url

abbrev EncodeSet := Char → Bool

def isC0OrDelete (c : Char) : Bool := decide (c.toNat < 0x20) || c == '\x7f'

def fragmentSet : EncodeSet := fun c => isC0OrDelete c || " \"<>`".toList.contains c

def querySet : EncodeSet := fun c => isC0OrDelete c || " \"#<>".toList.contains c

def specialQuerySet : EncodeSet := fun c => querySet c || c == '\''

def pathSet : EncodeSet := fun c => fragmentSet c || "#?\x7b\x7d".toList.contains c

def userSet : EncodeSet := fun c => pathSet c || "/:;=@[\\]^|".toList.contains c

def componentSet : EncodeSet := fun c => pathSet c || "/%\\".toList.contains c

def hexDigit (n : Nat) : Char := (Nat.digitChar n).toUpper

def encodeOctet (b : UInt8) : List Char := ['%', hexDigit (b.toNat / 16), hexDigit (b.toNat % 16)]

def encodeChar (encoded : EncodeSet) (c : Char) : List Char :=
  if c.toNat < 0x80 ∧ !encoded c then [c] else (String.utf8EncodeChar c).flatMap encodeOctet

def percentEncode (encoded : EncodeSet) (s : List Char) : List Char :=
  s.flatMap (encodeChar encoded)

def hexValue? (c : Char) : Option Nat :=
  if '0' ≤ c ∧ c ≤ '9' then some (c.toNat - '0'.toNat)
  else if 'a' ≤ c ∧ c ≤ 'f' then some (c.toNat - 'a'.toNat + 10)
  else if 'A' ≤ c ∧ c ≤ 'F' then some (c.toNat - 'A'.toNat + 10)
  else none

def percentDecode : List Char → Octets
  | '%' :: a :: b :: rest =>
    match hexValue? a, hexValue? b with
    | some high, some low => (high * 16 + low).toUInt8 :: percentDecode rest
    | _, _ => String.utf8EncodeChar '%' ++ percentDecode (a :: b :: rest)
  | c :: rest => String.utf8EncodeChar c ++ percentDecode rest
  | [] => []

end UrlHandoff.Url
