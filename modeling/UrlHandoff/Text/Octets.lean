/-!
Text as it reaches a program from outside: octets that are expected to be UTF-8. `text?` reads
them strictly; `lossyText` replaces each longest broken piece by U+FFFD.
-/

namespace UrlHandoff

abbrev Octets := List UInt8

namespace Octets

def ofText (s : String) : Octets := s.toUTF8.data.toList

def text? (octets : Octets) : Option String := String.fromUTF8? ⟨octets.toArray⟩

theorem text?_ofText (s : String) : text? (ofText s) = some s := by
  simp [text?, ofText, String.fromUTF8?, String.fromUTF8, s.isValidUTF8]

theorem text?_eq_some_iff {octets : Octets} {s : String} :
    text? octets = some s ↔ octets = ofText s := by
  constructor
  · intro h
    simp only [text?, String.fromUTF8?, String.fromUTF8] at h
    split at h
    · cases h
      simp [ofText, String.toUTF8]
    · cases h
  · rintro rfl
    exact text?_ofText s

theorem text?_eq_none_iff {octets : Octets} :
    text? octets = none ↔ ∀ s, octets ≠ ofText s := by
  simp only [Option.eq_none_iff_forall_ne_some, ne_eq, text?_eq_some_iff]

theorem ofText_eq_flatMap (s : String) : ofText s = s.toList.flatMap String.utf8EncodeChar := by
  simp [ofText, ← String.utf8Encode_toList, List.utf8Encode]

theorem ofText_append (s t : String) : ofText (s ++ t) = ofText s ++ ofText t := by
  simp only [ofText_eq_flatMap, String.toList_append, List.flatMap_append]

theorem ofText_injective {s t : String} (h : ofText s = ofText t) : s = t :=
  Option.some.inj (by rw [← text?_ofText s, h, text?_ofText])

theorem utf8EncodeChar_of_ascii {c : Char} {b : UInt8} {rest : Octets} (hb : b < 0x80)
    (h : String.utf8EncodeChar c = b :: rest) : c = Char.ofNat b.toNat ∧ rest = [] := by
  have hb : b.toNat < 128 := hb
  unfold String.utf8EncodeChar at h
  dsimp only at h
  split at h
  · next small =>
    obtain ⟨rfl, rfl⟩ := List.cons.inj h
    refine ⟨?_, rfl⟩
    rw [UInt8.toNat_ofNat', Nat.mod_eq_of_lt (by omega)]
    exact (Char.ofNat_toNat c).symm
  · have big : ∀ n, 128 ≤ n → n < 256 → UInt8.ofNat n ≠ b := by
      rintro n hn hn' rfl
      rw [UInt8.toNat_ofNat', Nat.mod_eq_of_lt hn'] at hb
      omega
    split at h
    · exact absurd (List.cons.inj h).1 (big _ (by omega) (by omega))
    · split at h
      · exact absurd (List.cons.inj h).1 (big _ (by omega) (by omega))
      · exact absurd (List.cons.inj h).1 (big _ (by omega) (by omega))

theorem exists_of_ofText_eq_cons {s : String} {b : UInt8} {rest : Octets} (hb : b < 0x80)
    (h : ofText s = b :: rest) :
    ∃ t, s = String.singleton (Char.ofNat b.toNat) ++ t ∧ rest = ofText t := by
  rw [ofText_eq_flatMap] at h
  cases hs : s.toList with
  | nil =>
    rw [hs] at h
    cases h
  | cons c cs =>
    rw [hs, List.flatMap_cons] at h
    cases hc : String.utf8EncodeChar c with
    | nil => exact absurd hc String.utf8EncodeChar_ne_nil
    | cons lead more =>
      rw [hc, List.cons_append] at h
      obtain ⟨rfl, rfl⟩ := List.cons.inj h
      obtain ⟨rfl, rfl⟩ := utf8EncodeChar_of_ascii hb hc
      refine ⟨String.ofList cs, ?_, ?_⟩
      · apply String.toList_injective
        simp [hs]
      · rw [ofText_eq_flatMap, String.toList_ofList, List.nil_append]

/-- The octets that may follow a leading octet: how many are still due, and the bounds of the
next one. `none` for an octet that cannot lead. -/
def expected (lead : UInt8) : Option (Nat × UInt8 × UInt8) :=
  if lead ≤ 0x7F then some (0, 0x80, 0xBF)
  else if 0xC2 ≤ lead ∧ lead ≤ 0xDF then some (1, 0x80, 0xBF)
  else if lead = 0xE0 then some (2, 0xA0, 0xBF)
  else if lead = 0xED then some (2, 0x80, 0x9F)
  else if 0xE1 ≤ lead ∧ lead ≤ 0xEF then some (2, 0x80, 0xBF)
  else if lead = 0xF0 then some (3, 0x90, 0xBF)
  else if 0xF1 ≤ lead ∧ lead ≤ 0xF3 then some (3, 0x80, 0xBF)
  else if lead = 0xF4 then some (3, 0x80, 0x8F)
  else none

def leadValue (lead : UInt8) : Nat :=
  if lead ≤ 0x7F then lead.toNat
  else if lead ≤ 0xDF then lead.toNat - 0xC0
  else if lead ≤ 0xEF then lead.toNat - 0xE0
  else lead.toNat - 0xF0

structure Begun where
  due : Nat
  low : UInt8
  high : UInt8
  value : Nat
  deriving DecidableEq, Repr

def begin (b : UInt8) : List Char × Option Begun :=
  match expected b with
  | none => (['\ufffd'], none)
  | some (0, _, _) => ([Char.ofNat (leadValue b)], none)
  | some (due + 1, low, high) => ([], some ⟨due, low, high, leadValue b⟩)

def proceed (begun : Begun) (b : UInt8) : List Char × Option Begun :=
  if begun.low ≤ b ∧ b ≤ begun.high then
    let value := begun.value * 64 + (b.toNat - 0x80)
    match begun.due with
    | 0 => ([Char.ofNat value], none)
    | due + 1 => ([], some ⟨due, 0x80, 0xBF, value⟩)
  else
    let (chars, next) := begin b
    ('\ufffd' :: chars, next)

def lossyChars : Option Begun → Octets → List Char
  | none, [] => []
  | some _, [] => ['\ufffd']
  | begun, b :: rest =>
    let (chars, next) :=
      match begun with
      | none => begin b
      | some begun => proceed begun b
    chars ++ lossyChars next rest

def lossyText (octets : Octets) : String := String.ofList (lossyChars none octets)

def uncons? (octets : Octets) : Option (Char × Octets) :=
  octets.head?.bind expected |>.bind fun (due, _, _) =>
    (text? (octets.take (due + 1))).bind fun s =>
      s.toList.head?.map fun c => (c, octets.drop (due + 1))

end Octets

end UrlHandoff
