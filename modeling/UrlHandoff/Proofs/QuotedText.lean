import Mathlib.Data.List.Forall2
import UrlHandoff.Document.Value

namespace UrlHandoff.Document

def shortEscapes : List (Char × Char) :=
  [('b', '\x08'), ('t', '\t'), ('n', '\n'), ('f', '\x0c'), ('r', '\r'), ('"', '"'), ('\\', '\\')]

def IsShown (c : Char) : Prop := c = '\t' ∨ (0x20 ≤ c.toNat ∧ c ≠ '\x7f')

inductive Spells : List Char → Char → Prop
  | itself {c : Char} (shown : IsShown c) (noQuote : c ≠ '"') (noEscape : c ≠ '\\') : Spells [c] c
  | short {letter c : Char} (known : (letter, c) ∈ shortEscapes) : Spells ['\\', letter] c
  | four {digits : List Char} {c : Char} (count : digits.length = 4)
      (hexadecimal : digits.all (isDigitIn 16) = true) (value : numberOf 16 digits = c.toNat) :
      Spells ('\\' :: 'u' :: digits) c
  | eight {digits : List Char} {c : Char} (count : digits.length = 8)
      (hexadecimal : digits.all (isDigitIn 16) = true) (value : numberOf 16 digits = c.toNat) :
      Spells ('\\' :: 'U' :: digits) c

def Quotes (written : List Char) (text : String) : Prop :=
  ∃ pieces, List.Forall₂ Spells pieces text.toList ∧ written = '"' :: (pieces.flatten ++ ['"'])

theorem isBasicChar_of_isShown {c : Char} (shown : IsShown c) (noQuote : c ≠ '"')
    (noEscape : c ≠ '\\') : isBasicChar c = true := by
  rcases shown with rfl | ⟨visible, noDelete⟩
  · rfl
  · simp [isBasicChar, isCommentChar, *]

theorem codePoint?_of_value {digits : List Char} {c : Char}
    (hexadecimal : digits.all (isDigitIn 16) = true) (value : numberOf 16 digits = c.toNat) :
    codePoint? digits = some c := by
  have valid : c.toNat.isValidChar := c.valid
  simp [codePoint?, hexadecimal, value, valid]

theorem basicBody_of_spells {piece : List Char} {c : Char} (h : Spells piece c)
    (rest : List Char) : basicBody (piece ++ rest) = consChar c (basicBody rest) := by
  cases h with
  | itself shown noQuote noEscape =>
    simp [basicBody, noEscape, isBasicChar_of_isShown shown noQuote noEscape]
  | short known =>
    simp only [shortEscapes, List.mem_cons, Prod.mk.injEq, List.not_mem_nil, or_false] at known
    rcases known with ⟨rfl, rfl⟩ | ⟨rfl, rfl⟩ | ⟨rfl, rfl⟩ | ⟨rfl, rfl⟩ | ⟨rfl, rfl⟩ | ⟨rfl, rfl⟩ |
      ⟨rfl, rfl⟩ <;> simp [basicBody, escapedChar?]
  | @four digits c count hexadecimal value =>
    match digits, count with
    | [_, _, _, _], _ => simp [basicBody, codePoint?_of_value hexadecimal value]
  | @eight digits c count hexadecimal value =>
    match digits, count with
    | [_, _, _, _, _, _, _, _], _ => simp [basicBody, codePoint?_of_value hexadecimal value]

theorem basicBody_of_pieces {pieces : List (List Char)} {text : List Char}
    (h : List.Forall₂ Spells pieces text) (rest : List Char) :
    basicBody (pieces.flatten ++ '"' :: rest) = some (text, rest) := by
  induction h with
  | nil => rfl
  | cons first _ ih =>
    rw [List.flatten_cons, List.append_assoc, basicBody_of_spells first, ih]
    rfl

theorem singleLineString_of_quotes {written : List Char} {text : String}
    (h : Quotes written text) (rest : List Char) :
    singleLineString (written ++ rest) = some (text, rest) := by
  obtain ⟨pieces, spelled, rfl⟩ := h
  have body := basicBody_of_pieces spelled rest
  simp [singleLineString, body]

theorem head_of_spells {piece : List Char} {c : Char} (h : Spells piece c) :
    ∃ first more, piece = first :: more ∧ first ≠ '"' := by
  cases h with
  | itself shown noQuote noEscape => exact ⟨_, [], rfl, noQuote⟩
  | short known => exact ⟨_, _, rfl, by decide⟩
  | four count hexadecimal value => exact ⟨_, _, rfl, by decide⟩
  | eight count hexadecimal value => exact ⟨_, _, rfl, by decide⟩

theorem string_of_quotes {written rest : List Char} {text : String} (h : Quotes written text)
    (follows : rest.head? ≠ some '"') : string (written ++ rest) = some (text, rest) := by
  rw [← singleLineString_of_quotes h rest]
  obtain ⟨pieces, spelled, rfl⟩ := h
  generalize text.toList = chars at spelled
  cases spelled with
  | nil =>
    cases rest with
    | nil => rfl
    | cons c rest =>
      have other : c ≠ '"' := fun same => follows (congrArg some same)
      simp [string, other]
  | cons first _ =>
    obtain ⟨c, more, rfl, other⟩ := head_of_spells first
    simp [string, other]

theorem keyName_of_quotes {written : List Char} {name : String} (h : Quotes written name)
    (rest : List Char) : keyName (written ++ rest) = some (name, rest) := by
  rw [keyName, singleLineString_of_quotes h rest]

def hexDigits : Nat → Nat → List Char
  | 0, _ => []
  | count + 1, n => hexDigits count (n / 16) ++ [Nat.digitChar (n % 16)]

theorem numberOf_snoc (radix : Nat) (digits : List Char) (last : Char) :
    numberOf radix (digits ++ [last]) =
      numberOf radix digits * radix + (digitValue? last).getD 0 := by
  rw [numberOf, List.foldl_append]
  rfl

theorem digitValue?_digitChar {n : Nat} (h : n < 16) :
    digitValue? (Nat.digitChar n) = some n := by
  revert n
  decide

theorem numberOf_hexDigits (count n : Nat) :
    numberOf 16 (hexDigits count n) = n % Nat.pow 16 count := by
  induction count generalizing n with
  | zero => exact (Nat.mod_one n).symm
  | succ count ih =>
    have digit := digitValue?_digitChar (Nat.mod_lt n (by decide : 0 < 16))
    have power : Nat.pow 16 (count + 1) = 16 * Nat.pow 16 count := Nat.mul_comm _ _
    rw [hexDigits, numberOf_snoc, ih, digit, Option.getD_some, power, Nat.mod_mul]
    omega

section Radix

variable {radix n : Nat}

theorem isDigitIn_digitChar (few : radix ≤ 16) (h : n < radix) :
    isDigitIn radix (Nat.digitChar n) = true := by
  simp [isDigitIn, digitValue?_digitChar (Nat.lt_of_lt_of_le h few), h]

theorem numberOf_toDigits (some : 1 < radix) (few : radix ≤ 16) (n : Nat) :
    numberOf radix (Nat.toDigits radix n) = n := by
  induction n using Nat.strongRecOn with
  | ind n ih =>
    rw [Nat.toDigits_eq_if some]
    split
    next small =>
      simp [numberOf, digitValue?_digitChar (Nat.lt_of_lt_of_le small few)]
    next large =>
      have less : n / radix < n := Nat.div_lt_self (by omega) some
      have last : n % radix < 16 := Nat.lt_of_lt_of_le (Nat.mod_lt n (by omega)) few
      rw [numberOf_snoc, ih (n / radix) less, digitValue?_digitChar last, Option.getD_some,
        Nat.div_add_mod']

theorem isDigitIn_of_mem_toDigits (some : 1 < radix) (few : radix ≤ 16) {c : Char}
    (h : c ∈ Nat.toDigits radix n) : isDigitIn radix c = true := by
  induction n using Nat.strongRecOn with
  | ind n ih =>
    rw [Nat.toDigits_eq_if some] at h
    split at h
    next small =>
      rw [List.mem_singleton.mp h]
      exact isDigitIn_digitChar few small
    next large =>
      rcases List.mem_append.mp h with h | h
      · exact ih (n / radix) (Nat.div_lt_self (by omega) some) h
      · rw [List.mem_singleton.mp h]
        exact isDigitIn_digitChar few (Nat.mod_lt n (by omega))

end Radix

theorem head_toDigits {n : Nat} (h : 0 < n) : (Nat.toDigits 10 n).head? ≠ some '0' := by
  induction n using Nat.strongRecOn with
  | ind n ih =>
    rw [Nat.toDigits_eq_if (by decide)]
    split
    next small =>
      have nonzero : ∀ n < 10, 0 < n → [Nat.digitChar n].head? ≠ some '0' := by decide
      exact nonzero n small h
    next large =>
      rw [List.head?_append_of_ne_nil _ Nat.toDigits_ne_nil]
      exact ih (n / 10) (by omega) (by omega)

theorem length_hexDigits (count n : Nat) : (hexDigits count n).length = count := by
  induction count generalizing n with
  | zero => rfl
  | succ count ih => rw [hexDigits, List.length_append, ih, List.length_singleton]

theorem hexDigits_all (count n : Nat) : (hexDigits count n).all (isDigitIn 16) = true := by
  induction count generalizing n with
  | zero => rfl
  | succ count ih =>
    have small := Nat.mod_lt n (by decide : 0 < 16)
    simp [hexDigits, List.all_append, ih, isDigitIn, digitValue?_digitChar small, small]

instance (c : Char) : Decidable (IsShown c) := inferInstanceAs (Decidable (_ ∨ _))

def spelling (c : Char) : List Char :=
  if c = '"' ∨ c = '\\' then ['\\', c]
  else if IsShown c then [c]
  else '\\' :: 'U' :: hexDigits 8 c.toNat

theorem spells_spelling (c : Char) : Spells (spelling c) c := by
  unfold spelling
  split
  next special =>
    rcases special with rfl | rfl
    · exact .short (by decide)
    · exact .short (by decide)
  next ordinary =>
    obtain ⟨noQuote, noEscape⟩ := not_or.mp ordinary
    split
    next shown => exact .itself shown noQuote noEscape
    next =>
      refine .eight (length_hexDigits 8 c.toNat) (hexDigits_all 8 c.toNat) ?_
      rw [numberOf_hexDigits]
      exact Nat.mod_eq_of_lt c.val.toNat_lt

def quoted (text : String) : List Char :=
  '"' :: ((text.toList.map spelling).flatten ++ ['"'])

theorem quotes_quoted (text : String) : Quotes (quoted text) text := by
  refine ⟨text.toList.map spelling, ?_, rfl⟩
  rw [List.forall₂_map_left_iff, List.forall₂_same]
  intro c _
  exact spells_spelling c

end UrlHandoff.Document
