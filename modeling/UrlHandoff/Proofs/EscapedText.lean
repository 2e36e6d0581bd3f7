import Mathlib.Data.List.Induction
import UrlHandoff.Proofs.QuotedText
import UrlHandoff.Text.Quoted

namespace UrlHandoff.Text

open Document (consChar digitValue? isDigitIn numberOf)

def Shown (c : Char) : Prop :=
  0x20 ≤ c.toNat ∧ (c.toNat < 0x7F ∨ 0xA0 ≤ c.toNat) ∧ c ≠ '\u2028' ∧ c ≠ '\u2029'

instance (c : Char) : Decidable (Shown c) := inferInstanceAs (Decidable (_ ∧ _))

def shortEscapes : List (Char × Char) :=
  [('0', '\x00'), ('t', '\t'), ('n', '\n'), ('r', '\r'), ('"', '"'), ('\\', '\\')]

inductive Writes : List Char → Char → Prop
  | itself {c : Char} (shown : Shown c) (noQuote : c ≠ '"') (noEscape : c ≠ '\\') : Writes [c] c
  | short {letter c : Char} (known : (letter, c) ∈ shortEscapes) : Writes ['\\', letter] c
  | codePoint (c : Char) : Writes (codePointEscape c) c

theorem shown_of_isPlain {c : Char} (h : isPlain c = true) : Shown c := by
  have noLine : ∀ d ∈ ['\u2028', '\u2029'], c ≠ d := by
    rintro d member rfl
    rcases List.mem_pair.mp member with rfl | rfl <;> revert h <;> decide +kernel
  simp only [isPlain, isControl, Bool.and_eq_true, Bool.not_eq_true', decide_eq_false_iff_not] at h
  obtain ⟨⟨⟨noControl, -⟩, -⟩, -⟩ := h
  exact ⟨by omega, by omega, noLine _ (by simp), noLine _ (by simp)⟩

theorem writes_escape (c : Char) : Writes (escape c) c := by
  unfold escape
  split_ifs with null tab feed back quote slash plain
  · exact null ▸ .short (by decide)
  · exact tab ▸ .short (by decide)
  · exact feed ▸ .short (by decide)
  · exact back ▸ .short (by decide)
  · subst quote
    exact .short (by decide)
  · subst slash
    exact .short (by decide)
  · exact .itself (shown_of_isPlain plain) quote slash
  · exact .codePoint c

theorem digits_of_codePoint (c : Char) : ∀ d ∈ Nat.toDigits 16 c.toNat, isDigitIn 16 d = true :=
  fun _ => Document.isDigitIn_of_mem_toDigits (by decide) (by decide)

theorem shown_of_isDigitIn {d : Char} (h : isDigitIn 16 d = true) : Shown d := by
  have range : 0x30 ≤ d.toNat ∧ d.toNat ≤ 0x66 := by
    rw [isDigitIn, digitValue?] at h
    split_ifs at h with decimal lower upper
    · have low : 0x30 ≤ d.toNat := decimal.1
      have high : d.toNat ≤ 0x39 := decimal.2
      omega
    · have low : 0x61 ≤ d.toNat := lower.1
      have high : d.toNat ≤ 0x66 := lower.2
      omega
    · have low : 0x41 ≤ d.toNat := upper.1
      have high : d.toNat ≤ 0x46 := upper.2
      omega
  refine ⟨by omega, by omega, ?_, ?_⟩
  all_goals
    rintro rfl
    revert range
    decide

section Writes

variable {piece : List Char} {c : Char}

theorem Writes.shown (h : Writes piece c) : ∀ d ∈ piece, Shown d := by
  cases h with
  | itself shown noQuote noEscape => exact List.forall_mem_singleton.mpr shown
  | short known =>
    have letters : ∀ pair ∈ shortEscapes, Shown pair.1 := by decide
    rw [List.forall_mem_cons, List.forall_mem_singleton]
    exact ⟨by decide, letters _ known⟩
  | codePoint =>
    simp only [codePointEscape, List.forall_mem_append, List.forall_mem_cons, List.not_mem_nil,
      false_imp_iff, implies_true, and_true]
    have digits := fun d digit => shown_of_isDigitIn (digits_of_codePoint c d digit)
    exact ⟨⟨by decide, digits⟩, by decide⟩

theorem quote_not_mem_codePointEscape (c : Char) : '"' ∉ codePointEscape c := by
  intro member
  have digit : '"' ∈ Nat.toDigits 16 c.toNat := by simpa [codePointEscape] using member
  exact absurd (digits_of_codePoint c _ digit) (by decide)

end Writes

def Escaping (before : List Char) : Prop :=
  (before.reverse.takeWhile (· = '\\')).length % 2 = 1

structure FirstQuote (text body rest : List Char) : Prop where
  split : text = body ++ '"' :: rest
  free : ¬Escaping body
  first : ∀ before after, body = before ++ '"' :: after → Escaping before

theorem escaping_snoc (before : List Char) (c : Char) :
    Escaping (before ++ [c]) ↔ c = '\\' ∧ ¬Escaping before := by
  by_cases h : c = '\\'
  · simp only [Escaping, List.reverse_append, List.reverse_singleton, List.singleton_append,
      List.takeWhile_cons, h, decide_true, if_true, List.length_cons, true_and]
    omega
  · simp [Escaping, h]

theorem Writes.not_escaping {piece : List Char} {c : Char} (h : Writes piece c)
    {front : List Char} (free : ¬Escaping front) : ¬Escaping (front ++ piece) := by
  cases h with
  | itself shown noQuote noEscape =>
    rw [escaping_snoc]
    exact fun escaping => noEscape escaping.1
  | @short letter c known =>
    have behind : Escaping (front ++ ['\\']) := (escaping_snoc _ _).mpr ⟨rfl, free⟩
    rw [List.append_cons, escaping_snoc]
    exact fun escaping => escaping.2 behind
  | codePoint =>
    rw [codePointEscape, ← List.append_assoc, escaping_snoc]
    exact fun escaping => absurd escaping.1 (by decide)

theorem Writes.quote_escaped {piece : List Char} {c : Char} (h : Writes piece c)
    {front : List Char} (free : ¬Escaping front) {before after : List Char}
    (split : piece = before ++ '"' :: after) : Escaping (front ++ before) := by
  cases h with
  | itself shown noQuote noEscape =>
    cases before with
    | nil => exact absurd (List.cons.inj split).1 noQuote
    | cons d before => simp at split
  | @short letter c known =>
    match before, split with
    | [], split => cases (List.cons.inj split).1
    | [d], split =>
      cases (List.cons.inj split).1
      exact (escaping_snoc _ _).mpr ⟨rfl, free⟩
    | d :: e :: before, split => simp at split
  | codePoint =>
    refine absurd ?_ (quote_not_mem_codePointEscape c)
    simp [split]

theorem shown_of_mem_escaped (s : List Char) : ∀ d ∈ escaped s, Shown d := by
  intro d member
  obtain ⟨c, -, member⟩ := List.mem_flatMap.mp member
  exact (writes_escape c).shown d member

theorem not_escaping_escaped (s : List Char) : ¬Escaping (escaped s) := by
  -- From the end, as only the backslashes just before a place decide.
  induction s using List.reverseRecOn with
  | nil => simp [escaped_nil, Escaping]
  | append_singleton s c ih =>
    rw [escaped_append, escaped_cons, escaped_nil, List.append_nil]
    exact (writes_escape c).not_escaping ih

theorem quote_of_escaped (s : List Char) :
    ∀ before after, escaped s = before ++ '"' :: after → Escaping before := by
  induction s using List.reverseRecOn with
  | nil => simp [escaped_nil]
  | append_singleton s c ih =>
    intro before after split
    rw [escaped_append, escaped_cons, escaped_nil, List.append_nil] at split
    -- The quote is in the last piece, or in one of those before it.
    rcases List.append_eq_append_iff.mp split with ⟨more, rfl, piece⟩ | ⟨more, front, tail⟩
    · exact (writes_escape c).quote_escaped (not_escaping_escaped s) piece
    · cases more with
      | nil =>
        rw [List.append_nil] at front
        rw [← front, ← List.append_nil (escaped s)]
        exact (writes_escape c).quote_escaped (not_escaping_escaped s) tail.symm
      | cons d more =>
        cases (List.cons.inj tail).1
        exact ih before more front

inductive Stage
  | body
  | backslash
  | brace
  | digits (value : Nat)

def shortEscape? (letter : Char) : Option Char :=
  (shortEscapes.find? (·.1 = letter)).map (·.2)

def readQuoted : Stage → List Char → Option (List Char × List Char)
  | _, [] => none
  | .body, c :: rest =>
    if c = '"' then some ([], rest)
    else if c = '\\' then readQuoted .backslash rest
    else consChar c (readQuoted .body rest)
  | .backslash, c :: rest =>
    if c = 'u' then readQuoted .brace rest
    else (shortEscape? c).bind fun d => consChar d (readQuoted .body rest)
  | .brace, c :: rest => if c = '\x7b' then readQuoted (.digits 0) rest else none
  | .digits value, c :: rest =>
    if c = '\x7d' then consChar (Char.ofNat value) (readQuoted .body rest)
    else (digitValue? c).bind fun digit => readQuoted (.digits (value * 16 + digit)) rest

theorem readQuoted_digits {digits : List Char} (each : ∀ d ∈ digits, isDigitIn 16 d = true)
    (value : Nat) (rest : List Char) :
    readQuoted (.digits value) (digits ++ '\x7d' :: rest) =
      consChar (Char.ofNat (digits.foldl (fun n d => n * 16 + (digitValue? d).getD 0) value))
        (readQuoted .body rest) := by
  induction digits generalizing value with
  | nil => simp [readQuoted]
  | cons d digits ih =>
    obtain ⟨digit, each⟩ := List.forall_mem_cons.mp each
    have noBrace : d ≠ '\x7d' := by
      rintro rfl
      exact absurd digit (by decide)
    obtain ⟨number, known⟩ : ∃ number, digitValue? d = some number := by
      rw [isDigitIn] at digit
      split at digit
      · exact ⟨_, ‹_›⟩
      · cases digit
    simp [readQuoted, noBrace, known, ih each]

theorem Writes.readQuoted {piece : List Char} {c : Char} (h : Writes piece c) (rest : List Char) :
    readQuoted .body (piece ++ rest) = consChar c (readQuoted .body rest) := by
  cases h with
  | itself shown noQuote noEscape => simp [Text.readQuoted, noQuote, noEscape]
  | @short letter c known =>
    have each : ∀ pair ∈ shortEscapes, pair.1 ≠ 'u' ∧ shortEscape? pair.1 = some pair.2 := by
      decide
    obtain ⟨other, read⟩ := each _ known
    simp [Text.readQuoted, other, read]
  | codePoint =>
    have value := Document.numberOf_toDigits (by decide : 1 < 16) (by decide) c.toNat
    have digits := readQuoted_digits (digits_of_codePoint c) 0 rest
    rw [numberOf] at value
    rw [value, Char.ofNat_toNat] at digits
    simp [codePointEscape, Text.readQuoted, digits]

theorem readQuoted_escaped (s rest : List Char) :
    readQuoted .body (escaped s ++ '"' :: rest) = some (s, rest) := by
  induction s with
  | nil => simp [escaped_nil, readQuoted]
  | cons c s ih =>
    rw [escaped_cons, List.append_assoc, (writes_escape c).readQuoted, ih]
    rfl

theorem toList_quoted (front quoted between back : String) :
    (front ++ quote quoted ++ between ++ back).toList =
      front.toList ++ ['"'] ++ (escaped quoted.toList ++ '"' :: (between.toList ++ back.toList)) := by
  simp [quote, quoteChars]

end UrlHandoff.Text
