import UrlHandoff.Proofs.DecimalRounding
import UrlHandoff.Proofs.GapReading
import UrlHandoff.Proofs.QuotedText

namespace UrlHandoff.Document

open Grammar

section Digits

variable {radix : Nat} {s rest : List Char}

theorem mem_digitValues_iff (c : Char) (n : Nat) : (c, n) ∈ digitValues ↔ digitValue? c = some n := by
  constructor
  · have each : ∀ pair ∈ digitValues, digitValue? pair.1 = some pair.2 := by decide
    exact each (c, n)
  · intro h
    have each : ∀ k < 128, ∀ n ∈ digitValue? (Char.ofNat k), (Char.ofNat k, n) ∈ digitValues := by
      decide
    have small : c.toNat < 128 := by
      rw [digitValue?] at h
      split_ifs at h with decimal lower upper
      · exact Nat.lt_of_le_of_lt decimal.2 (by decide)
      · exact Nat.lt_of_le_of_lt lower.2 (by decide)
      · exact Nat.lt_of_le_of_lt upper.2 (by decide)
    have member := each c.toNat small
    rw [Char.ofNat_toNat] at member
    exact member n h

theorem isDigitIn_iff (radix : Nat) (c : Char) :
    isDigitIn radix c = true ↔ ∃ n, IsDigit radix c n := by
  simp only [isDigitIn, IsDigit, mem_digitValues_iff]
  cases digitValue? c <;> simp

theorem digitValue?_of_isDigit {c : Char} {n : Nat} (h : IsDigit radix c n) :
    digitValue? c = some n := (mem_digitValues_iff c n).mp h.1

theorem valueOf_cons (radix n : Nat) (ns : List Nat) :
    valueOf radix (n :: ns) = n * radix ^ ns.length + valueOf radix ns := by
  simp [valueOf, Nat.ofDigits_append, Nat.add_comm, Nat.mul_comm]

theorem numberOf_digits {digits : List Char} {ns : List Nat}
    (h : List.Forall₂ (IsDigit radix) digits ns) : numberOf radix digits = valueOf radix ns := by
  suffices onward : ∀ start, digits.foldl (fun n c => n * radix + (digitValue? c).getD 0) start =
      start * radix ^ ns.length + valueOf radix ns by
    have whole := onward 0
    rwa [Nat.zero_mul, Nat.zero_add] at whole
  induction h with
  | nil => simp [valueOf]
  | cons first _ ih =>
    intro start
    rw [List.foldl_cons, ih, digitValue?_of_isDigit first, Option.getD_some, valueOf_cons,
      List.length_cons]
    ring

theorem digitText_of_digits {digits : List Char} (nonempty : digits ≠ [])
    (each : ∀ c ∈ digits, isDigitIn radix c = true) :
    ∃ ns, DigitText radix digits ns ∧ List.Forall₂ (IsDigit radix) digits ns := by
  induction digits with
  | nil => exact absurd rfl nonempty
  | cons c digits ih =>
    obtain ⟨first, each⟩ := List.forall_mem_cons.mp each
    obtain ⟨n, digit⟩ := (isDigitIn_iff radix c).mp first
    cases digits with
    | nil => exact ⟨[n], .last digit, .cons digit .nil⟩
    | cons d digits =>
      obtain ⟨ns, text, same⟩ := ih (List.cons_ne_nil d digits) each
      exact ⟨n :: ns, .next digit text, .cons digit same⟩

def EndsDigits (radix : Nat) (c : Char) : Prop := isDigitIn radix c = false ∧ c ≠ '_'

theorem digits_of_digitTail {digits : List Char} (h : digitTail radix s = (digits, rest)) :
    ∃ w ns, s = w ++ rest ∧ List.Forall₂ (IsDigit radix) digits ns ∧
      ∀ c n, IsDigit radix c n → DigitText radix (c :: w) (n :: ns) := by
  fun_induction digitTail radix s generalizing digits with
  | case1 c s digit more after tail ih =>
    cases h
    obtain ⟨w, ns, rfl, each, text⟩ := ih tail
    obtain ⟨n, digit⟩ := (isDigitIn_iff radix c).mp digit
    exact ⟨'_' :: c :: w, n :: ns, rfl, .cons digit each,
      fun d m first => .apart first (text c n digit)⟩
  | case2 c s noDigit =>
    cases h
    exact ⟨[], [], rfl, .nil, fun c n first => .last first⟩
  | case3 c s _ digit more after tail ih =>
    cases h
    obtain ⟨w, ns, rfl, each, text⟩ := ih tail
    obtain ⟨n, digit⟩ := (isDigitIn_iff radix c).mp digit
    exact ⟨c :: w, n :: ns, rfl, .cons digit each, fun d m first => .next first (text c n digit)⟩
  | case4 =>
    cases h
    exact ⟨[], [], rfl, .nil, fun c n first => .last first⟩
  | case5 =>
    cases h
    exact ⟨[], [], rfl, .nil, fun c n first => .last first⟩

theorem digitText_of_digitRun {digits : List Char} (h : digitRun radix s = some (digits, rest)) :
    ∃ w ns, s = w ++ rest ∧ DigitText radix w ns ∧ List.Forall₂ (IsDigit radix) digits ns := by
  cases s with
  | nil => cases h
  | cons c s =>
    rw [digitRun, Option.ite_none_right_eq_some] at h
    obtain ⟨digit, same⟩ := h
    cases same
    obtain ⟨w, ns, split, each, text⟩ := digits_of_digitTail (s := s) rfl
    obtain ⟨n, digit⟩ := (isDigitIn_iff radix c).mp digit
    exact ⟨c :: w, n :: ns, congrArg _ split, text c n digit, .cons digit each⟩

theorem digitTail_of_ahead (follows : Ahead (EndsDigits radix) rest) :
    digitTail radix rest = ([], rest) := by
  cases rest with
  | nil => rfl
  | cons c rest =>
    obtain ⟨noDigit, apart⟩ := ahead_cons.mp follows
    simp [digitTail, noDigit, apart]

theorem isDigitIn_separator (radix : Nat) : isDigitIn radix '_' = false := rfl

theorem digitTail_of_digitRun {digits : List Char} (h : digitRun radix s = some (digits, rest)) :
    digitTail radix s = (digits, rest) ∧ digitTail radix ('_' :: s) = (digits, rest) := by
  cases s with
  | nil => cases h
  | cons c s =>
    rw [digitRun, Option.ite_none_right_eq_some] at h
    obtain ⟨digit, same⟩ := h
    have separates : c ≠ '_' := by
      rintro rfl
      rw [isDigitIn_separator] at digit
      cases digit
    have same := Option.some.inj same
    constructor
    · simpa [digitTail, separates, digit] using same
    · simpa [digitTail, digit] using same

theorem digitRun_of_digitText {w : List Char} {ns : List Nat} (h : DigitText radix w ns)
    (follows : Ahead (EndsDigits radix) rest) :
    ∃ digits, digitRun radix (w ++ rest) = some (digits, rest) ∧
      List.Forall₂ (IsDigit radix) digits ns := by
  induction h with
  | @last c n digit =>
    have isDigit := (isDigitIn_iff radix c).mpr ⟨n, digit⟩
    exact ⟨[c], by simp [digitRun, isDigit, digitTail_of_ahead follows], .cons digit .nil⟩
  | @next c n w ns digit _ ih =>
    have isDigit := (isDigitIn_iff radix c).mpr ⟨n, digit⟩
    obtain ⟨digits, run, each⟩ := ih
    have tail := (digitTail_of_digitRun run).1
    exact ⟨c :: digits, by simp [digitRun, isDigit, tail], .cons digit each⟩
  | @apart c n w ns digit _ ih =>
    have isDigit := (isDigitIn_iff radix c).mpr ⟨n, digit⟩
    obtain ⟨digits, run, each⟩ := ih
    have tail := (digitTail_of_digitRun run).2
    exact ⟨c :: digits, by simp [digitRun, isDigit, tail], .cons digit each⟩

theorem Grammar.DigitText.head {w : List Char} {ns : List Nat} (h : DigitText radix w ns) :
    ∃ c n more, w = c :: more ∧ IsDigit radix c n := by
  cases h with
  | last digit => exact ⟨_, _, _, rfl, digit⟩
  | next digit => exact ⟨_, _, _, rfl, digit⟩
  | apart digit => exact ⟨_, _, _, rfl, digit⟩

theorem wholeText_of_wholeDigits {digits : List Char} (h : wholeDigits s = some (digits, rest)) :
    ∃ w ns, s = w ++ rest ∧ WholeText w ns ∧ List.Forall₂ (IsDigit 10) digits ns := by
  unfold wholeDigits at h
  split at h
  · cases h
    exact ⟨['0'], [0], rfl, .zero, .cons ⟨by decide, by decide⟩ .nil⟩
  next nonzero =>
    obtain ⟨w, ns, rfl, text, each⟩ := digitText_of_digitRun h
    obtain ⟨c, _, more, rfl, _⟩ := text.head
    refine ⟨c :: more, ns, rfl, .positive ?_ text, each⟩
    rintro rfl
    exact nonzero _ rfl

theorem Grammar.DigitText.begins {w : List Char} {ns : List Nat} (h : DigitText radix w ns) :
    Begins (fun c => isDigitIn radix c = true) w := by
  obtain ⟨c, n, more, rfl, digit⟩ := h.head
  exact begins_cons ((isDigitIn_iff radix c).mpr ⟨n, digit⟩) more

theorem Grammar.WholeText.begins {w : List Char} {ns : List Nat} (h : WholeText w ns) :
    Begins (fun c => isDigitIn 10 c = true) w := by
  cases h with
  | zero =>
    have zero : isDigitIn 10 '0' = true := rfl
    exact begins_cons zero []
  | positive _ text => exact text.begins

theorem wholeDigits_of_wholeText {w : List Char} {ns : List Nat} (h : WholeText w ns)
    (follows : Ahead (EndsDigits 10) rest) :
    ∃ digits, wholeDigits (w ++ rest) = some (digits, rest) ∧
      List.Forall₂ (IsDigit 10) digits ns := by
  cases h with
  | zero => exact ⟨['0'], rfl, .cons ⟨by decide, by decide⟩ .nil⟩
  | positive nonzero text =>
    obtain ⟨digits, run, each⟩ := digitRun_of_digitText text follows
    refine ⟨digits, ?_, each⟩
    rw [← run]
    simp [wholeDigits, nonzero]

end Digits

section Numbers

variable {s rest : List Char}

theorem signText_of_sign {negative : Bool} (h : sign s = (negative, rest)) :
    ∃ t, s = t ++ rest ∧ SignText t negative := by
  unfold sign at h
  split at h <;> cases h
  · exact ⟨_, rfl, .minus⟩
  · exact ⟨_, rfl, .plus⟩
  · exact ⟨[], rfl, .none⟩

theorem sign_of_signText {t : List Char} {negative : Bool} (h : SignText t negative)
    (follows : Ahead (fun c => c ≠ '-' ∧ c ≠ '+') rest) : sign (t ++ rest) = (negative, rest) := by
  cases h with
  | none =>
    cases rest with
    | nil => rfl
    | cons c rest =>
      obtain ⟨noMinus, noPlus⟩ := ahead_cons.mp follows
      simp [sign, noMinus, noPlus]
  | plus => rfl
  | minus => rfl

theorem fitsWord_iff (n : Int) : fitsWord n = true ↔ -2 ^ 63 ≤ n ∧ n < 2 ^ 63 := by
  have low : Int64.minValue.toInt = -2 ^ 63 := rfl
  have high : Int64.maxValue.toInt = 2 ^ 63 - 1 := rfl
  rw [fitsWord, decide_eq_true_eq, low, high]
  omega

theorem wordOf_eq_some_iff (n m : Int) (s rest : List Char) :
    wordOf n s = some (m, rest) ↔ (-2 ^ 63 ≤ n ∧ n < 2 ^ 63) ∧ n = m ∧ s = rest := by
  rw [wordOf, Option.ite_none_right_eq_some, fitsWord_iff]
  simp

theorem integerText_of_radixInteger {mark : Char} {radix : Nat} {n : Int}
    (known : (mark, radix) ∈ [('x', 16), ('o', 8), ('b', 2)])
    (h : radixInteger radix s = some (n, rest)) :
    ∃ w, '0' :: mark :: s = w ++ rest ∧ IntegerText w n ∧ -2 ^ 63 ≤ n ∧ n < 2 ^ 63 := by
  obtain ⟨⟨digits, after⟩, run, h⟩ := Option.bind_eq_some_iff.mp h
  obtain ⟨fits, rfl, rfl⟩ := (wordOf_eq_some_iff _ _ _ _).mp h
  obtain ⟨w, ns, rfl, text, each⟩ := digitText_of_digitRun run
  rw [numberOf_digits each] at fits ⊢
  exact ⟨'0' :: mark :: w, rfl, .radix known text, fits⟩

theorem integerText_of_integer {n : Int} (h : integer s = some (n, rest)) :
    ∃ w, s = w ++ rest ∧ IntegerText w n ∧ -2 ^ 63 ≤ n ∧ n < 2 ^ 63 := by
  unfold integer at h
  split at h
  · exact integerText_of_radixInteger (by simp) h
  · exact integerText_of_radixInteger (by simp) h
  · exact integerText_of_radixInteger (by simp) h
  · obtain ⟨⟨digits, after⟩, whole, h⟩ := Option.bind_eq_some_iff.mp h
    obtain ⟨fits, rfl, rfl⟩ := (wordOf_eq_some_iff _ _ _ _).mp h
    obtain ⟨t, split, signed⟩ := signText_of_sign (s := s) rfl
    obtain ⟨w, ns, body, text, each⟩ := wholeText_of_wholeDigits whole
    rw [numberOf_digits each] at fits ⊢
    rw [body] at split
    exact ⟨t ++ w, by rw [split, List.append_assoc], .decimal signed text, fits⟩

theorem endsDigits_of_ends (h : Ends s) : Ahead (EndsDigits 16) s := by
  refine h.ahead ?_ ?_
  · rintro c (rfl | rfl) <;> exact ⟨rfl, by decide⟩
  · simp [closers, EndsDigits, isDigitIn, digitValue?]

theorem EndsDigits.mono {radix : Nat} {c : Char} (few : radix ≤ 16) (h : EndsDigits 16 c) :
    EndsDigits radix c := by
  refine ⟨?_, h.2⟩
  have noDigit := h.1
  rw [← Bool.not_eq_true, isDigitIn_iff] at noDigit ⊢
  rintro ⟨n, digit⟩
  exact noDigit ⟨n, digit.1, Nat.lt_of_lt_of_le digit.2 few⟩

theorem Ends.digits {radix : Nat} (few : radix ≤ 16) (h : Ends s) : Ahead (EndsDigits radix) s :=
  (endsDigits_of_ends h).imp fun _ => EndsDigits.mono few

theorem radixInteger_of_digitText {radix : Nat} {w : List Char} {ns : List Nat} (few : radix ≤ 16)
    (text : DigitText radix w ns) (high : (valueOf radix ns : Int) < 2 ^ 63) (ends : Ends rest) :
    radixInteger radix (w ++ rest) = some ((valueOf radix ns : Int), rest) := by
  obtain ⟨digits, run, each⟩ := digitRun_of_digitText text (ends.digits few)
  rw [radixInteger, run, Option.bind_some]
  apply (wordOf_eq_some_iff _ _ _ _).mpr
  rw [numberOf_digits each]
  exact ⟨⟨by omega, high⟩, rfl, rfl⟩

theorem signless (h : Ahead (fun c => isDigitIn 10 c = true) s) :
    Ahead (fun c => c ≠ '-' ∧ c ≠ '+') s := by
  refine h.imp fun c digit => ?_
  constructor <;> (rintro rfl; revert digit; decide)

theorem not_radix {t w : List Char} {negative : Bool} {ns : List Nat} (signed : SignText t negative)
    (text : WholeText w ns) (ends : Ends rest) (mark : Char) (more : List Char)
    (known : mark ∈ ['x', 'o', 'b']) : t ++ (w ++ rest) ≠ '0' :: mark :: more := by
  cases signed with
  | none =>
    cases text with
    | zero =>
      rintro ⟨⟩
      have follows : Ahead (fun c => c ∉ ['x', 'o', 'b']) (mark :: more) :=
        ends.ahead (by rintro c (rfl | rfl) <;> decide) (List.all_iff_forall_prop.mp rfl)
      exact ahead_cons.mp follows known
    | positive nonzero => exact fun same => nonzero (List.cons.inj same).1
  | plus => nofun
  | minus => nofun

theorem integer_of_integerText {w : List Char} {n : Int} (h : IntegerText w n)
    (low : -2 ^ 63 ≤ n) (high : n < 2 ^ 63) (ends : Ends rest) :
    integer (w ++ rest) = some (n, rest) := by
  cases h with
  | @decimal t w negative ns signed text =>
    obtain ⟨digits, whole, each⟩ := wholeDigits_of_wholeText text (ends.digits (by decide))
    have read := sign_of_signText signed (signless (text.begins rest))
    have decimal := not_radix signed text ends
    rw [List.append_assoc]
    unfold integer
    split
    next same => exact absurd same (decimal 'x' _ (by decide))
    next same => exact absurd same (decimal 'o' _ (by decide))
    next same => exact absurd same (decimal 'b' _ (by decide))
    · simp only [read, whole, Option.bind_some]
      rw [numberOf_digits each]
      exact (wordOf_eq_some_iff _ _ _ _).mpr ⟨⟨low, high⟩, rfl, rfl⟩
  | radix known text =>
    simp only [List.mem_cons, Prod.mk.injEq, List.not_mem_nil, or_false] at known
    rcases known with ⟨rfl, rfl⟩ | ⟨rfl, rfl⟩ | ⟨rfl, rfl⟩ <;>
      exact radixInteger_of_digitText (by decide) text high ends

theorem exponentText_of_exponent? {n : Int} (h : exponent? s = some (n, rest)) :
    ∃ w, s = w ++ rest ∧ ExponentText w n := by
  cases s with
  | nil => cases h
  | cons e s =>
    rw [exponent?, Option.ite_none_right_eq_some] at h
    obtain ⟨mark, h⟩ := h
    obtain ⟨⟨digits, after⟩, run, same⟩ := Option.map_eq_some_iff.mp h
    cases same
    obtain ⟨t, split, signed⟩ := signText_of_sign (s := s) rfl
    obtain ⟨w, ns, body, text, each⟩ := digitText_of_digitRun run
    rw [body] at split
    rw [numberOf_digits each]
    exact ⟨e :: (t ++ w), by simp [split], .written mark signed text⟩

theorem exponent?_of_exponentText {w : List Char} {n : Int} (h : ExponentText w n)
    (follows : Ahead (EndsDigits 10) rest) : exponent? (w ++ rest) = some (n, rest) := by
  obtain ⟨mark, signed, text⟩ := h
  obtain ⟨digits, run, each⟩ := digitRun_of_digitText text follows
  have read := sign_of_signText signed (signless (text.begins rest))
  rw [List.cons_append, List.append_assoc, exponent?, if_pos mark, read]
  simp only [run, Option.map_some, numberOf_digits each]

theorem exponent?_of_ends (h : Ends s) : exponent? s = none := by
  cases s with
  | nil => rfl
  | cons c s =>
    have follows : Ahead (fun c => ¬(c = 'e' ∨ c = 'E')) (c :: s) :=
      h.ahead (by rintro c (rfl | rfl) <;> decide) (List.all_iff_forall_prop.mp rfl)
    rw [exponent?, if_neg (ahead_cons.mp follows)]

theorem floatTail_text {digits : List Char} {n : Int} (h : floatTail s = some ((digits, n), rest)) :
    ∃ w ns, s = w ++ rest ∧ FloatTail w ns n ∧ List.Forall₂ (IsDigit 10) digits ns := by
  unfold floatTail at h
  split at h
  · obtain ⟨⟨fraction, after⟩, run, same⟩ := Option.map_eq_some_iff.mp h
    obtain ⟨w, ns, rfl, text, each⟩ := digitText_of_digitRun run
    dsimp only at same
    split at same
    next read =>
      cases same
      obtain ⟨e, rfl, exponent⟩ := exponentText_of_exponent? read
      exact ⟨'.' :: (w ++ e), ns, by simp, .both text exponent, each⟩
    · cases same
      exact ⟨'.' :: w, ns, rfl, .fraction text, each⟩
  · obtain ⟨⟨exponent, after⟩, read, same⟩ := Option.map_eq_some_iff.mp h
    cases same
    obtain ⟨e, rfl, text⟩ := exponentText_of_exponent? read
    exact ⟨e, [], rfl, .exponent text, .nil⟩

theorem floatTail_of_text {w : List Char} {ns : List Nat} {n : Int} (h : FloatTail w ns n)
    (ends : Ends rest) :
    ∃ digits, floatTail (w ++ rest) = some ((digits, n), rest) ∧
      List.Forall₂ (IsDigit 10) digits ns := by
  have follows : Ahead (EndsDigits 10) rest := ends.digits (by decide)
  cases h with
  | fraction text =>
    obtain ⟨digits, run, each⟩ := digitRun_of_digitText text follows
    refine ⟨digits, ?_, each⟩
    simp [floatTail, run, exponent?_of_ends ends]
  | exponent text =>
    refine ⟨[], ?_, .nil⟩
    have read := exponent?_of_exponentText text follows
    obtain ⟨rfl | rfl, _, _⟩ := text <;> simpa [floatTail] using read
  | @both w e ns n text exponent =>
    have read := exponent?_of_exponentText exponent follows
    have apart : Ahead (EndsDigits 10) (e ++ rest) := by
      obtain ⟨rfl | rfl⟩ := exponent <;> exact ahead_cons.mpr ⟨rfl, by decide⟩
    obtain ⟨digits, run, each⟩ := digitRun_of_digitText text apart
    refine ⟨digits, ?_, each⟩
    simp [floatTail, run, read]

/-- The floats that are not read are the decimals that round to infinity. -/
theorem ofDecimal_ne_infinite_iff (negative : Bool) (digits : Nat) (scale : Int) :
    Binary64.ofDecimal negative digits scale ≠ .infinite false ↔
      Limits.reader.overflow = true ∨ negative = true ∨
        digits * (10 : ℚ) ^ scale < 2 ^ 1024 - 2 ^ 970 := by
  have reader : Limits.reader.overflow = false := rfl
  rw [ne_eq, Binary64.ofDecimal_eq_infinite_iff, not_and_or, not_le, Bool.not_eq_false, reader]
  simp [Binary64.overflowBound]

theorem floatText_of_float {x : Binary64} (h : float s = some (x, rest)) :
    ∃ w, s = w ++ rest ∧ FloatText .reader w x := by
  unfold float at h
  split at h
  next read =>
    cases h
    obtain ⟨t, rfl, signed⟩ := signText_of_sign read
    exact ⟨t ++ ['i', 'n', 'f'], by simp, .infinite signed⟩
  next read =>
    cases h
    obtain ⟨t, rfl, signed⟩ := signText_of_sign read
    exact ⟨t ++ ['n', 'a', 'n'], by simp, .nan signed⟩
  next read =>
    obtain ⟨t, rfl, signed⟩ := signText_of_sign read
    obtain ⟨⟨whole, tail⟩, digits, behind⟩ := Option.bind_eq_some_iff.mp h
    obtain ⟨⟨⟨fraction, exponent⟩, after⟩, more, last⟩ := Option.bind_eq_some_iff.mp behind
    obtain ⟨w, ns, rfl, text, each⟩ := wholeText_of_wholeDigits digits
    obtain ⟨u, ms, rfl, tailText, others⟩ := floatTail_text more
    have value : numberOf 10 (whole ++ fraction) = valueOf 10 (ns ++ ms) :=
      numberOf_digits (List.rel_append each others)
    dsimp only at last
    rw [value, others.length_eq] at last
    split at last
    · cases last
    next small =>
      cases last
      have fits := (ofDecimal_ne_infinite_iff _ _ _).mp small
      exact ⟨t ++ (w ++ u), by simp, .decimal signed text tailText fits⟩

theorem Grammar.FloatTail.begins {w : List Char} {ns : List Nat} {n : Int} (h : FloatTail w ns n) :
    Begins (· ∈ ['.', 'e', 'E']) w := by
  cases h with
  | fraction => exact begins_cons (by decide) _
  | exponent text => obtain ⟨rfl | rfl, _, _⟩ := text <;> exact begins_cons (by decide) _
  | both => exact begins_cons (by decide) _

theorem float_of_floatText {w : List Char} {x : Binary64} (h : FloatText .reader w x)
    (ends : Ends rest) : float (w ++ rest) = some (x, rest) := by
  cases h with
  | infinite signed =>
    have read : sign (_ ++ 'i' :: 'n' :: 'f' :: rest) = _ :=
      sign_of_signText signed (ahead_cons.mpr (by decide))
    simp [float, read]
  | nan signed =>
    have read : sign (_ ++ 'n' :: 'a' :: 'n' :: rest) = _ :=
      sign_of_signText signed (ahead_cons.mpr (by decide))
    simp [float, read]
  | @decimal t w u negative ns ms exponent signed text tail fits =>
    obtain ⟨fraction, more, others⟩ := floatTail_of_text tail ends
    have apart : Ahead (EndsDigits 10) (u ++ rest) :=
      (tail.begins rest).imp (by simp [EndsDigits, isDigitIn, digitValue?])
    obtain ⟨digits, whole, each⟩ := wholeDigits_of_wholeText text apart
    have read := sign_of_signText signed (signless (text.begins (u ++ rest)))
    have value : numberOf 10 (digits ++ fraction) = valueOf 10 (ns ++ ms) :=
      numberOf_digits (List.rel_append each others)
    have digit := text.begins (u ++ rest)
    rw [List.append_assoc, List.append_assoc, float, read]
    split
    next same =>
      rw [(Prod.mk.inj same).2] at digit
      exact absurd (ahead_cons.mp digit) (by decide)
    next same =>
      rw [(Prod.mk.inj same).2] at digit
      exact absurd (ahead_cons.mp digit) (by decide)
    next same =>
      obtain ⟨rfl, rfl⟩ := Prod.mk.inj same
      rw [whole, Option.bind_some]
      dsimp only
      rw [more, Option.bind_some]
      dsimp only
      rw [value, others.length_eq]
      split
      next large => exact absurd large ((ofDecimal_ne_infinite_iff _ _ _).mpr fits)
      · rfl

end Numbers

end UrlHandoff.Document
