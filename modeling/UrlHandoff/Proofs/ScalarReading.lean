import UrlHandoff.Proofs.MomentReading
import UrlHandoff.Proofs.StringReading

namespace UrlHandoff.Document

open Grammar

section Scalars

variable {s rest : List Char}

theorem scalarText_of_scalar {value : Scalar} (h : scalar s = some (value, rest)) :
    ∃ w, s = w ++ rest ∧ ScalarText .reader w value := by
  unfold scalar at h
  split at h
  next read =>
    cases h
    obtain ⟨w, rfl, text⟩ := stringText_of_string read
    exact ⟨w, rfl, .text text⟩
  · split at h
    next read =>
      cases h
      unfold boolean at read
      split at read <;> cases read
      · exact ⟨_, rfl, .true⟩
      · exact ⟨_, rfl, .false⟩
    · split at h
      next read =>
        cases h
        obtain ⟨w, rfl, text⟩ := momentText_of_moment read
        exact ⟨w, rfl, .moment text⟩
      · split at h
        next read =>
          cases h
          obtain ⟨w, rfl, text⟩ := floatText_of_float read
          exact ⟨w, rfl, .float text⟩
        · obtain ⟨⟨n, after⟩, read, same⟩ := Option.map_eq_some_iff.mp h
          cases same
          obtain ⟨w, rfl, text, low, high⟩ := integerText_of_integer read
          exact ⟨w, rfl, .integer text low high⟩

theorem string_of_ahead (h : Ahead (fun c => c ≠ '"' ∧ c ≠ '\'') s) : string s = none := by
  cases s with
  | nil => rfl
  | cons c s => simp [string, singleLineString, ahead_cons.mp h]

theorem boolean_of_ahead (h : Ahead (fun c => c ≠ 't' ∧ c ≠ 'f') s) : boolean s = none := by
  cases s with
  | nil => rfl
  | cons c s => simp [boolean, ahead_cons.mp h]

theorem expect_of_ahead {c : Char} (h : Ahead (· ≠ c) s) : expect c s = none := by
  cases s with
  | nil => rfl
  | cons d s => exact if_neg (ahead_cons.mp h)

theorem ahead_of_fixedDigits {w : List Char} {count n : Nat}
    (each : ∀ c ∈ w, isDigitIn 10 c = true ∨ c = '_')
    (follows : Ahead (fun c => isDigitIn 10 c = false ∧ c ≠ '-' ∧ c ≠ ':') s)
    (h : fixedDigits 10 count (w ++ s) = some (n, rest)) : Ahead (fun c => c ≠ '-' ∧ c ≠ ':') rest := by
  by_cases few : w.length < count
  · rw [fixedDigits_of_fewer few (follows.imp fun _ => And.left)] at h
    cases h
  · obtain ⟨-, same⟩ := Option.ite_none_right_eq_some.mp h
    cases same
    rw [List.drop_append_of_le_length (Nat.not_lt.mp few)]
    cases left : w.drop count with
    | nil => exact follows.imp fun _ => And.right
    | cons c more =>
      have member : c ∈ w := List.mem_of_mem_drop (left ▸ List.mem_cons_self)
      have noMark : c ≠ '-' ∧ c ≠ ':' := by
        rcases each c member with digit | rfl
        · constructor <;> (rintro rfl; revert digit; decide)
        · decide
      exact ahead_cons.mpr noMark

theorem moment_of_number {w : List Char} (each : ∀ c ∈ w, isDigitIn 10 c = true ∨ c = '_')
    (follows : Ahead (fun c => isDigitIn 10 c = false ∧ c ≠ '-' ∧ c ≠ ':') s) :
    moment (w ++ s) = none := by
  have noDate : date (w ++ s) = none := by
    rw [date]
    cases read : fixedDigits 10 4 (w ++ s) with
    | none => rfl
    | some result =>
      have stops := (ahead_of_fixedDigits each follows read).imp fun _ => And.left
      simp [expect_of_ahead stops]
  have noTime : timeOfDay (w ++ s) = none := by
    rw [timeOfDay]
    cases read : fixedDigits 10 2 (w ++ s) with
    | none => rfl
    | some result =>
      have stops := (ahead_of_fixedDigits each follows read).imp fun _ => And.right
      simp [expect_of_ahead stops]
  rw [moment, noDate, noTime]
  rfl

theorem floatTail_of_ahead (h : Ahead (· ∉ ['.', 'e', 'E']) s) : floatTail s = none := by
  cases s with
  | nil => rfl
  | cons c s =>
    have other := ahead_cons.mp h
    simp only [List.mem_cons, List.not_mem_nil, or_false, not_or] at other
    simp [floatTail, exponent?, other]

theorem float_of_whole {t w : List Char} {negative : Bool} {ns : List Nat}
    (signed : SignText t negative) (text : WholeText w ns)
    (follows : Ahead (fun c => EndsDigits 10 c ∧ c ∉ ['.', 'e', 'E']) s) :
    float (t ++ (w ++ s)) = none := by
  obtain ⟨digits, whole, each⟩ := wholeDigits_of_wholeText text (follows.imp fun _ => And.left)
  have read := sign_of_signText signed (signless (text.begins s))
  have noTail := floatTail_of_ahead (follows.imp fun _ => And.right)
  have digit := text.begins s
  rw [float, read]
  split
  next same =>
    rw [(Prod.mk.inj same).2] at digit
    exact absurd (ahead_cons.mp digit) (by decide)
  next same =>
    rw [(Prod.mk.inj same).2] at digit
    exact absurd (ahead_cons.mp digit) (by decide)
  next same =>
    obtain ⟨rfl, rfl⟩ := Prod.mk.inj same
    rw [whole, Option.bind_some]
    dsimp only
    rw [noTail, Option.bind_none]

theorem Grammar.DigitText.each {w : List Char} {ns : List Nat} (h : DigitText 10 w ns) :
    ∀ c ∈ w, isDigitIn 10 c = true ∨ c = '_' := by
  have ofDigit {c : Char} {n : Nat} (digit : IsDigit 10 c n) : isDigitIn 10 c = true ∨ c = '_' :=
    .inl ((isDigitIn_iff 10 c).mpr ⟨n, digit⟩)
  induction h with
  | last digit => exact List.forall_mem_singleton.mpr (ofDigit digit)
  | next digit _ ih => exact List.forall_mem_cons.mpr ⟨ofDigit digit, ih⟩
  | apart digit _ ih =>
    exact List.forall_mem_cons.mpr ⟨ofDigit digit, List.forall_mem_cons.mpr ⟨.inr rfl, ih⟩⟩

theorem Grammar.WholeText.each {w : List Char} {ns : List Nat} (h : WholeText w ns) :
    ∀ c ∈ w, isDigitIn 10 c = true ∨ c = '_' := by
  cases h with
  | zero => exact List.forall_mem_singleton.mpr (.inl rfl)
  | positive _ text => exact text.each

theorem moment_of_ahead (h : Ahead (fun c => isDigitIn 10 c = false) s) : moment s = none := by
  have few := fixedDigits_of_fewer (w := []) (by decide : 0 < 4) h
  rw [List.nil_append] at few
  rw [moment, timeOfDay_of_ahead h, date, few]
  rfl

theorem moment_of_whole {t w : List Char} {negative : Bool} {ns : List Nat}
    (signed : SignText t negative) (text : WholeText w ns)
    (follows : Ahead (fun c => isDigitIn 10 c = false ∧ c ≠ '-' ∧ c ≠ ':') s) :
    moment (t ++ (w ++ s)) = none := by
  cases signed with
  | none =>
    rw [List.nil_append]
    exact moment_of_number text.each follows
  | plus => exact moment_of_ahead (ahead_cons.mpr rfl)
  | minus => exact moment_of_ahead (ahead_cons.mpr rfl)

def StartsNumber (c : Char) : Prop := isDigitIn 10 c = true ∨ c ∈ ['+', '-', 'i', 'n']

instance : DecidablePred StartsNumber := fun _ => inferInstanceAs (Decidable (_ ∨ _))

theorem unquoted (h : Ahead StartsNumber s) : string s = none ∧ boolean s = none := by
  have other {c : Char} (h : StartsNumber c) : c ∉ ['"', '\'', 't', 'f'] := by
    intro member
    simp only [List.mem_cons, List.not_mem_nil, or_false] at member
    rcases member with rfl | rfl | rfl | rfl <;> rcases h with h | h <;> revert h <;> decide
  simp only [List.mem_cons, List.not_mem_nil, or_false, not_or] at other
  exact ⟨string_of_ahead (h.imp fun _ h => ⟨(other h).1, (other h).2.1⟩),
    boolean_of_ahead (h.imp fun _ h => (other h).2.2)⟩

theorem Grammar.SignText.begins {t w : List Char} {negative : Bool} (signed : SignText t negative)
    (h : Begins StartsNumber w) : Begins StartsNumber (t ++ w) := by
  cases signed with
  | none => exact h
  | plus => exact begins_cons (.inr (by decide)) _
  | minus => exact begins_cons (.inr (by decide)) _

theorem Grammar.FixedText.begins {w : List Char} {count n : Nat} (h : FixedText (count + 1) w n) :
    Begins StartsNumber w := by
  obtain ⟨digits, length⟩ := h
  cases digits with
  | nil => cases length
  | cons first => exact begins_cons (.inl ((isDigitIn_iff 10 _).mpr ⟨_, first⟩)) _

theorem Grammar.DateText.begins {w : List Char} {day : Date} (h : DateText w day) :
    Begins StartsNumber w := by
  obtain ⟨year, -, -, -, -⟩ := h
  exact year.begins.append _

theorem Grammar.MomentText.begins {w : List Char} {value : Moment} (h : MomentText w value) :
    Begins StartsNumber w := by
  cases h with
  | date date => exact date.begins
  | time time =>
    obtain ⟨hour, -, -, -, -, -, -⟩ := time
    exact hour.begins.append _
  | both date => exact date.begins.append _
  | instant date => exact date.begins.append _

theorem Grammar.FloatText.begins {w : List Char} {x : Binary64} (h : FloatText .reader w x) :
    Begins StartsNumber w := by
  cases h with
  | infinite signed => exact signed.begins (begins_cons (.inr (by decide)) _)
  | nan signed => exact signed.begins (begins_cons (.inr (by decide)) _)
  | decimal signed text => exact signed.begins ((text.begins.imp fun _ => .inl).append _)

theorem Grammar.IntegerText.begins {w : List Char} {n : Int} (h : IntegerText w n) :
    Begins StartsNumber w := by
  cases h with
  | decimal signed text => exact signed.begins (text.begins.imp fun _ => .inl)
  | radix => exact begins_cons (.inl rfl) _

structure Plain (c : Char) : Prop where
  apart : EndsDigits 10 c
  noTail : c ∉ ['.', 'e', 'E']
  noMark : c ≠ '-' ∧ c ≠ ':'
  noQuote : c ≠ '"' ∧ c ≠ '\''

theorem Ends.plain (h : Ends s) : Ahead Plain s := by
  refine h.ahead ?_ ?_
  · rintro c (rfl | rfl) <;> exact ⟨⟨rfl, by decide⟩, by decide, by decide, by decide⟩
  · simp only [closers, List.forall_mem_cons, List.not_mem_nil, false_imp_iff, implies_true, and_true]
    refine ⟨?_, ?_, ?_, ?_, ?_, ?_⟩ <;> exact ⟨⟨rfl, by decide⟩, by decide, by decide, by decide⟩

theorem moment_of_floatText {w : List Char} {x : Binary64} (h : FloatText .reader w x)
    (s : List Char) : moment (w ++ s) = none := by
  cases h with
  | infinite signed => cases signed <;> exact moment_of_ahead (ahead_cons.mpr rfl)
  | nan signed => cases signed <;> exact moment_of_ahead (ahead_cons.mpr rfl)
  | decimal signed text tail =>
    rw [List.append_assoc, List.append_assoc]
    refine moment_of_whole signed text ((tail.begins s).imp ?_)
    simp [isDigitIn, digitValue?]

theorem number_of_integerText {w : List Char} {n : Int} (h : IntegerText w n) (ends : Ends rest) :
    moment (w ++ rest) = none ∧ float (w ++ rest) = none := by
  cases h with
  | decimal signed text =>
    rw [List.append_assoc]
    exact ⟨moment_of_whole signed text (ends.plain.imp fun _ h => ⟨h.apart.1, h.noMark⟩),
      float_of_whole signed text (ends.plain.imp fun _ h => ⟨h.apart, h.noTail⟩)⟩
  | @radix mark radix w ns known =>
    have plain : Plain mark := by
      simp only [List.mem_cons, Prod.mk.injEq, List.not_mem_nil, or_false] at known
      rcases known with ⟨rfl, -⟩ | ⟨rfl, -⟩ | ⟨rfl, -⟩ <;>
        exact ⟨⟨rfl, by decide⟩, by decide, by decide, by decide⟩
    have zero : ∀ c ∈ ['0'], isDigitIn 10 c = true ∨ c = '_' := List.forall_mem_singleton.mpr (.inl rfl)
    exact ⟨moment_of_number (w := ['0']) zero (ahead_cons.mpr ⟨plain.apart.1, plain.noMark⟩),
      float_of_whole .none .zero (ahead_cons.mpr ⟨plain.apart, plain.noTail⟩)⟩

theorem scalar_of_scalarText {w : List Char} {value : Scalar} (h : ScalarText .reader w value)
    (ends : Ends rest) : scalar (w ++ rest) = some (value, rest) := by
  -- The readers are tried one after the other, so those before the right one have to fail.
  cases h with
  | text text =>
    rw [scalar, string_of_stringText text (ends.plain.imp fun _ => Plain.noQuote)]
  | true => rfl
  | false => rfl
  | moment text =>
    obtain ⟨noString, noBoolean⟩ := unquoted (text.begins rest)
    rw [scalar, noString, noBoolean, moment_of_momentText text ends]
  | float text =>
    obtain ⟨noString, noBoolean⟩ := unquoted (text.begins rest)
    rw [scalar, noString, noBoolean, moment_of_floatText text, float_of_floatText text ends]
  | integer text low high =>
    obtain ⟨noString, noBoolean⟩ := unquoted (text.begins rest)
    obtain ⟨noMoment, noFloat⟩ := number_of_integerText text ends
    rw [scalar, noString, noBoolean, noMoment, noFloat, integer_of_integerText text low high ends]
    rfl

end Scalars

end UrlHandoff.Document
