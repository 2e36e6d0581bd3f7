import Mathlib.Tactic.IntervalCases
import UrlHandoff.Proofs.GapReading

namespace UrlHandoff.Document

open Grammar

theorem isBasicChar_iff (c : Char) : isBasicChar c = true ↔ IsShown c ∧ c ≠ '"' ∧ c ≠ '\\' := by
  simp [isBasicChar, isCommentChar_iff, and_assoc]

theorem isLiteralChar_iff (c : Char) : isLiteralChar c = true ↔ IsShown c ∧ c ≠ '\'' := by
  simp [isLiteralChar, isCommentChar_iff]

section Strings

variable {s rest body : List Char}

theorem mem_shortEscapes_iff (letter c : Char) :
    (letter, c) ∈ shortEscapes ↔ escapedChar? letter = some c := by
  constructor
  · have each : ∀ pair ∈ shortEscapes, escapedChar? pair.1 = some pair.2 := by decide
    exact each (letter, c)
  · intro h
    unfold escapedChar? at h
    split at h <;> cases h <;> decide

theorem toNat_ofNat {n : Nat} (valid : n.isValidChar) : (Char.ofNat n).toNat = n := by
  rw [Char.ofNat, dif_pos valid]
  rfl

theorem codePoint?_eq_some_iff (digits : List Char) (c : Char) :
    codePoint? digits = some c ↔
      digits.all (isDigitIn 16) = true ∧ numberOf 16 digits = c.toNat := by
  constructor
  · intro h
    simp only [codePoint?, Option.ite_none_right_eq_some, Option.some.injEq] at h
    obtain ⟨⟨digits, valid⟩, rfl⟩ := h
    exact ⟨digits, (toNat_ofNat valid).symm⟩
  · rintro ⟨hexadecimal, value⟩
    exact codePoint?_of_value hexadecimal value

theorem spells_of_codePoint? {digits : List Char} {c : Char} (h : codePoint? digits = some c) :
    (digits.length = 4 → Spells ('\\' :: 'u' :: digits) c) ∧
      (digits.length = 8 → Spells ('\\' :: 'U' :: digits) c) := by
  obtain ⟨hexadecimal, value⟩ := (codePoint?_eq_some_iff _ _).mp h
  exact ⟨fun count => .four count hexadecimal value, fun count => .eight count hexadecimal value⟩

section ConsChar

variable {read : Option (List Char × List Char)} {body rest : List Char} {Body : List Char → Prop}
  (ih : ∀ {body : List Char}, read = some (body, rest) → Body body)

include ih

theorem of_consChar {c : Char} (h : consChar c read = some (body, rest)) :
    ∃ more, body = c :: more ∧ Body more := by
  obtain ⟨⟨more, last⟩, later, same⟩ := Option.map_eq_some_iff.mp h
  cases same
  exact ⟨more, rfl, ih later⟩

theorem of_consChar_escape {escape : Option Char}
    (h : (escape.bind fun e => consChar e read) = some (body, rest)) :
    ∃ e more, escape = some e ∧ body = e :: more ∧ Body more := by
  obtain ⟨e, escaped, h⟩ := Option.bind_eq_some_iff.mp h
  obtain ⟨more, same, later⟩ := of_consChar ih h
  exact ⟨e, more, escaped, same, later⟩

end ConsChar

theorem pieces_of_basicBody (h : basicBody s = some (body, rest)) :
    ∃ pieces, s = pieces.flatten ++ '"' :: rest ∧ List.Forall₂ Spells pieces body := by
  have next {piece s : List Char} {c : Char} {more : List Char} (first : Spells piece c)
      (later : ∃ pieces, s = pieces.flatten ++ '"' :: rest ∧ List.Forall₂ Spells pieces more) :
      ∃ pieces, piece ++ s = pieces.flatten ++ '"' :: rest ∧
        List.Forall₂ Spells pieces (c :: more) := by
    obtain ⟨pieces, rfl, spelled⟩ := later
    exact ⟨piece :: pieces, by simp, .cons first spelled⟩
  fun_induction basicBody s generalizing body with
  | case1 s =>
    cases h
    exact ⟨[], rfl, .nil⟩
  | case2 a b c d s ih =>
    obtain ⟨e, more, point, rfl, later⟩ := of_consChar_escape ih h
    exact next ((spells_of_codePoint? point).1 rfl) later
  | case3 a b c d e f g i s ih =>
    obtain ⟨e, more, point, rfl, later⟩ := of_consChar_escape ih h
    exact next ((spells_of_codePoint? point).2 rfl) later
  | case4 c s _ _ ih =>
    obtain ⟨e, more, escape, rfl, later⟩ := of_consChar_escape ih h
    exact next (.short ((mem_shortEscapes_iff _ _).mpr escape)) later
  | case5 c s _ _ _ _ basic ih =>
    obtain ⟨more, rfl, later⟩ := of_consChar ih h
    obtain ⟨shown, noQuote, noEscape⟩ := (isBasicChar_iff c).mp basic
    exact next (.itself shown noQuote noEscape) later
  | case6 | case7 => cases h

theorem quotes_of_basicBody (h : basicBody s = some (body, rest)) :
    ∃ w, '"' :: s = w ++ rest ∧ Quotes w (String.ofList body) := by
  obtain ⟨pieces, rfl, spelled⟩ := pieces_of_basicBody h
  exact ⟨_, by simp, pieces, by rwa [String.toList_ofList], rfl⟩

theorem literalText_of_literalBody (h : literalBody s = some (body, rest)) :
    ∃ w, '\'' :: s = w ++ rest ∧ LiteralText w (String.ofList body) := by
  suffices each : s = body ++ '\'' :: rest ∧ ∀ c ∈ body, IsShown c ∧ c ≠ '\'' by
    exact ⟨_, by simp [each.1], .written each.2⟩
  fun_induction literalBody s generalizing body with
  | case1 s =>
    cases h
    exact ⟨rfl, nofun⟩
  | case2 c s _ literal ih =>
    obtain ⟨more, rfl, rfl, each⟩ := of_consChar ih h
    exact ⟨rfl, List.forall_mem_cons.mpr ⟨(isLiteralChar_iff c).mp literal, each⟩⟩
  | case3 | case4 => cases h

theorem literalBody_of_each (each : ∀ c ∈ body, IsShown c ∧ c ≠ '\'') (rest : List Char) :
    literalBody (body ++ '\'' :: rest) = some (body, rest) := by
  induction body with
  | nil => rfl
  | cons c body ih =>
    obtain ⟨first, each⟩ := List.forall_mem_cons.mp each
    have read := ih each
    simp [literalBody, first.2, (isLiteralChar_iff c).mpr first, read, consChar]

theorem singleLineString_of_literal {w : List Char} {text : String} (h : LiteralText w text)
    (rest : List Char) : singleLineString (w ++ rest) = some (text, rest) := by
  obtain ⟨each⟩ := h
  simp [singleLineString, literalBody_of_each each rest]

theorem text_of_singleLineString {text : String} (h : singleLineString s = some (text, rest)) :
    ∃ w, s = w ++ rest ∧ (Quotes w text ∨ LiteralText w text) := by
  unfold singleLineString at h
  split at h
  · obtain ⟨⟨body, last⟩, read, same⟩ := Option.map_eq_some_iff.mp h
    cases same
    obtain ⟨w, split, quotes⟩ := quotes_of_basicBody read
    exact ⟨w, split, .inl quotes⟩
  · obtain ⟨⟨body, last⟩, read, same⟩ := Option.map_eq_some_iff.mp h
    cases same
    obtain ⟨w, split, literal⟩ := literalText_of_literalBody read
    exact ⟨w, split, .inr literal⟩
  · cases h

end Strings

section LongStrings

variable {s rest body : List Char}

def Resumes (folding : Bool) (w body : List Char) : Prop :=
  if folding then ∃ gap more, w = gap ++ more ∧ Spaces gap ∧
    Ahead (fun c => ¬IsBlank c ∧ ¬IsEnd c) more ∧ LongBody more body
  else LongBody w body

section Resumes

variable {folding : Bool} {w : List Char}

theorem Resumes.blank {c : Char} (blank : IsBlank c) (h : Resumes true w body) :
    Resumes true (c :: w) body := by
  obtain ⟨gap, more, rfl, spaces, stops, long⟩ := h
  exact ⟨c :: gap, more, rfl, .blank blank spaces, stops, long⟩

theorem Resumes.newline {n : List Char} (newline : Newline n) (h : Resumes true w body) :
    Resumes true (n ++ w) body := by
  obtain ⟨gap, more, rfl, spaces, stops, long⟩ := h
  exact ⟨n ++ gap, more, (List.append_assoc ..).symm, .newline newline spaces, stops, long⟩

theorem Resumes.of_longBody {c : Char} (h : LongBody (c :: w) body)
    (stops : folding = true → ¬IsBlank c ∧ ¬IsEnd c) : Resumes folding (c :: w) body := by
  cases folding with
  | false => exact h
  | true => exact ⟨[], c :: w, rfl, .none, ahead_cons.mpr (stops rfl), h⟩

end Resumes

theorem Grammar.Spaces.blanks {gap : List Char} (h : Spaces gap) (whole : '\n' ∉ gap) : Blanks gap := by
  induction h with
  | none => exact List.forall_mem_nil _
  | blank blank _ ih =>
    exact List.forall_mem_cons.mpr ⟨blank, ih (List.not_mem_of_not_mem_cons whole)⟩
  | newline newline => cases newline <;> simp at whole

theorem breaks_of_endsBlank {gap more : List Char} (h : endsBlank (gap ++ more) = true)
    (spaces : Spaces gap) (stops : Ahead (fun c => ¬IsBlank c ∧ ¬IsEnd c) more) :
    '\n' ∈ gap := by
  by_contra whole
  rw [endsBlank, skipSpaces_blanks (spaces.blanks whole),
    skipSpaces_of_ahead (stops.imp fun _ => And.left)] at h
  obtain ⟨last, ends⟩ := Option.isSome_iff_exists.mp h
  obtain ⟨n, rfl, newline⟩ := newline_of_newline? ends
  cases newline with
  | feed => exact (ahead_cons.mp stops).2 (.inl rfl)
  | pair => exact (ahead_cons.mp stops).2 (.inr rfl)

theorem Grammar.LongBody.ne_nil {w : List Char} (h : LongBody w body) : w ≠ [] := by
  cases h with
  | close => exact List.cons_ne_nil _ _
  | quote => exact List.cons_ne_nil _ _
  | spelled first =>
    obtain ⟨c, more, rfl, -⟩ := head_of_spells first
    exact List.cons_ne_nil _ _
  | newline newline => cases newline <;> exact List.cons_ne_nil _ _
  | folded => exact List.cons_ne_nil _ _

theorem longBody_of_multilineBasicBody (folding : Bool)
    (h : multilineBasicBody folding s = some (body, rest)) :
    ∃ w, s = w ++ rest ∧ Resumes folding w body := by
  have escaped {folding : Bool} {piece s more : List Char} {c : Char}
      (first : Spells ('\\' :: piece) c) (later : ∃ w, s = w ++ rest ∧ Resumes false w more) :
      ∃ w, '\\' :: (piece ++ s) = w ++ rest ∧ Resumes folding w (c :: more) := by
    obtain ⟨w, rfl, long⟩ := later
    exact ⟨'\\' :: (piece ++ w), by simp, .of_longBody (.spelled first long) fun _ => by decide⟩
  fun_induction multilineBasicBody folding s generalizing body with
  | case1 s ih =>
    obtain ⟨w, rfl, long⟩ := ih h
    exact ⟨' ' :: w, rfl, long.blank (.inl rfl)⟩
  | case2 s ih =>
    obtain ⟨w, rfl, long⟩ := ih h
    exact ⟨'\t' :: w, rfl, long.blank (.inr rfl)⟩
  | case3 s ih =>
    obtain ⟨w, rfl, long⟩ := ih h
    exact ⟨'\n' :: w, rfl, long.newline .feed⟩
  | case4 s ih =>
    obtain ⟨w, rfl, long⟩ := ih h
    exact ⟨'\r' :: '\n' :: w, rfl, long.newline .pair⟩
  | case5 =>
    cases h
    exact ⟨_, rfl, .of_longBody (.close (Nat.le_refl 2)) fun _ => by decide⟩
  | case6 =>
    cases h
    exact ⟨_, rfl, .of_longBody (.close (Nat.le_succ 1)) fun _ => by decide⟩
  | case7 =>
    cases h
    exact ⟨_, rfl, .of_longBody (.close (Nat.zero_le 2)) fun _ => by decide⟩
  | case8 folding s _ _ apart ih =>
    obtain ⟨more, rfl, w, rfl, long⟩ := of_consChar ih h
    refine ⟨'"' :: w, rfl, .of_longBody (.quote ?_ long) fun _ => by decide⟩
    rintro ⟨later, rfl⟩
    exact apart (later ++ rest) rfl
  | case9 folding a b c d s ih =>
    obtain ⟨e, more, point, rfl, later⟩ := of_consChar_escape ih h
    exact escaped ((spells_of_codePoint? point).1 rfl) later
  | case10 folding a b c d e f g i s ih =>
    obtain ⟨e, more, point, rfl, later⟩ := of_consChar_escape ih h
    exact escaped ((spells_of_codePoint? point).2 rfl) later
  | case11 folding c s _ _ ends ih =>
    obtain ⟨w, split, gap, more, rfl, spaces, stops, long⟩ := ih h
    rw [split, List.append_assoc] at ends
    have breaks := breaks_of_endsBlank ends spaces (stops.append long.ne_nil rest)
    rw [split]
    exact ⟨'\\' :: (gap ++ more), rfl,
      .of_longBody (.folded spaces breaks stops long) fun _ => by decide⟩
  | case12 folding c s _ _ _ ih =>
    obtain ⟨e, more, escape, rfl, later⟩ := of_consChar_escape ih h
    exact escaped (.short ((mem_shortEscapes_iff c e).mpr escape)) later
  | case13 folding s plain ih =>
    obtain ⟨more, rfl, w, rfl, long⟩ := of_consChar ih h
    exact ⟨'\n' :: w, rfl, .of_longBody (.newline .feed long) fun folds => (plain folds).elim⟩
  | case14 folding s plain ih =>
    obtain ⟨more, rfl, w, rfl, long⟩ := of_consChar ih h
    exact ⟨'\r' :: '\n' :: w, rfl, .of_longBody (.newline .pair long) fun folds => (plain folds).elim⟩
  | case15 folding c s noSpace noTab noFeed _ _ _ _ _ _ _ _ _ _ basic ih =>
    obtain ⟨more, rfl, w, rfl, long⟩ := of_consChar ih h
    obtain ⟨shown, noQuote, noEscape⟩ := (isBasicChar_iff c).mp basic
    refine ⟨c :: w, rfl, .of_longBody (.spelled (.itself shown noQuote noEscape) long) ?_⟩
    rintro folds
    refine ⟨?_, fun ends => ends.not_isShown shown⟩
    rintro (same | same)
    · exact noSpace folds same
    · exact noTab folds same
  | case16 | case17 => cases h

theorem multilineBasicBody_of_ahead
    (stops : Ahead (fun c => ¬IsBlank c ∧ ¬IsEnd c) s) :
    multilineBasicBody true s = multilineBasicBody false s := by
  fun_cases multilineBasicBody false s <;>
    simp_all [multilineBasicBody, ahead_cons, IsBlank, IsEnd]

theorem multilineBasicBody_spaces {gap : List Char} (spaces : Spaces gap) (s : List Char) :
    multilineBasicBody true (gap ++ s) = multilineBasicBody true s := by
  induction spaces with
  | none => rfl
  | blank blank _ ih =>
    rcases blank with rfl | rfl <;> simp [multilineBasicBody, ih]
  | newline newline _ ih =>
    cases newline <;> simp [multilineBasicBody, ih]

theorem endsBlank_of_breaks {gap : List Char} (spaces : Spaces gap) (breaks : '\n' ∈ gap)
    (s : List Char) : endsBlank (gap ++ s) = true := by
  induction spaces with
  | none => cases breaks
  | @blank c gap blank _ ih =>
    have other : '\n' ≠ c := by
      rintro rfl
      exact IsEnd.not_isBlank (.inl rfl) blank
    have skipped := skipSpaces_blanks (b := [c]) (List.forall_mem_singleton.mpr blank) (gap ++ s)
    have later := ih (List.mem_of_ne_of_mem other breaks)
    rwa [endsBlank, ← skipped] at later
  | newline newline => cases newline <;> rfl

theorem endsBlank_eq_false {c : Char} (noBlank : ¬IsBlank c) (noEnd : ¬IsEnd c) (s : List Char) :
    endsBlank (c :: s) = false := by
  obtain ⟨noFeed, noReturn⟩ := not_or.mp noEnd
  rw [endsBlank, skipSpaces_of_ahead (ahead_cons.mpr noBlank)]
  simp [newline?, noFeed, noReturn]

theorem multilineBasicBody_backslash (ends : endsBlank s = true) :
    multilineBasicBody false ('\\' :: s) = multilineBasicBody true s := by
  cases s with
  | nil => cases ends
  | cons c s =>
    have other : ∀ d, ¬IsBlank d → ¬IsEnd d → c ≠ d := by
      rintro _ noBlank noEnd rfl
      rw [endsBlank_eq_false noBlank noEnd] at ends
      cases ends
    have noFour : c ≠ 'u' := other 'u' (by decide) (by decide)
    have noEight : c ≠ 'U' := other 'U' (by decide) (by decide)
    simp [multilineBasicBody, noFour, noEight, ends]

theorem multilineBasicBody_of_spells {piece : List Char} {c : Char} (first : Spells piece c)
    (s : List Char) :
    multilineBasicBody false (piece ++ s) = consChar c (multilineBasicBody false s) := by
  cases first with
  | itself shown noQuote noEscape =>
    have basic := (isBasicChar_iff c).mpr ⟨shown, noQuote, noEscape⟩
    have noEnd : ¬IsEnd c := fun ends => ends.not_isShown shown
    obtain ⟨noFeed, noReturn⟩ := not_or.mp noEnd
    simp [multilineBasicBody, noQuote, noEscape, noReturn, basic]
  | @short letter c known =>
    have each : ∀ pair ∈ shortEscapes, ¬IsBlank pair.1 ∧ ¬IsEnd pair.1 ∧
        pair.1 ≠ 'u' ∧ pair.1 ≠ 'U' := by decide
    obtain ⟨noBlank, noEnd, noFour, noEight⟩ := each _ known
    have escape := (mem_shortEscapes_iff letter c).mp known
    simp [multilineBasicBody, noFour, noEight, endsBlank_eq_false noBlank noEnd s, escape]
  | @four digits c count hexadecimal value =>
    match digits, count with
    | [_, _, _, _], _ => simp [multilineBasicBody, codePoint?_of_value hexadecimal value]
  | @eight digits c count hexadecimal value =>
    match digits, count with
    | [_, _, _, _, _, _, _, _], _ => simp [multilineBasicBody, codePoint?_of_value hexadecimal value]

theorem not_append_eq {q : Char} {w : List Char} (nonempty : w ≠ []) (apart : ¬[q, q] <+: w)
    {rest : List Char} (follows : Ahead (· ≠ q) rest) (more : List Char) :
    w ++ rest ≠ q :: q :: more := by
  intro same
  match w, nonempty with
  | [c], _ =>
    obtain ⟨-, rfl⟩ := List.cons.inj same
    exact ahead_cons.mp follows rfl
  | c :: d :: w, _ =>
    obtain ⟨rfl, tail⟩ := List.cons.inj same
    obtain ⟨rfl, -⟩ := List.cons.inj tail
    exact apart ⟨w, rfl⟩

theorem multilineBasicBody_of_longBody {w : List Char} (h : LongBody w body) {rest : List Char}
    (follows : Ahead (· ≠ '"') rest) :
    multilineBasicBody false (w ++ rest) = some (body, rest) := by
  induction h with
  | @close count few =>
    interval_cases count <;> cases rest <;>
      simp_all [List.replicate_succ, multilineBasicBody, ahead_cons]
  | quote apart long ih =>
    have noClose := not_append_eq long.ne_nil apart follows
    simp [multilineBasicBody, noClose, ih, consChar]
  | spelled first long ih =>
    rw [List.append_assoc, multilineBasicBody_of_spells first, ih]
    rfl
  | newline newline long ih =>
    cases newline <;> simp [multilineBasicBody, ih, consChar]
  | @folded gap w s spaces breaks stops long ih =>
    have ends := endsBlank_of_breaks spaces breaks (w ++ rest)
    have resumes := multilineBasicBody_spaces spaces (w ++ rest)
    rw [multilineBasicBody_of_ahead (stops.append long.ne_nil rest), ih] at resumes
    rw [List.cons_append, List.append_assoc, multilineBasicBody_backslash ends, resumes]

theorem longLiteralBody_of_multilineLiteralBody (h : multilineLiteralBody s = some (body, rest)) :
    ∃ w, s = w ++ rest ∧ LongLiteralBody w body := by
  fun_induction multilineLiteralBody s generalizing body with
  | case1 =>
    cases h
    exact ⟨_, rfl, .close (Nat.le_refl 2)⟩
  | case2 =>
    cases h
    exact ⟨_, rfl, .close (Nat.le_succ 1)⟩
  | case3 =>
    cases h
    exact ⟨_, rfl, .close (Nat.zero_le 2)⟩
  | case4 s _ _ apart ih =>
    obtain ⟨more, rfl, w, rfl, long⟩ := of_consChar ih h
    refine ⟨'\'' :: w, rfl, .quote ?_ long⟩
    rintro ⟨later, rfl⟩
    exact apart (later ++ rest) rfl
  | case5 s ih =>
    obtain ⟨more, rfl, w, rfl, long⟩ := of_consChar ih h
    exact ⟨'\n' :: w, rfl, .newline .feed long⟩
  | case6 s ih =>
    obtain ⟨more, rfl, w, rfl, long⟩ := of_consChar ih h
    exact ⟨'\r' :: '\n' :: w, rfl, .newline .pair long⟩
  | case7 c s _ _ _ _ _ _ literal ih =>
    obtain ⟨more, rfl, w, rfl, long⟩ := of_consChar ih h
    obtain ⟨shown, noQuote⟩ := (isLiteralChar_iff c).mp literal
    exact ⟨c :: w, rfl, .itself shown noQuote long⟩
  | case8 | case9 => cases h

theorem Grammar.LongLiteralBody.ne_nil {w : List Char} (h : LongLiteralBody w body) : w ≠ [] := by
  cases h with
  | newline newline => cases newline <;> exact List.cons_ne_nil _ _
  | _ => exact List.cons_ne_nil _ _

theorem multilineLiteralBody_of_longLiteralBody {w : List Char} (h : LongLiteralBody w body)
    {rest : List Char} (follows : Ahead (· ≠ '\'') rest) :
    multilineLiteralBody (w ++ rest) = some (body, rest) := by
  induction h with
  | @close count few =>
    interval_cases count <;> cases rest <;>
      simp_all [List.replicate_succ, multilineLiteralBody, ahead_cons]
  | quote apart long ih =>
    have noClose := not_append_eq long.ne_nil apart follows
    simp [multilineLiteralBody, noClose, ih, consChar]
  | @itself c w s shown noQuote long ih =>
    have literal := (isLiteralChar_iff c).mpr ⟨shown, noQuote⟩
    have noEnd : ¬IsEnd c := fun ends => ends.not_isShown shown
    obtain ⟨noFeed, noReturn⟩ := not_or.mp noEnd
    simp [multilineLiteralBody, noQuote, noReturn, literal, ih, consChar]
  | newline newline long ih =>
    cases newline <;> simp [multilineLiteralBody, ih, consChar]

theorem Grammar.LongBody.ahead {w : List Char} (h : LongBody w body) {rest : List Char}
    (noEnd : newline? (w ++ rest) = none) : Ahead (¬IsEnd ·) w := by
  cases h with
  | close => exact ahead_cons.mpr (by decide)
  | quote => exact ahead_cons.mpr (by decide)
  | spelled first =>
    cases first with
    | itself shown => exact ahead_cons.mpr fun ends => ends.not_isShown shown
    | _ => exact ahead_cons.mpr (by decide)
  | newline newline =>
    rw [List.append_assoc, newline?_newline newline] at noEnd
    cases noEnd
  | folded => exact ahead_cons.mpr (by decide)

theorem Grammar.LongLiteralBody.ahead {w : List Char} (h : LongLiteralBody w body)
    {rest : List Char} (noEnd : newline? (w ++ rest) = none) : Ahead (¬IsEnd ·) w := by
  cases h with
  | close => exact ahead_cons.mpr (by decide)
  | quote => exact ahead_cons.mpr (by decide)
  | itself shown => exact ahead_cons.mpr fun ends => ends.not_isShown shown
  | newline newline =>
    rw [List.append_assoc, newline?_newline newline] at noEnd
    cases noEnd

theorem trims_of_skipNewline {w : List Char} (h : skipNewline s = w ++ rest)
    (ahead : newline? (w ++ rest) = none → Ahead (¬IsEnd ·) w) :
    ∃ whole, s = whole ++ rest ∧ Trims whole w := by
  rw [skipNewline] at h
  cases ends : newline? s with
  | none =>
    rw [ends, Option.getD_none] at h
    exact ⟨w, h, .whole (ahead (h ▸ ends))⟩
  | some last =>
    rw [ends, Option.getD_some] at h
    obtain ⟨n, rfl, newline⟩ := newline_of_newline? ends
    exact ⟨n ++ w, by rw [h, List.append_assoc], .trimmed newline⟩

theorem skipNewline_of_trims {whole w : List Char} (h : Trims whole w) (nonempty : w ≠ [])
    (rest : List Char) : skipNewline (whole ++ rest) = w ++ rest := by
  cases h with
  | trimmed newline =>
    rw [skipNewline, List.append_assoc, newline?_newline newline, Option.getD_some]
  | whole ahead =>
    cases whole with
    | nil => exact absurd rfl nonempty
    | cons c more =>
      obtain ⟨noFeed, noReturn⟩ := not_or.mp (ahead_cons.mp ahead)
      simp [skipNewline, newline?, noFeed, noReturn]

theorem stringText_of_string {text : String} (h : string s = some (text, rest)) :
    ∃ w, s = w ++ rest ∧ StringText w text := by
  unfold string at h
  split at h
  · obtain ⟨⟨body, last⟩, read, same⟩ := Option.map_eq_some_iff.mp h
    cases same
    obtain ⟨w, split, long⟩ := longBody_of_multilineBasicBody false read
    obtain ⟨whole, rfl, trims⟩ := trims_of_skipNewline split long.ahead
    exact ⟨_, rfl, .long trims long⟩
  · obtain ⟨⟨body, last⟩, read, same⟩ := Option.map_eq_some_iff.mp h
    cases same
    obtain ⟨w, split, long⟩ := longLiteralBody_of_multilineLiteralBody read
    obtain ⟨whole, rfl, trims⟩ := trims_of_skipNewline split long.ahead
    exact ⟨_, rfl, .longLiteral trims long⟩
  · obtain ⟨w, rfl, quotes | literal⟩ := text_of_singleLineString h
    · exact ⟨w, rfl, .basic quotes⟩
    · exact ⟨w, rfl, .literal literal⟩

theorem string_of_stringText {w : List Char} {text : String} (h : StringText w text)
    (follows : Ahead (fun c => c ≠ '"' ∧ c ≠ '\'') rest) :
    string (w ++ rest) = some (text, rest) := by
  cases h with
  | basic quotes =>
    exact string_of_quotes quotes fun quote => (follows _ quote).1 rfl
  | literal literal =>
    rw [← singleLineString_of_literal literal rest]
    obtain ⟨each⟩ := literal
    rename_i body
    cases body with
    | nil =>
      cases rest with
      | nil => rfl
      | cons c rest => simp [string, (ahead_cons.mp follows).2]
    | cons c body => simp [string, (each c List.mem_cons_self).2]
  | long trims long =>
    have read := multilineBasicBody_of_longBody long (follows.imp fun _ => And.left)
    simp [string, skipNewline_of_trims trims long.ne_nil, read]
  | longLiteral trims long =>
    have read := multilineLiteralBody_of_longLiteralBody long (follows.imp fun _ => And.right)
    simp [string, skipNewline_of_trims trims long.ne_nil, read]

end LongStrings

end UrlHandoff.Document
