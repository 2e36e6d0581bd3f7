import Mathlib.Data.List.TakeWhile
import UrlHandoff.Proofs.DocumentGrammar

namespace UrlHandoff.Document

open Grammar

theorem isSpace_iff (c : Char) : isSpace c = true ↔ IsBlank c := by
  simp [isSpace, IsBlank]

theorem isCommentChar_iff (c : Char) : isCommentChar c = true ↔ IsShown c := by
  simp [isCommentChar, IsShown]

def Begins (Allowed : Char → Prop) (w : List Char) : Prop := ∀ rest, Ahead Allowed (w ++ rest)

section Begins

variable {Allowed Other : Char → Prop} {c : Char} {w : List Char}

theorem begins_cons (h : Allowed c) (w : List Char) : Begins Allowed (c :: w) :=
  fun _ => ahead_cons.mpr h

theorem Begins.append (h : Begins Allowed w) (v : List Char) : Begins Allowed (w ++ v) := by
  intro rest
  rw [List.append_assoc]
  exact h _

theorem Begins.imp (imp : ∀ c, Allowed c → Other c) (h : Begins Allowed w) : Begins Other w :=
  fun rest => (h rest).imp imp

end Begins

section Blanks

variable {b s : List Char}

theorem blanks_of_skipSpaces (s : List Char) : ∃ b, s = b ++ skipSpaces s ∧ Blanks b :=
  ⟨s.takeWhile isSpace, List.takeWhile_append_dropWhile.symm,
    fun _ member => (isSpace_iff _).mp (List.mem_takeWhile_imp member)⟩

theorem skipSpaces_blanks (blanks : Blanks b) (s : List Char) :
    skipSpaces (b ++ s) = skipSpaces s :=
  List.dropWhile_append_of_pos fun c member => (isSpace_iff c).mpr (blanks c member)

theorem dropWhile_of_ahead {test : Char → Bool} (h : Ahead (fun c => test c = false) s) :
    s.dropWhile test = s := by
  cases s with
  | nil => rfl
  | cons c s => rw [List.dropWhile_cons_of_neg (by simp [ahead_cons.mp h])]

theorem takeWhile_of_ahead {test : Char → Bool} (h : Ahead (fun c => test c = false) s) :
    s.takeWhile test = [] := by
  cases s with
  | nil => rfl
  | cons c s => rw [List.takeWhile_cons_of_neg (by simp [ahead_cons.mp h])]

theorem ahead_blanks {Allowed : Char → Prop} (blanks : Blanks b)
    (each : ∀ c, IsBlank c → Allowed c) (rest : Ahead Allowed s) : Ahead Allowed (b ++ s) := by
  cases b with
  | nil => exact rest
  | cons c b => exact ahead_cons.mpr (each c (blanks c List.mem_cons_self))

theorem isSpace_eq_false {c : Char} (h : ¬IsBlank c) : isSpace c = false := by
  rwa [← Bool.not_eq_true, isSpace_iff]

theorem skipSpaces_of_ahead (stops : Ahead (¬IsBlank ·) s) : skipSpaces s = s :=
  dropWhile_of_ahead (stops.imp fun _ => isSpace_eq_false)

end Blanks

section Lines

variable {n s rest : List Char}

theorem newline_of_newline? (h : newline? s = some rest) : ∃ n, s = n ++ rest ∧ Newline n := by
  unfold newline? at h
  split at h
  · cases h
    exact ⟨_, rfl, .feed⟩
  · cases h
    exact ⟨_, rfl, .pair⟩
  · cases h

theorem newline?_newline (h : Newline n) (rest : List Char) : newline? (n ++ rest) = some rest := by
  cases h <;> rfl

theorem tail_of_skipComment (s : List Char) :
    ∃ t, s = t ++ skipComment (skipSpaces s) ∧ TailText t := by
  obtain ⟨b, hs, blanks⟩ := blanks_of_skipSpaces s
  cases hspaces : skipSpaces s with
  | nil => exact ⟨b, by rw [hs, hspaces]; rfl, .blanks blanks⟩
  | cons c more =>
    by_cases mark : c = '#'
    · subst mark
      refine ⟨b ++ '#' :: more.takeWhile isCommentChar, ?_, .comment blanks (.written ?_)⟩
      · rw [hs, hspaces, skipComment, List.append_assoc, List.cons_append,
          List.takeWhile_append_dropWhile]
      · exact fun d member => (isCommentChar_iff d).mp (List.mem_takeWhile_imp member)
    · refine ⟨b, ?_, .blanks blanks⟩
      rw [hspaces] at hs
      simpa [skipComment, mark] using hs

theorem Grammar.IsEnd.not_isBlank {c : Char} (h : IsEnd c) : ¬IsBlank c := by
  rcases h with rfl | rfl <;> decide

theorem Grammar.IsEnd.not_isShown {c : Char} (h : IsEnd c) : ¬IsShown c := by
  rcases h with rfl | rfl <;> decide

theorem skipComment_tail {t : List Char} (h : TailText t) (stops : Ahead IsEnd s) :
    skipComment (skipSpaces (t ++ s)) = s := by
  cases h with
  | blanks blanks =>
    rw [skipSpaces_blanks blanks, skipSpaces_of_ahead (stops.imp fun _ => IsEnd.not_isBlank)]
    cases s with
    | nil => rfl
    | cons c s =>
      have mark : c ≠ '#' := by
        rcases ahead_cons.mp stops with rfl | rfl <;> decide
      simp [skipComment, mark]
  | comment blanks comment =>
    obtain ⟨shown⟩ := comment
    rw [List.append_assoc, skipSpaces_blanks blanks]
    rw [List.cons_append, skipSpaces_of_ahead (ahead_cons.mpr (by decide)), skipComment,
      List.dropWhile_append_of_pos fun c member => (isCommentChar_iff c).mpr (shown c member)]
    refine dropWhile_of_ahead (stops.imp fun c ends => ?_)
    rw [← Bool.not_eq_true, isCommentChar_iff]
    exact ends.not_isShown

theorem ahead_newline (h : Newline n) (s : List Char) : Ahead IsEnd (n ++ s) := by
  cases h with
  | feed => exact ahead_cons.mpr (.inl rfl)
  | pair => exact ahead_cons.mpr (.inr rfl)

theorem tail_of_endLine? (h : endLine? s = some rest) :
    ∃ t, TailText t ∧ (s = t ∧ rest = [] ∨ ∃ n, Newline n ∧ s = t ++ (n ++ rest)) := by
  obtain ⟨t, hs, tail⟩ := tail_of_skipComment s
  refine ⟨t, tail, ?_⟩
  unfold endLine? at h
  split at h
  next last =>
    cases h
    rw [last, List.append_nil] at hs
    exact .inl ⟨hs, rfl⟩
  next =>
    obtain ⟨n, same, newline⟩ := newline_of_newline? h
    rw [same] at hs
    exact .inr ⟨n, newline, hs⟩

theorem endLine?_tail {t : List Char} (h : TailText t) : endLine? t = some [] := by
  have skipped := skipComment_tail h (s := []) ahead_nil
  rw [List.append_nil] at skipped
  rw [endLine?, skipped]

theorem endLine?_newline {t : List Char} (h : TailText t) (newline : Newline n)
    (rest : List Char) : endLine? (t ++ (n ++ rest)) = some rest := by
  rw [endLine?, skipComment_tail h (ahead_newline newline rest)]
  cases newline <;> rfl

end Lines

section Gaps

variable {g s rest : List Char}

theorem Grammar.Gap.cons_comment {c : Char} (shown : IsShown c) (h : Gap ('#' :: g)) :
    Gap ('#' :: c :: g) := by
  generalize same : '#' :: g = s at h
  cases h with
  | none => cases same
  | blank blank rest =>
    cases same
    rcases blank with h | h <;> cases h
  | newline newline rest =>
    cases newline <;> cases same
  | comment comment ends rest =>
    obtain ⟨body⟩ := comment
    cases same
    exact .comment (.written (List.forall_mem_cons.mpr ⟨shown, body⟩)) ends rest

theorem comment_empty : Comment ['#'] := .written (List.forall_mem_nil _)

theorem gap_of_skipLines (commented : Bool) (h : skipLines commented s = some rest) :
    ∃ g, s = g ++ rest ∧ Gap (if commented then '#' :: g else g) := by
  fun_induction skipLines commented s with
  | case1 commented s ih =>
    obtain ⟨g, rfl, gap⟩ := ih h
    refine ⟨'\n' :: g, rfl, ?_⟩
    rw [if_neg Bool.false_ne_true] at gap
    cases commented with
    | false => exact .newline .feed gap
    | true => exact .comment comment_empty .feed gap
  | case2 commented s ih =>
    obtain ⟨g, rfl, gap⟩ := ih h
    refine ⟨'\r' :: '\n' :: g, rfl, ?_⟩
    rw [if_neg Bool.false_ne_true] at gap
    cases commented with
    | false => exact .newline .pair gap
    | true => exact .comment comment_empty .pair gap
  | case3 c s _ _ shown ih =>
    obtain ⟨g, rfl, gap⟩ := ih h
    exact ⟨c :: g, rfl, gap.cons_comment ((isCommentChar_iff c).mp shown)⟩
  | case4 | case5 => cases h
  | case6 s ih =>
    obtain ⟨g, rfl, gap⟩ := ih h
    exact ⟨'#' :: g, rfl, gap⟩
  | case7 c s _ _ _ blank ih =>
    obtain ⟨g, rfl, gap⟩ := ih h
    exact ⟨c :: g, rfl, .blank ((isSpace_iff c).mp blank) gap⟩
  | case8 =>
    cases h
    exact ⟨[], rfl, .none⟩
  | case9 =>
    cases h
    exact ⟨[], rfl, .none⟩

theorem skipLines_newline {n : List Char} (h : Newline n) (commented : Bool) (s : List Char) :
    skipLines commented (n ++ s) = skipLines false s := by
  cases h <;> simp [skipLines]

theorem skipLines_shown {c : Char} (shown : IsShown c) (s : List Char) :
    skipLines true (c :: s) = skipLines true s := by
  have noEnd : ¬IsEnd c := fun ends => ends.not_isShown shown
  obtain ⟨noFeed, noReturn⟩ := not_or.mp noEnd
  simp [skipLines, noReturn, (isCommentChar_iff c).mpr shown]

theorem skipLines_comment {body : List Char} (shown : ∀ c ∈ body, IsShown c) (s : List Char) :
    skipLines true (body ++ s) = skipLines true s := by
  induction body with
  | nil => rfl
  | cons c body ih =>
    obtain ⟨first, shown⟩ := List.forall_mem_cons.mp shown
    rw [List.cons_append, skipLines_shown first, ih shown]

theorem skipLines_blank {c : Char} (blank : IsBlank c) (s : List Char) :
    skipLines false (c :: s) = skipLines false s := by
  rcases blank with rfl | rfl <;> simp [skipLines, isSpace]

theorem skipLines_gap (h : Gap g) (s : List Char) : skipLines false (g ++ s) = skipLines false s := by
  induction h with
  | none => rfl
  | blank blank _ ih => rw [List.cons_append, skipLines_blank blank, ih]
  | newline newline _ ih => rw [List.append_assoc, skipLines_newline newline, ih]
  | comment comment ends _ ih =>
    obtain ⟨shown⟩ := comment
    rw [List.append_assoc, List.append_assoc, List.cons_append, skipLines, skipLines_comment shown,
      skipLines_newline ends, ih]

theorem skipLines_of_ahead (stops : Ahead (fun c => ¬IsBlank c ∧ ¬IsEnd c ∧ c ≠ '#') s) :
    skipLines false s = some s := by
  cases s with
  | nil => rfl
  | cons c s =>
    obtain ⟨noBlank, noEnd, noMark⟩ := ahead_cons.mp stops
    obtain ⟨noFeed, noReturn⟩ := not_or.mp noEnd
    simp [skipLines, noReturn, isSpace_eq_false noBlank]

end Gaps

section Ends

variable {s : List Char}

def closers : List Char := ['\n', '\r', '#', ',', ']', '\x7d']

def Ends (s : List Char) : Prop := Ahead (· ∈ closers) (skipSpaces s)

theorem Ends.ahead {Allowed : Char → Prop} (h : Ends s) (blank : ∀ c, IsBlank c → Allowed c)
    (closer : ∀ c ∈ closers, Allowed c) : Ahead Allowed s := by
  obtain ⟨b, split, blanks⟩ := blanks_of_skipSpaces s
  rw [split]
  exact ahead_blanks blanks blank (Ahead.imp closer h)

end Ends

end UrlHandoff.Document
