import UrlHandoff.Proofs.LocaleEntries

namespace UrlHandoff.Locale

section Additions

variable {α : Type} [BEq α] [LawfulBEq α] {seen : List α} {a : α}

def additions (seen l : List α) : List α := (l.filter fun a => !seen.contains a).eraseDups

theorem additions_nothing_seen (l : List α) : additions [] l = l.eraseDups := by
  simp [additions]

theorem additions_cons_of_mem (h : a ∈ seen) (l : List α) :
    additions seen (a :: l) = additions seen l := by
  simp [additions, h]

theorem additions_cons_of_not_mem (h : a ∉ seen) (l : List α) :
    additions seen (a :: l) = a :: additions (a :: seen) l := by
  have both : (fun b => (!b == a) && !seen.contains b) = fun b => !(a :: seen).contains b := by
    funext b
    rw [List.contains_cons, Bool.not_or]
  rw [additions, List.filter_cons_of_pos (by simpa using h), List.eraseDups_cons,
    List.filter_filter, both, additions]

theorem additions_cons_twice (seen l : List α) (a : α) :
    additions seen (a :: a :: l) = additions seen (a :: l) := by
  by_cases h : a ∈ seen
  · rw [additions_cons_of_mem h]
  · rw [additions_cons_of_not_mem h, additions_cons_of_mem List.mem_cons_self,
      additions_cons_of_not_mem h]

theorem head?_additions {l : List α} (first : l.head? = some a) (h : a ∉ seen) :
    (additions seen l).head? = some a := by
  obtain ⟨rest, rfl⟩ := List.head?_eq_some_iff.mp first
  rw [additions_cons_of_not_mem h, List.head?_cons]

end Additions

/-- The language of a regional name has been seen before it, or it comes next. -/
inductive Accompanied : List String → List String → Prop
  | nil {seen : List String} : Accompanied seen []
  | cons {seen rest : List String} {locale : String}
      (beside : ∀ language, SpeaksLanguage locale language →
        language ∈ seen ∨ rest.head? = some language)
      (further : Accompanied (locale :: seen) rest) : Accompanied seen (locale :: rest)

theorem Accompanied.mono {seen more l : List String} (h : Accompanied seen l)
    (sub : ∀ locale ∈ seen, locale ∈ more) : Accompanied more l := by
  induction h generalizing more with
  | nil => exact .nil
  | @cons seen rest locale beside further ih =>
    refine .cons ?_ (ih ?_)
    · intro language speaks
      exact (beside language speaks).imp_left (sub language)
    · intro other member
      obtain rfl | earlier := List.mem_cons.mp member
      · exact List.mem_cons_self
      · exact List.mem_cons_of_mem _ (sub other earlier)

theorem accompanied_expansions (seen names : List String) :
    Accompanied seen (names.flatMap expansion) := by
  induction names generalizing seen with
  | nil => exact .nil
  | cons name rest ih =>
    have expands := (expands_iff name _).mpr rfl
    rw [List.flatMap_cons]
    generalize expansion name = pieces at expands
    cases expands with
    | untranslated => exact ih seen
    | plain _ _ speechless =>
      refine .cons ?_ (ih _)
      intro other spoken
      exact absurd spoken (speechless other)
    | regional _ _ speaks =>
      refine .cons ?_ (.cons ?_ (ih _))
      · intro other spoken
        obtain rfl := speaks.unique spoken
        exact .inr rfl
      · intro other spoken
        exact absurd spoken (speaks.speechless other)

theorem Accompanied.additions {seen l : List String} (h : Accompanied seen l) :
    Accompanied seen (additions seen l) := by
  -- What is left out stood somewhere before, so no language gets away from its regional name to a
  -- later place. The locales seen grow along the list, the left out ones with them.
  induction l generalizing seen with
  | nil => exact .nil
  | cons locale rest ih =>
    cases h with
    | cons beside further =>
      by_cases old : locale ∈ seen
      · rw [additions_cons_of_mem old]
        apply ih
        apply further.mono
        simpa using old
      · rw [additions_cons_of_not_mem old]
        refine .cons ?_ (ih further)
        intro language speaks
        obtain earlier | next := beside language speaks
        · exact .inl earlier
        · by_cases known : language ∈ seen
          · exact .inl known
          · exact .inr (head?_additions next (by simp [speaks.ne, known]))

theorem accompanied_candidates (lookup : Lookup) : Accompanied [] (candidates lookup) := by
  rw [candidates, ← additions_nothing_seen]
  exact (accompanied_expansions _ _).additions

theorem Accompanied.append_right {seen before l : List String}
    (h : Accompanied seen (before ++ l)) : Accompanied (before.reverse ++ seen) l := by
  induction before generalizing seen with
  | nil => exact h
  | cons locale rest ih =>
    cases h with
    | cons _ further =>
      have later := ih further
      rwa [List.reverse_cons, List.append_assoc]

theorem Accompanied.beside {before after : List String} {regional language : String}
    (h : Accompanied [] (before ++ regional :: after)) (speaks : SpeaksLanguage regional language) :
    language ∈ before ∨ after.head? = some language := by
  cases h.append_right with
  | cons beside _ => simpa using beside language speaks

theorem language_near_regional (lookup : Lookup) {regional language : String}
    (member : regional ∈ candidates lookup) (speaks : SpeaksLanguage regional language) :
    language ∈ candidates lookup ∧
      ((candidates lookup).idxOf language < (candidates lookup).idxOf regional ∨
        (candidates lookup).idxOf language = (candidates lookup).idxOf regional + 1) ∧
      ∀ other, (candidates lookup).idxOf regional < (candidates lookup).idxOf other →
        ¬(candidates lookup).idxOf other < (candidates lookup).idxOf language := by
  obtain ⟨before, after, order, absent⟩ := List.eq_append_cons_of_mem member
  have accompanied := accompanied_candidates lookup
  rw [order] at accompanied ⊢
  have place : (before ++ regional :: after).idxOf regional = before.length := by
    rw [List.idxOf_append_of_notMem absent, List.idxOf_cons_self, Nat.add_zero]
  rw [place]
  by_cases earlier : language ∈ before
  · have front : (before ++ regional :: after).idxOf language < before.length := by
      rw [List.idxOf_append_of_mem earlier]
      exact List.idxOf_lt_length_of_mem earlier
    refine ⟨by simp [earlier], .inl front, ?_⟩
    intro other behind
    omega
  · have next := (accompanied.beside speaks).resolve_left earlier
    obtain ⟨rest, rfl⟩ := List.head?_eq_some_iff.mp next
    have behind : (before ++ regional :: language :: rest).idxOf language = before.length + 1 := by
      rw [List.idxOf_append_of_notMem earlier, List.idxOf_cons_ne _ speaks.ne.symm,
        List.idxOf_cons_self]
    refine ⟨by simp, .inr behind, ?_⟩
    intro other later
    omega

theorem language_near_regional_of_shared_languages :
    let lookup : Lookup := fun var =>
      if var = "LANGUAGE" then some "pt_BR.UTF-8:de:fr_CA:pt_PT" else
        if var = "LANG" then some "de_AT@euro" else none
    candidates lookup = ["pt_BR", "pt", "de", "fr_CA", "fr", "pt_PT", "de_AT"] ∧
      SpeaksLanguage "fr_CA" "fr" ∧ SpeaksLanguage "de_AT" "de" ∧
      (candidates lookup).idxOf "fr" = (candidates lookup).idxOf "fr_CA" + 1 ∧
      (candidates lookup).idxOf "de" < (candidates lookup).idxOf "de_AT" := by
  intro lookup
  have listed : candidates lookup = ["pt_BR", "pt", "de", "fr_CA", "fr", "pt_PT", "de_AT"] := by
    decide +kernel
  have french : SpeaksLanguage "fr_CA" "fr" := ⟨by decide, by decide, "CA".toList, by decide⟩
  have german : SpeaksLanguage "de_AT" "de" := ⟨by decide, by decide, "AT".toList, by decide⟩
  obtain ⟨-, frenchPlace, -⟩ := language_near_regional lookup (by simp [listed]) french
  obtain ⟨-, germanPlace, -⟩ := language_near_regional lookup (by simp [listed]) german
  refine ⟨listed, french, german, ?_, ?_⟩
  · apply frenchPlace.resolve_left
    rw [listed]
    decide
  · apply germanPlace.resolve_right
    rw [listed]
    decide

end UrlHandoff.Locale
