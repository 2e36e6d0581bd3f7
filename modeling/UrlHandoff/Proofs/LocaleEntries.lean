import UrlHandoff.Proofs.LocaleOrder

namespace UrlHandoff.Locale

structure WellBegun (locale : String) : Prop where
  nonempty : locale ≠ ""
  head : ∀ c ∈ locale.toList.head?, Text.isBlank c = false
  unmarked : ∀ c ∈ locale.toList, c ≠ '.' ∧ c ≠ '@'

/-- What a language may lack although the name it is cut out of has it. -/
structure WellEnded (locale : String) : Prop where
  last : ∀ c ∈ locale.toList.getLast?, Text.isBlank c = false
  translated : locale ≠ "C" ∧ locale ≠ "POSIX"

structure Clean (locale : String) : Prop extends WellBegun locale, WellEnded locale

theorem SpeaksLanguage.unique {base language other : String} (speaks : SpeaksLanguage base language)
    (h : SpeaksLanguage base other) : other = language := by
  have same := (language?_eq_some_iff base other).mpr h
  rw [(language?_eq_some_iff base language).mpr speaks, Option.some.injEq] at same
  exact same.symm

theorem SpeaksLanguage.underscore {base language : String} (speaks : SpeaksLanguage base language) :
    '_' ∈ base.toList := by
  obtain ⟨-, -, territory, whole⟩ := speaks
  simp [whole]

theorem SpeaksLanguage.speechless {base language : String} (speaks : SpeaksLanguage base language)
    (other : String) : ¬SpeaksLanguage language other :=
  fun further => speaks.2.1 further.underscore

theorem SpeaksLanguage.ne {base language : String} (speaks : SpeaksLanguage base language) :
    language ≠ base := by
  rintro rfl
  exact speaks.speechless _ speaks

theorem expansion_empty : expansion "" = [] := by decide

theorem mem_expansion_of_asked {name : String} (asked : ¬Untranslated (base name))
    (locale : String) :
    locale ∈ expansion name ↔ locale = base name ∨ SpeaksLanguage (base name) locale := by
  rw [expansion_of_asked asked, List.mem_cons, Option.mem_toList, language?_eq_some_iff]

theorem mem_expansion_iff (name locale : String) :
    locale ∈ expansion name ↔
      ∃ base, Cuts name base ∧ ¬Untranslated base ∧
        (locale = base ∨ SpeaksLanguage base locale) := by
  constructor
  · intro member
    have asked : ¬Untranslated (base name) := by
      intro skipped
      rw [expansion_of_isUntranslated ((isUntranslated_iff _).mpr skipped)] at member
      cases member
    exact ⟨_, (cuts_iff _ _).mpr rfl, asked, (mem_expansion_of_asked asked locale).mp member⟩
  · rintro ⟨base, cuts, asked, entry⟩
    obtain rfl := (cuts_iff _ _).mp cuts
    exact (mem_expansion_of_asked asked locale).mpr entry

theorem mem_candidates_iff (lookup : Lookup) (locale : String) :
    locale ∈ candidates lookup ↔ ∃ name ∈ names lookup, locale ∈ expansion name := by
  rw [candidates, List.mem_eraseDups, List.mem_flatMap]

theorem Clean.of_cuts {name base : String} (cuts : Cuts name base) (asked : ¬Untranslated base) :
    Clean base := by
  obtain ⟨front, back, -, plain, -, left, right, trimmed, -, -, head, last⟩ := cuts
  refine ⟨⟨?_, head, ?_⟩, last, ?_⟩
  · exact fun empty => asked (.inl empty)
  · intro c member
    exact plain c (by simp [trimmed, member])
  · exact ⟨fun same => asked (.inr (.inl same)), fun same => asked (.inr (.inr same))⟩

theorem WellBegun.language {base language : String} (begun : WellBegun base)
    (speaks : SpeaksLanguage base language) : WellBegun language := by
  obtain ⟨nonempty, -, territory, whole⟩ := speaks
  refine ⟨nonempty, ?_, ?_⟩
  · intro c first
    apply begun.head
    rw [whole, List.head?_append, Option.mem_def.mp first]
    rfl
  · intro c member
    exact begun.unmarked c (by simp [whole, member])

theorem candidates_clean_but_languages (lookup : Lookup) :
    (∀ locale ∈ candidates lookup, WellBegun locale ∧
      (WellEnded locale ∨ ∃ name ∈ names lookup, ∃ base, Cuts name base ∧ ¬Untranslated base ∧
        SpeaksLanguage base locale)) ∧
    ((∀ locale ∈ candidates lookup, Clean locale) ↔
      ∀ name ∈ names lookup, ∀ base language, Cuts name base → ¬Untranslated base →
        SpeaksLanguage base language → WellEnded language) := by
  simp only [mem_candidates_iff, mem_expansion_iff]
  refine ⟨?_, ?_, ?_⟩
  · rintro locale ⟨name, member, base, cuts, asked, rfl | speaks⟩
    · exact ⟨(Clean.of_cuts cuts asked).toWellBegun, .inl (Clean.of_cuts cuts asked).toWellEnded⟩
    · exact ⟨(Clean.of_cuts cuts asked).toWellBegun.language speaks,
        .inr ⟨name, member, base, cuts, asked, speaks⟩⟩
  · intro clean name member base language cuts asked speaks
    exact (clean language ⟨name, member, base, cuts, asked, .inr speaks⟩).toWellEnded
  · rintro ended locale ⟨name, member, base, cuts, asked, rfl | speaks⟩
    · exact .of_cuts cuts asked
    · exact ⟨(Clean.of_cuts cuts asked).toWellBegun.language speaks,
        ended name member base locale cuts asked speaks⟩

theorem candidates_unclean_of_region :
    let lookup (value : String) : Lookup := fun var => if var = "LANG" then some value else none
    candidates (lookup "C_US") = ["C_US", "C"] ∧
      candidates (lookup "de _DE") = ["de _DE", "de "] ∧
      ¬∀ lookup, ∀ locale ∈ candidates lookup, Clean locale := by
  intro lookup
  have named : candidates (lookup "C_US") = ["C_US", "C"] := by decide +kernel
  refine ⟨named, by decide +kernel, ?_⟩
  intro clean
  exact (clean (lookup "C_US") "C" (by simp [named])).translated.1 rfl

end UrlHandoff.Locale
