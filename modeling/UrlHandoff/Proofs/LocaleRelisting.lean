import UrlHandoff.Proofs.LanguageFallback

namespace UrlHandoff.Locale

structure NamesLanguage (language : String) : Prop where
  nonempty : language ≠ ""
  letters : ∀ c ∈ language.toList, c.isAlpha = true
  translated : language ≠ "C" ∧ language ≠ "POSIX"

structure NamesTerritory (territory : String) : Prop where
  nonempty : territory ≠ ""
  letters : ∀ c ∈ territory.toList, c.isAlphanum = true

inductive NamesLocale : String → Prop
  | language {language : String} (h : NamesLanguage language) : NamesLocale language
  | regional {language territory : String} (h : NamesLanguage language)
      (region : NamesTerritory territory) : NamesLocale (language ++ "_" ++ territory)

inductive WellFormed : String → Prop
  | empty : WellFormed ""
  | written {base codeset modifier : String}
      (h : base = "C" ∨ base = "POSIX" ∨ NamesLocale base)
      (dotted : codeset = "" ∨ ∃ text, codeset = "." ++ text)
      (marked : modifier = "" ∨ ∃ text, modifier = "@" ++ text) :
      WellFormed (base ++ codeset ++ modifier)

def IsNameChar (c : Char) : Prop := c.isAlphanum = true ∨ c = '_'

theorem isAlphanum_iff (c : Char) :
    c.isAlphanum = true ↔
      ((65 ≤ c.toNat ∧ c.toNat ≤ 90) ∨ (97 ≤ c.toNat ∧ c.toNat ≤ 122)) ∨
        (48 ≤ c.toNat ∧ c.toNat ≤ 57) := by
  have tests : c.isAlphanum = ((decide (c.val ≥ 'A'.val ∧ c.val ≤ 'Z'.val) ||
      (decide (c.val ≥ 'a'.val) && decide (c.val ≤ 'z'.val))) ||
        (decide (c.val ≥ '0'.val) && decide (c.val ≤ '9'.val))) := rfl
  simp only [tests, Bool.or_eq_true, Bool.and_eq_true, decide_eq_true_eq]
  exact Iff.rfl

theorem IsNameChar.not_isBlank {c : Char} (h : IsNameChar c) : Text.isBlank c = false := by
  obtain h | rfl := h
  · rw [isAlphanum_iff] at h
    simp only [Text.isBlank, Text.blanks, CharRanges.contains, List.any_cons, List.any_nil,
      Bool.or_eq_false_iff, decide_eq_false_iff_not, and_true]
    omega
  · decide

theorem IsNameChar.ne {c : Char} (h : IsNameChar c) : c ≠ '.' ∧ c ≠ '@' ∧ c ≠ ':' := by
  have unlike (mark : Char) (foreign : ¬IsNameChar mark) : c ≠ mark := by
    rintro rfl
    exact foreign h
  exact ⟨unlike '.' (by simp [IsNameChar]), unlike '@' (by simp [IsNameChar]),
    unlike ':' (by simp [IsNameChar])⟩

theorem cuts_of_nameChars {base back : String} (plain : ∀ c ∈ base.toList, IsNameChar c)
    (marked : ∀ c ∈ back.toList.head?, c = '.' ∨ c = '@') : Cuts (base ++ back) base := by
  refine ⟨base.toList, back.toList, String.toList_append, ?_, marked, [], [], by simp, by simp,
    by simp, ?_, ?_⟩
  · intro c member
    exact ⟨(plain c member).ne.1, (plain c member).ne.2.1⟩
  · intro c first
    exact (plain c (List.mem_of_mem_head? first)).not_isBlank
  · intro c last
    exact (plain c (List.mem_of_mem_getLast? last)).not_isBlank

theorem NamesLanguage.nameChars {language : String} (h : NamesLanguage language) :
    ∀ c ∈ language.toList, IsNameChar c := by
  intro c member
  simp [IsNameChar, Char.isAlphanum, h.letters c member]

theorem NamesLanguage.no_underscore {language : String} (h : NamesLanguage language) :
    '_' ∉ language.toList := by
  intro member
  have letter := h.letters '_' member
  cases letter

theorem NamesLanguage.speaks {language : String} (h : NamesLanguage language)
    (territory : String) : SpeaksLanguage (language ++ "_" ++ territory) language :=
  ⟨h.nonempty, h.no_underscore, territory.toList, by simp⟩

namespace NamesLocale

theorem nameChars {locale : String} (h : NamesLocale locale) :
    ∀ c ∈ locale.toList, IsNameChar c := by
  intro c member
  cases h with
  | language h => exact h.nameChars c member
  | regional h region =>
    simp only [String.toList_append, List.mem_append] at member
    obtain (first | between) | last := member
    · exact h.nameChars c first
    · exact .inr (by simpa using between)
    · exact .inl (region.letters c last)

theorem asked {locale : String} (h : NamesLocale locale) : ¬Untranslated locale := by
  cases h with
  | language h =>
    rintro (empty | c | posix)
    · exact h.nonempty empty
    · exact h.translated.1 c
    · exact h.translated.2 posix
  | @regional language territory h region =>
    have underscore := (h.speaks territory).underscore
    rintro (same | same | same) <;> simp [same] at underscore

theorem language_of_speaks {locale language : String} (h : NamesLocale locale)
    (speaks : SpeaksLanguage locale language) : NamesLocale language := by
  cases h with
  | language h => exact absurd speaks.underscore h.no_underscore
  | regional h region =>
    obtain rfl := (h.speaks _).unique speaks
    exact .language h

theorem base_eq {locale : String} (h : NamesLocale locale) : base locale = locale := by
  have cuts : Cuts (locale ++ "") locale := cuts_of_nameChars h.nameChars (by simp)
  rw [String.append_empty] at cuts
  exact (cuts_iff _ _).mp cuts

theorem expansion_eq {locale : String} (h : NamesLocale locale) :
    expansion locale = locale :: (language? locale).toList := by
  have asked : ¬Untranslated (base locale) := by
    rw [h.base_eq]
    exact h.asked
  rw [expansion_of_asked asked, h.base_eq]

end NamesLocale

theorem head_of_marks {codeset modifier : String}
    (dotted : codeset = "" ∨ ∃ text, codeset = "." ++ text)
    (marked : modifier = "" ∨ ∃ text, modifier = "@" ++ text) :
    ∀ c ∈ (codeset ++ modifier).toList.head?, c = '.' ∨ c = '@' := by
  obtain rfl | ⟨text, rfl⟩ := dotted
  · obtain rfl | ⟨text, rfl⟩ := marked <;> simp
  · simp

theorem WellFormed.namesLocale {name locale : String} (h : WellFormed name)
    (member : locale ∈ expansion name) : NamesLocale locale := by
  obtain ⟨base, cuts, asked, entry⟩ := (mem_expansion_iff name locale).mp member
  cases h with
  | empty =>
    rw [expansion_empty] at member
    cases member
  | @written written codeset modifier h dotted marked =>
    have nameChars : ∀ c ∈ written.toList, IsNameChar c := by
      obtain rfl | rfl | h := h
      · simp [IsNameChar]
      · simp [IsNameChar]
      · exact h.nameChars
    have whole := cuts_of_nameChars nameChars (head_of_marks dotted marked)
    rw [← String.append_assoc, cuts_iff] at whole
    rw [cuts_iff, whole] at cuts
    subst cuts
    have h := (h.resolve_left fun same => asked (.inr (.inl same))).resolve_left fun same =>
      asked (.inr (.inr same))
    obtain rfl | speaks := entry
    · exact h
    · exact h.language_of_speaks speaks

theorem Accompanied.additions_expansions {seen l : List String} (h : Accompanied seen l)
    (nodup : l.Nodup) (unseen : ∀ locale ∈ l, locale ∉ seen)
    (locales : ∀ locale ∈ l, NamesLocale locale) :
    Locale.additions seen (l.flatMap expansion) = l := by
  induction h with
  | nil => rfl
  | @cons seen rest locale beside further ih =>
    rw [List.forall_mem_cons] at unseen locales
    rw [List.nodup_cons] at nodup
    have later : ∀ other ∈ rest, other ∉ locale :: seen := by
      intro other member
      rw [List.mem_cons, not_or]
      refine ⟨?_, unseen.2 other member⟩
      rintro rfl
      exact nodup.1 member
    have tail := ih nodup.2 later locales.2
    rw [List.flatMap_cons, locales.1.expansion_eq, List.cons_append,
      additions_cons_of_not_mem unseen.1]
    congr 1
    cases spoken : language? locale with
    | none => exact tail
    | some language =>
      -- Expanded once more the locale repeats its language, which stands somewhere before it
      -- already or is about to come.
      have speaks := (language?_eq_some_iff _ _).mp spoken
      rw [Option.toList_some, List.singleton_append]
      obtain earlier | next := beside language speaks
      · rw [additions_cons_of_mem (List.mem_cons_of_mem _ earlier)]
        exact tail
      · obtain ⟨others, rfl⟩ := List.head?_eq_some_iff.mp next
        have own := (locales.2 language List.mem_cons_self).expansion_eq
        rw [List.flatMap_cons, own, List.cons_append] at tail ⊢
        rw [additions_cons_twice]
        exact tail

def listing (list : String) : Lookup := fun var => if var = "LANGUAGE" then some list else none

theorem names_listing {parts : List String} (nonempty : "" ∉ parts)
    (colonless : ∀ part ∈ parts, ':' ∉ part.toList) :
    names (listing (String.intercalate ":" parts)) = parts := by
  have one : NamesOne (listing (String.intercalate ":" parts)) [] := by
    refine .unset ?_
    rintro var member value ⟨set, -⟩
    have other : var ≠ "LANGUAGE" := by
      rintro rfl
      revert member
      decide
    rw [listing, if_neg other] at set
    cases set
  rw [names, (namesOne_iff _ _).mp one, List.append_nil]
  rw [← namesListed_iff]
  by_cases none : parts = []
  · subst none
    refine .unset ?_
    rintro list ⟨set, filled⟩
    exact filled (Option.some.inj set).symm
  · have divides : Divides parts (String.intercalate ":" parts) := ⟨none, colonless, rfl⟩
    refine .set ⟨rfl, ?_⟩ divides
    intro empty
    rw [divides_iff, empty] at divides
    exact nonempty (by simp [← divides])

theorem namesLocale_of_mem_candidates {lookup : Lookup}
    (h : ∀ name ∈ names lookup, WellFormed name) :
    ∀ locale ∈ candidates lookup, NamesLocale locale := by
  intro locale member
  obtain ⟨name, named, entry⟩ := (mem_candidates_iff lookup locale).mp member
  exact (h name named).namesLocale entry

theorem candidates_listing_candidates (lookup : Lookup)
    (listed : ∀ parts, NamesListed lookup parts → ∀ part ∈ parts, WellFormed part)
    (one : ∀ chosen, NamesOne lookup chosen → ∀ name ∈ chosen, WellFormed name) :
    candidates (listing (String.intercalate ":" (candidates lookup))) = candidates lookup := by
  have wellFormed : ∀ name ∈ names lookup, WellFormed name := by
    rw [names, List.forall_mem_append]
    exact ⟨listed _ ((namesListed_iff _ _).mpr rfl), one _ ((namesOne_iff _ _).mpr rfl)⟩
  have locales := namesLocale_of_mem_candidates wellFormed
  have nonempty : "" ∉ candidates lookup := fun member => (locales "" member).asked (.inl rfl)
  have colonless : ∀ locale ∈ candidates lookup, ':' ∉ locale.toList := by
    intro locale member colon
    exact ((locales locale member).nameChars ':' colon).ne.2.2 rfl
  rw [candidates, names_listing nonempty colonless, ← additions_nothing_seen]
  exact (accompanied_candidates lookup).additions_expansions (nodup_eraseDups _) (by simp) locales

theorem candidates_listing_candidates_of_mixed_names :
    let lookup : Lookup := fun var =>
      if var = "LANGUAGE" then some "pt_BR.UTF-8::POSIX:de" else
        if var = "LANG" then some "de_AT.UTF-8@euro" else none
    names lookup = ["pt_BR.UTF-8", "", "POSIX", "de", "de_AT.UTF-8@euro"] ∧
      (∀ name ∈ names lookup, WellFormed name) ∧
      candidates lookup = ["pt_BR", "pt", "de", "de_AT"] ∧
      candidates (listing "pt_BR:pt:de:de_AT") = candidates lookup := by
  intro lookup
  have named : names lookup = ["pt_BR.UTF-8", "", "POSIX", "de", "de_AT.UTF-8@euro"] := by
    decide +kernel
  have german : NamesLanguage "de" := ⟨by decide, by simp, by decide⟩
  have portuguese : NamesLanguage "pt" := ⟨by decide, by simp, by decide⟩
  have brazil : NamesLocale ("pt" ++ "_" ++ "BR") := .regional portuguese ⟨by decide, by simp⟩
  have austria : NamesLocale ("de" ++ "_" ++ "AT") := .regional german ⟨by decide, by simp⟩
  have coded : WellFormed ("pt_BR" ++ ".UTF-8" ++ "") :=
    .written (.inr (.inr brazil)) (.inr ⟨"UTF-8", rfl⟩) (.inl rfl)
  have untranslated : WellFormed ("POSIX" ++ "" ++ "") :=
    .written (.inr (.inl rfl)) (.inl rfl) (.inl rfl)
  have bare : WellFormed ("de" ++ "" ++ "") :=
    .written (.inr (.inr (.language german))) (.inl rfl) (.inl rfl)
  have both : WellFormed ("de_AT" ++ ".UTF-8" ++ "@euro") :=
    .written (.inr (.inr austria)) (.inr ⟨"UTF-8", rfl⟩) (.inr ⟨"euro", rfl⟩)
  have wellFormed : ∀ name ∈ names lookup, WellFormed name := by
    rw [named]
    simp only [List.forall_mem_cons, List.not_mem_nil, false_imp_iff, implies_true, and_true]
    exact ⟨coded, .empty, untranslated, bare, both⟩
  have found : candidates lookup = ["pt_BR", "pt", "de", "de_AT"] := by decide +kernel
  have joined : String.intercalate ":" (candidates lookup) = "pt_BR:pt:de:de_AT" := by
    rw [found]
    decide
  refine ⟨named, wellFormed, found, ?_⟩
  rw [← joined]
  apply candidates_listing_candidates
  · intro parts listed part member
    rw [← (namesListed_iff _ _).mp listed] at member
    exact wellFormed part (List.mem_append_left _ member)
  · intro chosen one name member
    rw [← (namesOne_iff _ _).mp one] at member
    exact wellFormed name (List.mem_append_right _ member)

end UrlHandoff.Locale
