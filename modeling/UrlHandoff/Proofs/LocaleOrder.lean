import Mathlib.Data.List.Forall2
import UrlHandoff.Proofs.TranslationSearch

namespace UrlHandoff.Locale

def singleVars : List String := ["LC_ALL", "LC_MESSAGES", "LANG"]

def Sets (lookup : Lookup) (var value : String) : Prop := lookup var = some value ∧ value ≠ ""

inductive NamesListed (lookup : Lookup) : List String → Prop
  | unset (h : ∀ list, ¬Sets lookup "LANGUAGE" list) : NamesListed lookup []
  | set {list : String} {parts : List String} (h : Sets lookup "LANGUAGE" list)
      (divides : Divides parts list) : NamesListed lookup parts

/-- The first variable that names something decides. Its value is one name, colons and all. -/
inductive NamesOne (lookup : Lookup) : List String → Prop
  | unset (h : ∀ var ∈ singleVars, ∀ value, ¬Sets lookup var value) : NamesOne lookup []
  | set {before after : List String} {var value : String}
      (order : singleVars = before ++ var :: after)
      (passed : ∀ earlier ∈ before, ∀ other, ¬Sets lookup earlier other)
      (h : Sets lookup var value) : NamesOne lookup [value]

inductive Expands (name : String) : List String → Prop
  | untranslated {base : String} (cuts : Cuts name base) (skipped : Untranslated base) :
      Expands name []
  | plain {base : String} (cuts : Cuts name base) (asked : ¬Untranslated base)
      (speechless : ∀ language, ¬SpeaksLanguage base language) : Expands name [base]
  | regional {base language : String} (cuts : Cuts name base) (asked : ¬Untranslated base)
      (speaks : SpeaksLanguage base language) : Expands name [base, language]

inductive AsksFor (lookup : Lookup) : List String → Prop
  | names {listed one : List String} {expansions : List (List String)}
      (namesListed : NamesListed lookup listed) (namesOne : NamesOne lookup one)
      (expands : List.Forall₂ Expands (listed ++ one) expansions) :
      AsksFor lookup expansions.flatten

section Dedup

variable {α : Type} [BEq α] [LawfulBEq α]

theorem idxOf_filter_lt_iff {p : α → Bool} {a b : α} (ha : p a = true) (hb : p b = true)
    (l : List α) : (l.filter p).idxOf a < (l.filter p).idxOf b ↔ l.idxOf a < l.idxOf b := by
  induction l with
  | nil => rfl
  | cons c rest ih =>
    by_cases hca : c = a
    · subst hca
      rw [List.filter_cons_of_pos ha]
      by_cases hcb : c = b
      · simp [hcb]
      · simp [List.idxOf_cons_ne _ hcb]
    by_cases hcb : c = b
    · subst hcb
      rw [List.filter_cons_of_pos hb]
      simp
    · rw [List.idxOf_cons_ne _ hca, List.idxOf_cons_ne _ hcb, Nat.succ_lt_succ_iff, ← ih]
      by_cases hc : p c = true
      · rw [List.filter_cons_of_pos hc, List.idxOf_cons_ne _ hca, List.idxOf_cons_ne _ hcb,
          Nat.succ_lt_succ_iff]
      · rw [List.filter_cons_of_neg hc]

theorem nodup_eraseDups : ∀ l : List α, l.eraseDups.Nodup
  | [] => List.nodup_nil
  | a :: rest => by
    have shorter : (rest.filter fun b => !b == a).length < rest.length + 1 :=
      Nat.lt_succ_of_le (List.length_filter_le _ _)
    rw [List.eraseDups_cons, List.nodup_cons]
    exact ⟨by simp, nodup_eraseDups _⟩
termination_by l => l.length

theorem idxOf_eraseDups_lt_iff (a b : α) :
    ∀ l : List α, l.eraseDups.idxOf a < l.eraseDups.idxOf b ↔ l.idxOf a < l.idxOf b
  | [] => Iff.rfl
  | c :: rest => by
    have shorter : (rest.filter fun b => !b == c).length < rest.length + 1 :=
      Nat.lt_succ_of_le (List.length_filter_le _ _)
    rw [List.eraseDups_cons]
    by_cases hca : c = a
    · subst hca
      by_cases hcb : c = b
      · simp [hcb]
      · simp [List.idxOf_cons_ne _ hcb]
    by_cases hcb : c = b
    · subst hcb
      simp
    · -- Nothing but `c` is left out, so what remains has the other two in the same order.
      have kept {d : α} (h : c ≠ d) : (!d == c) = true := by simpa using Ne.symm h
      rw [List.idxOf_cons_ne _ hca, List.idxOf_cons_ne _ hcb, List.idxOf_cons_ne _ hca,
        List.idxOf_cons_ne _ hcb, Nat.succ_lt_succ_iff, Nat.succ_lt_succ_iff,
        idxOf_eraseDups_lt_iff]
      exact idxOf_filter_lt_iff (p := fun d => !d == c) (kept hca) (kept hcb) rest
termination_by l => l.length

end Dedup

theorem valueOf_eq_some_iff_sets (lookup : Lookup) (var value : String) :
    valueOf lookup var = some value ↔ Sets lookup var value :=
  valueOf_eq_some_iff lookup var value

theorem valueOf_eq_none_iff_sets (lookup : Lookup) (var : String) :
    valueOf lookup var = none ↔ ∀ value, ¬Sets lookup var value := by
  simp only [Option.eq_none_iff_forall_not_mem, Option.mem_def, valueOf_eq_some_iff_sets]

theorem namesListed_iff (lookup : Lookup) (listed : List String) :
    NamesListed lookup listed ↔ listedNames lookup = listed := by
  rw [listedNames]
  constructor
  · intro h
    cases h with
    | unset h =>
      rw [(valueOf_eq_none_iff_sets _ _).mpr h]
    | set h divides =>
      rw [(valueOf_eq_some_iff_sets _ _ _).mpr h]
      exact (divides_iff _ _).mp divides
  · rintro rfl
    cases h : valueOf lookup "LANGUAGE" with
    | none => exact .unset ((valueOf_eq_none_iff_sets _ _).mp h)
    | some list =>
      exact .set ((valueOf_eq_some_iff_sets _ _ _).mp h) ((divides_iff _ _).mpr rfl)

theorem singleName?_of_sets {lookup : Lookup} {before after : List String} {var value : String}
    (order : singleVars = before ++ var :: after)
    (passed : ∀ earlier ∈ before, ∀ other, ¬Sets lookup earlier other)
    (h : Sets lookup var value) : singleName? lookup = some value := by
  apply List.findSome?_eq_some_iff.mpr
  refine ⟨before, var, after, order, (valueOf_eq_some_iff_sets _ _ _).mpr h, ?_⟩
  intro earlier member
  exact (valueOf_eq_none_iff_sets _ _).mpr (passed earlier member)

theorem namesOne_iff (lookup : Lookup) (one : List String) :
    NamesOne lookup one ↔ (singleName? lookup).toList = one := by
  constructor
  · intro h
    cases h with
    | unset h =>
      have missing : singleName? lookup = none := by
        apply List.findSome?_eq_none_iff.mpr
        intro var member
        exact (valueOf_eq_none_iff_sets _ _).mpr (h var member)
      rw [missing]
      rfl
    | set order passed h =>
      rw [singleName?_of_sets order passed h]
      rfl
  · rintro rfl
    cases found : singleName? lookup with
    | none =>
      refine .unset fun var member => ?_
      exact (valueOf_eq_none_iff_sets _ _).mp (List.findSome?_eq_none_iff.mp found var member)
    | some value =>
      obtain ⟨before, var, after, order, hit, missed⟩ := List.findSome?_eq_some_iff.mp found
      refine .set order ?_ ((valueOf_eq_some_iff_sets _ _ _).mp hit)
      intro earlier member
      exact (valueOf_eq_none_iff_sets _ _).mp (missed earlier member)

theorem expands_iff (name : String) (pieces : List String) :
    Expands name pieces ↔ expansion name = pieces := by
  constructor
  · intro h
    cases h with
    | untranslated cuts skipped =>
      obtain rfl := (cuts_iff _ _).mp cuts
      exact expansion_of_isUntranslated ((isUntranslated_iff _).mpr skipped)
    | plain cuts asked speechless =>
      obtain rfl := (cuts_iff _ _).mp cuts
      have none : language? (base name) = none := by
        rw [Option.eq_none_iff_forall_ne_some]
        intro language h
        exact speechless language ((language?_eq_some_iff _ _).mp h)
      rw [expansion_of_asked asked, none]
      rfl
    | regional cuts asked speaks =>
      obtain rfl := (cuts_iff _ _).mp cuts
      rw [expansion_of_asked asked, (language?_eq_some_iff _ _).mpr speaks]
      rfl
  · rintro rfl
    have cuts : Cuts name (base name) := (cuts_iff _ _).mpr rfl
    by_cases skipped : Untranslated (base name)
    · rw [expansion_of_isUntranslated ((isUntranslated_iff _).mpr skipped)]
      exact .untranslated cuts skipped
    · rw [expansion_of_asked skipped]
      cases h : language? (base name) with
      | none =>
        refine .plain cuts skipped fun language speaks => ?_
        rw [(language?_eq_some_iff _ _).mpr speaks] at h
        cases h
      | some language => exact .regional cuts skipped ((language?_eq_some_iff _ _).mp h)

theorem forall₂_expands_iff (names : List String) (expansions : List (List String)) :
    List.Forall₂ Expands names expansions ↔ names.map expansion = expansions := by
  have same : Expands = fun name pieces => expansion name = pieces := by
    funext name pieces
    exact propext (expands_iff name pieces)
  rw [same, ← List.forall₂_map_left_iff (R := Eq), List.forall₂_eq_eq_eq]

theorem asksFor_iff (lookup : Lookup) (asked : List String) :
    AsksFor lookup asked ↔ (names lookup).flatMap expansion = asked := by
  constructor
  · rintro ⟨namesListed, namesOne, expands⟩
    obtain rfl := (namesListed_iff _ _).mp namesListed
    obtain rfl := (namesOne_iff _ _).mp namesOne
    obtain rfl := (forall₂_expands_iff _ _).mp expands
    exact List.flatMap_def
  · rintro rfl
    rw [List.flatMap_def]
    exact .names ((namesListed_iff _ _).mpr rfl) ((namesOne_iff _ _).mpr rfl)
      ((forall₂_expands_iff _ _).mpr rfl)

theorem findSome?_congr {β : Type} {f g : String → Option β} {l : List String}
    (h : ∀ a ∈ l, f a = g a) : l.findSome? f = l.findSome? g := by
  induction l with
  | nil => rfl
  | cons a rest ih =>
    rw [List.findSome?_cons, List.findSome?_cons, h a List.mem_cons_self,
      ih fun b member => h b (List.mem_cons_of_mem a member)]

theorem names_congr {lookup other : Lookup}
    (agree : ∀ var ∈ "LANGUAGE" :: singleVars, other var = lookup var) :
    names other = names lookup := by
  have same (var : String) (member : var ∈ "LANGUAGE" :: singleVars) :
      valueOf other var = valueOf lookup var := by
    rw [valueOf, valueOf, agree var member]
  have single : singleName? other = singleName? lookup :=
    findSome?_congr fun var member => same var (List.mem_cons_of_mem _ member)
  rw [names, names, listedNames, listedNames, same "LANGUAGE" List.mem_cons_self, single]

theorem names_of_agree {lookup other : Lookup} {before after : List String} {var value : String}
    (order : singleVars = before ++ var :: after) (h : Sets lookup var value)
    (agree : ∀ earlier ∈ "LANGUAGE" :: before ++ [var], other earlier = lookup earlier) :
    names other = names lookup := by
  have same (earlier : String) (member : earlier ∈ "LANGUAGE" :: before ++ [var]) :
      valueOf other earlier = valueOf lookup earlier := by
    rw [valueOf, valueOf, agree earlier member]
  have hit := (valueOf_eq_some_iff_sets lookup var value).mpr h
  have single (any : Lookup) : singleName? any =
      (before.findSome? (valueOf any)).or ((var :: after).findSome? (valueOf any)) := by
    rw [singleName?, ← List.findSome?_append, ← order]
    rfl
  have passed : before.findSome? (valueOf other) = before.findSome? (valueOf lookup) :=
    findSome?_congr fun earlier member => same earlier (by simp [member])
  rw [names, names, listedNames, listedNames, same "LANGUAGE" (by simp), single, single, passed,
    List.findSome?_cons, List.findSome?_cons, same var (by simp), hit]

theorem candidates_in_order (lookup : Lookup) :
    ∃ asked, (∀ other, AsksFor lookup other ↔ other = asked) ∧
      (candidates lookup).Nodup ∧ (∀ locale, locale ∈ candidates lookup ↔ locale ∈ asked) ∧
      (∀ first ∈ asked, ∀ second ∈ asked,
        (candidates lookup).idxOf first < (candidates lookup).idxOf second ↔
          asked.idxOf first < asked.idxOf second) ∧
      ∀ before var after value, singleVars = before ++ var :: after → Sets lookup var value →
        ∀ other : Lookup,
          (∀ earlier ∈ "LANGUAGE" :: before ++ [var], other earlier = lookup earlier) →
            candidates other = candidates lookup := by
  refine ⟨(names lookup).flatMap expansion, ?_, nodup_eraseDups _, ?_, ?_, ?_⟩
  · intro other
    rw [asksFor_iff]
    exact eq_comm
  · intro locale
    exact List.mem_eraseDups
  · intro first _ second _
    exact idxOf_eraseDups_lt_iff first second _
  · intro before var after value order h other agree
    rw [candidates, candidates, names_of_agree order h agree]

theorem candidates_in_order_behind_untranslated :
    let lookup : Lookup := fun var =>
      if var = "LANGUAGE" then some "de_AT@x:de:C" else if var = "LC_ALL" then some " POSIX.y" else
        if var = "LANG" then some "fr" else none
    let other : Lookup := fun var => if var = "LANG" then some "it" else lookup var
    candidates lookup = ["de_AT", "de"] ∧ candidates other = candidates lookup := by
  intro lookup other
  obtain ⟨-, -, -, -, -, masked⟩ := candidates_in_order lookup
  refine ⟨by decide +kernel, ?_⟩
  refine masked [] "LC_ALL" ["LC_MESSAGES", "LANG"] " POSIX.y" rfl ⟨by decide, by decide⟩ other ?_
  intro earlier member
  obtain rfl | rfl : earlier = "LANGUAGE" ∨ earlier = "LC_ALL" := by simpa using member
  · decide
  · decide

end UrlHandoff.Locale
