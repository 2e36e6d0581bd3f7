import Mathlib.Data.List.TakeWhile
import UrlHandoff.Environment
import UrlHandoff.Proofs.SeparatedParts

namespace UrlHandoff.Locale

def Filled (env : Environment) (var value : String) : Prop :=
  env.get? var = some (Octets.ofText value) ∧ value ≠ ""

def Divides (parts : List String) (list : String) : Prop :=
  parts ≠ [] ∧ (∀ part ∈ parts, ':' ∉ part.toList) ∧ String.intercalate ":" parts = list

inductive Lists (env : Environment) : List String → Prop
  | unset (h : ∀ value, ¬Filled env "LANGUAGE" value) : Lists env []
  | filled {list : String} {parts : List String} (h : Filled env "LANGUAGE" list)
      (divides : Divides parts list) : Lists env parts

inductive FirstFilled (env : Environment) : List String → List String → Prop
  | nowhere : FirstFilled env [] []
  | here {var value : String} {rest : List String} (h : Filled env var value) :
      FirstFilled env (var :: rest) [value]
  | later {var : String} {rest found : List String}
      (h : ∀ value, ¬Filled env var value) (further : FirstFilled env rest found) :
      FirstFilled env (var :: rest) found

inductive Preferred (env : Environment) : List String → Prop
  | names {listed single : List String} (lists : Lists env listed)
      (first : FirstFilled env ["LC_ALL", "LC_MESSAGES", "LANG"] single) :
      Preferred env (listed ++ single)

def Trims (s t : List Char) : Prop :=
  ∃ left right, s = left ++ (t ++ right) ∧ (∀ c ∈ left, Text.isBlank c = true) ∧
    (∀ c ∈ right, Text.isBlank c = true) ∧ (∀ c ∈ t.head?, Text.isBlank c = false) ∧
      ∀ c ∈ t.getLast?, Text.isBlank c = false

def Cuts (name base : String) : Prop :=
  ∃ front back, name.toList = front ++ back ∧ (∀ c ∈ front, c ≠ '.' ∧ c ≠ '@') ∧
    (∀ c ∈ back.head?, c = '.' ∨ c = '@') ∧ Trims front base.toList

def SpeaksLanguage (base language : String) : Prop :=
  language ≠ "" ∧ '_' ∉ language.toList ∧
    ∃ territory, base.toList = language.toList ++ '_' :: territory

theorem valueOf_eq_some_iff_filled (env : Environment) (var value : String) :
    valueOf env.text? var = some value ↔ Filled env var value := by
  rw [valueOf_eq_some_iff, Environment.text?_eq_some_iff, Filled]

theorem valueOf_eq_none_iff (env : Environment) (var : String) :
    valueOf env.text? var = none ↔ ∀ value, ¬Filled env var value := by
  simp only [Option.eq_none_iff_forall_not_mem, Option.mem_def, valueOf_eq_some_iff_filled]

theorem divides_iff (parts : List String) (list : String) :
    Divides parts list ↔ (list.toList.splitOn ':').map String.ofList = parts := by
  constructor
  · rintro ⟨nonempty, colonless, rfl⟩
    have pieces : ∀ piece ∈ parts.map String.toList, ':' ∉ piece := by
      simpa only [List.forall_mem_map] using colonless
    rw [String.toList_intercalate]
    change (([':'].intercalate (parts.map String.toList)).splitOn ':').map _ = _
    rw [List.splitOn_intercalate ':' pieces (by simpa using nonempty), List.map_map]
    simp [Function.comp_def]
  · rintro rfl
    refine ⟨by simp, ?_, ?_⟩
    · intro part member
      obtain ⟨piece, hpiece, rfl⟩ := List.mem_map.mp member
      simpa using not_mem_of_mem_splitOn hpiece
    · apply String.toList_injective
      rw [String.toList_intercalate, List.map_map]
      simp only [Function.comp_def, String.toList_ofList, List.map_id']
      exact List.intercalate_splitOn ':'

theorem lists_iff (env : Environment) (listed : List String) :
    Lists env listed ↔ listedNames env.text? = listed := by
  rw [listedNames]
  cases h : valueOf env.text? "LANGUAGE" with
  | none =>
    have unset := (valueOf_eq_none_iff env "LANGUAGE").mp h
    constructor
    · intro lists
      cases lists with
      | unset => rfl
      | filled h' => exact absurd h' (unset _)
    · rintro rfl
      exact .unset unset
  | some list =>
    have filled := (valueOf_eq_some_iff_filled env "LANGUAGE" list).mp h
    constructor
    · intro lists
      cases lists with
      | unset h' => exact absurd filled (h' list)
      | filled h' divides =>
        have same := (valueOf_eq_some_iff_filled env "LANGUAGE" _).mpr h'
        rw [h, Option.some.injEq] at same
        subst same
        exact (divides_iff _ _).mp divides
    · intro parts
      exact .filled filled ((divides_iff _ _).mpr parts)

theorem firstFilled_iff (env : Environment) (vars found : List String) :
    FirstFilled env vars found ↔
      (vars.findSome? (valueOf env.text?)).toList = found := by
  induction vars with
  | nil =>
    constructor
    · rintro ⟨⟩
      rfl
    · rintro rfl
      exact .nowhere
  | cons var rest ih =>
    rw [List.findSome?_cons]
    cases h : valueOf env.text? var with
    | none =>
      have unset := (valueOf_eq_none_iff env var).mp h
      rw [← ih]
      constructor
      · intro first
        cases first with
        | here filled => exact absurd filled (unset _)
        | later _ further => exact further
      · exact .later unset
    | some value =>
      have filled := (valueOf_eq_some_iff_filled env var value).mp h
      constructor
      · intro first
        cases first with
        | here h' =>
          have same := (valueOf_eq_some_iff_filled env var _).mpr h'
          rw [h, Option.some.injEq] at same
          rw [same]
          rfl
        | later unset _ => exact absurd filled (unset value)
      · rintro rfl
        exact .here filled

theorem preferred_iff (env : Environment) (preferred : List String) :
    Preferred env preferred ↔ names env.text? = preferred := by
  constructor
  · rintro ⟨lists, first⟩
    rw [names, singleName?, (lists_iff _ _).mp lists, (firstFilled_iff _ _ _).mp first]
  · rintro rfl
    exact .names ((lists_iff _ _).mpr rfl) ((firstFilled_iff _ _ _).mpr rfl)

theorem trim_of_trims {s t : List Char} (h : Trims s t) : Text.trim s = t := by
  obtain ⟨left, right, rfl, hleft, hright, head, last⟩ := h
  have start : Text.trimStart (left ++ (t ++ right)) = Text.trimStart (t ++ right) :=
    List.dropWhile_append_of_pos hleft
  have front : Text.trimEnd (t ++ right) = t := by
    have back : Text.trimStart (right.reverse ++ t.reverse) = Text.trimStart t.reverse :=
      List.dropWhile_append_of_pos (by simpa using hright)
    rw [Text.trimEnd, List.reverse_append, back, Text.trimStart_eq_self, List.reverse_reverse]
    simpa using last
  rw [Text.trim, start]
  cases t with
  | nil =>
    have blank : Text.trimStart right = [] := List.dropWhile_eq_nil_iff.mpr hright
    rw [List.nil_append, blank]
    rfl
  | cons c rest =>
    rw [Text.trimStart_eq_self _ (by simpa using head), front]

theorem trims_trim (s : List Char) : Trims s (Text.trim s) := by
  have front : s = s.takeWhile Text.isBlank ++ Text.trimStart s :=
    (List.takeWhile_append_dropWhile).symm
  have back : Text.trimStart s =
      Text.trim s ++ ((Text.trimStart s).reverse.takeWhile Text.isBlank).reverse := by
    have whole := List.takeWhile_append_dropWhile (p := Text.isBlank)
      (l := (Text.trimStart s).reverse)
    rw [Text.trim, Text.trimEnd, ← List.reverse_append, Text.trimStart.eq_1 (List.reverse _),
      whole, List.reverse_reverse]
  refine ⟨_, _, front.trans (congrArg _ back), ?_, ?_, ?_, ?_⟩
  · intro c member
    exact List.mem_takeWhile_imp member
  · intro c member
    exact List.mem_takeWhile_imp (List.mem_reverse.mp member)
  · intro c hc
    apply Text.trimStart_head s
    rw [back, List.head?_append, Option.mem_def.mp hc]
    rfl
  · intro c hc
    rw [Text.trim, Text.trimEnd, List.getLast?_reverse] at hc
    exact Text.trimStart_head _ c hc

theorem startsMarker_iff (c : Char) : startsMarker c = true ↔ c = '.' ∨ c = '@' := by
  simp [startsMarker]

theorem not_startsMarker_iff (c : Char) : startsMarker c = false ↔ c ≠ '.' ∧ c ≠ '@' := by
  simp [startsMarker]

theorem takeWhile_of_plain {front back : List Char} (plain : ∀ c ∈ front, c ≠ '.' ∧ c ≠ '@')
    (marker : ∀ c ∈ back.head?, c = '.' ∨ c = '@') :
    (front ++ back).takeWhile (fun c => !startsMarker c) = front := by
  rw [List.takeWhile_append_of_pos (by simpa [not_startsMarker_iff] using plain)]
  cases back with
  | nil => simp
  | cons c rest =>
    have ends : startsMarker c = true := (startsMarker_iff c).mpr (marker c rfl)
    rw [List.takeWhile_cons_of_neg (by simp [ends]), List.append_nil]

theorem cuts_iff (name cut : String) : Cuts name cut ↔ base name = cut := by
  constructor
  · rintro ⟨front, back, whole, plain, marker, trims⟩
    rw [base, whole, takeWhile_of_plain plain marker, trim_of_trims trims, String.ofList_toList]
  · rintro rfl
    refine ⟨_, _, (List.takeWhile_append_dropWhile (p := fun c => !startsMarker c)).symm,
      ?_, ?_, ?_⟩
    · intro c member
      have plain := List.mem_takeWhile_imp (p := fun c => !startsMarker c) member
      rwa [← not_startsMarker_iff, ← Bool.not_eq_true']
    · intro c hc
      have marker := List.head?_dropWhile_not (fun c => !startsMarker c) name.toList
      rw [Option.mem_def.mp hc] at marker
      rw [← startsMarker_iff]
      simpa using marker
    · rw [base, String.toList_ofList]
      exact trims_trim _

theorem takeWhile_of_underscore {front : List Char} (h : '_' ∉ front) (back : List Char) :
    (front ++ '_' :: back).takeWhile (· ≠ '_') = front := by
  have plain : ∀ c ∈ front, decide (c ≠ '_') = true := by
    intro c member
    apply decide_eq_true
    rintro rfl
    exact h member
  rw [List.takeWhile_append_of_pos plain, List.takeWhile_cons_of_neg (by simp), List.append_nil]

theorem language?_eq_some_iff (base language : String) :
    language? base = some language ↔ SpeaksLanguage base language := by
  constructor
  · intro h
    simp only [language?, Option.ite_none_right_eq_some, Option.ite_none_left_eq_some,
      Option.some.injEq] at h
    obtain ⟨member, nonempty, rfl⟩ := h
    obtain ⟨front, back, whole, absent⟩ := List.eq_append_cons_of_mem member
    rw [whole, takeWhile_of_underscore absent] at nonempty ⊢
    exact ⟨nonempty, by simpa using absent, back, by rw [whole, String.toList_ofList]⟩
  · rintro ⟨nonempty, absent, back, whole⟩
    rw [language?, whole, takeWhile_of_underscore absent, String.ofList_toList]
    simp [nonempty]

end UrlHandoff.Locale
