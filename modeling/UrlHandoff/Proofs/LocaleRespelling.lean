import Mathlib.Logic.Relation
import UrlHandoff.Proofs.LocaleEntries

namespace UrlHandoff.Locale

def Blank (text : String) : Prop := ∀ c ∈ text.toList, Text.isBlank c = true

def Unmarked (text : String) : Prop := ∀ c ∈ text.toList, c ≠ '.' ∧ c ≠ '@'

def Marks (text : String) : Prop := ∀ c ∈ text.toList.head?, c = '.' ∨ c = '@'

instance : DecidablePred Blank := fun text =>
  List.decidableBAll (fun c => Text.isBlank c = true) text.toList

instance : DecidablePred Unmarked := fun text =>
  List.decidableBAll (fun c => c ≠ '.' ∧ c ≠ '@') text.toList

instance : DecidablePred Marks := fun text =>
  Option.decidableForallMem text.toList.head?

inductive Respells : String → String → Prop
  | indent {lead padding rest : String} (led : Blank lead) (blank : Blank padding) :
      Respells (lead ++ rest) (lead ++ padding ++ rest)
  | pad {front padding back : String} (plain : Unmarked front) (marks : Marks back)
      (blank : Blank padding) : Respells (front ++ back) (front ++ padding ++ back)
  | mark {front back other : String} (plain : Unmarked front) (marks : Marks back)
      (new : Marks other) : Respells (front ++ back) (front ++ other)

inductive ListRespelled : Option String → Option String → Prop
  | unset : ListRespelled none none
  | set {list other : String} {parts others : List String} (divides : Divides parts list)
      (divided : Divides others other)
      (respelled : List.Forall₂ (Relation.ReflTransGen Respells) parts others) :
      ListRespelled (some list) (some other)

inductive ValueRespelled : Option String → Option String → Prop
  | same {value : Option String} : ValueRespelled value value
  | set {value other : String} (filled : value ≠ "") (kept : other ≠ "")
      (respelled : Relation.ReflTransGen Respells value other) :
      ValueRespelled (some value) (some other)

structure Respelled (lookup other : Lookup) : Prop where
  list : ListRespelled (lookup "LANGUAGE") (other "LANGUAGE")
  single : ∀ var ∈ singleVars, ValueRespelled (lookup var) (other var)

theorem Blank.append {left right : String} (hl : Blank left) (hr : Blank right) :
    Blank (left ++ right) := by
  rw [Blank, String.toList_append, List.forall_mem_append]
  exact ⟨hl, hr⟩

theorem Blank.unmarked {text : String} (h : Blank text) : Unmarked text := by
  intro c member
  have blank := h c member
  constructor
  · rintro rfl
    revert blank
    decide
  · rintro rfl
    revert blank
    decide

theorem Unmarked.append {left right : String} (hl : Unmarked left) (hr : Unmarked right) :
    Unmarked (left ++ right) := by
  rw [Unmarked, String.toList_append, List.forall_mem_append]
  exact ⟨hl, hr⟩

theorem trim_blank_append {left : List Char} (h : ∀ c ∈ left, Text.isBlank c = true)
    (s : List Char) : Text.trim (left ++ s) = Text.trim s := by
  rw [Text.trim, Text.trimStart, List.dropWhile_append_of_pos h, Text.trim, Text.trimStart]

theorem trim_append_blank {right : List Char} (h : ∀ c ∈ right, Text.isBlank c = true)
    (s : List Char) : Text.trim (s ++ right) = Text.trim s := by
  obtain ⟨before, behind, whole, hbefore, hbehind, head, last⟩ := trims_trim s
  apply trim_of_trims
  refine ⟨before, behind ++ right, ?_, hbefore, List.forall_mem_append.mpr ⟨hbehind, h⟩, head, last⟩
  calc
    s ++ right = before ++ (Text.trim s ++ behind) ++ right := congrArg (· ++ right) whole
    _ = before ++ (Text.trim s ++ (behind ++ right)) := by simp only [List.append_assoc]

theorem base_append {front back : String} (plain : Unmarked front) (marks : Marks back) :
    base (front ++ back) = String.ofList (Text.trim front.toList) := by
  rw [base, String.toList_append, takeWhile_of_plain plain marks]

theorem base_indented {lead : String} (led : Blank lead) (rest : String) :
    base (lead ++ rest) = base rest := by
  have plain : ∀ c ∈ lead.toList, (!startsMarker c) = true := by
    intro c member
    rw [(not_startsMarker_iff c).mpr (led.unmarked c member)]
    rfl
  rw [base, String.toList_append, List.takeWhile_append_of_pos plain, trim_blank_append led, base]

theorem base_padded {front padding back : String} (plain : Unmarked front) (marks : Marks back)
    (blank : Blank padding) : base (front ++ padding ++ back) = base (front ++ back) := by
  rw [base_append (plain.append blank.unmarked) marks, base_append plain marks,
    String.toList_append, trim_append_blank blank]

theorem Respells.base_eq {name other : String} (h : Respells name other) :
    base other = base name := by
  cases h with
  | indent led blank => rw [base_indented (led.append blank), base_indented led]
  | pad plain marks blank => exact base_padded plain marks blank
  | mark plain marks new => rw [base_append plain new, base_append plain marks]

theorem expansion_of_respells {name other : String}
    (h : Relation.ReflTransGen Respells name other) : expansion other = expansion name := by
  induction h with
  | refl => rfl
  | tail _ step ih => rw [← ih, expansion, step.base_eq, expansion]

theorem flatMap_of_respells {parts others : List String}
    (h : List.Forall₂ (Relation.ReflTransGen Respells) parts others) :
    others.flatMap expansion = parts.flatMap expansion := by
  induction h with
  | nil => rfl
  | cons first _ ih => rw [List.flatMap_cons, List.flatMap_cons, expansion_of_respells first, ih]

theorem flatMap_listedNames {lookup : Lookup} {list : String} {parts : List String}
    (set : lookup "LANGUAGE" = some list) (divides : Divides parts list) :
    (listedNames lookup).flatMap expansion = parts.flatMap expansion := by
  by_cases empty : list = ""
  · -- An empty list counts as not set. The one part it has would have asked for nothing.
    subst empty
    have unset : NamesListed lookup [] := by
      refine .unset ?_
      rintro other ⟨same, filled⟩
      rw [set, Option.some.injEq] at same
      exact filled same.symm
    have one : parts = [""] := by
      rw [← (divides_iff _ _).mp divides]
      rfl
    rw [(namesListed_iff _ _).mp unset, one, List.flatMap_singleton, expansion_empty]
    rfl
  · rw [(namesListed_iff _ _).mp (.set ⟨set, empty⟩ divides)]

theorem flatMap_of_listRespelled {lookup other : Lookup}
    (h : ListRespelled (lookup "LANGUAGE") (other "LANGUAGE")) :
    (listedNames other).flatMap expansion = (listedNames lookup).flatMap expansion := by
  generalize before : lookup "LANGUAGE" = value at h
  generalize behind : other "LANGUAGE" = changed at h
  cases h with
  | unset => simp [listedNames, valueOf, before, behind]
  | set divides divided respelled =>
    rw [flatMap_listedNames before divides, flatMap_listedNames behind divided,
      flatMap_of_respells respelled]

def asked? (lookup : Lookup) (var : String) : Option (List String) :=
  (valueOf lookup var).map expansion

theorem asked?_of_valueRespelled {lookup other : Lookup} {var : String}
    (h : ValueRespelled (lookup var) (other var)) : asked? other var = asked? lookup var := by
  rw [asked?, asked?, valueOf, valueOf]
  generalize lookup var = value at h
  generalize other var = changed at h
  cases h with
  | same => rfl
  | set filled kept respelled =>
    simp only [Option.filter_some, filled, kept, ne_eq, not_false_eq_true, decide_true, if_true,
      Option.map_some, expansion_of_respells respelled]

theorem map_singleName? (lookup : Lookup) :
    (singleName? lookup).map expansion = singleVars.findSome? (asked? lookup) := by
  rw [singleName?, List.map_findSome?]
  rfl

theorem map_singleName?_of_respelled {lookup other : Lookup}
    (h : ∀ var ∈ singleVars, ValueRespelled (lookup var) (other var)) :
    (singleName? other).map expansion = (singleName? lookup).map expansion := by
  rw [map_singleName?, map_singleName?]
  exact findSome?_congr fun var member => asked?_of_valueRespelled (h var member)

theorem candidates_of_respelled {lookup other : Lookup} (h : Respelled lookup other) :
    candidates other = candidates lookup ∧
      ∀ (tables : Tables) (text : String),
        (Catalog.ofEnvironment other tables).translate text =
          (Catalog.ofEnvironment lookup tables).translate text := by
  have one : (singleName? other).toList.flatMap expansion =
      (singleName? lookup).toList.flatMap expansion := by
    rw [List.flatMap_def, ← Option.toList_map, map_singleName?_of_respelled h.single,
      Option.toList_map, ← List.flatMap_def]
  have same : candidates other = candidates lookup := by
    rw [candidates, candidates, names, names, List.flatMap_append, List.flatMap_append,
      flatMap_of_listRespelled h.list, one]
  refine ⟨same, ?_⟩
  intro tables text
  rw [Catalog.ofEnvironment, same, Catalog.ofEnvironment]

theorem candidates_of_respelled_everywhere :
    let lookup : Lookup := fun var =>
      if var = "LANGUAGE" then some "de_AT::fr.y" else
        if var = "LC_ALL" then some "" else if var = "LANG" then some "@it" else none
    let other : Lookup := fun var =>
      if var = "LANGUAGE" then some " de_AT\u00a0.UTF-8:\u3000:fr" else
        if var = "LC_ALL" then some "" else if var = "LANG" then some ".z" else none
    let tables : Tables := .ofList [("fr", .ofList [("open", "ouvrir")])]
    Respelled lookup other ∧ candidates lookup = ["de_AT", "de", "fr"] ∧
      candidates other = candidates lookup ∧
      (Catalog.ofEnvironment lookup tables).translate "open" = "ouvrir" ∧
      (Catalog.ofEnvironment other tables).translate "open" =
        (Catalog.ofEnvironment lookup tables).translate "open" := by
  intro lookup other tables
  have divides : Divides ["de_AT", "", "fr.y"] "de_AT::fr.y" := (divides_iff _ _).mpr (by decide)
  have divided : Divides [" de_AT\u00a0.UTF-8", "\u3000", "fr"] " de_AT\u00a0.UTF-8:\u3000:fr" :=
    (divides_iff _ _).mpr (by decide)
  have indented : Respells ("" ++ "de_AT") ("" ++ " " ++ "de_AT") :=
    .indent (by decide) (by decide)
  have coded : Respells (" de_AT" ++ "") (" de_AT" ++ ".UTF-8") :=
    .mark (by decide) (by decide) (by decide)
  have padded : Respells (" de_AT" ++ ".UTF-8") (" de_AT" ++ "\u00a0" ++ ".UTF-8") :=
    .pad (by decide) (by decide) (by decide)
  have filled : Respells ("" ++ "") ("" ++ "\u3000" ++ "") := .indent (by decide) (by decide)
  have stripped : Respells ("fr" ++ ".y") ("fr" ++ "") :=
    .mark (by decide) (by decide) (by decide)
  have marked : Respells ("" ++ "@it") ("" ++ ".z") :=
    .mark (by decide) (by decide) (by decide)
  have respelled : Respelled lookup other := by
    refine ⟨.set divides divided ?_, ?_⟩
    · refine .cons (((Relation.ReflTransGen.single indented).tail coded).tail padded) ?_
      exact .cons (.single filled) (.cons (.single stripped) .nil)
    · intro var member
      obtain rfl | rfl | rfl : var = "LC_ALL" ∨ var = "LC_MESSAGES" ∨ var = "LANG" := by
        simpa [singleVars] using member
      · exact .same
      · exact .same
      · exact .set (by decide) (by decide) (.single marked)
  obtain ⟨same, translated⟩ := candidates_of_respelled respelled
  exact ⟨respelled, by decide +kernel, same, by decide +kernel, translated tables "open"⟩

end UrlHandoff.Locale
