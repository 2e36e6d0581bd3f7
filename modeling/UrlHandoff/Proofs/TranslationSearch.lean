import UrlHandoff.Proofs.LocaleNames
import UrlHandoff.Catalog

namespace UrlHandoff

namespace Locale

def Untranslated (base : String) : Prop := base = "" ∨ base = "C" ∨ base = "POSIX"

def Holds (tables : Tables) (locale text found : String) : Prop :=
  ∃ table, tables.get? locale = some table ∧ table.get? text = some found

/-- One search through names: each by its own table first, then by that of its language. -/
inductive Finds (tables : Tables) (text : String) : List String → String → Prop
  | nothing : Finds tables text [] text
  | untranslated {name base result : String} {rest : List String} (cuts : Cuts name base)
      (skipped : Untranslated base) (further : Finds tables text rest result) :
      Finds tables text (name :: rest) result
  | whole {name base found : String} {rest : List String} (cuts : Cuts name base)
      (asked : ¬Untranslated base) (held : Holds tables base text found) :
      Finds tables text (name :: rest) found
  | language {name base language found : String} {rest : List String} (cuts : Cuts name base)
      (asked : ¬Untranslated base) (missed : ∀ other, ¬Holds tables base text other)
      (speaks : SpeaksLanguage base language) (held : Holds tables language text found) :
      Finds tables text (name :: rest) found
  | neither {name base result : String} {rest : List String} (cuts : Cuts name base)
      (asked : ¬Untranslated base) (missed : ∀ other, ¬Holds tables base text other)
      (unheld : ∀ language other, SpeaksLanguage base language → ¬Holds tables language text other)
      (further : Finds tables text rest result) : Finds tables text (name :: rest) result

theorem findSome?_filter_ne {f : String → Option String} {a : String} (h : f a = none)
    (l : List String) : (l.filter fun b => !b == a).findSome? f = l.findSome? f := by
  induction l with
  | nil => rfl
  | cons b rest ih =>
    by_cases hb : b = a
    · subst hb
      rw [List.filter_cons_of_neg (by simp), ih, List.findSome?_cons, h]
    · rw [List.filter_cons_of_pos (by simp [hb]), List.findSome?_cons, List.findSome?_cons, ih]

theorem findSome?_eraseDups (f : String → Option String) :
    ∀ l : List String, l.eraseDups.findSome? f = l.findSome? f
  | [] => rfl
  | a :: rest => by
    -- A locale is left out only after it has been tried, so its later places find nothing new.
    have shorter : (rest.filter fun b => !b == a).length < rest.length + 1 :=
      Nat.lt_succ_of_le (List.length_filter_le _ _)
    rw [List.eraseDups_cons, List.findSome?_cons, List.findSome?_cons, findSome?_eraseDups]
    cases h : f a with
    | some found => rfl
    | none => exact findSome?_filter_ne h rest
termination_by l => l.length

theorem isUntranslated_iff (base : String) : isUntranslated base = true ↔ Untranslated base := by
  simp [isUntranslated, Untranslated, or_assoc]

theorem expansion_of_asked {name : String} (asked : ¬Untranslated (base name)) :
    expansion name = base name :: (language? (base name)).toList := by
  rw [← isUntranslated_iff] at asked
  rw [expansion, if_neg asked]

section Search

variable (tables : Tables) (text : String)

def found? (locales : List String) : Option String :=
  locales.findSome? fun locale => tables.find? locale text

theorem find?_eq_some_iff_holds (locale found : String) :
    tables.find? locale text = some found ↔ Holds tables locale text found :=
  Option.bind_eq_some_iff

theorem find?_eq_none_iff_holds (locale : String) :
    tables.find? locale text = none ↔ ∀ found, ¬Holds tables locale text found := by
  simp only [Option.eq_none_iff_forall_not_mem, Option.mem_def, find?_eq_some_iff_holds]

variable {tables text}

theorem found?_untranslated {name base : String} (cuts : Cuts name base)
    (skipped : Untranslated base) : found? tables text (expansion name) = none := by
  obtain rfl := (cuts_iff _ _).mp cuts
  rw [expansion_of_isUntranslated ((isUntranslated_iff _).mpr skipped)]
  rfl

theorem found?_asked {name base : String} (cuts : Cuts name base) (asked : ¬Untranslated base) :
    found? tables text (expansion name) =
      (tables.find? base text).or ((language? base).bind fun language =>
        tables.find? language text) := by
  obtain rfl := (cuts_iff _ _).mp cuts
  rw [expansion_of_asked asked, found?, List.findSome?_cons]
  cases tables.find? (base name) text with
  | some found => rfl
  | none => cases language? (base name) <;> simp

theorem found?_cons (name : String) (rest : List String) :
    found? tables text ((name :: rest).flatMap expansion) =
      (found? tables text (expansion name)).or (found? tables text (rest.flatMap expansion)) := by
  rw [List.flatMap_cons, found?, List.findSome?_append]
  rfl

theorem found?_of_finds {names : List String} {result : String}
    (h : Finds tables text names result) :
    (found? tables text (names.flatMap expansion)).getD text = result := by
  induction h with
  | nothing => rfl
  | untranslated cuts skipped further ih =>
    rw [found?_cons, found?_untranslated cuts skipped]
    exact ih
  | whole cuts asked held =>
    have hit := (find?_eq_some_iff_holds tables text _ _).mpr held
    rw [found?_cons, found?_asked cuts asked, hit]
    rfl
  | language cuts asked missed speaks held =>
    have miss := (find?_eq_none_iff_holds tables text _).mpr missed
    have spoken := (language?_eq_some_iff _ _).mpr speaks
    have hit := (find?_eq_some_iff_holds tables text _ _).mpr held
    rw [found?_cons, found?_asked cuts asked, miss, spoken, Option.bind_some, hit]
    rfl
  | @neither name base result rest cuts asked missed unheld further ih =>
    have miss := (find?_eq_none_iff_holds tables text _).mpr missed
    have unspoken : ((language? base).bind fun language => tables.find? language text) = none := by
      apply Option.bind_eq_none_iff.mpr
      intro language spoken
      rw [find?_eq_none_iff_holds]
      intro other
      exact unheld language other ((language?_eq_some_iff _ _).mp spoken)
    rw [found?_cons, found?_asked cuts asked, miss, unspoken]
    exact ih

theorem finds_found? (names : List String) :
    Finds tables text names ((found? tables text (names.flatMap expansion)).getD text) := by
  induction names with
  | nil => exact .nothing
  | cons name rest ih =>
    have cuts : Cuts name (base name) := (cuts_iff _ _).mpr rfl
    rw [found?_cons]
    by_cases skipped : Untranslated (base name)
    · rw [found?_untranslated cuts skipped]
      exact .untranslated cuts skipped ih
    · rw [found?_asked cuts skipped]
      cases own : tables.find? (base name) text with
      | some found =>
        exact .whole cuts skipped ((find?_eq_some_iff_holds tables text _ _).mp own)
      | none =>
        have missed := (find?_eq_none_iff_holds tables text _).mp own
        cases shared : (language? (base name)).bind fun language => tables.find? language text with
        | some found =>
          obtain ⟨language, spoken, hit⟩ := Option.bind_eq_some_iff.mp shared
          exact .language cuts skipped missed ((language?_eq_some_iff _ _).mp spoken)
            ((find?_eq_some_iff_holds tables text _ _).mp hit)
        | none =>
          refine .neither cuts skipped missed ?_ ih
          intro language other speaks
          have spoken := (language?_eq_some_iff _ _).mpr speaks
          have miss := Option.bind_eq_none_iff.mp shared language spoken
          exact (find?_eq_none_iff_holds tables text _).mp miss other

theorem finds_iff (names : List String) (result : String) :
    Finds tables text names result ↔
      (found? tables text (names.flatMap expansion)).getD text = result := by
  constructor
  · exact found?_of_finds
  · rintro rfl
    exact finds_found? names

end Search

end Locale

namespace Catalog

theorem find?_ofEnvironment (lookup : Locale.Lookup) (tables : Tables) (text : String) :
    (ofEnvironment lookup tables).find? text =
      Locale.found? tables text ((Locale.names lookup).flatMap Locale.expansion) :=
  Locale.findSome?_eraseDups _ _

theorem translate_iff_finds (env : Environment) (tables : Tables) (text result : String) :
    (ofEnvironment env.text? tables).translate text = result ↔
      ∃ names, Locale.Preferred env names ∧ Locale.Finds tables text names result := by
  rw [translate, find?_ofEnvironment, ← Locale.finds_iff]
  constructor
  · intro finds
    exact ⟨_, (Locale.preferred_iff _ _).mpr rfl, finds⟩
  · rintro ⟨names, preferred, finds⟩
    obtain rfl := (Locale.preferred_iff _ _).mp preferred
    exact finds

end Catalog

end UrlHandoff
