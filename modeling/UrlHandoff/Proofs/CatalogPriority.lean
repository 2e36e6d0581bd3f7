import UrlHandoff.Proofs.CatalogLookup
import UrlHandoff.Proofs.LocaleOrder

namespace UrlHandoff.Catalog

open UrlHandoff.Locale (Holds)

variable {catalog : Catalog} {text : String} {place : Nat} {found : String}

def HitsAt (catalog : Catalog) (text : String) (place : Nat) (found : String) : Prop :=
  ∃ locale, catalog.locales[place]? = some locale ∧ Holds catalog.tables locale text found

structure FirstHit (catalog : Catalog) (text : String) (place : Nat) (found : String) : Prop where
  hit : HitsAt catalog text place found
  first : ∀ earlier < place, ∀ other, ¬HitsAt catalog text earlier other

inductive Misses (tables : Tables) (locale text : String) : Prop
  | noTable (absent : tables.get? locale = none)
  | noEntry {table : Dictionary String} (held : tables.get? locale = some table)
      (absent : table.get? text = none)

/-- What may become of the table of a locale when tables change but for what the locales of a list
have for a text. -/
inductive Spared (searched : List String) (text locale : String) :
    Option (Dictionary String) → Option (Dictionary String) → Prop
  | unlisted {old new : Option (Dictionary String)} (outside : locale ∉ searched) :
      Spared searched text locale old new
  | absent : Spared searched text locale none none
  | gained {new : Dictionary String} (absent : new.get? text = none) :
      Spared searched text locale none (some new)
  | lost {old : Dictionary String} (absent : old.get? text = none) :
      Spared searched text locale (some old) none
  | otherTexts {old new : Dictionary String} (kept : new.get? text = old.get? text) :
      Spared searched text locale (some old) (some new)

def Unnoticed (searched : List String) (text : String) (tables others : Tables) : Prop :=
  ∀ locale, Spared searched text locale (tables.get? locale) (others.get? locale)

theorem Unnoticed.find?_eq {searched : List String} {tables others : Tables}
    (h : Unnoticed searched text tables others) {locale : String} (listed : locale ∈ searched) :
    others.find? locale text = tables.find? locale text := by
  have spared := h locale
  rw [Tables.find?, Tables.find?]
  generalize tables.get? locale = old, others.get? locale = new at spared
  cases spared with
  | unlisted outside => exact absurd listed outside
  | absent => rfl
  | gained absent => exact absent
  | lost absent => exact absent.symm
  | otherTexts kept => exact kept

theorem Misses.find?_eq_none {tables : Tables} {locale : String}
    (h : Misses tables locale text) : tables.find? locale text = none := by
  cases h with
  | noTable absent => rw [Tables.find?, absent, Option.bind_none]
  | noEntry held absent => rw [Tables.find?, held, Option.bind_some, absent]

theorem hitsAt_iff (catalog : Catalog) (text : String) (place : Nat) (found : String) :
    HitsAt catalog text place found ↔ ∃ locale, catalog.locales[place]? = some locale ∧
      catalog.tables.find? locale text = some found := by
  simp only [HitsAt, Locale.find?_eq_some_iff_holds]

theorem find?_eq_some_iff_firstHit (catalog : Catalog) (text found : String) :
    catalog.find? text = some found ↔ ∃ place, FirstHit catalog text place found := by
  rw [find?_eq_some_iff]
  constructor
  · rintro ⟨before, locale, after, order, hit, missed⟩
    refine ⟨before.length, (hitsAt_iff _ _ _ _).mpr ⟨locale, by simp [order], hit⟩, ?_⟩
    intro earlier less other hits
    obtain ⟨name, stands, held⟩ := (hitsAt_iff _ _ _ _).mp hits
    rw [order, List.getElem?_append_left less] at stands
    have none := missed name (List.mem_of_getElem? stands)
    rw [none] at held
    cases held
  · rintro ⟨place, hit, first⟩
    obtain ⟨locale, stands, held⟩ := (hitsAt_iff _ _ _ _).mp hit
    obtain ⟨bound, rfl⟩ := List.getElem?_eq_some_iff.mp stands
    refine ⟨catalog.locales.take place, _, catalog.locales.drop (place + 1), by simp, held, ?_⟩
    intro earlier member
    obtain ⟨n, less, rfl⟩ := List.mem_take_iff_getElem.mp member
    rw [Option.eq_none_iff_forall_ne_some]
    intro other entry
    have stands := List.getElem?_eq_getElem (lt_of_lt_of_le less (Nat.min_le_right _ _))
    exact first n (lt_of_lt_of_le less (Nat.min_le_left _ _)) other
      ((hitsAt_iff _ _ _ _).mpr ⟨_, stands, entry⟩)

theorem find?_eq_none_iff_no_hit (catalog : Catalog) (text : String) :
    catalog.find? text = none ↔ ∀ place found, ¬HitsAt catalog text place found := by
  rw [find?_eq_none_iff]
  simp only [hitsAt_iff, not_exists, not_and, List.mem_iff_getElem?,
    Option.eq_none_iff_forall_ne_some]
  constructor
  · intro missed place found locale stands
    exact missed locale ⟨place, stands⟩ found
  · rintro missed locale ⟨place, stands⟩ found
    exact missed place found locale stands

theorem mem_take_of_stands {locales : List String} {locale : String}
    (stands : locales[place]? = some locale) : locale ∈ locales.take (place + 1) := by
  have kept : (locales.take (place + 1))[place]? = some locale := by
    rw [List.getElem?_take_of_lt place.lt_succ_self, stands]
  exact List.mem_of_getElem? kept

theorem HitsAt.find?_take (hit : HitsAt catalog text place found) :
    (⟨catalog.locales.take (place + 1), catalog.tables⟩ : Catalog).find? text =
      catalog.find? text := by
  obtain ⟨locale, stands, held⟩ := (hitsAt_iff _ _ _ _).mp hit
  have split : catalog.find? text =
      ((⟨catalog.locales.take (place + 1), catalog.tables⟩ : Catalog).find? text).or
        ((⟨catalog.locales.drop (place + 1), catalog.tables⟩ : Catalog).find? text) := by
    simp only [find?]
    rw [← List.findSome?_append, List.take_append_drop]
  rw [split]
  cases taken : (⟨catalog.locales.take (place + 1), catalog.tables⟩ : Catalog).find? text with
  | some first => rfl
  | none =>
    have missed := (find?_eq_none_iff _ _).mp taken locale (mem_take_of_stands stands)
    rw [held] at missed
    cases missed

theorem find?_of_unnoticed {locales : List String} {tables others : Tables}
    (h : Unnoticed locales text tables others) :
    (⟨locales, others⟩ : Catalog).find? text = (⟨locales, tables⟩ : Catalog).find? text :=
  Locale.findSome?_congr fun _ listed => h.find?_eq listed

theorem HitsAt.find?_of_unnoticed {others : Tables} (hit : HitsAt catalog text place found)
    (h : Unnoticed (catalog.locales.take (place + 1)) text catalog.tables others) :
    (⟨catalog.locales, others⟩ : Catalog).find? text = catalog.find? text := by
  obtain ⟨locale, stands, held⟩ := (hitsAt_iff _ _ _ _).mp hit
  have still : HitsAt ⟨catalog.locales, others⟩ text place found := by
    refine (hitsAt_iff _ _ _ _).mpr ⟨locale, stands, ?_⟩
    rw [h.find?_eq (mem_take_of_stands stands), held]
  rw [← hit.find?_take, ← still.find?_take]
  exact Catalog.find?_of_unnoticed h

theorem find?_without_missing {before after : List String} {locale : String} {tables : Tables}
    (missed : Misses tables locale text) :
    (⟨before ++ locale :: after, tables⟩ : Catalog).find? text =
      (⟨before ++ after, tables⟩ : Catalog).find? text := by
  simp only [find?, List.findSome?_append, List.findSome?_cons, missed.find?_eq_none]

theorem translate_eq_of_find?_eq {a b : Catalog} (h : a.find? text = b.find? text) :
    a.translate text = b.translate text := by
  rw [translate, translate, h]

/-- The translation is the hit at the least place, or the text itself where there is no hit. A
locale that has nothing for the text, a later place of the same locale, the tables of locales that
are not listed or, with a hit at some place, do not stand up to there, and the entries for other
texts have no part in it. -/
theorem translate_by_priority (catalog : Catalog) (text : String) :
    ((∃ place found, FirstHit catalog text place found ∧ catalog.translate text = found) ∨
        (∀ place found, ¬HitsAt catalog text place found) ∧ catalog.translate text = text) ∧
      (∀ before locale after, catalog.locales = before ++ locale :: after →
        Misses catalog.tables locale text →
          translate ⟨before ++ after, catalog.tables⟩ text = catalog.translate text) ∧
      translate ⟨catalog.locales.eraseDups, catalog.tables⟩ text = catalog.translate text ∧
      ∀ others : Tables,
        (Unnoticed catalog.locales text catalog.tables others →
          translate ⟨catalog.locales, others⟩ text = catalog.translate text) ∧
        ∀ place found, HitsAt catalog text place found →
          Unnoticed (catalog.locales.take (place + 1)) text catalog.tables others →
            translate ⟨catalog.locales, others⟩ text = catalog.translate text := by
  refine ⟨?_, ?_, ?_, fun others => ⟨?_, ?_⟩⟩
  · cases h : catalog.find? text with
    | some found =>
      obtain ⟨place, first⟩ := (find?_eq_some_iff_firstHit _ _ _).mp h
      exact .inl ⟨place, found, first, translate_of_find?_eq_some h⟩
    | none =>
      exact .inr ⟨(find?_eq_none_iff_no_hit _ _).mp h, translate_of_find?_eq_none h⟩
  · intro before locale after order missed
    obtain ⟨locales, tables⟩ := catalog
    subst order
    exact translate_eq_of_find?_eq (find?_without_missing missed).symm
  · exact translate_eq_of_find?_eq (Locale.findSome?_eraseDups _ _)
  · intro unnoticed
    exact translate_eq_of_find?_eq (find?_of_unnoticed unnoticed)
  · intro place found hit unnoticed
    exact translate_eq_of_find?_eq (hit.find?_of_unnoticed unnoticed)

theorem translate_by_priority_behind_misses :
    let catalog : Catalog := ⟨["it", "fr_CA", "fr", "it", "de"], .ofList
      [("de", .ofList [("open", "öffnen")]), ("fr", .ofList [("open", "ouvrir")]),
        ("it", .ofList [("close", "chiudere")])]⟩
    let others : Tables := .ofList
      [("fr", .ofList [("close", "fermer"), ("open", "ouvrir")]),
        ("fr_CA", .ofList [("close", "fermer")]), ("pl", .ofList [("open", "otworzyć")])]
    Misses catalog.tables "it" "open" ∧ Misses catalog.tables "fr_CA" "open" ∧
      HitsAt catalog "open" 2 "ouvrir" ∧
      Unnoticed (catalog.locales.take 3) "open" catalog.tables others ∧
      translate ⟨["fr_CA", "fr", "it", "de"], catalog.tables⟩ "open" = "ouvrir" ∧
      translate ⟨catalog.locales, others⟩ "open" = "ouvrir" := by
  intro catalog others
  have italian : Misses catalog.tables "it" "open" := .noEntry rfl rfl
  have hit : HitsAt catalog "open" 2 "ouvrir" := ⟨"fr", rfl, _, rfl, rfl⟩
  have unnoticed : Unnoticed (catalog.locales.take 3) "open" catalog.tables others := by
    intro locale
    by_cases listed : locale ∈ catalog.locales.take 3
    · obtain rfl | rfl | rfl : locale = "it" ∨ locale = "fr_CA" ∨ locale = "fr" := by
        simpa [catalog] using listed
      · exact .lost rfl
      · exact .gained rfl
      · exact .otherTexts rfl
    · exact .unlisted listed
  have found : catalog.translate "open" = "ouvrir" := rfl
  obtain ⟨-, skips, -, frame⟩ := translate_by_priority catalog "open"
  refine ⟨italian, .noTable rfl, hit, unnoticed, ?_, ?_⟩
  · rw [← found]
    exact skips [] "it" ["fr_CA", "fr", "it", "de"] rfl italian
  · rw [← found]
    exact (frame others).2 2 "ouvrir" hit unnoticed

end UrlHandoff.Catalog
