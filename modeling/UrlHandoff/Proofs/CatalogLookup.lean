import UrlHandoff.Catalog

namespace UrlHandoff.Catalog

inductive Translates (catalog : Catalog) (text : String) : String → Prop
  | hit {before : List String} {locale : String} {after : List String}
      {table : Dictionary String} {found : String}
      (order : catalog.locales = before ++ locale :: after)
      (missed : ∀ earlier ∈ before, catalog.tables.find? earlier text = none)
      (held : catalog.tables.get? locale = some table)
      (entry : table.get? text = some found) : Translates catalog text found
  | miss (missed : ∀ locale ∈ catalog.locales, catalog.tables.find? locale text = none) :
      Translates catalog text text

theorem find?_eq_some_iff (catalog : Catalog) (text found : String) :
    catalog.find? text = some found ↔
      ∃ before locale after, catalog.locales = before ++ locale :: after ∧
        catalog.tables.find? locale text = some found ∧
          ∀ earlier ∈ before, catalog.tables.find? earlier text = none :=
  List.findSome?_eq_some_iff

theorem find?_eq_none_iff (catalog : Catalog) (text : String) :
    catalog.find? text = none ↔
      ∀ locale ∈ catalog.locales, catalog.tables.find? locale text = none :=
  List.findSome?_eq_none_iff

theorem translates_iff (catalog : Catalog) (text result : String) :
    Translates catalog text result ↔ catalog.translate text = result := by
  constructor
  · intro h
    cases h with
    | hit order missed held entry =>
      apply translate_of_find?_eq_some
      apply (find?_eq_some_iff _ _ _).mpr
      exact ⟨_, _, _, order, by rw [Tables.find?, held, Option.bind_some, entry], missed⟩
    | miss missed => exact translate_of_find?_eq_none ((find?_eq_none_iff _ _).mpr missed)
  · rintro rfl
    cases h : catalog.find? text with
    | none =>
      rw [translate_of_find?_eq_none h]
      exact .miss ((find?_eq_none_iff _ _).mp h)
    | some found =>
      rw [translate_of_find?_eq_some h]
      obtain ⟨before, locale, after, order, hit, missed⟩ := (find?_eq_some_iff _ _ _).mp h
      obtain ⟨table, held, entry⟩ := Option.bind_eq_some_iff.mp hit
      exact .hit order missed held entry

example : (⟨["de"], .ofList [("de", .ofList [("a", "b"), ("b", "c")])]⟩ : Catalog).translate "a" =
    "b" := by decide

theorem translate_without_tables (locales : List String) (text : String) :
    (⟨locales, ∅⟩ : Catalog).translate text = text := by
  apply translate_of_find?_eq_none
  rw [find?_eq_none_iff]
  intro locale _
  rfl

end UrlHandoff.Catalog
