import UrlHandoff.Proofs.TranslationSearch
import UrlHandoff.Proofs.UrlSelection

namespace UrlHandoff.Handoff

theorem translates_of_unheld {catalog : Catalog} {text url : String}
    (translates : Catalog.Translates catalog text url)
    (h : ∀ locale ∈ catalog.locales, ∀ found, ¬Locale.Holds catalog.tables locale text found) :
    url = text := by
  rw [← (Catalog.translates_iff _ _ _).mp translates]
  apply Catalog.translate_of_find?_eq_none
  rw [Catalog.find?_eq_none_iff]
  intro locale member
  rw [Locale.find?_eq_none_iff_holds]
  exact h locale member

theorem launchWithin_eq {workers : Except SystemError Unit} (ready : workers = .ok ())
    (opener : String → Opening) (seconds : String → Nat) (settings : Settings) (catalog : Catalog)
    (flag : Option String) :
    let text := url settings catalog flag
    let handoff := launchWithin workers opener seconds settings catalog flag
    handoff.status = 0 ∧ handoff.calls = [text] ∧
      handoff.records = started text ++
        report text ((opener text).within settings.graceSeconds (seconds text)) := by
  simp only [launchWithin, ready]
  exact ⟨rfl, launch_calls _ _ _ _, rfl⟩

/-- The texts, and the records of the main path, are named before the opener, its time and the rest
of the settings are. Only what the worker reports is left open, and it is cut off by the grace. -/
theorem launchWithin_hands_over {workers : Except SystemError Unit} (ready : workers = .ok ())
    (configured flag : Option String) (catalog : Catalog) :
    ∃ text url records, Program.Requested flag configured text ∧
      Catalog.Translates catalog text url ∧
      (∀ opener seconds grace translations,
        let handoff :=
          launchWithin workers opener seconds ⟨configured, grace, translations⟩ catalog flag
        handoff.status = 0 ∧ handoff.calls = [url] ∧
          ∃ reported, handoff.records = records ++ reported ∧
            (grace ≤ seconds url → reported = [])) ∧
      ((∀ locale ∈ catalog.locales, ∀ found, ¬Locale.Holds catalog.tables locale text found) →
        url = text) := by
  let text := (Target.choose flag configured).url
  let url := catalog.translate text
  have requested := (Program.requested_iff flag configured text).mpr rfl
  have translates := (Catalog.translates_iff catalog text url).mpr rfl
  refine ⟨text, url, started url, requested, translates, ?_, translates_of_unheld translates⟩
  intro opener seconds grace translations
  obtain ⟨status, calls, records⟩ :=
    launchWithin_eq ready opener seconds ⟨configured, grace, translations⟩ catalog flag
  refine ⟨status, calls, _, records, ?_⟩
  intro late
  change report url ((opener url).within grace (seconds url)) = []
  rw [Opening.within_of_le late]
  rfl

theorem launchWithin_hands_over_nothing_found :
    let workers : Except SystemError Unit := .ok ()
    let catalog : Catalog := ⟨["de"], .ofList [("de", .ofList [("y", "z")])]⟩
    (∀ locale ∈ catalog.locales, ∀ found, ¬Locale.Holds catalog.tables locale "" found) ∧
      (launchWithin workers (fun _ => .crashes) (fun _ => 7) ⟨some "y", 0, ∅⟩ catalog
        (some "")).calls = [""] := by
  intro workers catalog
  have unheld : ∀ locale ∈ catalog.locales, ∀ found,
      ¬Locale.Holds catalog.tables locale "" found := by
    intro locale member
    obtain rfl := List.mem_singleton.mp member
    rw [← Locale.find?_eq_none_iff_holds]
    decide
  have ready : workers = .ok () := rfl
  obtain ⟨text, url, records, requested, -, handed, unchanged⟩ :=
    launchWithin_hands_over ready (some "y") (some "") catalog
  obtain rfl : text = "" := by
    cases requested
    rfl
  refine ⟨unheld, ?_⟩
  rw [(handed (fun _ => .crashes) (fun _ => 7) 0 ∅).2.1, unchanged unheld]

end UrlHandoff.Handoff
