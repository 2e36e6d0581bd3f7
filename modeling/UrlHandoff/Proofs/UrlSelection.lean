import UrlHandoff.Program
import UrlHandoff.Proofs.CatalogLookup
import UrlHandoff.Proofs.SettingsLoading

namespace UrlHandoff.Program

/-- The settings that count. A faulty file counts as none, whatever else it holds. -/
inductive Effective (env : Environment) (files : FileTree) : Settings → Prop
  | loaded {settings : Settings} (h : Settings.load env files = .ok settings) :
      Effective env files settings
  | faulty {path : Path} (used : BaseDirectory.settingsPath? env files = some path)
      (h : Settings.Faulty files path) : Effective env files {}

inductive Requested : Option String → Option String → String → Prop
  | flag (url : String) (configured : Option String) : Requested (some url) configured url
  | configured (url : String) : Requested none (some url) url
  | standard : Requested none none Target.standard.url

def Reads (env : Environment) (lookup : Locale.Lookup) : Prop :=
  ∀ name value, lookup name = some value ↔ env.get? name = some (Octets.ofText value)

def Selected (env : Environment) (files : FileTree) (flag : Option String) (url : String) : Prop :=
  ∃ settings text lookup, Effective env files settings ∧
    Requested flag settings.defaultUrl text ∧ Reads env lookup ∧
      Catalog.Translates (.ofEnvironment lookup settings.translations) text url

theorem effectiveSettings_of_error {env : Environment} {files : FileTree}
    {error : Settings.LoadError} (h : Settings.load env files = .error error) :
    effectiveSettings env files = {} := by
  simp only [effectiveSettings, h]

theorem effective_iff (env : Environment) (files : FileTree) (settings : Settings) :
    Effective env files settings ↔ effectiveSettings env files = settings := by
  constructor
  · intro h
    cases h with
    | loaded h => simp only [effectiveSettings, h]
    | faulty used h =>
      obtain ⟨error, failed⟩ := (Settings.load_fails_iff env files).mpr ⟨_, used, h⟩
      exact effectiveSettings_of_error failed
  · rintro rfl
    cases h : Settings.load env files with
    | ok settings =>
      simp only [effectiveSettings, h]
      exact .loaded h
    | error error =>
      obtain ⟨path, used, faulty⟩ := (Settings.load_fails_iff env files).mp ⟨error, h⟩
      rw [effectiveSettings_of_error h]
      exact .faulty used faulty

theorem requested_iff (flag configured : Option String) (text : String) :
    Requested flag configured text ↔ (Target.choose flag configured).url = text := by
  constructor
  · intro h
    cases h <;> rfl
  · rintro rfl
    cases flag with
    | some url => exact .flag url configured
    | none =>
      cases configured with
      | some url => exact .configured url
      | none => exact .standard

theorem reads_iff (env : Environment) (lookup : Locale.Lookup) :
    Reads env lookup ↔ lookup = env.text? := by
  constructor
  · intro h
    funext name
    apply Option.ext
    intro value
    rw [h name value, Environment.text?_eq_some_iff]
  · rintro rfl name value
    exact Environment.text?_eq_some_iff

def chosenUrl (env : Environment) (files : FileTree) (flag : Option String) : String :=
  Handoff.url (effectiveSettings env files)
    (.ofEnvironment env.text? (effectiveSettings env files).translations) flag

theorem selected_iff (env : Environment) (files : FileTree) (flag : Option String)
    (url : String) : Selected env files flag url ↔ chosenUrl env files flag = url := by
  constructor
  · rintro ⟨settings, text, lookup, effective, requested, reads, translates⟩
    obtain rfl := (effective_iff _ _ _).mp effective
    obtain rfl := (requested_iff _ _ _).mp requested
    obtain rfl := (reads_iff _ _).mp reads
    exact (Catalog.translates_iff _ _ _).mp translates
  · rintro rfl
    exact ⟨_, _, _, (effective_iff _ _ _).mpr rfl, (requested_iff _ _ _).mpr rfl,
      (reads_iff _ _).mpr rfl, (Catalog.translates_iff _ _ _).mpr rfl⟩

theorem chosenUrl_of_faulty {env : Environment} {files : FileTree} {path : Path}
    (used : BaseDirectory.settingsPath? env files = some path)
    (faulty : Settings.Faulty files path) (flag : Option String) :
    chosenUrl env files flag = flag.getD Target.standard.url := by
  have h := (effective_iff env files _).mp (.faulty used faulty)
  rw [chosenUrl, h]
  change Catalog.translate ⟨_, ∅⟩ (Target.choose flag none).url = _
  rw [Catalog.translate_without_tables]
  cases flag <;> rfl

section Host

variable {host : Host} (ready : host.workers = .ok ()) (env : Environment) (files : FileTree)

include ready

theorem handoff_of_ready (arguments : CommandLine.Arguments) :
    launchWith host env files arguments =
      let settings := effectiveSettings env files
      let catalog := Catalog.ofEnvironment env.text? settings.translations
      let opener (url : String) := (host.browser env files url).opening.within
        settings.graceSeconds (host.seconds env files url)
      let handoff := Handoff.launch opener settings catalog arguments.url
      { status := 0
        records :=
          ignoredRecords arguments.rest ++ loadRecords env files ++
            settingsRecord settings :: localesRecord catalog :: handoff.records
        urls := handoff.calls
        calls := handoff.calls.flatMap fun url => (host.browser env files url).calls } := by
  simp only [launchWith, ready]
  rfl

theorem output_of_accepted (argv : List Octets) (failure : Option Nat)
    {arguments : CommandLine.Arguments}
    (h : CommandLine.parse (argv.drop 1) = .ok arguments) :
    let url := chosenUrl env files arguments.url
    (output host env files argv failure).urls = [url] ∧
      (output host env files argv failure).calls = (host.browser env files url).calls := by
  have body : course host env files argv = launchWith host env files arguments := by
    simp only [course, h]
  simp only [output, body, handoff_of_ready ready]
  exact ⟨rfl, List.flatMap_singleton ..⟩

end Host

theorem output_of_refused (host : Host) (env : Environment) (files : FileTree)
    (argv : List Octets) (failure : Option Nat) {refusal : CommandLine.Refusal}
    (h : CommandLine.parse (argv.drop 1) = .error refusal) :
    (output host env files argv failure).urls = [] ∧
      (output host env files argv failure).calls = [] := by
  simp only [output, course, h]
  split <;> exact ⟨rfl, rfl⟩

/-- The settings are those found once the log has been opened. -/
theorem runWith_hands_over {host : Host} (ready : host.workers = .ok ()) (env : Environment)
    (files : FileTree) (argv : List Octets) :
    let opened := (openLog env files).1
    let result := (runWith host env files argv).1
    match CommandLine.parse (argv.drop 1) with
    | .ok arguments =>
      ∃ url, result.urls = [url] ∧ result.calls = (host.browser env opened url).calls ∧
        (∀ other, Selected env opened arguments.url other ↔ other = url) ∧
          ∀ path, BaseDirectory.settingsPath? env opened = some path →
            Settings.Faulty opened path → url = arguments.url.getD Target.standard.url
    | .error _ => result.urls = [] ∧ result.calls = [] := by
  dsimp only
  rw [runWith_output]
  cases h : CommandLine.parse (argv.drop 1) with
  | error refusal => exact output_of_refused host env _ argv _ h
  | ok arguments =>
    obtain ⟨urls, calls⟩ := output_of_accepted ready env (openLog env files).1 argv
      (openLog env files).2 h
    refine ⟨_, urls, calls, ?_, ?_⟩
    · intro other
      rw [selected_iff]
      exact eq_comm
    · intro path used faulty
      exact chosenUrl_of_faulty used faulty arguments.url

theorem runWith_hands_over_translated_or_standard :
    let env : Environment :=
      ⟨[("HOME", .ofText "/"), ("XDG_CONFIG_HOME", .ofText "/"), ("LANG", .ofText "de_AT")]⟩
    let place : List Octets := [.ofText "weblaunch", .ofText "config.toml"]
    let path : Path := .ofText "/weblaunch/config.toml"
    let holding (entry : FileEntry) : FileTree := ⟨[(place.take 1, .directory), (place, entry)], []⟩
    let written := holding
      (.file (.ofText "default_url = 'c'\ntranslations.de = \x7b a = 'b', c = 'd' \x7d\n"))
    let refused := holding (.refused 13)
    let run (files : FileTree) (argv : List String) :=
      (runWith .standard env files (argv.map Octets.ofText)).1
    (run written ["weblaunch", "-ua"]).urls = ["b"] ∧ (run written ["weblaunch"]).urls = ["d"] ∧
      BaseDirectory.settingsPath? env (openLog env refused).1 = some path ∧
      Settings.Faulty (openLog env refused).1 path ∧
      (run refused []).urls = [Target.standard.url] := by
  intro env place path holding written refused run
  have chosen (files : FileTree) (argv : List String) (flag : Option String)
      (parsed : CommandLine.parse ((argv.map Octets.ofText).drop 1) = .ok ⟨flag, []⟩) (url : String)
      (selected : Selected env (openLog env files).1 flag url) : (run files argv).urls = [url] := by
    have handed := runWith_hands_over (rfl : Host.standard.workers = .ok ()) env files
      (argv.map Octets.ofText)
    simp only [parsed] at handed
    obtain ⟨handedOver, urls, -, only, -⟩ := handed
    rw [(only url).mp selected]
    exact urls
  have used : BaseDirectory.settingsPath? env (openLog env refused).1 = some path := by
    decide +kernel
  have read : (openLog env refused).1.read path = .error 13 := rfl
  have faulty : Settings.Faulty (openLog env refused).1 path := .unreadable read
  refine ⟨chosen written _ (some "a") rfl _ ?_, chosen written _ none rfl _ ?_, used, faulty,
    chosen refused _ none rfl _ ?_⟩
  · rw [selected_iff]
    decide +kernel
  · rw [selected_iff]
    decide +kernel
  · rw [selected_iff]
    exact chosenUrl_of_faulty used faulty none

end UrlHandoff.Program
