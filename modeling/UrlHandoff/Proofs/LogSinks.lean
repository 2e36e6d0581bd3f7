import UrlHandoff.Proofs.LocaleOrder
import UrlHandoff.Proofs.OutcomeRecord

namespace UrlHandoff.Program

open Log

def SameButState (env other : Environment) : Prop :=
  ∀ name, name ≠ "XDG_STATE_HOME" → other.get? name = env.get? name

section Environments

variable {env other : Environment}

theorem sameButState_of_state (shared : List (String × Octets)) (state state' : Octets) :
    SameButState ⟨shared ++ [("XDG_STATE_HOME", state)]⟩
      ⟨shared ++ [("XDG_STATE_HOME", state')]⟩ := by
  intro name h
  have unmatched : (name == "XDG_STATE_HOME") = false := beq_false_of_ne h
  simp [Environment.get?, List.lookup_append, List.lookup_cons, unmatched]

theorem SameButState.text? (same : SameButState env other) {name : String}
    (h : name ≠ "XDG_STATE_HOME") : other.text? name = env.text? name := by
  rw [Environment.text?, Environment.text?, same name h]

theorem SameButState.settingsCandidates (same : SameButState env other) :
    BaseDirectory.settingsCandidates other = BaseDirectory.settingsCandidates env := by
  rw [BaseDirectory.settingsCandidates, BaseDirectory.settingsCandidates,
    BaseDirectory.configHome, BaseDirectory.configHome, BaseDirectory.absolute?,
    BaseDirectory.absolute?, BaseDirectory.home, BaseDirectory.home,
    BaseDirectory.configDirectories, BaseDirectory.configDirectories, same "HOME" (by decide),
    same "XDG_CONFIG_HOME" (by decide), same "XDG_CONFIG_DIRS" (by decide)]

theorem SameButState.settingsPath? (same : SameButState env other) (files : FileTree) :
    BaseDirectory.settingsPath? other files = BaseDirectory.settingsPath? env files := by
  rw [BaseDirectory.settingsPath?, BaseDirectory.settingsPath?, same.settingsCandidates]

theorem SameButState.load (same : SameButState env other) (files : FileTree) :
    Settings.load other files = Settings.load env files := by
  rw [Settings.load, Settings.load, same.settingsPath?]

theorem SameButState.filter (same : SameButState env other) (isPattern : IsPattern) :
    filter isPattern other = filter isPattern env := by
  rw [Program.filter, Program.filter, same.text? (by decide)]

theorem SameButState.candidates (same : SameButState env other) :
    Locale.candidates other.text? = Locale.candidates env.text? := by
  have names : Locale.names other.text? = Locale.names env.text? := by
    apply Locale.names_congr
    intro var member
    apply same.text?
    rintro rfl
    exact absurd member (by decide)
  rw [Locale.candidates, Locale.candidates, names]

end Environments

theorem loadRecords_congr {env other : Environment} {files tree : FileTree}
    (path : BaseDirectory.settingsPath? other tree = BaseDirectory.settingsPath? env files)
    (load : Settings.load other tree = Settings.load env files) :
    loadRecords other tree = loadRecords env files := by
  rw [loadRecords, loadRecords, path]
  cases used : BaseDirectory.settingsPath? env files with
  | none => rfl
  | some path' =>
    rw [Settings.load_of_used used, Settings.load_of_used (path.trans used)] at load
    simp only [load]

def Host.seen (host : Host) (env : Environment) (files : FileTree) (url : String) : Opening :=
  (host.browser env files url).opening.within (effectiveSettings env files).graceSeconds
    (host.seconds env files url)

theorem launchWith_records_congr {host : Host} {env other : Environment}
    {files tree : FileTree} (arguments : CommandLine.Arguments)
    (path : BaseDirectory.settingsPath? other tree = BaseDirectory.settingsPath? env files)
    (load : Settings.load other tree = Settings.load env files)
    (locales : Locale.candidates other.text? = Locale.candidates env.text?)
    (browser : ∀ url, host.seen other tree url = host.seen env files url) :
    (launchWith host other tree arguments).records =
      (launchWith host env files arguments).records := by
  have settings : effectiveSettings other tree = effectiveSettings env files := by
    rw [effectiveSettings, effectiveSettings, load]
  simp only [Host.seen, settings] at browser
  simp only [launchWith, Handoff.launchWithin, settings, Catalog.ofEnvironment, locales, browser,
    loadRecords_congr path load]

theorem openLog_of_failed {env : Environment} {files : FileTree} {number : Nat}
    (failed : (openLog env files).2 = some number) :
    (openLog env files).1 = (files.makeDirectories (BaseDirectory.logDirectory env)).1 := by
  rw [openLog] at failed ⊢
  cases result : files.makeDirectories (BaseDirectory.logDirectory env) with
  | mk made failure =>
    simp only [result] at failed ⊢
    cases failure with
    | some number => rfl
    | none =>
      dsimp only at failed ⊢
      cases appended : made.append (BaseDirectory.logPath env) [] with
      | error number => rfl
      | ok opened => simp [appended] at failed

theorem file_of_failed {host : Host} {env : Environment} {files : FileTree}
    {argv : List Octets} {number : Nat} (failed : (openLog env files).2 = some number)
    {place : List Octets} {content : Octets}
    (written : (runWith host env files argv).2.at? place = some (.file content)) :
    files.at? place = some (.file content) := by
  have left : (runWith host env files argv).2 = (openLog env files).1 := by
    simp only [runWith, failed, Option.isNone_some, Bool.false_eq_true, if_false]
  rw [left, openLog_of_failed failed] at written
  have change := (FileTree.makes_makeDirectories files (BaseDirectory.logDirectory env)).grows place
  rw [written] at change
  generalize files.at? place = old at change
  cases change with
  | kept => rfl
  | file more h => exact h.elim

/-- In the one run the log file can be opened, in the other it cannot; for the rest the two find the
same. -/
theorem sinks_record_alike (host : Host) {env other : Environment}
    {files tree : FileTree} {argv : List Octets} {arguments : CommandLine.Arguments} {number : Nat}
    (parsed : CommandLine.parse (argv.drop 1) = .ok arguments)
    (same : SameButState env other) (connected : files.Connected) (connected' : tree.Connected)
    (alike : Settings.SeenAlike env files tree)
    (browser : ∀ url, host.seen other (openLog other tree).1 url =
      host.seen env (openLog env files).1 url)
    (opened : (openLog env files).2 = none) (failed : (openLog other tree).2 = some number)
    (apart : NoTurnsInNew env files (openLog env files).1)
    (apart' : NoTurnsInNew other tree (openLog other tree).1) :
    let run := runWith host env files argv
    let run' := runWith host other tree argv
    let start : Record := ⟨.debug, "weblaunch::logging",
      "logging initialized at " ++ (BaseDirectory.logPath env).lossyText, []⟩
    let start' : Record := ⟨.warn, "weblaunch",
      "file logging unavailable: " ++ (SystemError.numbered number).message, []⟩
    let records := (launchWith host env (openLog env files).1 arguments).records
    let allowed := (filter host.isPattern env).allows
    Logs env files run (Log.text ((start :: records).filter allowed)) ∧
      Logs other tree run' (Log.text ((start' :: records).filter allowed)) ∧
      run.1.stderr = "" ∧ run'.1.logged = "" ∧
      ∀ place content, run'.2.at? place = some (.file content) →
        tree.at? place = some (.file content) := by
  have seen := (onlyLogs_openLog env files).1.seenAlike connected apart
  have seen' := (onlyLogs_openLog other tree).1.seenAlike connected' apart'
  -- Neither log nor state variable has a say in the settings, so each run finds what the other does.
  have path : BaseDirectory.settingsPath? other (openLog other tree).1 =
      BaseDirectory.settingsPath? env (openLog env files).1 := by
    rw [seen'.settingsPath?, same.settingsPath?, alike.settingsPath?, seen.settingsPath?]
  have load : Settings.load other (openLog other tree).1 =
      Settings.load env (openLog env files).1 := by
    rw [seen'.load, same.load, alike.load, seen.load]
  have records := launchWith_records_congr arguments path load same.candidates browser
  have logs := logs_of_parsed host env files parsed
  have logs' := logs_of_parsed host other tree parsed
  rw [opened] at logs
  rw [failed, records, same.filter] at logs'
  refine ⟨logs, logs', ?_, ?_, fun place content => file_of_failed failed⟩
  · have quiet : (course host env (openLog env files).1 argv).complaint = "" := by
      simp only [course, parsed, launchWith]
    rw [runWith_output, opened]
    exact (String.empty_append).trans quiet
  · rw [runWith_output, failed]
    rfl

theorem sinks_record_alike_of_settings_only :
    let shared : List (String × Octets) :=
      [("HOME", .ofText "/h"), ("RUST_LOG", .ofText "weblaunch::config=debug"),
        ("XDG_CONFIG_HOME", .ofText "/n"), ("XDG_CONFIG_DIRS", .ofText "/c")]
    let environment (state : String) : Environment :=
      ⟨shared ++ [("XDG_STATE_HOME", .ofText state)]⟩
    let below : List Octets := [.ofText "c", .ofText "weblaunch"]
    let files : FileTree := ⟨[(below.take 1, .directory), (below, .directory),
      (below ++ [.ofText "config.toml"], .file []), ([.ofText "f"], .file [])], []⟩
    let argv : List Octets := [.ofText "weblaunch", .ofText "drawing"]
    let run := runWith Host.standard (environment "/s") files argv
    let run' := runWith Host.standard (environment "/f") files argv
    let record : Record :=
      ⟨.debug, "weblaunch::config", "loaded config from /c/weblaunch/config.toml", []⟩
    Logs (environment "/s") files run (Log.text [record]) ∧ run'.1.stderr = Log.text [record] ∧
      run.1.stderr = "" ∧ run'.1.logged = "" := by
  intro shared environment below files argv run run' record
  have parsed : CommandLine.parse (argv.drop 1) = .ok ⟨none, ["drawing"]⟩ := rfl
  have same : SameButState (environment "/s") (environment "/f") := sameButState_of_state _ _ _
  have connected : files.Connected := FileTree.connected_of_entries (by decide +kernel)
  have alike : Settings.SeenAlike (environment "/s") files files := by
    refine ⟨fun path member => (BaseDirectory.missing_of_mem_passedOver member).2, ?_⟩
    intro path used
    exact ⟨(files.contains_iff path).mp (List.find?_some used), rfl⟩
  have browser (state : String) (tree : FileTree) (url : String)
      (grace : 0 < (effectiveSettings (environment state) tree).graceSeconds) :
      Host.standard.seen (environment state) tree url = .fails Browser.noBrowser := by
    have unset : (environment state).text? "BROWSER" = none := rfl
    have opening := Browser.opening_of_unset unset tree url
    have soon : Host.standard.seconds (environment state) tree url = 0 := by
      simp [Host.standard, Browser.searchSeconds, Browser.commands, unset]
    rw [Host.seen, soon, Opening.within_of_lt grace]
    exact opening
  have apart (state : String) (h : ∀ path ∈ BaseDirectory.passedOver (environment state) files,
      Path.parent ∉ path.parts ∧
        (openLog (environment state) files).1.follow [] path.parts = .error FileTree.noSuchFile) :
      NoTurnsInNew (environment state) files (openLog (environment state) files).1 :=
    noTurnsInNew_of_lost FileTree.noSuchFile h
  have closed : openLog (environment "/f") files =
      ((openLog (environment "/f") files).1, some 20) := by decide +kernel
  obtain ⟨logs, logs', quiet, unlogged, -⟩ := sinks_record_alike Host.standard parsed same
    connected connected alike (fun url => by
      rw [browser _ _ _ (by decide +kernel), browser _ _ _ (by decide +kernel)]) (by decide +kernel)
    (congrArg Prod.snd closed) (apart "/s" (by decide +kernel)) (apart "/f" (by decide +kernel))
  rw [Logs, closed] at logs'
  refine ⟨?_, ?_, quiet, unlogged⟩
  · convert logs using 1
    decide +kernel
  · refine logs'.trans (congrArg Log.text ?_)
    decide +kernel

/-- The directories made for the log let a candidate for the settings turn back on its way to a file
that it did not reach before. -/
theorem runs_differ_behind_log_directory :
    let shared : List (String × Octets) :=
      [("HOME", .ofText "/h"), ("RUST_LOG", .ofText "weblaunch::config=debug"),
        ("XDG_CONFIG_HOME", .ofText "/s/weblaunch/../../c")]
    let environment (state : String) : Environment :=
      ⟨shared ++ [("XDG_STATE_HOME", .ofText state)]⟩
    let below : List Octets := [.ofText "c", .ofText "weblaunch"]
    let files : FileTree := ⟨[(below.take 1, .directory), (below, .directory),
      (below ++ [.ofText "config.toml"], .file []), ([.ofText "f"], .file [])], []⟩
    let argv : List Octets := [.ofText "weblaunch"]
    let run := runWith Host.standard (environment "/s") files argv
    let run' := runWith Host.standard (environment "/f") files argv
    SameButState (environment "/s") (environment "/f") ∧ files.Connected ∧
      (∀ state ∈ ["/s", "/f"], ∀ path ∈ BaseDirectory.settingsCandidates (environment state),
        ¬path.names <+: (BaseDirectory.logPath (environment state)).names) ∧
      run.2.read (BaseDirectory.logPath (environment "/s")) = .ok (.ofText
        ("DEBUG weblaunch::config: loaded config from " ++
          "/s/weblaunch/../../c/weblaunch/config.toml\n")) ∧
      run'.1.stderr = "DEBUG weblaunch::config: no config file, using defaults\n" := by
  refine ⟨sameButState_of_state _ _ _, FileTree.connected_of_entries ?_, ?_, ?_, ?_⟩ <;>
    decide +kernel

end UrlHandoff.Program
