import UrlHandoff.Program
import UrlHandoff.Proofs.SettingsSearch
import UrlHandoff.Proofs.TreeGrowth

namespace UrlHandoff

namespace BaseDirectory

theorem isName_settings : Path.IsName (Octets.ofText "config.toml") := by
  unfold Path.IsName
  decide +kernel

theorem isName_log : Path.IsName (Octets.ofText "weblaunch.log") := by
  unfold Path.IsName
  decide +kernel

theorem names_logPath (env : Environment) :
    (logPath env).names.dropLast = (logDirectory env).names := by
  rw [logPath, Path.names_join _ isName_log, List.dropLast_concat]

theorem ne_of_located {env : Environment} {tree : FileTree} {path : Path}
    (member : path ∈ settingsCandidates env) {place : List Octets}
    (located : tree.locate path = .ok place) : tree.locate (logPath env) ≠ .ok place := by
  intro logged
  -- The last part of either path is the name of its file, and the names are different.
  obtain ⟨base, -, rfl⟩ := List.mem_map.mp member
  have settings := FileTree.getLast?_of_locate_join isName_settings located
  rw [FileTree.getLast?_of_locate_join isName_log logged] at settings
  exact absurd (Option.some.inj settings) (by decide +kernel)

end BaseDirectory

namespace Program

open Log

def startLog (isPattern : IsPattern) (env : Environment) (files : FileTree) :
    FileTree × Option Nat :=
  let (opened, failure) := openLog env files
  if failure.isNone then
    let lines := logText (filter isPattern env) [startRecord env]
    let started := opened.append (BaseDirectory.logPath env) (.ofText lines)
    (started.toOption.getD opened, failure)
  else (opened, failure)

def OnlyLogs (env : Environment) (files logged : FileTree) : Prop :=
  FileTree.Grows (FileTree.OnTheWay logged (BaseDirectory.logPath env).names.dropLast)
    (fun place => logged.locate (BaseDirectory.logPath env) = .ok place) files logged

theorem OnlyLogs.append {env : Environment} {files logged last : FileTree} {more : Octets}
    (h : OnlyLogs env files logged)
    (appended : logged.append (BaseDirectory.logPath env) more = .ok last) :
    OnlyLogs env files last := by
  have grows := FileTree.grows_append (FileTree.OnTheWay last
    (BaseDirectory.logPath env).names.dropLast) appended
  have keeps := grows.keepsDirectories
  exact (h.mono (fun _ => .mono keeps List.prefix_rfl) (fun _ => keeps.locate)).trans grows

theorem onlyLogs_openLog (env : Environment) (files : FileTree) :
    OnlyLogs env files (openLog env files).1 ∧
      (files.Connected → (openLog env files).1.Connected) := by
  have makes := FileTree.makes_makeDirectories files (BaseDirectory.logDirectory env)
  rw [← BaseDirectory.names_logPath] at makes
  rw [openLog]
  cases result : files.makeDirectories (BaseDirectory.logDirectory env) with
  | mk made failure =>
    rw [result] at makes
    have only : OnlyLogs env files made := makes.grows.mono (fun _ => id) (fun _ => False.elim)
    cases failure with
    | some number => exact ⟨only, makes.connected⟩
    | none =>
      dsimp only
      cases appended : made.append (BaseDirectory.logPath env) [] with
      | error number => exact ⟨only, makes.connected⟩
      | ok opened =>
        exact ⟨only.append appended, fun h => (makes.connected h).append appended⟩

theorem find_of_openLog {env : Environment} {files opened : FileTree}
    (h : openLog env files = (opened, none)) :
    ∃ place content,
      opened.find (BaseDirectory.logPath env) = .ok (place, .file content) := by
  rw [openLog] at h
  split at h
  · cases h
  · split at h
    · rename_i appended
      obtain rfl := (Prod.mk.inj h).1
      obtain ⟨place, content, found⟩ := FileTree.find_of_update appended
      exact ⟨place, _, found⟩
    · cases h

theorem startLog_eq (isPattern : IsPattern) (env : Environment) (files : FileTree) :
    (∃ number, (openLog env files).2 = some number ∧
        startLog isPattern env files = openLog env files) ∨
      ∃ started, (openLog env files).2 = none ∧
        (openLog env files).1.append (BaseDirectory.logPath env)
          (.ofText (logText (filter isPattern env) [startRecord env])) = .ok started ∧
          startLog isPattern env files = (started, none) := by
  rw [startLog]
  cases result : openLog env files with
  | mk opened failure =>
    cases failure with
    | some number => exact .inl ⟨number, rfl, rfl⟩
    | none =>
      -- The file is there once the log is open, so writing the record cannot fail.
      obtain ⟨place, content, found⟩ := find_of_openLog result
      obtain ⟨started, appended, -⟩ := FileTree.append_of_find found
        (.ofText (logText (filter isPattern env) [startRecord env]))
      refine .inr ⟨started, rfl, appended, ?_⟩
      simp only [Option.isNone_none, if_true, appended]
      rfl

theorem onlyLogs_startLog (isPattern : IsPattern) (env : Environment) (files : FileTree) :
    OnlyLogs env files (startLog isPattern env files).1 ∧
      (files.Connected → (startLog isPattern env files).1.Connected) := by
  obtain ⟨only, connected⟩ := onlyLogs_openLog env files
  obtain ⟨number, -, same⟩ | ⟨started, -, appended, same⟩ := startLog_eq isPattern env files
  · rw [same]
    exact ⟨only, connected⟩
  · rw [same]
    exact ⟨only.append appended, fun h => (connected h).append appended⟩

theorem keepsDirectories_startLog (isPattern : IsPattern) (env : Environment) (files : FileTree) :
    FileTree.KeepsDirectories (openLog env files).1 (startLog isPattern env files).1 := by
  obtain ⟨number, -, same⟩ | ⟨started, -, appended, same⟩ := startLog_eq isPattern env files
  · rw [same]
    exact fun _ => id
  · rw [same]
    exact (FileTree.grows_append (fun _ => False) appended).keepsDirectories

def NoTurnsInNew (env : Environment) (files logged : FileTree) : Prop :=
  ∀ path ∈ BaseDirectory.passedOver env files, ∀ place, FileTree.Turns logged path place →
    files.at? place = none → logged.at? place ≠ some .directory

theorem NoTurnsInNew.of_keeps {env : Environment} {files logged last : FileTree}
    (h : NoTurnsInNew env files last) (keeps : FileTree.KeepsDirectories logged last) :
    NoTurnsInNew env files logged := by
  rintro path member place ⟨front, back, split, ends, follows⟩ missing directory
  exact h path member place ⟨front, back, split, ends, keeps.follow follows⟩ missing
    (keeps place directory)

theorem noTurnsInNew_of_lost {env : Environment} {files logged : FileTree} (number : Nat)
    (h : ∀ path ∈ BaseDirectory.passedOver env files,
      Path.parent ∉ path.parts ∧ logged.follow [] path.parts = .error number) :
    NoTurnsInNew env files logged := by
  intro path member place turns
  obtain ⟨straight, lost⟩ := h path member
  have follows := turns.follow straight
  rw [lost] at follows
  cases follows

theorem OnlyLogs.seenAlike {env : Environment} {files logged : FileTree}
    (h : OnlyLogs env files logged) (connected : files.Connected)
    (apart : NoTurnsInNew env files logged) : Settings.SeenAlike env files logged := by
  refine ⟨?_, ?_⟩
  · rintro path member ⟨place, entry, found⟩
    obtain ⟨candidate, absent⟩ := BaseDirectory.missing_of_mem_passedOver member
    have located := (FileTree.find_eq_ok_iff.mp found).1
    exact absent ⟨place, entry, FileTree.Grows.find_old h connected (apart path member) found
      (BaseDirectory.ne_of_located candidate located)⟩
  · intro path used
    obtain ⟨place, entry, found⟩ := (files.contains_iff path).mp (List.find?_some used)
    have candidate := List.mem_of_find?_eq_some used
    have found' := FileTree.Grows.find_kept h found (BaseDirectory.ne_of_located candidate)
    exact ⟨⟨place, entry, found'⟩, by rw [FileTree.read, FileTree.read, found, found']⟩

theorem text_append (records more : List Record) :
    Log.text (records ++ more) = Log.text records ++ Log.text more := by
  rw [Log.text, List.map_append, String.join_append]
  rfl

theorem logText_cons (filter : Filter) (record : Record) (records : List Record) :
    logText filter (record :: records) = logText filter [record] ++ logText filter records := by
  rw [logText, logText, logText, ← text_append, ← List.filter_append]
  rfl

theorem runWith_continues (host : Host) (env : Environment) (files : FileTree)
    (argv : List Octets) :
    match startLog host.isPattern env files with
    | (started, none) => ∃ rest,
        started.append (BaseDirectory.logPath env) rest = .ok (runWith host env files argv).2
    | (started, some _) => (runWith host env files argv).2 = started := by
  obtain ⟨number, failed, same⟩ | ⟨started, ready, appended, same⟩ :=
    startLog_eq host.isPattern env files
  · cases result : openLog env files with
    | mk opened failure =>
      rw [result] at failed same
      obtain rfl : failure = some number := failed
      rw [same]
      simp only [runWith, result, Option.isNone_some, Bool.false_eq_true, if_false]
  · cases result : openLog env files with
    | mk opened failure =>
      rw [result] at ready appended
      obtain rfl : failure = none := ready
      have logged : (output host env opened argv none).logged =
          logText (filter host.isPattern env) [startRecord env] ++
            logText (filter host.isPattern env) (course host env opened argv).records :=
        logText_cons _ _ _
      obtain ⟨place, content, found⟩ := find_of_openLog result
      obtain ⟨written, whole, -⟩ := FileTree.append_of_find found
        (.ofText (output host env opened argv none).logged)
      rw [same]
      let records := (course host env opened argv).records
      refine ⟨.ofText (logText (filter host.isPattern env) records), ?_⟩
      rw [FileTree.append_append appended, ← Octets.ofText_append, ← logged, whole]
      simp only [runWith, result, Option.isNone_none, if_true, whole]
      rfl

/-- Above the log file directories are made, in the file itself what was there stays in front, and
no other place changes. The last condition is needed: a new directory may itself be taken for the
settings. -/
theorem startLog_only_logs (isPattern : IsPattern) (env : Environment) (files : FileTree)
    (connected : files.Connected) :
    let started := (startLog isPattern env files).1
    OnlyLogs env files started ∧ started.Connected ∧
      (∀ path content, files.read path = .ok content →
        ∃ more, started.read path = .ok (content ++ more) ∧
          (more = [] ∨ ∃ place, started.locate path = .ok place ∧
            started.locate (BaseDirectory.logPath env) = .ok place)) ∧
      (∀ browser seconds workers argv,
        let host : Host := ⟨browser, seconds, workers, isPattern⟩
        match startLog isPattern env files with
        | (started, none) => ∃ rest, started.append (BaseDirectory.logPath env) rest =
            .ok (runWith host env files argv).2
        | (started, some _) => (runWith host env files argv).2 = started) ∧
      (NoTurnsInNew env files started →
        BaseDirectory.settingsPath? env started = BaseDirectory.settingsPath? env files ∧
          Settings.load env started = Settings.load env files ∧
            effectiveSettings env (openLog env files).1 = effectiveSettings env files) := by
  obtain ⟨only, kept⟩ := onlyLogs_startLog isPattern env files
  refine ⟨only, kept connected, fun path content => FileTree.Grows.read only, ?_, ?_⟩
  · intro browser seconds workers argv
    exact runWith_continues ⟨browser, seconds, workers, isPattern⟩ env files argv
  · intro apart
    have alike := only.seenAlike connected apart
    have opened := (onlyLogs_openLog env files).1.seenAlike connected
      (apart.of_keeps (keepsDirectories_startLog isPattern env files))
    refine ⟨alike.settingsPath?, alike.load, ?_⟩
    rw [effectiveSettings, effectiveSettings, opened.load]

theorem startLog_only_logs_below_settings :
    let env : Environment := ⟨[("HOME", .ofText "/h"), ("XDG_CONFIG_HOME", .ofText "/c"),
      ("XDG_CONFIG_DIRS", .ofText "/s:/t"), ("XDG_STATE_HOME", .ofText "/s/weblaunch")]⟩
    let below : List Octets := [.ofText "s", .ofText "weblaunch"]
    let files : FileTree := ⟨[(below.take 1, .directory), (below, .directory),
      (below ++ [.ofText "config.toml"], .file (.ofText "exit_grace_secs = 3"))], []⟩
    let started := (startLog Host.standard.isPattern env files).1
    files.Connected ∧ NoTurnsInNew env files started ∧
      started.at? (below ++ [.ofText "weblaunch"]) = some .directory ∧
        Settings.load env started = Settings.load env files := by
  intro env below files started
  have connected : files.Connected :=
    FileTree.connected_of_entries (by decide +kernel)
  have apart : NoTurnsInNew env files started :=
    noTurnsInNew_of_lost FileTree.noSuchFile (by decide +kernel)
  obtain ⟨-, -, -, -, same⟩ := startLog_only_logs Host.standard.isPattern env files connected
  exact ⟨connected, apart, by decide +kernel, (same apart).2.1⟩

/-- A directory that is made for the log is taken for the settings file, before the one that had
been used. -/
theorem startLog_shadows_settings :
    let env : Environment := ⟨[("HOME", .ofText "/h"), ("XDG_CONFIG_HOME", .ofText "/x"),
      ("XDG_CONFIG_DIRS", .ofText "/s"), ("XDG_STATE_HOME", .ofText "/x/weblaunch/config.toml")]⟩
    let below : List Octets := [.ofText "s", .ofText "weblaunch"]
    let files : FileTree := ⟨[(below.take 1, .directory), (below, .directory),
      (below ++ [.ofText "config.toml"], .file (.ofText "exit_grace_secs = 3"))], []⟩
    let started := (startLog Host.standard.isPattern env files).1
    files.Connected ∧
      BaseDirectory.settingsPath? env files = some (.ofText "/s/weblaunch/config.toml") ∧
      Settings.load env files = .ok { graceSeconds := 3 } ∧
      BaseDirectory.settingsPath? env started = some (.ofText "/x/weblaunch/config.toml") ∧
      Settings.load env started =
        .error ⟨"/x/weblaunch/config.toml", .unreadable (.numbered FileTree.isDirectory)⟩ ∧
      effectiveSettings env (openLog env files).1 ≠ effectiveSettings env files := by
  refine ⟨FileTree.connected_of_entries ?_, ?_, ?_, ?_, ?_, ?_⟩ <;> decide +kernel

end Program

end UrlHandoff
