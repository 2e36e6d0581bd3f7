import UrlHandoff.Proofs.LogStart
import UrlHandoff.Proofs.UrlSelection

namespace UrlHandoff

theorem Browser.opening_of_unset {env : Environment} (unset : env.text? "BROWSER" = none)
    (files : FileTree) (url : String) :
    (system noDesktop env files url).opening = .fails noBrowser := by
  have none : commands env = [] := by
    rw [commands, unset]
    rfl
  rw [system, attempt, none]
  rfl

namespace Log

theorem Filter.standard_allows_iff (record : Record) :
    Filter.standard.allows record = true ↔
      record.level.verbosity ≤ Level.info.verbosity ∨
        "weblaunch".toList <+: record.target.toList ∧
          record.level.verbosity ≤ Level.debug.verbosity := by
  let general : Directive := { target := none, level := some .info }
  let special : Directive := { target := some "weblaunch", level := some .debug }
  let counts (directive : Directive) := directive.isStatic && directive.concerns record
  have first : counts general = true := rfl
  have second : counts special = "weblaunch".toList.isPrefixOf record.target.toList :=
    Bool.and_true _
  rw [← List.isPrefixOf_iff_prefix, ← second]
  have decides : Filter.standard.deciding record =
      if counts special then some special else some general := by
    change ([general, special].filter counts).foldl _ none = _
    rw [List.filter_cons_of_pos first]
    cases h : counts special with
    | false =>
      rw [List.filter_cons_of_neg (ne_true_of_eq_false h)]
      rfl
    | true =>
      rw [List.filter_cons_of_pos h]
      rfl
  rw [Filter.allows, decides]
  cases counts special with
  | false => simp [Directive.allows, general]
  | true =>
    have wider : Level.info.verbosity ≤ Level.debug.verbosity := by decide
    simp [Directive.allows, special]
    exact fun h => Nat.le_trans h wider

theorem text_singleton (record : Record) : Log.text [record] = record.line ++ "\n" :=
  String.empty_append

theorem line_with_url {level : Level} {target message : String}
    (plain : message.toList.flatMap neutralized = message.toList) (url : String)
    (fields : List (String × String)) :
    (Record.mk level target message (("url", url) :: fields)).line =
      level.label ++ " " ++ target ++ ": " ++ message ++ " url=" ++ url ++
        String.join (fields.map fun field => " " ++ field.1 ++ "=" ++ field.2) := by
  have named : " " ++ "url" ++ "=" = " url=" := rfl
  rw [Record.line, plain, String.ofList_toList, List.map_cons, String.join_cons, named]
  simp only [String.append_assoc]

end Log

namespace Program

open Log

inductive Tells (url : String) : Opening → String → Prop
  | failed (cause : SystemError) :
      Tells url (.fails cause) (" WARN weblaunch::launcher: browser launch failed url=" ++ url ++
        " error=failed to open " ++ Text.quote url ++ " in default browser: " ++ cause.message)
  | requested :
      Tells url .succeeds (" INFO weblaunch::launcher: browser launch requested url=" ++ url)

def Logs (env : Environment) (files : FileTree) (run : Output × FileTree) (text : String) : Prop :=
  match openLog env files with
  | (opened, none) =>
    ∃ before, opened.read (BaseDirectory.logPath env) = .ok before ∧
      run.2.read (BaseDirectory.logPath env) = .ok (before ++ .ofText text)
  | (_, some _) => run.1.stderr = text

theorem filter_of_unreadable {isPattern : IsPattern} {env : Environment}
    (h : ∀ text, env.get? "RUST_LOG" = some (Octets.ofText text) →
      Filter.parse? isPattern text.toList = none) : filter isPattern env = Filter.standard := by
  rw [filter, Filter.ofVariable]
  cases value : env.text? "RUST_LOG" with
  | none => rfl
  | some text =>
    rw [Option.bind_some, h text (Environment.text?_eq_some_iff.mp value)]
    rfl

theorem report_of_tells {url line : String} {opening : Opening} (tells : Tells url opening line) :
    ∃ record, Handoff.report url opening = [record] ∧ record.line = line ∧
      Filter.standard.allows record = true := by
  cases tells with
  | failed cause =>
    have before : Level.warn.label ++ " " ++ Handoff.workerTarget ++ ": " ++
        "browser launch failed" ++ " url=" =
          " WARN weblaunch::launcher: browser launch failed url=" := rfl
    have between : " " ++ "error" ++ "=" ++ "failed to open " = " error=failed to open " := rfl
    have worded : (LaunchError.mk url cause).message =
        "failed to open " ++ Text.quote url ++ " in default browser: " ++ cause.message := rfl
    refine ⟨_, rfl, ?_, (Filter.standard_allows_iff _).mpr (.inl (Nat.le_succ 2))⟩
    rw [line_with_url (by decide +kernel), before, List.map_singleton, String.join_cons,
      String.join_nil, String.append_empty, worded, ← between]
    simp only [String.append_assoc]
  | requested =>
    have before : Level.info.label ++ " " ++ Handoff.workerTarget ++ ": " ++
        "browser launch requested" ++ " url=" =
          " INFO weblaunch::launcher: browser launch requested url=" := rfl
    refine ⟨_, rfl, ?_, (Filter.standard_allows_iff _).mpr (.inl (Nat.le_refl 3))⟩
    rw [line_with_url (by decide +kernel), before]
    exact String.append_empty

theorem runWith_of_opened (host : Host) {env : Environment} {files opened : FileTree}
    (argv : List Octets) (h : openLog env files = (opened, none)) :
    ∃ before, opened.read (BaseDirectory.logPath env) = .ok before ∧
      (runWith host env files argv).2.read (BaseDirectory.logPath env) =
        .ok (before ++ .ofText (output host env opened argv none).logged) := by
  obtain ⟨place, content, found⟩ := find_of_openLog h
  obtain ⟨written, appended, read⟩ := FileTree.append_of_find found
    (.ofText (output host env opened argv none).logged)
  refine ⟨content, by rw [FileTree.read, found], ?_⟩
  simp only [runWith, h, Option.isNone_none, if_true, appended]
  exact read

def firstRecord (env : Environment) : Option Nat → Record
  | none => startRecord env
  | some number => fallbackRecord number

theorem logs_of_parsed (host : Host) (env : Environment) (files : FileTree)
    {argv : List Octets} {arguments : CommandLine.Arguments}
    (parsed : CommandLine.parse (argv.drop 1) = .ok arguments) :
    Logs env files (runWith host env files argv)
      (logText (filter host.isPattern env) (firstRecord env (openLog env files).2 ::
        (launchWith host env (openLog env files).1 arguments).records)) := by
  have body : course host env (openLog env files).1 argv =
      launchWith host env (openLog env files).1 arguments := by
    simp only [course, parsed]
  have complaint : (launchWith host env (openLog env files).1 arguments).complaint = "" := rfl
  cases opened : openLog env files with
  | mk tree failure =>
    rw [opened] at body complaint
    rw [Logs, opened]
    cases failure with
    | none =>
      obtain ⟨before, read, written⟩ := runWith_of_opened host argv opened
      refine ⟨before, read, written.trans ?_⟩
      rw [← body]
      rfl
    | some number =>
      rw [runWith_output, opened]
      change _ ++ (course host env tree argv).complaint = _
      rw [body, complaint, String.append_empty, ← body]
      rfl

theorem records_of_tells {host : Host} (ready : host.workers = .ok ()) {env : Environment}
    {files : FileTree} {arguments : CommandLine.Arguments} {line : String}
    (inTime : host.seconds env files (chosenUrl env files arguments.url) <
      (effectiveSettings env files).graceSeconds)
    (tells : Tells (chosenUrl env files arguments.url)
      (host.browser env files (chosenUrl env files arguments.url)).opening line) :
    ∃ earlier record, (launchWith host env files arguments).records = earlier ++ [record] ∧
      record.line = line ∧ Filter.standard.allows record = true := by
  have seen := Opening.within_of_lt inTime
    (host.browser env files (chosenUrl env files arguments.url)).opening
  rw [← seen] at tells
  obtain ⟨record, reported, told, allowed⟩ := report_of_tells tells
  let settings := effectiveSettings env files
  let catalog := Catalog.ofEnvironment env.text? settings.translations
  let earlier := ignoredRecords arguments.rest ++ loadRecords env files ++
    settingsRecord settings :: localesRecord catalog ::
      Handoff.started (chosenUrl env files arguments.url)
  have records : (launchWith host env files arguments).records = earlier ++ [record] := by
    rw [handoff_of_ready ready, ← reported, List.append_assoc]
    rfl
  exact ⟨earlier, record, records, told, allowed⟩

/-- A browser that comes to an end before the grace is over is told of in the last record, whatever
has been written before it. One that needs as many seconds or more may be cut off. -/
theorem runWith_tells_outcome {host : Host} (ready : host.workers = .ok ()) (env : Environment)
    (files : FileTree) (argv : List Octets) {arguments : CommandLine.Arguments}
    (parsed : CommandLine.parse (argv.drop 1) = .ok arguments)
    (unreadable : ∀ text, env.get? "RUST_LOG" = some (Octets.ofText text) →
      Filter.parse? host.isPattern text.toList = none) :
    let opened := (openLog env files).1
    let run := runWith host env files argv
    ∃ url, run.1.urls = [url] ∧
      (host.seconds env opened url < (effectiveSettings env opened).graceSeconds →
        ∀ line, Tells url (host.browser env opened url).opening line →
          ∃ earlier, Logs env files run (Log.text earlier ++ line ++ "\n")) := by
  dsimp only
  refine ⟨chosenUrl env (openLog env files).1 arguments.url, ?_, ?_⟩
  · rw [runWith_output]
    exact (output_of_accepted ready env _ argv _ parsed).1
  · intro inTime line tells
    obtain ⟨body, record, records, told, allowed⟩ := records_of_tells ready inTime tells
    have logs := logs_of_parsed host env files parsed
    rw [filter_of_unreadable unreadable, records, logText, ← List.cons_append, List.filter_append,
      List.filter_cons_of_pos allowed, text_append] at logs
    rw [List.filter_nil, text_singleton, told, ← String.append_assoc] at logs
    exact ⟨_, logs⟩

theorem runWith_tells_outcome_without_files :
    let env : Environment :=
      ⟨[("HOME", .ofText "/"), ("RUST_LOG", .ofText "weblaunch[x"),
        ("XDG_STATE_HOME", .ofText "/state")]⟩
    let files : FileTree :=
      ⟨[([.ofText "state"], .directory), ([.ofText ".config"], .refused 13)], [[.ofText "state"]]⟩
    let host : Host := { Host.standard with seconds := fun _ _ _ => 9 }
    let argv : List Octets := [.ofText "weblaunch", .ofText "-ua b", .ofText "drawing"]
    let line := " WARN weblaunch::launcher: browser launch failed url=a b error=failed to open " ++
      "\"a b\" in default browser: No valid browsers detected. " ++
      "You can specify one in BROWSER environment variable"
    CommandLine.parse (argv.drop 1) = .ok ⟨some "a b", ["drawing"]⟩ ∧
      Filter.parse? host.isPattern "weblaunch[x".toList = none ∧
        9 < (effectiveSettings env (openLog env files).1).graceSeconds ∧
          ∃ earlier, (runWith host env files argv).1.stderr = Log.text earlier ++ line ++ "\n" := by
  intro env files host argv line
  have parsed : CommandLine.parse (argv.drop 1) = .ok ⟨some "a b", ["drawing"]⟩ := rfl
  have unreadable : Filter.parse? host.isPattern "weblaunch[x".toList = none := by decide +kernel
  have grace : 9 < (effectiveSettings env (openLog env files).1).graceSeconds := by
    decide +kernel
  have closed : openLog env files = ((openLog env files).1, some FileTree.permissionDenied) := by
    decide +kernel
  have set : env.get? "RUST_LOG" = some (Octets.ofText "weblaunch[x") := by decide
  have ready : host.workers = .ok () := rfl
  obtain ⟨url, handed, told⟩ := runWith_tells_outcome ready env files argv parsed (by
    intro text h
    rw [set] at h
    obtain rfl := Octets.ofText_injective (Option.some.inj h)
    exact unreadable)
  have urls : (runWith host env files argv).1.urls = ["a b"] := by decide +kernel
  obtain rfl : url = "a b" := List.singleton_inj.mp (handed.symm.trans urls)
  have missing : (host.browser env (openLog env files).1 "a b").opening =
      .fails Browser.noBrowser := Browser.opening_of_unset (by decide) _ _
  have tells : Tells "a b" (.fails Browser.noBrowser) line := by
    have failed : Tells "a b" _ _ := .failed Browser.noBrowser
    have worded : " WARN weblaunch::launcher: browser launch failed url=" ++ "a b" ++
        " error=failed to open " ++ Text.quote "a b" ++ " in default browser: " ++
          Browser.noBrowser.message = line := by decide +kernel
    rwa [worded] at failed
  rw [← missing] at tells
  obtain ⟨earlier, logs⟩ := told grace line tells
  rw [Logs, closed] at logs
  exact ⟨parsed, unreadable, grace, earlier, logs⟩

theorem getLast?_before_break (text last : String) :
    (text ++ last ++ "\n").toList.dropLast.getLast? =
      last.toList.getLast?.or text.toList.getLast? := by
  have broken : "\n".toList = ['\n'] := rfl
  rw [String.toList_append, broken, List.dropLast_concat, String.toList_append,
    List.getLast?_append]

theorem getLast?_of_tells {url line : String} (tells : Tells url (.fails Browser.noBrowser) line) :
    line.toList.getLast? = some 'e' := by
  have worded : Browser.noBrowser.message.toList.getLast? = some 'e' := by decide +kernel
  cases tells
  rw [String.toList_append, List.getLast?_append, worded, Option.some_or]

/-- A browser that needs a second, under a grace of one: the last record is that the launch has
begun. -/
theorem runWith_ends_before_outcome :
    let env : Environment := ⟨[("HOME", .ofText "/"), ("XDG_STATE_HOME", .ofText "/state")]⟩
    let place : List Octets := [".config", "weblaunch", "config.toml"].map Octets.ofText
    let files : FileTree :=
      ⟨[(place.take 1, .directory), (place.take 2, .directory),
        (place, .file (.ofText "exit_grace_secs = 1")), ([.ofText "state"], .file [])], []⟩
    let host : Host := { Host.standard with seconds := fun _ _ _ => 1 }
    let argv : List Octets := [.ofText "weblaunch", .ofText "-ua"]
    let opened := (openLog env files).1
    let run := runWith host env files argv
    let written :=
      " WARN weblaunch: file logging unavailable: Not a directory (os error 20)\n" ++
      "DEBUG weblaunch::config: loaded config from /.config/weblaunch/config.toml\n" ++
      "DEBUG weblaunch::cli::launch: loaded config: LauncherConfig \x7b default_url: None, " ++
      "exit_grace_secs: 1, translations: \x7b\x7d \x7d\n" ++
      "DEBUG weblaunch::locale: detected locales locales=[]\n" ++
      " INFO weblaunch::cli::launch: opening in default browser url=a\n" ++
      "DEBUG weblaunch::launcher: spawning detached browser launch url=" ++ "a" ++ "\n"
    CommandLine.parse (argv.drop 1) = .ok ⟨some "a", []⟩ ∧ env.get? "RUST_LOG" = none ∧
      (effectiveSettings env opened).graceSeconds = 1 ∧ run.1.urls = ["a"] ∧
      (host.browser env opened "a").opening = .fails Browser.noBrowser ∧
      run.1.stderr = written ∧
      ∀ line, Tells "a" (.fails Browser.noBrowser) line →
        ∀ earlier, ¬Logs env files run (earlier ++ line ++ "\n") := by
  intro env place files host argv opened run written
  have closed : openLog env files = (opened, some FileTree.notDirectory) := by decide +kernel
  have missing : (host.browser env opened "a").opening = .fails Browser.noBrowser :=
    Browser.opening_of_unset (by decide) _ _
  have ended : run.1.stderr = written := by decide +kernel
  refine ⟨rfl, rfl, by decide +kernel, by decide +kernel, missing, ended, ?_⟩
  intro line tells earlier logs
  rw [Logs, closed] at logs
  -- What the log ends in before the last line break is not what the failure's line ends in.
  have last := congrArg (fun text : String => text.toList.dropLast.getLast?)
    (ended.symm.trans logs)
  have url : "a".toList.getLast? = some 'a' := rfl
  dsimp only [written] at last
  rw [getLast?_before_break, getLast?_before_break, url, getLast?_of_tells tells, Option.some_or,
    Option.some_or] at last
  exact absurd last (by decide)

end Program

end UrlHandoff
