import UrlHandoff.Browser
import UrlHandoff.CommandLine.Arguments
import UrlHandoff.Launch
import UrlHandoff.Log.Filter
import UrlHandoff.Settings.Loading

/-!
A run of the program. The log is opened first, then the arguments are read; if they can be read, the
settings are loaded and the browser is launched. Nothing but the arguments decides about the exit
status.
-/

namespace UrlHandoff.Program

open Log

structure Host where
  browser : Browser.Facility
  seconds : Environment → FileTree → String → Nat
  workers : Except SystemError Unit
  isPattern : IsPattern

def Host.standard : Host where
  browser := Browser.system Browser.noDesktop
  seconds env _ _ := Browser.searchSeconds env
  workers := .ok ()
  isPattern _ := true

structure Course where
  status : Nat
  stdout : String := ""
  complaint : String := ""
  records : List Record := []
  urls : List String := []
  calls : List Browser.Call := []
  deriving DecidableEq, Repr

def launchTarget : String := Handoff.commandTarget

def ignoredRecords (rest : List String) : List Record :=
  if rest = [] then []
  else
    [⟨.debug, launchTarget, "ignoring positional arguments", [("ignored", Text.quoteList rest)]⟩]

def effectiveSettings (env : Environment) (files : FileTree) : Settings :=
  match Settings.load env files with
  | .ok settings => settings
  | .error _ => {}

def loadRecords (env : Environment) (files : FileTree) : List Record :=
  match BaseDirectory.settingsPath? env files with
  | none => [⟨.debug, "weblaunch::config", "no config file, using defaults", []⟩]
  | some path =>
    match Settings.loadFrom files path with
    | .ok _ => [⟨.debug, "weblaunch::config", "loaded config from " ++ path.lossyText, []⟩]
    | .error error => [⟨.warn, launchTarget, "ignoring config: " ++ error.message, []⟩]

def settingsRecord (settings : Settings) : Record :=
  ⟨.debug, launchTarget, "loaded config: " ++ settings.describe, []⟩

def localesRecord (catalog : Catalog) : Record :=
  ⟨.debug, "weblaunch::locale", "detected locales",
    [("locales", Text.quoteList catalog.locales)]⟩

def launchWith (host : Host) (env : Environment) (files : FileTree)
    (arguments : CommandLine.Arguments) : Course :=
  let settings := effectiveSettings env files
  let catalog := Catalog.ofEnvironment env.text? settings.translations
  let handoff :=
    Handoff.launchWithin host.workers (fun url => (host.browser env files url).opening)
      (host.seconds env files) settings catalog arguments.url
  { status := handoff.status
    records :=
      ignoredRecords arguments.rest ++ loadRecords env files ++
        settingsRecord settings :: localesRecord catalog :: handoff.records
    urls := handoff.calls
    calls := handoff.calls.flatMap fun url => (host.browser env files url).calls }

def launch (env : Environment) (files : FileTree) (arguments : CommandLine.Arguments) : Course :=
  launchWith .standard env files arguments

def colours (env : Environment) : Bool := env.isFilled "CLICOLOR_FORCE" && !env.isFilled "NO_COLOR"

def course (host : Host) (env : Environment) (files : FileTree)
    (argv : List Octets) : Course :=
  match CommandLine.parse (argv.drop 1) with
  | .ok arguments => launchWith host env files arguments
  | .error refusal =>
    let message := (refusal.message (CommandLine.programName argv.head?)).written (colours env)
    if refusal.isError then { status := refusal.status, complaint := message }
    else { status := refusal.status, stdout := message }

def openLog (env : Environment) (files : FileTree) : FileTree × Option Nat :=
  match files.makeDirectories (BaseDirectory.logDirectory env) with
  | (made, some number) => (made, some number)
  | (made, none) =>
    match made.append (BaseDirectory.logPath env) [] with
    | .ok opened => (opened, none)
    | .error number => (made, some number)

def startRecord (env : Environment) : Record :=
  ⟨.debug, "weblaunch::logging",
    "logging initialized at " ++ (BaseDirectory.logPath env).lossyText, []⟩

def fallbackRecord (number : Nat) : Record :=
  ⟨.warn, "weblaunch", "file logging unavailable: " ++ (SystemError.numbered number).message, []⟩

def filter (isPattern : IsPattern) (env : Environment) : Filter :=
  .ofVariable isPattern (env.text? "RUST_LOG")

def logText (filter : Filter) (records : List Record) : String :=
  Log.text (records.filter filter.allows)

structure Output where
  status : Nat
  stdout : String
  stderr : String
  logged : String
  urls : List String
  calls : List Browser.Call
  deriving DecidableEq, Repr

def output (host : Host) (env : Environment) (files : FileTree)
    (argv : List Octets) (failure : Option Nat) : Output :=
  let course := course host env files argv
  let start :=
    match failure with
    | none => startRecord env
    | some number => fallbackRecord number
  let lines := logText (filter host.isPattern env) (start :: course.records)
  { status := course.status
    stdout := course.stdout
    stderr := (if failure.isNone then "" else lines) ++ course.complaint
    logged := if failure.isNone then lines else ""
    urls := course.urls
    calls := course.calls }

def runWith (host : Host) (env : Environment) (files : FileTree)
    (argv : List Octets) : Output × FileTree :=
  let (opened, failure) := openLog env files
  let output := output host env opened argv failure
  if failure.isNone then
    let written := opened.append (BaseDirectory.logPath env) (.ofText output.logged)
    (output, written.toOption.getD opened)
  else (output, opened)

def run (env : Environment) (files : FileTree) (argv : List Octets) : Output × FileTree :=
  runWith .standard env files argv

theorem runWith_output (host : Host) (env : Environment) (files : FileTree)
    (argv : List Octets) :
    (runWith host env files argv).1 =
      output host env (openLog env files).1 argv (openLog env files).2 := by
  unfold runWith
  split
  rename_i opened failure h
  split <;> simp only [h]

end UrlHandoff.Program
