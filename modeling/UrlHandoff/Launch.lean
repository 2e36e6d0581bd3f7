import UrlHandoff.Log.Record
import UrlHandoff.Session
import UrlHandoff.Settings

/-!
One launch: the URL is chosen and translated, handed to the opener once, and forgotten. Whatever
the opener does, the launch counts as done. The worker is left the grace of the settings; when that
is over the process ends, and what the worker was to report is never written.
-/

namespace UrlHandoff

structure Handoff where
  status : Nat
  calls : List String
  records : List Log.Record
  deriving DecidableEq, Repr

/-- What is seen of an opener that needs some whole seconds and more, by one who waits for so many:
past that it might as well wait for ever. -/
def Opening.within (grace seconds : Nat) (opening : Opening) : Opening :=
  if seconds < grace then opening else .waits

namespace Handoff

def commandTarget : String := "weblaunch::cli::launch"

def workerTarget : String := "weblaunch::launcher"

def report (url : String) : Opening → List Log.Record
  | .succeeds =>
    [⟨.info, workerTarget, "browser launch requested", [("url", url)]⟩]
  | .fails cause =>
    [⟨.warn, workerTarget, "browser launch failed",
      [("url", url), ("error", (LaunchError.mk url cause).message)]⟩]
  | .crashes => [⟨.warn, workerTarget, "browser opener panicked", [("url", url)]⟩]
  | .waits => []

def session (opening : Opening) (target : Target) : Session :=
  (({} : Session).run [.launch "" opening target 0, .drop "", .shutdown]).1

def url (settings : Settings) (catalog : Catalog) (flag : Option String) : String :=
  ((Target.choose flag settings.defaultUrl).localized catalog).url

def started (url : String) : List Log.Record :=
  [⟨.info, commandTarget, "opening in default browser", [("url", url)]⟩,
    ⟨.debug, workerTarget, "spawning detached browser launch", [("url", url)]⟩]

def launch (opener : String → Opening) (settings : Settings) (catalog : Catalog)
    (flag : Option String) : Handoff :=
  let url := url settings catalog flag
  { status := 0
    calls := (session (opener url) ⟨url⟩).seen 0
    records := started url ++ report url (opener url) }

def skipped (cause : SystemError) : Handoff where
  status := 0
  calls := []
  records := [⟨.warn, commandTarget,
    "browser launch skipped: building launch runtime: " ++ cause.message, []⟩]

def launchWithin (workers : Except SystemError Unit) (opener : String → Opening)
    (seconds : String → Nat) (settings : Settings) (catalog : Catalog) (flag : Option String) :
    Handoff :=
  match workers with
  | .error cause => skipped cause
  | .ok () =>
    launch (fun url => (opener url).within settings.graceSeconds (seconds url)) settings catalog
      flag

theorem launch_calls (opener : String → Opening) (settings : Settings) (catalog : Catalog)
    (flag : Option String) :
    (launch opener settings catalog flag).calls = [url settings catalog flag] := rfl

end Handoff

theorem Opening.within_of_lt {grace seconds : Nat} (h : seconds < grace) (opening : Opening) :
    opening.within grace seconds = opening := if_pos h

theorem Opening.within_of_le {grace seconds : Nat} (h : grace ≤ seconds) (opening : Opening) :
    opening.within grace seconds = .waits := if_neg (Nat.not_lt.mpr h)

end UrlHandoff
