import UrlHandoff.SystemError
import UrlHandoff.Catalog

/-!
Detached launches. A launch hands a URL to an opener on a background worker and leaves a task
behind that can be asked how it went. Work that has begun goes on whatever becomes of its task.
-/

namespace UrlHandoff

inductive Opening
  | succeeds
  | fails (cause : SystemError)
  | crashes
  | waits
  deriving DecidableEq, Repr

inductive Ending
  | accepted
  | refused (error : LaunchError)
  | unwound
  deriving DecidableEq, Repr

inductive Outcome
  | opened
  | failed (error : LaunchError)
  | crashed
  | aborted
  deriving DecidableEq, Repr

namespace Outcome

def name : Outcome → String
  | opened => "Opened"
  | failed _ => "Failed"
  | crashed => "Panicked"
  | aborted => "Aborted"

def describe : Outcome → String
  | failed error => "Failed(" ++ error.describe ++ ")"
  | outcome => outcome.name

end Outcome

def Opening.ending? (released : Bool) (url : String) : Opening → Option Ending
  | succeeds => some .accepted
  | fails cause => some (.refused ⟨url, cause⟩)
  | crashes => some .unwound
  | waits => if released then some .accepted else none

def Ending.contained : Ending → Outcome
  | accepted => .opened
  | refused error => .failed error
  | unwound => .crashed

inductive Joined
  | returned (outcome : Outcome)
  | unwound
  | cancelled
  deriving DecidableEq, Repr

def Joined.outcome : Joined → Outcome
  | returned outcome => outcome
  | unwound => .crashed
  | cancelled => .aborted

inductive Job
  | blocked (opening : Opening) (url : String)
  | ended (joined : Joined)
  deriving DecidableEq, Repr

namespace Job

def begin (released : Bool) (opening : Opening) (url : String) : Job :=
  match opening.ending? released url with
  | some ending => .ended (.returned ending.contained)
  | none => .blocked opening url

def resume : Job → Job
  | blocked opening url => begin true opening url
  | ended joined => ended joined

def joined? : Job → Option Joined
  | blocked _ _ => none
  | ended joined => some joined

end Job

structure Session where
  running : Bool := true
  released : Bool := false
  /-- For each launcher, the place of the opener that it holds on to. -/
  launchers : List Nat := [0]
  calls : List (List String) := [[]]
  jobs : List Job := []
  tasks : List (String × Nat) := []
  deriving DecidableEq, Repr

inductive Step
  | launch (id : String) (opening : Opening) (target : Target) (launcher : Nat)
  | release
  | isFinished (id : String)
  | outcome (id : String)
  | drop (id : String)
  | clone (launcher : Nat)
  | seen (launcher : Nat)
  | shutdown
  | restart
  deriving DecidableEq, Repr

inductive Answer
  | launched
  | released
  | finished (yes : Bool)
  | delivered (outcome : Outcome)
  | noTask
  | wouldBlock
  | dropped (held : Bool)
  | launchers (count : Nat)
  | seen (urls : List String)
  | wasRunning (yes : Bool)
  | restarted
  deriving DecidableEq, Repr

namespace Session

def task? (session : Session) (id : String) : Option Nat := session.tasks.lookup id

def forget (session : Session) (id : String) : Session :=
  { session with tasks := session.tasks.filter fun entry => entry.1 ≠ id }

def joined? (session : Session) (task : Nat) : Option Joined :=
  session.jobs[task]?.bind Job.joined?

def opener (session : Session) (launcher : Nat) : Nat := (session.launchers[launcher]?).getD 0

def seen (session : Session) (launcher : Nat) : List String :=
  (session.calls[session.opener launcher]?).getD []

/-- Workers that have been shut down cancel a job before it calls the opener. -/
def submit (session : Session) (opener : Nat) (opening : Opening) (url : String) : Session :=
  if session.running then
    { session with
      jobs := session.jobs ++ [.begin session.released opening url]
      calls := session.calls.modify opener (· ++ [url]) }
  else { session with jobs := session.jobs ++ [.ended .cancelled] }

/-- A new task takes the place of one held under the same name. -/
def launch (session : Session) (id : String) (opening : Opening) (target : Target)
    (launcher : Nat) : Session :=
  { (session.forget id).submit (session.opener launcher) opening target.url with
    tasks := (id, session.jobs.length) :: (session.forget id).tasks }

def step (session : Session) : Step → Session × Answer
  | .launch id opening target launcher =>
    (session.launch id opening target launcher, .launched)
  | .release =>
    ({ session with released := true, jobs := session.jobs.map Job.resume }, .released)
  | .isFinished id =>
    match session.task? id with
    | none => (session, .noTask)
    | some task => (session, .finished (session.joined? task).isSome)
  | .outcome id =>
    match session.task? id with
    | none => (session, .noTask)
    | some task =>
      match session.joined? task with
      | none => (session, .wouldBlock)
      | some joined => (session.forget id, .delivered joined.outcome)
  | .drop id => (session.forget id, .dropped (session.task? id).isSome)
  | .clone launcher =>
    ({ session with launchers := session.launchers ++ [session.opener launcher] },
      .launchers (session.launchers.length + 1))
  | .seen launcher => (session, .seen (session.seen launcher))
  | .shutdown => ({ session with running := false }, .wasRunning session.running)
  | .restart => ({ session with running := true }, .restarted)

def run (session : Session) : List Step → Session × List Answer
  | [] => (session, [])
  | step :: rest =>
    let (next, answer) := session.step step
    let (last, answers) := next.run rest
    (last, answer :: answers)

theorem run_cons (session : Session) (step : Step) (rest : List Step) :
    session.run (step :: rest) =
      (((session.step step).1.run rest).1,
        (session.step step).2 :: ((session.step step).1.run rest).2) := rfl

end Session

end UrlHandoff
