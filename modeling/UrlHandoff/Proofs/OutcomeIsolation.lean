import UrlHandoff.Proofs.SessionHistory

namespace UrlHandoff

def verdict (begun released : Bool) (opening : Opening) (url : String) : Option Outcome :=
  match begun, opening with
  | false, _ => some .aborted
  | true, .succeeds => some .opened
  | true, .fails cause => some (.failed ⟨url, cause⟩)
  | true, .crashes => some .crashed
  | true, .waits => if released then some .opened else none

namespace Job

def standing (begun released : Bool) (opening : Opening) (url : String) : Job :=
  if begun then .begin released opening url else .ended .cancelled

theorem standing_outcome (begun released : Bool) (opening : Opening) (url : String) :
    (standing begun released opening url).joined?.map Joined.outcome =
      verdict begun released opening url := by
  cases begun with
  | false => rfl
  | true =>
    cases opening with
    | waits => cases released <;> rfl
    | succeeds | fails | crashes => rfl

theorem resume_standing (begun released : Bool) (opening : Opening) (url : String) :
    (standing begun released opening url).resume = standing begun true opening url := by
  cases begun with
  | false => rfl
  | true =>
    cases opening with
    | waits => cases released <;> rfl
    | succeeds | fails | crashes => rfl

end Job

namespace Step

def launched? : Step → Option String
  | launch id _ _ _ => some id
  | _ => none

def letsGo (id : String) (settled : Bool) : Step → Bool
  | drop other => decide (other = id)
  | outcome other => decide (other = id) && settled
  | _ => false

end Step

namespace Session

def letGo (id : String) (settled : List Step → Bool) (history : List Step) : Bool :=
  (contexts history).any fun entry => entry.2.letsGo id (settled entry.1)

theorem letGo_snoc (id : String) (settled : List Step → Bool) (history : List Step)
    (step : Step) : letGo id settled (history ++ [step]) =
      (letGo id settled history || step.letsGo id (settled history)) := by
  rw [letGo, contexts_snoc, List.any_append, List.any_cons, List.any_nil, Bool.or_false]
  rfl

theorem lookup_filter (tasks : List (String × Nat)) (id other : String) :
    (tasks.filter fun entry => entry.1 ≠ other).lookup id =
      if other = id then none else tasks.lookup id := by
  induction tasks with
  | nil => exact (ite_self _).symm
  | cons entry rest ih =>
    obtain ⟨name, place⟩ := entry
    by_cases hname : name = other
    · subst hname
      rw [List.filter_cons_of_neg (by simp), ih]
      by_cases hid : name = id
      · rw [if_pos hid, if_pos hid]
      · rw [if_neg hid, if_neg hid, List.lookup_cons, beq_false_of_ne (Ne.symm hid)]
    · rw [List.filter_cons_of_pos (by simpa using hname), List.lookup_cons, ih, List.lookup_cons]
      cases hid : id == name with
      | false => rfl
      | true =>
        have hne : other ≠ id := fun he => hname ((eq_of_beq hid).symm.trans he.symm)
        exact (if_neg hne).symm

theorem task?_forget (session : Session) (id other : String) :
    (session.forget other).task? id = if other = id then none else session.task? id :=
  lookup_filter session.tasks id other

theorem task?_launch (session : Session) {id other : String} (h : other ≠ id) (opening : Opening)
    (target : Target) (launcher : Nat) :
    (session.launch other opening target launcher).task? id = session.task? id := by
  have hne : (id == other) = false := beq_false_of_ne (Ne.symm h)
  change List.lookup id ((other, _) :: (session.forget other).tasks) = _
  rw [List.lookup_cons, hne]
  exact (task?_forget session id other).trans (if_neg h)

theorem step_task? (session : Session) {id : String} {step : Step}
    (h : step.launched? ≠ some id) :
    (session.step step).1.task? id =
      if step.letsGo id ((session.task? id).bind session.joined?).isSome then none
      else session.task? id := by
  cases step with
  | launch other opening target launcher =>
    exact task?_launch session (fun he => h (congrArg some he)) opening target launcher
  | drop other =>
    refine (task?_forget session id other).trans ?_
    simp [Step.letsGo]
  | outcome other =>
    by_cases hother : other = id
    · subst hother
      simp only [Session.step, Step.letsGo, decide_true, Bool.true_and]
      cases htask : session.task? other with
      | none => simp [htask]
      | some task =>
        cases hjoined : session.joined? task with
        | none => simp [htask, hjoined]
        | some joined => simp [hjoined, task?_forget]
    · simp only [Session.step, Step.letsGo, hother, decide_false, Bool.false_and]
      split
      · rfl
      · split
        · rfl
        · exact (task?_forget session id other).trans (if_neg hother)
  | isFinished other =>
    simp only [Session.step]
    split <;> rfl
  | release | clone | seen | shutdown | restart => rfl

theorem step_job (session : Session) {place : Nat} {job : Job}
    (h : session.jobs[place]? = some job) (step : Step) :
    (session.step step).1.jobs[place]? =
      some (if step = .release then job.resume else job) := by
  -- A launch adds its job behind the others, so the places of earlier jobs stay.
  cases step with
  | launch id opening target launcher =>
    have hlt : place < session.jobs.length := (List.getElem?_eq_some_iff.mp h).1
    change ((session.forget id).submit _ opening target.url).jobs[place]? = _
    rw [submit_jobs]
    exact (List.getElem?_append_left hlt).trans h
  | release =>
    change (session.jobs.map Job.resume)[place]? = _
    rw [List.getElem?_map, h]
    rfl
  | shutdown | restart => exact h
  | drop | clone | seen => exact h
  | isFinished id =>
    rw [step_isFinished]
    exact h
  | outcome id =>
    obtain heq | heq := step_outcome session id <;> rw [heq] <;> exact h

theorem reached_launch (before : List Step) (id : String) (opening : Opening) (target : Target)
    (launcher : Nat) :
    (reached (before ++ [.launch id opening target launcher])).jobs[(reached before).jobs.length]? =
      some (.standing (workersRun before) (wasReleased before) opening target.url) := by
  rw [reached_snoc, ← (mirrors_reached before).running, ← (mirrors_reached before).released]
  change (((reached before).forget id).submit _ opening target.url).jobs[_]? = _
  rw [submit_jobs]
  exact List.getElem?_concat_length

section Launched

variable (before : List Step) (id : String) (opening : Opening) (target : Target) (launcher : Nat)

theorem reached_job (after : List Step) :
    (reached (before ++ .launch id opening target launcher :: after)).jobs[
        (reached before).jobs.length]? =
      some (.standing (workersRun before) (wasReleased (before ++ after)) opening target.url) := by
  induction after using List.reverseRecOn with
  | nil =>
    rw [List.append_nil]
    exact reached_launch before id opening target launcher
  | append_singleton after step ih =>
    rw [← List.cons_append, ← List.append_assoc, reached_snoc, step_job _ ih, ← List.append_assoc,
      wasReleased_snoc]
    by_cases hstep : step = .release
    · rw [if_pos hstep, decide_eq_true hstep, Bool.or_true, Job.resume_standing]
    · rw [if_neg hstep, decide_eq_false hstep, Bool.or_false]

def settled (after : List Step) : Bool :=
  (verdict (workersRun before) (wasReleased (before ++ after)) opening target.url).isSome

theorem reached_joined? (after : List Step) :
    ((reached (before ++ .launch id opening target launcher :: after)).joined?
        (reached before).jobs.length).map Joined.outcome =
      verdict (workersRun before) (wasReleased (before ++ after)) opening target.url := by
  rw [joined?, reached_job, Option.bind_some, Job.standing_outcome]

theorem reached_task? (after : List Step) (h : ∀ step ∈ after, step.launched? ≠ some id) :
    (reached (before ++ .launch id opening target launcher :: after)).task? id =
      if letGo id (settled before opening target) after then none
      else some (reached before).jobs.length := by
  induction after using List.reverseRecOn with
  | nil =>
    rw [reached_snoc]
    exact List.lookup_cons_self
  | append_singleton after step ih =>
    have held := ih fun step hs => h step (List.mem_append_left _ hs)
    have hstep : step.launched? ≠ some id := h step (by simp)
    rw [← List.cons_append, ← List.append_assoc, reached_snoc, step_task? _ hstep, held, letGo_snoc]
    cases letGo id (settled before opening target) after with
    | true => simp
    | false =>
      have joined := reached_joined? before id opening target launcher after
      simp only [Bool.false_eq_true, if_false, Option.bind_some, Bool.false_or]
      rw [settled, ← joined, Option.isSome_map]

end Launched

/-- What the holder of a task is told. The answers name the launch, the state of the workers at
that time and whether there has been a release, and nothing else of the history. -/
theorem run_outcome (before after rest : List Step) (id : String) (opening : Opening)
    (target : Target) (launcher : Nat) (h : ∀ step ∈ after, step.launched? ≠ some id) :
    let history := before ++ .launch id opening target launcher :: after
    let result := verdict (workersRun before) (wasReleased (before ++ after)) opening target.url
    let gone := letGo id (settled before opening target) after
    (({} : Session).run (history ++ .outcome id :: rest)).2[history.length]? =
        some (if gone then .noTask else result.elim .wouldBlock .delivered) ∧
      (({} : Session).run (history ++ .isFinished id :: rest)).2[history.length]? =
        some (if gone then .noTask else .finished result.isSome) := by
  dsimp only
  have task := reached_task? before id opening target launcher after h
  have joined := reached_joined? before id opening target launcher after
  rw [run_answer, run_answer, step, step, task, ← joined]
  cases letGo id (settled before opening target) after with
  | true => exact ⟨rfl, rfl⟩
  | false =>
    constructor
    · simp only [Bool.false_eq_true, if_false]
      split <;> simp [*]
    · simp

theorem run_outcome_after_shutdown :
    (∀ step ∈ [Step.shutdown, .outcome "a", .release, .restart], step.launched? ≠ some "a") ∧
      (({} : Session).run [.launch "b" .crashes ⟨"y"⟩ 0, .launch "a" .waits ⟨"x"⟩ 1, .shutdown,
        .outcome "a", .release, .restart, .outcome "a"]).2[6]? = some (.delivered .opened) := by
  have h : ∀ step ∈ [Step.shutdown, .outcome "a", .release, .restart],
      step.launched? ≠ some "a" := by decide
  have answer := (run_outcome [.launch "b" .crashes ⟨"y"⟩ 0]
    [.shutdown, .outcome "a", .release, .restart] [] "a" .waits ⟨"x"⟩ 1 h).1
  exact ⟨h, answer.trans (by decide)⟩

end Session

end UrlHandoff
