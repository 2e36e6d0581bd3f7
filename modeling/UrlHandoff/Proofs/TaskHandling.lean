import UrlHandoff.Proofs.OutcomeIsolation

namespace UrlHandoff

namespace Job

theorem joined?_begin_released (opening : Opening) (url : String) :
    (begin true opening url).joined?.isSome = true := by
  cases opening <;> rfl

theorem joined?_resume (job : Job) : job.resume.joined?.isSome = true := by
  cases job with
  | blocked opening url => exact joined?_begin_released opening url
  | ended joined => rfl

theorem resume_of_joined? {job : Job} {joined : Joined} (h : job.joined? = some joined) :
    job.resume = job := by
  cases job with
  | blocked opening url => cases h
  | ended joined => rfl

end Job

namespace Session

def answer (history : List Step) (query : Step) : Answer := ((reached history).step query).2

inductive Parts (id : String) (history : List Step) : Step → Prop
  | dropped : Parts id history (.drop id)
  | delivered {outcome : Outcome} (h : answer history (.outcome id) = .delivered outcome) :
      Parts id history (.outcome id)
  | relaunched (opening : Opening) (target : Target) (launcher : Nat) :
      Parts id history (.launch id opening target launcher)

inductive Held (id : String) (before : List Step) (launch : Step) : List Step → Prop
  | fresh : Held id before launch []
  | still {after : List Step} {step : Step} (held : Held id before launch after)
      (kept : ¬Parts id (before ++ launch :: after) step) :
      Held id before launch (after ++ [step])

theorem reached_append (first rest : List Step) :
    reached (first ++ rest) = ((reached first).run rest).1 := by
  rw [reached, run_append]
  rfl

theorem answer_isFinished {history : List Step} {id : String} {task : Nat}
    (h : (reached history).task? id = some task) :
    answer history (.isFinished id) = .finished ((reached history).joined? task).isSome := by
  simp only [answer, step, h]

theorem answer_outcome {history : List Step} {id : String} {task : Nat}
    (h : (reached history).task? id = some task) :
    answer history (.outcome id) =
      (((reached history).joined? task).map Joined.outcome).elim .wouldBlock .delivered := by
  simp only [answer, step, h]
  cases (reached history).joined? task <;> rfl

theorem answer_of_no_task {history : List Step} {id : String}
    (h : (reached history).task? id = none) :
    answer history (.isFinished id) = .noTask ∧ answer history (.outcome id) = .noTask := by
  simp only [answer, step, h, and_self]

theorem letsGo_of_parts {id : String} {history : List Step} {step : Step}
    (parts : Parts id history step) (h : step.launched? ≠ some id) :
    step.letsGo id (((reached history).task? id).bind (reached history).joined?).isSome = true := by
  cases parts with
  | dropped => simp [Step.letsGo]
  | delivered delivered =>
    cases htask : (reached history).task? id with
    | none =>
      rw [(answer_of_no_task htask).2] at delivered
      cases delivered
    | some task =>
      rw [answer_outcome htask] at delivered
      cases hjoined : (reached history).joined? task with
      | none =>
        rw [hjoined] at delivered
        cases delivered
      | some joined => simp [Step.letsGo, hjoined]
  | relaunched opening target launcher => exact absurd rfl h

theorem parts_of_letsGo {id : String} {history : List Step} {step : Step}
    (h : step.letsGo id
      (((reached history).task? id).bind (reached history).joined?).isSome = true) :
    Parts id history step := by
  cases step with
  | drop other =>
    obtain rfl : other = id := by simpa [Step.letsGo] using h
    exact .dropped
  | outcome other =>
    simp only [Step.letsGo, Bool.and_eq_true, decide_eq_true_eq] at h
    obtain ⟨rfl, settled⟩ := h
    obtain ⟨joined, hjoined⟩ := Option.isSome_iff_exists.mp settled
    obtain ⟨task, htask, hjoined⟩ := Option.bind_eq_some_iff.mp hjoined
    have delivered : answer history (.outcome other) = .delivered joined.outcome := by
      rw [answer_outcome htask, hjoined]
      rfl
    exact .delivered delivered
  | launch | release | isFinished | clone | seen | shutdown | restart => cases h

theorem task?_snoc (history : List Step) {id : String} {step : Step}
    (kept : ¬Parts id history step) :
    (reached (history ++ [step])).task? id = (reached history).task? id := by
  have h : step.launched? ≠ some id := by
    cases step with
    | launch other opening target launcher =>
      intro same
      obtain rfl : other = id := Option.some.inj same
      exact kept (.relaunched opening target launcher)
    | release | isFinished | outcome | drop | clone | seen | shutdown | restart => exact nofun
  rw [reached_snoc, step_task? _ h, if_neg fun letsGo => kept (parts_of_letsGo letsGo)]

theorem task?_snoc_of_parts {history : List Step} {id : String} {step : Step}
    (parts : Parts id history step) (h : step.launched? ≠ some id) :
    (reached (history ++ [step])).task? id = none := by
  rw [reached_snoc, step_task? _ h, if_pos (letsGo_of_parts parts h)]

theorem task?_later (history : List Step) {id : String} (later : List Step)
    (h : ∀ step ∈ later, step.launched? ≠ some id) :
    (reached (history ++ later)).task? id = (reached history).task? id ∨
      (reached (history ++ later)).task? id = none := by
  induction later using List.reverseRecOn with
  | nil => exact .inl (by rw [List.append_nil])
  | append_singleton later step ih =>
    have earlier := ih fun other member => h other (List.mem_append_left _ member)
    rw [← List.append_assoc]
    by_cases parts : Parts id (history ++ later) step
    · exact .inr (task?_snoc_of_parts parts (h step (by simp)))
    · rw [task?_snoc _ parts]
      exact earlier

theorem task?_of_held {before : List Step} {id : String} {opening : Opening} {target : Target}
    {launcher : Nat} {after : List Step}
    (held : Held id before (.launch id opening target launcher) after) :
    (reached (before ++ .launch id opening target launcher :: after)).task? id =
      some (reached before).jobs.length := by
  induction held with
  | fresh =>
    rw [reached_snoc]
    exact List.lookup_cons_self
  | still held kept ih =>
    rw [← List.cons_append, ← List.append_assoc, task?_snoc _ kept]
    exact ih

theorem step_joined? (session : Session) {place : Nat} {joined : Joined}
    (h : session.joined? place = some joined) (step : Step) :
    (session.step step).1.joined? place = some joined := by
  obtain ⟨job, hjob, ended⟩ := Option.bind_eq_some_iff.mp h
  have same : (if step = .release then job.resume else job) = job := by
    split
    · exact Job.resume_of_joined? ended
    · rfl
  rw [joined?, step_job session hjob step, same]
  exact ended

theorem joined?_later (history later : List Step) {place : Nat} {joined : Joined}
    (h : (reached history).joined? place = some joined) :
    (reached (history ++ later)).joined? place = some joined := by
  induction later using List.reverseRecOn with
  | nil =>
    rw [List.append_nil]
    exact h
  | append_singleton later step ih =>
    rw [← List.append_assoc, reached_snoc]
    exact step_joined? _ ih step

structure Sound (session : Session) : Prop where
  placed : ∀ id task, session.task? id = some task → task < session.jobs.length
  ended : session.released = true → ∀ job ∈ session.jobs, job.joined?.isSome = true

theorem Sound.initial : Sound {} := ⟨nofun, nofun⟩

theorem Sound.forget {session : Session} (h : Sound session) (id : String) :
    Sound (session.forget id) := by
  refine ⟨?_, h.ended⟩
  intro other task held
  rw [task?_forget] at held
  split at held
  · cases held
  · exact h.placed other task held

theorem Sound.launch {session : Session} (h : Sound session) (id : String) (opening : Opening)
    (target : Target) (launcher : Nat) : Sound (session.launch id opening target launcher) := by
  have jobs : (session.launch id opening target launcher).jobs = _ :=
    submit_jobs (session.forget id) (session.opener launcher) opening target.url
  refine ⟨?_, ?_⟩
  · intro other task held
    rw [jobs, List.length_append, List.length_singleton]
    by_cases same : id = other
    · subst same
      have newest : (session.launch id opening target launcher).task? id = some session.jobs.length :=
        List.lookup_cons_self
      obtain rfl : session.jobs.length = task := Option.some.inj (newest.symm.trans held)
      exact Nat.lt_succ_self _
    · rw [task?_launch session same] at held
      exact Nat.lt_succ_of_lt (h.placed other task held)
  · intro released job member
    have earlier : session.released = true :=
      (submit_released (session.forget id) (session.opener launcher) opening
        target.url).symm.trans released
    rw [jobs, List.mem_append, List.mem_singleton] at member
    obtain member | rfl := member
    · exact h.ended earlier job member
    · split
      · change (Job.begin session.released opening target.url).joined?.isSome = true
        rw [earlier]
        exact Job.joined?_begin_released opening target.url
      · rfl

theorem Sound.step {session : Session} (h : Sound session) (step : Step) :
    Sound (session.step step).1 := by
  cases step with
  | launch id opening target launcher => exact h.launch id opening target launcher
  | release =>
    refine ⟨?_, ?_⟩
    · intro id task held
      change task < (session.jobs.map Job.resume).length
      rw [List.length_map]
      exact h.placed id task held
    · intro _ job member
      obtain ⟨earlier, _, rfl⟩ := List.mem_map.mp member
      exact earlier.joined?_resume
  | isFinished id =>
    rw [step_isFinished]
    exact h
  | outcome id =>
    obtain same | gone := step_outcome session id
    · rw [same]
      exact h
    · rw [gone]
      exact h.forget id
  | drop id => exact h.forget id
  | clone | seen | shutdown | restart => exact ⟨h.placed, h.ended⟩

theorem sound_reached (history : List Step) : Sound (reached history) := by
  induction history using List.reverseRecOn with
  | nil => exact .initial
  | append_singleton history step ih =>
    rw [reached_snoc]
    exact ih.step step

theorem joined?_of_released {history : List Step} (h : Step.release ∈ history) {id : String}
    {task : Nat} (held : (reached history).task? id = some task) :
    ((reached history).joined? task).isSome = true := by
  have released : (reached history).released = true := by
    rw [(mirrors_reached history).released]
    exact decide_eq_true h
  have sound := sound_reached history
  have placed := List.getElem?_eq_getElem (sound.placed id task held)
  rw [joined?, placed, Option.bind_some]
  exact sound.ended released _ (List.getElem_mem _)

theorem isFinished_eq_true {history : List Step} {id : String}
    (h : answer history (.isFinished id) = .finished true) :
    ∃ task joined, (reached history).task? id = some task ∧
      (reached history).joined? task = some joined := by
  cases htask : (reached history).task? id with
  | none =>
    rw [(answer_of_no_task htask).1] at h
    cases h
  | some task =>
    rw [answer_isFinished htask] at h
    obtain ⟨joined, hjoined⟩ := Option.isSome_iff_exists.mp (Answer.finished.inj h)
    exact ⟨task, joined, rfl, hjoined⟩

theorem reached_of_wouldBlock {history : List Step} {id : String}
    (h : answer history (.outcome id) = .wouldBlock) :
    reached (history ++ [.outcome id]) = reached history := by
  rw [reached_snoc]
  simp only [answer, step] at h ⊢
  split at h
  · cases h
  · split at h
    · rfl
    · cases h

theorem answers_of_held {before : List Step} {id : String} {opening : Opening} {target : Target}
    {launcher : Nat} {after : List Step}
    (held : Held id before (.launch id opening target launcher) after) :
    let history := before ++ .launch id opening target launcher :: after
    let result := verdict (workersRun before) (wasReleased (before ++ after)) opening target.url
    answer history (.isFinished id) = .finished result.isSome ∧
      answer history (.outcome id) = result.elim .wouldBlock .delivered := by
  have task := task?_of_held held
  have joined := reached_joined? before id opening target launcher after
  dsimp only
  rw [answer_isFinished task, answer_outcome task, joined, ← joined, Option.isSome_map]
  exact ⟨rfl, rfl⟩

/-- What is told about the tasks of one name, at any places of any run. While a task is held, the
two questions agree on whether it has ended (`agree`), and speak of its own launch (`renewed`). An
end is lasting, a question asked too early changes nothing (`pending`), an outcome is delivered once,
and after a release nothing is left to wait for. -/
structure AnswersConsistently (id : String) : Prop where
  told : ∀ history query rest,
    (({} : Session).run (history ++ query :: rest)).2[history.length]? =
      some (answer history query)
  agree : ∀ before opening target launcher after,
    Held id before (.launch id opening target launcher) after →
      let history := before ++ .launch id opening target launcher :: after
      (answer history (.isFinished id) = .finished false ∧
          answer history (.outcome id) = .wouldBlock) ∨
        answer history (.isFinished id) = .finished true ∧
          ∃ outcome, answer history (.outcome id) = .delivered outcome
  lasting : ∀ history later, answer history (.isFinished id) = .finished true →
    (∀ step ∈ later, step.launched? ≠ some id) →
      answer (history ++ later) (.isFinished id) = .finished true ∨
        answer (history ++ later) (.isFinished id) = .noTask
  pending : ∀ history, answer history (.outcome id) = .wouldBlock →
    ∀ later query, answer (history ++ .outcome id :: later) query = answer (history ++ later) query
  once : ∀ history step, Parts id history step → step.launched? ≠ some id →
    ∀ later, (∀ other ∈ later, other.launched? ≠ some id) →
      answer (history ++ step :: later) (.isFinished id) = .noTask ∧
        answer (history ++ step :: later) (.outcome id) = .noTask
  renewed : ∀ before opening target launcher after,
    Held id before (.launch id opening target launcher) after →
      let history := before ++ .launch id opening target launcher :: after
      let result := verdict (workersRun before) (wasReleased (before ++ after)) opening target.url
      answer history (.isFinished id) = .finished result.isSome ∧
        answer history (.outcome id) = result.elim .wouldBlock .delivered
  released : ∀ history, .release ∈ history →
    answer history (.isFinished id) ≠ .finished false ∧
      answer history (.outcome id) ≠ .wouldBlock

theorem answers_consistently (id : String) : AnswersConsistently id where
  told := run_answer
  agree before opening target launcher after held := by
    obtain ⟨finished, outcome⟩ := answers_of_held held
    dsimp only
    rw [finished, outcome]
    cases verdict (workersRun before) (wasReleased (before ++ after)) opening target.url with
    | none => exact .inl ⟨rfl, rfl⟩
    | some outcome => exact .inr ⟨rfl, outcome, rfl⟩
  lasting history later finished h := by
    obtain ⟨task, joined, htask, hjoined⟩ := isFinished_eq_true finished
    obtain same | gone := task?_later history later h
    · left
      rw [answer_isFinished (same.trans htask), joined?_later history later hjoined]
      rfl
    · exact .inr (answer_of_no_task gone).1
  pending history h later query := by
    have same : reached (history ++ .outcome id :: later) = reached (history ++ later) := by
      rw [List.append_cons, reached_append, reached_of_wouldBlock h, ← reached_append]
    rw [answer, answer, same]
  once history step parts hstep later h := by
    have gone := task?_snoc_of_parts parts hstep
    apply answer_of_no_task
    rw [List.append_cons]
    obtain same | none := task?_later (history ++ [step]) later h
    · exact same.trans gone
    · exact none
  renewed before opening target launcher after held := answers_of_held held
  released history h := by
    cases htask : (reached history).task? id with
    | none =>
      obtain ⟨finished, outcome⟩ := answer_of_no_task htask
      rw [finished, outcome]
      exact ⟨nofun, nofun⟩
    | some task =>
      have ended := joined?_of_released h htask
      obtain ⟨joined, hjoined⟩ := Option.isSome_iff_exists.mp ended
      rw [answer_isFinished htask, answer_outcome htask, hjoined]
      exact ⟨nofun, nofun⟩

theorem answers_consistently_of_relaunch :
    let before : List Step := [.launch "a" .waits ⟨"x"⟩ 0, .outcome "a"]
    let launch : Step := .launch "a" (.fails (.plain .notFound)) ⟨"y"⟩ 1
    let later : List Step := [.shutdown, .isFinished "a"]
    let history := before ++ launch :: later
    answer (before.take 1) (.outcome "a") = .wouldBlock ∧
      answer before (.isFinished "a") = .finished false ∧ Held "a" before launch later ∧
        answer history (.outcome "a") = .delivered (.failed ⟨"y", .plain .notFound⟩) ∧
          answer (history ++ [.outcome "a", .restart]) (.outcome "a") = .noTask := by
  intro before launch later history
  have consistent := answers_consistently "a"
  have early : answer (before.take 1) (.outcome "a") = .wouldBlock := by decide
  have unmoved := consistent.pending (before.take 1) early [] (.isFinished "a")
  have held : Held "a" before launch ([] ++ [.shutdown] ++ [.isFinished "a"]) :=
    .still (.still .fresh nofun) nofun
  have delivered := (consistent.renewed before _ _ _ later held).2
  have gone := consistent.once history (.outcome "a") (.delivered delivered) nofun [.restart]
    (by decide)
  exact ⟨early, unmoved.trans (by decide), held, delivered.trans (by decide), gone.2⟩

end Session

end UrlHandoff
