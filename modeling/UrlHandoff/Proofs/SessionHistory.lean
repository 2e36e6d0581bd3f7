import Mathlib.Data.List.Induction
import UrlHandoff.Session

namespace UrlHandoff

namespace Step

def url? : Step → Option String
  | launch _ _ target _ => some target.url
  | _ => none

def isSwitch : Step → Bool
  | shutdown | restart => true
  | _ => false

def isHandling : Step → Bool
  | isFinished _ | outcome _ | drop _ | clone _ | seen _ => true
  | _ => false

end Step

namespace Session

def contexts (history : List Step) : List (List Step × Step) :=
  history.zipIdx.map fun entry => (history.take entry.2, entry.1)

def workersRun (history : List Step) : Bool :=
  decide ((history.filter Step.isSwitch).getLast? ≠ some .shutdown)

def wasReleased (history : List Step) : Bool := decide (.release ∈ history)

def issued (history : List Step) : List String :=
  (contexts history).filterMap fun entry => if workersRun entry.1 then entry.2.url? else none

def reached (history : List Step) : Session := (({} : Session).run history).1

theorem contexts_snoc (history : List Step) (step : Step) :
    contexts (history ++ [step]) = contexts history ++ [(history, step)] := by
  rw [contexts, List.zipIdx_append, List.map_append]
  congr 1
  · apply List.map_congr_left
    intro entry h
    have hlt : entry.2 < history.length := by
      simpa using List.snd_lt_of_mem_zipIdx h
    rw [List.take_append_of_le_length (Nat.le_of_lt hlt)]
  · simp

theorem workersRun_snoc (history : List Step) (step : Step) :
    workersRun (history ++ [step]) =
      if step.isSwitch then decide (step ≠ .shutdown) else workersRun history := by
  cases h : step.isSwitch <;> simp [workersRun, List.filter_append, h]

theorem wasReleased_snoc (history : List Step) (step : Step) :
    wasReleased (history ++ [step]) = (wasReleased history || decide (step = .release)) := by
  simp [wasReleased, eq_comm]

theorem issued_snoc (history : List Step) (step : Step) :
    issued (history ++ [step]) =
      issued history ++ if workersRun history then step.url?.toList else [] := by
  rw [issued, contexts_snoc, List.filterMap_append]
  congr 1
  cases workersRun_eq : workersRun history with
  | true => cases h : step.url? <;> simp [workersRun_eq, h]
  | false => simp [workersRun_eq]

theorem issued_snoc_of_no_url (history : List Step) {step : Step} (h : step.url? = none) :
    issued (history ++ [step]) = issued history := by
  rw [issued_snoc, h, Option.toList_none, ite_self, List.append_nil]

theorem run_append (session : Session) (first rest : List Step) :
    session.run (first ++ rest) =
      (((session.run first).1.run rest).1,
        (session.run first).2 ++ ((session.run first).1.run rest).2) := by
  induction first generalizing session with
  | nil => rfl
  | cons step first ih =>
    rw [List.cons_append, run_cons, ih, run_cons]
    rfl

theorem length_run_answers (session : Session) (history : List Step) :
    (session.run history).2.length = history.length := by
  induction history generalizing session with
  | nil => rfl
  | cons step rest ih =>
    rw [run_cons, List.length_cons, ih, List.length_cons]

theorem reached_snoc (history : List Step) (step : Step) :
    reached (history ++ [step]) = ((reached history).step step).1 := by
  rw [reached, run_append]
  rfl

theorem run_answer (history : List Step) (query : Step) (rest : List Step) :
    (({} : Session).run (history ++ query :: rest)).2[history.length]? =
      some ((reached history).step query).2 := by
  have h := length_run_answers {} history
  rw [run_append, List.getElem?_append_right (Nat.le_of_eq h), h, Nat.sub_self]
  rfl

theorem step_isFinished (session : Session) (id : String) :
    (session.step (.isFinished id)).1 = session := by
  simp only [step]
  split <;> rfl

theorem step_outcome (session : Session) (id : String) :
    (session.step (.outcome id)).1 = session ∨
      (session.step (.outcome id)).1 = session.forget id := by
  simp only [step]
  split
  · exact .inl rfl
  · split
    · exact .inl rfl
    · exact .inr rfl

theorem opener_eq {session : Session} (shared : ∀ opener ∈ session.launchers, opener = 0)
    (launcher : Nat) : session.opener launcher = 0 := by
  rw [opener]
  cases h : session.launchers[launcher]? with
  | none => rfl
  | some opener => exact shared opener (List.mem_of_getElem? h)

/-- A step that is no launch and turns nothing on or off leaves everything but tasks and launchers,
and a new launcher holds on to the opener of an old one. -/
theorem step_handling (session : Session) {step : Step} (h : step.isHandling = true) :
    ∃ tasks launchers,
      (∀ opener ∈ launchers, opener ∈ session.launchers ∨
        ∃ launcher, opener = session.opener launcher) ∧
      (session.step step).1 = { session with tasks := tasks, launchers := launchers } := by
  cases step with
  | isFinished id => exact ⟨_, _, fun _ => .inl, step_isFinished session id⟩
  | outcome id =>
    obtain heq | heq := step_outcome session id
    · exact ⟨_, _, fun _ => .inl, heq⟩
    · exact ⟨_, _, fun _ => .inl, heq⟩
  | clone launcher =>
    refine ⟨_, _, fun opener member => ?_, rfl⟩
    exact (List.mem_append.mp member).imp_right fun new => ⟨launcher, List.mem_singleton.mp new⟩
  | drop | seen => exact ⟨_, _, fun _ => .inl, rfl⟩
  | launch | release | shutdown | restart => cases h

section Submit

variable (session : Session) (opener : Nat) (opening : Opening) (url : String)

@[simp]
theorem submit_running : (session.submit opener opening url).running = session.running := by
  unfold submit
  split <;> rfl

@[simp]
theorem submit_released : (session.submit opener opening url).released = session.released := by
  unfold submit
  split <;> rfl

@[simp]
theorem submit_launchers :
    (session.submit opener opening url).launchers = session.launchers := by
  unfold submit
  split <;> rfl

theorem submit_calls :
    (session.submit opener opening url).calls =
      session.calls.modify opener (· ++ if session.running then [url] else []) := by
  cases running : session.running with
  | true => simp [submit, running]
  | false =>
    simp only [submit, running, Bool.false_eq_true, if_false, List.append_nil]
    exact (List.modify_id _ _).symm

theorem submit_jobs :
    (session.submit opener opening url).jobs =
      session.jobs ++
        [if session.running then .begin session.released opening url else .ended .cancelled] := by
  unfold submit
  split <;> simp [*]

end Submit

structure Mirrors (history : List Step) (session : Session) : Prop where
  running : session.running = workersRun history
  released : session.released = wasReleased history
  shared : ∀ opener ∈ session.launchers, opener = 0
  calls : session.calls = [issued history]

theorem Mirrors.initial : Mirrors [] {} := ⟨rfl, rfl, fun _ => List.mem_singleton.mp, rfl⟩

theorem Mirrors.seen {history : List Step} {session : Session} (h : Mirrors history session)
    (launcher : Nat) : session.seen launcher = issued history := by
  rw [Session.seen, opener_eq h.shared, h.calls]
  rfl

theorem Mirrors.calls_kept {history : List Step} {session : Session} (h : Mirrors history session)
    {step : Step} (hurl : step.url? = none) : session.calls = [issued (history ++ [step])] := by
  rw [issued_snoc_of_no_url history hurl]
  exact h.calls

theorem Mirrors.handling {history : List Step} {session : Session} (h : Mirrors history session)
    {step : Step} (hs : step.isHandling = true) :
    Mirrors (history ++ [step]) (session.step step).1 := by
  obtain ⟨tasks, launchers, old, heq⟩ := step_handling session hs
  have hswitch : step.isSwitch = false := by cases step <;> first | rfl | cases hs
  have hurl : step.url? = none := by cases step <;> first | rfl | cases hs
  have hrelease : step ≠ .release := by rintro rfl; cases hs
  rw [heq]
  refine ⟨?_, ?_, ?_, ?_⟩
  · rw [workersRun_snoc, hswitch]
    exact h.running
  · rw [wasReleased_snoc, decide_eq_false hrelease, Bool.or_false]
    exact h.released
  · intro opener member
    obtain held | ⟨launcher, rfl⟩ := old opener member
    · exact h.shared opener held
    · exact opener_eq h.shared launcher
  · exact h.calls_kept hurl

theorem Mirrors.launch {history : List Step} {session : Session} (h : Mirrors history session)
    (id : String) (opening : Opening) (target : Target) (launcher : Nat) :
    Mirrors (history ++ [.launch id opening target launcher])
      (session.launch id opening target launcher) := by
  refine ⟨?_, ?_, ?_, ?_⟩
  · rw [workersRun_snoc, ← h.running]
    exact submit_running _ _ _ _
  · rw [wasReleased_snoc, ← h.released]
    exact (submit_released _ _ _ _).trans (Bool.or_false _).symm
  · exact (submit_launchers (session.forget id) _ _ _).symm ▸ h.shared
  · refine (submit_calls (session.forget id) _ _ _).trans ?_
    change session.calls.modify _ _ = _
    rw [opener_eq h.shared, h.calls, issued_snoc, ← h.running]
    rfl

theorem Mirrors.step {history : List Step} {session : Session} (h : Mirrors history session)
    (step : Step) : Mirrors (history ++ [step]) (session.step step).1 := by
  cases step with
  | launch id opening target launcher => exact h.launch id opening target launcher
  | release =>
    refine ⟨?_, ?_, h.shared, h.calls_kept rfl⟩
    · rw [workersRun_snoc]
      exact h.running
    · rw [wasReleased_snoc]
      exact (Bool.or_true _).symm
  | shutdown | restart =>
    refine ⟨?_, ?_, h.shared, h.calls_kept rfl⟩
    · rw [workersRun_snoc]
      rfl
    · rw [wasReleased_snoc]
      exact h.released.trans (Bool.or_false _).symm
  | isFinished | outcome | drop | clone | seen => exact h.handling rfl

theorem mirrors_reached (history : List Step) : Mirrors history (reached history) := by
  -- What a step does depends on the steps before it, so the last one is taken off first.
  induction history using List.reverseRecOn with
  | nil => exact .initial
  | append_singleton history step ih =>
    rw [reached_snoc]
    exact ih.step step

theorem issued_prefix (before after : List Step) : issued before <+: issued (before ++ after) := by
  induction after using List.reverseRecOn with
  | nil => simp
  | append_singleton after step ih =>
    rw [← List.append_assoc, issued_snoc]
    exact ih.trans (List.prefix_append _ _)

theorem workersRun_skip (before after : List Step) {step : Step} (h : step.isSwitch = false) :
    workersRun (before ++ step :: after) = workersRun (before ++ after) := by
  simp [workersRun, List.filter_append, h]

theorem issued_skip (before after : List Step) {step : Step} (hswitch : step.isSwitch = false)
    (h : step.url? = none ∨ workersRun before = false) :
    issued (before ++ step :: after) = issued (before ++ after) := by
  induction after using List.reverseRecOn with
  | nil =>
    rw [issued_snoc, List.append_nil]
    obtain h | h := h <;> simp [h]
  | append_singleton after last ih =>
    rw [← List.cons_append, ← List.append_assoc, ← List.append_assoc, issued_snoc, issued_snoc, ih,
      workersRun_skip _ _ hswitch]

/-- Every look at the opener, through whichever launcher, finds the launches up to it that the
workers took. No later step takes one of them away, and steps on tasks and launches that came while
the workers were shut down make no difference, then or later. -/
theorem run_seen (before after : List Step) :
    (∀ launcher, (({} : Session).run (before ++ .seen launcher :: after)).2[before.length]? =
      some (.seen (issued before))) ∧
      issued before <+: issued (before ++ after) ∧
        ∀ step : Step, step.isSwitch = false → step.url? = none ∨ workersRun before = false →
          issued (before ++ step :: after) = issued (before ++ after) := by
  refine ⟨?_, issued_prefix before after, fun step => issued_skip before after⟩
  intro launcher
  rw [run_answer, ← (mirrors_reached before).seen launcher]
  rfl

theorem run_seen_after_restart :
    let before : List Step := [.launch "a" .crashes ⟨"x"⟩ 0, .clone 0, .drop "a", .shutdown]
    let late : Step := .launch "a" .succeeds ⟨"y"⟩ 1
    let after : List Step := [.release, .restart, .launch "a" .waits ⟨"z"⟩ 0]
    workersRun before = false ∧ issued (before ++ late :: after) = ["x", "z"] ∧
      (({} : Session).run ((before ++ late :: after) ++ [.seen 1])).2[8]? =
        some (.seen ["x", "z"]) := by
  intro before late after
  have stopped : workersRun before = false := by decide
  have skipped : issued (before ++ late :: after) = issued (before ++ after) :=
    (run_seen before after).2.2 late rfl (.inr stopped)
  have urls : issued (before ++ late :: after) = ["x", "z"] := skipped.trans (by decide)
  refine ⟨stopped, urls, ?_⟩
  rw [← urls]
  exact (run_seen (before ++ late :: after) []).1 1

end Session

end UrlHandoff
