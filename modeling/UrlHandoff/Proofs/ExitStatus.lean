import UrlHandoff.Program

namespace UrlHandoff.Program

def Accepted (argv : List Octets) : Prop :=
  (∃ arguments, CommandLine.parse (argv.drop 1) = .ok arguments) ∨
    CommandLine.parse (argv.drop 1) = .error .helpAsked

def Rejected (argv : List Octets) : Prop :=
  ∃ refusal, CommandLine.parse (argv.drop 1) = .error refusal ∧ refusal ≠ .helpAsked

def exitStatus (argv : List Octets) : Nat :=
  match CommandLine.parse (argv.drop 1) with
  | .ok _ => 0
  | .error refusal => refusal.status

theorem status_of_rejected {refusal : CommandLine.Refusal} (h : refusal ≠ .helpAsked) :
    refusal.status = 2 := by
  simp [CommandLine.Refusal.status, CommandLine.Refusal.isError, h]

theorem exitStatus_of_accepted {argv : List Octets} (h : Accepted argv) : exitStatus argv = 0 := by
  obtain ⟨arguments, hp⟩ | hp := h
  · simp only [exitStatus, hp]
  · simp only [exitStatus, hp]
    rfl

theorem exitStatus_of_rejected {argv : List Octets} (h : Rejected argv) : exitStatus argv = 2 := by
  obtain ⟨refusal, hp, hr⟩ := h
  simp only [exitStatus, hp]
  exact status_of_rejected hr

theorem accepted_or_rejected (argv : List Octets) : Accepted argv ∨ Rejected argv := by
  cases h : CommandLine.parse (argv.drop 1) with
  | ok arguments => exact .inl (.inl ⟨arguments, h⟩)
  | error refusal =>
    by_cases hr : refusal = .helpAsked
    · exact .inl (.inr (hr ▸ h))
    · exact .inr ⟨refusal, h, hr⟩

theorem exitStatus_eq_zero_iff (argv : List Octets) : exitStatus argv = 0 ↔ Accepted argv := by
  refine ⟨fun h => ?_, exitStatus_of_accepted⟩
  obtain accepted | rejected := accepted_or_rejected argv
  · exact accepted
  · rw [exitStatus_of_rejected rejected] at h
    cases h

theorem exitStatus_eq_two_iff (argv : List Octets) : exitStatus argv = 2 ↔ Rejected argv := by
  refine ⟨fun h => ?_, exitStatus_of_rejected⟩
  obtain accepted | rejected := accepted_or_rejected argv
  · rw [exitStatus_of_accepted accepted] at h
    cases h
  · exact rejected

theorem output_status (host : Host) (env : Environment) (files : FileTree)
    (argv : List Octets) (failure : Option Nat) :
    (output host env files argv failure).status = exitStatus argv := by
  change (course host env files argv).status = _
  cases h : CommandLine.parse (argv.drop 1) with
  | ok arguments =>
    simp only [course, exitStatus, h, launchWith, Handoff.launchWithin]
    -- A launch that is skipped ends the run as one that is made does.
    cases host.workers <;> rfl
  | error refusal =>
    simp only [course, exitStatus, h]
    split <;> rfl

/-- Neither the environment nor the files nor the host nor the log has a say in the status. -/
theorem status_of_arguments (argv : List Octets) :
    ∃ status, (status = 0 ∨ status = 2) ∧ (status = 0 ↔ Accepted argv) ∧
      (status = 2 ↔ Rejected argv) ∧
        (∀ host env files, (runWith host env files argv).1.status = status) ∧
          ∀ host env files failure,
            (output host env files argv failure).status = status := by
  refine ⟨exitStatus argv, ?_, exitStatus_eq_zero_iff argv, exitStatus_eq_two_iff argv, ?_, ?_⟩
  · exact (accepted_or_rejected argv).imp exitStatus_of_accepted exitStatus_of_rejected
  · intro host env files
    rw [runWith_output, output_status]
  · intro host env files failure
    exact output_status host env files argv failure

theorem status_of_arguments_where_all_else_fails :
    let env : Environment := ⟨[("HOME", .ofText "/"), ("XDG_STATE_HOME", .ofText "/state")]⟩
    let place : List Octets := [".config", "weblaunch", "config.toml"].map Octets.ofText
    let files : FileTree :=
      ⟨[(place.take 1, .directory), (place.take 2, .directory), (place, .refused 13),
        ([.ofText "state"], .directory)], [[.ofText "state"]]⟩
    let host : Host := { Host.standard with browser := fun _ _ _ => ⟨.crashes, []⟩ }
    let rejected : List Octets := [.ofText "weblaunch", .ofText "-u"]
    (openLog env files).2 = some FileTree.permissionDenied ∧
      Settings.load env (openLog env files).1 =
        .error ⟨"/.config/weblaunch/config.toml", .unreadable (.numbered 13)⟩ ∧
      Rejected rejected ∧ (runWith host env files rejected).1.status = 2 ∧
      Accepted [] ∧ (runWith host env files []).1.status = 0 := by
  intro env place files host rejected
  have refused : Rejected rejected := ⟨_, rfl, nofun⟩
  have accepted : Accepted [] := .inl ⟨_, rfl⟩
  obtain ⟨_, -, -, two, status, -⟩ := status_of_arguments rejected
  obtain ⟨_, -, zero, -, status', -⟩ := status_of_arguments []
  refine ⟨by decide +kernel, by rfl, refused, ?_, accepted, ?_⟩
  · rw [status host env files]
    exact two.mpr refused
  · rw [status' host env files]
    exact zero.mpr accepted

end UrlHandoff.Program
