import DeviceSettings.Power.PostReboot

/-!
# The reboot reason and the first power transition

`ScheduleRebootReasonCheck` retries until the reboot type is available and then hands it to
`SyncDisplayPortsWithRebootReason`, which leaves the ports alone once a power transition has come.
It asks for that under `_mutex` and acts after unlocking.
-/

namespace DeviceSettings.Power

open DeviceSettings.Std

/-- `max_count` of `ScheduleRebootReasonCheck`. -/
def rebootReasonMaxCount : Nat := 120 / 2

/-- The retry chain. -/
inductive RebootCheckPhase where
  | notScheduled
  | asking (retryCount : Nat)
  | sleeping (retryCount : Nat)
  /-- In `SyncDisplayPortsWithRebootReason`, before its section under `_mutex`. -/
  | testing (rebootType : RebootType)
  /-- Behind the section, which has found no power transition. -/
  | syncing (rebootType : RebootType)
  | ended
  deriving DecidableEq, Repr

/-- A call of `ApplyPowerStateChangeConfig`. -/
inductive TransitionPhase where
  | idle
  | marking (newState : PowerState)
  | syncing (newState : PowerState)
  | settingPattern (newState : PowerState)
  deriving DecidableEq, Repr

/-- The controller, the chain and the calls of `ApplyPowerStateChangeConfig`. -/
structure RebootReasonState where
  ux : UXController
  check : RebootCheckPhase
  transition : Nat → TransitionPhase

/-- A call begins, a thread makes its next step, or `GetRebootType` looks at its files. -/
inductive RebootReasonAction where
  | scheduleRebootReasonCheck
  | getRebootType (files : RebootFiles)
  | check
  | applyPowerStateChangeConfig (caller : Nat) (newState : PowerState)
  | transition (caller : Nat)

/-- The calls of `SyncDisplayPortsWithPowerState`, by who makes them, and of the MFR library. -/
inductive RebootReasonEffect where
  | syncedForReboot (powerState : PowerState)
  | syncedForTransition (powerState : PowerState)
  | asked (effect : Effect)
  deriving DecidableEq, Repr

namespace RebootReasonState

/-- The television's controller as constructed. -/
def initial : RebootReasonState := ⟨.ofProfile .tv, .notScheduled, fun _ => .idle⟩

def moveTransition (state : RebootReasonState) (caller : Nat) (phase : TransitionPhase) :
    RebootReasonState :=
  { state with transition := Function.update state.transition caller phase }

/-- Where `ScheduleRebootReasonCheck` goes with the answer of `GetRebootType`. -/
def nextCheck (retryCount : Nat) (rebootType : RebootType) : RebootCheckPhase :=
  if rebootType = .unavailable then
    if retryCount < rebootReasonMaxCount then .sleeping retryCount else .ended
  else .testing rebootType

/-- A section under `_mutex` and a call of `SyncDisplayPortsWithPowerState` are one step each. -/
def step (state : RebootReasonState) :
    RebootReasonAction → Option (RebootReasonState × List RebootReasonEffect)
  | .scheduleRebootReasonCheck =>
    match state.check with
    | .notScheduled => some ({ state with check := .asking 0 }, [])
    | _ => none
  | .getRebootType files =>
    match state.check with
    | .asking retryCount =>
      some ({ state with check := nextCheck retryCount files.getRebootType }, [])
    | _ => none
  | .check =>
    match state.check with
    | .sleeping retryCount => some ({ state with check := .asking (retryCount + 1) }, [])
    | .testing rebootType =>
      if state.ux.firstPowerTransitionComplete then some ({ state with check := .ended }, [])
      else some ({ state with check := .syncing rebootType }, [])
    | .syncing rebootType =>
      some ({ state with check := .ended }, [.syncedForReboot rebootType.displayState])
    | _ => none
  | .applyPowerStateChangeConfig caller newState =>
    match state.transition caller with
    | .idle => some (state.moveTransition caller (.marking newState), [])
    | _ => none
  | .transition caller =>
    match state.transition caller with
    | .idle => none
    | .marking newState =>
      some ({ state.moveTransition caller (.syncing newState) with
        ux := { state.ux with firstPowerTransitionComplete := true } }, [])
    | .syncing newState =>
      some (state.moveTransition caller (.settingPattern newState),
        [.syncedForTransition newState])
    | .settingPattern newState =>
      let applied := state.ux.setBootloaderPatternInternal
        (if newState = .on then .normal else .silentLedOn)
      some ({ state.moveTransition caller .idle with ux := applied.1 }, applied.2.map .asked)

end RebootReasonState

/-- The chain with any number of power transitions. -/
def rebootReasonCheck : Machine RebootReasonState RebootReasonAction RebootReasonEffect where
  step := RebootReasonState.step

abbrev RebootReasonStep := Occurrence RebootReasonState RebootReasonAction RebootReasonEffect

/-- An `ApplyPowerStateChangeConfig` completes its `SyncDisplayPortsWithPowerState`. -/
def CompletesTransition (occurrence : RebootReasonStep) : Prop :=
  ∃ newState, .syncedForTransition newState ∈ occurrence.effects

/-- `SyncDisplayPortsWithRebootReason` calls `SyncDisplayPortsWithPowerState`. -/
def SyncsForReboot (occurrence : RebootReasonStep) : Prop :=
  ∃ powerState, .syncedForReboot powerState ∈ occurrence.effects

/-- Behind the sync of a power transition there is none for the reboot reason. -/
def RebootReasonYields (trace : List RebootReasonStep) : Prop :=
  ∀ earlier completes later, trace = earlier ++ completes :: later →
    CompletesTransition completes → ∀ occurrence ∈ later, ¬SyncsForReboot occurrence

/-- The chain has looked at the flag and not acted yet. -/
def RebootCheckPhase.inWindow : RebootCheckPhase → Prop
  | .syncing _ => True
  | _ => False

/-- No power transition completes its sync while the chain is between its test and its sync. -/
def OutsideWindow (occurrence : RebootReasonStep) : Prop :=
  CompletesTransition occurrence → ¬occurrence.before.check.inWindow

/-! ### What a step can do -/

/-- The steps with what they move. -/
inductive RebootReasonMove (state : RebootReasonState) :
    RebootReasonState → List RebootReasonEffect → Prop where
  | schedule (phase : state.check = .notScheduled) :
      RebootReasonMove state { state with check := .asking 0 } []
  | ask (retryCount : Nat) (rebootType : RebootType) (phase : state.check = .asking retryCount) :
      RebootReasonMove state
        { state with check := RebootReasonState.nextCheck retryCount rebootType } []
  | wake (retryCount : Nat) (phase : state.check = .sleeping retryCount) :
      RebootReasonMove state { state with check := .asking (retryCount + 1) } []
  | giveUp (rebootType : RebootType) (phase : state.check = .testing rebootType) :
      RebootReasonMove state { state with check := .ended } []
  | enter (rebootType : RebootType) (phase : state.check = .testing rebootType)
      (unmarked : state.ux.firstPowerTransitionComplete = false) :
      RebootReasonMove state { state with check := .syncing rebootType } []
  | syncReboot (rebootType : RebootType) (phase : state.check = .syncing rebootType) :
      RebootReasonMove state { state with check := .ended }
        [.syncedForReboot rebootType.displayState]
  | begin (caller : Nat) (newState : PowerState) :
      RebootReasonMove state (state.moveTransition caller (.marking newState)) []
  | mark (caller : Nat) (newState : PowerState) :
      RebootReasonMove state { state.moveTransition caller (.syncing newState) with
        ux := { state.ux with firstPowerTransitionComplete := true } } []
  | syncTransition (caller : Nat) (newState : PowerState)
      (phase : state.transition caller = .syncing newState) :
      RebootReasonMove state (state.moveTransition caller (.settingPattern newState))
        [.syncedForTransition newState]
  | setPattern (caller : Nat) (pattern : BootloaderPattern) :
      RebootReasonMove state { state.moveTransition caller .idle with
        ux := (state.ux.setBootloaderPatternInternal pattern).1 }
        ((state.ux.setBootloaderPatternInternal pattern).2.map .asked)

theorem rebootReasonMove_of_step {before after : RebootReasonState} {action : RebootReasonAction}
    {effects : List RebootReasonEffect}
    (taken : rebootReasonCheck.step before action = some (after, effects)) :
    RebootReasonMove before after effects := by
  simp only [rebootReasonCheck, RebootReasonState.step] at taken
  cases action with
  | scheduleRebootReasonCheck =>
      dsimp only at taken
      split at taken <;> cases taken
      exact .schedule ‹_›
  | getRebootType files =>
      dsimp only at taken
      split at taken <;> cases taken
      exact .ask _ _ ‹_›
  | check =>
      dsimp only at taken
      split at taken
      · cases taken
        exact .wake _ ‹_›
      · split_ifs at taken with marked <;> cases taken
        · exact .giveUp _ ‹_›
        · exact .enter _ ‹_› (by simpa using marked)
      · cases taken
        exact .syncReboot _ ‹_›
      · cases taken
  | applyPowerStateChangeConfig caller newState =>
      dsimp only at taken
      split at taken <;> cases taken
      exact .begin caller newState
  | transition caller =>
      dsimp only at taken
      split at taken <;> cases taken
      · exact .mark caller _
      · exact .syncTransition caller _ ‹_›
      · exact .setPattern caller _

/-- The pattern call leaves the flag of the transitions alone. -/
@[simp] theorem firstPowerTransitionComplete_setBootloaderPatternInternal (ux : UXController)
    (pattern : BootloaderPattern) :
    (ux.setBootloaderPatternInternal pattern).1.firstPowerTransitionComplete =
      ux.firstPowerTransitionComplete := rfl

@[simp] theorem ux_moveTransition (state : RebootReasonState) (caller : Nat)
    (phase : TransitionPhase) : (state.moveTransition caller phase).ux = state.ux := rfl

@[simp] theorem check_moveTransition (state : RebootReasonState) (caller : Nat)
    (phase : TransitionPhase) : (state.moveTransition caller phase).check = state.check := rfl

@[simp] theorem transition_moveTransition (state : RebootReasonState) (caller : Nat)
    (phase : TransitionPhase) : (state.moveTransition caller phase).transition =
      Function.update state.transition caller phase := rfl

namespace RebootReasonState

/-- The flag was set before a call gets to its sync. -/
def Marked (state : RebootReasonState) : Prop :=
  ∀ caller newState, state.transition caller = .syncing newState →
    state.ux.firstPowerTransitionComplete = true

/-- The chain can act no more. -/
structure Closed (state : RebootReasonState) : Prop where
  marked : state.ux.firstPowerTransitionComplete = true
  outside : ¬state.check.inWindow

variable {before after : RebootReasonState} {effects : List RebootReasonEffect}

theorem marked_moveTransition {caller : Nat} {phase : TransitionPhase} (marked : before.Marked)
    (notSyncing : ∀ newState, phase ≠ .syncing newState) :
    (before.moveTransition caller phase).Marked := by
  intro other newState syncing
  by_cases same : other = caller
  · subst same
    rw [transition_moveTransition, Function.update_self] at syncing
    exact absurd syncing (notSyncing newState)
  · rw [transition_moveTransition, Function.update_of_ne same] at syncing
    exact marked other newState syncing

theorem marked_step (marked : before.Marked) (move : RebootReasonMove before after effects) :
    after.Marked := by
  cases move with
  | schedule | ask | wake | giveUp | enter | syncReboot => exact marked
  | begin caller newState => exact marked_moveTransition marked nofun
  | mark caller newState => exact fun _ _ _ => rfl
  | syncTransition caller newState phase => exact marked_moveTransition marked nofun
  | setPattern caller pattern =>
      have moved : (before.moveTransition caller .idle).Marked :=
        marked_moveTransition marked nofun
      exact moved

theorem nextCheck_outside (retryCount : Nat) (rebootType : RebootType) :
    ¬(nextCheck retryCount rebootType).inWindow := by
  unfold nextCheck
  split_ifs <;> exact id

theorem closed_step (closed : before.Closed) (move : RebootReasonMove before after effects) :
    after.Closed ∧ ∀ powerState, .syncedForReboot powerState ∉ effects := by
  obtain ⟨marked, outside⟩ := closed
  cases move with
  | schedule phase => exact ⟨⟨marked, id⟩, by simp⟩
  | ask retryCount rebootType phase => exact ⟨⟨marked, nextCheck_outside _ _⟩, by simp⟩
  | wake retryCount phase => exact ⟨⟨marked, id⟩, by simp⟩
  | giveUp rebootType phase => exact ⟨⟨marked, id⟩, by simp⟩
  | enter rebootType phase unmarked =>
      rw [marked] at unmarked
      exact nomatch unmarked
  | syncReboot rebootType phase =>
      rw [phase] at outside
      exact absurd trivial outside
  | begin caller newState => exact ⟨⟨marked, outside⟩, by simp⟩
  | mark caller newState => exact ⟨⟨rfl, outside⟩, by simp⟩
  | syncTransition caller newState phase => exact ⟨⟨marked, outside⟩, by simp⟩
  | setPattern caller pattern => exact ⟨⟨marked, outside⟩, by simp⟩

/-- Only the chain leaves its window, and it acts then. -/
theorem window_step (window : before.check.inWindow) (move : RebootReasonMove before after effects)
    (quiet : ∀ powerState, .syncedForReboot powerState ∉ effects) : after.check.inWindow := by
  cases move with
  | schedule phase => rw [phase] at window; exact window.elim
  | ask retryCount rebootType phase => rw [phase] at window; exact window.elim
  | wake retryCount phase => rw [phase] at window; exact window.elim
  | giveUp rebootType phase => rw [phase] at window; exact window.elim
  | enter rebootType phase unmarked => trivial
  | syncReboot rebootType phase => exact absurd List.mem_cons_self (quiet _)
  | begin | mark | syncTransition | setPattern => exact window

/-- `UXControllerTv::ApplyPowerStateChangeConfig` behind its sync. -/
theorem applyPowerStateChangeConfig_tv {ux : UXController} (television : ux.profile = .tv)
    (newState : PowerState) : ux.applyPowerStateChangeConfig newState =
      { ux with firstPowerTransitionComplete := true }.setBootloaderPatternInternal
        (if newState = PowerState.on then .normal else .silentLedOn) := by
  cases ux
  cases television
  rfl

section Alone

variable {state : RebootReasonState} (caller : Nat) (newState : PowerState)

theorem marking_step (phase : state.transition caller = .marking newState) :
    rebootReasonCheck.step state (.transition caller) =
      some ({ state.moveTransition caller (.syncing newState) with
        ux := { state.ux with firstPowerTransitionComplete := true } }, []) := by
  simp only [rebootReasonCheck, step, phase]

theorem syncing_step (phase : state.transition caller = .syncing newState) :
    rebootReasonCheck.step state (.transition caller) =
      some (state.moveTransition caller (.settingPattern newState),
        [.syncedForTransition newState]) := by
  simp only [rebootReasonCheck, step, phase]

theorem settingPattern_step (phase : state.transition caller = .settingPattern newState) :
    rebootReasonCheck.step state (.transition caller) =
      some ({ state.moveTransition caller .idle with
        ux := (state.ux.setBootloaderPatternInternal
          (if newState = .on then .normal else .silentLedOn)).1 },
        (state.ux.setBootloaderPatternInternal
          (if newState = .on then .normal else .silentLedOn)).2.map .asked) := by
  simp only [rebootReasonCheck, step, phase]

/-- A call that runs alone leaves the controller as `applyPowerStateChangeConfig` does. -/
theorem transition_alone (television : state.ux.profile = .tv)
    (idle : state.transition caller = .idle) :
    ∃ trace after, rebootReasonCheck.Run state trace after ∧
      after.ux = (state.ux.applyPowerStateChangeConfig newState).1 ∧
      Machine.effectsOf trace = .syncedForTransition newState ::
        (state.ux.applyPowerStateChangeConfig newState).2.map .asked := by
  have begins : rebootReasonCheck.step state (.applyPowerStateChangeConfig caller newState) =
      some (state.moveTransition caller (.marking newState), []) := by
    simp only [rebootReasonCheck, step, idle]
  refine ⟨_, _, .snoc (.snoc (.snoc (.single begins)
    (marking_step caller newState ?_)) (syncing_step caller newState ?_))
    (settingPattern_step caller newState ?_), ?_, ?_⟩
  · simp
  · simp
  · simp
  · rw [applyPowerStateChangeConfig_tv television]
    rfl
  · rw [applyPowerStateChangeConfig_tv television]
    simp [Machine.effectsOf]

end Alone

end RebootReasonState

/-! ### Runs -/

section Runs

variable {start state : RebootReasonState} {trace : List RebootReasonStep}

theorem marked_run (run : rebootReasonCheck.Run .initial trace state) : state.Marked :=
  run.invariant (fun _ _ syncing => nomatch syncing) fun _ _ _ _ marked taken =>
    RebootReasonState.marked_step marked (rebootReasonMove_of_step taken)

/-- Once closed the chain never acts. -/
theorem not_syncsForReboot_of_closed (closed : start.Closed)
    (run : rebootReasonCheck.Run start trace state) :
    ∀ occurrence ∈ trace, ¬SyncsForReboot occurrence := by
  rintro occurrence member ⟨powerState, acts⟩
  obtain ⟨earlier, later, rfl⟩ := List.append_of_mem member
  obtain ⟨prior, taken⟩ := run.at_occurrence
  have before : occurrence.before.Closed := prior.invariant closed fun _ _ _ _ closed taken =>
    (RebootReasonState.closed_step closed (rebootReasonMove_of_step taken)).1
  exact (RebootReasonState.closed_step before (rebootReasonMove_of_step taken)).2 _ acts

/-- A chain that is inside its window and not any more has acted in between. -/
theorem syncsForReboot_of_window (window : start.check.inWindow)
    (run : rebootReasonCheck.Run start trace state) (left : ¬state.check.inWindow) :
    ∃ occurrence ∈ trace, SyncsForReboot occurrence := by
  by_contra quiet
  push Not at quiet
  apply left
  refine run.invariant_of_steps quiet window fun before action after effects inside taken silent =>
    RebootReasonState.window_step inside (rebootReasonMove_of_step taken) ?_
  exact fun powerState acts => silent ⟨powerState, acts⟩

/-- What a transition finds when it completes its sync. -/
theorem completesTransition_move {before after : RebootReasonState} {action : RebootReasonAction}
    {effects : List RebootReasonEffect}
    (taken : rebootReasonCheck.step before action = some (after, effects))
    (completes : CompletesTransition ⟨before, action, effects, after⟩) :
    after.check = before.check ∧ after.ux = before.ux ∧
      ∃ caller newState, before.transition caller = .syncing newState := by
  obtain ⟨newState, made⟩ := completes
  have move := rebootReasonMove_of_step taken
  cases move with
  | schedule | ask | wake | giveUp | enter | begin | mark => exact absurd made (by simp)
  | syncReboot => exact absurd made (by simp)
  | setPattern => exact absurd made (by simp)
  | syncTransition caller newState phase => exact ⟨rfl, rfl, caller, newState, phase⟩

end Runs

/-- Behind the first power transition the chain never acts, in every run where no transition
completes its sync inside the chain's window; where the chain is through, only in these. -/
theorem rebootReasonYields_of_outside {trace : List RebootReasonStep} {state : RebootReasonState}
    (run : rebootReasonCheck.Run .initial trace state) :
    ((∀ occurrence ∈ trace, OutsideWindow occurrence) → RebootReasonYields trace) ∧
      (¬state.check.inWindow → RebootReasonYields trace →
        ∀ occurrence ∈ trace, OutsideWindow occurrence) := by
  constructor
  · intro outside earlier completes later split completed
    subst split
    obtain ⟨prior, taken⟩ := run.at_occurrence
    obtain ⟨check, ux, caller, newState, syncing⟩ := completesTransition_move taken completed
    have closed : completes.after.Closed := by
      refine ⟨?_, ?_⟩
      · rw [ux]
        exact marked_run prior caller newState syncing
      · rw [check]
        exact outside completes (by simp) completed
    exact not_syncsForReboot_of_closed closed run.behind_occurrence
  · intro through yields completes member completed inside
    obtain ⟨earlier, later, rfl⟩ := List.append_of_mem member
    obtain ⟨check, -, -⟩ := completesTransition_move run.at_occurrence.2 completed
    rw [← check] at inside
    obtain ⟨occurrence, acts, syncs⟩ :=
      syncsForReboot_of_window inside run.behind_occurrence through
    exact yields earlier completes later rfl completed occurrence acts syncs

/-- The reboot info file is there from the start, and the power transition comes first. -/
def transitionFirst : List RebootReasonAction :=
  [.applyPowerStateChangeConfig 0 .on, .transition 0, .transition 0, .scheduleRebootReasonCheck,
    .getRebootType ⟨true, some [], false⟩, .check]

theorem rebootReasonYields_of_outside_transitionFirst :
    ∃ (trace : List RebootReasonStep) (state : RebootReasonState),
      Machine.actionsOf trace = transitionFirst ∧
      (∃ occurrence ∈ trace, CompletesTransition occurrence) ∧
      ((∀ occurrence ∈ trace, OutsideWindow occurrence) → RebootReasonYields trace) ∧
      (¬state.check.inWindow → RebootReasonYields trace →
        ∀ occurrence ∈ trace, OutsideWindow occurrence) := by
  have played : rebootReasonCheck.play .initial transitionFirst = some (_, _) := rfl
  refine ⟨_, _, rfl, ?_, rebootReasonYields_of_outside (Machine.play_run played)⟩
  exact ⟨_, List.mem_cons_of_mem _ (List.mem_cons_of_mem _ List.mem_cons_self), .on,
    List.mem_cons_self⟩

/-- The chain tests the flag, a power transition to STANDBY runs up to its sync, and the chain,
having found no hard reboot, sets the ports to ON. -/
def actsLate : List RebootReasonAction :=
  [.scheduleRebootReasonCheck, .getRebootType ⟨true, some [], false⟩, .check,
    .applyPowerStateChangeConfig 0 .standby, .transition 0, .transition 0, .check]

theorem rebootReason_acts_late : ∃ (trace : List RebootReasonStep) (state : RebootReasonState),
    rebootReasonCheck.Run .initial trace state ∧ Machine.actionsOf trace = actsLate ∧
      Machine.effectsOf trace = [.syncedForTransition .standby, .syncedForReboot .on] ∧
      ¬RebootReasonYields trace := by
  have played : rebootReasonCheck.play .initial actsLate = some (_, _) := rfl
  refine ⟨_, _, Machine.play_run played, rfl, rfl, fun yields => ?_⟩
  refine yields [_, _, _, _, _] _ [_] rfl ⟨.standby, ?_⟩ _ (List.mem_singleton.mpr rfl) ⟨.on, ?_⟩
  · exact List.mem_cons_self
  · exact List.mem_cons_self

end DeviceSettings.Power
