import DeviceSettings.Std.Machine

/-!
# The bootloader pattern

The three threads of `UXController` that set the bootloader pattern: the connection thread once at
boot, a thread that it starts to retry, and the power event thread with every power transition.
The flag with which a transition calls the retries off is cleared behind the failed first attempt.
-/

namespace DeviceSettings.Power

open DeviceSettings.Std

variable {Pattern : Type}

/-- What has happened when `SetBootloaderPatternFaultTolerant` begins: how often the flag was set
by `SetBootloaderPatternInternal`, and how many of its calls have ended. -/
structure PatternHistory where
  invalidated : Nat
  completed : Nat
  deriving DecidableEq, Repr

/-- `SetBootloaderPatternFaultTolerant`, which is called once. -/
inductive FaultTolerantPhase (Pattern : Type) where
  | notStarted
  | calling (pattern : Pattern) (start : PatternHistory)
  | clearing (pattern : Pattern) (start : PatternHistory)
  | startingRetry (pattern : Pattern)
  | returned

/-- `SetBootloaderPatternAsync` with `remaining_retries`. -/
inductive RetryPhase (Pattern : Type) where
  | notStarted
  | sleeping (pattern : Pattern) (remainingRetries : Nat)
  | ended

/-- `SetBootloaderPatternInternal` on the power event thread. -/
inductive InternalPhase (Pattern : Type) where
  | idle
  | invalidating (pattern : Pattern)
  | calling (pattern : Pattern)

/-- The pattern that the MFR library has stored, the flag, the threads and the history. -/
structure BootloaderState (Pattern : Type) where
  storedPattern : Pattern
  invalidateAsyncBootloaderPattern : Bool
  faultTolerant : FaultTolerantPhase Pattern
  retry : RetryPhase Pattern
  internal : InternalPhase Pattern
  history : PatternHistory

/-- A call begins, or a thread makes its next step; `accepted` is the answer of the MFR library, if
the step calls it. -/
inductive BootloaderAction (Pattern : Type) where
  | setBootloaderPatternFaultTolerant (pattern : Pattern)
  | faultTolerant (accepted : Bool)
  | retry (accepted : Bool)
  | setBootloaderPatternInternal (pattern : Pattern)
  | internal (accepted : Bool)

namespace BootloaderState

variable (enableSilentRebootSupport : Bool)

/-- `SetBootloaderPattern(pattern)`: the result, the state and the pattern that was stored. -/
def setBootloaderPattern (state : BootloaderState Pattern) (pattern : Pattern) (accepted : Bool) :
    Bool × BootloaderState Pattern × List Pattern :=
  if enableSilentRebootSupport = false then (true, state, [])
  else if accepted then (true, { state with storedPattern := pattern }, [pattern])
  else (false, state, [])

/-- A section under `_mutex` and a call of the MFR library are one step each; the retry thread
makes its call under the lock. -/
def step (state : BootloaderState Pattern) :
    BootloaderAction Pattern → Option (BootloaderState Pattern × List Pattern)
  | .setBootloaderPatternFaultTolerant pattern =>
    match state.faultTolerant with
    | .notStarted => some ({ state with faultTolerant := .calling pattern state.history }, [])
    | _ => none
  | .faultTolerant accepted =>
    match state.faultTolerant with
    | .calling pattern start =>
      let called := state.setBootloaderPattern enableSilentRebootSupport pattern accepted
      let phase := if called.1 then .returned else .clearing pattern start
      some ({ called.2.1 with faultTolerant := phase }, called.2.2)
    | .clearing pattern _ =>
      some ({ state with
        invalidateAsyncBootloaderPattern := false, faultTolerant := .startingRetry pattern }, [])
    | .startingRetry pattern =>
      some ({ state with faultTolerant := .returned, retry := .sleeping pattern 12 }, [])
    | _ => none
  | .retry accepted =>
    match state.retry with
    | .sleeping pattern remainingRetries =>
      if state.invalidateAsyncBootloaderPattern then some ({ state with retry := .ended }, [])
      else
        let called := state.setBootloaderPattern enableSilentRebootSupport pattern accepted
        let phase := if called.1 = false ∧ 0 < remainingRetries - 1 then
            .sleeping pattern (remainingRetries - 1)
          else .ended
        some ({ called.2.1 with retry := phase }, called.2.2)
    | _ => none
  | .setBootloaderPatternInternal pattern =>
    match state.internal with
    | .idle => some ({ state with internal := .invalidating pattern }, [])
    | _ => none
  | .internal accepted =>
    match state.internal with
    | .invalidating pattern =>
      some ({ state with
        invalidateAsyncBootloaderPattern := true
        internal := .calling pattern
        history.invalidated := state.history.invalidated + 1 }, [])
    | .calling pattern =>
      let called := state.setBootloaderPattern enableSilentRebootSupport pattern accepted
      some ({ called.2.1 with
        internal := .idle
        history.completed := state.history.completed + 1 }, called.2.2)
    | .idle => none

end BootloaderState

/-- The three threads. -/
def bootloader (Pattern : Type) (enableSilentRebootSupport : Bool) :
    Machine (BootloaderState Pattern) (BootloaderAction Pattern) Pattern where
  step := BootloaderState.step enableSilentRebootSupport

/-- A step of a run; its effects are the patterns that the MFR library stores. -/
abbrev BootloaderStep (Pattern : Type) :=
  Occurrence (BootloaderState Pattern) (BootloaderAction Pattern) Pattern

/-- `SetBootloaderPatternInternal` is called. -/
def BeginsInternal (occurrence : BootloaderStep Pattern) : Prop :=
  ∃ pattern, occurrence.action = .setBootloaderPatternInternal pattern

/-- The last call of `SetBootloaderPatternInternal` to begin does so behind the beginning of
`SetBootloaderPatternFaultTolerant`, and its MFR call stores `pattern`. -/
structure LastInternal (pattern : Pattern) (begins completes : BootloaderStep Pattern)
    (between later : List (BootloaderStep Pattern)) : Prop where
  begun : begins.action = .setBootloaderPatternInternal pattern
  started : begins.before.faultTolerant ≠ .notStarted
  last : ∀ occurrence ∈ between ++ completes :: later, ¬BeginsInternal occurrence
  calling : completes.before.internal = .calling pattern
  act : completes.action = .internal true
  stored : completes.effects = [pattern]

/-- Behind the completion of the last call its pattern stays. -/
def LastPatternWins (trace : List (BootloaderStep Pattern)) : Prop :=
  ∀ pattern earlier begins between completes later,
    trace = earlier ++ begins :: (between ++ completes :: later) →
    LastInternal pattern begins completes between later →
    ∀ occurrence ∈ later, occurrence.after.storedPattern = pattern

/-- What the connection thread may not do once a call of `SetBootloaderPatternInternal` has come
between: store its pattern behind the end of the call, or clear the flag that the call has set. -/
def Undisturbed (occurrence : BootloaderStep Pattern) : Prop :=
  (∀ pattern start, occurrence.before.faultTolerant = .calling pattern start →
      occurrence.action = .faultTolerant true →
      occurrence.before.history.completed ≤ start.completed) ∧
    ∀ pattern start accepted, occurrence.before.faultTolerant = .clearing pattern start →
      occurrence.action = .faultTolerant accepted →
      occurrence.before.history.invalidated ≤ start.invalidated

/-! ### What a step can do -/

/-- The steps with the fields that they move. -/
inductive BootloaderMove (state : BootloaderState Pattern) :
    BootloaderAction Pattern → BootloaderState Pattern → Prop where
  | beginFaultTolerant {pattern} (phase : state.faultTolerant = .notStarted) :
      BootloaderMove state (.setBootloaderPatternFaultTolerant pattern)
        { state with faultTolerant := .calling pattern state.history }
  | firstCall {pattern start accepted stored next}
      (phase : state.faultTolerant = .calling pattern start)
      (goes : next = .returned ∨ next = .clearing pattern start)
      (refused : accepted = false → stored = state.storedPattern) :
      BootloaderMove state (.faultTolerant accepted)
        { state with storedPattern := stored, faultTolerant := next }
  | clear {pattern start accepted} (phase : state.faultTolerant = .clearing pattern start) :
      BootloaderMove state (.faultTolerant accepted)
        { state with
          invalidateAsyncBootloaderPattern := false, faultTolerant := .startingRetry pattern }
  | startRetry {pattern accepted retry} (phase : state.faultTolerant = .startingRetry pattern) :
      BootloaderMove state (.faultTolerant accepted)
        { state with faultTolerant := .returned, retry := retry }
  | retry {accepted stored next}
      (calledOff : state.invalidateAsyncBootloaderPattern = true → stored = state.storedPattern) :
      BootloaderMove state (.retry accepted) { state with storedPattern := stored, retry := next }
  | beginInternal {pattern} (phase : state.internal = .idle) :
      BootloaderMove state (.setBootloaderPatternInternal pattern)
        { state with internal := .invalidating pattern }
  | invalidate {pattern accepted} (phase : state.internal = .invalidating pattern) :
      BootloaderMove state (.internal accepted)
        { state with
          invalidateAsyncBootloaderPattern := true
          internal := .calling pattern
          history.invalidated := state.history.invalidated + 1 }
  | complete {pattern accepted stored} (phase : state.internal = .calling pattern) :
      BootloaderMove state (.internal accepted)
        { state with
          storedPattern := stored
          internal := .idle
          history.completed := state.history.completed + 1 }

section Moves

variable {enableSilentRebootSupport : Bool}

/-- `SetBootloaderPattern` moves the stored pattern only. -/
theorem setBootloaderPattern_spec (enableSilentRebootSupport : Bool)
    (state : BootloaderState Pattern) (pattern : Pattern) (accepted : Bool) :
    ∃ stored, (state.setBootloaderPattern enableSilentRebootSupport pattern accepted).2.1 =
        { state with storedPattern := stored } ∧
      (accepted = false → stored = state.storedPattern) ∧
      (∀ given, (state.setBootloaderPattern enableSilentRebootSupport pattern accepted).2.2 =
        [given] → stored = given) := by
  unfold BootloaderState.setBootloaderPattern
  split_ifs with disabled ok
  · exact ⟨state.storedPattern, rfl, fun _ => rfl, by simp⟩
  · exact ⟨pattern, rfl, fun refused => absurd (ok.symm.trans refused) (by decide), by simp⟩
  · exact ⟨state.storedPattern, rfl, fun _ => rfl, by simp⟩

theorem move_of_step {before after : BootloaderState Pattern} {action : BootloaderAction Pattern}
    {effects : List Pattern}
    (taken : (bootloader Pattern enableSilentRebootSupport).step before action =
      some (after, effects)) : BootloaderMove before action after := by
  cases action with
  | setBootloaderPatternFaultTolerant pattern =>
      simp only [bootloader, BootloaderState.step] at taken
      split at taken <;> cases taken
      exact .beginFaultTolerant ‹_›
  | faultTolerant accepted =>
      simp only [bootloader, BootloaderState.step] at taken
      split at taken
      · rename_i pattern start phase
        obtain ⟨stored, called, refused, -⟩ := setBootloaderPattern_spec
          enableSilentRebootSupport before pattern accepted
        cases taken
        rw [called]
        refine .firstCall phase ?_ refused
        split_ifs
        · exact .inl rfl
        · exact .inr rfl
      · cases taken
        exact .clear ‹_›
      · cases taken
        exact .startRetry ‹_›
      · cases taken
  | retry accepted =>
      simp only [bootloader, BootloaderState.step] at taken
      split at taken
      · rename_i pattern remaining phase
        by_cases invalidated : before.invalidateAsyncBootloaderPattern = true
        · rw [if_pos invalidated] at taken
          cases taken
          exact .retry fun _ => rfl
        · rw [if_neg invalidated] at taken
          obtain ⟨stored, called, refused, -⟩ := setBootloaderPattern_spec
            enableSilentRebootSupport before pattern accepted
          cases taken
          rw [called]
          exact .retry fun invalidated' => absurd invalidated' invalidated
      · cases taken
  | setBootloaderPatternInternal pattern =>
      simp only [bootloader, BootloaderState.step] at taken
      split at taken <;> cases taken
      exact .beginInternal ‹_›
  | internal accepted =>
      simp only [bootloader, BootloaderState.step] at taken
      split at taken
      · cases taken
        exact .invalidate ‹_›
      · rename_i pattern phase
        obtain ⟨stored, called, -, -⟩ := setBootloaderPattern_spec
          enableSilentRebootSupport before pattern accepted
        cases taken
        rw [called]
        exact .complete phase
      · cases taken

/-- A completion whose call was accepted leaves its pattern. -/
theorem storedPattern_of_completes {before after : BootloaderState Pattern} {accepted : Bool}
    {pattern given : Pattern} (phase : before.internal = .calling pattern)
    (taken : (bootloader Pattern enableSilentRebootSupport).step before (.internal accepted) =
      some (after, [given])) : after.storedPattern = given := by
  simp only [bootloader, BootloaderState.step, phase, Option.some.injEq, Prod.mk.injEq] at taken
  obtain ⟨rfl, effects⟩ := taken
  obtain ⟨stored, called, -, gave⟩ := setBootloaderPattern_spec
    enableSilentRebootSupport before pattern accepted
  rw [called]
  exact gave given effects

end Moves

/-! ### Runs -/

/-- What had happened when the call that is under way began. -/
def FaultTolerantPhase.start? : FaultTolerantPhase Pattern → Option PatternHistory
  | .calling _ start | .clearing _ start => some start
  | _ => none

/-- The history only grows. -/
def HistoryGrows (state : BootloaderState Pattern) : Prop :=
  ∀ start, state.faultTolerant.start? = some start →
    start.invalidated ≤ state.history.invalidated ∧ start.completed ≤ state.history.completed

theorem HistoryGrows.move {before after : BootloaderState Pattern}
    {action : BootloaderAction Pattern} (grows : HistoryGrows before)
    (move : BootloaderMove before action after) : HistoryGrows after := by
  cases move with
  | beginFaultTolerant phase =>
      rintro start begun
      obtain rfl := Option.some.inj begun
      exact ⟨Nat.le_refl _, Nat.le_refl _⟩
  | firstCall phase goes refused =>
      rcases goes with rfl | rfl
      · rintro start begun
        cases begun
      · exact fun start begun => grows start (by rw [phase]; exact begun)
  | clear phase => exact fun start begun => nomatch begun
  | startRetry phase => exact fun start begun => nomatch begun
  | retry calledOff => exact grows
  | beginInternal phase => exact grows
  | invalidate phase =>
      exact fun start begun => ⟨Nat.le_succ_of_le (grows start begun).1, (grows start begun).2⟩
  | complete phase =>
      exact fun start begun => ⟨(grows start begun).1, Nat.le_succ_of_le (grows start begun).2⟩

/-- The flag is set, and the connection thread has not set out behind that. -/
structure CalledOff (state : BootloaderState Pattern) : Prop where
  invalidated : state.invalidateAsyncBootloaderPattern = true
  overtaken : ∀ start, state.faultTolerant.start? = some start →
    start.invalidated < state.history.invalidated

/-- Inside the last call: behind its section under the lock, the retries are called off. -/
structure InsideLast (state : BootloaderState Pattern) : Prop where
  grows : HistoryGrows state
  started : state.faultTolerant ≠ .notStarted
  calledOff : (∀ pattern, state.internal ≠ .invalidating pattern) → CalledOff state

/-- Behind the last call: nobody is left who may store another pattern. -/
structure BehindLast (pattern : Pattern) (state : BootloaderState Pattern) : Prop where
  started : state.faultTolerant ≠ .notStarted
  calledOff : CalledOff state
  completed : ∀ start, state.faultTolerant.start? = some start →
    start.completed < state.history.completed
  idle : state.internal = .idle
  stored : state.storedPattern = pattern

section Steps

variable {before after : BootloaderState Pattern} {action : BootloaderAction Pattern}
  {effects : List Pattern} (undisturbed : Undisturbed ⟨before, action, effects, after⟩)

theorem started_move (move : BootloaderMove before action after)
    (started : before.faultTolerant ≠ .notStarted) : after.faultTolerant ≠ .notStarted := by
  cases move with
  | firstCall phase goes refused => rcases goes with rfl | rfl <;> simp
  | beginFaultTolerant phase => simp
  | clear phase => simp
  | startRetry phase => simp
  | _ => exact started

include undisturbed in
theorem CalledOff.move (calledOff : CalledOff before)
    (started : before.faultTolerant ≠ .notStarted) (move : BootloaderMove before action after) :
    CalledOff after := by
  cases move with
  | beginFaultTolerant phase => exact absurd phase started
  | firstCall phase goes refused =>
      refine ⟨calledOff.invalidated, fun start begun => ?_⟩
      rcases goes with rfl | rfl
      · cases begun
      · exact calledOff.overtaken start (by rw [phase]; exact begun)
  | clear phase =>
      -- the condition: the flag that is cleared was not set since the call began
      have early := undisturbed.2 _ _ _ phase rfl
      have late := calledOff.overtaken _ (by rw [phase]; rfl)
      exact absurd late (Nat.not_lt_of_le early)
  | startRetry phase => exact ⟨calledOff.invalidated, fun start begun => nomatch begun⟩
  | retry _ => exact ⟨calledOff.invalidated, calledOff.overtaken⟩
  | beginInternal phase => exact ⟨calledOff.invalidated, calledOff.overtaken⟩
  | invalidate phase =>
      exact ⟨rfl, fun start begun => Nat.lt_succ_of_lt (calledOff.overtaken start begun)⟩
  | complete phase => exact ⟨calledOff.invalidated, calledOff.overtaken⟩

include undisturbed in
theorem InsideLast.move (inside : InsideLast before)
    (last : ∀ pattern, action ≠ .setBootloaderPatternInternal pattern)
    (move : BootloaderMove before action after) : InsideLast after := by
  refine ⟨inside.grows.move move, started_move move inside.started, fun through => ?_⟩
  by_cases waiting : ∃ pattern, before.internal = .invalidating pattern
  · obtain ⟨pattern, phase⟩ := waiting
    cases move with
    | invalidate _ =>
        exact ⟨rfl, fun start begun => Nat.lt_succ_of_le (inside.grows start begun).1⟩
    | beginInternal idle => rw [phase] at idle; cases idle
    | complete calling => rw [phase] at calling; cases calling
    | _ => exact absurd phase (through pattern)
  · exact (inside.calledOff fun pattern phase => waiting ⟨pattern, phase⟩).move undisturbed
      inside.started move

include undisturbed in
theorem BehindLast.move {pattern : Pattern} (behind : BehindLast pattern before)
    (last : ∀ pattern, action ≠ .setBootloaderPatternInternal pattern)
    (move : BootloaderMove before action after) : BehindLast pattern after := by
  have started := started_move move behind.started
  have calledOff := behind.calledOff.move undisturbed behind.started move
  cases move with
  | beginFaultTolerant phase => exact absurd phase behind.started
  | @firstCall _ start accepted stored next phase goes refused =>
      have late := behind.completed start (by rw [phase]; rfl)
      refine ⟨started, calledOff, fun start begun => ?_, behind.idle, ?_⟩
      · rcases goes with rfl | rfl
        · cases begun
        · exact behind.completed start (by rw [phase]; exact begun)
      · cases accepted with
        | false => exact (refused rfl).trans behind.stored
        | true => exact absurd late (Nat.not_lt_of_le (undisturbed.1 _ _ phase rfl))
  | clear phase =>
      exact ⟨started, calledOff, fun start begun => (nomatch begun), behind.idle, behind.stored⟩
  | startRetry phase =>
      exact ⟨started, calledOff, fun start begun => (nomatch begun), behind.idle, behind.stored⟩
  | retry kept =>
      exact ⟨started, calledOff, behind.completed, behind.idle,
        (kept behind.calledOff.invalidated).trans behind.stored⟩
  | beginInternal phase => exact absurd rfl (last _)
  | invalidate phase => rw [behind.idle] at phase; cases phase
  | complete phase => rw [behind.idle] at phase; cases phase

end Steps

/-- The start of the process: nothing is under way. -/
structure BootloaderIdle (state : BootloaderState Pattern) : Prop where
  faultTolerant : state.faultTolerant = .notStarted
  retry : state.retry = .notStarted
  internal : state.internal = .idle

section Last

variable {enableSilentRebootSupport : Bool}

/-- The step with which a call begins. -/
theorem insideLast_of_begins {begins : BootloaderStep Pattern} {pattern : Pattern}
    (grows : HistoryGrows begins.before) (started : begins.before.faultTolerant ≠ .notStarted)
    (begun : begins.action = .setBootloaderPatternInternal pattern)
    (taken : (bootloader Pattern enableSilentRebootSupport).step begins.before begins.action =
      some (begins.after, begins.effects)) : InsideLast begins.after := by
  have move := move_of_step taken
  refine ⟨grows.move move, started_move move started, fun through => ?_⟩
  rw [begun] at move
  generalize begins.after = after at move through
  cases move
  exact absurd rfl (through pattern)

/-- The step with which it ends, where its MFR call is accepted. -/
theorem behindLast_of_completes {completes : BootloaderStep Pattern} {pattern : Pattern}
    (inside : InsideLast completes.before) (undisturbed : Undisturbed completes)
    (calling : completes.before.internal = .calling pattern)
    (act : completes.action = .internal true) (stored : completes.effects = [pattern])
    (taken : (bootloader Pattern enableSilentRebootSupport).step completes.before
      completes.action = some (completes.after, completes.effects)) :
    BehindLast pattern completes.after := by
  have through : ∀ pattern, completes.before.internal ≠ .invalidating pattern := by
    simp [calling]
  have move := move_of_step taken
  have started := started_move move inside.started
  have calledOff := (inside.calledOff through).move undisturbed inside.started move
  have given : completes.after.storedPattern = pattern := by
    rw [act, stored] at taken
    exact storedPattern_of_completes calling taken
  rw [act] at move
  generalize completes.after = after at move started calledOff given
  cases move with
  | invalidate phase => rw [calling] at phase; cases phase
  | complete phase =>
      exact ⟨started, calledOff, fun start begun => Nat.lt_succ_of_le (inside.grows start begun).2,
        rfl, given⟩

end Last

/-- In every interleaving in which the connection thread neither stores its pattern behind a call
of `SetBootloaderPatternInternal` nor clears the flag behind one, the last pattern wins. -/
theorem lastPatternWins_of_undisturbed {enableSilentRebootSupport : Bool}
    {start final : BootloaderState Pattern} {trace : List (BootloaderStep Pattern)}
    (idle : BootloaderIdle start)
    (run : (bootloader Pattern enableSilentRebootSupport).Run start trace final)
    (undisturbed : ∀ occurrence ∈ trace, Undisturbed occurrence) : LastPatternWins trace := by
  rintro pattern earlier begins between completes later rfl call
  have grows : HistoryGrows begins.before := by
    refine run.at_occurrence.1.invariant (fun start begun => ?_)
      fun _ _ _ _ grows taken => grows.move (move_of_step taken)
    rw [idle.faultTolerant] at begun
    cases begun
  -- from the beginning of the call on, the steps are undisturbed and begin no other call
  have meets : ∀ occurrence ∈ between ++ completes :: later,
      Undisturbed occurrence ∧ ¬BeginsInternal occurrence := fun occurrence member =>
    ⟨undisturbed occurrence (List.mem_append_right _ (List.mem_cons_of_mem _ member)),
      call.last occurrence member⟩
  have inside : InsideLast completes.before := by
    refine run.behind_occurrence.at_occurrence.1.invariant_of_steps
      (fun occurrence member => meets occurrence (List.mem_append_left _ member))
      (insideLast_of_begins grows call.started call.begun run.at_occurrence.2) ?_
    intro before action after effects inside taken both
    exact inside.move both.1 (fun pattern begins => both.2 ⟨pattern, begins⟩) (move_of_step taken)
  have behind : BehindLast pattern completes.after :=
    behindLast_of_completes inside
      (meets completes (List.mem_append_right _ List.mem_cons_self)).1 call.calling call.act
      call.stored run.behind_occurrence.at_occurrence.2
  intro occurrence member
  obtain ⟨front, back, rfl⟩ := List.append_of_mem member
  have rest := run.behind_occurrence.behind_occurrence
  have step : ∀ before action after effects, BehindLast pattern before →
      (bootloader Pattern enableSilentRebootSupport).step before action =
        some (after, effects) →
      Undisturbed ⟨before, action, effects, after⟩ ∧
        ¬BeginsInternal ⟨before, action, effects, after⟩ → BehindLast pattern after :=
    fun _ _ _ _ behind taken both =>
      behind.move both.1 (fun pattern begins => both.2 ⟨pattern, begins⟩) (move_of_step taken)
  have before : BehindLast pattern occurrence.before :=
    rest.at_occurrence.1.invariant_of_steps (fun other front => meets other (by simp [front]))
      behind step
  exact (step _ _ _ _ before rest.at_occurrence.2 (meets occurrence (by simp))).stored

/-- The condition on the flag is sharp: whatever has happened meanwhile, the section that clears it
has a continuation that stores the pattern of the boot. -/
theorem bootPattern_stored_of_clearing {before : BootloaderState Pattern} {pattern : Pattern}
    {start : PatternHistory} (phase : before.faultTolerant = .clearing pattern start) :
    ∃ trace final, (bootloader Pattern true).Run before trace final ∧
      Machine.actionsOf trace =
        [.faultTolerant false, .faultTolerant false, .retry true] ∧
      final.storedPattern = pattern := by
  obtain ⟨final, trace, played, stored⟩ : ∃ final trace,
      (bootloader Pattern true).play before
          [.faultTolerant false, .faultTolerant false, .retry true] = some (final, trace) ∧
        final.storedPattern = pattern := by
    simp [Machine.play, bootloader, BootloaderState.step, BootloaderState.setBootloaderPattern,
      phase]
  exact ⟨trace, final, Machine.play_run played, Machine.actionsOf_played played, stored⟩

/-! ### A boot on which the first attempt fails -/

/-- The patterns that the plugin sets. -/
inductive MfrBlPattern where
  | normal
  | silent
  | silentLedOn
  deriving DecidableEq, Repr

namespace FailedAttempt

def boot : BootloaderState MfrBlPattern where
  storedPattern := .silent
  invalidateAsyncBootloaderPattern := false
  faultTolerant := .notStarted
  retry := .notStarted
  internal := .idle
  history := ⟨0, 0⟩

theorem idle : BootloaderIdle boot := ⟨rfl, rfl, rfl⟩

/-- A transition to standby behind the start of the retries. -/
def standbyBehind : List (BootloaderAction MfrBlPattern) :=
  [.setBootloaderPatternFaultTolerant .normal, .faultTolerant false, .faultTolerant false,
    .faultTolerant false, .setBootloaderPatternInternal .silentLedOn, .internal true,
    .internal true, .retry true]

/-- The transition between the failed attempt and the section that clears the flag. -/
def standbyBetween : List (BootloaderAction MfrBlPattern) :=
  [.setBootloaderPatternFaultTolerant .normal, .faultTolerant false,
    .setBootloaderPatternInternal .silentLedOn, .internal true, .internal true,
    .faultTolerant false, .faultTolerant false, .retry true]

end FailedAttempt

theorem lastPatternWins_of_undisturbed_standby :
    ∃ trace : List (BootloaderStep MfrBlPattern),
      Machine.actionsOf trace = FailedAttempt.standbyBehind ∧ LastPatternWins trace := by
  obtain ⟨trace, final, played, undisturbed⟩ : ∃ trace final,
      (bootloader MfrBlPattern true).play FailedAttempt.boot FailedAttempt.standbyBehind =
        some (final, trace) ∧ ∀ occurrence ∈ trace, Undisturbed occurrence := by
    refine ⟨_, _, rfl, ?_⟩
    simp [Undisturbed, FailedAttempt.boot, BootloaderState.setBootloaderPattern]
  exact ⟨trace, Machine.actionsOf_played played,
    lastPatternWins_of_undisturbed FailedAttempt.idle (Machine.play_run played) undisturbed⟩

/-- The retry stores the pattern of the boot over the one of the transition. -/
theorem not_lastPatternWins :
    ¬∀ (enableSilentRebootSupport : Bool) (start final : BootloaderState MfrBlPattern)
      (trace : List (BootloaderStep MfrBlPattern)), BootloaderIdle start →
      (bootloader MfrBlPattern enableSilentRebootSupport).Run start trace final →
      LastPatternWins trace := by
  intro wins
  obtain ⟨trace, final, played, loses⟩ : ∃ trace final,
      (bootloader MfrBlPattern true).play FailedAttempt.boot FailedAttempt.standbyBetween =
        some (final, trace) ∧ ¬LastPatternWins trace := by
    refine ⟨_, _, rfl, fun wins => ?_⟩
    have stays := wins .silentLedOn [_, _] _ [_] _ [_, _, _] rfl
      ⟨rfl, by simp [BootloaderState.setBootloaderPattern], by simp [BeginsInternal], rfl, rfl, rfl⟩
    exact absurd (stays _ (List.mem_of_getElem? (show _[2]? = some _ from rfl))) (by decide)
  exact loses (wins true _ _ trace FailedAttempt.idle (Machine.play_run played))

end DeviceSettings.Power
