import DeviceSettings.Audio.LevelPersistence

/-!
# Coalesced audio levels

The thread writes a level when it differs from the one it remembers, and at first it remembers
what it sampled from the caches at its start, while `InitialiseHAL` may still be filling them.
A level that equals this baseline is taken as stored, whatever the store holds.
-/

namespace DeviceSettings.Audio

open DeviceSettings.Std

/-! ### The calls of a run -/

/-- What the next step of a call sets, in the cache or in the store. -/
def SetLevelPhase.sets : SetLevelPhase → Option (LevelPort × AudioLevel)
  | .caching port level | .persisting port level => some (port, level)
  | _ => none

/-- The port and the level that a step sets. -/
def setBy (occurrence : LevelStep) : Option (LevelPort × AudioLevel) :=
  match occurrence.action with
  | .caller caller => (occurrence.before.callers caller).sets
  | _ => none

def setsLevel (port : LevelPort) (last : Option AudioLevel) (occurrence : LevelStep) :
    Option AudioLevel :=
  match setBy occurrence with
  | some (other, level) => if other = port then some level else last
  | none => last

/-- The level of the last call on a port. No lock orders the calls, so the last is the one
whose level was set last. -/
def lastLevel (port : LevelPort) (trace : List LevelStep) : Option AudioLevel :=
  trace.foldl (setsLevel port) none

theorem lastLevel_snoc (port : LevelPort) (trace : List LevelStep) (occurrence : LevelStep) :
    lastLevel port (trace ++ [occurrence]) = setsLevel port (lastLevel port trace) occurrence := by
  rw [lastLevel, List.foldl_append]
  rfl

/-- Calls come after `InitialiseHAL`, and this caller's have returned before the destructor
starts. -/
def InServiceFor (caller : Nat) (occurrence : LevelStep) : Prop :=
  match occurrence.action with
  | .setAudioLevel _ _ _ =>
    occurrence.before.initialiser = .done ∧ occurrence.before.stopper = .notCalled
  | .stop => occurrence.before.stopper = .notCalled → occurrence.before.callers caller = .idle
  | _ => True

/-- Calls come after `InitialiseHAL`, and all have returned before the destructor starts. -/
def InService (occurrence : LevelStep) : Prop :=
  ∀ caller, InServiceFor caller occurrence

instance (caller : Nat) : DecidablePred (InServiceFor caller)
  | ⟨before, .setAudioLevel _ _ _, _, _⟩ =>
    inferInstanceAs (Decidable (before.initialiser = .done ∧ before.stopper = .notCalled))
  | ⟨before, .stop, _, _⟩ =>
    inferInstanceAs (Decidable (before.stopper = .notCalled → before.callers caller = .idle))
  | ⟨_, .caller _, _, _⟩ | ⟨_, .thread, _, _⟩ | ⟨_, .wakeSpuriously, _, _⟩
  | ⟨_, .initialise, _, _⟩ => .isTrue trivial

/-- A call in progress has been made between `InitialiseHAL` and the stop, and has not found
the thread stopped. -/
def SetLevelPhase.Allowed (initialiser : InitialisePhase) (stopper : StopPhase)
    (phase : SetLevelPhase) : Prop :=
  phase = .idle ∨ (initialiser = .done ∧ stopper = .notCalled ∧
    ∀ port level, phase ≠ .persisting port level)

/-- The state of a run whose calls come in service. -/
structure Serving (state : LevelState) : Prop where
  flag : AliveFlag state
  calls : ∀ caller, (state.callers caller).Allowed state.initialiser state.stopper
  unspawned : state.initialiser.spawned = false → state.thread = .notStarted

theorem serving_initial (stored : String → Option AudioLevel) : Serving (.initial stored) :=
  ⟨aliveFlag_initial stored, fun _ => .inl rfl, fun _ => rfl⟩

namespace Serving

variable {state : LevelState}

theorem active (serving : Serving state) {caller : Nat} (busy : state.callers caller ≠ .idle) :
    state.initialiser = .done ∧ state.stopper = .notCalled ∧
      ∀ port level, state.callers caller ≠ .persisting port level :=
  (serving.calls caller).resolve_left busy

theorem alive (serving : Serving state) {caller : Nat} (busy : state.callers caller ≠ .idle) :
    state.alive = true := by
  obtain ⟨done, running, -⟩ := serving.active busy
  exact serving.flag.running (by rw [done]; rfl) (by rw [running]; rfl)

/-- Outside the service no call is in progress. -/
theorem idle (serving : Serving state)
    (outside : state.initialiser ≠ .done ∨ state.stopper ≠ .notCalled) (caller : Nat) :
    state.callers caller = .idle := by
  by_contra busy
  obtain ⟨done, running, -⟩ := serving.active busy
  exact outside.elim (absurd done) (absurd running)

theorem become (serving : Serving state) {caller : Nat} {phase : SetLevelPhase}
    (allowed : phase.Allowed state.initialiser state.stopper) :
    Serving (state.become caller phase) where
  flag := ⟨serving.flag.started, serving.flag.found, serving.flag.cleared, serving.flag.running⟩
  calls := (Function.forall_update_iff state.callers fun _ phase =>
    phase.Allowed state.initialiser state.stopper).mpr
      ⟨allowed, fun other _ => serving.calls other⟩
  unspawned := serving.unspawned

/-- The thread moves on, once it is started. -/
theorem withThread (serving : Serving state) {phase : PersistPhase}
    (started : state.thread ≠ .notStarted) : Serving { state with thread := phase } where
  flag := ⟨serving.flag.started, serving.flag.found, serving.flag.cleared, serving.flag.running⟩
  calls := serving.calls
  unspawned early := absurd (serving.unspawned early) started

theorem notifyOne (serving : Serving state) : Serving state.notifyOne := by
  unfold LevelState.notifyOne
  split_ifs with blocked
  · exact serving.withThread (by simp [blocked])
  · exact serving

end Serving

variable {defaults : String → Option AudioLevel} {before after : LevelState}
  {action : LevelAction} {effects : List Persisted}

theorem PersistPhase.Silent.started {state : LevelState} {phase next : PersistPhase}
    (silent : PersistPhase.Silent state phase next) : phase ≠ .notStarted := by
  cases silent <;> simp

theorem Serving.step (serving : Serving before) (move : LevelMove defaults before action after)
    (inService : InService ⟨before, action, effects, after⟩) : Serving after := by
  have flag := serving.flag.step move
  -- the initialiser and the stop move only while no call is in progress
  have still : ∀ {initialiser : InitialisePhase} {stopper : StopPhase},
      (∀ caller, before.callers caller = .idle) → ∀ caller,
        (before.callers caller).Allowed initialiser stopper :=
    fun idle caller => .inl (idle caller)
  cases move with
  | begin caller portType level was =>
      exact serving.become (.inr ⟨(inService caller).1, (inService caller).2, by simp⟩)
  | ignore caller portType level was other => exact serving.become (.inl rfl)
  | goCaching caller portType level port was cached alive =>
      have busy : before.callers caller ≠ .idle := by simp [was]
      obtain ⟨done, running, -⟩ := serving.active busy
      exact serving.become (.inr ⟨done, running, by simp⟩)
  | goPersisting caller portType level port was cached stopped =>
      have busy : before.callers caller ≠ .idle := by simp [was]
      simp [serving.alive busy] at stopped
  | fillCache caller port level was =>
      have busy : before.callers caller ≠ .idle := by simp [was]
      obtain ⟨done, running, -⟩ := serving.active busy
      exact ⟨flag, (serving.become (.inr ⟨done, running, by simp⟩)).calls, serving.unspawned⟩
  | raisePending caller was =>
      have busy : before.callers caller ≠ .idle := by simp [was]
      obtain ⟨done, running, -⟩ := serving.active busy
      exact ⟨flag, (serving.become (.inr ⟨done, running, by simp⟩)).calls, serving.unspawned⟩
  | notify caller was => exact serving.notifyOne.become (.inl rfl)
  | persist caller port level was =>
      exact absurd was ((serving.active (by simp [was])).2.2 port level)
  | sample port remaining was =>
      exact ⟨flag, serving.calls, fun early =>
        absurd ((serving.unspawned early).symm.trans was) (by simp)⟩
  | advance next silent => exact serving.withThread silent.started
  | clearPending was =>
      exact ⟨flag, serving.calls, fun early =>
        absurd ((serving.unspawned early).symm.trans was) (by simp)⟩
  | write port level remaining was =>
      exact ⟨flag, serving.calls, fun early =>
        absurd ((serving.unspawned early).symm.trans was) (by simp)⟩
  | wakeSpuriously was => exact serving.withThread (by simp [was])
  | findAlive was alive =>
      have started := serving.flag.started alive
      simp [was, InitialisePhase.started] at started
  | findStopped was stopped =>
      exact ⟨flag, still (serving.idle (.inl (by simp [was]))), fun _ =>
        serving.unspawned (by rw [was]; rfl)⟩
  | raiseAlive was =>
      exact ⟨flag, still (serving.idle (.inl (by simp [was]))), fun _ =>
        serving.unspawned (by rw [was]; rfl)⟩
  | resetPending was =>
      exact ⟨flag, still (serving.idle (.inl (by simp [was]))), fun _ =>
        serving.unspawned (by rw [was]; rfl)⟩
  | spawn was =>
      exact ⟨flag, still (serving.idle (.inl (by simp [was]))), by simp [InitialisePhase.spawned]⟩
  | fill port remaining was =>
      exact ⟨flag, still (serving.idle (.inl (by simp [was]))), by simp [InitialisePhase.spawned]⟩
  | filled was =>
      exact ⟨flag, still (serving.idle (.inl (by simp [was]))), by simp [InitialisePhase.spawned]⟩
  | callStop was => exact ⟨flag, still (fun caller => inService caller was), serving.unspawned⟩
  | mayStop was alive =>
      exact ⟨flag, still (serving.idle (.inr (by simp [was]))), serving.unspawned⟩
  | nothingToStop was stopped =>
      exact ⟨flag, still (serving.idle (.inr (by simp [was]))), serving.unspawned⟩
  | clearAlive was =>
      exact ⟨flag, still (serving.idle (.inr (by simp [was]))), serving.unspawned⟩
  | raisePendingToStop was =>
      exact ⟨flag, still (serving.idle (.inr (by simp [was]))), serving.unspawned⟩
  | notifyToStop was =>
      have notified := serving.notifyOne
      refine ⟨flag, fun caller => .inl ?_, notified.unspawned⟩
      obtain ⟨phase, same, -⟩ := before.exists_notifyOne
      rw [same]
      exact serving.idle (.inr (by simp [was])) caller
  | joined was ended =>
      exact ⟨flag, still (serving.idle (.inr (by simp [was]))), serving.unspawned⟩

/-! ### The caches -/

/-- What a step does to the caches: a call in service sets one, the initialiser fills them
before. -/
theorem Serving.setBy_step (serving : Serving before)
    (move : LevelMove defaults before action after) :
    (∃ caller port level, setBy ⟨before, action, effects, after⟩ = some (port, level) ∧
        before.initialiser = .done ∧ before.stopper = .notCalled ∧
        after = { before with cache := Function.update before.cache port level }.become caller
          .raisingPending) ∨
      (setBy ⟨before, action, effects, after⟩ = none ∧
        (before.initialiser = .done → after.cache = before.cache ∧ after.initialiser = .done)) := by
  cases move with
  | fillCache caller port level was =>
      have busy : before.callers caller ≠ .idle := by simp [was]
      exact .inl ⟨caller, port, level, by simp [setBy, was, SetLevelPhase.sets],
        (serving.active busy).1, (serving.active busy).2.1, rfl⟩
  | persist caller port level was =>
      have busy : before.callers caller ≠ .idle := by simp [was]
      exact absurd was ((serving.active busy).2.2 port level)
  | notify caller was =>
      obtain ⟨phase, notified, -⟩ := before.exists_notifyOne
      rw [notified]
      exact .inr ⟨by simp [setBy, was, SetLevelPhase.sets], fun done => ⟨rfl, done⟩⟩
  | notifyToStop was =>
      obtain ⟨phase, notified, -⟩ := before.exists_notifyOne
      rw [notified]
      exact .inr ⟨rfl, fun done => ⟨rfl, done⟩⟩
  | ignore caller portType level was other =>
      exact .inr ⟨by simp [setBy, was, SetLevelPhase.sets], fun done => ⟨rfl, done⟩⟩
  | goCaching caller portType level port was cached alive =>
      exact .inr ⟨by simp [setBy, was, SetLevelPhase.sets], fun done => ⟨rfl, done⟩⟩
  | goPersisting caller portType level port was cached stopped =>
      exact .inr ⟨by simp [setBy, was, SetLevelPhase.sets], fun done => ⟨rfl, done⟩⟩
  | raisePending caller was =>
      exact .inr ⟨by simp [setBy, was, SetLevelPhase.sets], fun done => ⟨rfl, done⟩⟩
  | findAlive was alive => exact .inr ⟨rfl, fun done => absurd (was.symm.trans done) (by simp)⟩
  | findStopped was stopped => exact .inr ⟨rfl, fun done => absurd (was.symm.trans done) (by simp)⟩
  | raiseAlive was => exact .inr ⟨rfl, fun done => absurd (was.symm.trans done) (by simp)⟩
  | resetPending was => exact .inr ⟨rfl, fun done => absurd (was.symm.trans done) (by simp)⟩
  | spawn was => exact .inr ⟨rfl, fun done => absurd (was.symm.trans done) (by simp)⟩
  | fill port remaining was => exact .inr ⟨rfl, fun done => absurd (was.symm.trans done) (by simp)⟩
  | filled was => exact .inr ⟨rfl, fun done => absurd (was.symm.trans done) (by simp)⟩
  | _ => exact .inr ⟨rfl, fun done => ⟨rfl, done⟩⟩

/-- A port that has been called on has the last level in its cache. -/
def Cached (port : LevelPort) (trace : List LevelStep) (state : LevelState) : Prop :=
  ∀ level, lastLevel port trace = some level →
    state.initialiser = .done ∧ state.cache port = level

theorem Cached.step {port : LevelPort} {trace : List LevelStep} (cached : Cached port trace before)
    (serving : Serving before) (move : LevelMove defaults before action after) :
    Cached port (trace ++ [⟨before, action, effects, after⟩]) after := by
  intro level last
  rw [lastLevel_snoc, setsLevel] at last
  rcases @Serving.setBy_step _ _ _ _ effects serving move with
    ⟨caller, other, set, sets, done, -, rfl⟩ | ⟨sets, kept⟩
  · rw [sets] at last
    dsimp only at last
    refine ⟨done, ?_⟩
    split_ifs at last with same
    · subst same
      rw [← Option.some.inj last]
      exact Function.update_self _ _ _
    · exact (Function.update_of_ne (Ne.symm same) _ _).trans (cached level last).2
  · rw [sets] at last
    obtain ⟨done, held⟩ := cached level last
    obtain ⟨same, still⟩ := kept done
    exact ⟨still, by rw [same, held]⟩

/-! ### The work of the thread -/

/-- The ports that the pass under way is still to compare. -/
def PersistPhase.ahead : PersistPhase → List LevelPort
  | .clearingPending | .delaying => LevelPort.persistOrder
  | .comparing remaining | .writing _ _ remaining => remaining
  | _ => []

/-- The thread is at work on the port, to write this level. -/
def PersistPhase.Writes (port : LevelPort) (level : AudioLevel) (phase : PersistPhase) : Prop :=
  ∃ remaining, phase = .writing port level remaining

/-- A comparison of the port is still to come. -/
def Due (port : LevelPort) (state : LevelState) : Prop :=
  state.pending = true ∨ (∃ caller, state.callers caller = .raisingPending) ∨
    port ∈ state.thread.ahead

/-- The level of the port is compared, written or remembered. -/
def Tended (port : LevelPort) (level : AudioLevel) (state : LevelState) : Prop :=
  Due port state ∨ state.thread.Writes port level ∨
    ((∀ other, ¬state.thread.Writes port other) ∧ state.previous port = level)

section Tending

variable {port : LevelPort} {level : AudioLevel} {state : LevelState}

theorem Due.become (due : Due port state) {caller : Nat} {phase : SetLevelPhase}
    (was : state.callers caller ≠ .raisingPending) : Due port (state.become caller phase) := by
  refine due.imp id (Or.imp ?_ id)
  rintro ⟨other, raising⟩
  have apart : other ≠ caller := by
    rintro rfl
    exact was raising
  exact ⟨other, by simp only [LevelState.become, Function.update_of_ne apart, raising]⟩

theorem Tended.become (tended : Tended port level state) {caller : Nat} {phase : SetLevelPhase}
    (was : state.callers caller ≠ .raisingPending) :
    Tended port level (state.become caller phase) :=
  tended.imp (fun due => due.become was) id

/-- The thread moves on without passing the port. -/
theorem Tended.withThread (tended : Tended port level state) {next : PersistPhase}
    (ahead : port ∈ state.thread.ahead → port ∈ next.ahead)
    (writes : ∀ other, next.Writes port other ↔ state.thread.Writes port other) :
    Tended port level { state with thread := next } := by
  rcases tended with due | writing | ⟨clean, remembered⟩
  · exact .inl (due.imp id (Or.imp id ahead))
  · exact .inr (.inl ((writes level).mpr writing))
  · exact .inr (.inr ⟨fun other now => clean other ((writes other).mp now), remembered⟩)

/-- From one place outside a pass to another. -/
theorem Tended.outside (tended : Tended port level state) {next : PersistPhase}
    (ahead : state.thread.ahead = []) (was : ∀ other, ¬state.thread.Writes port other)
    (now : ∀ other, ¬next.Writes port other) : Tended port level { state with thread := next } :=
  tended.withThread (by simp [ahead]) fun other => iff_of_false (now other) (was other)

theorem Tended.notifyOne (tended : Tended port level state) :
    Tended port level state.notifyOne := by
  unfold LevelState.notifyOne
  split_ifs with blocked
  · exact tended.outside (by rw [blocked]; rfl) (by simp [blocked, PersistPhase.Writes])
      (by simp [PersistPhase.Writes])
  · exact tended

theorem Tended.advance (tended : Tended port level state) (held : state.cache port = level)
    {next : PersistPhase} (silent : PersistPhase.Silent state state.thread next) :
    Tended port level { state with thread := next } := by
  generalize was : state.thread = phase at silent
  have outside : phase.ahead = [] → (∀ other, ¬phase.Writes port other) →
      (∀ other, ¬next.Writes port other) → Tended port level { state with thread := next } := by
    rw [← was]
    exact tended.outside
  have onward : (port ∈ phase.ahead → port ∈ next.ahead) →
      (∀ other, next.Writes port other ↔ phase.Writes port other) →
        Tended port level { state with thread := next } := by
    rw [← was]
    exact tended.withThread
  cases silent with
  | sampled => exact outside rfl (by simp [PersistPhase.Writes]) (by simp [PersistPhase.Writes])
  | aliveTested =>
      exact outside rfl (by simp [PersistPhase.Writes])
        (by split_ifs <;> simp [PersistPhase.Writes])
  | predicateTested =>
      exact outside rfl (by simp [PersistPhase.Writes])
        (by split_ifs <;> simp [PersistPhase.Writes])
  | blocks => exact outside rfl (by simp [PersistPhase.Writes]) (by simp [PersistPhase.Writes])
  | stopTested =>
      exact outside rfl (by simp [PersistPhase.Writes])
        (by split_ifs <;> simp [PersistPhase.Writes])
  | delayed => exact onward id (by simp [PersistPhase.Writes])
  | @differs compared remaining found =>
      by_cases same : compared = port
      · subst same
        rw [held]
        exact .inr (.inl ⟨remaining, rfl⟩)
      · refine onward (fun member => ?_) (by simp [PersistPhase.Writes, same])
        exact (List.mem_cons.mp member).resolve_left (Ne.symm same)
  | @agrees compared remaining found =>
      by_cases same : compared = port
      · subst same
        exact .inr (.inr ⟨by simp [PersistPhase.Writes], found.symm.trans held⟩)
      · refine onward (fun member => ?_) (by simp [PersistPhase.Writes])
        exact (List.mem_cons.mp member).resolve_left (Ne.symm same)
  | compared => exact outside rfl (by simp [PersistPhase.Writes]) (by simp [PersistPhase.Writes])

end Tending

/-- In service, the last level of a port is never lost from sight. -/
theorem Tended.step {port : LevelPort} {level : AudioLevel} (tended : Tended port level before)
    (serving : Serving before) (done : before.initialiser = .done)
    (held : before.cache port = level) (move : LevelMove defaults before action after) :
    Tended port level after := by
  cases move with
  | begin caller portType level' was => exact tended.become (by simp [was])
  | ignore caller portType level' was other => exact tended.become (by simp [was])
  | goCaching caller portType level' other was cached alive => exact tended.become (by simp [was])
  | goPersisting caller portType level' other was cached stopped =>
      exact tended.become (by simp [was])
  | fillCache caller other level' was =>
      exact .inl (.inr (.inl ⟨caller, by simp [LevelState.become]⟩))
  | raisePending caller was => exact .inl (.inl rfl)
  | notify caller was =>
      refine tended.notifyOne.become ?_
      obtain ⟨phase, notified, -⟩ := before.exists_notifyOne
      simp [notified, was]
  | persist caller other level' was =>
      have busy : before.callers caller ≠ .idle := by simp [was]
      exact absurd was ((serving.active busy).2.2 other level')
  | sample other remaining was =>
      have clean : ∀ level', ¬before.thread.Writes port level' := by
        simp [was, PersistPhase.Writes]
      rcases tended with due | writing | ⟨-, remembered⟩
      · refine .inl (due.imp id (Or.imp id fun member => ?_))
        simp [was, PersistPhase.ahead] at member
      · exact absurd writing (clean level)
      · refine .inr (.inr ⟨by simp [PersistPhase.Writes], ?_⟩)
        by_cases same : other = port
        · subst same
          exact (Function.update_self _ _ _).trans held
        · exact (Function.update_of_ne (Ne.symm same) _ _).trans remembered
  | advance next silent => exact tended.advance held silent
  | clearPending was => exact .inl (.inr (.inr (LevelPort.mem_persistOrder port)))
  | write other level' remaining was =>
      rcases tended with due | writing | ⟨clean, remembered⟩
      · refine .inl (due.imp id (Or.imp id fun member => ?_))
        rw [was] at member
        exact member
      · obtain ⟨rest, writing⟩ := writing
        obtain ⟨rfl, rfl, rfl⟩ : other = port ∧ level' = level ∧ remaining = rest := by
          simpa [was] using writing
        exact .inr (.inr ⟨by simp [PersistPhase.Writes], Function.update_self _ _ _⟩)
      · have apart : port ≠ other := by
          rintro rfl
          exact clean level' ⟨remaining, was⟩
        exact .inr (.inr ⟨by simp [PersistPhase.Writes],
          (Function.update_of_ne apart _ _).trans remembered⟩)
  | wakeSpuriously was =>
      exact tended.outside (by rw [was]; rfl) (by simp [was, PersistPhase.Writes])
        (by simp [PersistPhase.Writes])
  | findAlive was alive => exact absurd (was.symm.trans done) (by simp)
  | findStopped was stopped => exact absurd (was.symm.trans done) (by simp)
  | raiseAlive was => exact absurd (was.symm.trans done) (by simp)
  | resetPending was => exact absurd (was.symm.trans done) (by simp)
  | spawn was => exact absurd (was.symm.trans done) (by simp)
  | fill other remaining was => exact absurd (was.symm.trans done) (by simp)
  | filled was => exact absurd (was.symm.trans done) (by simp)
  | raisePendingToStop was => exact .inl (.inl rfl)
  | notifyToStop was =>
      obtain ⟨phase, notified, -⟩ := before.exists_notifyOne
      have notifiedTended := tended.notifyOne
      rw [notified] at notifiedTended ⊢
      exact notifiedTended
  | _ => exact tended

/-! ### The baseline -/

/-- The step samples the port for the baseline of the thread. -/
def Samples (port : LevelPort) (occurrence : LevelStep) : Prop :=
  occurrence.action = .thread ∧
    ∃ remaining, occurrence.before.thread = .sampling (port :: remaining)

/-- The step compares the cache of the port with what the thread remembers. -/
def Compares (port : LevelPort) (occurrence : LevelStep) : Prop :=
  occurrence.action = .thread ∧
    ∃ remaining, occurrence.before.thread = .comparing (port :: remaining)

/-- The level is what the thread sampled for the port at its start. -/
def Baseline (port : LevelPort) (trace : List LevelStep) (level : AudioLevel) : Prop :=
  ∃ occurrence ∈ trace, Samples port occurrence ∧ occurrence.before.cache port = level

/-- A comparison of the port has found another level in its cache. -/
def FindsOther (port : LevelPort) (level : AudioLevel) (trace : List LevelStep) : Prop :=
  ∃ occurrence ∈ trace, Compares port occurrence ∧ occurrence.before.cache port ≠ level

theorem baseline_snoc_iff {port : LevelPort} {trace : List LevelStep} {occurrence : LevelStep}
    {level : AudioLevel} :
    Baseline port (trace ++ [occurrence]) level ↔
      Baseline port trace level ∨
        (Samples port occurrence ∧ occurrence.before.cache port = level) := by
  simp only [Baseline, List.mem_append, List.mem_singleton, or_and_right, exists_or,
    exists_eq_left]

theorem findsOther_snoc_iff {port : LevelPort} {trace : List LevelStep} {occurrence : LevelStep}
    {level : AudioLevel} :
    FindsOther port level (trace ++ [occurrence]) ↔
      FindsOther port level trace ∨
        (Compares port occurrence ∧ occurrence.before.cache port ≠ level) := by
  simp only [FindsOther, List.mem_append, List.mem_singleton, or_and_right, exists_or,
    exists_eq_left]

namespace PersistPhase

/-- The thread is still to sample the port. -/
def Unsampled (port : LevelPort) (phase : PersistPhase) : Prop :=
  phase = .notStarted ∨
    ∃ remaining, phase = .sampling remaining ∧ port ∈ remaining ∧ remaining.Nodup

/-- The thread has sampled the port. -/
def Sampled (port : LevelPort) (phase : PersistPhase) : Prop :=
  phase ≠ .notStarted ∧ ∀ remaining, phase = .sampling remaining → port ∉ remaining

end PersistPhase

/-- What the thread knows of a port and the store holds: nothing sampled and nothing written
yet; or every comparison has found the baseline, and the store is as it was; or a comparison
has found another level, and from then on what is remembered is stored. -/
inductive Known (stored : Option AudioLevel) (port : LevelPort) (trace : List LevelStep)
    (state : LevelState) : Prop where
  | ahead (phase : state.thread.Unsampled port)
      (unsampled : ∀ occurrence ∈ trace, ¬Samples port occurrence)
      (uncompared : ∀ occurrence ∈ trace, ¬Compares port occurrence)
      (kept : state.stored port.key = stored)
  | agreeing (base : AudioLevel) (phase : state.thread.Sampled port)
      (baseline : ∀ level, Baseline port trace level ↔ level = base)
      (agrees : ¬FindsOther port base trace)
      (clean : ∀ level, ¬state.thread.Writes port level)
      (remembered : state.previous port = base) (kept : state.stored port.key = stored)
  | differing (base : AudioLevel) (phase : state.thread.Sampled port)
      (baseline : ∀ level, Baseline port trace level ↔ level = base)
      (finds : FindsOther port base trace)
      (written : (∃ level, state.thread.Writes port level) ∨
        state.stored port.key = some (state.previous port))

section Knowing

variable {stored : Option AudioLevel} {port : LevelPort} {trace : List LevelStep}

theorem known_initial (contents : String → Option AudioLevel) :
    Known (contents port.key) port [] (.initial contents) :=
  .ahead (.inl rfl) (by simp) (by simp) rfl

/-- A step that neither samples, compares nor writes the port. -/
theorem Known.quiet (known : Known stored port trace before) {occurrence : LevelStep}
    (unsampled : ¬Samples port occurrence) (uncompared : ¬Compares port occurrence)
    (store : after.stored port.key = before.stored port.key)
    (previous : after.previous port = before.previous port)
    (still : before.thread.Unsampled port → after.thread.Unsampled port)
    (past : before.thread.Sampled port → after.thread.Sampled port)
    (writes : ∀ level, after.thread.Writes port level ↔ before.thread.Writes port level) :
    Known stored port (trace ++ [occurrence]) after := by
  have baseline : ∀ level, Baseline port (trace ++ [occurrence]) level ↔
      Baseline port trace level := fun level =>
    baseline_snoc_iff.trans (or_iff_left fun samples => unsampled samples.1)
  have finds : ∀ level, FindsOther port level (trace ++ [occurrence]) ↔
      FindsOther port level trace := fun level =>
    findsOther_snoc_iff.trans (or_iff_left fun compares => uncompared compares.1)
  cases known with
  | ahead phase noSample noCompare kept =>
      refine .ahead (still phase) (fun step member => ?_) (fun step member => ?_)
        (store.trans kept) <;> rcases List.mem_append.mp member with old | new
      · exact noSample step old
      · rw [List.mem_singleton.mp new]
        exact unsampled
      · exact noCompare step old
      · rw [List.mem_singleton.mp new]
        exact uncompared
  | agreeing base phase only agrees clean remembered kept =>
      exact .agreeing base (past phase) (fun level => (baseline level).trans (only level))
        (fun found => agrees ((finds base).mp found))
        (fun level writing => clean level ((writes level).mp writing))
        (previous.trans remembered) (store.trans kept)
  | differing base phase only found written =>
      refine .differing base (past phase) (fun level => (baseline level).trans (only level))
        ((finds base).mpr found) ?_
      rw [store, previous]
      exact written.imp (Exists.imp fun level => (writes level).mpr) id

/-- A step of another party. -/
theorem Known.elsewhere (known : Known stored port trace before) (others : action ≠ .thread)
    (store : after.stored = before.stored) (previous : after.previous = before.previous)
    (thread : after.thread = before.thread) :
    Known stored port (trace ++ [⟨before, action, effects, after⟩]) after := by
  refine known.quiet (fun samples => others samples.1) (fun compares => others compares.1)
    (congrFun store _) (congrFun previous _) ?_ ?_ ?_ <;> rw [thread]
  · exact id
  · exact id
  · exact fun _ => Iff.rfl

/-- A blocked thread is woken. -/
theorem Known.wakes (known : Known stored port trace before) (others : action ≠ .thread)
    (blocked : before.thread = .blocked) (store : after.stored = before.stored)
    (previous : after.previous = before.previous) (woken : after.thread = .testingPredicate) :
    Known stored port (trace ++ [⟨before, action, effects, after⟩]) after := by
  refine known.quiet (fun samples => others samples.1) (fun compares => others compares.1)
    (congrFun store _) (congrFun previous _) ?_ ?_ ?_ <;> rw [blocked, woken]
  · simp [PersistPhase.Unsampled]
  · simp [PersistPhase.Sampled]
  · simp [PersistPhase.Writes]

/-- A notification, which may find nobody. -/
theorem Known.notified (known : Known stored port trace before) (others : action ≠ .thread)
    (store : after.stored = before.notifyOne.stored)
    (previous : after.previous = before.notifyOne.previous)
    (thread : after.thread = before.notifyOne.thread) :
    Known stored port (trace ++ [⟨before, action, effects, after⟩]) after := by
  by_cases blocked : before.thread = .blocked
  · rw [LevelState.notifyOne, if_pos blocked] at store previous thread
    exact known.wakes others blocked store previous thread
  · rw [LevelState.notifyOne, if_neg blocked] at store previous thread
    exact known.elsewhere others store previous thread

theorem Known.sample (known : Known stored port trace before) {sampled : LevelPort}
    {remaining : List LevelPort} (was : before.thread = .sampling (sampled :: remaining))
    (after_ : after =
      { before with
        previous := Function.update before.previous sampled (before.cache sampled)
        thread := .sampling remaining }) :
    Known stored port (trace ++ [⟨before, .thread, effects, after⟩]) after := by
  subst after_
  by_cases same : sampled = port
  · subst same
    cases known with
    | ahead phase unsampled uncompared kept =>
        have past : sampled ∉ remaining := by
          rcases phase with early | ⟨rest, sampling, -, distinct⟩
          · simp [was] at early
          · rw [was] at sampling
            cases sampling
            exact (List.nodup_cons.mp distinct).1
        refine .agreeing (before.cache sampled) ⟨by simp, by simpa using past⟩ (fun level => ?_)
          (fun found => ?_) (by simp [PersistPhase.Writes]) (Function.update_self _ _ _) kept
        · rw [baseline_snoc_iff]
          constructor
          · rintro (⟨step, member, samples, -⟩ | ⟨-, held⟩)
            · exact absurd samples (unsampled step member)
            · exact held.symm
          · rintro rfl
            exact .inr ⟨⟨rfl, remaining, was⟩, rfl⟩
        · rcases findsOther_snoc_iff.mp found with ⟨step, member, compares, -⟩ | ⟨compares, -⟩
          · exact uncompared step member compares
          · obtain ⟨-, rest, comparing⟩ := compares
            simp [was] at comparing
    | agreeing base phase => exact absurd List.mem_cons_self (phase.2 _ was)
    | differing base phase => exact absurd List.mem_cons_self (phase.2 _ was)
  · refine known.quiet ?_ ?_ rfl (Function.update_of_ne (Ne.symm same) _ _) ?_ ?_ ?_
    · rintro ⟨-, rest, sampling⟩
      simp only [was, PersistPhase.sampling.injEq, List.cons.injEq] at sampling
      exact same sampling.1
    · rintro ⟨-, rest, comparing⟩
      simp [was] at comparing
    · rintro (early | ⟨rest, sampling, member, distinct⟩)
      · simp [was] at early
      · rw [was] at sampling
        cases sampling
        exact .inr ⟨remaining, rfl, (List.mem_cons.mp member).resolve_left (Ne.symm same),
          (List.nodup_cons.mp distinct).2⟩
    · rintro ⟨-, past⟩
      refine ⟨by simp, fun rest sampling => ?_⟩
      cases sampling
      exact fun member => past _ was (List.mem_cons_of_mem _ member)
    · simp [was, PersistPhase.Writes]

/-- The comparison of the port. -/
theorem Known.compare (known : Known stored port trace before) {remaining : List LevelPort}
    {next : PersistPhase} (was : before.thread = .comparing (port :: remaining))
    (moves : (before.cache port ≠ before.previous port ∧
        next = .writing port (before.cache port) remaining) ∨
      (before.cache port = before.previous port ∧ next = .comparing remaining)) :
    Known stored port (trace ++ [⟨before, .thread, effects, { before with thread := next }⟩])
      { before with thread := next } := by
  have compares : Compares port ⟨before, .thread, effects, { before with thread := next }⟩ :=
    ⟨rfl, remaining, was⟩
  have baseline : ∀ level, Baseline port
      (trace ++ [⟨before, .thread, effects, { before with thread := next }⟩]) level ↔
        Baseline port trace level := by
    refine fun level => baseline_snoc_iff.trans (or_iff_left ?_)
    rintro ⟨⟨-, rest, sampling⟩, -⟩
    simp [was] at sampling
  have past : next.Sampled port := by
    rcases moves with ⟨-, rfl⟩ | ⟨-, rfl⟩ <;> exact ⟨by simp, by simp⟩
  cases known with
  | ahead phase => simp [was, PersistPhase.Unsampled] at phase
  | agreeing base phase only agrees clean remembered kept =>
      rcases moves with ⟨differs, rfl⟩ | ⟨equal, rfl⟩
      · refine .differing base past (fun level => (baseline level).trans (only level))
          (findsOther_snoc_iff.mpr (.inr ⟨compares, ?_⟩)) (.inl ⟨_, remaining, rfl⟩)
        exact fun held => differs (held.trans remembered.symm)
      · refine .agreeing base past (fun level => (baseline level).trans (only level)) ?_
          (by simp [PersistPhase.Writes]) remembered kept
        rintro found
        rcases findsOther_snoc_iff.mp found with old | ⟨-, other⟩
        · exact agrees old
        · exact other (equal.trans remembered)
  | differing base phase only found written =>
      refine .differing base past (fun level => (baseline level).trans (only level))
        (findsOther_snoc_iff.mpr (.inl found)) ?_
      have rested : before.stored port.key = some (before.previous port) := by
        refine written.resolve_left ?_
        simp [was, PersistPhase.Writes]
      exact .inr rested

theorem Known.advance (known : Known stored port trace before) {next : PersistPhase}
    (silent : PersistPhase.Silent before before.thread next) :
    Known stored port (trace ++ [⟨before, .thread, effects, { before with thread := next }⟩])
      { before with thread := next } := by
  generalize was : before.thread = phase at silent
  -- a step that compares no port, from one sampled place to another
  have onward : (∀ remaining, phase ≠ .sampling (port :: remaining)) →
      (∀ remaining, phase ≠ .comparing (port :: remaining)) →
      (phase.Unsampled port → next.Unsampled port) → (phase.Sampled port → next.Sampled port) →
      (∀ level, next.Writes port level ↔ phase.Writes port level) →
      Known stored port (trace ++ [⟨before, .thread, effects, { before with thread := next }⟩])
        { before with thread := next } := by
    subst was
    intro samples compares still past writes
    exact known.quiet (fun sampling => sampling.2.elim samples)
      (fun comparing => comparing.2.elim compares) rfl rfl still past writes
  cases silent with
  | @differs compared remaining found =>
      by_cases same : compared = port
      · subst same
        exact known.compare was (.inl ⟨found, rfl⟩)
      · exact onward (by simp) (by simp [same]) (by simp [PersistPhase.Unsampled])
          (by simp [PersistPhase.Sampled]) (by simp [PersistPhase.Writes, same])
  | @agrees compared remaining found =>
      by_cases same : compared = port
      · subst same
        exact known.compare was (.inr ⟨found, rfl⟩)
      · exact onward (by simp) (by simp [same]) (by simp [PersistPhase.Unsampled])
          (by simp [PersistPhase.Sampled]) (by simp [PersistPhase.Writes])
  | aliveTested =>
      split_ifs at * <;> exact onward (by simp) (by simp) (by simp [PersistPhase.Unsampled])
        (by simp [PersistPhase.Sampled]) (by simp [PersistPhase.Writes])
  | predicateTested =>
      split_ifs at * <;> exact onward (by simp) (by simp) (by simp [PersistPhase.Unsampled])
        (by simp [PersistPhase.Sampled]) (by simp [PersistPhase.Writes])
  | stopTested =>
      split_ifs at * <;> exact onward (by simp) (by simp) (by simp [PersistPhase.Unsampled])
        (by simp [PersistPhase.Sampled]) (by simp [PersistPhase.Writes])
  | sampled =>
      exact onward (by simp) (by simp) (by simp [PersistPhase.Unsampled])
        (by simp [PersistPhase.Sampled]) (by simp [PersistPhase.Writes])
  | blocks =>
      exact onward (by simp) (by simp) (by simp [PersistPhase.Unsampled])
        (by simp [PersistPhase.Sampled]) (by simp [PersistPhase.Writes])
  | delayed =>
      exact onward (by simp) (by simp) (by simp [PersistPhase.Unsampled])
        (by simp [PersistPhase.Sampled]) (by simp [PersistPhase.Writes])
  | compared =>
      exact onward (by simp) (by simp) (by simp [PersistPhase.Unsampled])
        (by simp [PersistPhase.Sampled]) (by simp [PersistPhase.Writes])

theorem Known.write (known : Known stored port trace before) {written : LevelPort}
    {level : AudioLevel} {remaining : List LevelPort}
    (was : before.thread = .writing written level remaining)
    (after_ : after =
      { before.persistHostProperty written level with
        previous := Function.update before.previous written level
        thread := .comparing remaining }) :
    Known stored port (trace ++ [⟨before, .thread, effects, after⟩]) after := by
  subst after_
  have unsampled : ∀ {after : LevelState}, ¬Samples port ⟨before, .thread, effects, after⟩ := by
    rintro after ⟨-, rest, sampling⟩
    simp [was] at sampling
  have uncompared : ∀ {after : LevelState}, ¬Compares port ⟨before, .thread, effects, after⟩ := by
    rintro after ⟨-, rest, comparing⟩
    simp [was] at comparing
  by_cases same : written = port
  · subst same
    cases known with
    | ahead phase => simp [was, PersistPhase.Unsampled] at phase
    | agreeing base phase only agrees clean => exact absurd ⟨remaining, was⟩ (clean level)
    | differing base phase only found =>
        refine .differing base ⟨by simp, by simp⟩ (fun level => ?_)
          (findsOther_snoc_iff.mpr (.inl found)) (.inr ?_)
        · exact (baseline_snoc_iff.trans (or_iff_left fun samples => unsampled samples.1)).trans
            (only level)
        · simp [LevelState.persistHostProperty]
  · have apart : port.key ≠ written.key := fun equal => same (LevelPort.key_inj.mp equal).symm
    refine known.quiet unsampled uncompared (Function.update_of_ne apart _ _)
      (Function.update_of_ne (Ne.symm same) _ _) ?_ ?_ ?_
    · simp [was, PersistPhase.Unsampled]
    · simp [PersistPhase.Sampled]
    · simp [was, PersistPhase.Writes, same]

/-- What is known is kept by every step in service. -/
theorem Known.step (known : Known stored port trace before) (serving : Serving before)
    (move : LevelMove defaults before action after) :
    Known stored port (trace ++ [⟨before, action, effects, after⟩]) after := by
  cases move with
  | sample sampled remaining was => exact known.sample was rfl
  | advance next silent => exact known.advance silent
  | write written level remaining was => exact known.write was rfl
  | clearPending was =>
      refine known.quiet ?_ ?_ rfl rfl ?_ ?_ ?_
      · simp [Samples, was]
      · simp [Compares, was]
      · simp [was, PersistPhase.Unsampled]
      · simp [PersistPhase.Sampled]
      · simp [was, PersistPhase.Writes]
  | persist caller written level was =>
      have busy : before.callers caller ≠ .idle := by simp [was]
      exact absurd was ((serving.active busy).2.2 written level)
  | notify caller was => exact known.notified (by simp) rfl rfl rfl
  | notifyToStop was => exact known.notified (by simp) rfl rfl rfl
  | wakeSpuriously was => exact known.wakes (by simp) was rfl rfl rfl
  | spawn was =>
      have early := serving.unspawned (by rw [was]; rfl)
      refine known.quiet (by simp [Samples]) (by simp [Compares]) rfl rfl (fun _ => ?_) ?_ ?_
      · exact .inr ⟨_, rfl, LevelPort.mem_persistOrder port, LevelPort.nodup_persistOrder⟩
      · simp [early, PersistPhase.Sampled]
      · simp [early, PersistPhase.Writes]
  | _ => exact known.elsewhere (by simp) rfl rfl rfl

/-- What holds along a run whose calls come in service. -/
theorem serving_run (port : LevelPort) {contents : String → Option AudioLevel}
    {state : LevelState}
    (run : (levelPersistence defaults).Run (.initial contents) trace state)
    (inService : ∀ occurrence ∈ trace, InService occurrence) :
    Serving state ∧ Cached port trace state ∧ Known (contents port.key) port trace state ∧
      ∀ level, lastLevel port trace = some level → Tended port level state := by
  induction run with
  | nil =>
      exact ⟨serving_initial contents, by simp [Cached, lastLevel], known_initial contents,
        by simp [lastLevel]⟩
  | @snoc trace before action after effects prior taken ih =>
      obtain ⟨serving, cached, known, tended⟩ := ih fun step member =>
        inService step (List.mem_append_left _ member)
      have move := levelMove taken
      refine ⟨serving.step move (inService _ (List.mem_append_right _ List.mem_cons_self)),
        cached.step serving move, known.step serving move, fun level last => ?_⟩
      rw [lastLevel_snoc, setsLevel] at last
      rcases @Serving.setBy_step _ _ _ _ effects serving move with
        ⟨caller, other, set, sets, done, -, rfl⟩ | ⟨sets, kept⟩
      · exact .inl (.inr (.inl ⟨caller, by simp [LevelState.become]⟩))
      · rw [sets] at last
        obtain ⟨done, held⟩ := cached level last
        exact (tended level last).step serving done held move

end Knowing

/-! ### The law -/

/-- A call comes after `InitialiseHAL`, and nothing stops the thread. -/
def AfterInitialise (occurrence : LevelStep) : Prop :=
  match occurrence.action with
  | .setAudioLevel _ _ _ => occurrence.before.initialiser = .done
  | .stop => False
  | _ => True

instance : DecidablePred AfterInitialise
  | ⟨before, .setAudioLevel _ _ _, _, _⟩ => inferInstanceAs (Decidable (before.initialiser = .done))
  | ⟨_, .stop, _, _⟩ => .isFalse id
  | ⟨_, .caller _, _, _⟩ | ⟨_, .thread, _, _⟩ | ⟨_, .wakeSpuriously, _, _⟩
  | ⟨_, .initialise, _, _⟩ => .isTrue trivial

theorem inService_of_afterInitialise {contents : String → Option AudioLevel}
    {state : LevelState} {trace : List LevelStep}
    (run : (levelPersistence defaults).Run (.initial contents) trace state)
    (calls : ∀ occurrence ∈ trace, AfterInitialise occurrence) :
    ∀ occurrence ∈ trace, InService occurrence := by
  have unstopped : ∀ {earlier : List LevelStep} {state : LevelState},
      (levelPersistence defaults).Run (.initial contents) earlier state →
      (∀ occurrence ∈ earlier, AfterInitialise occurrence) → state.stopper = .notCalled := by
    intro earlier state prior calls
    induction prior with
    | nil => rfl
    | snoc prior taken ih =>
        have same := ih fun step within => calls step (List.mem_append_left _ within)
        have call := calls _ (List.mem_append_right _ List.mem_cons_self)
        refine ((levelMove taken).stopper_eq ?_).trans same
        rintro rfl
        exact call
  intro occurrence member caller
  have call := calls occurrence member
  obtain ⟨earlier, later, rfl⟩ := List.append_of_mem member
  have notCalled := unstopped run.at_occurrence.1 fun step within =>
    calls step (List.mem_append_left _ within)
  revert call
  unfold AfterInitialise InServiceFor
  split
  · exact fun done => ⟨done, notCalled⟩
  · exact False.elim
  · exact fun _ => trivial

/-- With the thread back in its wait and nothing under way, the store has the last level of a
port exactly when it had it from the start, or that level is not the baseline, or some
comparison has found another level in the cache. -/
theorem stored_eq_last_iff {defaults contents : String → Option AudioLevel} {state : LevelState}
    {trace : List LevelStep}
    (run : (levelPersistence defaults).Run (.initial contents) trace state)
    (calls : ∀ occurrence ∈ trace, AfterInitialise occurrence)
    (waiting : state.thread = .blocked) (quiet : state.pending = false)
    (returned : ∀ caller, state.callers caller = .idle) {port : LevelPort} {level : AudioLevel}
    (last : lastLevel port trace = some level) :
    state.stored port.key = some level ↔
      contents port.key = some level ∨ ¬Baseline port trace level ∨
        ∃ occurrence ∈ trace, Compares port occurrence ∧
          occurrence.before.cache port ≠ level := by
  obtain ⟨serving, cached, known, tended⟩ :=
    serving_run port run (inService_of_afterInitialise run calls)
  have remembered : state.previous port = level := by
    rcases tended level last with due | ⟨remaining, writing⟩ | ⟨-, remembered⟩
    · rcases due with pending | ⟨caller, raising⟩ | member
      · simp [quiet] at pending
      · simp [returned caller] at raising
      · simp [waiting, PersistPhase.ahead] at member
    · simp [waiting] at writing
    · exact remembered
  cases known with
  | ahead phase => simp [waiting, PersistPhase.Unsampled] at phase
  | agreeing base phase only agrees clean same kept =>
      obtain rfl : base = level := same.symm.trans remembered
      rw [kept]
      exact (or_iff_left fun other => other.elim (fun none => none ((only base).mpr rfl))
        agrees).symm
  | differing base phase only found written =>
      have stored : state.stored port.key = some level := by
        rw [← remembered]
        exact written.resolve_left (by simp [waiting, PersistPhase.Writes])
      refine iff_of_true stored (.inr ?_)
      by_cases same : base = level
      · subst same
        exact .inr found
      · exact .inl fun baseline => same ((only level).mp baseline).symm

/-- `InitialiseHAL`, and the thread up to its first wait. -/
def bootThenWait : List LevelAction :=
  List.replicate 9 .initialise ++ List.replicate 8 .thread

/-- The same with the thread so fast that it samples the caches before they are filled. -/
def bootWhileSampling : List LevelAction :=
  List.replicate 4 .initialise ++ List.replicate 4 .thread ++ List.replicate 5 .initialise ++
    List.replicate 4 .thread

/-- A level set on the speaker, and the steps of the thread that follow. -/
def setSpeaker (level : AudioLevel) (steps : Nat) : List LevelAction :=
  [.setAudioLevel 0 .speaker level] ++ List.replicate 4 (.caller 0) ++
    List.replicate steps .thread

/-- The thread is back in its wait behind a call on the speaker. -/
structure Settled (level : AudioLevel) (trace : List LevelStep) (state : LevelState) : Prop where
  calls : ∀ occurrence ∈ trace, AfterInitialise occurrence
  waiting : state.thread = .blocked
  quiet : state.pending = false
  returned : ∀ caller, state.callers caller = .idle
  last : lastLevel .speaker trace = some level

theorem exists_settled_speaker : ∃ trace state,
    (levelPersistence fun _ => none).Run (.initial fun _ => none) trace state ∧
      Settled 50 trace state := by
  obtain ⟨state, trace, played, settled⟩ : ∃ state trace,
      (levelPersistence fun _ => none).play (.initial fun _ => none)
        (bootThenWait ++ setSpeaker 50 13) = some (state, trace) ∧ Settled 50 trace state :=
    ⟨_, _, rfl, by decide +kernel, rfl, rfl,
      fun caller => by cases caller <;> rfl, by rfl⟩
  exact ⟨trace, state, Machine.play_run played, settled⟩

theorem stored_eq_last_iff_speaker : ∃ (trace : List LevelStep) (state : LevelState),
    lastLevel .speaker trace = some 50 ∧
      (state.stored "SPEAKER0.audio.Level" = some 50 ↔
        (none : Option AudioLevel) = some 50 ∨ ¬Baseline .speaker trace 50 ∨
          ∃ occurrence ∈ trace, Compares .speaker occurrence ∧
            occurrence.before.cache .speaker ≠ 50) := by
  obtain ⟨trace, state, run, settled⟩ := exists_settled_speaker
  exact ⟨trace, state, settled.last, stored_eq_last_iff run settled.calls settled.waiting
    settled.quiet settled.returned settled.last⟩

/-- The store has 30, the thread samples the zeros of the unfilled caches, and the user sets 0. -/
theorem exists_settled_zero : ∃ trace state,
    (levelPersistence fun _ => none).Run (.initial fun _ => some 30) trace state ∧
      Settled 0 trace state ∧ state.stored "SPEAKER0.audio.Level" = some 30 := by
  obtain ⟨state, trace, played, settled, stored⟩ : ∃ state trace,
      (levelPersistence fun _ => none).play (.initial fun _ => some 30)
        (bootWhileSampling ++ setSpeaker 0 15) = some (state, trace) ∧ Settled 0 trace state ∧
          state.stored "SPEAKER0.audio.Level" = some 30 :=
    ⟨_, _, rfl, ⟨by decide +kernel, rfl, rfl,
      fun caller => by cases caller <;> rfl, by rfl⟩,
      by rfl⟩
  exact ⟨trace, state, Machine.play_run played, settled, stored⟩

theorem not_stored_eq_last :
    ¬∀ (contents : String → Option AudioLevel) (trace : List LevelStep) (state : LevelState),
      (levelPersistence fun _ => none).Run (.initial contents) trace state →
      (∀ occurrence ∈ trace, AfterInitialise occurrence) → state.thread = .blocked →
      state.pending = false → (∀ caller, state.callers caller = .idle) →
      ∀ port level, lastLevel port trace = some level → state.stored port.key = some level := by
  intro always
  obtain ⟨trace, state, run, settled, stored⟩ := exists_settled_zero
  have zero := always _ trace state run settled.calls settled.waiting settled.quiet
    settled.returned .speaker 0 settled.last
  have same : (30 : AudioLevel) = 0 := Option.some.inj (stored.symm.trans zero)
  exact absurd same (by decide)

end DeviceSettings.Audio
