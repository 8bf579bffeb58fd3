import DeviceSettings.Audio.Volume
import DeviceSettings.Std.Machine

/-!
# The persistence of audio levels

`SetAudioLevel` leaves the level of a port in a cache, and one thread writes the caches to the
store some seconds later. The flags are atomics, the condition variable is notified without the
mutex of the waiter, and `InitialiseHAL` fills the caches when the thread runs already. Every
load, store, test, notification and property access of the three is a step of its own. The HAL
and the store succeed, and levels are exact.
-/

namespace DeviceSettings.Audio

open DeviceSettings.Std

/-- The ports whose level is cached and persisted. -/
inductive LevelPort where
  | spdif
  | hdmi
  | speaker
  | headphone
  deriving DecidableEq, Repr

namespace LevelPort

/-- The `<port>.audio.Level` property. -/
def key : LevelPort → String
  | .spdif => "SPDIF0.audio.Level"
  | .hdmi => "HDMI0.audio.Level"
  | .speaker => "SPEAKER0.audio.Level"
  | .headphone => "HEADPHONE0.audio.Level"

theorem key_inj {port other : LevelPort} : port.key = other.key ↔ port = other := by
  cases port <;> cases other <;> decide

/-- The cases of the two `switch` statements over the port type. -/
def ofType : DsAudioPortType → Option LevelPort
  | .spdif => some .spdif
  | .hdmi => some .hdmi
  | .speaker => some .speaker
  | .headphone => some .headphone
  | _ => none

/-- The thread writes under the property that `SetAudioLevel` writes under. -/
theorem audioLevelKey_eq (portType : DsAudioPortType) :
    audioLevelKey portType = (ofType portType).map key := by
  cases portType <;> rfl

/-- The order in which the thread samples and compares. -/
def persistOrder : List LevelPort := [.spdif, .hdmi, .speaker, .headphone]

/-- The order in which `audioConfigInit` fills the caches. -/
def fillOrder : List LevelPort := [.spdif, .speaker, .headphone, .hdmi]

theorem mem_persistOrder (port : LevelPort) : port ∈ persistOrder := by
  cases port <;> decide

theorem nodup_persistOrder : persistOrder.Nodup := by
  decide

end LevelPort

/-- `runAudioLevelPersistThread`. -/
inductive PersistPhase where
  | notStarted
  | sampling (remaining : List LevelPort)
  | testingAlive
  | testingPredicate
  | blocking
  | blocked
  | testingStop
  | clearingPending
  | delaying
  | comparing (remaining : List LevelPort)
  | writing (port : LevelPort) (level : AudioLevel) (remaining : List LevelPort)
  | exited
  deriving DecidableEq

/-- `SetAudioLevel` behind the HAL, with `cacheAudioLevelForPersist` inlined. -/
inductive SetLevelPhase where
  | idle
  | testingAlive (portType : DsAudioPortType) (level : AudioLevel)
  | caching (port : LevelPort) (level : AudioLevel)
  | raisingPending
  | notifying
  | persisting (port : LevelPort) (level : AudioLevel)
  deriving DecidableEq

/-- `InitialiseHAL`: `startAudioLevelPersistThread`, then the levels of `audioConfigInit`. -/
inductive InitialisePhase where
  | testingAlive
  | raisingAlive
  | clearingPending
  | spawning
  | filling (remaining : List LevelPort)
  | done
  deriving DecidableEq

/-- `stopAudioLevelPersistThread`, which the destructor calls. -/
inductive StopPhase where
  | notCalled
  | testingAlive
  | clearingAlive
  | raisingPending
  | notifying
  | joining
  | returned
  deriving DecidableEq, Repr

/-- What the threads share, the thread's `prev` levels, and every thread's place in the code. -/
structure LevelState where
  alive : Bool
  pending : Bool
  cache : LevelPort → AudioLevel
  stored : String → Option AudioLevel
  previous : LevelPort → AudioLevel
  thread : PersistPhase
  callers : Nat → SetLevelPhase
  initialiser : InitialisePhase
  stopper : StopPhase

/-- The start of a call of `SetAudioLevel`, or the next step of a thread. -/
inductive LevelAction where
  | setAudioLevel (caller : Nat) (portType : DsAudioPortType) (level : AudioLevel)
  | caller (caller : Nat)
  | thread
  | wakeSpuriously
  | initialise
  | stop
  deriving DecidableEq

/-- A call of `persistHostProperty`. -/
structure Persisted where
  key : String
  level : AudioLevel

namespace LevelState

def persistHostProperty (state : LevelState) (port : LevelPort) (level : AudioLevel) :
    LevelState :=
  { state with stored := Function.update state.stored port.key (some level) }

/-- `notify_one`: a notification that finds nobody blocked is gone. -/
def notifyOne (state : LevelState) : LevelState :=
  if state.thread = .blocked then { state with thread := .testingPredicate } else state

/-- A notification moves at most the thread, and leaves nobody blocked. -/
theorem exists_notifyOne (state : LevelState) :
    ∃ phase, state.notifyOne = { state with thread := phase } ∧ phase ≠ .blocked ∧
      (phase = state.thread ∨ phase = .testingPredicate) := by
  unfold notifyOne
  split_ifs with blocked
  · exact ⟨_, rfl, by simp, .inr rfl⟩
  · exact ⟨_, rfl, blocked, .inl rfl⟩

/-- The level that `audioConfigInit` finds for a port. -/
def configuredLevel (defaults : String → Option AudioLevel) (state : LevelState)
    (port : LevelPort) : AudioLevel :=
  (state.stored port.key).getD ((defaults port.key).getD 40)

def initialiseStep (defaults : String → Option AudioLevel) (state : LevelState) :
    Option LevelState :=
  match state.initialiser with
  | .testingAlive =>
    some { state with
      initialiser := if state.alive then .filling LevelPort.fillOrder else .raisingAlive }
  | .raisingAlive => some { state with alive := true, initialiser := .clearingPending }
  | .clearingPending => some { state with pending := false, initialiser := .spawning }
  | .spawning =>
    some { state with
      thread := .sampling LevelPort.persistOrder
      initialiser := .filling LevelPort.fillOrder }
  | .filling (port :: remaining) =>
    some { state with
      cache := Function.update state.cache port (state.configuredLevel defaults port)
      initialiser := .filling remaining }
  | .filling [] => some { state with initialiser := .done }
  | .done => none

def threadStep (state : LevelState) : Option (LevelState × List Persisted) :=
  match state.thread with
  | .notStarted => none
  | .sampling (port :: remaining) =>
    some ({ state with
      previous := Function.update state.previous port (state.cache port)
      thread := .sampling remaining }, [])
  | .sampling [] => some ({ state with thread := .testingAlive }, [])
  | .testingAlive =>
    some ({ state with thread := if state.alive then .testingPredicate else .exited }, [])
  | .testingPredicate =>
    some ({ state with
      thread := if state.pending || !state.alive then .testingStop else .blocking }, [])
  | .blocking => some ({ state with thread := .blocked }, [])
  | .blocked => none
  | .testingStop =>
    some ({ state with thread := if state.alive then .clearingPending else .exited }, [])
  | .clearingPending => some ({ state with pending := false, thread := .delaying }, [])
  | .delaying => some ({ state with thread := .comparing LevelPort.persistOrder }, [])
  | .comparing (port :: remaining) =>
    if state.cache port ≠ state.previous port then
      some ({ state with thread := .writing port (state.cache port) remaining }, [])
    else some ({ state with thread := .comparing remaining }, [])
  | .comparing [] => some ({ state with thread := .testingAlive }, [])
  | .writing port level remaining =>
    some ({ state.persistHostProperty port level with
      previous := Function.update state.previous port level
      thread := .comparing remaining }, [⟨port.key, level⟩])
  | .exited => none

def become (state : LevelState) (caller : Nat) (phase : SetLevelPhase) : LevelState :=
  { state with callers := Function.update state.callers caller phase }

def callerStep (state : LevelState) (caller : Nat) : Option (LevelState × List Persisted) :=
  match state.callers caller with
  | .idle => none
  | .testingAlive portType level =>
    match LevelPort.ofType portType with
    | none => some (state.become caller .idle, [])
    | some port =>
      if state.alive then some (state.become caller (.caching port level), [])
      else some (state.become caller (.persisting port level), [])
  | .caching port level =>
    some ({ state with cache := Function.update state.cache port level }.become caller
      .raisingPending, [])
  | .raisingPending => some ({ state with pending := true }.become caller .notifying, [])
  | .notifying => some (state.notifyOne.become caller .idle, [])
  | .persisting port level =>
    some ((state.persistHostProperty port level).become caller .idle, [⟨port.key, level⟩])

def stopStep (state : LevelState) : Option LevelState :=
  match state.stopper with
  | .notCalled => some { state with stopper := .testingAlive }
  | .testingAlive =>
    some { state with stopper := if state.alive then .clearingAlive else .returned }
  | .clearingAlive => some { state with alive := false, stopper := .raisingPending }
  | .raisingPending => some { state with pending := true, stopper := .notifying }
  | .notifying => some { state.notifyOne with stopper := .joining }
  | .joining =>
    -- a thread that was never started is not joinable
    if state.thread = .exited ∨ state.thread = .notStarted then
      some { state with stopper := .returned }
    else none
  | .returned => none

def step (defaults : String → Option AudioLevel) (state : LevelState) :
    LevelAction → Option (LevelState × List Persisted)
  | .setAudioLevel caller portType level =>
    if state.callers caller = .idle then
      some (state.become caller (.testingAlive portType level), [])
    else none
  | .caller caller => state.callerStep caller
  | .thread => state.threadStep
  | .wakeSpuriously =>
    if state.thread = .blocked then some ({ state with thread := .testingPredicate }, [])
    else none
  | .initialise => (state.initialiseStep defaults).map (·, [])
  | .stop => state.stopStep.map (·, [])

end LevelState

/-- The persistence of audio levels, given the default properties. -/
def levelPersistence (defaults : String → Option AudioLevel) :
    Machine LevelState LevelAction Persisted where
  step := LevelState.step defaults

/-- A step of a run. -/
abbrev LevelStep := Occurrence LevelState LevelAction Persisted

/-- The steps of the thread that change nothing but its place in the code. -/
inductive PersistPhase.Silent (state : LevelState) : PersistPhase → PersistPhase → Prop where
  | sampled : Silent state (.sampling []) .testingAlive
  | aliveTested :
      Silent state .testingAlive (if state.alive then .testingPredicate else .exited)
  | predicateTested :
      Silent state .testingPredicate
        (if state.pending || !state.alive then .testingStop else .blocking)
  | blocks : Silent state .blocking .blocked
  | stopTested : Silent state .testingStop (if state.alive then .clearingPending else .exited)
  | delayed : Silent state .delaying (.comparing LevelPort.persistOrder)
  | differs {port : LevelPort} {remaining : List LevelPort}
      (found : state.cache port ≠ state.previous port) :
      Silent state (.comparing (port :: remaining)) (.writing port (state.cache port) remaining)
  | agrees {port : LevelPort} {remaining : List LevelPort}
      (found : state.cache port = state.previous port) :
      Silent state (.comparing (port :: remaining)) (.comparing remaining)
  | compared : Silent state (.comparing []) .testingAlive

/-- All that a step can do, guard by guard. -/
inductive LevelMove (defaults : String → Option AudioLevel) (before : LevelState) :
    LevelAction → LevelState → Prop where
  | begin (caller : Nat) (portType : DsAudioPortType) (level : AudioLevel)
      (was : before.callers caller = .idle) :
      LevelMove defaults before (.setAudioLevel caller portType level)
        (before.become caller (.testingAlive portType level))
  | ignore (caller : Nat) (portType : DsAudioPortType) (level : AudioLevel)
      (was : before.callers caller = .testingAlive portType level)
      (other : LevelPort.ofType portType = none) :
      LevelMove defaults before (.caller caller) (before.become caller .idle)
  | goCaching (caller : Nat) (portType : DsAudioPortType) (level : AudioLevel) (port : LevelPort)
      (was : before.callers caller = .testingAlive portType level)
      (cached : LevelPort.ofType portType = some port) (alive : before.alive = true) :
      LevelMove defaults before (.caller caller) (before.become caller (.caching port level))
  | goPersisting (caller : Nat) (portType : DsAudioPortType) (level : AudioLevel)
      (port : LevelPort) (was : before.callers caller = .testingAlive portType level)
      (cached : LevelPort.ofType portType = some port) (stopped : before.alive = false) :
      LevelMove defaults before (.caller caller) (before.become caller (.persisting port level))
  | fillCache (caller : Nat) (port : LevelPort) (level : AudioLevel)
      (was : before.callers caller = .caching port level) :
      LevelMove defaults before (.caller caller)
        ({ before with cache := Function.update before.cache port level }.become caller
          .raisingPending)
  | raisePending (caller : Nat) (was : before.callers caller = .raisingPending) :
      LevelMove defaults before (.caller caller)
        ({ before with pending := true }.become caller .notifying)
  | notify (caller : Nat) (was : before.callers caller = .notifying) :
      LevelMove defaults before (.caller caller) (before.notifyOne.become caller .idle)
  | persist (caller : Nat) (port : LevelPort) (level : AudioLevel)
      (was : before.callers caller = .persisting port level) :
      LevelMove defaults before (.caller caller)
        ((before.persistHostProperty port level).become caller .idle)
  | sample (port : LevelPort) (remaining : List LevelPort)
      (was : before.thread = .sampling (port :: remaining)) :
      LevelMove defaults before .thread
        { before with
          previous := Function.update before.previous port (before.cache port)
          thread := .sampling remaining }
  /-- A step of the thread that only tests, waits or moves on. -/
  | advance (next : PersistPhase) (silent : PersistPhase.Silent before before.thread next) :
      LevelMove defaults before .thread { before with thread := next }
  | clearPending (was : before.thread = .clearingPending) :
      LevelMove defaults before .thread { before with pending := false, thread := .delaying }
  | write (port : LevelPort) (level : AudioLevel) (remaining : List LevelPort)
      (was : before.thread = .writing port level remaining) :
      LevelMove defaults before .thread
        { before.persistHostProperty port level with
          previous := Function.update before.previous port level
          thread := .comparing remaining }
  | wakeSpuriously (was : before.thread = .blocked) :
      LevelMove defaults before .wakeSpuriously { before with thread := .testingPredicate }
  | findAlive (was : before.initialiser = .testingAlive) (alive : before.alive = true) :
      LevelMove defaults before .initialise
        { before with initialiser := .filling LevelPort.fillOrder }
  | findStopped (was : before.initialiser = .testingAlive) (stopped : before.alive = false) :
      LevelMove defaults before .initialise { before with initialiser := .raisingAlive }
  | raiseAlive (was : before.initialiser = .raisingAlive) :
      LevelMove defaults before .initialise
        { before with alive := true, initialiser := .clearingPending }
  | resetPending (was : before.initialiser = .clearingPending) :
      LevelMove defaults before .initialise
        { before with pending := false, initialiser := .spawning }
  | spawn (was : before.initialiser = .spawning) :
      LevelMove defaults before .initialise
        { before with
          thread := .sampling LevelPort.persistOrder
          initialiser := .filling LevelPort.fillOrder }
  | fill (port : LevelPort) (remaining : List LevelPort)
      (was : before.initialiser = .filling (port :: remaining)) :
      LevelMove defaults before .initialise
        { before with
          cache := Function.update before.cache port (before.configuredLevel defaults port)
          initialiser := .filling remaining }
  | filled (was : before.initialiser = .filling []) :
      LevelMove defaults before .initialise { before with initialiser := .done }
  | callStop (was : before.stopper = .notCalled) :
      LevelMove defaults before .stop { before with stopper := .testingAlive }
  | mayStop (was : before.stopper = .testingAlive) (alive : before.alive = true) :
      LevelMove defaults before .stop { before with stopper := .clearingAlive }
  | nothingToStop (was : before.stopper = .testingAlive) (stopped : before.alive = false) :
      LevelMove defaults before .stop { before with stopper := .returned }
  | clearAlive (was : before.stopper = .clearingAlive) :
      LevelMove defaults before .stop { before with alive := false, stopper := .raisingPending }
  | raisePendingToStop (was : before.stopper = .raisingPending) :
      LevelMove defaults before .stop { before with pending := true, stopper := .notifying }
  | notifyToStop (was : before.stopper = .notifying) :
      LevelMove defaults before .stop { before.notifyOne with stopper := .joining }
  | joined (was : before.stopper = .joining)
      (ended : before.thread = .exited ∨ before.thread = .notStarted) :
      LevelMove defaults before .stop { before with stopper := .returned }

section Moves

variable {defaults : String → Option AudioLevel} {before after : LevelState}
  {effects : List Persisted}

theorem levelMove_caller {caller : Nat}
    (taken : before.callerStep caller = some (after, effects)) :
    LevelMove defaults before (.caller caller) after := by
  unfold LevelState.callerStep at taken
  split at taken
  · cases taken
  · rename_i portType level was
    split at taken
    · rename_i other
      cases taken
      exact .ignore caller portType level was other
    · rename_i port cached
      split_ifs at taken with alive
      · cases taken
        exact .goCaching caller portType level port was cached alive
      · cases taken
        exact .goPersisting caller portType level port was cached
          (Bool.eq_false_of_not_eq_true alive)
  · rename_i port level was
    cases taken
    exact .fillCache caller port level was
  · rename_i was
    cases taken
    exact .raisePending caller was
  · rename_i was
    cases taken
    exact .notify caller was
  · rename_i port level was
    cases taken
    exact .persist caller port level was

theorem levelMove_thread (taken : before.threadStep = some (after, effects)) :
    LevelMove defaults before .thread after := by
  unfold LevelState.threadStep at taken
  split at taken
  · cases taken
  · rename_i port remaining was
    cases taken
    exact .sample port remaining was
  · rename_i was
    cases taken
    exact .advance _ (was ▸ .sampled)
  · rename_i was
    cases taken
    exact .advance _ (was ▸ .aliveTested)
  · rename_i was
    cases taken
    exact .advance _ (was ▸ .predicateTested)
  · rename_i was
    cases taken
    exact .advance _ (was ▸ .blocks)
  · cases taken
  · rename_i was
    cases taken
    exact .advance _ (was ▸ .stopTested)
  · rename_i was
    cases taken
    exact .clearPending was
  · rename_i was
    cases taken
    exact .advance _ (was ▸ .delayed)
  · rename_i port remaining was
    split_ifs at taken with differs <;> cases taken
    · exact .advance _ (was ▸ .differs differs)
    · exact .advance _ (was ▸ .agrees (not_not.mp differs))
  · rename_i was
    cases taken
    exact .advance _ (was ▸ .compared)
  · rename_i port level remaining was
    cases taken
    exact .write port level remaining was
  · cases taken

theorem levelMove_initialise (taken : before.initialiseStep defaults = some after) :
    LevelMove defaults before .initialise after := by
  unfold LevelState.initialiseStep at taken
  split at taken
  · rename_i was
    split_ifs at taken with alive <;> cases taken
    · exact .findAlive was alive
    · exact .findStopped was (Bool.eq_false_of_not_eq_true alive)
  · rename_i was
    cases taken
    exact .raiseAlive was
  · rename_i was
    cases taken
    exact .resetPending was
  · rename_i was
    cases taken
    exact .spawn was
  · rename_i port remaining was
    cases taken
    exact .fill port remaining was
  · rename_i was
    cases taken
    exact .filled was
  · cases taken

theorem levelMove_stop (taken : before.stopStep = some after) :
    LevelMove defaults before .stop after := by
  unfold LevelState.stopStep at taken
  split at taken
  · rename_i was
    cases taken
    exact .callStop was
  · rename_i was
    split_ifs at taken with alive <;> cases taken
    · exact .mayStop was alive
    · exact .nothingToStop was (Bool.eq_false_of_not_eq_true alive)
  · rename_i was
    cases taken
    exact .clearAlive was
  · rename_i was
    cases taken
    exact .raisePendingToStop was
  · rename_i was
    cases taken
    exact .notifyToStop was
  · rename_i was
    split_ifs at taken with ended
    cases taken
    exact .joined was ended
  · cases taken

theorem levelMove {action : LevelAction}
    (taken : (levelPersistence defaults).step before action = some (after, effects)) :
    LevelMove defaults before action after := by
  cases action with
  | setAudioLevel caller portType level =>
      simp only [levelPersistence, LevelState.step] at taken
      split_ifs at taken with was
      cases taken
      exact .begin caller portType level was
  | caller caller => exact levelMove_caller taken
  | thread => exact levelMove_thread taken
  | wakeSpuriously =>
      simp only [levelPersistence, LevelState.step] at taken
      split_ifs at taken with was
      cases taken
      exact .wakeSpuriously was
  | initialise =>
      obtain ⟨reached, stepped, same⟩ := Option.map_eq_some_iff.mp taken
      obtain ⟨rfl, -⟩ := Prod.mk.inj same
      exact levelMove_initialise stepped
  | stop =>
      obtain ⟨reached, stepped, same⟩ := Option.map_eq_some_iff.mp taken
      obtain ⟨rfl, -⟩ := Prod.mk.inj same
      exact levelMove_stop stepped

/-- Only its own steps move the stop. -/
theorem LevelMove.stopper_eq {action : LevelAction}
    (move : LevelMove defaults before action after) (others : action ≠ .stop) :
    after.stopper = before.stopper := by
  cases move with
  | notify caller was =>
      obtain ⟨phase, notified, -⟩ := before.exists_notifyOne
      rw [notified]
      rfl
  | callStop | mayStop | nothingToStop | clearAlive | raisePendingToStop | notifyToStop
  | joined => exact absurd rfl others
  | _ => rfl

end Moves

/-- Before `InitialiseHAL`, with this store. -/
def LevelState.initial (stored : String → Option AudioLevel) : LevelState where
  alive := false
  pending := false
  cache := fun _ => 0
  stored := stored
  previous := fun _ => 0
  thread := .notStarted
  callers := fun _ => .idle
  initialiser := .testingAlive
  stopper := .notCalled

/-! ### A call alone -/

/-- The cached level of a port. -/
def AudioLevelCache.level (cache : AudioLevelCache) : LevelPort → AudioLevel
  | .spdif => cache.spdif
  | .hdmi => cache.hdmi
  | .speaker => cache.speaker
  | .headphone => cache.headphone

theorem AudioLevelCache.level_store (cache : AudioLevelCache) {portType : DsAudioPortType}
    {port : LevelPort} (cached : LevelPort.ofType portType = some port) (level : AudioLevel) :
    (cache.store portType level).level = Function.update cache.level port level := by
  funext other
  cases portType <;> cases cached <;> cases other <;> rfl

@[simp] theorem LevelState.become_callers (state : LevelState) (caller : Nat)
    (phase : SetLevelPhase) : (state.become caller phase).callers caller = phase :=
  Function.update_self _ _ _

theorem LevelState.notifyOne_cache (state : LevelState) : state.notifyOne.cache = state.cache := by
  obtain ⟨phase, notified, -⟩ := state.exists_notifyOne
  rw [notified]

theorem LevelState.notifyOne_stored (state : LevelState) :
    state.notifyOne.stored = state.stored := by
  obtain ⟨phase, notified, -⟩ := state.exists_notifyOne
  rw [notified]

/-- A call that nobody interrupts leaves the caches as the sequential `SetAudioLevel` does. -/
theorem exists_call_alone {defaults : String → Option AudioLevel} {state : LevelState}
    {cache : AudioLevelCache} {caller : Nat} {portType : DsAudioPortType} {port : LevelPort}
    (cached : LevelPort.ofType portType = some port) (level : AudioLevel)
    (idle : state.callers caller = .idle) (alive : state.alive = true)
    (same : state.cache = cache.level) :
    ∃ trace final, (levelPersistence defaults).Run state trace final ∧
      Machine.actionsOf trace =
        .setAudioLevel caller portType level :: List.replicate 4 (.caller caller) ∧
      final.cache = (cache.store portType level).level ∧ final.stored = state.stored := by
  have begins : (levelPersistence defaults).step state (.setAudioLevel caller portType level) =
      some (state.become caller (.testingAlive portType level), []) := if_pos idle
  have steps : ∀ {before : LevelState},
      (levelPersistence defaults).step before (.caller caller) = before.callerStep caller := rfl
  have running : (state.become caller (.testingAlive portType level)).alive = true := alive
  obtain ⟨trace, final, played, held, stored⟩ : ∃ trace final,
      (levelPersistence defaults).play state
        (.setAudioLevel caller portType level :: List.replicate 4 (.caller caller)) =
          some (final, trace) ∧
      final.cache = Function.update state.cache port level ∧ final.stored = state.stored := by
    simp only [Machine.play, List.replicate, begins, steps, LevelState.callerStep,
      LevelState.become_callers, cached, running, if_true, Option.map_some]
    exact ⟨_, _, rfl, LevelState.notifyOne_cache _, LevelState.notifyOne_stored _⟩
  refine ⟨trace, final, Machine.play_run played, Machine.actionsOf_played played, ?_, stored⟩
  rw [held, same, cache.level_store cached]

/-! ### The alive flag -/

/-- `InitialiseHAL` is past the raising of the alive flag. -/
def InitialisePhase.started : InitialisePhase → Bool
  | .testingAlive | .raisingAlive => false
  | _ => true

/-- `InitialiseHAL` is past `startAudioLevelPersistThread`. -/
def InitialisePhase.spawned : InitialisePhase → Bool
  | .filling _ | .done => true
  | _ => false

/-- The stop has found the thread alive. -/
def StopPhase.found : StopPhase → Bool
  | .clearingAlive | .raisingPending | .notifying | .joining => true
  | _ => false

/-- The stop has cleared the alive flag and not returned. -/
def StopPhase.cleared : StopPhase → Bool
  | .raisingPending | .notifying | .joining => true
  | _ => false

/-- The stop has not cleared the alive flag and may still do it. -/
def StopPhase.uncleared : StopPhase → Bool
  | .notCalled | .testingAlive | .clearingAlive => true
  | _ => false

/-- Where the alive flag stands, by the initialiser's and the stop's place in the code. -/
structure AliveFlag (state : LevelState) : Prop where
  started : state.alive = true → state.initialiser.started = true
  found : state.stopper.found = true → state.initialiser.started = true
  cleared : state.stopper.cleared = true → state.alive = false
  running : state.initialiser.started = true → state.stopper.uncleared = true →
    state.alive = true

theorem aliveFlag_initial (stored : String → Option AudioLevel) :
    AliveFlag (.initial stored) :=
  ⟨by simp [LevelState.initial], by simp [LevelState.initial, StopPhase.found],
    by simp [LevelState.initial], by simp [LevelState.initial, InitialisePhase.started]⟩

theorem AliveFlag.step {defaults : String → Option AudioLevel} {before after : LevelState}
    {action : LevelAction} (flag : AliveFlag before)
    (move : LevelMove defaults before action after) : AliveFlag after := by
  obtain ⟨started, found, cleared, running⟩ := flag
  cases move with
  | findAlive was alive => exact absurd (started alive) (by simp [was, InitialisePhase.started])
  | findStopped was stopped =>
      rw [was] at started found running
      exact ⟨started, found, cleared, running⟩
  | raiseAlive was =>
      refine ⟨fun _ => rfl, fun _ => rfl, fun ended => ?_, fun _ _ => rfl⟩
      have early : before.stopper.found = true := by
        revert ended
        cases before.stopper <;> simp [StopPhase.found, StopPhase.cleared]
      exact absurd (found early) (by simp [was, InitialisePhase.started])
  | resetPending was =>
      rw [was] at started found running
      exact ⟨started, found, cleared, running⟩
  | spawn was =>
      rw [was] at started found running
      exact ⟨started, found, cleared, running⟩
  | fill port remaining was =>
      rw [was] at started found running
      exact ⟨started, found, cleared, running⟩
  | filled was =>
      rw [was] at started found running
      exact ⟨started, found, cleared, running⟩
  | callStop was =>
      rw [was] at running
      exact ⟨started, by simp [StopPhase.found], by simp [StopPhase.cleared], running⟩
  | mayStop was alive =>
      exact ⟨started, fun _ => started alive, by simp [StopPhase.cleared], fun _ _ => alive⟩
  | nothingToStop was stopped =>
      exact ⟨started, by simp [StopPhase.found], by simp [StopPhase.cleared],
        by simp [StopPhase.uncleared]⟩
  | clearAlive was =>
      rw [was] at found
      exact ⟨by simp, found, fun _ => rfl, by simp [StopPhase.uncleared]⟩
  | raisePendingToStop was =>
      rw [was] at found cleared
      exact ⟨started, found, cleared, by simp [StopPhase.uncleared]⟩
  | notifyToStop was =>
      obtain ⟨phase, notified, -⟩ := before.exists_notifyOne
      rw [was] at found cleared
      rw [notified]
      exact ⟨started, found, cleared, by simp [StopPhase.uncleared]⟩
  | joined was ended =>
      exact ⟨started, by simp [StopPhase.found], by simp [StopPhase.cleared],
        by simp [StopPhase.uncleared]⟩
  | notify caller was =>
      obtain ⟨phase, notified, -⟩ := before.exists_notifyOne
      rw [notified]
      exact ⟨started, found, cleared, running⟩
  | _ => exact ⟨started, found, cleared, running⟩

end DeviceSettings.Audio
