import DeviceSettings.Audio.LevelPersistence

/-!
# Waking the persist thread

The waiter tests its predicate under a mutex that those who raise the flags and notify do not
take. A notification between the test and the block finds nobody, and the flags it announces
stay up with the thread blocked.
-/

namespace DeviceSettings.Audio

open DeviceSettings.Std

namespace LevelState

/-- Some caller has stored its flag and has `notify_one` ahead of it. -/
def SomeoneNotifies (state : LevelState) : Prop :=
  (∃ caller, state.callers caller = .notifying) ∨ state.stopper = .raisingPending ∨
    state.stopper = .notifying

/-- The flags are as a blocked thread may sleep through them, or it will be notified. -/
def Awaited (state : LevelState) : Prop :=
  (state.pending = false ∧ state.alive = true) ∨ state.SomeoneNotifies

/-- The thread is blocked only while awaited, and a stop that joins it is about to wake it. -/
structure NoLostWakeUp (state : LevelState) : Prop where
  waits : state.thread = .blocked → state.Awaited
  joins : state.stopper = .joining → state.thread = .blocked → state.SomeoneNotifies

theorem someoneNotifies_become {state : LevelState} {caller : Nat} {phase : SetLevelPhase}
    (was : state.callers caller ≠ .notifying) (notifies : state.SomeoneNotifies) :
    (state.become caller phase).SomeoneNotifies := by
  rcases notifies with ⟨other, notifying⟩ | stop
  · refine .inl ⟨other, ?_⟩
    have apart : other ≠ caller := by
      rintro rfl
      exact was notifying
    simp only [become, Function.update_of_ne apart, notifying]
  · exact .inr stop

/-- A caller that moves without having stored a flag leaves a blocked thread awaited. -/
theorem Awaited.become {state : LevelState} {caller : Nat} {phase : SetLevelPhase}
    (awaited : state.Awaited) (was : state.callers caller ≠ .notifying) :
    (state.become caller phase).Awaited :=
  awaited.imp id (someoneNotifies_become was)

end LevelState

open LevelState

variable {defaults : String → Option AudioLevel} {before after : LevelState}
  {action : LevelAction}

/-- Behind a block the flags rise only in the hands of a caller that will notify, and the
notification wakes the thread. -/
theorem LevelMove.awaited (move : LevelMove defaults before action after)
    (blocked : before.thread = .blocked) (still : after.thread = .blocked)
    (awaited : before.Awaited) : after.Awaited := by
  cases move with
  | begin caller portType level was => exact awaited.become (by simp [was])
  | ignore caller portType level was other => exact awaited.become (by simp [was])
  | goCaching caller portType level port was cached alive => exact awaited.become (by simp [was])
  | goPersisting caller portType level port was cached stopped =>
      exact awaited.become (by simp [was])
  | fillCache caller port level was =>
      have filled : LevelState.Awaited
          { before with cache := Function.update before.cache port level } := awaited
      exact filled.become (by simp [was])
  | raisePending caller was =>
      exact .inr (.inl ⟨caller, by simp [LevelState.become]⟩)
  | notify caller was =>
      obtain ⟨phase, notified, awake, -⟩ := before.exists_notifyOne
      rw [notified] at still
      exact absurd still awake
  | persist caller port level was =>
      have persisted : (before.persistHostProperty port level).Awaited := awaited
      exact persisted.become (by simp [LevelState.persistHostProperty, was])
  | sample port remaining was => exact absurd (was.symm.trans blocked) (by simp)
  | advance next silent =>
      rw [blocked] at silent
      cases silent
  | clearPending was => exact absurd (was.symm.trans blocked) (by simp)
  | write port level remaining was => exact absurd (was.symm.trans blocked) (by simp)
  | wakeSpuriously was => cases still
  | findAlive was alive => exact awaited
  | findStopped was stopped => exact awaited
  | raiseAlive was => exact awaited.imp (fun quiet => ⟨quiet.1, rfl⟩) id
  | resetPending was => exact awaited.imp (fun quiet => ⟨rfl, quiet.2⟩) id
  | spawn was => cases still
  | fill port remaining was => exact awaited
  | filled was => exact awaited
  | callStop was =>
      refine awaited.imp id (Or.imp id ?_)
      simp [was]
  | mayStop was alive =>
      refine awaited.imp id (Or.imp id ?_)
      simp [was]
  | nothingToStop was stopped =>
      refine awaited.imp id (Or.imp id ?_)
      simp [was]
  | clearAlive was => exact .inr (.inr (.inl rfl))
  | raisePendingToStop was => exact .inr (.inr (.inr rfl))
  | notifyToStop was =>
      obtain ⟨phase, notified, awake, -⟩ := before.exists_notifyOne
      rw [notified] at still
      exact absurd still awake
  | joined was ended =>
      rw [blocked] at ended
      simp at ended

theorem PersistPhase.Silent.eq_blocking {state : LevelState} {phase next : PersistPhase}
    (silent : PersistPhase.Silent state phase next) (blocked : next = .blocked) :
    phase = .blocking := by
  cases silent with
  | blocks => rfl
  | aliveTested => split_ifs at blocked
  | predicateTested => split_ifs at blocked
  | stopTested => split_ifs at blocked
  | _ => cases blocked

/-- The thread blocks by its own step, which changes nothing else. -/
theorem LevelMove.blocks (move : LevelMove defaults before action after)
    (running : before.thread ≠ .blocked) (blocked : after.thread = .blocked) :
    before.thread = .blocking ∧ action = .thread ∧ after = { before with thread := .blocked } := by
  cases move with
  | advance next silent =>
      obtain rfl : next = .blocked := blocked
      exact ⟨silent.eq_blocking rfl, rfl, rfl⟩
  | sample port remaining was => cases blocked
  | clearPending was => cases blocked
  | write port level remaining was => cases blocked
  | wakeSpuriously was => cases blocked
  | spawn was => cases blocked
  | notify caller was =>
      obtain ⟨phase, notified, awake, -⟩ := before.exists_notifyOne
      rw [notified] at blocked
      exact absurd blocked awake
  | notifyToStop was =>
      obtain ⟨phase, notified, awake, -⟩ := before.exists_notifyOne
      rw [notified] at blocked
      exact absurd blocked awake
  | _ => exact absurd blocked running

theorem aliveFlag_run {stored : String → Option AudioLevel} {state : LevelState}
    {trace : List LevelStep} (run : (levelPersistence defaults).Run (.initial stored) trace state) :
    AliveFlag state :=
  run.invariant (aliveFlag_initial stored) fun _ _ _ _ flag taken => flag.step (levelMove taken)

/-- A joining stop has cleared the alive flag, so only a notification to come awaits the
thread. -/
theorem noLostWakeUp_iff_awaited {state : LevelState} (flag : AliveFlag state) :
    NoLostWakeUp state ↔ (state.thread = .blocked → state.Awaited) := by
  constructor
  · exact NoLostWakeUp.waits
  · refine fun waits => ⟨waits, fun joining blocked => ?_⟩
    have stopped := flag.cleared (by rw [joining]; rfl)
    rcases waits blocked with ⟨-, alive⟩ | notifies
    · simp [stopped] at alive
    · exact notifies

/-! ### The hang -/

/-- The stop waits for a thread that has missed its notification. -/
structure Hung (state : LevelState) : Prop where
  blocked : state.thread = .blocked
  joining : state.stopper = .joining
  stopped : state.alive = false
  spawned : state.initialiser.spawned = true
  silent : ∀ caller, state.callers caller ≠ .notifying ∧ state.callers caller ≠ .raisingPending ∧
    ∀ port level, state.callers caller ≠ .caching port level

theorem Hung.become {state : LevelState} (hung : Hung state) {caller : Nat}
    {phase : SetLevelPhase} (silent : phase ≠ .notifying ∧ phase ≠ .raisingPending ∧
      ∀ port level, phase ≠ .caching port level) : Hung (state.become caller phase) where
  blocked := hung.blocked
  joining := hung.joining
  stopped := hung.stopped
  spawned := hung.spawned
  silent := by
    intro other
    by_cases same : other = caller
    · subst same
      simpa [LevelState.become] using silent
    · simpa [LevelState.become, Function.update_of_ne same] using hung.silent other

/-- Later calls of `SetAudioLevel` see the thread as stopped and do not notify. -/
theorem Hung.step (hung : Hung before) (move : LevelMove defaults before action after)
    (spurious : action ≠ .wakeSpuriously) : Hung after := by
  obtain ⟨blocked, joining, stopped, spawned, silent⟩ := id hung
  cases move with
  | begin caller portType level was => exact hung.become (by simp)
  | ignore caller portType level was other => exact hung.become (by simp)
  | goCaching caller portType level port was cached alive => simp [stopped] at alive
  | goPersisting caller portType level port was cached gone => exact hung.become (by simp)
  | fillCache caller port level was => exact absurd was ((silent caller).2.2 port level)
  | raisePending caller was => exact absurd was (silent caller).2.1
  | notify caller was => exact absurd was (silent caller).1
  | persist caller port level was =>
      have persisted : Hung (before.persistHostProperty port level) :=
        ⟨blocked, joining, stopped, spawned, silent⟩
      exact persisted.become (by simp)
  | sample port remaining was => exact absurd (was.symm.trans blocked) (by simp)
  | advance next moves =>
      rw [blocked] at moves
      cases moves
  | clearPending was => exact absurd (was.symm.trans blocked) (by simp)
  | write port level remaining was => exact absurd (was.symm.trans blocked) (by simp)
  | wakeSpuriously was => exact absurd rfl spurious
  | findAlive was alive => simp [stopped] at alive
  | findStopped was gone => simp [was, InitialisePhase.spawned] at spawned
  | raiseAlive was => simp [was, InitialisePhase.spawned] at spawned
  | resetPending was => simp [was, InitialisePhase.spawned] at spawned
  | spawn was => simp [was, InitialisePhase.spawned] at spawned
  | fill port remaining was => exact ⟨blocked, joining, stopped, rfl, silent⟩
  | filled was => exact ⟨blocked, joining, stopped, rfl, silent⟩
  | callStop was => exact absurd (was.symm.trans joining) (by simp)
  | mayStop was alive => exact absurd (was.symm.trans joining) (by simp)
  | nothingToStop was gone => exact absurd (was.symm.trans joining) (by simp)
  | clearAlive was => exact absurd (was.symm.trans joining) (by simp)
  | raisePendingToStop was => exact absurd (was.symm.trans joining) (by simp)
  | notifyToStop was => exact absurd (was.symm.trans joining) (by simp)
  | joined was ended =>
      rw [blocked] at ended
      simp at ended

/-- Unless the thread wakes spuriously, the stop never returns. -/
theorem hung_for_good {start state : LevelState} (hung : Hung start) {trace : List LevelStep}
    (run : (levelPersistence defaults).Run start trace state)
    (spurious : ∀ occurrence ∈ trace, occurrence.action ≠ .wakeSpuriously) : Hung state :=
  run.invariant_of_steps spurious hung fun _ _ _ _ held taken genuine =>
    held.step (levelMove taken) genuine

/-! ### The law -/

/-- In every run, no state has lost a wake-up exactly when the thread never blocks with a flag
raised and nobody about to notify. -/
theorem noLostWakeUp_iff {defaults stored : String → Option AudioLevel} {final : LevelState}
    {trace : List LevelStep}
    (run : (levelPersistence defaults).Run (.initial stored) trace final) :
    (∀ occurrence ∈ trace, NoLostWakeUp occurrence.after) ↔
      ∀ occurrence ∈ trace, occurrence.action = .thread →
        occurrence.before.thread = .blocking →
        (occurrence.before.pending = false ∧ occurrence.before.alive = true) ∨
          occurrence.before.SomeoneNotifies := by
  have flags : ∀ occurrence ∈ trace, AliveFlag occurrence.after := by
    intro occurrence member
    obtain ⟨earlier, later, rfl⟩ := List.append_of_mem member
    obtain ⟨prior, taken⟩ := run.at_occurrence
    exact (aliveFlag_run prior).step (levelMove taken)
  have inside :
      (∀ occurrence ∈ trace, occurrence.after.thread = .blocked → occurrence.after.Awaited) ↔
        ∀ occurrence ∈ trace, ¬occurrence.before.thread = .blocked →
          occurrence.after.thread = .blocked → occurrence.before.Awaited := by
    refine @Machine.Run.holds_inside_iff _ _ _ _ (fun state => state.thread = .blocked)
      LevelState.Awaited _ _ _ run ?_ ?_ ?_
    · simp [LevelState.initial]
    · intro before action after effects taken blocked still awaited
      exact (levelMove taken).awaited blocked still awaited
    · intro before action after effects taken running blocked
      obtain ⟨-, -, rfl⟩ := (levelMove taken).blocks running blocked
      exact Iff.rfl
  constructor
  · intro never occurrence member acts blocking
    obtain ⟨earlier, later, rfl⟩ := List.append_of_mem member
    have taken := run.at_occurrence.2
    have blocked : occurrence.after.thread = .blocked := by
      rw [acts] at taken
      simp only [levelPersistence, LevelState.step, LevelState.threadStep, blocking] at taken
      rw [← (Prod.mk.inj (Option.some.inj taken)).1]
    refine inside.mp (fun step within => (never step within).waits) occurrence member ?_ blocked
    simp [blocking]
  · intro quiet occurrence member
    refine (noLostWakeUp_iff_awaited (flags occurrence member)).mpr ?_
    refine inside.mpr (fun step within running blocked => ?_) occurrence member
    obtain ⟨earlier, later, rfl⟩ := List.append_of_mem within
    obtain ⟨blocking, acts, -⟩ := (levelMove run.at_occurrence.2).blocks running blocked
    exact quiet step within acts blocking

/-- `InitialiseHAL`, and the thread up to its first wait. -/
def startUp : List LevelAction :=
  List.replicate 9 .initialise ++ List.replicate 6 .thread

theorem exists_startUp : ∃ trace final,
    (levelPersistence fun _ => none).Run (.initial fun _ => none) trace final ∧
      Machine.actionsOf trace = startUp ++ [.thread, .thread] := by
  obtain ⟨trace, final, played⟩ : ∃ trace final,
      (levelPersistence fun _ => none).play (.initial fun _ => none)
        (startUp ++ [.thread, .thread]) = some (final, trace) := ⟨_, _, rfl⟩
  exact ⟨trace, final, Machine.play_run played, Machine.actionsOf_played played⟩

theorem noLostWakeUp_iff_startUp : ∃ trace : List LevelStep,
    Machine.actionsOf trace = startUp ++ [.thread, .thread] ∧
      ((∀ occurrence ∈ trace, NoLostWakeUp occurrence.after) ↔
        ∀ occurrence ∈ trace, occurrence.action = .thread →
          occurrence.before.thread = .blocking →
          (occurrence.before.pending = false ∧ occurrence.before.alive = true) ∨
            occurrence.before.SomeoneNotifies) := by
  obtain ⟨trace, final, run, actions⟩ := exists_startUp
  exact ⟨trace, actions, noLostWakeUp_iff run⟩

/-- The whole stop falls between the test of the predicate and the block. -/
def stopBeforeBlock : List LevelAction :=
  startUp ++ [.thread] ++ List.replicate 5 .stop ++ [.thread]

theorem exists_stopBeforeBlock : ∃ trace final,
    (levelPersistence fun _ => none).Run (.initial fun _ => none) trace final ∧ Hung final := by
  obtain ⟨trace, final, played, hung⟩ : ∃ trace final,
      (levelPersistence fun _ => none).play (.initial fun _ => none) stopBeforeBlock =
        some (final, trace) ∧ Hung final :=
    ⟨_, _, rfl, rfl, rfl, rfl, rfl, fun caller =>
      show SetLevelPhase.idle ≠ .notifying ∧ SetLevelPhase.idle ≠ .raisingPending ∧
        ∀ port level, SetLevelPhase.idle ≠ .caching port level by simp⟩
  exact ⟨trace, final, Machine.play_run played, hung⟩

theorem not_noLostWakeUp :
    ¬∀ (trace : List LevelStep) (final : LevelState),
      (levelPersistence fun _ => none).Run (.initial fun _ => none) trace final →
      NoLostWakeUp final := by
  intro never
  obtain ⟨trace, final, run, hung⟩ := exists_stopBeforeBlock
  have notifies := (never trace final run).joins hung.joining hung.blocked
  rcases notifies with ⟨caller, notifying⟩ | raising | notifying
  · exact (hung.silent caller).1 notifying
  · simp [hung.joining] at raising
  · simp [hung.joining] at notifying

end DeviceSettings.Audio
