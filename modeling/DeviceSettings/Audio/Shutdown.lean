import DeviceSettings.Audio.Coalescing

/-!
# Stopping the persist thread

`stopAudioLevelPersistThread` clears the alive flag and joins the thread, which tests the flag
between its wait and its pass and leaves without writing. A level that waits in a cache at that
moment is written only by a pass that is under way already.
-/

namespace DeviceSettings.Audio

open DeviceSettings.Std

/-- The stop clears the alive flag. -/
def ClearsAlive (occurrence : LevelStep) : Prop :=
  occurrence.action = .stop ∧ occurrence.before.stopper = .clearingAlive

/-- The level of the port is being written; or the pass under way is still to compare the port
and remembers another level; or the store has the level, and the pass is not about to overwrite
it. -/
def Saves (port : LevelPort) (level : AudioLevel) (state : LevelState) : Prop :=
  state.thread.Writes port level ∨
    (port ∈ state.thread.ahead ∧ state.previous port ≠ level) ∨
    ((∀ other, ¬state.thread.Writes port other) ∧ state.stored port.key = some level)

/-- A pass comes to a port once. -/
def PersistPhase.Distinct : PersistPhase → Prop
  | .comparing remaining => remaining.Nodup
  | .writing port _ remaining => (port :: remaining).Nodup
  | _ => True

variable {defaults contents : String → Option AudioLevel} {before after state : LevelState}
  {action : LevelAction} {effects : List Persisted} {port : LevelPort} {level : AudioLevel}

theorem PersistPhase.Distinct.silent {phase next : PersistPhase} (distinct : phase.Distinct)
    (silent : PersistPhase.Silent state phase next) : next.Distinct := by
  cases silent with
  | delayed => exact LevelPort.nodup_persistOrder
  | differs found => exact distinct
  | agrees found => exact (List.nodup_cons.mp distinct).2
  | aliveTested => split_ifs <;> trivial
  | predicateTested => split_ifs <;> trivial
  | stopTested => split_ifs <;> trivial
  | sampled | blocks | compared => trivial

theorem distinct_step (distinct : before.thread.Distinct)
    (move : LevelMove defaults before action after) : after.thread.Distinct := by
  cases move with
  | advance next silent => exact distinct.silent silent
  | write written level remaining was =>
      rw [was] at distinct
      exact (List.nodup_cons.mp distinct).2
  | notify caller was =>
      obtain ⟨phase, notified, -, same | woken⟩ := before.exists_notifyOne <;> rw [notified]
      · rw [same]
        exact distinct
      · rw [woken]
        trivial
  | notifyToStop was =>
      obtain ⟨phase, notified, -, same | woken⟩ := before.exists_notifyOne <;> rw [notified]
      · rw [same]
        exact distinct
      · rw [woken]
        trivial
  | sample sampled remaining was => trivial
  | clearPending was => trivial
  | wakeSpuriously was => trivial
  | spawn was => trivial
  | _ => exact distinct

theorem distinct_run {trace : List LevelStep}
    (run : (levelPersistence defaults).Run (.initial contents) trace state) :
    state.thread.Distinct :=
  run.invariant trivial fun _ _ _ _ distinct taken => distinct_step distinct (levelMove taken)

/-! ### Behind the clearing -/

/-- The alive flag is cleared behind the last call, and the stop returns only from a thread
that is over. -/
structure Stopped (port : LevelPort) (level : AudioLevel) (state : LevelState) : Prop where
  done : state.initialiser = .done
  stopped : state.alive = false
  cached : state.cache port = level
  idle : ∀ caller, state.callers caller = .idle
  past : state.stopper.cleared = true ∨
    (state.stopper = .returned ∧ (state.thread = .exited ∨ state.thread = .notStarted))

/-- The thread passes from one place to another, neither of which is at the port. -/
theorem saves_withThread_iff {next : PersistPhase}
    (ahead : port ∈ next.ahead ↔ port ∈ state.thread.ahead)
    (writes : ∀ other, next.Writes port other ↔ state.thread.Writes port other) :
    Saves port level { state with thread := next } ↔ Saves port level state := by
  simp only [Saves, ahead, writes]

/-- Without the alive flag the thread starts no other pass. -/
theorem saves_advance_iff (stopped : state.alive = false) (cached : state.cache port = level)
    {next : PersistPhase} (silent : PersistPhase.Silent state state.thread next) :
    Saves port level { state with thread := next } ↔ Saves port level state := by
  generalize was : state.thread = phase at silent
  have onward : (port ∈ next.ahead ↔ port ∈ phase.ahead) →
      (∀ other, next.Writes port other ↔ phase.Writes port other) →
        (Saves port level { state with thread := next } ↔ Saves port level state) := by
    rw [← was]
    exact saves_withThread_iff
  cases silent with
  | @differs compared remaining found =>
      by_cases same : compared = port
      · subst same
        refine iff_of_true (.inl ⟨remaining, ?_⟩) (.inr (.inl ⟨?_, ?_⟩))
        · rw [← cached]
        · simp [was, PersistPhase.ahead]
        · exact fun same => found (cached.trans same.symm)
      · exact onward (by simp [PersistPhase.ahead, Ne.symm same])
          (by simp [PersistPhase.Writes, same])
  | @agrees compared remaining found =>
      by_cases same : compared = port
      · subst same
        have remembered : state.previous compared = level := found.symm.trans cached
        simp [Saves, was, PersistPhase.Writes, remembered]
      · exact onward (by simp [PersistPhase.ahead, Ne.symm same]) (by simp [PersistPhase.Writes])
  | aliveTested =>
      rw [stopped] at onward ⊢
      exact onward (by simp [PersistPhase.ahead]) (by simp [PersistPhase.Writes])
  | predicateTested =>
      rw [stopped] at onward ⊢
      exact onward (by simp [PersistPhase.ahead]) (by simp [PersistPhase.Writes])
  | stopTested =>
      rw [stopped] at onward ⊢
      exact onward (by simp [PersistPhase.ahead]) (by simp [PersistPhase.Writes])
  | sampled | blocks | delayed | compared =>
      exact onward (by simp [PersistPhase.ahead]) (by simp [PersistPhase.Writes])

/-- What is written of a port stands, as the pass does not come back to it. -/
theorem saves_write_iff (distinct : state.thread.Distinct) {written : LevelPort}
    {other : AudioLevel} {remaining : List LevelPort}
    (was : state.thread = .writing written other remaining) :
    Saves port level
        { state.persistHostProperty written other with
          previous := Function.update state.previous written other
          thread := .comparing remaining } ↔
      Saves port level state := by
  by_cases same : written = port
  · subst same
    have past : written ∉ remaining := by
      rw [was] at distinct
      exact (List.nodup_cons.mp distinct).1
    simp [Saves, was, PersistPhase.Writes, PersistPhase.ahead, past,
      LevelState.persistHostProperty]
  · have apart : port.key ≠ written.key := fun equal => same (LevelPort.key_inj.mp equal).symm
    simp [Saves, was, PersistPhase.Writes, PersistPhase.ahead, same, Function.update_of_ne apart,
      Function.update_of_ne (Ne.symm same), LevelState.persistHostProperty]

theorem saves_notifyOne_iff : Saves port level state.notifyOne ↔ Saves port level state := by
  unfold LevelState.notifyOne
  split_ifs with blocked
  · exact saves_withThread_iff (by simp [blocked, PersistPhase.ahead])
      (by simp [blocked, PersistPhase.Writes])
  · exact Iff.rfl

/-- Behind the clearing of the flag no step changes what will be saved. -/
theorem Stopped.step (stopped : Stopped port level before) (distinct : before.thread.Distinct)
    (inService : InService ⟨before, action, effects, after⟩)
    (move : LevelMove defaults before action after) :
    Stopped port level after ∧ (Saves port level after ↔ Saves port level before) := by
  obtain ⟨done, gone, cached, idle, past⟩ := id stopped
  -- a thread that is over takes no step
  have still : ∀ {next : PersistPhase}, before.thread ≠ .exited → before.thread ≠ .notStarted →
      Stopped port level { before with thread := next } := by
    intro next running started
    refine ⟨done, gone, cached, idle, past.imp id ?_⟩
    rintro ⟨-, ended⟩
    exact absurd ended (not_or.mpr ⟨running, started⟩)
  cases move with
  | begin caller portType level' was =>
      have notCalled : before.stopper = .notCalled := (inService caller).2
      simp [notCalled, StopPhase.cleared] at past
  | ignore caller portType level' was other => exact absurd (was.symm.trans (idle caller)) (by simp)
  | goCaching caller portType level' other was found alive =>
      exact absurd (was.symm.trans (idle caller)) (by simp)
  | goPersisting caller portType level' other was found alive =>
      exact absurd (was.symm.trans (idle caller)) (by simp)
  | fillCache caller other level' was => exact absurd (was.symm.trans (idle caller)) (by simp)
  | raisePending caller was => exact absurd (was.symm.trans (idle caller)) (by simp)
  | notify caller was => exact absurd (was.symm.trans (idle caller)) (by simp)
  | persist caller other level' was => exact absurd (was.symm.trans (idle caller)) (by simp)
  | sample sampled remaining was =>
      have moved : Stopped port level { before with thread := .sampling remaining } :=
        still (by simp [was]) (by simp [was])
      refine ⟨⟨moved.done, moved.stopped, moved.cached, moved.idle, moved.past⟩, ?_⟩
      simp [Saves, was, PersistPhase.ahead, PersistPhase.Writes]
  | advance next silent =>
      refine ⟨still ?_ silent.started, saves_advance_iff gone cached silent⟩
      intro ended
      rw [ended] at silent
      cases silent
  | clearPending was =>
      have moved : Stopped port level { before with thread := .delaying } :=
        still (by simp [was]) (by simp [was])
      refine ⟨⟨moved.done, moved.stopped, moved.cached, moved.idle, moved.past⟩, ?_⟩
      simp [Saves, was, PersistPhase.ahead, PersistPhase.Writes]
  | write written other remaining was =>
      have moved : Stopped port level { before with thread := .comparing remaining } :=
        still (by simp [was]) (by simp [was])
      exact ⟨⟨moved.done, moved.stopped, moved.cached, moved.idle, moved.past⟩,
        saves_write_iff distinct was⟩
  | wakeSpuriously was =>
      exact ⟨still (by simp [was]) (by simp [was]),
        saves_withThread_iff (by simp [was, PersistPhase.ahead])
          (by simp [was, PersistPhase.Writes])⟩
  | findAlive was alive => exact absurd (was.symm.trans done) (by simp)
  | findStopped was found => exact absurd (was.symm.trans done) (by simp)
  | raiseAlive was => exact absurd (was.symm.trans done) (by simp)
  | resetPending was => exact absurd (was.symm.trans done) (by simp)
  | spawn was => exact absurd (was.symm.trans done) (by simp)
  | fill other remaining was => exact absurd (was.symm.trans done) (by simp)
  | filled was => exact absurd (was.symm.trans done) (by simp)
  | callStop was => simp [was, StopPhase.cleared] at past
  | mayStop was alive => simp [was, StopPhase.cleared] at past
  | nothingToStop was found => simp [was, StopPhase.cleared] at past
  | clearAlive was => simp [was, StopPhase.cleared] at past
  | raisePendingToStop was => exact ⟨⟨done, gone, cached, idle, .inl rfl⟩, Iff.rfl⟩
  | notifyToStop was =>
      have same : Saves port level before.notifyOne ↔ Saves port level before :=
        saves_notifyOne_iff
      obtain ⟨phase, notified, -⟩ := before.exists_notifyOne
      rw [notified] at same ⊢
      exact ⟨⟨done, gone, cached, idle, .inl rfl⟩, same⟩
  | joined was ended => exact ⟨⟨done, gone, cached, idle, .inr ⟨rfl, ended⟩⟩, Iff.rfl⟩

/-- The step that clears the flag, in service. -/
theorem stopped_of_clearsAlive (serving : Serving before) (done : before.initialiser = .done)
    (cached : before.cache port = level)
    (clears : ClearsAlive ⟨before, action, effects, after⟩)
    (move : LevelMove defaults before action after) :
    Stopped port level after ∧ (Saves port level after ↔ Saves port level before) := by
  obtain ⟨act, clearing⟩ := clears
  dsimp only at act clearing
  subst act
  cases move with
  | clearAlive was =>
      exact ⟨⟨done, rfl, cached, serving.idle (.inr (by simp [was])), .inl rfl⟩, Iff.rfl⟩
  | callStop was => exact absurd (was.symm.trans clearing) (by simp)
  | mayStop was => exact absurd (was.symm.trans clearing) (by simp)
  | nothingToStop was => exact absurd (was.symm.trans clearing) (by simp)
  | raisePendingToStop was => exact absurd (was.symm.trans clearing) (by simp)
  | notifyToStop was => exact absurd (was.symm.trans clearing) (by simp)
  | joined was => exact absurd (was.symm.trans clearing) (by simp)

/-- A step behind the call of the stop sets no level. -/
theorem Serving.lastLevel_stopping (serving : Serving before)
    (stopping : before.stopper ≠ .notCalled) (move : LevelMove defaults before action after)
    (port : LevelPort) (trace : List LevelStep) :
    lastLevel port (trace ++ [⟨before, action, effects, after⟩]) = lastLevel port trace := by
  rw [lastLevel_snoc, setsLevel]
  rcases @Serving.setBy_step _ _ _ _ effects serving move with
    ⟨caller, other, set, -, -, running, -⟩ | ⟨sets, -⟩
  · exact absurd running stopping
  · rw [sets]

theorem stopper_of_move (move : LevelMove defaults before action after)
    (stopping : before.stopper ≠ .notCalled) : after.stopper ≠ .notCalled := by
  by_cases stops : action = .stop
  · subst stops
    cases move <;> simp
  · rw [move.stopper_eq stops]
    exact stopping

theorem stopping_of_clearsAlive {trace : List LevelStep}
    (run : (levelPersistence defaults).Run (.initial contents) trace state) :
    ∀ clears ∈ trace, ClearsAlive clears → state.stopper ≠ .notCalled := by
  induction run with
  | nil => simp
  | snoc prior taken ih =>
      intro clears member clearing
      refine stopper_of_move (levelMove taken) ?_
      rcases List.mem_append.mp member with old | new
      · exact ih clears old clearing
      · obtain rfl := List.mem_singleton.mp new
        exact fun same => absurd (same.symm.trans clearing.2) (by simp)

/-- From the clearing of the flag on, what it found decides what is saved. -/
theorem saves_run {trace : List LevelStep}
    (run : (levelPersistence defaults).Run (.initial contents) trace state)
    (inService : ∀ occurrence ∈ trace, InService occurrence)
    (last : lastLevel port trace = some level) :
    ∀ clears ∈ trace, ClearsAlive clears →
      Stopped port level state ∧ (Saves port level state ↔ Saves port level clears.before) := by
  induction run with
  | nil => simp
  | @snoc trace before action after effects prior taken ih =>
      have earlier : ∀ occurrence ∈ trace, InService occurrence := fun step member =>
        inService step (List.mem_append_left _ member)
      have here := inService _ (List.mem_append_right _ List.mem_cons_self)
      obtain ⟨serving, cached, -, -⟩ := serving_run port prior earlier
      have move := levelMove taken
      intro clears member clearing
      rcases List.mem_append.mp member with old | new
      · rw [serving.lastLevel_stopping (stopping_of_clearsAlive prior clears old clearing) move]
          at last
        obtain ⟨stopped, same⟩ := ih earlier last clears old clearing
        obtain ⟨still, kept⟩ := stopped.step (distinct_run prior) here move
        exact ⟨still, kept.trans same⟩
      · obtain rfl := List.mem_singleton.mp new
        have stopping : before.stopper ≠ .notCalled := fun same =>
          absurd (same.symm.trans clearing.2) (by simp)
        rw [serving.lastLevel_stopping stopping move] at last
        obtain ⟨done, held⟩ := cached level last
        exact stopped_of_clearsAlive serving done held clearing move

/-- A stop that has returned from a run with a call on the port has cleared the flag. -/
theorem exists_clearsAlive {trace : List LevelStep}
    (run : (levelPersistence defaults).Run (.initial contents) trace state)
    (inService : ∀ occurrence ∈ trace, InService occurrence)
    (last : lastLevel port trace = some level) :
    state.stopper.uncleared = true ∨ ∃ clears ∈ trace, ClearsAlive clears := by
  induction run with
  | nil => exact .inl rfl
  | @snoc trace before action after effects prior taken ih =>
      have earlier : ∀ occurrence ∈ trace, InService occurrence := fun step member =>
        inService step (List.mem_append_left _ member)
      obtain ⟨serving, cached, -, -⟩ := serving_run port prior earlier
      have move := levelMove taken
      by_cases notCalled : before.stopper = .notCalled
      · left
        by_cases stops : action = .stop
        · subst stops
          cases move with
          | callStop was => rfl
          | mayStop was alive => rfl
          | nothingToStop was | clearAlive was | raisePendingToStop was | notifyToStop was
          | joined was => exact absurd (was.symm.trans notCalled) (by simp)
        · rw [move.stopper_eq stops, notCalled]
          rfl
      · rw [serving.lastLevel_stopping notCalled move] at last
        rcases ih earlier last with uncleared | ⟨clears, member, clearing⟩
        · by_cases stops : action = .stop
          · subst stops
            cases move with
            | callStop was => exact absurd was notCalled
            | mayStop was alive => exact .inl rfl
            | clearAlive was =>
                exact .inr ⟨_, List.mem_append_right _ List.mem_cons_self, rfl, was⟩
            | nothingToStop was stopped =>
                have alive := serving.flag.running (by rw [(cached level last).1]; rfl) uncleared
                exact absurd alive (by simp [stopped])
            | raisePendingToStop was | notifyToStop was | joined was =>
                simp [was, StopPhase.uncleared] at uncleared
          · rw [move.stopper_eq stops]
            exact .inl uncleared
        · exact .inr ⟨clears, List.mem_append_left _ member, clearing⟩

/-! ### The law -/

/-- When the stop has returned, the store has the last level of a port exactly when the clearing
of the alive flag found it stored, being written, or still to be compared and different. -/
theorem stored_after_stop_iff {defaults contents : String → Option AudioLevel}
    {state : LevelState} {trace : List LevelStep}
    (run : (levelPersistence defaults).Run (.initial contents) trace state)
    (inService : ∀ occurrence ∈ trace, InService occurrence)
    (returned : state.stopper = .returned) {port : LevelPort} {level : AudioLevel}
    (last : lastLevel port trace = some level) :
    state.stored port.key = some level ↔
      ∀ clears ∈ trace, ClearsAlive clears → Saves port level clears.before := by
  have settled : ∀ clears ∈ trace, ClearsAlive clears →
      (state.stored port.key = some level ↔ Saves port level clears.before) := by
    intro clears member clearing
    obtain ⟨stopped, same⟩ := saves_run run inService last clears member clearing
    refine Iff.trans ?_ same
    have ended : state.thread = .exited ∨ state.thread = .notStarted := by
      rcases stopped.past with cleared | ⟨-, ended⟩
      · simp [returned, StopPhase.cleared] at cleared
      · exact ended
    rcases ended with exited | unstarted
    · simp [Saves, exited, PersistPhase.Writes, PersistPhase.ahead]
    · simp [Saves, unstarted, PersistPhase.Writes, PersistPhase.ahead]
  constructor
  · intro stored clears member clearing
    exact (settled clears member clearing).mp stored
  · intro saves
    rcases exists_clearsAlive run inService last with uncleared | ⟨clears, member, clearing⟩
    · simp [returned, StopPhase.uncleared] at uncleared
    · exact (settled clears member clearing).mpr (saves clears member clearing)

/-- A call on the speaker, some steps of the thread, and the destructor. -/
def setThenStop (steps : Nat) : List LevelAction :=
  bootThenWait ++ setSpeaker 50 steps ++ List.replicate 5 .stop ++ List.replicate 2 .thread ++
    [.stop]

/-- The stop has returned behind a call on the speaker. -/
structure StoppedSpeaker (trace : List LevelStep) (state : LevelState) : Prop where
  inService : ∀ occurrence ∈ trace, InService occurrence
  returned : state.stopper = .returned
  last : lastLevel .speaker trace = some 50

theorem exists_stoppedSpeaker : ∃ trace state,
    (levelPersistence fun _ => none).Run (.initial fun _ => none) trace state ∧
      StoppedSpeaker trace state := by
  obtain ⟨state, trace, played, checked, returned, last⟩ : ∃ state trace,
      (levelPersistence fun _ => none).play (.initial fun _ => none) (setThenStop 13) =
        some (state, trace) ∧ (∀ caller, ∀ occurrence ∈ trace, InServiceFor caller occurrence) ∧
          state.stopper = .returned ∧ lastLevel .speaker trace = some 50 :=
    ⟨_, _, rfl, fun caller => of_decide_eq_true (by cases caller <;> rfl), rfl, by rfl⟩
  exact ⟨trace, state, Machine.play_run played,
    fun occurrence member caller => checked caller occurrence member, returned, last⟩

theorem stored_after_stop_iff_speaker : ∃ (trace : List LevelStep) (state : LevelState),
    lastLevel .speaker trace = some 50 ∧
      (state.stored "SPEAKER0.audio.Level" = some 50 ↔
        ∀ clears ∈ trace, ClearsAlive clears → Saves .speaker 50 clears.before) := by
  obtain ⟨trace, state, run, stopped⟩ := exists_stoppedSpeaker
  exact ⟨trace, state, stopped.last,
    stored_after_stop_iff run stopped.inService stopped.returned stopped.last⟩

/-- The destructor comes right behind the call. -/
theorem exists_stoppedSpeaker_unstored : ∃ trace state,
    (levelPersistence fun _ => none).Run (.initial fun _ => none) trace state ∧
      StoppedSpeaker trace state ∧ state.stored "SPEAKER0.audio.Level" = none := by
  obtain ⟨state, trace, played, checked, returned, last, stored⟩ : ∃ state trace,
      (levelPersistence fun _ => none).play (.initial fun _ => none) (setThenStop 0) =
        some (state, trace) ∧ (∀ caller, ∀ occurrence ∈ trace, InServiceFor caller occurrence) ∧
          state.stopper = .returned ∧ lastLevel .speaker trace = some 50 ∧
            state.stored "SPEAKER0.audio.Level" = none :=
    ⟨_, _, rfl, fun caller => of_decide_eq_true (by cases caller <;> rfl), rfl, by rfl, rfl⟩
  exact ⟨trace, state, Machine.play_run played,
    ⟨fun occurrence member caller => checked caller occurrence member, returned, last⟩, stored⟩

theorem not_stored_after_stop :
    ¬∀ (contents : String → Option AudioLevel) (trace : List LevelStep) (state : LevelState),
      (levelPersistence fun _ => none).Run (.initial contents) trace state →
      (∀ occurrence ∈ trace, InService occurrence) → state.stopper = .returned →
      ∀ port level, lastLevel port trace = some level →
        (LevelState.initial contents).configuredLevel (fun _ => none) port ≠ level →
        state.stored port.key = some level := by
  intro always
  obtain ⟨trace, state, run, stopped, stored⟩ := exists_stoppedSpeaker_unstored
  have saved := always _ trace state run stopped.inService stopped.returned .speaker 50
    stopped.last (by decide)
  exact absurd (stored.symm.trans saved) (by simp)

end DeviceSettings.Audio
