import DeviceSettings.Controller.Threads
import Mathlib.Data.List.Count
import Mathlib.Data.Set.Basic

/-!
# TuneReady against connect

`EventHandler` wakes the resolution thread without writing the slot it waits for, so a
CONNECTED event that was tested before TuneReady is never looked at again. Whether the
resolution is set depends on that one test; the audio mode is set in any case.
-/

namespace DeviceSettings.Controller

open DeviceSettings.Std

/-- The two operations a connect and TuneReady are to bring about. -/
inductive Operation where
  | setVideoPortResolution
  | setAudioMode
  deriving DecidableEq, Repr

def Effect.operation : Effect → Option Operation
  | .setVideoPortResolution _ => some .setVideoPortResolution
  | .setAudioMode _ => some .setAudioMode
  | _ => none

/-- A callback has been delivered in the trace. -/
def WasDelivered (action : ControllerAction) (trace : List ControllerStep) : Prop :=
  ∃ occurrence ∈ trace, occurrence.action = action

/-- The operations started after both TUNEREADY and CONNECTED were delivered. -/
def performedAfterBoth (trace : List ControllerStep) : Set Operation :=
  { operation | ∃ earlier occurrence later, trace = earlier ++ occurrence :: later ∧
      (∃ effect ∈ occurrence.effects, effect.operation = some operation) ∧
      WasDelivered .tuneReady earlier ∧ WasDelivered (.hotPlug .connected) earlier }

/-- The thread's test for CONNECTED finds `_tuneReady` set. -/
def TestsTuned (occurrence : ControllerStep) : Prop :=
  occurrence.action = .resolutionThread ∧
    occurrence.before.resolutionThread = .testing .connected ∧
    occurrence.before.tuneReady = true

instance (occurrence : ControllerStep) : Decidable (TestsTuned occurrence) :=
  inferInstanceAs (Decidable (_ ∧ _ ∧ _))

/-- Some test for CONNECTED in the trace finds `_tuneReady` set. -/
def TestedTuned (trace : List ControllerStep) : Prop := ∃ occurrence ∈ trace, TestsTuned occurrence

instance (trace : List ControllerStep) : Decidable (TestedTuned trace) :=
  inferInstanceAs (Decidable (∃ occurrence ∈ trace, TestsTuned occurrence))

theorem wasDelivered_snoc {action : ControllerAction} {trace : List ControllerStep}
    {occurrence : ControllerStep} :
    WasDelivered action (trace ++ [occurrence]) ↔
      WasDelivered action trace ∨ occurrence.action = action := by
  simp only [WasDelivered, List.mem_append, List.mem_singleton, or_and_right, exists_or,
    exists_eq_left]

theorem testedTuned_snoc {trace : List ControllerStep} {occurrence : ControllerStep} :
    TestedTuned (trace ++ [occurrence]) ↔ TestedTuned trace ∨ TestsTuned occurrence := by
  simp only [TestedTuned, List.mem_append, List.mem_singleton, or_and_right, exists_or,
    exists_eq_left]

theorem mem_performedAfterBoth_snoc {operation : Operation} {trace : List ControllerStep}
    {occurrence : ControllerStep} :
    operation ∈ performedAfterBoth (trace ++ [occurrence]) ↔
      operation ∈ performedAfterBoth trace ∨
        ((∃ effect ∈ occurrence.effects, effect.operation = some operation) ∧
          WasDelivered .tuneReady trace ∧ WasDelivered (.hotPlug .connected) trace) := by
  constructor
  · rintro ⟨earlier, found, later, split, started, tuned, connected⟩
    rcases snoc_eq_append_cons_iff.mp split with ⟨rfl, rfl, rfl⟩ | ⟨front, rfl, rfl⟩
    · exact Or.inr ⟨started, tuned, connected⟩
    · exact Or.inl ⟨earlier, found, front, rfl, started, tuned, connected⟩
  · rintro (⟨earlier, found, later, rfl, started, tuned, connected⟩ | ⟨started, tuned, connected⟩)
    · exact ⟨earlier, found, later ++ [occurrence], by simp, started, tuned, connected⟩
    · exact ⟨trace, occurrence, [], rfl, started, tuned, connected⟩

/-- HDCP is authenticated, nothing is under way and TuneReady has not come. -/
structure Armed (state : ControllerState) : Prop where
  untuned : state.tuneReady = false
  authenticated : state.hdcpAuthenticated = true
  empty : state.displayEventStatus = .max
  running : state.exitFlag = false
  noTimer : state.scheduled = []
  waiting : state.resolutionThread = .waiting
  eventIdle : state.eventHandler = .idle
  hdcpIdle : state.hdcpHandler = .idle
  mainIdle : state.mainLoop = .idle

/-- HDMI stays connected, HDCP stays as it is and the controller is not stopped. -/
def ControllerAction.undisturbing : ControllerAction → Bool
  | .hotPlug .disconnected | .hdcpStatus _ | .stop => false
  | _ => true

/-- At most one TUNEREADY and one CONNECTED event and no other callback. -/
structure AtMostOnce (trace : List ControllerStep) : Prop where
  tuneReady : (Machine.actionsOf trace).count .tuneReady ≤ 1
  connected : (Machine.actionsOf trace).count (.hotPlug .connected) ≤ 1
  undisturbed : ∀ action ∈ Machine.actionsOf trace, action.undisturbing = true

theorem AtMostOnce.prior {trace : List ControllerStep} {occurrence : ControllerStep}
    (once : AtMostOnce (trace ++ [occurrence])) : AtMostOnce trace := by
  obtain ⟨tuneReady, connected, undisturbed⟩ := once
  simp only [Machine.actionsOf_append, List.count_append, List.mem_append] at *
  exact ⟨by omega, by omega, fun action member => undisturbed action (Or.inl member)⟩

theorem not_wasDelivered_of_count {action : ControllerAction} {trace : List ControllerStep}
    {occurrence : ControllerStep}
    (once : (Machine.actionsOf (trace ++ [occurrence])).count action ≤ 1)
    (same : occurrence.action = action) : ¬WasDelivered action trace := by
  rintro ⟨first, member, firstSame⟩
  have positive : 0 < (Machine.actionsOf trace).count action := by
    rw [List.count_pos_iff, ← firstSame]
    exact List.mem_map_of_mem member
  rw [Machine.actionsOf_append, Machine.actionsOf_singleton, same, List.count_append,
    List.count_singleton_self] at once
  omega

theorem wasDelivered_of_performed {operation : Operation} {trace : List ControllerStep}
    (performed : operation ∈ performedAfterBoth trace) :
    WasDelivered (.hotPlug .connected) trace := by
  obtain ⟨earlier, _, later, rfl, -, -, occurrence, member, same⟩ := performed
  exact ⟨occurrence, List.mem_append_left _ member, same⟩

/-- The reader has dealt with the CONNECTED event, or is about to empty the slot. -/
def ReaderDone (state : ControllerState) : Prop :=
  (state.displayEventStatus = .connected ∧ state.resolutionThread = .resetting .connected) ∨
    (state.displayEventStatus = .max ∧ state.resolutionThread = .waiting)

/-- How far the CONNECTED event has come, and what that has brought about. -/
inductive Progress (trace : List ControllerStep) (state : ControllerState) : Prop where
  | unposted (notYet : ¬WasDelivered (.hotPlug .connected) trace)
      (empty : state.displayEventStatus = .max) (reader : state.resolutionThread = .waiting)
      (untested : ¬TestedTuned trace)
  | pending (delivered : WasDelivered (.hotPlug .connected) trace)
      (full : state.displayEventStatus = .connected)
      (reader : state.resolutionThread = .waiting ∨
        state.resolutionThread = .clearingSource .connected ∨
        state.resolutionThread = .testing .connected)
      (untested : ¬TestedTuned trace)
      (notSet : .setVideoPortResolution ∉ performedAfterBoth trace)
  | settingResolution (delivered : WasDelivered (.hotPlug .connected) trace)
      (full : state.displayEventStatus = .connected)
      (reader : state.resolutionThread = .settingResolution .connected)
      (tuned : WasDelivered .tuneReady trace) (tested : TestedTuned trace)
  | settingAudio (delivered : WasDelivered (.hotPlug .connected) trace)
      (full : state.displayEventStatus = .connected)
      (reader : state.resolutionThread = .settingAudio .connected)
      (tuned : WasDelivered .tuneReady trace) (tested : TestedTuned trace)
      (resolution : .setVideoPortResolution ∈ performedAfterBoth trace)
  | tunedDone (delivered : WasDelivered (.hotPlug .connected) trace)
      (reader : ReaderDone state) (tested : TestedTuned trace)
      (resolution : .setVideoPortResolution ∈ performedAfterBoth trace)
      (audio : .setAudioMode ∈ performedAfterBoth trace)
  | untunedDone (delivered : WasDelivered (.hotPlug .connected) trace)
      (reader : ReaderDone state) (untested : ¬TestedTuned trace)
      (notSet : .setVideoPortResolution ∉ performedAfterBoth trace)
      (audio : WasDelivered .tuneReady trace →
        state.eventHandler = .settingAudio ∨ .setAudioMode ∈ performedAfterBoth trace)

/-- What holds while only the two events are at work. -/
structure Engaged (trace : List ControllerStep) (state : ControllerState) : Prop where
  authenticated : state.hdcpAuthenticated = true
  running : state.exitFlag = false
  noTimer : state.scheduled = []
  hdcpIdle : state.hdcpHandler = .idle
  mainIdle : state.mainLoop = .idle
  tuned : state.tuneReady = true ↔ WasDelivered .tuneReady trace
  progress : Progress trace state

theorem Armed.engaged {state : ControllerState} (armed : Armed state) : Engaged [] state where
  authenticated := armed.authenticated
  running := armed.running
  noTimer := armed.noTimer
  hdcpIdle := armed.hdcpIdle
  mainIdle := armed.mainIdle
  tuned := by simp [armed.untuned, WasDelivered]
  progress := .unposted (by simp [WasDelivered]) armed.empty armed.waiting (by simp [TestedTuned])

/-- A step of another thread that starts no operation leaves the reader's progress. -/
theorem Progress.frame {trace : List ControllerStep} {before after : ControllerState}
    {action : ControllerAction} {effects : List Effect} (progress : Progress trace before)
    (notReader : action ≠ .resolutionThread) (notConnect : action ≠ .hotPlug .connected)
    (slot : after.displayEventStatus = before.displayEventStatus)
    (reader : after.resolutionThread = before.resolutionThread)
    (quiet : ∀ effect ∈ effects, effect.operation ≠ some .setVideoPortResolution)
    (audio : WasDelivered (.hotPlug .connected) trace →
      (WasDelivered .tuneReady trace →
        before.eventHandler = .settingAudio ∨ .setAudioMode ∈ performedAfterBoth trace) →
      WasDelivered .tuneReady (trace ++ [⟨before, action, effects, after⟩]) →
        after.eventHandler = .settingAudio ∨
          .setAudioMode ∈ performedAfterBoth (trace ++ [⟨before, action, effects, after⟩])) :
    Progress (trace ++ [⟨before, action, effects, after⟩]) after := by
  have connects : WasDelivered (.hotPlug .connected) (trace ++ [⟨before, action, effects, after⟩])
      ↔ WasDelivered (.hotPlug .connected) trace := by
    simp [wasDelivered_snoc, notConnect]
  have tests : TestedTuned (trace ++ [⟨before, action, effects, after⟩]) ↔
      TestedTuned trace := by
    simp [testedTuned_snoc, TestsTuned, notReader]
  have sets : .setVideoPortResolution ∈
      performedAfterBoth (trace ++ [⟨before, action, effects, after⟩]) ↔
        .setVideoPortResolution ∈ performedAfterBoth trace := by
    rw [mem_performedAfterBoth_snoc]
    refine or_iff_left fun started => ?_
    obtain ⟨⟨effect, member, same⟩, -⟩ := started
    exact quiet effect member same
  have tunedStays : WasDelivered .tuneReady trace →
      WasDelivered .tuneReady (trace ++ [⟨before, action, effects, after⟩]) :=
    fun tuned => wasDelivered_snoc.mpr (Or.inl tuned)
  have audioStays : .setAudioMode ∈ performedAfterBoth trace →
      .setAudioMode ∈ performedAfterBoth (trace ++ [⟨before, action, effects, after⟩]) :=
    fun performed => mem_performedAfterBoth_snoc.mpr (Or.inl performed)
  have done : ReaderDone before → ReaderDone after := by
    unfold ReaderDone
    rw [slot, reader]
    exact id
  cases progress with
  | unposted notYet empty at_ untested =>
      exact .unposted (connects.not.mpr notYet) (slot.trans empty) (reader.trans at_)
        (tests.not.mpr untested)
  | pending delivered full at_ untested notSet =>
      exact .pending (connects.mpr delivered) (slot.trans full) (by rwa [reader])
        (tests.not.mpr untested) (sets.not.mpr notSet)
  | settingResolution delivered full at_ tuned tested =>
      exact .settingResolution (connects.mpr delivered) (slot.trans full) (reader.trans at_)
        (tunedStays tuned) (tests.mpr tested)
  | settingAudio delivered full at_ tuned tested resolution =>
      exact .settingAudio (connects.mpr delivered) (slot.trans full) (reader.trans at_)
        (tunedStays tuned) (tests.mpr tested) (sets.mpr resolution)
  | tunedDone delivered at_ tested resolution performed =>
      exact .tunedDone (connects.mpr delivered) (done at_) (tests.mpr tested)
        (sets.mpr resolution) (audioStays performed)
  | untunedDone delivered at_ untested notSet pendingAudio =>
      exact .untunedDone (connects.mpr delivered) (done at_) (tests.not.mpr untested)
        (sets.not.mpr notSet) (audio delivered pendingAudio)

/-- The reader's next step, by how far the CONNECTED event has come. -/
theorem Progress.read {platform : Platform} {trace : List ControllerStep}
    {before after : ControllerState} {effects : List Effect} (progress : Progress trace before)
    (authenticated : before.hdcpAuthenticated = true) (running : before.exitFlag = false)
    (tuned : before.tuneReady = true ↔ WasDelivered .tuneReady trace)
    (taken : before.resolutionStep platform = some (after, effects)) :
    Progress (trace ++ [⟨before, .resolutionThread, effects, after⟩]) after := by
  have tunedStays : ∀ {occurrence : ControllerStep}, WasDelivered .tuneReady trace →
      WasDelivered .tuneReady (trace ++ [occurrence]) :=
    fun tuned => wasDelivered_snoc.mpr (Or.inl tuned)
  have connects : ∀ {occurrence : ControllerStep}, WasDelivered (.hotPlug .connected) trace →
      WasDelivered (.hotPlug .connected) (trace ++ [occurrence]) :=
    fun delivered => wasDelivered_snoc.mpr (Or.inl delivered)
  have tests : ∀ {occurrence : ControllerStep}, TestedTuned trace →
      TestedTuned (trace ++ [occurrence]) := fun tested => testedTuned_snoc.mpr (Or.inl tested)
  cases progress with
  | unposted notYet empty reader untested =>
      simp [ControllerState.resolutionStep, reader, running, empty] at taken
  | pending delivered full reader untested notSet =>
      rcases reader with reader | reader | reader
      · simp only [ControllerState.resolutionStep, reader, running, full] at taken
        cases taken
        refine .pending (connects delivered) rfl (Or.inr (Or.inl rfl)) ?_ ?_
        · simp [testedTuned_snoc, TestsTuned, untested, reader]
        · simp [mem_performedAfterBoth_snoc, notSet]
      · simp only [ControllerState.resolutionStep, reader] at taken
        cases taken
        refine .pending (connects delivered) (by simpa using full) (Or.inr (Or.inr rfl)) ?_ ?_
        · simp [testedTuned_snoc, TestsTuned, untested, reader]
        · simp [mem_performedAfterBoth_snoc, notSet]
      · cases ready : before.tuneReady with
        | true =>
            simp only [ControllerState.resolutionStep, reader, ready] at taken
            cases taken
            refine .settingResolution (connects delivered) full rfl
              (tunedStays (tuned.mp ready)) (testedTuned_snoc.mpr (Or.inr ?_))
            exact ⟨rfl, reader, ready⟩
        | false =>
            have untuned : ¬WasDelivered .tuneReady trace := fun delivered => by
              rw [tuned.mpr delivered] at ready
              cases ready
            simp only [ControllerState.resolutionStep, reader, ready] at taken
            cases taken
            refine .untunedDone (connects delivered) (Or.inl ⟨full, rfl⟩) ?_ ?_ ?_
            · simp [testedTuned_snoc, TestsTuned, untested, ready]
            · simp [mem_performedAfterBoth_snoc, notSet]
            · simp [wasDelivered_snoc, untuned]
  | settingResolution delivered full reader tunedNow tested =>
      simp only [ControllerState.resolutionStep, reader, authenticated] at taken
      cases taken
      refine .settingAudio (connects delivered) full rfl (tunedStays tunedNow) (tests tested)
        (mem_performedAfterBoth_snoc.mpr (Or.inr ⟨?_, tunedNow, delivered⟩))
      exact ⟨_, List.mem_cons_self, rfl⟩
  | settingAudio delivered full reader tunedNow tested resolution =>
      simp only [ControllerState.resolutionStep, reader] at taken
      cases taken
      refine .tunedDone (connects delivered) (Or.inl ⟨full, rfl⟩) (tests tested)
        (mem_performedAfterBoth_snoc.mpr (Or.inl resolution))
        (mem_performedAfterBoth_snoc.mpr (Or.inr ⟨?_, tunedNow, delivered⟩))
      exact ⟨_, List.mem_cons_self, rfl⟩
  | tunedDone delivered reader tested resolution performed =>
      rcases reader with ⟨full, reader⟩ | ⟨empty, reader⟩
      · simp only [ControllerState.resolutionStep, reader] at taken
        cases taken
        exact .tunedDone (connects delivered) (Or.inr ⟨rfl, rfl⟩) (tests tested)
          (mem_performedAfterBoth_snoc.mpr (Or.inl resolution))
          (mem_performedAfterBoth_snoc.mpr (Or.inl performed))
      · simp [ControllerState.resolutionStep, reader, running, empty] at taken
  | untunedDone delivered reader untested notSet audio =>
      rcases reader with ⟨full, reader⟩ | ⟨empty, reader⟩
      · simp only [ControllerState.resolutionStep, reader] at taken
        cases taken
        refine .untunedDone (connects delivered) (Or.inr ⟨rfl, rfl⟩) ?_ ?_ fun tunedLater => ?_
        · simp [testedTuned_snoc, TestsTuned, untested, reader]
        · simp [mem_performedAfterBoth_snoc, notSet]
        · have tunedNow : WasDelivered .tuneReady trace := by
            simpa [wasDelivered_snoc] using tunedLater
          exact (audio tunedNow).imp_right fun performed =>
            mem_performedAfterBoth_snoc.mpr (Or.inl performed)
      · simp [ControllerState.resolutionStep, reader, running, empty] at taken

/-- The phases that only a DISCONNECTED event reaches. -/
def Dropping (phase : ResolutionPhase) : Prop :=
  ∃ event, phase = .droppingHdcp event ∨ phase = .schedulingHandler event

theorem Progress.notDropping {trace : List ControllerStep} {state : ControllerState}
    (progress : Progress trace state) : ¬Dropping state.resolutionThread := by
  cases progress with
  | unposted _ _ reader => simp [Dropping, reader]
  | pending _ _ reader => rcases reader with reader | reader | reader <;> simp [Dropping, reader]
  | settingResolution _ _ reader => simp [Dropping, reader]
  | settingAudio _ _ reader => simp [Dropping, reader]
  | tunedDone _ reader | untunedDone _ reader =>
      rcases reader with ⟨-, reader⟩ | ⟨-, reader⟩ <;> simp [Dropping, reader]

/-- For a CONNECTED event the reader neither drops HDCP nor schedules a timer. -/
theorem resolutionStep_connected {platform : Platform} {before after : ControllerState}
    {effects : List Effect} (taken : before.resolutionStep platform = some (after, effects))
    (connected : ¬Dropping before.resolutionThread) (noTimer : before.scheduled = []) :
    after.hdcpAuthenticated = before.hdcpAuthenticated ∧ after.scheduled = [] := by
  cases at_ : before.resolutionThread with
  | waiting =>
      simp only [ControllerState.resolutionStep, at_] at taken
      split_ifs at taken
      cases taken
      exact ⟨rfl, noTimer⟩
  | clearingSource event =>
      simp only [ControllerState.resolutionStep, at_] at taken
      cases taken
      exact ⟨by simp, ControllerState.clearHotplugSource_scheduled noTimer⟩
  | testing event =>
      simp only [ControllerState.resolutionStep, at_] at taken
      split_ifs at taken <;> cases taken <;> exact ⟨rfl, noTimer⟩
  | settingResolution event | settingAudio event | resetting event =>
      simp only [ControllerState.resolutionStep, at_] at taken
      cases taken
      exact ⟨rfl, noTimer⟩
  | droppingHdcp event => exact absurd ⟨event, Or.inl at_⟩ connected
  | schedulingHandler event => exact absurd ⟨event, Or.inr at_⟩ connected
  | exited => simp [ControllerState.resolutionStep, at_] at taken

/-- One step of a run in which each event occurs at most once. -/
theorem Engaged.step {platform : Platform} {trace : List ControllerStep}
    {before after : ControllerState} {action : ControllerAction} {effects : List Effect}
    (engaged : Engaged trace before)
    (taken : (controller platform).step before action = some (after, effects))
    (once : AtMostOnce (trace ++ [⟨before, action, effects, after⟩])) :
    Engaged (trace ++ [⟨before, action, effects, after⟩]) after := by
  obtain ⟨authenticated, running, noTimer, hdcpIdle, mainIdle, tuned, progress⟩ := engaged
  have allowed : action.undisturbing = true := once.undisturbed action (by simp)
  cases action with
  | hotPlug event =>
      cases event with
      | disconnected => cases allowed
      | connected =>
          have notYet : ¬WasDelivered (.hotPlug .connected) trace :=
            not_wasDelivered_of_count once.connected rfl
          have notSet : .setVideoPortResolution ∉ performedAfterBoth trace :=
            fun performed => notYet (wasDelivered_of_performed performed)
          cases taken
          refine ⟨authenticated, running, noTimer, hdcpIdle, mainIdle,
            by simpa [wasDelivered_snoc] using tuned, ?_⟩
          cases progress with
          | unposted _ empty reader untested =>
              refine .pending (by simp [wasDelivered_snoc]) rfl (Or.inl reader) ?_ ?_
              · simp [testedTuned_snoc, TestsTuned, untested]
              · simp [mem_performedAfterBoth_snoc, notSet, notYet]
          | pending delivered => exact absurd delivered notYet
          | settingResolution delivered => exact absurd delivered notYet
          | settingAudio delivered => exact absurd delivered notYet
          | tunedDone delivered => exact absurd delivered notYet
          | untunedDone delivered => exact absurd delivered notYet
  | tuneReady =>
      have notYet : ¬WasDelivered .tuneReady trace :=
        not_wasDelivered_of_count once.tuneReady rfl
      have untuned : before.tuneReady = false := by simpa [notYet] using tuned
      simp only [controller, ControllerState.step, ControllerState.onTuneReady, untuned,
        Bool.false_eq_true, ↓reduceIte] at taken
      split_ifs at taken with idle
      cases taken
      refine ⟨authenticated, running, noTimer, hdcpIdle, mainIdle,
        by simp [wasDelivered_snoc], ?_⟩
      exact progress.frame (by simp) (by simp) rfl rfl (by simp) fun _ _ _ => Or.inl rfl
  | hdcpStatus status => cases allowed
  | stop => cases allowed
  | resolutionThread =>
      have progressed := progress.read authenticated running tuned taken
      obtain ⟨sameHdcp, stillNoTimer⟩ :=
        resolutionStep_connected taken progress.notDropping noTimer
      obtain ⟨sameTune, sameExit, sameHandler, sameMain⟩ :=
        ControllerState.resolutionStep_frame taken
      exact ⟨sameHdcp.trans authenticated, sameExit.trans running, stillNoTimer,
        sameHandler.trans hdcpIdle, sameMain.trans mainIdle,
        by simpa [wasDelivered_snoc, sameTune] using tuned, progressed⟩
  | resolutionExit =>
      simp [controller, ControllerState.step, ControllerState.resolutionExit, running] at taken
  | eventHandler =>
      cases at_ : before.eventHandler with
      | idle =>
          simp [controller, ControllerState.step, ControllerState.eventHandlerStep, at_] at taken
      | settingAudio =>
          simp only [controller, ControllerState.step, ControllerState.eventHandlerStep, at_]
            at taken
          cases taken
          refine ⟨authenticated, running, noTimer, hdcpIdle, mainIdle,
            by simpa [wasDelivered_snoc] using tuned, ?_⟩
          refine progress.frame (by simp) (by simp) rfl rfl (by simp [Effect.operation])
            fun connected _ tunedNow => Or.inr ?_
          have tunedBefore : WasDelivered .tuneReady trace := by
            simpa [wasDelivered_snoc] using tunedNow
          refine mem_performedAfterBoth_snoc.mpr (Or.inr ⟨?_, tunedBefore, connected⟩)
          exact ⟨_, List.mem_cons_self, rfl⟩
      | signalling =>
          simp only [controller, ControllerState.step, ControllerState.eventHandlerStep, at_]
            at taken
          cases taken
          refine ⟨authenticated, running, noTimer, hdcpIdle, mainIdle,
            by simpa [wasDelivered_snoc] using tuned, ?_⟩
          refine progress.frame (by simp) (by simp) rfl rfl (by simp)
            fun _ audio tunedNow => Or.inr ?_
          have tunedBefore : WasDelivered .tuneReady trace := by
            simpa [wasDelivered_snoc] using tunedNow
          rcases audio tunedBefore with impossible | performed
          · rw [at_] at impossible
            cases impossible
          · exact mem_performedAfterBoth_snoc.mpr (Or.inl performed)
  | hdcpHandler =>
      simp [controller, ControllerState.step, ControllerState.hdcpHandlerStep, hdcpIdle] at taken
  | mainLoop =>
      simp [controller, ControllerState.step, ControllerState.mainLoopStep, mainIdle] at taken
  | startTimer source =>
      simp [controller, ControllerState.step, ControllerState.startTimer, noTimer] at taken

/-- A run with exactly one TUNEREADY and one CONNECTED event, up to the point where the
event handler has returned and the resolution thread waits again. -/
structure BothEvents (platform : Platform) (start final : ControllerState)
    (trace : List ControllerStep) : Prop where
  run : (controller platform).Run start trace final
  armed : Armed start
  tuneReady : (Machine.actionsOf trace).count .tuneReady = 1
  connected : (Machine.actionsOf trace).count (.hotPlug .connected) = 1
  undisturbed : ∀ action ∈ Machine.actionsOf trace, action.undisturbing = true
  waiting : final.resolutionThread = .waiting
  empty : final.displayEventStatus = .max
  handled : final.eventHandler = .idle

theorem engaged_of_run {platform : Platform} {start state : ControllerState}
    {trace : List ControllerStep} (run : (controller platform).Run start trace state)
    (armed : Armed start) (once : AtMostOnce trace) : Engaged trace state := by
  induction run with
  | nil => exact armed.engaged
  | snoc prior taken ih => exact (ih once.prior).step taken once

theorem wasDelivered_of_count {action : ControllerAction} {trace : List ControllerStep}
    (once : (Machine.actionsOf trace).count action = 1) : WasDelivered action trace := by
  have member : action ∈ Machine.actionsOf trace := List.count_pos_iff.mp (by omega)
  obtain ⟨occurrence, inside, same⟩ := List.mem_map.mp member
  exact ⟨occurrence, inside, same⟩

/-- What is done after both events: the audio mode in any case, the resolution when the
test for CONNECTED found TuneReady. -/
theorem BothEvents.performed {platform : Platform} {start final : ControllerState}
    {trace : List ControllerStep} (both : BothEvents platform start final trace) :
    .setAudioMode ∈ performedAfterBoth trace ∧
      (.setVideoPortResolution ∈ performedAfterBoth trace ↔ TestedTuned trace) := by
  have engaged := engaged_of_run both.run both.armed
    ⟨both.tuneReady.le, both.connected.le, both.undisturbed⟩
  have connected := wasDelivered_of_count both.connected
  have tuned := wasDelivered_of_count both.tuneReady
  cases engaged.progress with
  | unposted notYet => exact absurd connected notYet
  | pending _ full =>
      rw [both.empty] at full
      cases full
  | settingResolution _ full =>
      rw [both.empty] at full
      cases full
  | settingAudio _ full =>
      rw [both.empty] at full
      cases full
  | tunedDone _ _ tested resolution audio => exact ⟨audio, iff_of_true resolution tested⟩
  | untunedDone _ _ untested notSet audio =>
      rcases audio tuned with atWork | performed
      · rw [both.handled] at atWork
        cases atWork
      · exact ⟨performed, iff_of_false notSet untested⟩

/-- Two runs perform the same operations exactly when the test for CONNECTED comes after
TUNEREADY in both of them or in neither. -/
theorem performedAfterBoth_eq_iff {platform : Platform}
    {start start' final final' : ControllerState} {trace trace' : List ControllerStep}
    (both : BothEvents platform start final trace)
    (both' : BothEvents platform start' final' trace') :
    performedAfterBoth trace = performedAfterBoth trace' ↔
      (TestedTuned trace ↔ TestedTuned trace') := by
  obtain ⟨audio, resolution⟩ := both.performed
  obtain ⟨audio', resolution'⟩ := both'.performed
  constructor
  · intro same
    rw [← resolution, ← resolution', same]
  · intro same
    ext operation
    cases operation with
    | setVideoPortResolution => exact resolution.trans (same.trans resolution'.symm)
    | setAudioMode => exact iff_of_true audio audio'

/-- Waiting with HDCP authenticated. -/
def armedState : ControllerState := { ControllerState.initial false with hdcpAuthenticated := true }

/-- TUNEREADY is handled before the connect, which is then processed with it. -/
def tuneReadyFirst : List ControllerAction :=
  [.tuneReady, .eventHandler, .eventHandler, .hotPlug .connected, .resolutionThread,
    .resolutionThread, .resolutionThread, .resolutionThread, .resolutionThread, .resolutionThread]

/-- The connect is processed before TUNEREADY, whose signal then wakes nobody. -/
def connectFirst : List ControllerAction :=
  [.hotPlug .connected, .resolutionThread, .resolutionThread, .resolutionThread,
    .resolutionThread, .tuneReady, .eventHandler, .eventHandler]

theorem armed_armedState : Armed armedState := ⟨rfl, rfl, rfl, rfl, rfl, rfl, rfl, rfl, rfl⟩

theorem bothEvents_tuneReadyFirst : ∃ final trace,
    BothEvents ⟨false, true⟩ armedState final trace ∧ TestedTuned trace := by
  obtain ⟨final, trace, played, idle, once, undisturbed, tested⟩ :
      ∃ final trace, (controller ⟨false, true⟩).play armedState tuneReadyFirst =
        some (final, trace) ∧
        (final.resolutionThread = .waiting ∧ final.displayEventStatus = .max ∧
          final.eventHandler = .idle) ∧
        ((Machine.actionsOf trace).count .tuneReady = 1 ∧
          (Machine.actionsOf trace).count (.hotPlug .connected) = 1) ∧
        (∀ action ∈ Machine.actionsOf trace, action.undisturbing = true) ∧ TestedTuned trace :=
    ⟨_, _, rfl, ⟨rfl, rfl, rfl⟩, by decide, by decide, by decide⟩
  exact ⟨final, trace, ⟨Machine.play_run played, armed_armedState, once.1, once.2, undisturbed,
    idle.1, idle.2.1, idle.2.2⟩, tested⟩

theorem bothEvents_connectFirst : ∃ final trace,
    BothEvents ⟨false, true⟩ armedState final trace ∧ ¬TestedTuned trace := by
  obtain ⟨final, trace, played, idle, once, undisturbed, untested⟩ :
      ∃ final trace, (controller ⟨false, true⟩).play armedState connectFirst =
        some (final, trace) ∧
        (final.resolutionThread = .waiting ∧ final.displayEventStatus = .max ∧
          final.eventHandler = .idle) ∧
        ((Machine.actionsOf trace).count .tuneReady = 1 ∧
          (Machine.actionsOf trace).count (.hotPlug .connected) = 1) ∧
        (∀ action ∈ Machine.actionsOf trace, action.undisturbing = true) ∧ ¬TestedTuned trace :=
    ⟨_, _, rfl, ⟨rfl, rfl, rfl⟩, by decide, by decide, by decide⟩
  exact ⟨final, trace, ⟨Machine.play_run played, armed_armedState, once.1, once.2, undisturbed,
    idle.1, idle.2.1, idle.2.2⟩, untested⟩

theorem performedAfterBoth_eq_iff_orders : ∃ final final' trace trace',
    BothEvents ⟨false, true⟩ armedState final trace ∧
      BothEvents ⟨false, true⟩ armedState final' trace' ∧
      (performedAfterBoth trace = performedAfterBoth trace' ↔
        (TestedTuned trace ↔ TestedTuned trace')) := by
  obtain ⟨final, trace, both, -⟩ := bothEvents_tuneReadyFirst
  obtain ⟨final', trace', both', -⟩ := bothEvents_connectFirst
  exact ⟨final, final', trace, trace', both, both', performedAfterBoth_eq_iff both both'⟩

/-- With TUNEREADY first the resolution is set, with the connect processed first it is not. -/
theorem not_performedAfterBoth_eq :
    ¬∀ (platform : Platform) (start start' final final' : ControllerState)
      (trace trace' : List ControllerStep),
      BothEvents platform start final trace → BothEvents platform start' final' trace' →
      performedAfterBoth trace = performedAfterBoth trace' := by
  intro always
  obtain ⟨final, trace, both, tested⟩ := bothEvents_tuneReadyFirst
  obtain ⟨final', trace', both', untested⟩ := bothEvents_connectFirst
  have same := always _ _ _ _ _ _ _ both both'
  have set := both.performed.2.mpr tested
  rw [same] at set
  exact untested (both'.performed.2.mp set)

end DeviceSettings.Controller
