import DeviceSettings.Controller.Threads
import Mathlib.Data.List.Basic

/-!
# The hotplug mailbox

`OnDisplayHDMIHotPlug` overwrites the slot, `ResolutionThreadFunc` empties it only after
it has processed what it read. An event that arrives in between is lost when it differs
from the one being processed, and in no other way.
-/

namespace DeviceSettings.Controller

open DeviceSettings.Std

/-- The event the reader holds while it processes. -/
def ResolutionPhase.event : ResolutionPhase → Option DisplayEventStatus
  | .waiting | .exited => none
  | .clearingSource event | .testing event | .settingResolution event | .settingAudio event
  | .droppingHdcp event | .schedulingHandler event | .resetting event => some event

/-- What a step posts into the slot. -/
def postedBy (occurrence : ControllerStep) : Option DisplayEventStatus :=
  match occurrence.action with
  | .hotPlug event => some event.status
  | _ => none

/-- What a step takes from the slot to process it. -/
def readBy (occurrence : ControllerStep) : Option DisplayEventStatus :=
  match occurrence.action, occurrence.before.resolutionThread with
  | .resolutionThread, .waiting => some occurrence.before.displayEventStatus
  | _, _ => none

/-- The events posted so far, `Start`'s own one included. -/
def posted (start : ControllerState) (trace : List ControllerStep) : List DisplayEventStatus :=
  (if start.displayEventStatus = .max then [] else [start.displayEventStatus]) ++
    trace.filterMap postedBy

/-- The events the reader took, in order. -/
def processed (trace : List ControllerStep) : List DisplayEventStatus :=
  trace.filterMap readBy

/-- The reader waits for an event and none is in the slot. -/
def Blocked (state : ControllerState) : Prop :=
  state.resolutionThread = .waiting ∧ state.displayEventStatus = .max ∧ state.exitFlag = false

/-- The reader empties the slot of another event than the one it has processed. -/
def LosesEvent (occurrence : ControllerStep) : Prop :=
  occurrence.action = .resolutionThread ∧ occurrence.before.exitFlag = false ∧
    ∃ event, occurrence.before.resolutionThread = .resetting event ∧
      occurrence.before.displayEventStatus ≠ event

/-- All that a step can do to the slot, to the reader and to the exit flag. -/
inductive MailboxStep (before : ControllerState) (action : ControllerAction)
    (after : ControllerState) : Prop where
  | post (event : HotPlug) (act : action = .hotPlug event)
      (slot : after.displayEventStatus = event.status)
      (reader : after.resolutionThread = before.resolutionThread)
      (exit : after.exitFlag = before.exitFlag)
  | read (act : action = .resolutionThread) (was : before.resolutionThread = .waiting)
      (awake : before.exitFlag = true ∨ before.displayEventStatus ≠ .max)
      (slot : after.displayEventStatus = before.displayEventStatus)
      (reader : after.resolutionThread.event = some before.displayEventStatus)
      (exit : after.exitFlag = before.exitFlag)
  | process (act : action = .resolutionThread) (event : DisplayEventStatus)
      (was : before.resolutionThread.event = some event)
      (notYet : before.resolutionThread ≠ .resetting event)
      (slot : after.displayEventStatus = before.displayEventStatus)
      (reader : after.resolutionThread.event = some event)
      (exit : after.exitFlag = before.exitFlag)
  | reset (act : action = .resolutionThread) (event : DisplayEventStatus)
      (was : before.resolutionThread = .resetting event)
      (slot : after.displayEventStatus = .max) (reader : after.resolutionThread = .waiting)
      (exit : after.exitFlag = before.exitFlag)
  | other (notPost : ∀ event, action ≠ .hotPlug event) (notReader : action ≠ .resolutionThread)
      (slot : after.displayEventStatus = before.displayEventStatus)
      (kept : after.exitFlag = true ∨ (after.resolutionThread = before.resolutionThread ∧
        after.exitFlag = before.exitFlag))

theorem mailboxStep {platform : Platform} {before after : ControllerState}
    {action : ControllerAction} {effects : List Effect}
    (taken : (controller platform).step before action = some (after, effects)) :
    MailboxStep before action after := by
  cases action with
  | hotPlug event =>
      cases taken
      exact .post event rfl rfl rfl rfl
  | resolutionThread =>
      cases at_ : before.resolutionThread with
      | waiting =>
          simp only [controller, ControllerState.step, ControllerState.resolutionStep, at_]
            at taken
          split_ifs at taken with awake
          cases taken
          exact .read rfl at_ (by simpa using awake) rfl rfl rfl
      | testing event =>
          simp only [controller, ControllerState.step, ControllerState.resolutionStep, at_]
            at taken
          split_ifs at taken <;> cases taken <;>
            exact .process rfl event (by rw [at_]; rfl) (by simp [at_]) rfl rfl rfl
      | schedulingHandler event =>
          simp only [controller, ControllerState.step, ControllerState.resolutionStep, at_]
            at taken
          split_ifs at taken <;> cases taken <;>
            exact .process rfl event (by rw [at_]; rfl) (by simp [at_]) rfl rfl rfl
      | resetting event =>
          simp only [controller, ControllerState.step, ControllerState.resolutionStep, at_]
            at taken
          cases taken
          exact .reset rfl event at_ rfl rfl rfl
      | exited =>
          simp only [controller, ControllerState.step, ControllerState.resolutionStep, at_]
            at taken
          cases taken
      | clearingSource event | settingResolution event | settingAudio event
      | droppingHdcp event =>
          simp only [controller, ControllerState.step, ControllerState.resolutionStep, at_]
            at taken
          cases taken
          exact .process rfl event (by rw [at_]; rfl) (by simp [at_]) (by simp) rfl (by simp)
  | tuneReady =>
      simp only [controller, ControllerState.step, ControllerState.onTuneReady] at taken
      split_ifs at taken <;> cases taken <;>
        exact .other (by simp) (by simp) rfl (.inr ⟨rfl, rfl⟩)
  | hdcpStatus status =>
      simp only [controller, ControllerState.step, ControllerState.onHdcpStatus] at taken
      split_ifs at taken
      cases status <;> cases taken <;>
        exact .other (by simp) (by simp) rfl (.inr ⟨rfl, rfl⟩)
  | resolutionExit =>
      simp only [controller, ControllerState.step, ControllerState.resolutionExit] at taken
      split_ifs at taken with leaving
      cases taken
      exact .other (by simp) (by simp) rfl (.inl leaving.2)
  | eventHandler =>
      simp only [controller, ControllerState.step, ControllerState.eventHandlerStep] at taken
      split at taken <;> cases taken <;>
        exact .other (by simp) (by simp) rfl (.inr ⟨rfl, rfl⟩)
  | hdcpHandler =>
      simp only [controller, ControllerState.step, ControllerState.hdcpHandlerStep] at taken
      split at taken
      · cases taken
      · cases taken
        exact .other (by simp) (by simp) (by simp) (.inr (by simp))
      · split_ifs at taken <;> cases taken <;>
          exact .other (by simp) (by simp) rfl (.inr ⟨rfl, rfl⟩)
      · cases taken
        exact .other (by simp) (by simp) rfl (.inr ⟨rfl, rfl⟩)
      · cases taken
        exact .other (by simp) (by simp) rfl (.inr ⟨rfl, rfl⟩)
  | mainLoop =>
      simp only [controller, ControllerState.step, ControllerState.mainLoopStep] at taken
      split at taken <;> cases taken <;>
        exact .other (by simp) (by simp) rfl (.inr ⟨rfl, rfl⟩)
  | startTimer source =>
      simp only [controller, ControllerState.step, ControllerState.startTimer] at taken
      split_ifs at taken
      cases taken
      exact .other (by simp) (by simp) rfl (.inr ⟨rfl, rfl⟩)
  | stop =>
      cases taken
      exact .other (by simp) (by simp) rfl (.inl rfl)

@[simp] theorem posted_snoc (start : ControllerState) (trace : List ControllerStep)
    (occurrence : ControllerStep) :
    posted start (trace ++ [occurrence]) = posted start trace ++ (postedBy occurrence).toList := by
  cases new : postedBy occurrence <;> simp [posted, new]

@[simp] theorem processed_snoc (trace : List ControllerStep) (occurrence : ControllerStep) :
    processed (trace ++ [occurrence]) = processed trace ++ (readBy occurrence).toList := by
  cases new : readBy occurrence <;> simp [processed, new]

theorem postedBy_other {occurrence : ControllerStep}
    (notPost : ∀ event, occurrence.action ≠ .hotPlug event) : postedBy occurrence = none := by
  unfold postedBy
  split
  next event same => exact absurd same (notPost event)
  next => rfl

theorem readBy_other {occurrence : ControllerStep}
    (notReader : occurrence.action ≠ .resolutionThread) : readBy occurrence = none := by
  unfold readBy
  split
  next same _ => exact absurd same notReader
  next => rfl

/-- A full slot holds the newest event; a reader at work holds the one it took last. -/
structure Delivered (start : ControllerState) (trace : List ControllerStep)
    (state : ControllerState) : Prop where
  latest : state.displayEventStatus ≠ .max →
    (posted start trace).getLast? = some state.displayEventStatus
  held : ∀ event, state.resolutionThread.event = some event → state.exitFlag = false →
    state.displayEventStatus ≠ .max ∧ (processed trace).getLast? = some event

theorem Delivered.step {platform : Platform} {start before after : ControllerState}
    {trace : List ControllerStep} {action : ControllerAction} {effects : List Effect}
    (delivered : Delivered start trace before)
    (taken : (controller platform).step before action = some (after, effects)) :
    Delivered start (trace ++ [⟨before, action, effects, after⟩]) after := by
  cases mailboxStep taken with
  | post event act slot reader exit =>
      subst act
      refine ⟨fun _ => by simp [postedBy, slot], fun held at_ clear => ⟨?_, ?_⟩⟩
      · rw [slot]
        exact event.status_ne_max
      · rw [reader] at at_
        rw [exit] at clear
        simpa [readBy] using (delivered.held held at_ clear).2
  | read act was awake slot reader exit =>
      subst act
      refine ⟨fun full => ?_, fun held at_ clear => ?_⟩
      · rw [slot] at full ⊢
        simpa [postedBy] using delivered.latest full
      · rw [reader] at at_
        rw [exit] at clear
        have full : before.displayEventStatus ≠ .max := by simpa [clear] using awake
        rw [slot, ← Option.some.inj at_]
        exact ⟨full, by simp [readBy, was]⟩
  | process act event was notYet slot reader exit =>
      subst act
      have notWaiting : before.resolutionThread ≠ .waiting := fun same => by
        rw [same] at was
        cases was
      have readsNothing : readBy ⟨before, .resolutionThread, effects, after⟩ = none := by
        unfold readBy
        split
        · contradiction
        · rfl
      refine ⟨fun full => ?_, fun held at_ clear => ?_⟩
      · rw [slot] at full ⊢
        simpa [postedBy] using delivered.latest full
      · rw [reader] at at_
        rw [exit] at clear
        rw [slot, processed_snoc, readsNothing, Option.toList_none, List.append_nil]
        exact delivered.held held (was.trans at_) clear
  | reset act event was slot reader exit =>
      refine ⟨fun full => absurd slot full, fun held at_ _ => ?_⟩
      rw [reader] at at_
      cases at_
  | other notPost notReader slot kept =>
      have postsNothing : postedBy ⟨before, action, effects, after⟩ = none :=
        postedBy_other notPost
      have readsNothing : readBy ⟨before, action, effects, after⟩ = none :=
        readBy_other notReader
      refine ⟨fun full => ?_, fun held at_ clear => ?_⟩
      · rw [slot] at full ⊢
        rw [posted_snoc, postsNothing, Option.toList_none, List.append_nil]
        exact delivered.latest full
      · rcases kept with exiting | ⟨reader, exit⟩
        · rw [exiting] at clear
          cases clear
        · rw [reader] at at_
          rw [exit] at clear
          rw [slot, processed_snoc, readsNothing, Option.toList_none, List.append_nil]
          exact delivered.held held at_ clear

/-- A blocked reader has processed the newest event. -/
def Current (start : ControllerState) (trace : List ControllerStep) (state : ControllerState) :
    Prop :=
  Blocked state → (processed trace).getLast? = (posted start trace).getLast?

/-- A step that loses no event leaves a blocked reader up to date. -/
theorem Current.step {platform : Platform} {start before after : ControllerState}
    {trace : List ControllerStep} {action : ControllerAction} {effects : List Effect}
    (delivered : Delivered start trace before) (current : Current start trace before)
    (taken : (controller platform).step before action = some (after, effects))
    (keeps : ¬LosesEvent ⟨before, action, effects, after⟩) :
    Current start (trace ++ [⟨before, action, effects, after⟩]) after := by
  rintro ⟨waiting, empty, clear⟩
  cases mailboxStep taken with
  | post event act slot reader exit => exact absurd (slot ▸ empty) event.status_ne_max
  | read act was awake slot reader exit =>
      rw [waiting] at reader
      cases reader
  | process act event was notYet slot reader exit =>
      rw [waiting] at reader
      cases reader
  | reset act event was slot reader exit =>
      subst act
      have stillClear : before.exitFlag = false := exit ▸ clear
      obtain ⟨full, took⟩ := delivered.held event (by rw [was]; rfl) stillClear
      have newest := delivered.latest full
      have same : before.displayEventStatus = event := by
        by_contra differs
        exact keeps ⟨rfl, stillClear, event, was, differs⟩
      have readsNothing : readBy ⟨before, .resolutionThread, effects, after⟩ = none := by
        simp [readBy, was]
      rw [processed_snoc, readsNothing, posted_snoc]
      simpa [postedBy, newest, same] using took
  | other notPost notReader slot kept =>
      rcases kept with exiting | ⟨reader, exit⟩
      · rw [exiting] at clear
        cases clear
      · have postsNothing : postedBy ⟨before, action, effects, after⟩ = none :=
          postedBy_other notPost
        have readsNothing : readBy ⟨before, action, effects, after⟩ = none :=
          readBy_other notReader
        rw [processed_snoc, readsNothing, posted_snoc, postsNothing]
        simpa using current ⟨reader ▸ waiting, slot ▸ empty, exit ▸ clear⟩

/-- Before its first event a waiting reader holds nothing. -/
theorem delivered_start {start : ControllerState} (waiting : start.resolutionThread = .waiting) :
    Delivered start [] start := by
  refine ⟨fun full => by simp [posted, full], fun event at_ _ => ?_⟩
  rw [waiting] at at_
  cases at_

theorem delivered_of_run {platform : Platform} {start state : ControllerState}
    {trace : List ControllerStep} (run : (controller platform).Run start trace state)
    (waiting : start.resolutionThread = .waiting) : Delivered start trace state :=
  run.history (delivered_start waiting) fun _ _ _ _ _ delivered taken => delivered.step taken

/-- In every state of a run in which the reader is blocked, the last event it processed
is the last one posted. -/
def LosesNoFinalState (platform : Platform) (start : ControllerState)
    (trace : List ControllerStep) : Prop :=
  ∀ earlier state, earlier <+: trace → (controller platform).Run start earlier state →
    Current start earlier state

/-- The mailbox keeps the final state of a run exactly when every reset finds in the
slot the event that was processed. -/
theorem losesNoFinalState_iff {platform : Platform} {start final : ControllerState}
    {trace : List ControllerStep} (run : (controller platform).Run start trace final)
    (waiting : start.resolutionThread = .waiting) :
    LosesNoFinalState platform start trace ↔
      ∀ occurrence ∈ trace, ¬LosesEvent occurrence := by
  constructor
  · rintro current occurrence member ⟨act, clear, event, was, differs⟩
    obtain ⟨earlier, later, rfl⟩ := List.append_of_mem member
    obtain ⟨prior, taken⟩ := run.at_occurrence
    obtain ⟨before, action, effects, after⟩ := occurrence
    dsimp only at act clear was differs prior taken
    subst act
    obtain ⟨full, took⟩ :=
      (delivered_of_run prior waiting).held event (by rw [was]; rfl) clear
    have newest := (delivered_of_run prior waiting).latest full
    have reached : (controller platform).Run start
        (earlier ++ [⟨before, .resolutionThread, effects, after⟩]) after := prior.snoc taken
    have blocked : Blocked after := by
      simp only [controller, ControllerState.step, ControllerState.resolutionStep, was] at taken
      cases taken
      exact ⟨rfl, rfl, clear⟩
    have readsNothing : readBy ⟨before, .resolutionThread, effects, after⟩ = none := by
      simp [readBy, was]
    have same := current _ _ ⟨later, by simp⟩ reached blocked
    rw [processed_snoc, readsNothing, posted_snoc] at same
    simp only [postedBy, Option.toList_none, List.append_nil, took, newest,
      Option.some.injEq] at same
    exact differs same.symm
  · intro keeps earlier state shorter reached
    have both : Delivered start earlier state ∧ Current start earlier state := by
      have kept : ∀ occurrence ∈ earlier, ¬LosesEvent occurrence :=
        fun occurrence member => keeps occurrence (shorter.subset member)
      clear shorter keeps run
      induction reached with
      | nil =>
          refine ⟨delivered_start waiting, fun blocked => ?_⟩
          simp [processed, posted, blocked.2.1]
      | snoc prior taken ih =>
          obtain ⟨delivered, current⟩ :=
            ih fun occurrence member => kept occurrence (List.mem_append_left _ member)
          exact ⟨delivered.step taken, current.step delivered taken
            (kept _ (List.mem_append_right _ List.mem_cons_self))⟩
    exact both.2

/-- A connect that is processed whole before the disconnect arrives. -/
theorem losesNoFinalState_iff_orderly :
    ∃ final trace, (controller ⟨false, true⟩).play (.initial false)
        [.hotPlug .connected, .resolutionThread, .resolutionThread, .resolutionThread,
          .resolutionThread, .hotPlug .disconnected] = some (final, trace) ∧
      (LosesNoFinalState ⟨false, true⟩ (.initial false) trace ↔
        ∀ occurrence ∈ trace, ¬LosesEvent occurrence) := by
  obtain ⟨final, trace, played⟩ : ∃ final trace,
      (controller ⟨false, true⟩).play (.initial false)
        [.hotPlug .connected, .resolutionThread, .resolutionThread, .resolutionThread,
          .resolutionThread, .hotPlug .disconnected] = some (final, trace) := ⟨_, _, rfl⟩
  exact ⟨final, trace, played, losesNoFinalState_iff (Machine.play_run played) rfl⟩

/-- A disconnect that arrives while a connect is processed is never processed. -/
theorem not_losesNoFinalState :
    ¬∀ (platform : Platform) (start final : ControllerState) (trace : List ControllerStep),
      (controller platform).Run start trace final → start.resolutionThread = .waiting →
      LosesNoFinalState platform start trace := by
  intro always
  obtain ⟨final, trace, played, blocked, stale⟩ :
      ∃ final trace, (controller ⟨false, true⟩).play (.initial false)
          [.hotPlug .connected, .resolutionThread, .hotPlug .disconnected, .resolutionThread,
            .resolutionThread, .resolutionThread] = some (final, trace) ∧
        Blocked final ∧
        (processed trace).getLast? ≠ (posted (.initial false) trace).getLast? :=
    ⟨_, _, rfl, ⟨rfl, rfl, rfl⟩, by decide⟩
  have run := Machine.play_run played
  exact stale (always _ _ _ _ run rfl trace final (List.prefix_refl trace) run blocked)

end DeviceSettings.Controller
