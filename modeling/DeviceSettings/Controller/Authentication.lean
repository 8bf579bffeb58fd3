import DeviceSettings.Controller.SequentialLink

/-!
# Resolution changes and HDCP

Runs in which every callback is delivered to a controller at rest. `Stage` relates the
thread states in between to `serve`, which sees only the delivered events; the calls of
`SetVideoPortResolution` by the resolution thread are then those `SetsResolution` names.
-/

namespace DeviceSettings.Controller

open DeviceSettings.Std

/-- The callbacks, as opposed to steps of threads. -/
def ControllerAction.isDelivery : ControllerAction → Bool
  | .hotPlug _ | .tuneReady | .hdcpStatus _ => true
  | _ => false

/-- The events delivered so far; `Start` posts a connect when TuneReady is set. -/
def deliveries (tuneReady : Bool) (trace : List ControllerStep) : List ControllerAction :=
  (if tuneReady then [.hotPlug .connected] else []) ++
    (Machine.actionsOf trace).filter ControllerAction.isDelivery

/-- Every callback has been dealt with. -/
structure Quiescent (state : ControllerState) : Prop where
  waiting : state.resolutionThread = .waiting
  empty : state.displayEventStatus = .max
  eventIdle : state.eventHandler = .idle
  hdcpIdle : state.hdcpHandler = .idle

instance (state : ControllerState) : Decidable (Quiescent state) :=
  decidable_of_iff (state.resolutionThread = .waiting ∧ state.displayEventStatus = .max ∧
      state.eventHandler = .idle ∧ state.hdcpHandler = .idle)
    ⟨fun all => ⟨all.1, all.2.1, all.2.2.1, all.2.2.2⟩,
      fun rest => ⟨rest.waiting, rest.empty, rest.eventIdle, rest.hdcpIdle⟩⟩

/-- Each callback comes to a controller at rest, and the controller is not stopped. -/
def OneAtATime (trace : List ControllerStep) : Prop :=
  ∀ occurrence ∈ trace, occurrence.action ≠ .stop ∧
    (occurrence.action.isDelivery = true → Quiescent occurrence.before)

/-- The resolution thread calls `SetVideoPortResolution` after the events `called`. -/
def CalledAfter (tuneReady : Bool) (trace : List ControllerStep)
    (called : List ControllerAction) : Prop :=
  ∃ earlier occurrence later, trace = earlier ++ occurrence :: later ∧
    .setVideoPortResolution .resolutionThread ∈ occurrence.effects ∧
    called = deliveries tuneReady earlier

theorem calledAfter_snoc {tuneReady : Bool} {trace : List ControllerStep}
    {occurrence : ControllerStep} {called : List ControllerAction} :
    CalledAfter tuneReady (trace ++ [occurrence]) called ↔
      CalledAfter tuneReady trace called ∨
        (.setVideoPortResolution .resolutionThread ∈ occurrence.effects ∧
          called = deliveries tuneReady trace) := by
  constructor
  · rintro ⟨earlier, found, later, split, calls, same⟩
    rcases snoc_eq_append_cons_iff.mp split with ⟨rfl, rfl, rfl⟩ | ⟨front, rfl, rfl⟩
    · exact Or.inr ⟨calls, same⟩
    · exact Or.inl ⟨earlier, found, front, rfl, calls, same⟩
  · rintro (⟨earlier, found, later, rfl, calls, same⟩ | ⟨calls, same⟩)
    · exact ⟨earlier, found, later ++ [occurrence], by simp, calls, same⟩
    · exact ⟨trace, occurrence, [], rfl, calls, same⟩

theorem deliveries_snoc (tuneReady : Bool) (trace : List ControllerStep)
    (occurrence : ControllerStep) :
    deliveries tuneReady (trace ++ [occurrence]) =
      if occurrence.action.isDelivery then deliveries tuneReady trace ++ [occurrence.action]
      else deliveries tuneReady trace := by
  split_ifs with delivers <;> simp [deliveries, delivers]

theorem deliveries_snoc_of_thread {tuneReady : Bool} {trace : List ControllerStep}
    {occurrence : ControllerStep} (notDelivery : occurrence.action.isDelivery = false) :
    deliveries tuneReady (trace ++ [occurrence]) = deliveries tuneReady trace := by
  rw [deliveries_snoc, if_neg (Bool.eq_false_iff.mp notDelivery)]

/-- The calls made so far are those that `events` call for. -/
def CallsMatch (tuneReady : Bool) (trace : List ControllerStep)
    (events : List ControllerAction) : Prop :=
  ∀ called, CalledAfter tuneReady trace called ↔ SetsResolution tuneReady events called

/-- An event that is no connect calls for nothing. -/
theorem callsMatch_snoc_delivery {tuneReady : Bool} {trace : List ControllerStep}
    {occurrence : ControllerStep} {events : List ControllerAction} {event : ControllerAction}
    (calls : CallsMatch tuneReady trace events)
    (noCall : .setVideoPortResolution .resolutionThread ∉ occurrence.effects)
    (notConnect : event = .hotPlug .connected → (serve tuneReady events).tuned = false) :
    CallsMatch tuneReady (trace ++ [occurrence]) (events ++ [event]) := fun called => by
  rw [calledAfter_snoc, setsResolution_snoc, ← calls called]
  refine or_congr_right (iff_of_false (fun new => noCall new.1) ?_)
  rintro ⟨-, connect, tuned, -⟩
  rw [notConnect connect] at tuned
  cases tuned

theorem callsMatch_snoc {tuneReady : Bool} {trace : List ControllerStep}
    {occurrence : ControllerStep} {events : List ControllerAction}
    (calls : CallsMatch tuneReady trace events)
    (noCall : .setVideoPortResolution .resolutionThread ∉ occurrence.effects) :
    CallsMatch tuneReady (trace ++ [occurrence]) events := fun called => by
  rw [calledAfter_snoc, ← calls called]
  exact or_iff_left fun new => noCall new.1

/-- Where the controller stands with the newest delivered event. -/
inductive Stage (tuneReady : Bool) (trace : List ControllerStep) (state : ControllerState) :
    Prop where
  /-- No hotplug event is being processed; an HDCP failure may still have to clear the flag. -/
  | calm (reader : state.resolutionThread = .waiting) (slot : state.displayEventStatus = .max)
      (flag : state.hdcpHandler ≠ .droppingHdcp →
        state.hdcpAuthenticated = (serve tuneReady (deliveries tuneReady trace)).flag)
      (failing : state.hdcpHandler = .droppingHdcp →
        (serve tuneReady (deliveries tuneReady trace)).flag = false)
      (calls : CallsMatch tuneReady trace (deliveries tuneReady trace))
  /-- The event is posted but its effect on the flags has not been decided. -/
  | reading (earlier : List ControllerAction) (event : HotPlug)
      (newest : deliveries tuneReady trace = earlier ++ [.hotPlug event])
      (slot : state.displayEventStatus = event.status)
      (reader : state.resolutionThread = .waiting ∨
        state.resolutionThread = .clearingSource event.status ∨
        state.resolutionThread = .testing event.status)
      (idle : state.hdcpHandler = .idle)
      (flag : state.hdcpAuthenticated = (serve tuneReady earlier).flag)
      (calls : CallsMatch tuneReady trace earlier)
  | settingResolution (earlier : List ControllerAction)
      (newest : deliveries tuneReady trace = earlier ++ [.hotPlug .connected])
      (slot : state.displayEventStatus = .connected)
      (reader : state.resolutionThread = .settingResolution .connected)
      (idle : state.hdcpHandler = .idle) (tuned : (serve tuneReady earlier).tuned = true)
      (flag : state.hdcpAuthenticated = (serve tuneReady earlier).flag)
      (calls : CallsMatch tuneReady trace earlier)
  | dropping (slot : state.displayEventStatus = .disconnected)
      (reader : state.resolutionThread = .droppingHdcp .disconnected)
      (idle : state.hdcpHandler = .idle)
      (flag : (serve tuneReady (deliveries tuneReady trace)).flag = false)
      (calls : CallsMatch tuneReady trace (deliveries tuneReady trace))
  | finishing (event : HotPlug) (slot : state.displayEventStatus = event.status)
      (reader : state.resolutionThread = .settingAudio event.status ∨
        state.resolutionThread = .schedulingHandler event.status ∨
        state.resolutionThread = .resetting event.status)
      (idle : state.hdcpHandler = .idle)
      (flag : state.hdcpAuthenticated = (serve tuneReady (deliveries tuneReady trace)).flag)
      (calls : CallsMatch tuneReady trace (deliveries tuneReady trace))

/-- The controller between any two steps of a run that takes one callback at a time. -/
structure Serving (tuneReady : Bool) (trace : List ControllerStep) (state : ControllerState) :
    Prop where
  running : state.exitFlag = false
  tuned : state.tuneReady = (serve tuneReady (deliveries tuneReady trace)).tuned
  stage : Stage tuneReady trace state

/-- A step that delivers nothing, calls nothing and leaves flags, slot, reader and the
HDCP handler alone. -/
theorem Stage.frame {tuneReady : Bool} {trace : List ControllerStep}
    {before after : ControllerState} {action : ControllerAction} {effects : List Effect}
    (stage : Stage tuneReady trace before) (notDelivery : action.isDelivery = false)
    (noCall : .setVideoPortResolution .resolutionThread ∉ effects)
    (slot : after.displayEventStatus = before.displayEventStatus)
    (reader : after.resolutionThread = before.resolutionThread)
    (handler : after.hdcpHandler = before.hdcpHandler)
    (flag : after.hdcpAuthenticated = before.hdcpAuthenticated) :
    Stage tuneReady (trace ++ [⟨before, action, effects, after⟩]) after := by
  have sameEvents : deliveries tuneReady (trace ++ [⟨before, action, effects, after⟩]) =
      deliveries tuneReady trace := deliveries_snoc_of_thread notDelivery
  cases stage with
  | calm atReader atSlot atFlag failing calls =>
      refine .calm (reader.trans atReader) (slot.trans atSlot) ?_ ?_ ?_
      · rw [handler, flag, sameEvents]
        exact atFlag
      · rw [handler, sameEvents]
        exact failing
      · rw [sameEvents]
        exact callsMatch_snoc calls noCall
  | reading earlier event newest atSlot atReader idle atFlag calls =>
      exact .reading earlier event (sameEvents.trans newest) (slot.trans atSlot)
        (by rwa [reader]) (handler.trans idle) (flag.trans atFlag) (callsMatch_snoc calls noCall)
  | settingResolution earlier newest atSlot atReader idle tuned atFlag calls =>
      exact .settingResolution earlier (sameEvents.trans newest) (slot.trans atSlot)
        (reader.trans atReader) (handler.trans idle) tuned (flag.trans atFlag)
        (callsMatch_snoc calls noCall)
  | dropping atSlot atReader idle atFlag calls =>
      refine .dropping (slot.trans atSlot) (reader.trans atReader) (handler.trans idle) ?_ ?_
      · rw [sameEvents]
        exact atFlag
      · rw [sameEvents]
        exact callsMatch_snoc calls noCall
  | finishing event atSlot atReader idle atFlag calls =>
      refine .finishing event (slot.trans atSlot) (by rwa [reader]) (handler.trans idle) ?_ ?_
      · rw [flag, sameEvents]
        exact atFlag
      · rw [sameEvents]
        exact callsMatch_snoc calls noCall

/-- At rest, flag and calls are those of the delivered events. -/
theorem Stage.settled {tuneReady : Bool} {trace : List ControllerStep} {state : ControllerState}
    (stage : Stage tuneReady trace state) (quiescent : Quiescent state) :
    state.hdcpAuthenticated = (serve tuneReady (deliveries tuneReady trace)).flag ∧
      CallsMatch tuneReady trace (deliveries tuneReady trace) := by
  cases stage with
  | calm _ _ flag _ calls => exact ⟨flag (by simp [quiescent.hdcpIdle]), calls⟩
  | reading _ event _ slot =>
      rw [quiescent.empty] at slot
      cases event <;> cases slot
  | settingResolution _ _ slot =>
      rw [quiescent.empty] at slot
      cases slot
  | dropping slot =>
      rw [quiescent.empty] at slot
      cases slot
  | finishing event slot =>
      rw [quiescent.empty] at slot
      cases event <;> cases slot

/-- A callback other than a hotplug leaves the resolution thread at rest. -/
theorem Stage.delivered {tuneReady : Bool} {trace : List ControllerStep}
    {occurrence : ControllerStep} (delivers : occurrence.action.isDelivery = true)
    (notHotPlug : ∀ event, occurrence.action ≠ .hotPlug event)
    (noCall : .setVideoPortResolution .resolutionThread ∉ occurrence.effects)
    (calls : CallsMatch tuneReady trace (deliveries tuneReady trace))
    (reader : occurrence.after.resolutionThread = .waiting)
    (slot : occurrence.after.displayEventStatus = .max)
    (flag : occurrence.after.hdcpHandler ≠ .droppingHdcp → occurrence.after.hdcpAuthenticated =
      ((serve tuneReady (deliveries tuneReady trace)).handle occurrence.action).flag)
    (failing : occurrence.after.hdcpHandler = .droppingHdcp →
      ((serve tuneReady (deliveries tuneReady trace)).handle occurrence.action).flag = false) :
    Stage tuneReady (trace ++ [occurrence]) occurrence.after := by
  have newest : deliveries tuneReady (trace ++ [occurrence]) =
      deliveries tuneReady trace ++ [occurrence.action] := by
    rw [deliveries_snoc, if_pos delivers]
  refine .calm reader slot ?_ ?_ ?_
  · rwa [newest, serve_snoc]
  · rwa [newest, serve_snoc]
  · rw [newest]
    exact callsMatch_snoc_delivery calls noCall fun connect =>
      absurd connect (notHotPlug .connected)

/-- A callback that finds the controller at rest. -/
theorem Serving.deliver {platform : Platform} {tuneReady : Bool} {trace : List ControllerStep}
    {before after : ControllerState} {action : ControllerAction} {effects : List Effect}
    (serving : Serving tuneReady trace before) (quiescent : Quiescent before)
    (delivers : action.isDelivery = true)
    (taken : (controller platform).step before action = some (after, effects)) :
    Serving tuneReady (trace ++ [⟨before, action, effects, after⟩]) after := by
  obtain ⟨running, tuned, stage⟩ := serving
  have newest : deliveries tuneReady (trace ++ [⟨before, action, effects, after⟩]) =
      deliveries tuneReady trace ++ [action] := by
    simp [deliveries_snoc, delivers]
  obtain ⟨flag, calls⟩ := stage.settled quiescent
  cases action with
  | hotPlug event =>
      cases taken
      refine ⟨running, ?_, .reading _ event newest rfl (Or.inl quiescent.waiting)
        quiescent.hdcpIdle flag (callsMatch_snoc calls (by simp))⟩
      rw [newest, serve_snoc]
      cases event <;> exact tuned
  | tuneReady =>
      have tunedNow : (serve tuneReady (deliveries tuneReady trace ++ [.tuneReady])).tuned =
          true := by
        rw [serve_snoc]
        rfl
      cases ready : before.tuneReady with
      | true =>
          simp only [controller, ControllerState.step, ControllerState.onTuneReady, ready,
            quiescent.eventIdle, ↓reduceIte] at taken
          cases taken
          exact ⟨running, by rw [newest, tunedNow, ready],
            .delivered rfl (by simp) (by simp) calls quiescent.waiting quiescent.empty
              (fun _ => flag) (by simp [quiescent.hdcpIdle])⟩
      | false =>
          simp only [controller, ControllerState.step, ControllerState.onTuneReady, ready,
            quiescent.eventIdle, Bool.false_eq_true, ↓reduceIte] at taken
          cases taken
          exact ⟨running, by rw [newest, tunedNow],
            .delivered rfl (by simp) (by simp) calls quiescent.waiting quiescent.empty
              (fun _ => flag) (by simp [quiescent.hdcpIdle])⟩
  | hdcpStatus status =>
      have tunedStays : before.tuneReady =
          (serve tuneReady (deliveries tuneReady trace ++ [.hdcpStatus status])).tuned := by
        rw [serve_snoc]
        cases status <;> exact tuned
      simp only [controller, ControllerState.step, quiescent.hdcpIdle, ↓reduceIte] at taken
      cases status with
      | authenticated =>
          cases taken
          exact ⟨running, by rw [newest]; exact tunedStays,
            .delivered rfl (by simp) (by simp) calls quiescent.waiting quiescent.empty
              (fun _ => rfl) (by simp)⟩
      | authenticationFailure =>
          cases taken
          exact ⟨running, by rw [newest]; exact tunedStays,
            .delivered rfl (by simp) (by simp) calls quiescent.waiting quiescent.empty
              (by simp) (fun _ => rfl)⟩
      | unpowered | unauthenticated | inProgress | portDisabled =>
          cases taken
          exact ⟨running, by rw [newest]; exact tunedStays,
            .delivered rfl (by simp) (by simp) calls quiescent.waiting quiescent.empty
              (fun _ => flag) (by simp [quiescent.hdcpIdle])⟩
  | _ => cases delivers

/-- The next step of the resolution thread. -/
theorem Serving.read {platform : Platform} {tuneReady : Bool} {trace : List ControllerStep}
    {before after : ControllerState} {effects : List Effect}
    (serving : Serving tuneReady trace before)
    (taken : before.resolutionStep platform = some (after, effects)) :
    Stage tuneReady (trace ++ [⟨before, .resolutionThread, effects, after⟩]) after := by
  obtain ⟨running, tuned, stage⟩ := serving
  have sameEvents : ∀ {state : ControllerState} {effects : List Effect},
      deliveries tuneReady (trace ++ [⟨before, .resolutionThread, effects, state⟩]) =
        deliveries tuneReady trace := deliveries_snoc_of_thread rfl
  cases stage with
  | calm reader slot =>
      simp [ControllerState.resolutionStep, reader, running, slot] at taken
  | reading earlier event newest slot reader idle flag calls =>
      rcases reader with reader | reader | reader
      · simp only [ControllerState.resolutionStep, reader, slot, ne_eq, event.status_ne_max,
          not_false_eq_true, decide_true, Bool.or_true, ↓reduceIte] at taken
        cases taken
        exact .reading earlier event (sameEvents.trans newest) rfl (Or.inr (Or.inl rfl)) idle
          flag (callsMatch_snoc calls (by simp))
      · simp only [ControllerState.resolutionStep, reader] at taken
        cases taken
        exact .reading earlier event (sameEvents.trans newest) (by simpa using slot)
          (Or.inr (Or.inr rfl)) (by simpa using idle) (by simpa using flag)
          (callsMatch_snoc calls (by simp))
      · have tunedEarlier : before.tuneReady = (serve tuneReady earlier).tuned := by
          rw [tuned, newest, serve_snoc]
          cases event <;> rfl
        cases ready : before.tuneReady with
        | true =>
            cases event with
            | connected =>
                simp only [ControllerState.resolutionStep, reader, ready, HotPlug.status] at taken
                cases taken
                exact .settingResolution earlier (sameEvents.trans newest) slot rfl idle
                  (tunedEarlier.symm.trans ready) flag (callsMatch_snoc calls (by simp))
            | disconnected =>
                simp only [ControllerState.resolutionStep, reader, ready, HotPlug.status] at taken
                cases taken
                refine .dropping slot rfl idle ?_ ?_
                · rw [sameEvents, newest, serve_snoc]
                  simp [Served.handle, ← tunedEarlier, ready]
                · rw [sameEvents, newest]
                  exact callsMatch_snoc_delivery calls (by simp) (by simp)
        | false =>
            have untuned : (serve tuneReady earlier).tuned = false := tunedEarlier.symm.trans ready
            simp only [ControllerState.resolutionStep, reader, ready, Bool.false_and,
              Bool.false_eq_true, ↓reduceIte] at taken
            cases taken
            refine .finishing event slot (Or.inr (Or.inr rfl)) idle ?_ ?_
            · rw [sameEvents, newest, serve_snoc,
                Served.handle_flag (by simp) (by simp) fun _ => untuned]
              exact flag
            · rw [sameEvents, newest]
              exact callsMatch_snoc_delivery calls (by simp) fun _ => untuned
  | settingResolution earlier newest slot reader idle tunedNow flag calls =>
      simp only [ControllerState.resolutionStep, reader] at taken
      cases taken
      refine .finishing .connected slot (Or.inl rfl) idle ?_ fun called => ?_
      · rw [sameEvents, newest, serve_snoc]
        exact flag
      · rw [sameEvents, newest, calledAfter_snoc, setsResolution_snoc, calls called, newest]
        refine or_congr_right ?_
        cases authenticated : before.hdcpAuthenticated with
        | true => simp [tunedNow, ← flag, authenticated]
        | false => simp [← flag, authenticated]
  | dropping slot reader idle flag calls =>
      simp only [ControllerState.resolutionStep, reader] at taken
      cases taken
      refine .finishing .disconnected slot (Or.inr (Or.inl rfl)) idle ?_ ?_
      · rw [sameEvents, flag]
      · rw [sameEvents]
        exact callsMatch_snoc calls (by simp)
  | finishing event slot reader idle flag calls =>
      rcases reader with reader | reader | reader
      · simp only [ControllerState.resolutionStep, reader] at taken
        cases taken
        refine .finishing event slot (Or.inr (Or.inr rfl)) idle ?_ ?_
        · rw [sameEvents]
          exact flag
        · rw [sameEvents]
          exact callsMatch_snoc calls (by simp)
      · simp only [ControllerState.resolutionStep, reader] at taken
        split_ifs at taken <;> cases taken <;>
          refine .finishing event slot (Or.inr (Or.inr rfl)) idle (by rw [sameEvents]; exact flag)
            (by rw [sameEvents]; exact callsMatch_snoc calls (by simp))
      · simp only [ControllerState.resolutionStep, reader] at taken
        cases taken
        refine .calm rfl rfl (fun _ => ?_) (fun failing => ?_) ?_
        · rw [sameEvents]
          exact flag
        · rw [idle] at failing
          cases failing
        · rw [sameEvents]
          exact callsMatch_snoc calls (by simp)

/-- The next step of `HandleHDCPStatus`. -/
theorem Stage.handleHdcp {platform : Platform} {tuneReady : Bool} {trace : List ControllerStep}
    {before after : ControllerState} {effects : List Effect}
    (stage : Stage tuneReady trace before)
    (taken : before.hdcpHandlerStep platform = some (after, effects)) :
    Stage tuneReady (trace ++ [⟨before, .hdcpHandler, effects, after⟩]) after := by
  have sameEvents : ∀ {state : ControllerState} {effects : List Effect},
      deliveries tuneReady (trace ++ [⟨before, .hdcpHandler, effects, state⟩]) =
        deliveries tuneReady trace := deliveries_snoc_of_thread rfl
  cases stage with
  | calm reader slot flag failing calls =>
      cases at_ : before.hdcpHandler with
      | idle => simp [ControllerState.hdcpHandlerStep, at_] at taken
      | clearingSource =>
          have settled := flag (by simp [at_])
          simp only [ControllerState.hdcpHandlerStep, at_] at taken
          cases taken
          refine .calm (by simpa using reader) (by simpa using slot) (fun _ => ?_) (by simp) ?_
          · rw [sameEvents]
            simpa using settled
          · rw [sameEvents]
            exact callsMatch_snoc calls (by simp)
      | settingResolution =>
          have settled := flag (by simp [at_])
          simp only [ControllerState.hdcpHandlerStep, at_] at taken
          split_ifs at taken <;> cases taken <;>
            exact .calm reader slot (fun _ => by rw [sameEvents]; exact settled) (by simp)
              (by rw [sameEvents]; exact callsMatch_snoc calls (by simp))
      | droppingHdcp =>
          have cleared := failing at_
          simp only [ControllerState.hdcpHandlerStep, at_] at taken
          cases taken
          refine .calm reader slot (fun _ => ?_) (by simp) ?_
          · rw [sameEvents, cleared]
          · rw [sameEvents]
            exact callsMatch_snoc calls (by simp)
      | failedResolution =>
          have settled := flag (by simp [at_])
          simp only [ControllerState.hdcpHandlerStep, at_] at taken
          cases taken
          refine .calm reader slot (fun _ => ?_) (by simp) ?_
          · rw [sameEvents]
            exact settled
          · rw [sameEvents]
            refine callsMatch_snoc calls ?_
            cases platform.ignoreEdid <;> simp
  | reading _ _ _ _ _ idle => simp [ControllerState.hdcpHandlerStep, idle] at taken
  | settingResolution _ _ _ _ idle => simp [ControllerState.hdcpHandlerStep, idle] at taken
  | dropping _ _ idle => simp [ControllerState.hdcpHandlerStep, idle] at taken
  | finishing _ _ _ idle => simp [ControllerState.hdcpHandlerStep, idle] at taken

/-- One step of a run that takes one callback at a time. -/
theorem Serving.step {platform : Platform} {tuneReady : Bool} {trace : List ControllerStep}
    {before after : ControllerState} {action : ControllerAction} {effects : List Effect}
    (serving : Serving tuneReady trace before)
    (taken : (controller platform).step before action = some (after, effects))
    (orderly : action ≠ .stop ∧ (action.isDelivery = true → Quiescent before)) :
    Serving tuneReady (trace ++ [⟨before, action, effects, after⟩]) after := by
  cases delivers : action.isDelivery with
  | true => exact serving.deliver (orderly.2 delivers) delivers taken
  | false =>
      have sameEvents : deliveries tuneReady (trace ++ [⟨before, action, effects, after⟩]) =
          deliveries tuneReady trace := deliveries_snoc_of_thread delivers
      have tunedStays : after.tuneReady = before.tuneReady → after.tuneReady = (serve tuneReady
          (deliveries tuneReady (trace ++ [⟨before, action, effects, after⟩]))).tuned := by
        rw [sameEvents]
        exact fun same => same.trans serving.tuned
      cases action with
      | hotPlug | tuneReady | hdcpStatus => cases delivers
      | stop => exact absurd rfl orderly.1
      | resolutionThread =>
          obtain ⟨sameTune, sameExit, -⟩ := ControllerState.resolutionStep_frame taken
          exact ⟨sameExit.trans serving.running, tunedStays sameTune, serving.read taken⟩
      | hdcpHandler =>
          obtain ⟨sameTune, sameExit⟩ := ControllerState.hdcpHandlerStep_frame taken
          exact ⟨sameExit.trans serving.running, tunedStays sameTune,
            serving.stage.handleHdcp taken⟩
      | resolutionExit =>
          simp [controller, ControllerState.step, ControllerState.resolutionExit,
            serving.running] at taken
      | eventHandler =>
          simp only [controller, ControllerState.step, ControllerState.eventHandlerStep] at taken
          split at taken <;> cases taken <;>
            exact ⟨serving.running, tunedStays rfl,
              serving.stage.frame rfl (by simp) rfl rfl rfl rfl⟩
      | mainLoop =>
          simp only [controller, ControllerState.step, ControllerState.mainLoopStep] at taken
          split at taken <;> cases taken <;>
            exact ⟨serving.running, tunedStays rfl,
              serving.stage.frame rfl (by simp) rfl rfl rfl rfl⟩
      | startTimer source =>
          simp only [controller, ControllerState.step, ControllerState.startTimer] at taken
          split_ifs at taken
          cases taken
          exact ⟨serving.running, tunedStays rfl,
            serving.stage.frame rfl (by simp) rfl rfl rfl rfl⟩

theorem serving_initial (tuneReady : Bool) :
    Serving tuneReady [] (ControllerState.initial tuneReady) := by
  have noCalls : CallsMatch tuneReady [] [] := fun called =>
    iff_of_false (fun ⟨earlier, _, later, split, _⟩ => by simp at split)
      (fun ⟨shorter, earlier, same, _⟩ => by simp [same] at shorter)
  cases tuneReady with
  | false => exact ⟨rfl, rfl, .calm rfl rfl (fun _ => rfl) (fun _ => rfl) noCalls⟩
  | true =>
      exact ⟨rfl, rfl, .reading [] .connected rfl rfl (Or.inl rfl) rfl rfl noCalls⟩

theorem serving_of_run {platform : Platform} {tuneReady : Bool} {state : ControllerState}
    {trace : List ControllerStep}
    (run : (controller platform).Run (.initial tuneReady) trace state)
    (orderly : OneAtATime trace) : Serving tuneReady trace state := by
  induction run with
  | nil => exact serving_initial tuneReady
  | snoc prior taken ih =>
      have earlier : OneAtATime _ := fun occurrence member =>
        orderly occurrence (List.mem_append_left _ member)
      exact (ih earlier).step taken (orderly _ (List.mem_append_right _ List.mem_cons_self))

/-- Once at rest, the resolution thread has called `SetVideoPortResolution` exactly for
the connects that the delivered events call for. -/
theorem callsMatch_of_run {platform : Platform} {tuneReady : Bool} {final : ControllerState}
    {trace : List ControllerStep}
    (run : (controller platform).Run (.initial tuneReady) trace final)
    (orderly : OneAtATime trace) (atRest : Quiescent final) :
    CallsMatch tuneReady trace (deliveries tuneReady trace) :=
  ((serving_of_run run orderly).stage.settled atRest).2

/-- Every call of `SetVideoPortResolution` by the resolution thread finds a link that was
authenticated after the last disconnect and has not failed since. -/
def OnlyAuthenticated (tuneReady : Bool) (trace : List ControllerStep) : Prop :=
  ∀ called, CalledAfter tuneReady trace called → Authenticated called

/-- With one callback at a time, the resolution is set on authenticated links only,
exactly when no connect follows a disconnect that came before TuneReady on an
authenticated link, with TuneReady but no HDCP result in between. -/
theorem onlyAuthenticated_iff {platform : Platform} {tuneReady : Bool} {final : ControllerState}
    {trace : List ControllerStep}
    (run : (controller platform).Run (.initial tuneReady) trace final)
    (orderly : OneAtATime trace) (atRest : Quiescent final) :
    OnlyAuthenticated tuneReady trace ↔ ¬StaleConnect tuneReady (deliveries tuneReady trace) := by
  have calls := callsMatch_of_run run orderly atRest
  rw [← setsResolution_authenticated_iff]
  exact forall_congr' fun called => imp_congr_left (calls called)

instance (trace : List ControllerStep) : Decidable (OneAtATime trace) :=
  inferInstanceAs (Decidable (∀ occurrence ∈ trace, occurrence.action ≠ .stop ∧
    (occurrence.action.isDelivery = true → Quiescent occurrence.before)))

/-- An HDCP pass and a disconnect before TUNEREADY, a connect behind it. -/
def passThenUnplug : List ControllerAction :=
  [.hdcpStatus .authenticated, .hdcpHandler, .hdcpHandler,
    .hotPlug .disconnected, .resolutionThread, .resolutionThread, .resolutionThread,
    .resolutionThread,
    .tuneReady, .eventHandler, .eventHandler,
    .hotPlug .connected, .resolutionThread, .resolutionThread, .resolutionThread,
    .resolutionThread, .resolutionThread, .resolutionThread]

theorem exists_passThenUnplug : ∃ final trace,
    (controller ⟨false, true⟩).Run (.initial false) trace final ∧
      Machine.actionsOf trace = passThenUnplug ∧ OneAtATime trace ∧ Quiescent final ∧
      deliveries false trace =
        [.hdcpStatus .authenticated, .hotPlug .disconnected, .tuneReady, .hotPlug .connected] := by
  obtain ⟨final, trace, played, checks⟩ : ∃ final trace,
      (controller ⟨false, true⟩).play (.initial false) passThenUnplug = some (final, trace) ∧
        OneAtATime trace ∧ Quiescent final ∧ deliveries false trace =
          [.hdcpStatus .authenticated, .hotPlug .disconnected, .tuneReady,
            .hotPlug .connected] := ⟨_, _, rfl, by decide, by decide, by decide⟩
  exact ⟨final, trace, Machine.play_run played, Machine.actionsOf_played played, checks⟩

theorem onlyAuthenticated_iff_unplugged : ∃ final trace,
    (controller ⟨false, true⟩).Run (.initial false) trace final ∧
      Machine.actionsOf trace = passThenUnplug ∧
      deliveries false trace =
        [.hdcpStatus .authenticated, .hotPlug .disconnected, .tuneReady, .hotPlug .connected] ∧
      (OnlyAuthenticated false trace ↔ ¬StaleConnect false (deliveries false trace)) := by
  obtain ⟨final, trace, run, actions, orderly, atRest, events⟩ := exists_passThenUnplug
  exact ⟨final, trace, run, actions, events, onlyAuthenticated_iff run orderly atRest⟩

/-- The resolution is set for a sink that has never been authenticated: the flag is the
one of the sink unplugged before TUNEREADY. -/
theorem not_onlyAuthenticated :
    ¬∀ (platform : Platform) (tuneReady : Bool) (final : ControllerState)
      (trace : List ControllerStep),
      (controller platform).Run (.initial tuneReady) trace final → OneAtATime trace →
      Quiescent final → OnlyAuthenticated tuneReady trace := by
  intro always
  obtain ⟨final, trace, run, -, orderly, atRest, events⟩ := exists_passThenUnplug
  have calls := callsMatch_of_run run orderly atRest
  have safe := setsResolution_authenticated_iff.mp fun called sets =>
    always _ _ _ _ run orderly atRest called ((calls called).mpr sets)
  rw [events] at safe
  exact safe ⟨rfl, [.hdcpStatus .authenticated, .hotPlug .disconnected], [], [], rfl, by simp,
    ⟨[.hdcpStatus .authenticated], [], rfl, ⟨[], [], rfl, by simp, by simp⟩, by simp, by simp⟩,
    by simp, by simp, by simp⟩

end DeviceSettings.Controller
