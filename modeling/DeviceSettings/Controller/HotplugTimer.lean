import DeviceSettings.Controller.Threads

/-!
# The delayed set of the analog resolution

`_hotplugEventSrc` is meant to hold the id of the one timer that may still fire, so that a
connect or an HDCP pass can remove it. `SetResolutionHandler` resets it when it returns,
seconds after its own timer has left the main loop; an id written in between is lost.
-/

namespace DeviceSettings.Controller

open DeviceSettings.Std

/-- The step schedules this timer. -/
def Schedules (source : Nat) (occurrence : ControllerStep) : Prop :=
  source ∈ occurrence.after.scheduled ∧ source ∉ occurrence.before.scheduled

instance (source : Nat) (occurrence : ControllerStep) : Decidable (Schedules source occurrence) :=
  inferInstanceAs (Decidable (_ ∧ _))

/-- The resolution thread passes its clearing step for a CONNECTED event. -/
def ClearsForConnect (occurrence : ControllerStep) : Prop :=
  occurrence.action = .resolutionThread ∧
    occurrence.before.resolutionThread = .clearingSource .connected

instance (occurrence : ControllerStep) : Decidable (ClearsForConnect occurrence) :=
  inferInstanceAs (Decidable (_ ∧ _))

/-- A timer of an earlier disconnect fires behind the clearing step for a connect. -/
def CancelledFires (trace : List ControllerStep) : Prop :=
  ∃ earlier clears between starts later source,
    trace = earlier ++ clears :: (between ++ starts :: later) ∧
    (∃ schedules ∈ earlier, Schedules source schedules) ∧ ClearsForConnect clears ∧
    starts.action = .startTimer source

/-- `SetResolutionHandler` returns while `_hotplugEventSrc` holds the id of a timer that is
still to fire. -/
def ErasesTimer (occurrence : ControllerStep) : Prop :=
  occurrence.action = .mainLoop ∧
    (∃ source, occurrence.before.mainLoop = .clearingSource source) ∧
    occurrence.before.hotplugEventSrc ∈ occurrence.before.scheduled

/-- The reader has cleared the source for the event it holds and not scheduled another. -/
def ResolutionPhase.cleared : ResolutionPhase → Bool
  | .testing _ | .droppingHdcp _ | .schedulingHandler _ => true
  | _ => false

/-- All that a step can do to the timers and to `_hotplugEventSrc`. -/
inductive TimerStep (before : ControllerState) (action : ControllerAction)
    (after : ControllerState) : Prop where
  | keep (scheduled : after.scheduled = before.scheduled)
      (source : after.hotplugEventSrc = before.hotplugEventSrc)
      (next : after.nextSource = before.nextSource)
      (reader : after.resolutionThread.cleared = true → before.resolutionThread.cleared = true)
  | clear (phase : ResolutionPhase) (handler : HdcpPhase)
      (same : after =
        { before.clearHotplugSource with resolutionThread := phase, hdcpHandler := handler })
  | schedule (event : DisplayEventStatus) (was : before.resolutionThread.cleared = true)
      (same : after = { before.scheduleHandler with resolutionThread := .resetting event })
  | start (source : Nat) (act : action = .startTimer source)
      (pending : source ∈ before.scheduled)
      (same : after = { before with
        scheduled := before.scheduled.erase source
        mainLoop := .settingResolution source })
  | reset (source : Nat) (act : action = .mainLoop) (was : before.mainLoop = .clearingSource source)
      (same : after = { before with hotplugEventSrc := 0, mainLoop := .idle })

theorem timerStep {platform : Platform} {before after : ControllerState}
    {action : ControllerAction} {effects : List Effect}
    (taken : (controller platform).step before action = some (after, effects)) :
    TimerStep before action after := by
  cases action with
  | hotPlug event =>
      cases taken
      exact .keep rfl rfl rfl id
  | tuneReady =>
      simp only [controller, ControllerState.step, ControllerState.onTuneReady] at taken
      split_ifs at taken <;> cases taken <;> exact .keep rfl rfl rfl id
  | hdcpStatus status =>
      simp only [controller, ControllerState.step, ControllerState.onHdcpStatus] at taken
      split_ifs at taken
      cases status <;> cases taken <;> exact .keep rfl rfl rfl id
  | stop =>
      cases taken
      exact .keep rfl rfl rfl id
  | resolutionExit =>
      simp only [controller, ControllerState.step, ControllerState.resolutionExit] at taken
      split_ifs at taken
      cases taken
      exact .keep rfl rfl rfl (by simp [ResolutionPhase.cleared])
  | eventHandler =>
      simp only [controller, ControllerState.step, ControllerState.eventHandlerStep] at taken
      split at taken <;> cases taken <;> exact .keep rfl rfl rfl id
  | hdcpHandler =>
      simp only [controller, ControllerState.step, ControllerState.hdcpHandlerStep] at taken
      split at taken
      · cases taken
      · cases taken
        exact .clear before.clearHotplugSource.resolutionThread .settingResolution rfl
      · split_ifs at taken <;> cases taken <;> exact .keep rfl rfl rfl id
      · cases taken
        exact .keep rfl rfl rfl id
      · cases taken
        exact .keep rfl rfl rfl id
  | mainLoop =>
      simp only [controller, ControllerState.step, ControllerState.mainLoopStep] at taken
      split at taken
      · cases taken
      · cases taken
        exact .keep rfl rfl rfl id
      · rename_i source was
        cases taken
        exact .reset source rfl was rfl
  | startTimer source =>
      simp only [controller, ControllerState.step, ControllerState.startTimer] at taken
      split_ifs at taken with ready
      cases taken
      exact .start source rfl ready.2 rfl
  | resolutionThread =>
      cases at_ : before.resolutionThread with
      | clearingSource event =>
          simp only [controller, ControllerState.step, ControllerState.resolutionStep, at_]
            at taken
          cases taken
          exact .clear (.testing event) before.clearHotplugSource.hdcpHandler rfl
      | schedulingHandler event =>
          simp only [controller, ControllerState.step, ControllerState.resolutionStep, at_]
            at taken
          split_ifs at taken <;> cases taken
          · exact .schedule event (by rw [at_]; rfl) rfl
          · exact .keep rfl rfl rfl (by simp [ResolutionPhase.cleared])
      | testing event =>
          have was : before.resolutionThread.cleared = true := by rw [at_]; rfl
          simp only [controller, ControllerState.step, ControllerState.resolutionStep, at_]
            at taken
          split_ifs at taken <;> cases taken <;> exact .keep rfl rfl rfl fun _ => was
      | droppingHdcp event =>
          have was : before.resolutionThread.cleared = true := by rw [at_]; rfl
          simp only [controller, ControllerState.step, ControllerState.resolutionStep, at_]
            at taken
          cases taken
          exact .keep rfl rfl rfl fun _ => was
      | waiting =>
          simp only [controller, ControllerState.step, ControllerState.resolutionStep, at_]
            at taken
          split_ifs at taken
          cases taken
          exact .keep rfl rfl rfl (by simp [ResolutionPhase.cleared])
      | settingResolution event | settingAudio event | resetting event =>
          simp only [controller, ControllerState.step, ControllerState.resolutionStep, at_]
            at taken
          cases taken
          exact .keep rfl rfl rfl (by simp [ResolutionPhase.cleared])
      | exited =>
          simp only [controller, ControllerState.step, ControllerState.resolutionStep, at_]
            at taken
          cases taken

@[simp] theorem clearHotplugSource_nextSource (state : ControllerState) :
    state.clearHotplugSource.nextSource = state.nextSource := by
  unfold ControllerState.clearHotplugSource
  split_ifs <;> rfl

theorem mem_of_mem_clearHotplugSource {state : ControllerState} {source : Nat}
    (member : source ∈ state.clearHotplugSource.scheduled) : source ∈ state.scheduled := by
  unfold ControllerState.clearHotplugSource at member
  split_ifs at member
  · exact member
  · exact List.mem_of_mem_erase member

/-- At most one timer is outstanding, `_hotplugEventSrc` is its id, and there is none while
the reader works on an event it has cleared the source for. -/
structure OneTimer (state : ControllerState) : Prop where
  known : ∀ source ∈ state.scheduled, source = state.hotplugEventSrc
  single : state.scheduled.length ≤ 1
  cleared : state.resolutionThread.cleared = true → state.scheduled = []
  issued : ∀ source ∈ state.scheduled, 0 < source ∧ source < state.nextSource
  next : 0 < state.nextSource

theorem OneTimer.clear {state : ControllerState} (one : OneTimer state) :
    state.clearHotplugSource.scheduled = [] := by
  unfold ControllerState.clearHotplugSource
  cases found : state.scheduled with
  | nil => split_ifs <;> simp [found]
  | cons source rest =>
      have member : source ∈ state.scheduled := by simp [found]
      have alone : rest = [] := by
        have length := one.single
        rw [found, List.length_cons] at length
        exact List.eq_nil_of_length_eq_zero (by omega)
      have same := one.known source member
      have nonzero : state.hotplugEventSrc ≠ 0 := by
        have := (one.issued source member).1
        omega
      rw [if_neg nonzero]
      simp [alone, same]

theorem OneTimer.step {platform : Platform} {before after : ControllerState}
    {action : ControllerAction} {effects : List Effect} (one : OneTimer before)
    (taken : (controller platform).step before action = some (after, effects))
    (notErased : ¬ErasesTimer ⟨before, action, effects, after⟩) : OneTimer after := by
  cases timerStep taken with
  | keep scheduled source next reader =>
      refine ⟨?_, ?_, fun cleared => ?_, ?_, ?_⟩
      · rw [scheduled, source]
        exact one.known
      · rw [scheduled]
        exact one.single
      · rw [scheduled]
        exact one.cleared (reader cleared)
      · rw [scheduled, next]
        exact one.issued
      · rw [next]
        exact one.next
  | clear phase handler same =>
      subst same
      have none : before.clearHotplugSource.scheduled = [] := one.clear
      refine ⟨?_, ?_, fun _ => none, ?_, ?_⟩
      · simp [none]
      · simp [none]
      · simp [none]
      · simpa using one.next
  | schedule event was same =>
      subst same
      have none := one.cleared was
      refine ⟨?_, ?_, by simp [ResolutionPhase.cleared], ?_, Nat.succ_pos _⟩
      · simp [ControllerState.scheduleHandler, none]
      · simp [ControllerState.scheduleHandler, none]
      · simpa [ControllerState.scheduleHandler, none] using one.next
  | start source act pending same =>
      subst same
      refine ⟨fun other member => one.known other (List.mem_of_mem_erase member), ?_,
        fun cleared => ?_, fun other member => one.issued other (List.mem_of_mem_erase member),
        one.next⟩
      · exact Nat.le_trans List.length_erase_le one.single
      · simp [one.cleared cleared]
  | reset source act was same =>
      subst same
      have none : before.scheduled = [] := by
        refine List.eq_nil_iff_forall_not_mem.mpr fun other member =>
          notErased ⟨act, ⟨source, was⟩, ?_⟩
        exact one.known other member ▸ member
      exact ⟨by simp [none], by simp [none], fun _ => none, by simp [none], one.next⟩

theorem oneTimer_initial (tuneReady : Bool) : OneTimer (ControllerState.initial tuneReady) :=
  ⟨by simp [ControllerState.initial], by simp [ControllerState.initial], fun _ => rfl,
    by simp [ControllerState.initial], by simp [ControllerState.initial]⟩

/-- Ids are issued in order: a timer outstanding later was outstanding before or is newer. -/
theorem scheduled_step {platform : Platform} {before after : ControllerState}
    {action : ControllerAction} {effects : List Effect}
    (taken : (controller platform).step before action = some (after, effects)) :
    before.nextSource ≤ after.nextSource ∧
      ∀ source ∈ after.scheduled, source ∈ before.scheduled ∨
        (before.nextSource ≤ source ∧ source < after.nextSource) := by
  cases timerStep taken with
  | keep scheduled _ next _ =>
      rw [scheduled, next]
      exact ⟨Nat.le_refl _, fun source member => Or.inl member⟩
  | clear phase handler same =>
      subst same
      exact ⟨by simp, fun source member => Or.inl (mem_of_mem_clearHotplugSource member)⟩
  | schedule event _ same =>
      subst same
      refine ⟨Nat.le_succ _, fun source member => ?_⟩
      rcases List.mem_append.mp member with old | new
      · exact Or.inl old
      · rw [List.mem_singleton.mp new]
        exact Or.inr ⟨Nat.le_refl _, Nat.lt_succ_self _⟩
  | start started _ _ same =>
      subst same
      exact ⟨Nat.le_refl _, fun source member => Or.inl (List.mem_of_mem_erase member)⟩
  | reset _ _ _ same =>
      subst same
      exact ⟨Nat.le_refl _, fun source member => Or.inl member⟩

theorem scheduled_run {platform : Platform} {before after : ControllerState}
    {trace : List ControllerStep} (run : (controller platform).Run before trace after) :
    before.nextSource ≤ after.nextSource ∧
      ∀ source ∈ after.scheduled, source ∈ before.scheduled ∨ before.nextSource ≤ source := by
  induction run with
  | nil => exact ⟨Nat.le_refl _, fun source member => Or.inl member⟩
  | snoc _ taken ih =>
      obtain ⟨later, kept⟩ := ih
      obtain ⟨next, scheduled⟩ := scheduled_step taken
      refine ⟨Nat.le_trans later next, fun source member => ?_⟩
      rcases scheduled source member with old | new
      · exact kept source old
      · exact Or.inr (Nat.le_trans later new.1)

/-- The id of a timer that was scheduled on the way is smaller than the next one. -/
theorem issued_of_schedules {platform : Platform} {start state : ControllerState}
    {trace : List ControllerStep} {schedules : ControllerStep} {source : Nat}
    (run : (controller platform).Run start trace state) (member : schedules ∈ trace)
    (scheduled : Schedules source schedules) : source < state.nextSource := by
  obtain ⟨earlier, later, rfl⟩ := List.append_of_mem member
  obtain ⟨-, taken⟩ := run.at_occurrence
  rcases (scheduled_step taken).2 source scheduled.1 with old | new
  · exact absurd old scheduled.2
  · exact Nat.lt_of_lt_of_le new.2 (scheduled_run run.behind_occurrence).1

/-- In a run in which no handler erases the id of an outstanding timer, no timer of an
earlier disconnect fires behind the clearing step for a connect, and there is never more than
one timer outstanding. -/
theorem cancelledTimer_never_fires {platform : Platform} {tuneReady : Bool}
    {final : ControllerState} {trace : List ControllerStep}
    (run : (controller platform).Run (.initial tuneReady) trace final)
    (notErased : ∀ occurrence ∈ trace, ¬ErasesTimer occurrence) :
    ¬CancelledFires trace ∧ ∀ occurrence ∈ trace, occurrence.after.scheduled.length ≤ 1 := by
  have one : ∀ {earlier later : List ControllerStep} {occurrence : ControllerStep},
      trace = earlier ++ occurrence :: later → OneTimer occurrence.before ∧
        OneTimer occurrence.after := by
    rintro earlier later occurrence rfl
    obtain ⟨prior, taken⟩ := run.at_occurrence
    have before : OneTimer occurrence.before :=
      prior.invariant_of_steps (fun step member => notErased step (List.mem_append_left _ member))
        (oneTimer_initial tuneReady) fun _ _ _ _ held taken meets => held.step taken meets
    exact ⟨before, before.step taken
      (notErased occurrence (List.mem_append_right _ List.mem_cons_self))⟩
  constructor
  · rintro ⟨earlier, clears, between, starts, later, source, split, ⟨schedules, member, scheduled⟩,
      ⟨act, clearing⟩, started⟩
    have oneBefore := (one split).1
    subst split
    obtain ⟨prior, taken⟩ := run.at_occurrence
    obtain ⟨meanwhile, begun⟩ := run.behind_occurrence.at_occurrence
    have issued := issued_of_schedules prior member scheduled
    -- the clearing step leaves no timer, and the ones scheduled behind it have greater ids
    have none : clears.after.scheduled = [] ∧
        clears.after.nextSource = clears.before.nextSource := by
      simp only [controller, ControllerState.step, act, ControllerState.resolutionStep, clearing]
        at taken
      have same := (Prod.ext_iff.mp (Option.some.inj taken)).1
      dsimp only at same
      rw [← same]
      exact ⟨oneBefore.clear, clearHotplugSource_nextSource _⟩
    have pending : source ∈ starts.before.scheduled := by
      simp only [controller, ControllerState.step, started, ControllerState.startTimer] at begun
      split_ifs at begun with ready
      exact ready.2
    rcases (scheduled_run meanwhile).2 source pending with old | new
    · rw [none.1] at old
      exact absurd old List.not_mem_nil
    · omega
  · intro occurrence member
    obtain ⟨earlier, later, split⟩ := List.append_of_mem member
    exact (one split).2.single

/-- The steps of the resolution thread from an event in the slot back to the wait. -/
def processDisconnect : List ControllerAction :=
  .hotPlug .disconnected :: List.replicate 6 .resolutionThread

/-- A disconnect while the handler of the first timer is at work, and a connect. -/
def replugDuringHandler : List ControllerAction :=
  processDisconnect ++ [.startTimer 1, .mainLoop] ++ processDisconnect ++
    [.mainLoop, .hotPlug .connected, .resolutionThread, .resolutionThread, .startTimer 2]

/-- The timer of the second disconnect fires although the connect has cleared the source. -/
theorem exists_replugDuringHandler : ∃ trace final,
    (controller ⟨false, true⟩).Run (.initial true) trace final ∧ CancelledFires trace := by
  obtain ⟨trace, final, played, fires⟩ : ∃ trace final,
      (controller ⟨false, true⟩).play (.initial true) replugDuringHandler = some (final, trace) ∧
        CancelledFires trace :=
    ⟨_, _, rfl, [_, _, _, _, _, _, _, _, _, _, _, _, _, _, _, _, _, _, _], _, [], _, [], 2, rfl,
      ⟨_, List.mem_of_getElem? (show _[14]? = some _ from rfl), by decide⟩, by decide, rfl⟩
  exact ⟨trace, final, Machine.play_run played, fires⟩

/-- A disconnect and a connect before its timer fires. -/
def replug : List ControllerAction :=
  processDisconnect ++ [.hotPlug .connected, .resolutionThread, .resolutionThread]

theorem exists_replug : ∃ trace final,
    (controller ⟨false, true⟩).Run (.initial true) trace final ∧
      Machine.actionsOf trace = replug := by
  obtain ⟨trace, final, played⟩ : ∃ trace final,
      (controller ⟨false, true⟩).play (.initial true) replug = some (final, trace) := ⟨_, _, rfl⟩
  exact ⟨trace, final, Machine.play_run played, Machine.actionsOf_played played⟩

theorem cancelledTimer_never_fires_replug : ∃ trace : List ControllerStep,
    Machine.actionsOf trace = replug ∧
      (¬CancelledFires trace ∧ ∀ occurrence ∈ trace, occurrence.after.scheduled.length ≤ 1) := by
  obtain ⟨trace, final, run, actions⟩ := exists_replug
  refine ⟨trace, actions, cancelledTimer_never_fires run fun occurrence member erases => ?_⟩
  have acts : occurrence.action ∈ Machine.actionsOf trace := List.mem_map_of_mem member
  rw [actions, erases.1] at acts
  exact absurd acts (by decide)

theorem not_cancelledTimer_never_fires :
    ¬∀ (platform : Platform) (tuneReady : Bool) (final : ControllerState)
      (trace : List ControllerStep),
      (controller platform).Run (.initial tuneReady) trace final →
      ¬CancelledFires trace ∧ ∀ occurrence ∈ trace, occurrence.after.scheduled.length ≤ 1 := by
  intro always
  obtain ⟨trace, final, run, fires⟩ := exists_replugDuringHandler
  exact (always _ _ final trace run).1 fires

end DeviceSettings.Controller
