import DeviceSettings.Power.PortStates

/-!
# Video ports over a run of power events

ON enables the video ports, OFF disables them, and a standby state only ever disables. So
the status of a port in standby depends on how the device came there: from ON a port whose
standby setting is true stays enabled, from OFF it stays disabled.
-/

namespace DeviceSettings.Power

open DeviceSettings.Std
open DeviceSettings.Audio
open DeviceSettings.VideoPort

/-- What a power state asks of a port with this standby setting. -/
def PowerState.portStatus (setting : Bool) : PowerState → Bool
  | .on => true
  | .off => false
  | _ => setting

theorem PowerState.portStatus_standby {powerState : PowerState}
    (standby : powerState.isStandby = true) (setting : Bool) :
    powerState.portStatus setting = setting := by
  cases powerState <;> first | rfl | cases standby

theorem PowerState.eq_on_or_off {powerState : PowerState}
    (awake : powerState.isStandby = false) : powerState = .on ∨ powerState = .off := by
  cases powerState <;> simp_all [isStandby]

/-- The last state of the list that is no standby state is ON; without one, what held
initially. -/
def PoweredBy (initially : Prop) (states : List PowerState) : Prop :=
  match (states.filter fun state => !state.isStandby).getLast? with
  | some state => state = .on
  | none => initially

theorem poweredBy_standby {initially : Prop} {states : List PowerState} {state : PowerState}
    (standby : state.isStandby = true) :
    PoweredBy initially (states ++ [state]) ↔ PoweredBy initially states := by
  simp [PoweredBy, standby]

theorem poweredBy_awake {initially : Prop} {states : List PowerState} {state : PowerState}
    (awake : state.isStandby = false) :
    PoweredBy initially (states ++ [state]) ↔ state = .on := by
  simp [PoweredBy, awake]

/-- The newest state of the list is a standby state. -/
def Asleep (states : List PowerState) : Prop :=
  ∃ state, states.getLast? = some state ∧ state.isStandby = true

@[simp] theorem asleep_snoc {states : List PowerState} {state : PowerState} :
    Asleep (states ++ [state]) ↔ state.isStandby = true := by
  simp [Asleep]

@[simp] theorem not_asleep_nil : ¬Asleep [] := by
  simp [Asleep]

variable {σ : Type} {platform : Platform σ}

/-- The port has a handle and the HAL reports it enabled. -/
def VideoPortEnabled (platform : Platform σ) (state : σ) (port : VideoPortEntry) : Prop :=
  match videoHandle platform state port with
  | some handle => isVideoPortEnabled platform.video state handle = .ok true
  | none => False

/-- A configured port with this handle has its standby setting at false. -/
def SharedWithDisabled (platform : Platform σ) (start : PwrEventListener σ) (handle : Int) :
    Prop :=
  ∃ port ∈ platform.videoPortEntries,
    start.standbyVideoPortSetting.getVideoPortStandbySetting port.name = false ∧
      videoHandle platform start.settings.hal port = some handle

/-- After every handled event the port is in the status its newest power state asks of it. -/
def FollowsNewest (platform : Platform σ) (start : PwrEventListener σ) (port : VideoPortEntry)
    (trace : List (PowerStep σ)) : Prop :=
  ∀ occurrence ∈ trace, ∀ powerState, handledState occurrence = some powerState →
    (VideoPortEnabled platform occurrence.after.settings.hal port ↔
      powerState.portStatus
        (start.standbyVideoPortSetting.getVideoPortStandbySetting port.name) = true)

/-- No `SetStandbyVideoState` in the trace: the standby table is fixed. -/
def TableFixed (trace : List (PowerStep σ)) : Prop :=
  ∀ occurrence ∈ trace, ∀ param, occurrence.action ≠ .setStandbyVideoState param

theorem TableFixed.prior {trace : List (PowerStep σ)} {occurrence : PowerStep σ}
    (fixed : TableFixed (trace ++ [occurrence])) : TableFixed trace :=
  fun other member => fixed other (List.mem_append_left _ member)

section Run

variable {enabled : σ → Int → Bool} {start listener : PwrEventListener σ}
  {trace : List (PowerStep σ)}

theorem table_run (run : (listenerMachine platform).Run start trace listener)
    (fixed : TableFixed trace) :
    listener.standbyVideoPortSetting = start.standbyVideoPortSetting := by
  induction run with
  | nil => rfl
  | @snoc trace before action after effects prior taken ih =>
      rw [← ih fixed.prior]
      cases stepped_of_step taken with
      | initialized getPowerState _ =>
          exact initializePowerManager_standbyVideoPortSetting before getPowerState
      | queued event _ => rfl
      | handled easMode event rest _ =>
          exact handlePwrEventData_standbyVideoPortSetting _ easMode event
      | standbyVideoState param =>
          exact absurd rfl (fixed _ (List.mem_append_right _ List.mem_cons_self) param)

variable (stores : platform.StoresVideoPorts enabled)
include stores

/-- One handled event on the handle of a configured port. -/
theorem video_handled (listener : PwrEventListener σ) {port : VideoPortEntry}
    (configured : port ∈ platform.videoPortEntries)
    {handle : Int} (found : videoHandle platform start.settings.hal port = some handle)
    (sameTable : listener.standbyVideoPortSetting = start.standbyVideoPortSetting)
    (easMode : Bool) (event : PowerEvent) :
    enabled (listener.handlePwrEventData platform easMode event).1.settings.hal handle = true ↔
      if event.newState.isStandby then
        enabled listener.settings.hal handle = true ∧ ¬SharedWithDisabled platform start handle
      else event.newState = .on := by
  rw [handlePwrEventData_settings]
  by_cases on : event.newState = .on
  · rw [on, setAVPortsPowerState_on_video stores start.settings.hal,
      if_pos ⟨port, configured, found⟩]
    simp [PowerState.isStandby]
  · rw [setAVPortsPowerState_ne_on_video stores start.settings.hal on, sameTable]
    by_cases off : event.newState = .off
    · have disabled : ∃ port ∈ platform.videoPortEntries,
          (start.standbyVideoPortSetting.getVideoPortStandbySetting port.name = false ∨
            event.newState = .off) ∧
              videoHandle platform start.settings.hal port = some handle :=
        ⟨port, configured, Or.inr off, found⟩
      rw [if_pos disabled]
      simp [PowerState.isStandby, off]
    · have standby : event.newState.isStandby = true := by simp [PowerState.isStandby, on, off]
      simp only [off, or_false, standby, if_true]
      split_ifs with shared
      · have shared : SharedWithDisabled platform start handle := shared
        simp [shared]
      · have unshared : ¬SharedWithDisabled platform start handle := shared
        simp [unshared]

/-- One step on the handle of a configured port. -/
theorem video_step {after : PwrEventListener σ} {action : PowerAction} {effects : List Effect}
    (stepped : Stepped platform listener action after effects)
    (fixed : ∀ param, action ≠ .setStandbyVideoState param) {port : VideoPortEntry}
    (configured : port ∈ platform.videoPortEntries) {handle : Int}
    (found : videoHandle platform start.settings.hal port = some handle)
    (sameTable : listener.standbyVideoPortSetting = start.standbyVideoPortSetting) :
    enabled after.settings.hal handle = true ↔
      match handledState ⟨listener, action, effects, after⟩ with
      | none => enabled listener.settings.hal handle = true
      | some powerState =>
        if powerState.isStandby then
          enabled listener.settings.hal handle = true ∧ ¬SharedWithDisabled platform start handle
        else powerState = .on := by
  cases stepped with
  | initialized getPowerState _ => simp [handledState]
  | queued event _ => simp [handledState]
  | handled easMode event rest queue =>
      have handled := video_handled stores { listener with pwrEventQueue := rest } configured
        found sameTable easMode event
      simpa [handledState, queue] using handled
  | standbyVideoState param => exact absurd rfl (fixed param)

/-- Behind a run with a fixed table: the last state that was no standby state decides, and a
standby state behind it takes the port away when another one has its handle and setting
false. -/
theorem video_run (run : (listenerMachine platform).Run start trace listener)
    (fixed : TableFixed trace) {port : VideoPortEntry}
    (configured : port ∈ platform.videoPortEntries) {handle : Int}
    (found : videoHandle platform start.settings.hal port = some handle) :
    enabled listener.settings.hal handle = true ↔
      PoweredBy (enabled start.settings.hal handle = true) (handledStates trace) ∧
        (Asleep (handledStates trace) → ¬SharedWithDisabled platform start handle) := by
  induction run with
  | nil => simp [PoweredBy]
  | @snoc trace before action after effects prior taken ih =>
      have before := ih fixed.prior
      have last := fixed _ (List.mem_append_right _ List.mem_cons_self)
      have step := video_step stores (stepped_of_step taken) last configured found
        (table_run prior fixed.prior)
      rw [step, handledStates_append, handledStates_singleton]
      cases handledState ⟨_, action, effects, after⟩ with
      | none => simpa using before
      | some powerState =>
          simp only [Option.toList_some, asleep_snoc]
          cases standby : powerState.isStandby with
          | true =>
              rw [poweredBy_standby standby]
              simp only [if_true, forall_const]
              rw [before]
              tauto
          | false =>
              rw [poweredBy_awake standby]
              simp

/-- The status in front of a handled event, by the events handled so far. -/
theorem video_handledStates_split (run : (listenerMachine platform).Run start trace listener)
    (fixed : TableFixed trace) {earlier later : List (PowerStep σ)} {occurrence : PowerStep σ}
    (split : trace = earlier ++ occurrence :: later) {powerState : PowerState}
    (handled : handledState occurrence = some powerState) {port : VideoPortEntry}
    (configured : port ∈ platform.videoPortEntries) {handle : Int}
    (found : videoHandle platform start.settings.hal port = some handle) :
    enabled occurrence.after.settings.hal handle = true ↔
      if powerState.isStandby then
        PoweredBy (enabled start.settings.hal handle = true) (handledStates earlier) ∧
          ¬SharedWithDisabled platform start handle
      else powerState = .on := by
  subst split
  obtain ⟨prior, taken⟩ := run.at_occurrence
  have whole := prior.trans (Machine.Run.single taken)
  have fixedWhole : TableFixed (earlier ++ [occurrence]) := fun other member =>
    fixed other (by
      rcases List.mem_append.mp member with inEarlier | last
      · exact List.mem_append_left _ inEarlier
      · rw [List.mem_singleton.mp last]
        exact List.mem_append_right _ List.mem_cons_self)
  rw [video_run stores whole fixedWhole configured found, handledStates_append,
    handledStates_singleton, handled]
  simp only [Option.toList_some, asleep_snoc]
  cases standby : powerState.isStandby with
  | true =>
      rw [poweredBy_standby standby]
      simp
  | false =>
      rw [poweredBy_awake standby]
      simp

theorem videoPortEnabled_iff {state : σ} {port : VideoPortEntry} {handle : Int}
    (found : videoHandle platform state port = some handle) :
    VideoPortEnabled platform state port ↔ enabled state handle = true := by
  simp [VideoPortEnabled, found, isVideoPortEnabled, stores.reports]

/-- A configured port follows the newest power state after every event exactly when each
standby event that should leave it enabled finds it enabled: the last event before it that
was no standby event is ON (or there was none and the port was enabled at the start), and no
port with the same handle has its setting at false. -/
theorem followsNewest_iff (run : (listenerMachine platform).Run start trace listener)
    (fixed : TableFixed trace) {port : VideoPortEntry}
    (configured : port ∈ platform.videoPortEntries) {handle : Int}
    (found : videoHandle platform start.settings.hal port = some handle) :
    FollowsNewest platform start port trace ↔
      (start.standbyVideoPortSetting.getVideoPortStandbySetting port.name = true →
        ∀ before powerState after, handledStates trace = before ++ powerState :: after →
          powerState.isStandby = true →
            PoweredBy (VideoPortEnabled platform start.settings.hal port) before ∧
              ¬SharedWithDisabled platform start handle) := by
  have atStart := videoPortEnabled_iff stores found
  have atEnd : ∀ state, VideoPortEnabled platform state port ↔ enabled state handle = true :=
    fun state => videoPortEnabled_iff stores
      ((videoHandle_fixed stores state start.settings.hal port).trans found)
  constructor
  · intro follows setting before powerState after states standby
    obtain ⟨earlier, rest, traceEq, beforeEq, restEq⟩ := List.filterMap_eq_append_iff.mp states
    obtain ⟨quiet, occurrence, later, rfl, noneHandled, handled, -⟩ :=
      List.filterMap_eq_cons_iff.mp restEq
    have split : trace = (earlier ++ quiet) ++ occurrence :: later := by
      rw [traceEq, List.append_assoc]
    have reached := video_handledStates_split stores run fixed split handled configured found
    have quietNil : handledStates quiet = [] := List.filterMap_eq_nil_iff.mpr noneHandled
    have earlierEq : handledStates earlier = before := beforeEq
    rw [handledStates_append, quietNil, List.append_nil, earlierEq, ← atEnd] at reached
    rw [follows occurrence (by simp [split]) powerState handled,
      PowerState.portStatus_standby standby, setting, standby] at reached
    rw [propext atStart]
    simpa using reached
  · intro condition occurrence member powerState handled
    obtain ⟨earlier, later, split⟩ := List.append_of_mem member
    have reached := video_handledStates_split stores run fixed split handled configured found
    have states : handledStates trace =
        handledStates earlier ++ powerState :: handledStates later := by
      rw [split, handledStates_append, handledStates, handledStates, handledStates,
        List.filterMap_cons_some handled]
    rw [atEnd, reached]
    cases standby : powerState.isStandby with
    | false =>
        rcases PowerState.eq_on_or_off standby with rfl | rfl
        · simp [PowerState.portStatus]
        · simp [PowerState.portStatus]
    | true =>
        rw [PowerState.portStatus_standby standby]
        simp only [if_true]
        rw [← propext atStart]
        cases setting : start.standbyVideoPortSetting.getVideoPortStandbySetting port.name with
        | true => simpa using condition setting _ _ _ states standby
        | false =>
            have shared : SharedWithDisabled platform start handle :=
              ⟨port, configured, setting, found⟩
            simp [shared]

end Run

/-- The table in which HDMI0 stays enabled in standby. -/
def hdmiTable : StandbyTable := StandbyTable.zeroed.set "HDMI0" true

/-- ON to OFF to STANDBY. -/
def offToStandby : List PowerEvent := [⟨.on, .off⟩, ⟨.off, .standby⟩]

/-- The run that handles these events leaves HDMI0 disabled. -/
theorem run_offToStandby :
    ∃ (trace : List (PowerStep PortMemory)) (listener : PwrEventListener PortMemory),
      (listenerMachine PortMemory.platform).Run (PortMemory.listener hdmiTable offToStandby)
        trace listener ∧
      trace.map Occurrence.action = [.handlePwrEvent false, .handlePwrEvent false] ∧
      ∃ occurrence ∈ trace, handledState occurrence = some .standby ∧
        occurrence.after.settings.hal.video 1 = false :=
  ⟨_, _, Machine.play_run (show (listenerMachine PortMemory.platform).play
    (PortMemory.listener hdmiTable offToStandby) [.handlePwrEvent false, .handlePwrEvent false] =
      some (_, _) from rfl), rfl, _, List.mem_cons_of_mem _ List.mem_cons_self, rfl, rfl⟩

theorem tableFixed_of_actions {trace : List (PowerStep PortMemory)}
    (actions : trace.map Occurrence.action = [.handlePwrEvent false, .handlePwrEvent false]) :
    TableFixed trace := by
  intro occurrence member param same
  have listed : occurrence.action ∈ trace.map Occurrence.action := List.mem_map_of_mem member
  rw [actions, same] at listed
  simp at listed

theorem followsNewest_iff_offToStandby :
    ∃ trace : List (PowerStep PortMemory),
      trace.map Occurrence.action = [.handlePwrEvent false, .handlePwrEvent false] ∧
      (FollowsNewest PortMemory.platform (PortMemory.listener hdmiTable offToStandby)
          ⟨.hdmi, 0, "HDMI0"⟩ trace ↔
        (hdmiTable.getVideoPortStandbySetting "HDMI0" = true →
          ∀ before powerState after, handledStates trace = before ++ powerState :: after →
            powerState.isStandby = true →
              PoweredBy (VideoPortEnabled PortMemory.platform PortMemory.plugin.hal
                ⟨.hdmi, 0, "HDMI0"⟩) before ∧
                ¬SharedWithDisabled PortMemory.platform
                  (PortMemory.listener hdmiTable offToStandby) 1)) := by
  obtain ⟨trace, listener, run, actions, -⟩ := run_offToStandby
  exact ⟨trace, actions, followsNewest_iff PortMemory.storesVideoPorts run
    (tableFixed_of_actions actions) (List.mem_singleton.mpr rfl) rfl⟩

/-- By way of OFF the port is disabled in STANDBY although its setting keeps it enabled. -/
theorem not_followsNewest_offToStandby :
    ¬∀ (trace : List (PowerStep PortMemory)) (listener : PwrEventListener PortMemory),
      (listenerMachine PortMemory.platform).Run (PortMemory.listener hdmiTable offToStandby)
        trace listener →
      TableFixed trace →
      ∀ port ∈ PortMemory.platform.videoPortEntries,
        FollowsNewest PortMemory.platform (PortMemory.listener hdmiTable offToStandby) port
          trace := by
  intro follows
  obtain ⟨trace, listener, run, actions, occurrence, member, standby, disabled⟩ :=
    run_offToStandby
  have status := follows trace listener run (tableFixed_of_actions actions)
    ⟨.hdmi, 0, "HDMI0"⟩ (List.mem_singleton.mpr rfl) occurrence member .standby standby
  have found : videoHandle PortMemory.platform occurrence.after.settings.hal
      ⟨.hdmi, 0, "HDMI0"⟩ = some 1 := rfl
  rw [videoPortEnabled_iff PortMemory.storesVideoPorts found, disabled] at status
  exact Bool.false_ne_true (status.mpr (by decide))

end DeviceSettings.Power
