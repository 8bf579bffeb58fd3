import DeviceSettings.FrontPanel.SavedBrightness
import DeviceSettings.Power.PortStates
import DeviceSettings.Std.Component

/-!
# The power LED

The listener switches the power LED through the front panel of the plugin, which clients use as
well. A set-top box has its LED off in standby, and on with the brightness that was saved last; the
controller of a television leaves it alone.
-/

namespace DeviceSettings.Power

open DeviceSettings.FrontPanel
open DeviceSettings.Persistence
open DeviceSettings.Std

/-- The power listener and the front panel of one process. -/
structure LedSystem (σ τ : Type) where
  listener : PwrEventListener σ
  panel : Panel τ

/-- A step of the listener, or one that a client makes of the front panel. -/
inductive LedAction where
  | power (action : PowerAction)
  | panel (action : FpdAction)

section System

variable {σ τ : Type} (platform : Platform σ) (fpd : FpdHal τ)

/-- `_deviceSettings->SetFPDState(dsFPD_INDICATOR_POWER, fpdState)`. -/
def switchAction (on : Bool) : FpdAction :=
  .call (.setFPDState fpd.indicatorPower (if on then .on else .off))

/-- What an effect of the listener does to the panel: without an object behind the plugin's
interface the call is answered with `ERROR_UNAVAILABLE`. -/
def switchLed (panel : Panel τ) : Effect → Panel τ × List (FpdStep τ)
  | .setFPDState on =>
    match (frontPanel fpd).step panel (switchAction fpd on) with
    | some (after, outputs) => (after, [⟨panel, switchAction fpd on, outputs, after⟩])
    | none => (panel, [])
  | _ => (panel, [])

namespace LedSystem

/-- One step of the system, with the steps that the panel takes in it. -/
def step (system : LedSystem σ τ) : LedAction → Option (LedSystem σ τ × List (FpdStep τ))
  | .power action =>
    match (listenerMachine platform).step system.listener action with
    | some (listener, effects) =>
      let switched := sweep (switchLed fpd) system.panel effects
      some (⟨listener, switched.1⟩, switched.2)
    | none => none
  | .panel action =>
    match (frontPanel fpd).step system.panel action with
    | some (panel, outputs) =>
      some (⟨system.listener, panel⟩, [⟨system.panel, action, outputs, panel⟩])
    | none => none

end LedSystem

def ledSystem : Machine (LedSystem σ τ) LedAction (FpdStep τ) := ⟨LedSystem.step platform fpd⟩

abbrev LedStep (σ τ : Type) := Occurrence (LedSystem σ τ) LedAction (FpdStep τ)

/-- Whether the LED is switched on or off for a power state, if at all. -/
def ledSwitch (profile : Option ProductProfile) (powerState : PowerState) : Option Bool :=
  match profile with
  | some .stb | some .stbEurope => some (powerState == .on)
  | some .tv | some .tvEurope => none
  | none =>
    if platform.ledSyncInBootup then some (powerState == .on || platform.tvProfile) else none

/-- The power state that a step handles. -/
def LedStep.handled (step : LedStep σ τ) : Option PowerState :=
  match step.action with
  | .power action => handledState ⟨step.before.listener, action, [], step.after.listener⟩
  | .panel _ => none

/-- The action may change the brightness of the power LED. -/
def TellsLed : FpdAction → Prop
  | .call (.setFPDBrightness indicator _ _) => indicator = fpd.indicatorPower
  | .call (.setFPDState indicator _) => indicator = fpd.indicatorPower
  | .deInitialiseHAL => True
  | _ => False

/-- What another component persists is read back. -/
def LedAction.ReadsBack : LedAction → Prop
  | .panel action => action.ReadsBack
  | .power _ => True

/-- A HAL that accepts its calls and remembers the brightness of each indicator. -/
structure Lights (held : τ → Nat → UInt32) : Prop where
  inits : ∀ state, (fpd.dsFPInit state).1 = .ok ()
  accepts : ∀ state indicator brightness,
    (fpd.dsSetFPBrightness state indicator brightness).1 = .ok ()
  told : ∀ state indicator brightness,
    held (fpd.dsSetFPBrightness state indicator brightness).2 =
      Function.update (held state) indicator brightness
  color : ∀ state indicator color, held (fpd.dsSetFPColor state indicator color).2 = held state
  mode : ∀ state mode, held (fpd.dsSetFPDMode state mode).2 = held state
  power : fpd.indicatorPower < fpd.indicatorMax

/-- The panel is initialised, and the power LED has this brightness. -/
structure Shines (held : τ → Nat → UInt32) (brightness : UInt32) (panel : Panel τ) : Prop where
  initialized : panel.isPlatInitialized = true
  held : held panel.hal fpd.indicatorPower = brightness

/-! ### What the listener asks of the LED -/

/-- What an effect asks of the LED. -/
def switched? : Effect → Option Bool
  | .setFPDState on => some on
  | _ => none

variable {fpd}

@[simp] theorem sweep_switched {State Item : Type} {body : State → Item → State × List Effect}
    (quiet : ∀ state item, (body state item).2.filterMap switched? = []) (state : State)
    (items : List Item) : (sweep body state items).2.filterMap switched? = [] := by
  induction items generalizing state with
  | nil => rfl
  | cons item rest ih => rw [sweep_cons, List.filterMap_append, quiet, ih]; rfl

theorem switched_configureVideoPort (plugin : Audio.Plugin σ) (port : VideoPortEntry)
    (enable : Bool) :
    (configureVideoPort platform plugin port enable).2.2.filterMap switched? = [] := by
  unfold configureVideoPort
  split
  · rfl
  · split_ifs <;> rfl

theorem switched_configureAudioPort (plugin : Audio.Plugin σ) (port : AudioPortEntry)
    (enable : Bool) :
    (configureAudioPort platform plugin port enable).2.2.filterMap switched? = [] := by
  unfold configureAudioPort
  split
  · rfl
  · split_ifs
    · rfl
    · split <;> rfl
    · rfl

/-- The ports are configured without the LED. -/
theorem switched_setAVPortsPowerState (table : StandbyTable) (easMode : Bool)
    (plugin : Audio.Plugin σ) (powerState : PowerState) :
    (setAVPortsPowerState platform table easMode plugin powerState).2.filterMap switched? = [] := by
  have leaves : ∀ plugin port,
      (leaveVideoPort platform table powerState plugin port).2.filterMap switched? = [] := by
    intro plugin port
    simp only [leaveVideoPort]
    split_ifs
    · exact switched_configureVideoPort platform plugin port false
    · rfl
  have videos : ∀ enable plugin,
      (configureVideoPorts platform plugin enable).2.filterMap switched? = [] :=
    fun enable plugin => sweep_switched (fun plugin port => switched_configureVideoPort platform plugin port enable) _ _
  have audios : ∀ enable plugin,
      (configureAudioPorts platform plugin enable).2.filterMap switched? = [] :=
    fun enable plugin => sweep_switched (fun plugin port => switched_configureAudioPort platform plugin port enable) _ _
  unfold setAVPortsPowerState
  split_ifs
  · simp [leaveVideoPorts, sweep_switched leaves, audios]
  · simp [videos, audios, switched?]
  · simp [videos, audios]

theorem switched_setStandbyVideoState (listener : PwrEventListener σ)
    (param : StandbyVideoStateParam) :
    (listener.setStandbyVideoState platform param).2.filterMap switched? = [] := by
  unfold PwrEventListener.setStandbyVideoState PwrEventListener.applyStandbySetting
  dsimp only
  split_ifs
  · split
    · rfl
    · simp [switched_configureVideoPort platform, switched?]
  · rfl

/-- The controller is one for this product. -/
structure ForProfile (profile : Option ProductProfile) (ux : Option UXController) : Prop where
  profile : ux.map UXController.profile = profile
  leds : ∀ controller ∈ ux, (controller.profile = .stb ∨ controller.profile = .stbEurope) →
    controller.ledEnabledInOnState = true ∧ controller.ledEnabledInStandby = false

theorem forProfile_ofProfile (profile : Option ProductProfile) :
    ForProfile profile (profile.map .ofProfile) := by
  cases profile with
  | none => exact ⟨rfl, by simp⟩
  | some profile => cases profile <;> exact ⟨rfl, by simp [UXController.ofProfile]⟩

theorem switched_setBootloaderPatternInternal (ux : UXController) (pattern : BootloaderPattern) :
    (ux.setBootloaderPatternInternal pattern).2.filterMap switched? = [] := by
  unfold UXController.setBootloaderPatternInternal
  dsimp only
  split_ifs <;> rfl

/-- What a controller asks of the LED. -/
theorem switched_applyPowerStateChangeConfig {profile : Option ProductProfile}
    {ux : UXController} (product : ForProfile profile (some ux)) (newState : PowerState) :
    (ux.applyPowerStateChangeConfig newState).2.filterMap switched? =
        (ledSwitch platform profile newState).toList ∧
      ForProfile profile (some (ux.applyPowerStateChangeConfig newState).1) := by
  obtain rfl : some ux.profile = profile := product.profile
  have own := product.leds ux rfl
  unfold UXController.applyPowerStateChangeConfig
  cases which : ux.profile with
  | tv =>
      refine ⟨by simp [switched_setBootloaderPatternInternal, ledSwitch], ?_⟩
      exact ⟨by simp [UXController.setBootloaderPatternInternal], by
        simp [UXController.setBootloaderPatternInternal]⟩
  | tvEurope =>
      refine ⟨by simp [switched_setBootloaderPatternInternal, ledSwitch], ?_⟩
      exact ⟨by simp [UXController.setBootloaderPatternInternal, which], by
        simp [UXController.setBootloaderPatternInternal, which]⟩
  | stb =>
      obtain ⟨lit, dark⟩ := own (.inl which)
      refine ⟨?_, by simpa [which] using product⟩
      by_cases awake : newState = .on <;>
        simp [UXController.syncPowerLedWithPowerState, switched?, ledSwitch, lit, dark, awake]
  | stbEurope =>
      obtain ⟨lit, dark⟩ := own (.inr which)
      refine ⟨?_, by simpa [which] using product⟩
      by_cases awake : newState = .on <;>
        simp [UXController.syncPowerLedWithPowerState, switched?, ledSwitch, lit, dark, awake]

/-- What handling an event asks of the LED. -/
theorem switched_handlePwrEventData (listener : PwrEventListener σ) (easMode : Bool)
    (event : PowerEvent) {profile : Option ProductProfile}
    (product : ForProfile profile listener.ux) :
    (listener.handlePwrEventData platform easMode event).2.filterMap switched? =
        (ledSwitch platform profile event.newState).toList ∧
      ForProfile profile (listener.handlePwrEventData platform easMode event).1.ux := by
  have ports := switched_setAVPortsPowerState platform
    listener.standbyVideoPortSetting easMode listener.settings event.newState
  unfold PwrEventListener.handlePwrEventData
  dsimp only
  cases controller : listener.ux with
  | none =>
      obtain rfl : none = profile := by simpa [controller] using product.profile
      refine ⟨?_, by simpa [controller] using product⟩
      by_cases sync : platform.ledSyncInBootup = true <;>
        simp [sync, ports, ledSwitch, setLEDStatus, switched?]
  | some ux =>
      rw [controller] at product
      obtain ⟨asked, kept⟩ :=
        switched_applyPowerStateChangeConfig platform product event.newState
      refine ⟨?_, kept⟩
      dsimp only
      rw [List.filterMap_append, ports, List.nil_append, asked]

variable {platform}

/-- What a step of the listener asks of the LED. -/
theorem switched_step {listener after : PwrEventListener σ} {action : PowerAction}
    {effects : List Effect} {profile : Option ProductProfile}
    (taken : (listenerMachine platform).step listener action = some (after, effects))
    (product : ForProfile profile listener.ux) :
    effects.filterMap switched? =
        ((handledState ⟨listener, action, effects, after⟩).bind
          (ledSwitch platform profile)).toList ∧
      ForProfile profile after.ux := by
  cases stepped_of_step taken with
  | initialized getPowerState =>
      refine ⟨rfl, ?_⟩
      rcases getPowerState with _ | _ | _ <;> exact product
  | queued => exact ⟨rfl, product⟩
  | handled easMode event rest queue =>
      obtain ⟨asked, kept⟩ := switched_handlePwrEventData platform
        { listener with pwrEventQueue := rest } easMode event product
      refine ⟨?_, kept⟩
      rw [asked]
      simp [handledState, queue]
  | standbyVideoState param =>
      refine ⟨switched_setStandbyVideoState platform listener param, ?_⟩
      unfold PwrEventListener.setStandbyVideoState PwrEventListener.applyStandbySetting
      dsimp only
      split_ifs
      · split <;> exact product
      · exact product

/-! ### What the panel does -/

/-- Only what is asked of the LED matters to the panel. -/
theorem sweep_switchLed (panel : Panel τ) (effects : List Effect) :
    sweep (switchLed fpd) panel effects =
      sweep (fun panel on => switchLed fpd panel (.setFPDState on)) panel
        (effects.filterMap switched?) := by
  induction effects generalizing panel with
  | nil => rfl
  | cons effect rest ih =>
      cases effect with
      | setFPDState on =>
          rw [List.filterMap_cons_some (show switched? (.setFPDState on) = some on from rfl),
            sweep_cons, sweep_cons, ih]
      | _ =>
          rw [List.filterMap_cons_none (by rfl), sweep_cons, ih]
          rfl

theorem run_switchLed (panel : Panel τ) (effect : Effect) :
    (frontPanel fpd).Run panel (switchLed fpd panel effect).2 (switchLed fpd panel effect).1 := by
  cases effect with
  | setFPDState on =>
      simp only [switchLed]
      split
      next after outputs taken => exact .single taken
      · exact .nil
  | _ => exact .nil

theorem run_sweep (panel : Panel τ) (effects : List Effect) :
    (frontPanel fpd).Run panel (sweep (switchLed fpd) panel effects).2
      (sweep (switchLed fpd) panel effects).1 := by
  induction effects generalizing panel with
  | nil => exact .nil
  | cons effect rest ih => exact (run_switchLed panel effect).trans (ih _)

/-- A step of the system: the panel does what the listener asks, or what a client calls. -/
inductive LedStepped (platform : Platform σ) (fpd : FpdHal τ) (system : LedSystem σ τ) :
    LedAction → LedSystem σ τ → List (FpdStep τ) → Prop where
  | power (action : PowerAction) {listener : PwrEventListener σ} {asked : List Effect}
      (taken : (listenerMachine platform).step system.listener action = some (listener, asked)) :
      LedStepped platform fpd system (.power action)
        ⟨listener, (sweep (switchLed fpd) system.panel asked).1⟩
        (sweep (switchLed fpd) system.panel asked).2
  | panel (action : FpdAction) {panel : Panel τ} {outputs : List FpdOutput}
      (taken : (frontPanel fpd).step system.panel action = some (panel, outputs)) :
      LedStepped platform fpd system (.panel action) ⟨system.listener, panel⟩
        [⟨system.panel, action, outputs, panel⟩]

theorem ledStepped_of_step {system after : LedSystem σ τ} {action : LedAction}
    {effects : List (FpdStep τ)}
    (taken : (ledSystem platform fpd).step system action = some (after, effects)) :
    LedStepped platform fpd system action after effects := by
  cases action with
  | power action =>
      simp only [ledSystem, LedSystem.step] at taken
      split at taken
      next listener asked stepped =>
          obtain ⟨rfl, rfl⟩ := Prod.mk.inj (Option.some.inj taken)
          exact .power action stepped
      next => cases taken
  | panel action =>
      simp only [ledSystem, LedSystem.step] at taken
      split at taken
      next panel outputs done =>
          obtain ⟨rfl, rfl⟩ := Prod.mk.inj (Option.some.inj taken)
          exact .panel action done
      next => cases taken

variable (platform fpd) in
/-- The front panel as a component of the system. -/
def panelComponent : Component (ledSystem platform fpd) (frontPanel fpd) where
  stateOf := LedSystem.panel
  stepsOf := Occurrence.effects
  runs := by
    intro before action effects after taken
    cases ledStepped_of_step taken with
    | power action => exact run_sweep before.panel _
    | panel action done => exact .single done

theorem readsBack_sweep (panel : Panel τ) (effects : List Effect) :
    ∀ made ∈ (sweep (switchLed fpd) panel effects).2, made.action.ReadsBack := by
  induction effects generalizing panel with
  | nil => exact fun _ impossible => absurd impossible List.not_mem_nil
  | cons effect rest ih =>
      intro made member
      rw [sweep_cons] at member
      rcases List.mem_append.mp member with first | later
      · cases effect with
        | setFPDState on =>
            simp only [switchLed] at first
            split at first
            · rw [List.mem_singleton.mp first]
              trivial
            · cases first
        | _ => cases first
      · exact ih _ made later

theorem readsBack_step {system after : LedSystem σ τ} {action : LedAction}
    {effects : List (FpdStep τ)}
    (taken : (ledSystem platform fpd).step system action = some (after, effects))
    (readsBack : action.ReadsBack) : ∀ made ∈ effects, made.action.ReadsBack := by
  cases ledStepped_of_step taken with
  | power action => exact readsBack_sweep system.panel _
  | panel action =>
      intro made member
      rw [List.mem_singleton.mp member]
      exact readsBack

section Lit

variable {held : τ → Nat → UInt32} (lights : Lights fpd held)

include lights in
theorem ensurePlatInit_of_lights (panel : Panel τ) :
    (panel.ensurePlatInit fpd).1 = true ∧
      (panel.ensurePlatInit fpd).2.1.isPlatInitialized = true ∧
      ∀ effect ∈ (panel.ensurePlatInit fpd).2.2, Panel.IsInit effect := by
  by_cases initialized : panel.isPlatInitialized = true
  · simp [Panel.ensurePlatInit, initialized]
  · have accepted := lights.inits panel.hal
    have tried : (retryInit fpd 20 panel.hal).1 = true := by
      unfold retryInit
      split
      · rfl
      next refused => rw [refused] at accepted; cases accepted
    refine ⟨by simp [Panel.ensurePlatInit, initialized, tried],
      by simp [Panel.ensurePlatInit, initialized, tried, Panel.readPersistence], ?_⟩
    simp only [Panel.ensurePlatInit, initialized, tried, if_true]
    exact fun effect => Panel.isInit_of_mem_retryInit fpd

include lights in
theorem callBrightness_of_lights (panel : Panel τ) (indicator : Nat) (brightness : UInt32)
    (finish : Panel τ → Panel τ) :
    panel.callBrightness fpd indicator brightness finish =
      (.ok (),
        finish { panel with hal := (fpd.dsSetFPBrightness panel.hal indicator brightness).2 },
        [.dsSetFPBrightness indicator brightness true]) := by
  have accepts := lights.accepts panel.hal indicator brightness
  unfold Panel.callBrightness
  generalize fpd.dsSetFPBrightness panel.hal indicator brightness = called at accepts ⊢
  obtain ⟨answer, state⟩ := called
  dsimp only at accepts
  subst accepts
  rfl

include lights in
/-- The LED is switched on with what the panel shows, and off with 0. -/
theorem step_switchAction {panel : Panel τ} (constructed : panel.isInitialized = true)
    (on : Bool) :
    ∃ after outputs, (frontPanel fpd).step panel (switchAction fpd on) = some (after, outputs) ∧
      after.isPlatInitialized = true ∧
      (on = true → held after.hal fpd.indicatorPower ∈
        shownBrightness ⟨panel, switchAction fpd on, outputs, after⟩) ∧
      (on = false → held after.hal fpd.indicatorPower = 0) := by
  obtain ⟨done, ready, inits⟩ := ensurePlatInit_of_lights lights panel
  have taken : (frontPanel fpd).step panel (switchAction fpd on) = some
      ((panel.make fpd (.setFPDState fpd.indicatorPower (if on then .on else .off))).2.1,
        (panel.make fpd (.setFPDState fpd.indicatorPower (if on then .on else .off))).2.2.map
          .effect ++ [.returned
            (panel.make fpd (.setFPDState fpd.indicatorPower (if on then .on else .off))).1]) := by
    simp only [frontPanel, Panel.step, switchAction, constructed, if_true]
  refine ⟨_, _, taken, ?_⟩
  simp only [shownBrightness, switchAction, returnedIn_outputs, effectsIn_outputs,
    Option.elim_some]
  cases on <;>
    simp [Panel.make, Panel.answered, Panel.setFPDState, Panel.behindPlatInit, done, ready,
      lights.power, callBrightness_of_lights lights, Panel.setSettings, lights.told,
      Panel.shownBy, Panel.toldBrightness_tries inits, Panel.toldBrightness]

include lights in
theorem held_make {panel : Panel τ} {call : FpdCall} (ready : panel.isPlatInitialized = true)
    (quiet : ¬TellsLed fpd (.call call)) :
    (panel.make fpd call).2.1.isPlatInitialized = true ∧
      held (panel.make fpd call).2.1.hal fpd.indicatorPower =
        held panel.hal fpd.indicatorPower := by
  have behind : ∀ {α : Type} (act : Panel τ → Panel.Called τ α),
      (panel.behindPlatInit fpd act).2.1 = (act panel).2.1 := by
    intro α act
    simp [Panel.behindPlatInit, Panel.ensurePlatInit, ready]
  cases call with
  | setFPDBrightness indicator brightNess persist =>
      have other : fpd.indicatorPower ≠ indicator := Ne.symm quiet
      simp only [Panel.make, Panel.answered, Panel.setFPDBrightness, behind]
      split_ifs
      · rw [callBrightness_of_lights lights]
        exact ⟨ready, by simp [Panel.setSettings, lights.told, Function.update_of_ne other]⟩
      · rw [callBrightness_of_lights lights]
        exact ⟨ready, by simp [Panel.setSettings, lights.told, Function.update_of_ne other]⟩
      · exact ⟨ready, rfl⟩
  | setFPDState indicator state =>
      have other : fpd.indicatorPower ≠ indicator := Ne.symm quiet
      simp only [Panel.make, Panel.answered, Panel.setFPDState, behind]
      split_ifs
      · split
        · rw [callBrightness_of_lights lights]
          exact ⟨ready, by simp [Panel.setSettings, lights.told, Function.update_of_ne other]⟩
        · rw [callBrightness_of_lights lights]
          exact ⟨ready, by simp [Panel.setSettings, lights.told, Function.update_of_ne other]⟩
        · exact ⟨ready, rfl⟩
      · exact ⟨ready, rfl⟩
  | setFPDColor indicator color =>
      simp only [Panel.make, Panel.answered, Panel.setFPDColor, behind]
      split_ifs
      · split <;> exact ⟨ready, by simp [Panel.setSettings, lights.color]⟩
      · split <;> exact ⟨ready, by simp [Panel.setSettings, lights.color]⟩
      · exact ⟨ready, rfl⟩
  | getFPDColor indicator =>
      simp only [Panel.make, Panel.answered, Panel.getFPDColor, behind]
      split_ifs
      · split <;> exact ⟨ready, rfl⟩
      · exact ⟨ready, rfl⟩
  | getFPDBrightness indicator persist =>
      simp only [Panel.make, Panel.answered, Panel.getFPDBrightness, behind]
      split_ifs <;> exact ⟨ready, rfl⟩
  | getFPDState indicator =>
      simp only [Panel.make, Panel.answered, Panel.getFPDState, behind]
      split_ifs <;> exact ⟨ready, rfl⟩
  | setFPDMode mode =>
      simp only [Panel.make, Panel.answered, Panel.setFPDMode]
      split <;> exact ⟨ready, by simp [lights.mode]⟩

include lights in
/-- A step that does not tell the LED leaves it as it is. -/
theorem Shines.step {before after : Panel τ} {brightness : UInt32}
    (shines : Shines fpd held brightness before) {action : FpdAction} {outputs : List FpdOutput}
    (taken : (frontPanel fpd).step before action = some (after, outputs))
    (quiet : ¬TellsLed fpd action) : Shines fpd held brightness after := by
  cases action with
  | initialiseHAL =>
      simp only [frontPanel, Panel.step] at taken
      split_ifs at taken with constructed
      obtain ⟨rfl, -⟩ := Prod.mk.inj (Option.some.inj taken)
      unfold Panel.initialiseHAL
      rw [if_neg constructed]
      exact ⟨shines.initialized, shines.held⟩
  | deInitialiseHAL => exact absurd trivial quiet
  | call call =>
      simp only [frontPanel, Panel.step] at taken
      split_ifs at taken
      obtain ⟨rfl, -⟩ := Prod.mk.inj (Option.some.inj taken)
      obtain ⟨ready, same⟩ := held_make lights shines.initialized quiet
      exact ⟨ready, same.trans shines.held⟩
  | otherProperty key value =>
      simp only [frontPanel, Panel.step] at taken
      split_ifs at taken
      obtain ⟨rfl, -⟩ := Prod.mk.inj (Option.some.inj taken)
      exact ⟨shines.initialized, shines.held⟩

/-! ### Runs -/

/-- The controller stays the one of the product. -/
theorem forProfile_run {profile : Option ProductProfile} {start system : LedSystem σ τ}
    {trace : List (LedStep σ τ)} (run : (ledSystem platform fpd).Run start trace system)
    (product : ForProfile profile start.listener.ux) : ForProfile profile system.listener.ux := by
  suffices kept : ∀ before action after effects, ForProfile profile before.listener.ux →
      (ledSystem platform fpd).step before action = some (after, effects) →
        ForProfile profile after.listener.ux from run.invariant product kept
  intro before action after effects product taken
  cases ledStepped_of_step taken with
  | power action stepped => exact (switched_step stepped product).2
  | panel action => exact product

/-- A step that handles a power state switches the LED as the product has it, and takes no other
step of the panel. -/
theorem handled_step {profile : Option ProductProfile} {step : LedStep σ τ}
    {powerState : PowerState}
    (taken : (ledSystem platform fpd).step step.before step.action =
      some (step.after, step.effects))
    (product : ForProfile profile step.before.listener.ux)
    (handled : step.handled = some powerState) :
    (step.after.panel, step.effects) =
      match ledSwitch platform profile powerState with
      | some on => switchLed fpd step.before.panel (.setFPDState on)
      | none => (step.before.panel, []) := by
  obtain ⟨before, action, made, after⟩ := step
  dsimp only at taken product ⊢
  cases ledStepped_of_step taken with
  | panel action => cases handled
  | @power action listener asked stepped =>
      have asks := (switched_step stepped product).1
      rw [show handledState ⟨before.listener, action, asked, listener⟩ = some powerState from
        handled, Option.bind_some] at asks
      rw [sweep_switchLed, asks]
      cases ledSwitch platform profile powerState with
      | none => rfl
      | some on => simp [sweep_cons]

include lights in
/-- Behind a handled event the LED is as the product has it for the new state, until it is told
something else: a set-top box has it on with the brightness that was saved last, in this process
or in one before it, and off in standby. The controller of a television does not touch it. -/
theorem led_follows_power {first store : LoadedStore} {earlier : List (FpdStep τ)}
    {trace later : List (LedStep σ τ)} {step : LedStep σ τ} {profile : Option ProductProfile}
    {settings : Audio.Plugin σ} {state : τ} {system : LedSystem σ τ} {powerState : PowerState}
    (durable : first.Durable) (lives : (panelProcess fpd).Lives first earlier store)
    (run : (ledSystem platform fpd).Run
      ⟨.constructed (profile.map .ofProfile) settings, .ofProcess fpd state store.reopened⟩
      (trace ++ step :: later) system)
    (earlierReadsBack : ∀ made ∈ earlier, made.action.ReadsBack)
    (readsBack : ∀ other ∈ trace, other.action.ReadsBack)
    (constructed : step.before.panel.isInitialized = true)
    (handled : step.handled = some powerState)
    (quiet : ∀ other ∈ later, ∀ made ∈ other.effects, ¬TellsLed fpd made.action) :
    let held := held system.panel.hal fpd.indicatorPower
    let here := (panelComponent platform fpd).traceOf trace
    let last := ((lastOf (savedBrightness fpd) (earlier ++ here)).map (defaulted fpd)).getD
      (startupBrightness fpd first)
    match ledSwitch platform profile powerState with
    | some true =>
      defaulted fpd held = last ∧ (lastOf (savedBrightness fpd) here = none → held = last)
    | some false => held = 0
    | none => step.effects = [] ∧ step.after.panel = step.before.panel := by
  intro shown here last
  obtain ⟨prior, taken⟩ := run.at_occurrence
  have stepped := handled_step taken (forProfile_run prior (forProfile_ofProfile profile)) handled
  cases switch : ledSwitch platform profile powerState with
  | none =>
      rw [switch] at stepped
      exact ⟨(Prod.mk.inj stepped).2, (Prod.mk.inj stepped).1⟩
  | some on =>
      obtain ⟨after, outputs, told, ready, lit, dark⟩ := step_switchAction lights constructed on
      rw [switch] at stepped
      simp only [switchLed, told] at stepped
      have reached : (panelComponent platform fpd).stateOf step.after = after :=
        (Prod.mk.inj stepped).1
      have stays : Shines fpd held (held after.hal fpd.indicatorPower)
          ((panelComponent platform fpd).stateOf system) := by
        apply (panelComponent platform fpd).invariant_of_steps run.behind_occurrence quiet
        · rw [reached]
          exact ⟨ready, rfl⟩
        · exact fun _ _ _ _ shines taken' untold => shines.step lights taken' untold
      cases on with
      | false => exact stays.held.trans (dark rfl)
      | true =>
          have inside := (panelComponent platform fpd).run prior
          have bothReadBack : ∀ made ∈ earlier ++ here, made.action.ReadsBack := by
            intro made member
            rcases List.mem_append.mp member with before | within
            · exact earlierReadsBack made before
            · obtain ⟨other, listed, own⟩ := List.mem_flatMap.mp within
              exact readsBack_step (prior.step_of_mem listed) (readsBack other listed) made own
          have found := shown_within durable lives inside bothReadBack told (lit rfl)
          rw [← stays.held] at found
          exact found

end Lit
end System

/-! ### A set-top box -/

namespace LedMemory

/-- A HAL that remembers the brightness of each indicator. -/
def hal : FpdHal (Nat → UInt32) where
  dsFPInit memory := (.ok (), memory)
  dsFPTerm memory := memory
  dsSetFPBrightness memory indicator brightness :=
    (.ok (), Function.update memory indicator brightness)
  dsGetFPBrightness memory indicator := .ok (memory indicator)
  dsSetFPColor memory _ _ := (.ok (), memory)
  dsGetFPColor _ _ := .ok 0
  dsSetFPDMode memory _ := (.ok (), memory)
  indicatorPower := 1
  indicatorMax := 5
  brightnessMax := 100
  brightnessDefault := 80
  dsFPDColorIsValid _ := true
  blue := 0x0000FF
  green := 0x00FF00
  red := 0xFF0000
  yellow := 0xFFFFE0
  orange := 0xFFA500
  labels := by decide

theorem lights : Lights hal fun memory => memory where
  inits _ := rfl
  accepts _ _ _ := rfl
  told _ _ _ := rfl
  color _ _ _ := rfl
  mode _ _ := rfl
  power := by decide

/-- A store file that is not there yet. -/
def store : LoadedStore := .ofStore (.ofStoreFile "/opt/ds/hostData") fun _ => .absent

/-- The process comes up on this store. -/
def start : LedSystem PortMemory (Nat → UInt32) :=
  ⟨.constructed ((some .stbEurope).map .ofProfile) PortMemory.plugin,
    .ofProcess hal (fun _ => 0) store.reopened⟩

/-- The panel is constructed and the PowerManager found, a client saves a brightness of 40, and the
box goes to standby. -/
def actions : List LedAction :=
  [.panel .initialiseHAL, .power (.initializePowerManager (some (.ok .on))),
    .panel (.call (.setFPDBrightness 1 40 true)), .power (.onPowerModeChanged ⟨.on, .standby⟩),
    .power (.handlePwrEvent false), .power (.onPowerModeChanged ⟨.standby, .on⟩)]

/-- A run of these actions, and the one that wakes the box up. -/
theorem run_actions : ∃ trace step system,
    (ledSystem PortMemory.platform hal).Run start (trace ++ [step]) system ∧
      trace.map Occurrence.action = actions ∧ step.before.panel.isInitialized = true ∧
      LedStep.handled step = some .on := by
  have played : (ledSystem PortMemory.platform hal).play start
      (actions ++ [.power (.handlePwrEvent false)]) = some (_, [_, _, _, _, _, _, _]) := rfl
  exact ⟨[_, _, _, _, _, _], _, _, Machine.play_run played, rfl, rfl, rfl⟩

end LedMemory

theorem led_follows_power_awake :
    ∃ (trace : List (LedStep PortMemory (Nat → UInt32)))
      (system : LedSystem PortMemory (Nat → UInt32)),
      let here := (panelComponent PortMemory.platform LedMemory.hal).traceOf trace
      let last := ((lastOf (savedBrightness LedMemory.hal) here).map
        (defaulted LedMemory.hal)).getD (startupBrightness LedMemory.hal LedMemory.store)
      trace.map Occurrence.action = LedMemory.actions ∧
        defaulted LedMemory.hal (system.panel.hal 1) = last ∧
          (lastOf (savedBrightness LedMemory.hal) here = none → system.panel.hal 1 = last) := by
  obtain ⟨trace, step, system, run, same, constructed, handled⟩ := LedMemory.run_actions
  have durable : LedMemory.store.Durable := LoadedStore.durable_of_no_file rfl
  have readsBack : ∀ other ∈ trace, other.action.ReadsBack := by
    intro other member
    have listed : other.action ∈ trace.map Occurrence.action := List.mem_map_of_mem member
    rw [same] at listed
    simp only [LedMemory.actions, List.mem_cons, List.not_mem_nil, or_false] at listed
    rcases listed with same | same | same | same | same | same <;> rw [same] <;> trivial
  refine ⟨trace, system, same, ?_⟩
  exact led_follows_power LedMemory.lights durable .nil
    (show (ledSystem _ _).Run ⟨.constructed ((some .stbEurope).map .ofProfile) PortMemory.plugin,
      .ofProcess LedMemory.hal _ LedMemory.store.reopened⟩ (trace ++ step :: []) system from run)
    (fun _ impossible => absurd impossible List.not_mem_nil) readsBack constructed handled
    (fun _ impossible => absurd impossible List.not_mem_nil)

end DeviceSettings.Power
