import DeviceSettings.Audio.PortSettings
import DeviceSettings.Std.Sweep

/-!
# What `audioConfigInit` leaves of the port settings

Each section changes one setting of the ports on its list and leaves the store alone, so the
sections can be taken one after another.
-/

namespace DeviceSettings.Audio

open DeviceSettings.Std
open DeviceSettings.Persistence

/-- What the HAL has of a port, beside its level. -/
structure PortSettings where
  gain : AudioLevel
  muted : Bool
  delay : Nat
  deriving DecidableEq

/-- The HAL has all symbols, every call succeeds, and each setter stores its argument under its
handle. -/
structure PortSettingsHal.Stores {σ : Type} (hal : PortSettingsHal σ)
    (held : σ → Int → PortSettings) : Prop where
  ports : hal.DistinctPorts
  resolved : ∀ symbol, hal.resolves symbol = true
  getsMute : ∀ state handle, hal.dsIsAudioMute state handle = .ok (held state handle).muted
  setsGain : ∀ state handle gain, (hal.dsSetAudioGain state handle gain).1 = .ok () ∧
    held (hal.dsSetAudioGain state handle gain).2 =
      Function.update (held state) handle { held state handle with gain := gain }
  setsMute : ∀ state handle mute, (hal.dsSetAudioMute state handle mute).1 = .ok () ∧
    held (hal.dsSetAudioMute state handle mute).2 =
      Function.update (held state) handle { held state handle with muted := mute }
  setsDelay : ∀ state handle delay, (hal.dsSetAudioDelay state handle delay).1 = .ok () ∧
    held (hal.dsSetAudioDelay state handle delay).2 =
      Function.update (held state) handle { held state handle with delay := delay }
  setsLevel : ∀ state handle level, (hal.dsSetAudioLevel state handle level).1 = .ok () ∧
    held (hal.dsSetAudioLevel state handle level).2 = held state

section Sections

variable {σ : Type} {hal : PortSettingsHal σ} {held : σ → Int → PortSettings}

/-- The settings the HAL has for a port. -/
def portView (hal : PortSettingsHal σ) (held : σ → Int → PortSettings)
    (portType : DsAudioPortType) (state : VolumePlugin σ) : Option PortSettings :=
  match hal.dsGetAudioPort state.plugin.hal portType 0 with
  | .ok handle => some (held state.plugin.hal handle)
  | .error _ => none

/-- What startup finds in the store for a port. -/
def storedText (store : HostPersistence) (key : DsAudioPortType → Option String)
    (fallback : String) (portType : DsAudioPortType) : String :=
  match key portType with
  | some key =>
    ((store.properties.find? key).or (store.defaultProperties.find? key)).getD fallback
  | none => fallback

/-- The plugin is still up, on the same store. -/
structure SameStore (start state : VolumePlugin σ) : Prop where
  up : state.plugin.Up
  store : state.plugin.store = start.plugin.store

/-- What one turn of a section does: the settings under one handle are changed by the text. -/
structure Applies (held : σ → Int → PortSettings)
    (apply : DsAudioPortType → Int → String → VolumePlugin σ → VolumePlugin σ)
    (change : String → PortSettings → PortSettings) : Prop where
  same : ∀ portType handle text (state : VolumePlugin σ),
    (apply portType handle text state).plugin.audio.isInitialized =
        state.plugin.audio.isInitialized ∧
      (apply portType handle text state).plugin.store = state.plugin.store
  held : ∀ portType handle text (state : VolumePlugin σ),
    held (apply portType handle text state).plugin.hal =
      Function.update (held state.plugin.hal) handle
        (change text (held state.plugin.hal handle))

variable (stores : hal.Stores held)

include stores in
theorem applies_gain :
    Applies held (VolumePlugin.applyGain hal) fun text settings =>
      { settings with gain := atof text } where
  same _ _ _ _ := ⟨rfl, rfl⟩
  held _ handle text state := (stores.setsGain state.plugin.hal handle (atof text)).2

include stores in
theorem applies_level :
    Applies held (VolumePlugin.applyLevel hal) fun _ settings => settings where
  same _ _ _ _ := ⟨rfl, rfl⟩
  held _ handle text state := by
    rw [Function.update_eq_self]
    exact (stores.setsLevel state.plugin.hal handle (atof text)).2

include stores in
theorem applies_delay :
    Applies held (VolumePlugin.applyDelay hal) fun text settings =>
      { settings with delay := (atoi text % 2 ^ 32).toNat } where
  same _ _ _ _ := ⟨rfl, rfl⟩
  held _ handle _ state := (stores.setsDelay state.plugin.hal handle _).2

section Section

variable {key : DsAudioPortType → Option String}
  (named : ∀ portType own, key portType = some own → own ≠ "")
  {apply : DsAudioPortType → Int → String → VolumePlugin σ → VolumePlugin σ}
  {change : String → PortSettings → PortSettings} (applies : Applies held apply change)

include named in
theorem initializePort_eq {state : VolumePlugin σ} (ready : state.plugin.store.isInitialized = true)
    (fallback : String) (portType : DsAudioPortType) :
    state.initializePort hal key fallback apply portType =
      match hal.dsGetAudioPort state.plugin.hal portType 0 with
      | .error _ => state
      | .ok handle =>
        apply portType handle (storedText state.plugin.store key fallback portType) state := by
  unfold VolumePlugin.initializePort storedText
  cases hal.dsGetAudioPort state.plugin.hal portType 0 with
  | error _ => rfl
  | ok handle =>
      cases keyed : key portType with
      | none => rfl
      | some own =>
          exact congrArg (fun read : String × Plugin σ =>
              apply portType handle read.1 { state with plugin := read.2 })
            (Plugin.readProperty_of_ready ready (named portType own keyed) fallback)

include named in
theorem foldl_initializePort_keeps (Holds : VolumePlugin σ → Prop)
    (ready : ∀ state, Holds state → state.plugin.store.isInitialized = true)
    (each : ∀ portType handle text state, Holds state → Holds (apply portType handle text state))
    (fallback : String) (ports : List DsAudioPortType) {start : VolumePlugin σ}
    (initially : Holds start) :
    Holds (ports.foldl (VolumePlugin.initializePort hal key fallback apply) start) := by
  refine List.foldlRecOn ports _ initially fun state holds portType _ => ?_
  rw [initializePort_eq named (ready state holds)]
  split
  · exact holds
  · exact each _ _ _ _ holds

include named in
/-- What every turn of a section keeps holds behind the section. -/
theorem initializePorts_keeps (Holds : VolumePlugin σ → Prop)
    (ready : ∀ state, Holds state → state.plugin.store.isInitialized = true)
    (each : ∀ portType handle text state, Holds state → Holds (apply portType handle text state))
    (symbol : PortSymbol) (fallback : String) (ports : List DsAudioPortType)
    {start : VolumePlugin σ} (initially : Holds start) :
    Holds (start.initializePorts hal symbol key fallback apply ports) := by
  unfold VolumePlugin.initializePorts
  split_ifs
  · exact foldl_initializePort_keeps named Holds ready each fallback ports initially
  · exact initially

include named applies in
theorem sameStore_initializePort {start state : VolumePlugin σ} (same : SameStore start state)
    (fallback : String) (portType : DsAudioPortType) :
    SameStore start (state.initializePort hal key fallback apply portType) := by
  rw [initializePort_eq named same.up.ready]
  split
  · exact same
  · obtain ⟨initialized, store⟩ := applies.same portType _
      (storedText state.plugin.store key fallback portType) state
    refine ⟨⟨initialized.trans same.up.initialized, ?_⟩, store.trans same.store⟩
    rw [store]
    exact same.up.ready

include stores named applies in
/-- A turn changes the settings of its own port. -/
theorem portView_initializePort {state : VolumePlugin σ}
    (ready : state.plugin.store.isInitialized = true) (fallback : String)
    (portType other : DsAudioPortType) :
    portView hal held other (state.initializePort hal key fallback apply portType) =
      if other = portType then
        (portView hal held other state).map
          (change (storedText state.plugin.store key fallback other))
      else portView hal held other state := by
  rw [initializePort_eq named ready]
  cases port : hal.dsGetAudioPort state.plugin.hal portType 0 with
  | error error =>
      split_ifs with own
      · simp [portView, own, port]
      · rfl
  | ok handle =>
      dsimp only [portView]
      rw [applies.held, stores.ports.fixed _ state.plugin.hal]
      split_ifs with own
      · simp [own, port]
      · cases found : hal.dsGetAudioPort state.plugin.hal other 0 with
        | error error => rfl
        | ok otherHandle =>
            have different : otherHandle ≠ handle := by
              rintro rfl
              exact own (stores.ports.distinct _ _ _ _ found port)
            simp [Function.update_of_ne different]

include stores named applies in
/-- A section changes the settings of the ports on its list. -/
theorem portView_initializePorts (symbol : PortSymbol) (fallback : String)
    {ports : List DsAudioPortType} (nodup : ports.Nodup) {start : VolumePlugin σ}
    (up : start.plugin.Up) (portType : DsAudioPortType) :
    let after := start.initializePorts hal symbol key fallback apply ports
    SameStore start after ∧
      portView hal held portType after =
        if portType ∈ ports then
          (portView hal held portType start).map
            (change (storedText start.plugin.store key fallback portType))
        else portView hal held portType start := by
  intro after
  have resolved : after = ports.foldl (VolumePlugin.initializePort hal key fallback apply) start :=
    if_pos (stores.resolved symbol)
  obtain ⟨same, inside, outside⟩ := foldl_own (SameStore start) (portView hal held)
    (fun portType settings =>
      settings.map (change (storedText start.plugin.store key fallback portType)))
    (VolumePlugin.initializePort hal key fallback apply) nodup
    (show SameStore start start from ⟨up, rfl⟩)
    (fun state same item _ => sameStore_initializePort named applies same fallback item)
    (fun state same item _ => by
      rw [portView_initializePort stores named applies same.up.ready, if_pos rfl, same.store])
    (fun state same item _ other different => by
      rw [portView_initializePort stores named applies same.up.ready, if_neg different]) portType
  rw [← resolved] at same inside outside
  refine ⟨same, ?_⟩
  split_ifs with member
  · exact inside member
  · exact outside member

end Section

theorem audioGainKey_ne (portType : DsAudioPortType) (own : String)
    (keyed : audioGainKey portType = some own) : own ≠ "" := by
  rintro rfl
  cases portType <;> simp [audioGainKey] at keyed

theorem audioLevelKey_ne (portType : DsAudioPortType) (own : String)
    (keyed : audioLevelKey portType = some own) : own ≠ "" := by
  rintro rfl
  cases portType <;> simp [audioLevelKey] at keyed

theorem audioDelayKey_ne (portType : DsAudioPortType) (own : String)
    (keyed : audioDelayKey portType = some own) : own ≠ "" := by
  rintro rfl
  cases portType <;> simp [audioDelayKey] at keyed

/-- What the turns of all three sections keep holds behind `audioConfigInit`. -/
theorem audioConfigInit_keeps (Holds : VolumePlugin σ → Prop)
    (ready : ∀ state, Holds state → state.plugin.store.isInitialized = true)
    (gain : ∀ portType handle text state, Holds state →
      Holds (VolumePlugin.applyGain hal portType handle text state))
    (level : ∀ portType handle text state, Holds state →
      Holds (VolumePlugin.applyLevel hal portType handle text state))
    (delay : ∀ portType handle text state, Holds state →
      Holds (VolumePlugin.applyDelay hal portType handle text state))
    {start : VolumePlugin σ} (initially : Holds start) : Holds (start.audioConfigInit hal) := by
  refine initializePorts_keeps audioDelayKey_ne Holds ready delay _ _ _ ?_
  refine initializePorts_keeps audioLevelKey_ne Holds ready level _ _ _ ?_
  exact initializePorts_keeps audioGainKey_ne Holds ready gain _ _ _ initially

/-- What startup makes of the settings of a port. -/
def startupSettings (store : HostPersistence) (portType : DsAudioPortType)
    (settings : PortSettings) : PortSettings where
  gain :=
    if portType ∈ gainPorts then atof (storedText store audioGainKey "0" portType)
    else settings.gain
  muted := settings.muted
  delay :=
    if portType ∈ delayPorts then
      (atoi (storedText store audioDelayKey "0" portType) % 2 ^ 32).toNat
    else settings.delay

include stores in
/-- Behind `audioConfigInit` the gains and delays on its lists are those of the store; the mute
states are the HAL's own. -/
theorem portView_audioConfigInit {start : VolumePlugin σ} (up : start.plugin.Up)
    (portType : DsAudioPortType) :
    SameStore start (start.audioConfigInit hal) ∧
      portView hal held portType (start.audioConfigInit hal) =
        (portView hal held portType start).map (startupSettings start.plugin.store portType) := by
  obtain ⟨sameGain, gain⟩ := portView_initializePorts stores audioGainKey_ne (applies_gain stores)
    .dsSetAudioGain "0" (show gainPorts.Nodup by decide) up portType
  obtain ⟨sameLevel, level⟩ := portView_initializePorts stores audioLevelKey_ne
    (applies_level stores) .dsSetAudioLevel "40" (show levelPorts.Nodup by decide) sameGain.up
    portType
  obtain ⟨sameDelay, delay⟩ := portView_initializePorts stores audioDelayKey_ne
    (applies_delay stores) .dsSetAudioDelay "0" (show delayPorts.Nodup by decide) sameLevel.up
    portType
  refine ⟨⟨sameDelay.up, sameDelay.store.trans (sameLevel.store.trans sameGain.store)⟩, ?_⟩
  refine delay.trans ?_
  rw [level, gain, sameLevel.store, sameGain.store]
  cases portView hal held portType start with
  | none => simp
  | some settings =>
      by_cases gains : portType ∈ gainPorts <;> by_cases delays : portType ∈ delayPorts <;>
        simp [startupSettings, gains, delays]

end Sections

end DeviceSettings.Audio
