import DeviceSettings.Audio.StereoMode
import DeviceSettings.Std.Sweep
import DeviceSettings.VideoPort.Ports

/-!
# Audio modes around an emergency alert

`SysModeChange` takes the ports out of passthrough when an alert begins and is meant to put
them back when it ends. Both directions read the mode with `GetStereoMode` without `persist`,
so the second one reads what the first one has set.
-/

namespace DeviceSettings.Controller

open DeviceSettings.Std
open DeviceSettings.Audio
open DeviceSettings.VideoPort

/-- `IARM_BUS_SYS_MODE_NORMAL`. -/
def sysModeNormal : Int := 0

/-- `IARM_BUS_SYS_MODE_EAS`. -/
def sysModeEas : Int := 1

/-- The HAL as far as the audio modes go through it. -/
structure EasHal (σ : Type) where
  audio : StereoHal σ
  video : VideoPortHal σ
  dsIsDisplayConnected : σ → Int → Except DsError Bool

structure EasState (σ : Type) where
  easMode : Int
  audio : StereoPlugin σ

/-- The port types both loops go through. -/
def supportedPortTypes : List AudioPortType := [.spdif, .hdmi, .speaker]

section Loops

variable {σ : Type} (hal : EasHal σ)

/-- `GetVideoPortHandle(dsVIDEOPORT_TYPE_HDMI)`. -/
def hdmiVideoPortHandle (state : σ) : Int :=
  match getVideoPort hal.video state .hdmi 0 with
  | .ok handle => handle
  | .error _ => 0

/-- What `SetAudioMode` finds `connected` to be; a failing call leaves it at false. -/
def hdmiConnected (state : σ) : Bool :=
  let vHandle := hdmiVideoPortHandle hal state
  vHandle != 0 && gave (hal.dsIsDisplayConnected state vHandle) true

/-- The body of the loop of `SetAudioMode`. -/
def setAudioModeOn (stereo : StereoPlugin σ) (type : AudioPortType) : StereoPlugin σ :=
  match stereo.plugin.getAudioPort hal.audio.toAudioHal type 0 with
  | .error _ => stereo
  | .ok handle =>
    if handle = 0 then stereo
    else
      match stereo.getStereoMode hal.audio handle false with
      | (.error _, stereo) => stereo
      | (.ok currentMode, stereo) =>
        if type = .hdmi then
          if hdmiConnected hal stereo.plugin.hal then
            let currentMode :=
              match stereo.getStereoAuto hal.audio handle with
              | .ok autoMode => if autoMode ≠ 0 then .surround else currentMode
              | .error _ => currentMode
            (stereo.setStereoMode hal.audio handle currentMode false).2
          else stereo
        else (stereo.setStereoMode hal.audio handle currentMode false).2

/-- The body of the loop of `SetEASAudioMode`. -/
def setEASAudioModeOn (stereo : StereoPlugin σ) (type : AudioPortType) : StereoPlugin σ :=
  match stereo.plugin.getAudioPort hal.audio.toAudioHal type 0 with
  | .error _ => stereo
  | .ok handle =>
    if handle = 0 then stereo
    else
      match stereo.getStereoMode hal.audio handle false with
      | (.error _, stereo) => stereo
      | (.ok currentMode, stereo) =>
        let currentMode := if currentMode = .passthrough then .stereo else currentMode
        (stereo.setStereoMode hal.audio handle currentMode false).2

namespace EasState

/-- `SetAudioMode()`. -/
def setAudioMode (state : EasState σ) : EasState σ :=
  if state.easMode = 1 then state
  else { state with audio := supportedPortTypes.foldl (setAudioModeOn hal) state.audio }

/-- `SetEASAudioMode()`. -/
def setEASAudioMode (state : EasState σ) : EasState σ :=
  if state.easMode ≠ 1 then state
  else { state with audio := supportedPortTypes.foldl (setEASAudioModeOn hal) state.audio }

/-- `SysModeChange(arg)`; only `newMode` is used. -/
def sysModeChange (state : EasState σ) (newMode : Int) : EasState σ :=
  if newMode = sysModeEas ∨ newMode = sysModeNormal then
    if state.easMode = sysModeEas ∧ newMode = sysModeNormal then
      { state with easMode := sysModeNormal }.setAudioMode hal
    else if state.easMode = sysModeNormal ∧ newMode = sysModeEas then
      { state with easMode := sysModeEas }.setEASAudioMode hal
    else state
  else state

end EasState
end Loops

/-! ### The modes of one port -/

/-- The HAL stores and reports one stereo mode per handle, and setting a mode does not unplug
a display. -/
structure EasHal.StoresModes {σ : Type} (hal : EasHal σ) (mode : σ → Int → DsAudioStereoMode) :
    Prop where
  ports : hal.audio.DistinctPorts
  reports : ∀ state handle, hal.audio.dsGetStereoMode state handle = .ok (mode state handle)
  succeeds : ∀ state handle value, (hal.audio.dsSetStereoMode state handle value).1 = .ok ()
  stores : ∀ state handle value, mode (hal.audio.dsSetStereoMode state handle value).2 =
    Function.update (mode state) handle value
  connection : ∀ state handle value,
    hdmiConnected hal (hal.audio.dsSetStereoMode state handle value).2 = hdmiConnected hal state

/-- The mode in effect on a port, and the one configured for it. -/
structure PortMode where
  inEffect : DsAudioStereoMode
  configured : DsAudioStereoMode

theorem convertToDS_injective : Function.Injective Audio.convertToDS := by
  intro left right
  cases left <;> cases right <;> decide

/-- What the loops find on a port and do not change. -/
structure PortSetup where
  type : AudioPortType
  auto : Bool
  connected : Bool

namespace PortMode

/-- The mode `GetStereoMode` reports without `persist`. -/
def reported (setup : PortSetup) (port : PortMode) : AudioStereoMode :=
  convertModeFromDS
    (if setup.auto || setup.type = .speaker then port.inEffect else port.configured)

/-- The mode `SetEASAudioMode` sets instead of passthrough. -/
def withoutPassthrough (mode : AudioStereoMode) : AudioStereoMode :=
  if mode = .passthrough then .stereo else mode

/-- A set mode is in effect and configured. -/
def set (mode : AudioStereoMode) : PortMode := ⟨convertModeToDS mode, convertModeToDS mode⟩

/-- What `SetEASAudioMode` makes of a port. -/
def alert (setup : PortSetup) (port : PortMode) : PortMode :=
  set (withoutPassthrough (port.reported setup))

/-- What `SetAudioMode` makes of a port. -/
def normal (setup : PortSetup) (port : PortMode) : PortMode :=
  if setup.type = .hdmi then
    if setup.connected then set (if setup.auto then .surround else port.reported setup) else port
  else set (port.reported setup)

/-- No port reports a value beyond the interface. -/
theorem reported_ne_other (setup : PortSetup) (port : PortMode) :
    port.reported setup ≠ .other := by
  have known : ∀ mode, convertModeFromDS mode ≠ .other := by
    intro mode
    cases mode <;> decide
  exact known _

/-- A mode that was set is reported, by whichever source. -/
theorem reported_set (setup : PortSetup) {mode : AudioStereoMode} (known : mode ≠ .other) :
    (set mode).reported setup = mode := by
  have same : (set mode).reported setup = convertModeFromDS (convertModeToDS mode) := by
    simp [reported, set]
  rw [same]
  cases mode <;> first | rfl | exact absurd rfl known

theorem withoutPassthrough_ne_other {mode : AudioStereoMode} (known : mode ≠ .other) :
    withoutPassthrough mode ≠ .other := by
  unfold withoutPassthrough
  split_ifs
  · decide
  · exact known

theorem convertModeToDS_withoutPassthrough_iff {mode : AudioStereoMode} :
    convertModeToDS (withoutPassthrough mode) = convertModeToDS mode ↔ mode ≠ .passthrough := by
  cases mode <;> decide

/-- The end of the alert reads what its beginning has set. -/
theorem reported_alert (setup : PortSetup) (port : PortMode) :
    (port.alert setup).reported setup = withoutPassthrough (port.reported setup) :=
  reported_set setup (withoutPassthrough_ne_other (reported_ne_other setup port))

/-- When an alert and its end leave the mode in effect that the end alone would. -/
theorem normal_alert_iff (setup : PortSetup) (port : PortMode) :
    ((port.alert setup).normal setup).inEffect = (port.normal setup).inEffect ↔
      if setup.type = .hdmi then
        if setup.connected then setup.auto = true ∨ port.reported setup ≠ .passthrough
        else port.inEffect = convertModeToDS (withoutPassthrough (port.reported setup))
      else port.reported setup ≠ .passthrough := by
  unfold normal
  rw [reported_alert]
  split_ifs with hdmi connected auto
  · exact iff_of_true rfl (.inl auto)
  · exact convertModeToDS_withoutPassthrough_iff.trans (or_iff_right auto).symm
  · exact eq_comm
  · exact convertModeToDS_withoutPassthrough_iff

end PortMode

section Ports

variable {σ : Type} {hal : EasHal σ} {mode : σ → Int → DsAudioStereoMode}
  (stores : hal.StoresModes mode)

/-- The handle of an available port; the loops skip a port without one. -/
def Available (hal : EasHal σ) (stereo : StereoPlugin σ) (type : AudioPortType) (handle : Int) :
    Prop :=
  stereo.plugin.getAudioPort hal.audio.toAudioHal type 0 = .ok handle ∧ handle ≠ 0

/-- The setup of a port. -/
def portSetup (hal : EasHal σ) (stereo : StereoPlugin σ) (type : AudioPortType) : PortSetup where
  type := type
  auto := stereo.globals.isStereoAutoEnabled (Audio.convertToDS type)
  connected := hdmiConnected hal stereo.plugin.hal

/-- The handle the loops find for a type, or 0. -/
def portHandle (hal : EasHal σ) (stereo : StereoPlugin σ) (type : AudioPortType) : Int :=
  match stereo.plugin.getAudioPort hal.audio.toAudioHal type 0 with
  | .ok handle => handle
  | .error _ => 0

/-- The modes of a port. -/
def portMode (hal : EasHal σ) (mode : σ → Int → DsAudioStereoMode) (stereo : StereoPlugin σ)
    (type : AudioPortType) : PortMode where
  inEffect := mode stereo.plugin.hal (portHandle hal stereo type)
  configured := stereo.globals.getConfiguredStereoMode (Audio.convertToDS type)

/-- Two states in which the loops find the same ports. -/
structure SameSetup (hal : EasHal σ) (before after : StereoPlugin σ) : Prop where
  initialized : after.plugin.audio.isInitialized = before.plugin.audio.isInitialized
  setup : portSetup hal after = portSetup hal before

theorem SameSetup.trans {first second third : StereoPlugin σ} (left : SameSetup hal first second)
    (right : SameSetup hal second third) : SameSetup hal first third :=
  ⟨right.initialized.trans left.initialized, right.setup.trans left.setup⟩

include stores in
theorem SameSetup.getAudioPort {before after : StereoPlugin σ} (same : SameSetup hal before after)
    (type : AudioPortType) :
    after.plugin.getAudioPort hal.audio.toAudioHal type 0 =
      before.plugin.getAudioPort hal.audio.toAudioHal type 0 := by
  simp only [Plugin.getAudioPort, same.initialized,
    stores.ports.fixed after.plugin.hal before.plugin.hal]

include stores in
theorem Available.type_eq {stereo : StereoPlugin σ} {type : AudioPortType} {handle : Int}
    (available : Available hal stereo type handle) (member : type ∈ supportedPortTypes) :
    stereo.plugin.audio.isInitialized = true ∧
      stereo.plugin.getAudioPortType hal.audio.toAudioHal handle = Audio.convertToDS type := by
  have listed : ∀ type ∈ supportedPortTypes, Audio.convertToDS type ∈ portTypes := by decide
  obtain ⟨initialized, port⟩ := stores.ports.port_of_getAudioPort available.1
  exact ⟨initialized, stores.ports.getAudioPortType (listed type member) port⟩

include stores in
theorem SameSetup.portHandle {before after : StereoPlugin σ} (same : SameSetup hal before after)
    (type : AudioPortType) : portHandle hal after type = portHandle hal before type := by
  simp only [Controller.portHandle, same.getAudioPort stores]

theorem Available.portHandle {stereo : StereoPlugin σ} {type : AudioPortType} {handle : Int}
    (available : Available hal stereo type handle) : portHandle hal stereo type = handle := by
  simp only [Controller.portHandle, available.1]

include stores in
/-- No other type has the handle of an available port. -/
theorem Available.ne_portHandle {stereo : StereoPlugin σ} {type other : AudioPortType}
    {handle : Int} (available : Available hal stereo type handle) (different : other ≠ type) :
    Controller.portHandle hal stereo other ≠ handle := by
  unfold Controller.portHandle
  cases got : stereo.plugin.getAudioPort hal.audio.toAudioHal other 0 with
  | error error => exact available.2.symm
  | ok otherHandle =>
      rintro rfl
      have mine := (stores.ports.port_of_getAudioPort available.1).2
      have theirs := (stores.ports.port_of_getAudioPort got).2
      exact different (convertToDS_injective (stores.ports.distinct _ _ _ _ theirs mine))

include stores in
/-- What `SetStereoMode` makes of an available port. -/
theorem setStereoMode_eq {stereo : StereoPlugin σ} {type : AudioPortType} {handle : Int}
    (member : type ∈ supportedPortTypes) (available : Available hal stereo type handle)
    (value : AudioStereoMode) :
    (stereo.setStereoMode hal.audio handle value false).2 =
      { stereo with
        plugin.hal := (hal.audio.dsSetStereoMode stereo.plugin.hal handle
          (convertModeToDS value)).2
        globals := stereo.globals.setConfiguredStereoMode (Audio.convertToDS type)
          (convertModeToDS value) } := by
  obtain ⟨initialized, found⟩ := available.type_eq stores member
  have listed : ∀ type ∈ supportedPortTypes, Audio.convertToDS type ≠ .max := by decide
  have succeeds := stores.succeeds stereo.plugin.hal handle (convertModeToDS value)
  unfold StereoPlugin.setStereoMode
  rw [if_neg (by simp [initialized])]
  dsimp only
  rw [found, if_neg (listed type member)]
  cases set : hal.audio.dsSetStereoMode stereo.plugin.hal handle (convertModeToDS value) with
  | mk answer state =>
      rw [set] at succeeds
      dsimp only at succeeds
      subst succeeds
      rfl

include stores in
/-- Its own modes become the one that is set, and those of the other ports stay. -/
theorem setStereoMode_spec {stereo : StereoPlugin σ} {type : AudioPortType} {handle : Int}
    (member : type ∈ supportedPortTypes) (available : Available hal stereo type handle)
    (value : AudioStereoMode) :
    SameSetup hal stereo (stereo.setStereoMode hal.audio handle value false).2 ∧
      portMode hal mode (stereo.setStereoMode hal.audio handle value false).2 type =
        PortMode.set value ∧
      ∀ other, other ≠ type →
        portMode hal mode (stereo.setStereoMode hal.audio handle value false).2 other =
          portMode hal mode stereo other := by
  rw [setStereoMode_eq stores member available]
  generalize same : { stereo with
    plugin.hal := (hal.audio.dsSetStereoMode stereo.plugin.hal handle (convertModeToDS value)).2
    globals := stereo.globals.setConfiguredStereoMode (Audio.convertToDS type)
      (convertModeToDS value) : StereoPlugin σ } = after
  have modes : mode after.plugin.hal =
      Function.update (mode stereo.plugin.hal) handle (convertModeToDS value) := by
    rw [← same]
    exact stores.stores _ _ _
  have setup : SameSetup hal stereo after := by
    subst same
    refine ⟨rfl, funext fun type => ?_⟩
    simp only [portSetup, StereoGlobals.isStereoAutoEnabled_setConfiguredStereoMode,
      stores.connection]
  refine ⟨setup, ?_, fun other different => ?_⟩
  · have configured : ∀ type ∈ supportedPortTypes,
        Audio.convertToDS type ∈ [DsAudioPortType.hdmi, .spdif, .hdmiArc, .speaker] := by
      decide
    simp only [portMode, PortMode.set, PortMode.mk.injEq]
    constructor
    · rw [setup.portHandle stores, available.portHandle, modes, Function.update_self]
    · subst same
      exact StereoGlobals.getConfiguredStereoMode_setConfiguredStereoMode _ _
        (configured type member)
  · simp only [portMode, PortMode.mk.injEq]
    constructor
    · rw [setup.portHandle stores, modes,
        Function.update_of_ne (available.ne_portHandle stores different)]
    · subst same
      exact StereoGlobals.getConfiguredStereoMode_setConfiguredStereoMode_of_ne _
        (fun equal => different (convertToDS_injective equal)) _

include stores in
/-- The mode in effect on a port that was available before. -/
theorem SameSetup.inEffect {before after : StereoPlugin σ} (same : SameSetup hal before after)
    {type : AudioPortType} {handle : Int} (available : Available hal before type handle) :
    mode after.plugin.hal handle = (portMode hal mode after type).inEffect := by
  simp only [portMode, same.portHandle stores, available.portHandle]

theorem available_of_portHandle {stereo : StereoPlugin σ} {type : AudioPortType}
    (present : portHandle hal stereo type ≠ 0) :
    Available hal stereo type (portHandle hal stereo type) := by
  unfold portHandle at present ⊢
  cases got : stereo.plugin.getAudioPort hal.audio.toAudioHal type 0 with
  | error error => simp [got] at present
  | ok handle =>
      simp only [got] at present ⊢
      exact ⟨got, present⟩

/-- The loops skip a port that the HAL does not give, or gives without a handle. -/
theorem getAudioPort_of_absent {stereo : StereoPlugin σ} {type : AudioPortType}
    (absent : portHandle hal stereo type = 0) :
    (∃ error, stereo.plugin.getAudioPort hal.audio.toAudioHal type 0 = .error error) ∨
      stereo.plugin.getAudioPort hal.audio.toAudioHal type 0 = .ok 0 := by
  cases got : stereo.plugin.getAudioPort hal.audio.toAudioHal type 0 with
  | error error => exact .inl ⟨error, rfl⟩
  | ok handle =>
      have zero : handle = 0 := by simpa [portHandle, got] using absent
      exact .inr (by rw [zero])

include stores in
/-- Without `persist` the mode is read from the HAL or the configured modes, and nothing moves. -/
theorem getStereoMode_eq {stereo : StereoPlugin σ} {type : AudioPortType} {handle : Int}
    (member : type ∈ supportedPortTypes) (available : Available hal stereo type handle) :
    stereo.getStereoMode hal.audio handle false =
      (.ok ((portMode hal mode stereo type).reported (portSetup hal stereo type)), stereo) := by
  obtain ⟨initialized, found⟩ := available.type_eq stores member
  have speaker : Audio.convertToDS type = .speaker ↔ type = .speaker := by
    cases type <;> decide
  unfold StereoPlugin.getStereoMode
  rw [if_neg (by simp [initialized])]
  dsimp only
  rw [found]
  simp only [Bool.false_eq_true, if_false, PortMode.reported, portMode, portSetup, speaker,
    available.portHandle, stores.reports]
  split_ifs <;> first | rfl | contradiction

include stores in
/-- One turn of `SetEASAudioMode`. -/
theorem setEASAudioModeOn_spec (stereo : StereoPlugin σ) {type : AudioPortType}
    (member : type ∈ supportedPortTypes) :
    SameSetup hal stereo (setEASAudioModeOn hal stereo type) ∧
      portMode hal mode (setEASAudioModeOn hal stereo type) type =
        (if portHandle hal stereo type = 0 then portMode hal mode stereo type
        else (portMode hal mode stereo type).alert (portSetup hal stereo type)) ∧
      ∀ other, other ≠ type →
        portMode hal mode (setEASAudioModeOn hal stereo type) other =
          portMode hal mode stereo other := by
  by_cases absent : portHandle hal stereo type = 0
  · have skipped : setEASAudioModeOn hal stereo type = stereo := by
      rcases getAudioPort_of_absent absent with ⟨error, got⟩ | got <;>
        simp [setEASAudioModeOn, got]
    rw [skipped, if_pos absent]
    exact ⟨⟨rfl, rfl⟩, rfl, fun _ _ => rfl⟩
  · have available := available_of_portHandle absent
    have turn : setEASAudioModeOn hal stereo type =
        (stereo.setStereoMode hal.audio (portHandle hal stereo type)
          (PortMode.withoutPassthrough
            ((portMode hal mode stereo type).reported (portSetup hal stereo type))) false).2 := by
      simp only [setEASAudioModeOn, available.1, if_neg absent,
        getStereoMode_eq stores member available, PortMode.withoutPassthrough]
    rw [turn, if_neg absent]
    exact setStereoMode_spec stores member available _

include stores in
/-- One turn of `SetAudioMode`. -/
theorem setAudioModeOn_spec (stereo : StereoPlugin σ) {type : AudioPortType}
    (member : type ∈ supportedPortTypes) :
    SameSetup hal stereo (setAudioModeOn hal stereo type) ∧
      portMode hal mode (setAudioModeOn hal stereo type) type =
        (if portHandle hal stereo type = 0 then portMode hal mode stereo type
        else (portMode hal mode stereo type).normal (portSetup hal stereo type)) ∧
      ∀ other, other ≠ type →
        portMode hal mode (setAudioModeOn hal stereo type) other =
          portMode hal mode stereo other := by
  by_cases absent : portHandle hal stereo type = 0
  · have skipped : setAudioModeOn hal stereo type = stereo := by
      rcases getAudioPort_of_absent absent with ⟨error, got⟩ | got <;>
        simp [setAudioModeOn, got]
    rw [skipped, if_pos absent]
    exact ⟨⟨rfl, rfl⟩, rfl, fun _ _ => rfl⟩
  · have available := available_of_portHandle absent
    obtain ⟨initialized, found⟩ := available.type_eq stores member
    have auto : stereo.getStereoAuto hal.audio (portHandle hal stereo type) =
        .ok (if (portSetup hal stereo type).auto then 1 else 0) := by
      simp only [StereoPlugin.getStereoAuto, initialized, found, portSetup]
      rfl
    rw [if_neg absent]
    by_cases hdmi : type = .hdmi
    · cases connected : hdmiConnected hal stereo.plugin.hal with
      | false =>
          have turn : setAudioModeOn hal stereo type = stereo := by
            simp only [setAudioModeOn, available.1, if_neg absent,
              getStereoMode_eq stores member available, if_pos hdmi, connected,
              Bool.false_eq_true, if_false]
          have left : (portMode hal mode stereo type).normal (portSetup hal stereo type) =
              portMode hal mode stereo type := by
            simp only [PortMode.normal, portSetup, if_pos hdmi, connected, Bool.false_eq_true,
              if_false]
          rw [turn, left]
          exact ⟨⟨rfl, rfl⟩, rfl, fun _ _ => rfl⟩
      | true =>
          have turn : setAudioModeOn hal stereo type =
              (stereo.setStereoMode hal.audio (portHandle hal stereo type)
                (if (portSetup hal stereo type).auto then .surround
                else (portMode hal mode stereo type).reported (portSetup hal stereo type))
                false).2 := by
            simp only [setAudioModeOn, available.1, if_neg absent,
              getStereoMode_eq stores member available, if_pos hdmi, connected, if_true, auto]
            cases (portSetup hal stereo type).auto <;> rfl
          have set : (portMode hal mode stereo type).normal (portSetup hal stereo type) =
              PortMode.set (if (portSetup hal stereo type).auto then .surround
                else (portMode hal mode stereo type).reported (portSetup hal stereo type)) := by
            have here : (portSetup hal stereo type).type = .hdmi := hdmi
            have on : (portSetup hal stereo type).connected = true := connected
            simp only [PortMode.normal, if_pos here, on, if_true]
          rw [turn, set]
          exact setStereoMode_spec stores member available _
    · have turn : setAudioModeOn hal stereo type =
          (stereo.setStereoMode hal.audio (portHandle hal stereo type)
            ((portMode hal mode stereo type).reported (portSetup hal stereo type)) false).2 := by
        simp only [setAudioModeOn, available.1, if_neg absent,
          getStereoMode_eq stores member available, if_neg hdmi]
      have set : (portMode hal mode stereo type).normal (portSetup hal stereo type) =
          PortMode.set ((portMode hal mode stereo type).reported (portSetup hal stereo type)) := by
        have elsewhere : ¬(portSetup hal stereo type).type = .hdmi := hdmi
        simp only [PortMode.normal, if_neg elsewhere]
      rw [turn, set]
      exact setStereoMode_spec stores member available _

include stores in
/-- A loop over the supported ports whose turns act on one port each. -/
theorem foldl_ports {body : StereoPlugin σ → AudioPortType → StereoPlugin σ}
    {act : PortSetup → PortMode → PortMode}
    (turn : ∀ stereo, ∀ type ∈ supportedPortTypes, SameSetup hal stereo (body stereo type) ∧
      portMode hal mode (body stereo type) type =
        (if portHandle hal stereo type = 0 then portMode hal mode stereo type
        else act (portSetup hal stereo type) (portMode hal mode stereo type)) ∧
      ∀ other, other ≠ type →
        portMode hal mode (body stereo type) other = portMode hal mode stereo other)
    (stereo : StereoPlugin σ) {type : AudioPortType} (member : type ∈ supportedPortTypes) :
    SameSetup hal stereo (supportedPortTypes.foldl body stereo) ∧
      portMode hal mode (supportedPortTypes.foldl body stereo) type =
        if portHandle hal stereo type = 0 then portMode hal mode stereo type
        else act (portSetup hal stereo type) (portMode hal mode stereo type) := by
  obtain ⟨same, own, -⟩ := foldl_own (SameSetup hal stereo)
    (fun type stereo => portMode hal mode stereo type)
    (fun type port => if portHandle hal stereo type = 0 then port
      else act (portSetup hal stereo type) port)
    body (by decide : supportedPortTypes.Nodup) ⟨rfl, rfl⟩
    (fun state same type member => same.trans (turn state type member).1)
    (fun state same type member => by
      rw [← same.portHandle stores, ← same.setup]
      exact (turn state type member).2.1)
    (fun state same type member other different => (turn state type member).2.2 other different)
    type
  exact ⟨same, own member⟩

end Ports

/-! ### The episode -/

section Laws

variable {σ : Type} {hal : EasHal σ}

/-- During an alert every change but the one to the normal mode is ignored. -/
theorem sysModeChange_ignored {state : EasState σ} (alert : state.easMode = sysModeEas)
    {newMode : Int} (other : newMode ≠ sysModeNormal) :
    state.sysModeChange hal newMode = state := by
  have changed : ¬sysModeEas = sysModeNormal := by decide
  unfold EasState.sysModeChange
  rw [alert, if_neg (fun both : sysModeEas = sysModeEas ∧ newMode = sysModeNormal => other both.2),
    if_neg (fun both : sysModeEas = sysModeNormal ∧ newMode = sysModeEas => changed both.1),
    ite_self]

/-- The changes between the beginning of an alert and its end do nothing. -/
theorem foldl_sysModeChange_ignored {state : EasState σ} (alert : state.easMode = sysModeEas)
    {ignored : List Int} (others : ∀ newMode ∈ ignored, newMode ≠ sysModeNormal) :
    ignored.foldl (EasState.sysModeChange hal) state = state := by
  induction ignored with
  | nil => rfl
  | cons newMode rest ih =>
      rw [List.foldl_cons, sysModeChange_ignored alert (others newMode List.mem_cons_self)]
      exact ih fun later member => others later (List.mem_cons_of_mem _ member)

/-- An alert from its beginning to its end runs the two loops. -/
theorem episode_audio {state : EasState σ} (normal : state.easMode = sysModeNormal)
    {ignored : List Int} (others : ∀ newMode ∈ ignored, newMode ≠ sysModeNormal) :
    ((sysModeEas :: (ignored ++ [sysModeNormal])).foldl (EasState.sysModeChange hal) state).audio =
      supportedPortTypes.foldl (setAudioModeOn hal)
        (supportedPortTypes.foldl (setEASAudioModeOn hal) state.audio) := by
  have begun : state.sysModeChange hal sysModeEas =
      ⟨sysModeEas, supportedPortTypes.foldl (setEASAudioModeOn hal) state.audio⟩ := by
    cases state with
    | mk easMode audio =>
        dsimp only at normal
        subst normal
        rfl
  rw [List.foldl_cons, List.foldl_append, begun, foldl_sysModeChange_ignored rfl others]
  rfl

theorem setAudioMode_audio {state : EasState σ} (normal : state.easMode = sysModeNormal) :
    (state.setAudioMode hal).audio = supportedPortTypes.foldl (setAudioModeOn hal) state.audio := by
  have out : ¬state.easMode = 1 := by
    rw [normal]
    decide
  simp only [EasState.setAudioMode, if_neg out]

/-- What the episode needs of a port: its reported mode is not passthrough. A connected HDMI
port in auto mode is set to surround anyway, and one that is not connected is not set again. -/
def SurvivesAlert (hal : EasHal σ) (stereo : StereoPlugin σ) (type : AudioPortType)
    (handle : Int) : Prop :=
  ∀ mode, (stereo.getStereoMode hal.audio handle false).1 = .ok mode →
    if type = .hdmi then
      if hdmiConnected hal stereo.plugin.hal then
        stereo.globals.isStereoAutoEnabled .hdmi = true ∨ mode ≠ .passthrough
      else
        hal.audio.dsGetStereoMode stereo.plugin.hal handle =
          .ok (convertModeToDS (PortMode.withoutPassthrough mode))
    else mode ≠ .passthrough

/-- An alert leaves every port in the mode of `SetAudioMode` alone exactly when no port has
lost its mode to it. -/
theorem easRoundTrip_iff {mode : σ → Int → DsAudioStereoMode} (stores : hal.StoresModes mode)
    {state : EasState σ} (normal : state.easMode = sysModeNormal) {ignored : List Int}
    (others : ∀ newMode ∈ ignored, newMode ≠ sysModeNormal) :
    (∀ type ∈ supportedPortTypes, ∀ handle, Available hal state.audio type handle →
        mode ((sysModeEas :: (ignored ++ [sysModeNormal])).foldl
            (EasState.sysModeChange hal) state).audio.plugin.hal handle =
          mode (state.setAudioMode hal).audio.plugin.hal handle) ↔
      ∀ type ∈ supportedPortTypes, ∀ handle, Available hal state.audio type handle →
        SurvivesAlert hal state.audio type handle := by
  rw [episode_audio normal others, setAudioMode_audio normal]
  refine forall₂_congr fun type member => forall₂_congr fun handle available => ?_
  have present : ¬portHandle hal state.audio type = 0 := by
    rw [available.portHandle]
    exact available.2
  obtain ⟨sameAlert, alert⟩ := foldl_ports stores (setEASAudioModeOn_spec stores) state.audio member
  obtain ⟨sameEnd, finish⟩ := foldl_ports stores (setAudioModeOn_spec stores)
    (supportedPortTypes.foldl (setEASAudioModeOn hal) state.audio) member
  obtain ⟨sameAlone, alone⟩ := foldl_ports stores (setAudioModeOn_spec stores) state.audio member
  rw [sameAlert.portHandle stores, if_neg present, sameAlert.setup, alert, if_neg present] at finish
  rw [if_neg present] at alone
  rw [(sameAlert.trans sameEnd).inEffect stores available, finish,
    sameAlone.inEffect stores available, alone, PortMode.normal_alert_iff]
  have read := congrArg Prod.fst (getStereoMode_eq stores member available)
  have only : SurvivesAlert hal state.audio type handle ↔ _ :=
    ⟨fun survives => survives _ read, fun held mode' answer => by
      rw [read] at answer
      rw [← Except.ok.inj answer]
      exact held⟩
  rw [only, stores.reports]
  by_cases hdmi : type = .hdmi
  · subst hdmi
    have inEffect : mode state.audio.plugin.hal handle =
        (portMode hal mode state.audio .hdmi).inEffect := by
      simp only [portMode, available.portHandle]
    rw [inEffect, Except.ok.injEq]
    exact Iff.rfl
  · have elsewhere : ¬(portSetup hal state.audio type).type = .hdmi := hdmi
    rw [if_neg elsewhere, if_neg hdmi]

end Laws

namespace StereoMemory

/-- A digital port, HDMI with a display, and a speaker; every call on them succeeds. -/
def hal : EasHal (Int → DsAudioStereoMode) where
  audio := {
    dsGetAudioPort _ type _ :=
      match type with
      | .spdif => .ok 1
      | .hdmi => .ok 2
      | .speaker => .ok 3
      | _ => .error .operationNotSupported
    dsIsAudioPortEnabled _ _ := .ok true
    dsIsAudioMute _ _ := .ok false
    dsEnableAudioPort memory _ _ := (.ok (), memory)
    dsSetAudioLevel memory _ _ := (.ok (), memory)
    dsSetAudioDelay memory _ _ := (.ok (), memory)
    dsGetStereoMode memory handle := .ok (memory handle)
    dsSetStereoMode memory handle mode := (.ok (), Function.update memory handle mode) }
  video := {
    dsGetVideoPort _ _ _ := .ok 4
    dsIsVideoPortEnabled _ _ := .ok true
    dsEnableVideoPort memory _ _ := (.ok (), memory) }
  dsIsDisplayConnected _ _ := .ok true

theorem storesModes : hal.StoresModes fun memory => memory where
  ports := {
    fixed _ _ := rfl
    narrow := by
      intro memory type handle port
      cases type <;> cases port <;> decide
    distinct := by
      intro memory type other handle port same
      cases type <;> cases port <;> cases other <;> cases same <;> rfl }
  reports _ _ := rfl
  succeeds _ _ _ := rfl
  stores _ _ _ := rfl
  connection _ _ _ := rfl

/-- Every port in one mode, configured as well. -/
def all (mode : DsAudioStereoMode) : EasState (Int → DsAudioStereoMode) where
  easMode := sysModeNormal
  audio := {
    plugin := {
      hal := fun _ => mode
      audio := ⟨true, false, 0, ⟨0, 0, 0, 0⟩, fun _ => true⟩
      store := .ofStoreFile "/opt/persistent/ds/hostData"
      files := fun _ => .absent }
    globals := ⟨mode, mode, mode, mode, false, false, false, false⟩ }

end StereoMemory

theorem easRoundTrip_iff_surround :
    (∀ type ∈ supportedPortTypes, ∀ handle,
        Available StereoMemory.hal (StereoMemory.all .surround).audio type handle →
        ((sysModeEas :: ([2, sysModeEas] ++ [sysModeNormal])).foldl
            (EasState.sysModeChange StereoMemory.hal)
            (StereoMemory.all .surround)).audio.plugin.hal handle =
          ((StereoMemory.all .surround).setAudioMode StereoMemory.hal).audio.plugin.hal handle) ↔
      ∀ type ∈ supportedPortTypes, ∀ handle,
        Available StereoMemory.hal (StereoMemory.all .surround).audio type handle →
        SurvivesAlert StereoMemory.hal (StereoMemory.all .surround).audio type handle :=
  easRoundTrip_iff StereoMemory.storesModes rfl (by decide)

/-- A digital port in passthrough is left in stereo. -/
theorem not_easRoundTrip :
    ¬∀ (state : EasState (Int → DsAudioStereoMode)) (ignored : List Int),
      state.easMode = sysModeNormal → (∀ newMode ∈ ignored, newMode ≠ sysModeNormal) →
      ∀ type ∈ supportedPortTypes, ∀ handle,
        Available StereoMemory.hal state.audio type handle →
        ((sysModeEas :: (ignored ++ [sysModeNormal])).foldl
            (EasState.sysModeChange StereoMemory.hal) state).audio.plugin.hal handle =
          (state.setAudioMode StereoMemory.hal).audio.plugin.hal handle := by
  intro restored
  have spdif := restored (StereoMemory.all .passthru) [] rfl (by simp) .spdif (by decide) 1
    ⟨rfl, by decide⟩
  exact absurd spdif (by decide +kernel)

end DeviceSettings.Controller
