import DeviceSettings.Audio.StereoStartup
import DeviceSettings.Std.LastWrite
import DeviceSettings.Std.Sweep

/-!
# Stereo settings over a restart

One encoder of mode strings faces three decoders. The law is checked port by port: the startup
parser of HDMI and `getPersistedStereoMode` read every string back, those of the other ports
lose the two Dolby Digital modes.
-/

namespace DeviceSettings.Audio

open DeviceSettings.Std
open DeviceSettings.Persistence

/-! ### What is read from a loaded store -/

namespace Plugin

variable {σ : Type} {plugin : Plugin σ} (ready : plugin.store.isInitialized = true)

include ready in
theorem readPropertyOr_of_ready {key : String} (named : key ≠ "") (fallback : String) :
    plugin.readPropertyOr key fallback =
      ((plugin.store.properties.find? key).getD fallback, plugin) := by
  simp only [readPropertyOr, HostPersistence.getPropertyOr, if_neg named,
    HostPersistence.ensureInitialized_of_ready ready]

end Plugin

theorem audioModeKey_ne {portType : DsAudioPortType} {key : String}
    (keyed : audioModeKey portType = some key) : key ≠ "" := by
  rintro rfl
  cases portType <;> simp [audioModeKey] at keyed

theorem audioModeAutoKey_ne {portType : DsAudioPortType} {key : String}
    (keyed : audioModeAutoKey portType = some key) : key ≠ "" := by
  rintro rfl
  cases portType <;> simp [audioModeAutoKey] at keyed

theorem audioModeKey_injective {left right : DsAudioPortType} {key : String}
    (keyed : audioModeKey left = some key) (same : audioModeKey right = some key) :
    left = right := by
  cases left <;> cases right <;> grind [audioModeKey]

theorem audioModeAutoKey_injective {left right : DsAudioPortType} {key : String}
    (keyed : audioModeAutoKey left = some key) (same : audioModeAutoKey right = some key) :
    left = right := by
  cases left <;> cases right <;> grind [audioModeAutoKey]

theorem audioModeKey_ne_auto {left right : DsAudioPortType} {key other : String}
    (keyed : audioModeKey left = some key) (auto : audioModeAutoKey right = some other) :
    key ≠ other := by
  rintro rfl
  cases left <;> cases right <;> grind [audioModeKey, audioModeAutoKey]

theorem modeString_ne (mode : AudioStereoMode) : modeString mode ≠ "" := by
  cases mode <;> simp [modeString]

theorem autoString_ne (autoMode : Int) : autoString autoMode ≠ "" := by
  unfold autoString
  split_ifs <;> simp

/-- The strings that a startup parser reads back. -/
theorem startupMode_modeString_iff (ignoreEdidLogic : Bool) {portType : DsAudioPortType}
    {mode : AudioStereoMode} (kept : portType ∈ stereoPorts)
    (listed : mode ∈ [AudioStereoMode.stereo, .surround, .passthrough, .dd, .ddPlus]) :
    startupMode ignoreEdidLogic portType (modeString mode) = convertModeToDS mode ↔
      portType = .hdmi ∨ (mode ≠ .dd ∧ mode ≠ .ddPlus) := by
  cases portType <;> simp [stereoPorts] at kept <;> cases mode <;> simp at listed <;>
    simp [startupMode, modeString, convertModeToDS]

theorem parseMode_modeString {mode : AudioStereoMode}
    (listed : mode ∈ [AudioStereoMode.stereo, .surround, .passthrough, .dd, .ddPlus]) :
    convertModeFromDS (parseMode (modeString mode)) = mode := by
  cases mode <;> simp at listed <;> simp [parseMode, modeString, convertModeFromDS]

theorem autoString_eq_true_iff (autoMode : Int) : autoString autoMode = "TRUE" ↔ autoMode ≠ 0 := by
  unfold autoString
  split_ifs with on <;> simp [on]

/-! ### The startup code -/

namespace StereoPlugin

variable {σ : Type} (ignoreEdidLogic : Bool)

theorem readStartupMode_hdmi_snd (plugin : Plugin σ) :
    (readStartupMode ignoreEdidLogic plugin .hdmi).2 =
      { plugin with store := plugin.store.ensureInitialized plugin.files } :=
  plugin.readProperty_snd "HDMI0.AudioMode" _

section Ready

variable {plugin : Plugin σ} (ready : plugin.store.isInitialized = true)

include ready in
theorem readStartupMode_snd (portType : DsAudioPortType) :
    (readStartupMode ignoreEdidLogic plugin portType).2 = plugin := by
  unfold readStartupMode
  cases keyed : audioModeKey portType with
  | none => rfl
  | some key =>
      dsimp only
      split_ifs
      · rw [Plugin.readProperty_of_ready ready (audioModeKey_ne keyed)]
      · rw [Plugin.readPropertyOr_of_ready ready (audioModeKey_ne keyed)]

include ready in
theorem readStartupMode_fst {portType : DsAudioPortType} {key value : String}
    (keyed : audioModeKey portType = some key)
    (stored : plugin.store.properties.find? key = some value) :
    (readStartupMode ignoreEdidLogic plugin portType).1 =
      startupMode ignoreEdidLogic portType value := by
  unfold readStartupMode
  rw [keyed]
  dsimp only
  split_ifs
  · rw [Plugin.readProperty_of_ready ready (audioModeKey_ne keyed), stored, Option.some_or,
      Option.getD_some]
  · rw [Plugin.readPropertyOr_of_ready ready (audioModeKey_ne keyed), stored, Option.getD_some]

include ready in
theorem readStartupAuto_snd (portType : DsAudioPortType) :
    (readStartupAuto ignoreEdidLogic plugin portType).2 = plugin := by
  unfold readStartupAuto
  cases keyed : audioModeAutoKey portType with
  | none => rfl
  | some key =>
      dsimp only
      rw [Plugin.readProperty_of_ready ready (audioModeAutoKey_ne keyed)]

include ready in
theorem readStartupAuto_fst {portType : DsAudioPortType} {key value : String}
    (keyed : audioModeAutoKey portType = some key)
    (stored : plugin.store.properties.find? key = some value) :
    (readStartupAuto ignoreEdidLogic plugin portType).1 = decide (value = "TRUE") := by
  unfold readStartupAuto
  rw [keyed]
  dsimp only
  rw [Plugin.readProperty_of_ready ready (audioModeAutoKey_ne keyed), stored, Option.some_or,
    Option.getD_some]

end Ready

/-- The first half of the startup code loads the store and changes nothing else. -/
theorem readStartupSettings_plugin (stereo : StereoPlugin σ) :
    (stereo.readStartupSettings ignoreEdidLogic).plugin =
      { stereo.plugin with
        store := stereo.plugin.store.ensureInitialized stereo.plugin.files } := by
  unfold readStartupSettings
  dsimp only
  rw [readStartupMode_hdmi_snd]
  generalize loaded : { stereo.plugin with
    store := stereo.plugin.store.ensureInitialized stereo.plugin.files } = plugin
  have ready : plugin.store.isInitialized = true := by
    rw [← loaded]
    exact stereo.plugin.store.ensureInitialized_isInitialized stereo.plugin.files
  simp only [readStartupMode_snd ignoreEdidLogic ready, readStartupAuto_snd ignoreEdidLogic ready]

theorem readStartupSettings_globals {stereo : StereoPlugin σ}
    (ready : stereo.plugin.store.isInitialized = true) (portType : DsAudioPortType) :
    let globals := (stereo.readStartupSettings ignoreEdidLogic).globals
    globals.getConfiguredStereoMode portType =
        (readStartupMode ignoreEdidLogic stereo.plugin portType).1 ∧
      globals.isStereoAutoEnabled portType =
        (readStartupAuto ignoreEdidLogic stereo.plugin portType).1 := by
  unfold readStartupSettings
  simp only [readStartupMode_snd ignoreEdidLogic ready, readStartupAuto_snd ignoreEdidLogic ready]
  cases portType <;> exact ⟨rfl, rfl⟩

end StereoPlugin

/-! ### The HAL behind the startup code -/

/-- The HAL stores and reports what is set for a handle, and a setting that is set leaves the
others alone. -/
structure StereoAutoHal.Stores {σ : Type} (hal : StereoAutoHal σ)
    (mode : σ → Int → DsAudioStereoMode) (auto : σ → Int → Int) : Prop where
  ports : hal.DistinctPorts
  getsMode : ∀ state handle, hal.dsGetStereoMode state handle = .ok (mode state handle)
  setsMode : ∀ state handle value,
    (hal.dsSetStereoMode state handle value).1 = .ok () ∧
      mode (hal.dsSetStereoMode state handle value).2 =
        Function.update (mode state) handle value ∧
      auto (hal.dsSetStereoMode state handle value).2 = auto state
  setsAuto : ∀ state handle value,
    (hal.dsSetStereoAuto state handle value).1 = .ok () ∧
      auto (hal.dsSetStereoAuto state handle value).2 =
        Function.update (auto state) handle value ∧
      mode (hal.dsSetStereoAuto state handle value).2 = mode state

section Startup

variable {σ : Type} {hal : StereoAutoHal σ} {mode : σ → Int → DsAudioStereoMode}
  {auto : σ → Int → Int} (stores : hal.Stores mode auto)

/-- The mode and the auto flag the HAL has for a port. -/
def halSettings (hal : StereoAutoHal σ) (mode : σ → Int → DsAudioStereoMode)
    (auto : σ → Int → Int) (portType : DsAudioPortType) (stereo : StereoPlugin σ) :
    Option (DsAudioStereoMode × Int) :=
  match hal.dsGetAudioPort stereo.plugin.hal portType 0 with
  | .ok handle => some (mode stereo.plugin.hal handle, auto stereo.plugin.hal handle)
  | .error _ => none

/-- What the startup code tells the HAL about a port. -/
def StereoGlobals.toldHal (globals : StereoGlobals) (portType : DsAudioPortType) :
    DsAudioStereoMode × Int :=
  (globals.getConfiguredStereoMode portType,
    if globals.isStereoAutoEnabled portType then 1 else 0)

/-- Only the HAL has moved on from `start`. -/
structure OnlyHal (start stereo : StereoPlugin σ) : Prop where
  globals : stereo.globals = start.globals
  audio : stereo.plugin.audio = start.plugin.audio
  store : stereo.plugin.store = start.plugin.store
  files : stereo.plugin.files = start.plugin.files

theorem onlyHal_applyStartupSettings {start stereo : StereoPlugin σ} (only : OnlyHal start stereo)
    (portType : DsAudioPortType) :
    OnlyHal start (stereo.applyStartupSettings hal portType) := by
  unfold StereoPlugin.applyStartupSettings
  split
  · exact only
  · exact ⟨only.globals, only.audio, only.store, only.files⟩

include stores in
theorem halSettings_applyStartupSettings (stereo : StereoPlugin σ)
    (portType other : DsAudioPortType) :
    halSettings hal mode auto other (stereo.applyStartupSettings hal portType) =
      if other = portType then
        (halSettings hal mode auto other stereo).map fun _ => stereo.globals.toldHal other
      else halSettings hal mode auto other stereo := by
  unfold StereoPlugin.applyStartupSettings
  cases port : hal.dsGetAudioPort stereo.plugin.hal portType 0 with
  | error error =>
      by_cases same : other = portType
      · subst same
        simp [halSettings, port]
      · rw [if_neg same]
  | ok handle =>
      obtain ⟨-, modes, autos⟩ := stores.setsMode stereo.plugin.hal handle
        (stereo.globals.getConfiguredStereoMode portType)
      obtain ⟨-, autos', modes'⟩ := stores.setsAuto
        (hal.dsSetStereoMode stereo.plugin.hal handle
          (stereo.globals.getConfiguredStereoMode portType)).2 handle
        (if stereo.globals.isStereoAutoEnabled portType then 1 else 0)
      unfold halSettings
      dsimp only
      rw [stores.ports.fixed _ stereo.plugin.hal, autos', modes', autos, modes]
      by_cases same : other = portType
      · subst same
        simp [port, StereoGlobals.toldHal]
      · rw [if_neg same]
        cases held : hal.dsGetAudioPort stereo.plugin.hal other 0 with
        | error error => rfl
        | ok otherHandle =>
            have different : otherHandle ≠ handle := by
              rintro rfl
              exact same (stores.ports.distinct _ _ _ _ held port)
            simp [Function.update_of_ne different]

include stores in
/-- Behind the loop every port has in the HAL what the globals say. -/
theorem halSettings_foldl_applyStartupSettings (read : StereoPlugin σ)
    (portType : DsAudioPortType) :
    OnlyHal read (stereoPorts.foldl (StereoPlugin.applyStartupSettings hal) read) ∧
      (portType ∈ stereoPorts →
        halSettings hal mode auto portType
            (stereoPorts.foldl (StereoPlugin.applyStartupSettings hal) read) =
          (halSettings hal mode auto portType read).map fun _ =>
            read.globals.toldHal portType) := by
  have swept := foldl_own (OnlyHal read) (halSettings hal mode auto)
    (fun portType settings => settings.map fun _ => read.globals.toldHal portType)
    (StereoPlugin.applyStartupSettings hal) (show stereoPorts.Nodup by decide)
    (show OnlyHal read read from ⟨rfl, rfl, rfl, rfl⟩)
    (fun state only item _ => onlyHal_applyStartupSettings only item)
    (fun state only item _ => by
      rw [halSettings_applyStartupSettings stores, if_pos rfl, only.globals])
    (fun state only item _ other different => by
      rw [halSettings_applyStartupSettings stores, if_neg different]) portType
  exact ⟨swept.1, swept.2.1⟩

end Startup

/-! ### The calls -/

/-- The calls that change the stereo settings of a port. -/
inductive StereoCall where
  | setStereoMode (handle : Int) (mode : AudioStereoMode) (persist : Bool)
  | setStereoAuto (handle autoMode : Int) (persist : Bool)
  deriving DecidableEq, Repr

namespace StereoCall

def run {σ : Type} (hal : StereoAutoHal σ) (stereo : StereoPlugin σ) :
    StereoCall → StereoPlugin σ
  | .setStereoMode handle mode persist =>
    (stereo.setStereoMode hal.toStereoHal handle mode persist).2
  | .setStereoAuto handle autoMode persist => (stereo.setStereoAuto hal handle autoMode persist).2

/-- The mode a call persists for the port with this handle. -/
def persistedMode (handle : Int) : StereoCall → Option AudioStereoMode
  | .setStereoMode other mode persist => if other = handle ∧ persist then some mode else none
  | .setStereoAuto _ _ _ => none

/-- The auto flag a call persists for the port with this handle. -/
def persistedAuto (handle : Int) : StereoCall → Option Int
  | .setStereoMode _ _ _ => none
  | .setStereoAuto other autoMode persist =>
    if other = handle ∧ persist then some autoMode else none

/-- The modes a port can be asked for. -/
def Listed : StereoCall → Prop
  | .setStereoMode _ mode _ =>
    mode ∈ [AudioStereoMode.stereo, .surround, .passthrough, .dd, .ddPlus]
  | .setStereoAuto _ _ _ => True

end StereoCall

section Calls

variable {σ : Type}

/-- The process is up: the HAL is initialised and the store is loaded. -/
structure Up (stereo : StereoPlugin σ) : Prop where
  initialized : stereo.plugin.audio.isInitialized = true
  ready : stereo.plugin.store.isInitialized = true

theorem up_persistStereoMode {stereo : StereoPlugin σ} (up : Up stereo)
    (portType : DsAudioPortType) (mode : AudioStereoMode) :
    Up (stereo.persistStereoMode portType mode) ∧
      ∀ key, (stereo.persistStereoMode portType mode).plugin.store.properties.find? key =
        if audioModeKey portType = some key then some (modeString mode)
        else stereo.plugin.store.properties.find? key := by
  unfold StereoPlugin.persistStereoMode
  cases keyed : audioModeKey portType with
  | none => simp [up]
  | some own =>
      dsimp only
      rw [HostPersistence.persistHostProperty_store up.ready _
        ⟨audioModeKey_ne keyed, modeString_ne mode⟩]
      refine ⟨⟨up.initialized, up.ready⟩, fun key => ?_⟩
      simp only [OrderedMap.find?_set, Option.some.injEq]

theorem up_persistStereoAuto {stereo : StereoPlugin σ} (up : Up stereo)
    (portType : DsAudioPortType) (autoMode : Int) :
    Up (stereo.persistStereoAuto portType autoMode) ∧
      ∀ key, (stereo.persistStereoAuto portType autoMode).plugin.store.properties.find? key =
        if audioModeAutoKey portType = some key then some (autoString autoMode)
        else stereo.plugin.store.properties.find? key := by
  unfold StereoPlugin.persistStereoAuto
  cases keyed : audioModeAutoKey portType with
  | none => simp [up]
  | some own =>
      dsimp only
      rw [HostPersistence.persistHostProperty_store up.ready _
        ⟨audioModeAutoKey_ne keyed, autoString_ne autoMode⟩]
      refine ⟨⟨up.initialized, up.ready⟩, fun key => ?_⟩
      simp only [OrderedMap.find?_set, Option.some.injEq]

variable {hal : StereoAutoHal σ} {mode : σ → Int → DsAudioStereoMode}
  {auto : σ → Int → Int} (stores : hal.Stores mode auto)

include stores in
/-- What one `SetStereoMode` leaves in the store. -/
theorem up_setStereoMode {stereo : StereoPlugin σ} (up : Up stereo) (handle : Int)
    (value : AudioStereoMode) (persist : Bool) :
    let after := (stereo.setStereoMode hal.toStereoHal handle value persist).2
    Up after ∧ ∀ key, after.plugin.store.properties.find? key =
      if audioModeKey (stereo.plugin.getAudioPortType hal.toAudioHal handle) = some key ∧ persist
      then some (modeString value) else stereo.plugin.store.properties.find? key := by
  unfold StereoPlugin.setStereoMode
  rw [if_neg (by simp [up.initialized])]
  dsimp only
  by_cases unknown : stereo.plugin.getAudioPortType hal.toAudioHal handle = .max
  · simp [unknown, audioModeKey, up]
  · rw [if_neg unknown]
    obtain ⟨succeeds, -⟩ := stores.setsMode stereo.plugin.hal handle (convertModeToDS value)
    cases set : hal.dsSetStereoMode stereo.plugin.hal handle (convertModeToDS value) with
    | mk answer state =>
        rw [set] at succeeds
        dsimp only at succeeds
        subst succeeds
        have up' : Up { stereo with plugin.hal := state } := ⟨up.initialized, up.ready⟩
        cases persist with
        | false => exact ⟨⟨up.initialized, up.ready⟩, fun key => by simp⟩
        | true =>
            obtain ⟨persisted, found⟩ := up_persistStereoMode up'
              (stereo.plugin.getAudioPortType hal.toAudioHal handle) value
            exact ⟨⟨persisted.initialized, persisted.ready⟩, fun key => by
              simpa using found key⟩

include stores in
/-- What one `SetStereoAuto` leaves in the store. -/
theorem up_setStereoAuto {stereo : StereoPlugin σ} (up : Up stereo) (handle autoMode : Int)
    (persist : Bool) :
    let after := (stereo.setStereoAuto hal handle autoMode persist).2
    Up after ∧ ∀ key, after.plugin.store.properties.find? key =
      if audioModeAutoKey (stereo.plugin.getAudioPortType hal.toAudioHal handle) = some key ∧
          persist then some (autoString autoMode)
      else stereo.plugin.store.properties.find? key := by
  unfold StereoPlugin.setStereoAuto
  rw [if_neg (by simp [up.initialized])]
  dsimp only
  generalize told : (if persist = true then stereo.persistStereoAuto
    (stereo.plugin.getAudioPortType hal.toAudioHal handle) autoMode else stereo) = written
  have kept : Up written ∧ ∀ key, written.plugin.store.properties.find? key =
      if audioModeAutoKey (stereo.plugin.getAudioPortType hal.toAudioHal handle) = some key ∧
          persist then some (autoString autoMode)
      else stereo.plugin.store.properties.find? key := by
    subst told
    cases persist with
    | false => exact ⟨up, fun key => by simp⟩
    | true => simpa using up_persistStereoAuto up _ autoMode
  split_ifs
  · obtain ⟨succeeds, -⟩ := stores.setsAuto written.plugin.hal handle autoMode
    cases set : hal.dsSetStereoAuto written.plugin.hal handle autoMode with
    | mk answer state =>
        rw [set] at succeeds
        dsimp only at succeeds
        subst succeeds
        exact ⟨⟨kept.1.initialized, kept.1.ready⟩, kept.2⟩
  · exact ⟨⟨kept.1.initialized, kept.1.ready⟩, kept.2⟩

/-! ### Runs -/

include stores in
theorem getAudioPortType_eq_iff (plugin : Plugin σ) {portType : DsAudioPortType} {handle : Int}
    {state : σ} (kept : portType ∈ stereoPorts)
    (port : hal.dsGetAudioPort state portType 0 = .ok handle) (other : Int) :
    plugin.getAudioPortType hal.toAudioHal other = portType ↔ other = handle := by
  have listed : ∀ portType ∈ stereoPorts, portType ∈ portTypes := by decide
  exact stores.ports.getAudioPortType_eq_iff plugin (listed portType kept) port other

include stores in
theorem up_run {stereo : StereoPlugin σ} (up : Up stereo) (call : StereoCall) :
    Up (StereoCall.run hal stereo call) := by
  cases call with
  | setStereoMode handle value persist => exact (up_setStereoMode stores up handle value persist).1
  | setStereoAuto handle autoMode persist =>
      exact (up_setStereoAuto stores up handle autoMode persist).1

section Port

variable {portType : DsAudioPortType} {handle : Int} {state : σ} (kept : portType ∈ stereoPorts)
  (port : hal.dsGetAudioPort state portType 0 = .ok handle)

include stores kept port in
/-- What a call leaves in the mode property of a port. -/
theorem find?_mode_run {stereo : StereoPlugin σ} (up : Up stereo) {key : String}
    (keyed : audioModeKey portType = some key) (call : StereoCall) :
    (StereoCall.run hal stereo call).plugin.store.properties.find? key =
      ((call.persistedMode handle).map modeString).or
        (stereo.plugin.store.properties.find? key) := by
  cases call with
  | setStereoMode other value persist =>
      apply ((up_setStereoMode stores up other value persist).2 key).trans
      have own : audioModeKey (stereo.plugin.getAudioPortType hal.toAudioHal other) = some key ↔
          other = handle := by
        rw [← getAudioPortType_eq_iff stores stereo.plugin kept port other]
        exact ⟨fun same => audioModeKey_injective same keyed, fun same => by rw [same, keyed]⟩
      simp only [own, StereoCall.persistedMode]
      split_ifs <;> rfl
  | setStereoAuto other autoMode persist =>
      apply ((up_setStereoAuto stores up other autoMode persist).2 key).trans
      rw [if_neg fun wrote => audioModeKey_ne_auto keyed wrote.1 rfl]
      rfl

include stores kept port in
/-- What a call leaves in the auto property of a port. -/
theorem find?_auto_run {stereo : StereoPlugin σ} (up : Up stereo) {key : String}
    (keyed : audioModeAutoKey portType = some key) (call : StereoCall) :
    (StereoCall.run hal stereo call).plugin.store.properties.find? key =
      ((call.persistedAuto handle).map autoString).or
        (stereo.plugin.store.properties.find? key) := by
  cases call with
  | setStereoMode other value persist =>
      apply ((up_setStereoMode stores up other value persist).2 key).trans
      rw [if_neg fun wrote => audioModeKey_ne_auto wrote.1 keyed rfl]
      rfl
  | setStereoAuto other autoMode persist =>
      apply ((up_setStereoAuto stores up other autoMode persist).2 key).trans
      have own : audioModeAutoKey (stereo.plugin.getAudioPortType hal.toAudioHal other) =
          some key ↔ other = handle := by
        rw [← getAudioPortType_eq_iff stores stereo.plugin kept port other]
        exact ⟨fun same => audioModeAutoKey_injective same keyed,
          fun same => by rw [same, keyed]⟩
      simp only [own, StereoCall.persistedAuto]
      split_ifs <;> rfl

include stores in
theorem up_after_calls {start : StereoPlugin σ} (up : Up start) (calls : List StereoCall) :
    Up (calls.foldl (StereoCall.run hal) start) :=
  List.foldlRecOn calls _ up fun _ up call _ => up_run stores up call

include stores kept port in
/-- After a run the mode property of a port has the last mode persisted for it. -/
theorem find?_mode_after_calls {start : StereoPlugin σ} (up : Up start) {key : String}
    (keyed : audioModeKey portType = some key) (calls : List StereoCall) :
    (calls.foldl (StereoCall.run hal) start).plugin.store.properties.find? key =
      ((lastOf (StereoCall.persistedMode handle) calls).map modeString).or
        (start.plugin.store.properties.find? key) := by
  rw [← lastOf_map]
  exact (foldl_register Up (fun stereo => stereo.plugin.store.properties.find? key) _
    (fun _ call _ up => ⟨up_run stores up call, find?_mode_run stores kept port up keyed call⟩)
    up).2

include stores kept port in
/-- After a run the auto property of a port has the last flag persisted for it. -/
theorem find?_auto_after_calls {start : StereoPlugin σ} (up : Up start) {key : String}
    (keyed : audioModeAutoKey portType = some key) (calls : List StereoCall) :
    (calls.foldl (StereoCall.run hal) start).plugin.store.properties.find? key =
      ((lastOf (StereoCall.persistedAuto handle) calls).map autoString).or
        (start.plugin.store.properties.find? key) := by
  rw [← lastOf_map]
  exact (foldl_register Up (fun stereo => stereo.plugin.store.properties.find? key) _
    (fun _ call _ up => ⟨up_run stores up call, find?_auto_run stores kept port up keyed call⟩)
    up).2

end Port
/-! ### Restarts -/

/-- The objects of a new process on the store of `stereo`, where `InitialiseHAL` has come to the
stereo settings; everything else is `fresh`. -/
def StereoPlugin.reopened (stereo fresh : StereoPlugin σ) : StereoPlugin σ where
  plugin :=
    { hal := fresh.plugin.hal
      audio := { fresh.plugin.audio with isInitialized := true }
      store := stereo.plugin.store
      files := stereo.plugin.files }
  globals := fresh.globals

/-- A restart on the same store. -/
def StereoPlugin.restart (hal : StereoAutoHal σ) (ignoreEdidLogic : Bool)
    (stereo fresh : StereoPlugin σ) : StereoPlugin σ :=
  (stereo.reopened fresh).initializeAudioPortSettings hal ignoreEdidLogic

section Initialize

variable (ignoreEdidLogic : Bool) {stereo : StereoPlugin σ}

include stores in
theorem onlyHal_initializeAudioPortSettings (stereo : StereoPlugin σ) :
    OnlyHal (stereo.readStartupSettings ignoreEdidLogic)
      (stereo.initializeAudioPortSettings hal ignoreEdidLogic) :=
  (halSettings_foldl_applyStartupSettings stores _ .hdmi).1

include stores in
theorem up_initializeAudioPortSettings (initialized : stereo.plugin.audio.isInitialized = true) :
    Up (stereo.initializeAudioPortSettings hal ignoreEdidLogic) := by
  have only := onlyHal_initializeAudioPortSettings stores ignoreEdidLogic stereo
  have loaded := stereo.readStartupSettings_plugin ignoreEdidLogic
  constructor
  · rw [only.audio, loaded]
    exact initialized
  · rw [only.store, loaded]
    exact HostPersistence.ensureInitialized_isInitialized _ _

variable (up : Up stereo) {portType : DsAudioPortType} {handle : Int} {state : σ}
  (kept : portType ∈ stereoPorts) (port : hal.dsGetAudioPort state portType 0 = .ok handle)

include stores up in
theorem store_initializeAudioPortSettings :
    (stereo.initializeAudioPortSettings hal ignoreEdidLogic).plugin.store =
      stereo.plugin.store := by
  rw [(onlyHal_initializeAudioPortSettings stores ignoreEdidLogic stereo).store,
    stereo.readStartupSettings_plugin ignoreEdidLogic]
  exact HostPersistence.ensureInitialized_of_ready up.ready _

include stores kept port in
/-- Behind the startup code the HAL has for a port what the globals have. -/
theorem hal_initializeAudioPortSettings (stereo : StereoPlugin σ) :
    let after := stereo.initializeAudioPortSettings hal ignoreEdidLogic
    (mode after.plugin.hal handle, auto after.plugin.hal handle) =
      after.globals.toldHal portType := by
  intro after
  have told := (halSettings_foldl_applyStartupSettings stores
    (stereo.readStartupSettings ignoreEdidLogic) portType).2 kept
  rw [(onlyHal_initializeAudioPortSettings stores ignoreEdidLogic stereo).globals]
  simp only [halSettings, stores.ports.fixed _ state, port, Option.map_some,
    Option.some.injEq] at told
  exact told

include stores up kept port in
/-- What a stored mode makes of a port at startup. -/
theorem mode_initializeAudioPortSettings {key value : String}
    (keyed : audioModeKey portType = some key)
    (stored : stereo.plugin.store.properties.find? key = some value) :
    let after := stereo.initializeAudioPortSettings hal ignoreEdidLogic
    hal.dsGetStereoMode after.plugin.hal handle =
        .ok (startupMode ignoreEdidLogic portType value) ∧
      after.globals.getConfiguredStereoMode portType =
        startupMode ignoreEdidLogic portType value ∧
      (after.getStereoMode hal.toStereoHal handle true).1 =
        .ok (convertModeFromDS (parseMode value)) := by
  intro after
  have configured : after.globals.getConfiguredStereoMode portType =
      startupMode ignoreEdidLogic portType value := by
    rw [(onlyHal_initializeAudioPortSettings stores ignoreEdidLogic stereo).globals,
      (StereoPlugin.readStartupSettings_globals ignoreEdidLogic up.ready portType).1]
    exact StereoPlugin.readStartupMode_fst ignoreEdidLogic up.ready keyed stored
  refine ⟨?_, configured, ?_⟩
  · rw [stores.getsMode, ← configured]
    have told := hal_initializeAudioPortSettings stores ignoreEdidLogic kept port stereo
    exact congrArg Except.ok (congrArg Prod.fst told)
  · have up' : Up after := up_initializeAudioPortSettings stores ignoreEdidLogic up.initialized
    have found := (getAudioPortType_eq_iff stores after.plugin kept port handle).mpr rfl
    rw [← store_initializeAudioPortSettings stores ignoreEdidLogic up] at stored
    unfold StereoPlugin.getStereoMode
    rw [if_neg (by simp [up'.initialized])]
    simp only [found, StereoPlugin.getPersistedStereoMode, keyed, HostPersistence.getProperty,
      HostPersistence.ensureInitialized_of_ready up'.ready, if_neg (audioModeKey_ne keyed),
      stored, if_true, after]

include stores up kept port in
/-- What a stored auto flag makes of a port at startup. -/
theorem auto_initializeAudioPortSettings {key value : String}
    (keyed : audioModeAutoKey portType = some key)
    (stored : stereo.plugin.store.properties.find? key = some value) :
    let after := stereo.initializeAudioPortSettings hal ignoreEdidLogic
    after.getStereoAuto hal.toStereoHal handle = .ok (if value = "TRUE" then 1 else 0) ∧
      auto after.plugin.hal handle = if value = "TRUE" then 1 else 0 := by
  intro after
  have flag : after.globals.isStereoAutoEnabled portType = decide (value = "TRUE") := by
    rw [(onlyHal_initializeAudioPortSettings stores ignoreEdidLogic stereo).globals,
      (StereoPlugin.readStartupSettings_globals ignoreEdidLogic up.ready portType).2]
    exact StereoPlugin.readStartupAuto_fst ignoreEdidLogic up.ready keyed stored
  constructor
  · have up' : Up after := up_initializeAudioPortSettings stores ignoreEdidLogic up.initialized
    have found := (getAudioPortType_eq_iff stores after.plugin kept port handle).mpr rfl
    unfold StereoPlugin.getStereoAuto
    rw [if_neg (by simp [up'.initialized])]
    simp [found, flag]
  · have told := congrArg Prod.snd
      (hal_initializeAudioPortSettings stores ignoreEdidLogic kept port stereo)
    simpa [StereoGlobals.toldHal, flag, after] using told

end Initialize

/-- Each port has what was persisted for it last. -/
def SettingsSurvive (hal : StereoAutoHal σ) (auto : σ → Int → Int) (calls : List StereoCall)
    (after : StereoPlugin σ) : Prop :=
  ∀ portType ∈ stereoPorts, ∀ handle,
    hal.dsGetAudioPort after.plugin.hal portType 0 = .ok handle →
      (∀ value, lastOf (StereoCall.persistedMode handle) calls = some value →
        hal.dsGetStereoMode after.plugin.hal handle = .ok (convertModeToDS value) ∧
          after.globals.getConfiguredStereoMode portType = convertModeToDS value ∧
          (after.getStereoMode hal.toStereoHal handle true).1 = .ok value) ∧
      ∀ autoMode, lastOf (StereoCall.persistedAuto handle) calls = some autoMode →
        after.getStereoAuto hal.toStereoHal handle = .ok (if autoMode ≠ 0 then 1 else 0) ∧
          auto after.plugin.hal handle = if autoMode ≠ 0 then 1 else 0

theorem listed_of_lastOf {calls : List StereoCall} (listed : ∀ call ∈ calls, call.Listed)
    {handle : Int} {value : AudioStereoMode}
    (last : lastOf (StereoCall.persistedMode handle) calls = some value) :
    value ∈ [AudioStereoMode.stereo, .surround, .passthrough, .dd, .ddPlus] := by
  obtain ⟨call, member, persisted⟩ := exists_of_lastOf last
  cases call with
  | setStereoAuto other autoMode persist => simp [StereoCall.persistedMode] at persisted
  | setStereoMode other mode persist =>
      have mine := listed _ member
      simp only [StereoCall.persistedMode, Option.ite_none_right_eq_some,
        Option.some.injEq] at persisted
      rwa [← persisted.2]

theorem exists_audioModeKey {portType : DsAudioPortType} (kept : portType ∈ stereoPorts) :
    (∃ key, audioModeKey portType = some key) ∧ ∃ key, audioModeAutoKey portType = some key := by
  cases portType <;> first | exact ⟨⟨_, rfl⟩, _, rfl⟩ | simp [stereoPorts] at kept

section Survival

variable (ignoreEdidLogic : Bool) {start : StereoPlugin σ} (up : Up start)
  (calls : List StereoCall) (fresh : StereoPlugin σ) {portType : DsAudioPortType} {handle : Int}
  {state : σ} (kept : portType ∈ stereoPorts)
  (port : hal.dsGetAudioPort state portType 0 = .ok handle)

include stores up kept port in
/-- What a restart makes of the last persisted mode: the string of the mode, read by the parser
of the port. -/
theorem mode_restart {value : AudioStereoMode}
    (last : lastOf (StereoCall.persistedMode handle) calls = some value) :
    let after := (calls.foldl (StereoCall.run hal) start).restart hal ignoreEdidLogic fresh
    hal.dsGetStereoMode after.plugin.hal handle =
        .ok (startupMode ignoreEdidLogic portType (modeString value)) ∧
      after.globals.getConfiguredStereoMode portType =
        startupMode ignoreEdidLogic portType (modeString value) ∧
      (after.getStereoMode hal.toStereoHal handle true).1 =
        .ok (convertModeFromDS (parseMode (modeString value))) := by
  obtain ⟨⟨key, keyed⟩, -⟩ := exists_audioModeKey kept
  have ran := up_after_calls stores up calls
  have stored := find?_mode_after_calls stores kept port up keyed calls
  rw [last, Option.map_some, Option.some_or] at stored
  exact mode_initializeAudioPortSettings stores ignoreEdidLogic
    (show Up (StereoPlugin.reopened _ fresh) from ⟨rfl, ran.ready⟩) kept port keyed stored

include stores up kept port in
/-- What a restart makes of the last persisted auto flag. -/
theorem auto_restart {autoMode : Int}
    (last : lastOf (StereoCall.persistedAuto handle) calls = some autoMode) :
    let after := (calls.foldl (StereoCall.run hal) start).restart hal ignoreEdidLogic fresh
    after.getStereoAuto hal.toStereoHal handle = .ok (if autoMode ≠ 0 then 1 else 0) ∧
      auto after.plugin.hal handle = if autoMode ≠ 0 then 1 else 0 := by
  obtain ⟨-, key, keyed⟩ := exists_audioModeKey kept
  have ran := up_after_calls stores up calls
  have stored := find?_auto_after_calls stores kept port up keyed calls
  rw [last, Option.map_some, Option.some_or] at stored
  have survived := auto_initializeAudioPortSettings stores ignoreEdidLogic
    (show Up (StereoPlugin.reopened _ fresh) from ⟨rfl, ran.ready⟩) kept port keyed stored
  simp only [autoString_eq_true_iff] at survived
  exact survived

end Survival

include stores in
/-- From a started process on, any run of calls and a restart. -/
theorem settings_survive_restart_iff (ignoreEdidLogic : Bool) (first fresh : StereoPlugin σ)
    (calls : List StereoCall) (listed : ∀ call ∈ calls, call.Listed) :
    SettingsSurvive hal auto calls
        ((calls.foldl (StereoCall.run hal) (first.restart hal ignoreEdidLogic first)).restart hal
          ignoreEdidLogic fresh) ↔
      ∀ portType ∈ stereoPorts, portType ≠ .hdmi → ∀ handle,
        hal.dsGetAudioPort fresh.plugin.hal portType 0 = .ok handle →
          lastOf (StereoCall.persistedMode handle) calls ≠ some .dd ∧
            lastOf (StereoCall.persistedMode handle) calls ≠ some .ddPlus := by
  have up : Up (first.restart hal ignoreEdidLogic first) :=
    up_initializeAudioPortSettings stores ignoreEdidLogic rfl
  constructor
  · intro survive portType kept other handle port
    rw [stores.ports.fixed _ ((calls.foldl (StereoCall.run hal)
      (first.restart hal ignoreEdidLogic first)).restart hal ignoreEdidLogic fresh).plugin.hal]
      at port
    have equal : ∀ value, lastOf (StereoCall.persistedMode handle) calls = some value →
        value ≠ .dd ∧ value ≠ .ddPlus := by
      intro value last
      have kind := mode_restart stores ignoreEdidLogic up calls fresh kept port last
      have promised := (survive portType kept handle port).1 value last
      have read := kind.2.1.symm.trans promised.2.1
      exact ((startupMode_modeString_iff ignoreEdidLogic kept
        (listed_of_lastOf listed last)).mp read).resolve_left other
    exact ⟨fun last => (equal _ last).1 rfl, fun last => (equal _ last).2 rfl⟩
  · intro plain portType kept handle port
    refine ⟨fun value last => ?_, fun autoMode last =>
      auto_restart stores ignoreEdidLogic up calls fresh kept port last⟩
    have member := listed_of_lastOf listed last
    have read : startupMode ignoreEdidLogic portType (modeString value) =
        convertModeToDS value := by
      apply (startupMode_modeString_iff ignoreEdidLogic kept member).mpr
      by_cases hdmi : portType = .hdmi
      · exact .inl hdmi
      · rw [stores.ports.fixed _ fresh.plugin.hal] at port
        obtain ⟨notDd, notDdPlus⟩ := plain portType kept hdmi handle port
        rw [last] at notDd notDdPlus
        exact .inr ⟨fun same => notDd (congrArg some same),
          fun same => notDdPlus (congrArg some same)⟩
    have kind := mode_restart stores ignoreEdidLogic up calls fresh kept port last
    dsimp only at kind
    rwa [read, parseMode_modeString member] at kind

end Calls

namespace StereoSettings

/-- The modes and the auto flags by handle; every call succeeds. -/
def hal : StereoAutoHal ((Int → DsAudioStereoMode) × (Int → Int)) where
  dsGetAudioPort _ type _ :=
    match type with
    | .hdmi => .ok 1
    | .spdif => .ok 2
    | .hdmiArc => .ok 3
    | .speaker => .ok 4
    | _ => .error .operationNotSupported
  dsIsAudioPortEnabled _ _ := .ok true
  dsIsAudioMute _ _ := .ok false
  dsEnableAudioPort memory _ _ := (.ok (), memory)
  dsSetAudioLevel memory _ _ := (.ok (), memory)
  dsSetAudioDelay memory _ _ := (.ok (), memory)
  dsGetStereoMode memory handle := .ok (memory.1 handle)
  dsSetStereoMode memory handle mode :=
    (.ok (), (Function.update memory.1 handle mode, memory.2))
  dsSetStereoAuto memory handle autoMode :=
    (.ok (), (memory.1, Function.update memory.2 handle autoMode))

theorem stores : hal.Stores Prod.fst Prod.snd where
  ports := {
    fixed _ _ := rfl
    narrow := by
      intro memory type handle port
      cases type <;> cases port <;> decide
    distinct := by
      intro memory type other handle port same
      cases type <;> cases port <;> cases other <;> cases same <;> rfl }
  getsMode _ _ := rfl
  setsMode _ _ _ := ⟨rfl, rfl, rfl⟩
  setsAuto _ _ _ := ⟨rfl, rfl, rfl⟩

/-- A process that has started nothing yet. -/
def first : StereoPlugin ((Int → DsAudioStereoMode) × (Int → Int)) where
  plugin := {
    hal := (fun _ => .stereo, fun _ => 0)
    audio := ⟨false, false, 0, ⟨0, 0, 0, 0⟩, fun _ => false⟩
    store := .ofStoreFile "/opt/persistent/ds/hostData"
    files := fun _ => .absent }
  globals := ⟨.stereo, .stereo, .stereo, .stereo, false, false, false, false⟩

end StereoSettings

theorem settings_survive_restart_iff_surround :
    SettingsSurvive StereoSettings.hal Prod.snd
        [.setStereoMode 2 .dd true, .setStereoAuto 4 0 true, .setStereoMode 2 .surround true]
        ((([.setStereoMode 2 .dd true, .setStereoAuto 4 0 true,
          .setStereoMode 2 .surround true].foldl (StereoCall.run StereoSettings.hal)
            (StereoSettings.first.restart StereoSettings.hal false
              StereoSettings.first))).restart StereoSettings.hal false StereoSettings.first) ↔
      ∀ portType ∈ stereoPorts, portType ≠ .hdmi → ∀ handle,
        StereoSettings.hal.dsGetAudioPort StereoSettings.first.plugin.hal portType 0 =
            .ok handle →
          lastOf (StereoCall.persistedMode handle) [.setStereoMode 2 .dd true,
              .setStereoAuto 4 0 true, .setStereoMode 2 .surround true] ≠ some .dd ∧
            lastOf (StereoCall.persistedMode handle) [.setStereoMode 2 .dd true,
              .setStereoAuto 4 0 true, .setStereoMode 2 .surround true] ≠ some .ddPlus :=
  settings_survive_restart_iff StereoSettings.stores false _ _ _
    (by simp [StereoCall.Listed])

/-- Dolby Digital persisted for the digital port comes back as stereo. -/
theorem not_settings_survive_restart :
    ¬∀ (first fresh : StereoPlugin ((Int → DsAudioStereoMode) × (Int → Int)))
      (calls : List StereoCall), (∀ call ∈ calls, call.Listed) →
        SettingsSurvive StereoSettings.hal Prod.snd calls
          ((calls.foldl (StereoCall.run StereoSettings.hal)
            (first.restart StereoSettings.hal false first)).restart StereoSettings.hal false
              fresh) := by
  intro survive
  have spdif := survive StereoSettings.first StereoSettings.first [.setStereoMode 2 .dd true]
    (by simp [StereoCall.Listed]) .spdif (by decide) 2 rfl
  have up : Up (StereoSettings.first.restart StereoSettings.hal false StereoSettings.first) :=
    up_initializeAudioPortSettings StereoSettings.stores false rfl
  have kept : DsAudioPortType.spdif ∈ stereoPorts := by decide
  have port : StereoSettings.hal.dsGetAudioPort StereoSettings.first.plugin.hal .spdif 0 = .ok 2 :=
    rfl
  have stereo := mode_restart StereoSettings.stores false up [.setStereoMode 2 .dd true]
    StereoSettings.first kept port (show _ = some AudioStereoMode.dd from rfl)
  have promised := (spdif.1 .dd rfl).2.1
  rw [stereo.2.1] at promised
  exact absurd promised (by decide)

end DeviceSettings.Audio
