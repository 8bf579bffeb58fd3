import DeviceSettings.Persistence.Processes
import DeviceSettings.VideoDevice.Settings

/-!
# Zoom and HDR in the processes of a device

The constructor of `dVideoDeviceImpl` reads the zoom and the HDR flag into statics, where
`dsVideoDeviceInit` succeeds. The calls do not ask whether it has, and the statics outlive the
object.
-/

namespace DeviceSettings.VideoDevice

open DeviceSettings.Std
open DeviceSettings.Persistence

/-- `convertDSVideoZoom(dsZoom)`. -/
def convertDSVideoZoom : DsVideoZoom → VideoDeviceZoom
  | .none => .none
  | .full => .full
  | .lb16x9 => .lb16x9
  | .lb14x9 => .lb14x9
  | .cco => .cco
  | .panScan => .panScan
  | .lb221On4x3 => .lb221On4x3
  | .lb221On16x9 => .lb221On16x9
  | .platform => .platform
  | .zoom16x9 => .zoom16x9
  | .pillarbox4x3 => .pillarbox4x3
  | .wide4x3 => .wide4x3

def dfcKey : String := "VideoDevice.DFC"

/-- The HAL as the object uses it; `dsGetHDRCapabilities` may be missing. -/
structure DeviceHal (σ : Type) extends VideoDeviceHal σ where
  dsVideoDeviceInit : σ → Except DsError Unit × σ
  dsVideoDeviceTerm : σ → σ
  dsGetHDRCapabilities : Option (σ → Int → Except DsError Int)
  /-- `dsHDRSTANDARD_NONE`. -/
  hdrStandardNone : Int

/-- The statics of a process with the device behind them. -/
structure DeviceProcess (σ : Type) where
  device : VideoDeviceState σ
  isConstructed : Bool
  isPlatInitialized : Bool

/-- What a call answers with. -/
inductive DeviceAnswer where
  | done
  | zoom (zoomSetting : VideoDeviceZoom)
  | capabilities (capabilities : Int)
  deriving DecidableEq, Repr

/-- What the outside sees of a step. -/
inductive DeviceOutput where
  | dsHdmiInSelectZoomMode (zoom : DsVideoZoom)
  | returned (result : Except CoreError DeviceAnswer)

/-- The object comes or goes, a call is made on it, or another component persists a property. -/
inductive DeviceAction where
  | construct
  | destruct
  | setVideoDeviceDFC (handle : Int) (zoomSetting : VideoDeviceZoom)
  | getVideoDeviceDFC (handle : Int)
  | disableHDR (handle : Int) (disable : Bool)
  | getHDRCapabilities (handle : Int)
  | otherProperty (key value : String)
  deriving DecidableEq, Repr

namespace VideoDeviceState

variable {σ : Type} (hal : DeviceHal σ)

/-- The first part of `getPersistenceValue()`: only `None` is told from what is set. -/
def readZoom (state : VideoDeviceState σ) : VideoDeviceState σ × List DeviceOutput :=
  match state.store.getPropertyOr state.files dfcKey "Full" with
  | (.error _, store) => ({ state with store := store }, [])
  | (.ok zoomSettings, store) =>
    let state := { state with store := store }
    let state := if zoomSettings = "None" then { state with srvDfc := .none } else state
    if hal.tvProfile then
      ({ state with hal := hal.dsHdmiInSelectZoomMode state.hal state.srvDfc },
        [.dsHdmiInSelectZoomMode state.srvDfc])
    else (state, [])

/-- The second part of `getPersistenceValue()`. -/
def readHdr (state : VideoDeviceState σ) : VideoDeviceState σ :=
  match state.store.getPropertyOr state.files forceHDRDisabledKey "false" with
  | (.error _, store) => { state with store := store }
  | (.ok hdrSetting, store) =>
    { state with store := store, forceDisableHdr := hdrSetting != "false" }

/-- `GetHDRCapabilities(handle, capabilities)`. -/
def getHDRCapabilities (state : VideoDeviceState σ) (handle : Int) :
    Except CoreError DeviceAnswer :=
  match hal.dsGetHDRCapabilities, state.forceDisableHdr with
  | some func, false =>
    match func state.hal handle with
    | .ok dsCapabilities => .ok (.capabilities dsCapabilities)
    | .error _ => .error .general
  | _, _ => .ok (.capabilities hal.hdrStandardNone)

/-- The store behind its first use. -/
def loaded (state : VideoDeviceState σ) : LoadedStore := .ofStore state.store state.files

end VideoDeviceState

/-- What the HAL answers when it is asked for its capabilities. -/
def DeviceHal.capabilities {σ : Type} (hal : DeviceHal σ) (state : σ) (handle : Int) :
    Except CoreError DeviceAnswer :=
  match hal.dsGetHDRCapabilities with
  | none => .ok (.capabilities hal.hdrStandardNone)
  | some func =>
    match func state handle with
    | .ok dsCapabilities => .ok (.capabilities dsCapabilities)
    | .error _ => .error .general

namespace DeviceProcess

variable {σ : Type} (hal : DeviceHal σ)

/-- The statics of a new process. -/
def ofProcess (state : σ) (store : LoadedStore) : DeviceProcess σ :=
  ⟨⟨state, .full, true, store.store, store.files⟩, false, false⟩

/-- `InitialiseHAL()`, which the constructor calls. -/
def initialiseHAL (process : DeviceProcess σ) : DeviceProcess σ × List DeviceOutput :=
  if process.isPlatInitialized then (process, [])
  else
    match hal.dsVideoDeviceInit process.device.hal with
    | (.error _, state) => ({ process with device.hal := state }, [])
    | (.ok _, state) =>
      let zoom := { process.device with hal := state }.readZoom hal
      ({ process with device := zoom.1.readHdr, isPlatInitialized := true }, zoom.2)

/-- `DeInitialiseHAL()`, which the destructor calls. -/
def deInitialiseHAL (process : DeviceProcess σ) : DeviceProcess σ :=
  if process.isPlatInitialized then
    { process with
      device.hal := hal.dsVideoDeviceTerm process.device.hal
      isPlatInitialized := false }
  else process

/-- What `SetVideoDeviceDFC` shows: on a television the HDMI input is told `srv_dfc`, also where
the call fails. -/
def dfcOutputs (set : Except CoreError Unit × VideoDeviceState σ) : List DeviceOutput :=
  (if hal.tvProfile then [.dsHdmiInSelectZoomMode set.2.srvDfc] else []) ++
    [.returned (set.1.map fun _ => .done)]

/-- The calls; whether the HAL is initialised is not asked. -/
def call (process : DeviceProcess σ) : DeviceAction → Option (DeviceProcess σ × List DeviceOutput)
  | .setVideoDeviceDFC handle zoomSetting =>
    let set := process.device.setVideoDeviceDFC hal.toVideoDeviceHal handle zoomSetting
    some ({ process with device := set.2 }, dfcOutputs hal set)
  | .getVideoDeviceDFC _ =>
    some (process, [.returned (.ok (.zoom (convertDSVideoZoom process.device.srvDfc)))])
  | .disableHDR handle disable =>
    let set := process.device.disableHDR hal.toVideoDeviceHal handle disable
    some ({ process with device := set.2 }, [.returned (set.1.map fun _ => .done)])
  | .getHDRCapabilities handle =>
    some (process, [.returned (process.device.getHDRCapabilities hal handle)])
  | _ => none

/-- One step; there is one object at a time. -/
def step (process : DeviceProcess σ) (action : DeviceAction) :
    Option (DeviceProcess σ × List DeviceOutput) :=
  match action with
  | .construct =>
    if process.isConstructed then none
    else some ({ process with isConstructed := true }.initialiseHAL hal)
  | .destruct =>
    if process.isConstructed then
      some ({ process with isConstructed := false }.deInitialiseHAL hal, [])
    else none
  | .otherProperty key value =>
    if key = dfcKey ∨ key = forceHDRDisabledKey then none
    else some ({ process with device := process.device.persist key value }, [])
  | action => if process.isConstructed then process.call hal action else none

end DeviceProcess

/-- The video device in one process. -/
def videoDevice {σ : Type} (hal : DeviceHal σ) :
    Machine (DeviceProcess σ) DeviceAction DeviceOutput :=
  ⟨DeviceProcess.step hal⟩

abbrev DeviceStep (σ : Type) := Occurrence (DeviceProcess σ) DeviceAction DeviceOutput

/-! ### What a step does to the settings -/

section Settings

variable {σ : Type}

/-- What is stored for a zoom. -/
def dfcText (zoom : DsVideoZoom) : String := if zoom = .none then "None" else "Full"

theorem dfcText_of_dfcString {zoom : DsVideoZoom} {text : String}
    (stored : dfcString zoom = some text) : text = dfcText zoom := by
  cases zoom <;> simp_all [dfcString, dfcText]

theorem dfcText_eq_none_iff {zoom : DsVideoZoom} : dfcText zoom = "None" ↔ zoom = .none := by
  unfold dfcText
  split_ifs with none
  · simp [none]
  · simp [none]

def hdrText (disable : Bool) : String := if disable then "true" else "false"

/-- The HDR flag as `getPersistenceValue` finds it. -/
def storedHdr (found : Option String) : Bool := found.getD "false" != "false"

theorem storedHdr_hdrText (disable : Bool) : storedHdr (some (hdrText disable)) = disable := by
  cases disable <;> decide

namespace VideoDeviceState

/-- What becomes of the settings where they are read, a zoom is accepted, the HDR flag is set or
properties are written. -/
structure Moves (before : VideoDeviceState σ) (reads : Bool) (zoom : Option DsVideoZoom)
    (disable : Option Bool) (wrote : List (String × String)) (after : VideoDeviceState σ) :
    Prop where
  loaded : after.loaded = before.loaded.persistEach wrote
  srvDfc : after.srvDfc =
    zoom.getD (if reads = true ∧ before.loaded.find? dfcKey = some "None" then .none
      else before.srvDfc)
  forceDisableHdr : after.forceDisableHdr =
    disable.getD (if reads = true then storedHdr (before.loaded.find? forceHDRDisabledKey)
      else before.forceDisableHdr)

theorem moves_of_same {before after : VideoDeviceState σ} (store : after.store = before.store)
    (files : after.files = before.files) (srvDfc : after.srvDfc = before.srvDfc)
    (hdr : after.forceDisableHdr = before.forceDisableHdr) :
    before.Moves false none none [] after := by
  refine ⟨?_, srvDfc, hdr⟩
  unfold loaded
  rw [store, files]
  rfl

theorem loaded_persist (state : VideoDeviceState σ) (key value : String) :
    (state.persist key value).loaded = state.loaded.persist key value :=
  LoadedStore.ofStore_persistHostProperty state.store state.files key value

/-- Looking a property up is a use of the store. -/
theorem getPropertyOr_loaded (state : VideoDeviceState σ) {key : String} (named : key ≠ "")
    (fallback : String) :
    state.store.getPropertyOr state.files key fallback =
      (.ok ((state.loaded.find? key).getD fallback), state.loaded.store) := by
  simp only [HostPersistence.getPropertyOr, if_neg named]
  rfl

variable (hal : DeviceHal σ)

/-- `getPersistenceValue` keeps the store, and tells the zoom that it leaves. -/
theorem moves_getPersistenceValue (state : VideoDeviceState σ) :
    state.Moves true none none [] (state.readZoom hal).1.readHdr ∧
      ∀ output ∈ (state.readZoom hal).2,
        output = .dsHdmiInSelectZoomMode (state.readZoom hal).1.readHdr.srvDfc := by
  have again : ∀ other : VideoDeviceState σ, other.store = state.loaded.store →
      other.files = state.files → other.loaded = state.loaded := by
    intro other store files
    unfold loaded
    rw [store, files]
    exact state.loaded.ofStore_store
  have hdr : ∀ other : VideoDeviceState σ, other.store = state.loaded.store →
      other.files = state.files →
        other.readHdr = { other with
          forceDisableHdr := storedHdr (state.loaded.find? forceHDRDisabledKey) } := by
    intro other store files
    have same := again other store files
    have read := other.getPropertyOr_loaded (show forceHDRDisabledKey ≠ "" by decide) "false"
    unfold readHdr
    rw [read, same, ← store]
    rfl
  have zoom := state.getPropertyOr_loaded (show dfcKey ≠ "" by decide) "Full"
  have stored : (state.loaded.find? dfcKey).getD "Full" = "None" ↔
      state.loaded.find? dfcKey = some "None" := by
    cases state.loaded.find? dfcKey <;> simp
  unfold readZoom
  rw [zoom]
  simp only [stored]
  by_cases tv : hal.tvProfile = true <;>
    by_cases none : state.loaded.find? dfcKey = some "None" <;>
      simp only [tv, none, if_true, if_false, Bool.false_eq_true] <;>
      rw [hdr _ (by rfl) (by rfl)] <;>
      exact ⟨⟨again _ rfl rfl, by simp [none], rfl⟩, by simp⟩

/-- A zoom is stored where the HAL has accepted it. -/
theorem moves_setVideoDeviceDFC (hal : VideoDeviceHal σ) (state : VideoDeviceState σ)
    (handle : Int) (zoomSetting : VideoDeviceZoom) :
    let zoom := convertVideoDeviceZoom zoomSetting
    let set := state.setVideoDeviceDFC hal handle zoomSetting
    (set.1 = .ok () ∧
        state.Moves false (some zoom) none [(dfcKey, dfcText zoom)] set.2) ∨
      ∃ error, set.1 = .error error ∧ state.Moves false none none [] set.2 := by
  intro zoom
  have applied : ((state.applyDfc hal handle zoom).1 = .ok () ∧
        state.Moves false (some zoom) none [(dfcKey, dfcText zoom)]
          (state.applyDfc hal handle zoom).2) ∨
      ∃ error, (state.applyDfc hal handle zoom).1 = .error error ∧
        state.Moves false none none [] (state.applyDfc hal handle zoom).2 := by
    unfold applyDfc
    cases supported : dfcString zoom with
    | none => exact .inr ⟨_, rfl, moves_of_same rfl rfl rfl rfl⟩
    | some text =>
        obtain rfl := dfcText_of_dfcString supported
        dsimp only
        rcases hal.dsSetDFC state.hal handle zoom with ⟨_ | _, halState⟩
        · exact .inr ⟨_, rfl, moves_of_same rfl rfl rfl rfl⟩
        · exact .inl ⟨rfl, loaded_persist _ _ _, rfl, rfl⟩
  unfold setVideoDeviceDFC
  dsimp only
  split_ifs
  · rcases applied with ⟨ok, moves⟩ | ⟨error, failed, moves⟩
    · exact .inl ⟨ok, moves.loaded, moves.srvDfc, moves.forceDisableHdr⟩
    · exact .inr ⟨error, failed, moves.loaded, moves.srvDfc, moves.forceDisableHdr⟩
  · exact applied

/-- The HDR flag is set and stored whatever the HAL answers. -/
theorem moves_disableHDR (hal : VideoDeviceHal σ) (state : VideoDeviceState σ) (handle : Int)
    (disable : Bool) :
    state.Moves false none (some disable) [(forceHDRDisabledKey, hdrText disable)]
      (state.disableHDR hal handle disable).2 :=
  ⟨loaded_persist _ _ _, rfl, rfl⟩

end VideoDeviceState

/-! ### Steps and runs -/

def DeviceOutput.succeeded : DeviceOutput → Bool
  | .returned (.ok _) => true
  | _ => false

/-- The zoom that a step has set in the HAL. -/
def acceptedZoom (step : DeviceStep σ) : Option DsVideoZoom :=
  match step.action with
  | .setVideoDeviceDFC _ zoomSetting =>
    if step.effects.any DeviceOutput.succeeded then some (convertVideoDeviceZoom zoomSetting)
    else none
  | _ => none

/-- The HDR flag that a step has set. -/
def disabledBy (step : DeviceStep σ) : Option Bool :=
  match step.action with
  | .disableHDR _ disable => some disable
  | _ => none

/-- An object is constructed, and its `dsVideoDeviceInit` succeeds. -/
def readsStore (step : DeviceStep σ) : Bool :=
  step.action == .construct && !step.before.isPlatInitialized && step.after.isPlatInitialized

/-- The properties that a step persists. -/
def wrote (step : DeviceStep σ) : List (String × String) :=
  match step.action with
  | .setVideoDeviceDFC _ _ => (acceptedZoom step).toList.map fun zoom => (dfcKey, dfcText zoom)
  | .disableHDR _ disable => [(forceHDRDisabledKey, hdrText disable)]
  | .otherProperty key value => [(key, value)]
  | _ => []

/-- The zoom that the outside is shown. -/
def DeviceOutput.shownZoom : DeviceOutput → Option VideoDeviceZoom
  | .dsHdmiInSelectZoomMode zoom => some (convertDSVideoZoom zoom)
  | .returned (.ok (.zoom zoomSetting)) => some zoomSetting
  | _ => none

/-- What another component persists is read back. -/
def DeviceAction.ReadsBack : DeviceAction → Prop
  | .otherProperty key value => Readable key ∧ Readable value
  | _ => True

variable {hal : DeviceHal σ} {before after : DeviceProcess σ} {action : DeviceAction}
  {effects : List DeviceOutput}

/-- What a step does to the settings, and that it shows the zoom it leaves. -/
structure Stepped (step : DeviceStep σ) : Prop where
  moves : step.before.device.Moves (readsStore step) (acceptedZoom step) (disabledBy step)
    (wrote step) step.after.device
  shown : ∀ output ∈ step.effects, ∀ zoomSetting, output.shownZoom = some zoomSetting →
    zoomSetting = convertDSVideoZoom step.after.device.srvDfc

theorem stepped_of_moves {step : DeviceStep σ} {reads : Bool} {zoom : Option DsVideoZoom}
    {disable : Option Bool} {properties : List (String × String)}
    (moves : step.before.device.Moves reads zoom disable properties step.after.device)
    (read : readsStore step = reads) (accepted : acceptedZoom step = zoom)
    (disabled : disabledBy step = disable) (written : wrote step = properties)
    (shown : ∀ output ∈ step.effects, ∀ zoomSetting, output.shownZoom = some zoomSetting →
      zoomSetting = convertDSVideoZoom step.after.device.srvDfc) : Stepped step := by
  subst read accepted disabled written
  exact ⟨moves, shown⟩

theorem stepped_construct {process : DeviceProcess σ}
    (taken : { process with isConstructed := true }.initialiseHAL hal = (after, effects)) :
    Stepped ⟨process, .construct, effects, after⟩ := by
  unfold DeviceProcess.initialiseHAL at taken
  by_cases initialized : process.isPlatInitialized = true
  · rw [if_pos initialized] at taken
    obtain ⟨rfl, rfl⟩ := Prod.mk.inj taken
    exact stepped_of_moves (VideoDeviceState.moves_of_same rfl rfl rfl rfl)
      (by simp [readsStore, initialized]) rfl rfl rfl (by simp)
  · rw [if_neg initialized] at taken
    dsimp only at taken
    rcases answered : hal.dsVideoDeviceInit process.device.hal with ⟨_ | _, state⟩ <;>
      rw [answered] at taken
    · obtain ⟨rfl, rfl⟩ := Prod.mk.inj taken
      exact stepped_of_moves (VideoDeviceState.moves_of_same rfl rfl rfl rfl)
        (by simp [readsStore, initialized]) rfl rfl rfl (by simp)
    · obtain ⟨rfl, rfl⟩ := Prod.mk.inj taken
      obtain ⟨moves, told⟩ :=
        VideoDeviceState.moves_getPersistenceValue hal { process.device with hal := state }
      refine stepped_of_moves ⟨moves.loaded, moves.srvDfc, moves.forceDisableHdr⟩
        (by simp [readsStore, initialized]) rfl rfl rfl fun output member zoomSetting shown => ?_
      rw [told output member] at shown
      exact (Option.some.inj shown).symm

theorem stepped_setVideoDeviceDFC {process : DeviceProcess σ} {handle : Int}
    {zoomSetting : VideoDeviceZoom}
    (taken : process.call hal (.setVideoDeviceDFC handle zoomSetting) = some (after, effects)) :
    Stepped ⟨process, .setVideoDeviceDFC handle zoomSetting, effects, after⟩ := by
  simp only [DeviceProcess.call, Option.some.injEq, Prod.mk.injEq] at taken
  obtain ⟨rfl, rfl⟩ := taken
  have succeeded : ∀ set : Except CoreError Unit × VideoDeviceState σ,
      (DeviceProcess.dfcOutputs hal set).any DeviceOutput.succeeded = set.1.toBool := by
    rintro ⟨_ | _, device⟩ <;> cases tv : hal.tvProfile <;>
      simp [DeviceProcess.dfcOutputs, tv, DeviceOutput.succeeded, Except.map, Except.toBool]
  have shown : ∀ set : Except CoreError Unit × VideoDeviceState σ,
      ∀ output ∈ DeviceProcess.dfcOutputs hal set, ∀ zoomSetting',
        output.shownZoom = some zoomSetting' → zoomSetting' = convertDSVideoZoom set.2.srvDfc := by
    rintro ⟨result, device⟩ output member zoomSetting' shown
    rcases List.mem_append.mp member with told | returned
    · split_ifs at told
      · rw [List.mem_singleton.mp told] at shown
        exact (Option.some.inj shown).symm
      · cases told
    · rw [List.mem_singleton.mp returned] at shown
      cases result <;> cases shown
  rcases process.device.moves_setVideoDeviceDFC hal.toVideoDeviceHal handle zoomSetting with
    ⟨ok, moves⟩ | ⟨error, failed, moves⟩
  · refine stepped_of_moves moves rfl ?_ rfl ?_ (shown _) <;>
      simp [wrote, acceptedZoom, succeeded, ok, Except.toBool]
  · refine stepped_of_moves moves rfl ?_ rfl ?_ (shown _) <;>
      simp [wrote, acceptedZoom, succeeded, failed, Except.toBool]

theorem stepped_step (taken : (videoDevice hal).step before action = some (after, effects)) :
    Stepped ⟨before, action, effects, after⟩ := by
  cases action with
  | construct =>
      simp only [videoDevice, DeviceProcess.step] at taken
      split_ifs at taken
      exact stepped_construct (Option.some.inj taken)
  | destruct =>
      simp only [videoDevice, DeviceProcess.step] at taken
      split_ifs at taken
      obtain ⟨rfl, rfl⟩ := Prod.mk.inj (Option.some.inj taken)
      refine stepped_of_moves ?_ rfl rfl rfl rfl (by simp)
      unfold DeviceProcess.deInitialiseHAL
      split_ifs <;> exact VideoDeviceState.moves_of_same rfl rfl rfl rfl
  | setVideoDeviceDFC handle zoomSetting =>
      simp only [videoDevice, DeviceProcess.step] at taken
      split_ifs at taken
      exact stepped_setVideoDeviceDFC taken
  | getVideoDeviceDFC handle =>
      simp only [videoDevice, DeviceProcess.step, DeviceProcess.call] at taken
      split_ifs at taken
      obtain ⟨rfl, rfl⟩ := Prod.mk.inj (Option.some.inj taken)
      refine stepped_of_moves (VideoDeviceState.moves_of_same rfl rfl rfl rfl) rfl rfl rfl rfl ?_
      simp [DeviceOutput.shownZoom]
  | disableHDR handle disable =>
      simp only [videoDevice, DeviceProcess.step, DeviceProcess.call] at taken
      split_ifs at taken
      obtain ⟨rfl, rfl⟩ := Prod.mk.inj (Option.some.inj taken)
      refine stepped_of_moves (before.device.moves_disableHDR hal.toVideoDeviceHal handle disable)
        rfl rfl rfl rfl ?_
      cases (before.device.disableHDR hal.toVideoDeviceHal handle disable).1 <;>
        simp [DeviceOutput.shownZoom, Except.map]
  | getHDRCapabilities handle =>
      simp only [videoDevice, DeviceProcess.step, DeviceProcess.call] at taken
      split_ifs at taken
      obtain ⟨rfl, rfl⟩ := Prod.mk.inj (Option.some.inj taken)
      refine stepped_of_moves (VideoDeviceState.moves_of_same rfl rfl rfl rfl) rfl rfl rfl rfl ?_
      unfold VideoDeviceState.getHDRCapabilities
      split
      · split <;> simp [DeviceOutput.shownZoom]
      · simp [DeviceOutput.shownZoom]
  | otherProperty key value =>
      simp only [videoDevice, DeviceProcess.step] at taken
      split_ifs at taken
      obtain ⟨rfl, rfl⟩ := Prod.mk.inj (Option.some.inj taken)
      exact stepped_of_moves ⟨VideoDeviceState.loaded_persist _ _ _, rfl, rfl⟩ rfl rfl rfl rfl
        (by simp)

/-! ### Processes on one store -/

/-- The video device in the processes of a device. -/
def deviceProcess (hal : DeviceHal σ) : Process (DeviceProcess σ) DeviceAction DeviceOutput where
  machine := videoDevice hal
  storeOf process := process.device.loaded
  Starts store process := ∃ state, process = .ofProcess state store
  opens := by
    rintro store _ ⟨state, rfl⟩
    exact store.ofStore_store

theorem persists_wrote : (deviceProcess hal).Persists wrote :=
  ⟨fun taken => (stepped_step taken).moves.loaded⟩

def zoomText (step : DeviceStep σ) : Option String := (acceptedZoom step).map dfcText

def hdrFlagText (step : DeviceStep σ) : Option String := (disabledBy step).map hdrText

theorem lastOf_zoomText
    (taken : (deviceProcess hal).machine.step before action = some (after, effects)) :
    lastOf (LoadedStore.valueAt dfcKey) (wrote ⟨before, action, effects, after⟩) =
      zoomText ⟨before, action, effects, after⟩ := by
  cases action with
  | setVideoDeviceDFC handle zoomSetting =>
      simp only [wrote, zoomText]
      cases acceptedZoom _ <;> simp [lastOf, LoadedStore.valueAt]
  | disableHDR handle disable =>
      have other : forceHDRDisabledKey ≠ dfcKey := by decide
      simp [wrote, lastOf, LoadedStore.valueAt, other, zoomText, acceptedZoom]
  | otherProperty key value =>
      simp only [deviceProcess, videoDevice, DeviceProcess.step] at taken
      split_ifs at taken with own
      have other : key ≠ dfcKey := fun same => own (.inl same)
      simp [wrote, lastOf, LoadedStore.valueAt, other, zoomText, acceptedZoom]
  | construct => rfl
  | destruct => rfl
  | getVideoDeviceDFC _ => rfl
  | getHDRCapabilities _ => rfl

theorem lastOf_hdrText
    (taken : (deviceProcess hal).machine.step before action = some (after, effects)) :
    lastOf (LoadedStore.valueAt forceHDRDisabledKey) (wrote ⟨before, action, effects, after⟩) =
      hdrFlagText ⟨before, action, effects, after⟩ := by
  cases action with
  | setVideoDeviceDFC handle zoomSetting =>
      have other : dfcKey ≠ forceHDRDisabledKey := by decide
      simp only [wrote, hdrFlagText, disabledBy]
      cases acceptedZoom _ <;> simp [lastOf, LoadedStore.valueAt, other]
  | disableHDR handle disable => 
      simp [wrote, lastOf, LoadedStore.valueAt, hdrFlagText, disabledBy]
  | otherProperty key value =>
      simp only [deviceProcess, videoDevice, DeviceProcess.step] at taken
      split_ifs at taken with own
      have other : key ≠ forceHDRDisabledKey := fun same => own (.inr same)
      simp [wrote, lastOf, LoadedStore.valueAt, other, hdrFlagText, disabledBy]
  | construct => rfl
  | destruct => rfl
  | getVideoDeviceDFC _ => rfl
  | getHDRCapabilities _ => rfl

theorem readable_dfcText (zoom : DsVideoZoom) : Readable (dfcText zoom) := by
  unfold dfcText
  split_ifs <;> decide

theorem readable_hdrText (disable : Bool) : Readable (hdrText disable) := by
  cases disable <;> decide

theorem readable_wrote {step : DeviceStep σ} (readsBack : step.action.ReadsBack) :
    ∀ property ∈ wrote step, Readable property.1 ∧ Readable property.2 := by
  intro property member
  unfold wrote at member
  split at member
  next =>
    obtain ⟨zoom, -, rfl⟩ := List.mem_map.mp member
    exact ⟨show Readable dfcKey by decide, readable_dfcText zoom⟩
  next =>
    rw [List.mem_singleton.mp member]
    exact ⟨show Readable forceHDRDisabledKey by decide, readable_hdrText _⟩
  next same =>
    rw [List.mem_singleton.mp member]
    rw [same] at readsBack
    exact readsBack
  · cases member

/-- The zoom of a process that has found this one stored. -/
def zoomAfter (found : Option String) (trace : List (DeviceStep σ)) : DsVideoZoom :=
  (lastOf acceptedZoom trace).getD
    (if trace.any readsStore = true ∧ found = some "None" then .none else .full)

/-- The HDR flag of a process that has found this one stored. -/
def hdrAfter (found : Option String) (trace : List (DeviceStep σ)) : Bool :=
  (lastOf disabledBy trace).getD (if trace.any readsStore = true then storedHdr found else true)

variable {state : σ} {store first : LoadedStore} {trace earlier later : List (DeviceStep σ)}
  {process : DeviceProcess σ}

/-- A later look at the store finds what the process has: nothing else writes the zoom. -/
theorem zoomAfter_snoc (found : Option String) (trace : List (DeviceStep σ))
    (step : DeviceStep σ) :
    zoomAfter found (trace ++ [step]) =
      (acceptedZoom step).getD
        (if readsStore step = true ∧
            ((lastOf acceptedZoom trace).map dfcText).or found = some "None" then .none
        else zoomAfter found trace) := by
  unfold zoomAfter
  rw [lastOf_snoc, List.any_append, List.any_cons, List.any_nil, Bool.or_false]
  cases acceptedZoom step with
  | some zoom => rfl
  | none =>
      simp only [Option.none_or, Option.getD_none]
      cases lastOf acceptedZoom trace with
      | some last =>
          simp only [Option.map_some, Option.some_or, Option.some.injEq, dfcText_eq_none_iff,
            Option.getD_some]
          split_ifs with read
          · exact read.2
          · rfl
      | none =>
          simp only [Option.map_none, Option.none_or, Option.getD_none, Bool.or_eq_true]
          by_cases none : found = some "None" <;> simp only [none, and_true, and_false, if_false]
          split_ifs <;> tauto

theorem hdrAfter_snoc (found : Option String) (trace : List (DeviceStep σ))
    (step : DeviceStep σ) :
    hdrAfter found (trace ++ [step]) =
      (disabledBy step).getD
        (if readsStore step = true then
          storedHdr (((lastOf disabledBy trace).map hdrText).or found)
        else hdrAfter found trace) := by
  unfold hdrAfter
  rw [lastOf_snoc, List.any_append, List.any_cons, List.any_nil, Bool.or_false]
  cases disabledBy step with
  | some disable => rfl
  | none =>
      simp only [Option.none_or, Option.getD_none]
      cases lastOf disabledBy trace with
      | some last =>
          simp only [Option.map_some, Option.some_or, storedHdr_hdrText, Option.getD_some,
            ite_self]
      | none =>
          simp only [Option.map_none, Option.none_or, Option.getD_none, Bool.or_eq_true]
          split_ifs <;> tauto

/-- What a process finds in the store is what it has stored, or what it has found. -/
theorem found_run (durable : store.Durable)
    (run : (videoDevice hal).Run (.ofProcess state store) trace process)
    (readsBack : ∀ step ∈ trace, step.action.ReadsBack) :
    process.device.loaded.find? dfcKey =
        ((lastOf acceptedZoom trace).map dfcText).or (store.find? dfcKey) ∧
      process.device.loaded.find? forceHDRDisabledKey =
        ((lastOf disabledBy trace).map hdrText).or (store.find? forceHDRDisabledKey) := by
  have opened : (DeviceProcess.ofProcess state store).device.loaded = store := store.ofStore_store
  have opens : ((deviceProcess hal).storeOf (.ofProcess state store)).Durable := by
    rw [show (deviceProcess hal).storeOf (.ofProcess state store) = store from opened]
    exact durable
  have readable := fun step (member : step ∈ trace) => readable_wrote (readsBack step member)
  have zoom := (@persists_wrote σ hal).find?_run dfcKey lastOf_zoomText opens run readable
  have hdr := (@persists_wrote σ hal).find?_run forceHDRDisabledKey lastOf_hdrText opens run
    readable
  rw [← lastOf_map, ← lastOf_map, ← opened]
  exact ⟨zoom, hdr⟩

theorem settings_run (durable : store.Durable)
    (run : (videoDevice hal).Run (.ofProcess state store) trace process)
    (readsBack : ∀ step ∈ trace, step.action.ReadsBack) :
    process.device.srvDfc = zoomAfter (store.find? dfcKey) trace ∧
      process.device.forceDisableHdr = hdrAfter (store.find? forceHDRDisabledKey) trace := by
  induction run with
  | nil => exact ⟨rfl, rfl⟩
  | @snoc trace before action after effects prior taken ih =>
      have earlier : ∀ step ∈ trace, step.action.ReadsBack := fun step member =>
        readsBack step (List.mem_append_left _ member)
      obtain ⟨zoom, hdr⟩ := ih earlier
      obtain ⟨zoomFound, hdrFound⟩ := found_run durable prior earlier
      have moves := (stepped_step taken).moves
      constructor
      · rw [zoomAfter_snoc, ← zoomFound, ← zoom]
        exact moves.srvDfc
      · rw [hdrAfter_snoc, ← hdrFound, ← hdr]
        exact moves.forceDisableHdr

theorem getHDRCapabilities_eq (device : VideoDeviceState σ) (handle : Int) :
    device.getHDRCapabilities hal handle =
      if device.forceDisableHdr = true then .ok (.capabilities hal.hdrStandardNone)
      else hal.capabilities device.hal handle := by
  unfold VideoDeviceState.getHDRCapabilities DeviceHal.capabilities
  cases hal.dsGetHDRCapabilities <;> cases device.forceDisableHdr <;> simp

/-- The zoom that a process answers, and tells the HDMI input of a television, is the one that the
HAL has accepted last; before it has accepted any, and once the store is read, it is no zoom where
no zoom was accepted last in the processes before, and the full one where another was. HDR is
withheld where the last call of all processes has disabled it, and until the store is read. -/
theorem settings_shown {step : DeviceStep σ} (durable : first.Durable)
    (lives : (deviceProcess hal).Lives first earlier store)
    (run : (videoDevice hal).Run (.ofProcess state store.reopened) (trace ++ step :: later) process)
    (readsBack : ∀ other ∈ earlier ++ (trace ++ [step]), other.action.ReadsBack) :
    let zoom := zoomAfter (((lastOf acceptedZoom earlier).map dfcText).or (first.find? dfcKey))
      (trace ++ [step])
    let disabled := hdrAfter
      (((lastOf disabledBy earlier).map hdrText).or (first.find? forceHDRDisabledKey)) trace
    (∀ output ∈ step.effects, ∀ zoomSetting, output.shownZoom = some zoomSetting →
        zoomSetting = convertDSVideoZoom zoom) ∧
      ∀ handle, step.action = .getHDRCapabilities handle →
        step.effects = [.returned (if disabled = true then
            .ok (.capabilities hal.hdrStandardNone)
          else hal.capabilities step.before.device.hal handle)] := by
  intro zoom disabled
  obtain ⟨before, action, effects, after⟩ := step
  obtain ⟨prior, taken⟩ := run.at_occurrence
  have known : ∀ other ∈ earlier, ∀ property ∈ wrote other,
      Readable property.1 ∧ Readable property.2 := fun other member =>
    readable_wrote (readsBack other (List.mem_append_left _ member))
  obtain ⟨kept, zoomFound⟩ :=
    (@persists_wrote σ hal).find?_lives dfcKey lastOf_zoomText durable lives known
  obtain ⟨-, hdrFound⟩ := (@persists_wrote σ hal).find?_lives forceHDRDisabledKey lastOf_hdrText
    durable lives known
  rw [show lastOf zoomText earlier = _ from lastOf_map acceptedZoom dfcText earlier] at zoomFound
  rw [show lastOf hdrFlagText earlier = _ from lastOf_map disabledBy hdrText earlier] at hdrFound
  have own : ∀ other ∈ trace ++ [⟨before, action, effects, after⟩], other.action.ReadsBack :=
    fun other member => readsBack other (List.mem_append_right _ member)
  obtain ⟨srvDfc, -⟩ := settings_run kept.reopened (.snoc prior taken) own
  obtain ⟨-, hdr⟩ := settings_run kept.reopened prior fun other member => own other
    (List.mem_append_left _ member)
  rw [zoomFound] at srvDfc
  rw [hdrFound] at hdr
  refine ⟨fun output member zoomSetting shown => ?_, ?_⟩
  · rw [(stepped_step taken).shown output member zoomSetting shown]
    exact congrArg convertDSVideoZoom srvDfc
  · rintro handle rfl
    simp only [videoDevice, DeviceProcess.step, DeviceProcess.call] at taken
    split_ifs at taken
    obtain ⟨rfl, rfl⟩ := Prod.mk.inj (Option.some.inj taken)
    dsimp only
    rw [getHDRCapabilities_eq, hdr]

end Settings

namespace TelevisionHal

/-- A television whose HAL accepts every call. -/
def hal : DeviceHal Unit where
  dsSetDFC _ _ _ := (.ok (), ())
  dsHdmiInSelectZoomMode _ _ := ()
  dsForceDisableHDRSupport := some fun _ _ _ => (.ok (), ())
  tvProfile := true
  dsVideoDeviceInit _ := (.ok (), ())
  dsVideoDeviceTerm _ := ()
  dsGetHDRCapabilities := some fun _ _ => .ok 7
  hdrStandardNone := 0

/-- A store file that is not there yet. -/
def store : LoadedStore := .ofStore (.ofStoreFile "/opt/ds/hostData") fun _ => .absent

def constructed (store : LoadedStore) : DeviceStep Unit :=
  let process := DeviceProcess.ofProcess () store.reopened
  let called := { process with isConstructed := true }.initialiseHAL hal
  ⟨process, .construct, called.2, called.1⟩

def zoomed (process : DeviceProcess Unit) : DeviceStep Unit :=
  let set := process.device.setVideoDeviceDFC hal.toVideoDeviceHal 0 .zoom16x9
  ⟨process, .setVideoDeviceDFC 0 .zoom16x9, DeviceProcess.dfcOutputs hal set,
    { process with device := set.2 }⟩

/-- A zoom of 16:9 is set, and the next process tells the HDMI input the full zoom. -/
theorem settings_shown_restart :
    let opened := constructed store
    let set := zoomed opened.after
    let restarted := constructed set.after.device.loaded
    let zoom := zoomAfter (((lastOf acceptedZoom [opened, set]).map dfcText).or
      (store.find? dfcKey)) ([] ++ [restarted])
    let disabled := hdrAfter (((lastOf disabledBy [opened, set]).map hdrText).or
      (store.find? forceHDRDisabledKey)) ([] : List (DeviceStep Unit))
    zoom = .full ∧ restarted.effects.filterMap DeviceOutput.shownZoom = [.full] ∧
      (∀ output ∈ restarted.effects, ∀ zoomSetting, output.shownZoom = some zoomSetting →
        zoomSetting = convertDSVideoZoom zoom) ∧
      ∀ handle, restarted.action = .getHDRCapabilities handle →
        restarted.effects = [.returned (if disabled = true then
            .ok (.capabilities hal.hdrStandardNone)
          else hal.capabilities restarted.before.device.hal handle)] := by
  intro opened set restarted zoom disabled
  have first : (videoDevice hal).Run (.ofProcess () store.reopened) [opened, set] set.after :=
    .snoc (.snoc .nil rfl) rfl
  have starts : (deviceProcess hal).Starts store.reopened (.ofProcess () store.reopened) :=
    ⟨(), rfl⟩
  have lives : (deviceProcess hal).Lives store [opened, set] set.after.device.loaded :=
    .snoc .nil starts first
  have second : (videoDevice hal).Run (.ofProcess () set.after.device.loaded.reopened)
      ([] ++ restarted :: []) restarted.after := .snoc .nil rfl
  refine ⟨by decide +kernel, by decide +kernel,
    settings_shown (LoadedStore.durable_of_no_file rfl) lives second ?_⟩
  simp [opened, set, restarted, constructed, zoomed, DeviceAction.ReadsBack]

end TelevisionHal
end DeviceSettings.VideoDevice
