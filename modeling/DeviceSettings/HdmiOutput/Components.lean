import DeviceSettings.Persistence.HostPersistence
import DeviceSettings.VideoPort.Resolution

/-!
# The HDMI outputs of the AIDL HAL

`dVideoPortAIDLImpl` and `dVideoDeviceAIDLImpl` each open all HDMI outputs and both set their
VIC: the first from the name of a resolution, the second from the VIC that is set already and
a frame rate. Only the first knows the 4K switch. The callbacks to clients are not part of
the state.
-/

namespace DeviceSettings.HdmiOutput

open DeviceSettings.Std
open DeviceSettings.Persistence
open DeviceSettings.VideoPort

/-- `HdmiOutput::VIC`: the enumerators the tables name, and any other value of the HAL. -/
inductive Vic where
  | vic3_720_480_p_60_16_9
  | vic18_720_576_p_50_16_9
  | vic4_1280_720_p_60_16_9
  | vic19_1280_720_p_50_16_9
  | vic5_1920_1080_i_60_16_9
  | vic20_1920_1080_i_50_16_9
  | vic16_1920_1080_p_60_16_9
  | vic32_1920_1080_p_24_16_9
  | vic33_1920_1080_p_25_16_9
  | vic34_1920_1080_p_30_16_9
  | vic31_1920_1080_p_50_16_9
  | vic93_3840_2160_p_24_16_9
  | vic94_3840_2160_p_25_16_9
  | vic95_3840_2160_p_30_16_9
  | vic96_3840_2160_p_50_16_9
  | vic97_3840_2160_p_60_16_9
  | other (code : Int)
  deriving DecidableEq, Repr

/-- The part of `VicResolutionEntry` that a name is looked up by. -/
structure VicResolutionEntry where
  vic : Vic
  name : String
  pixelResolution : PixelResolution

def kVicTable : List VicResolutionEntry :=
  [⟨.vic3_720_480_p_60_16_9, "480p", .p720x480⟩,
   ⟨.vic18_720_576_p_50_16_9, "576p50", .p720x576⟩,
   ⟨.vic4_1280_720_p_60_16_9, "720p", .p1280x720⟩,
   ⟨.vic19_1280_720_p_50_16_9, "720p50", .p1280x720⟩,
   ⟨.vic5_1920_1080_i_60_16_9, "1080i", .p1920x1080⟩,
   ⟨.vic20_1920_1080_i_50_16_9, "1080i50", .p1920x1080⟩,
   ⟨.vic16_1920_1080_p_60_16_9, "1080p", .p1920x1080⟩,
   ⟨.vic32_1920_1080_p_24_16_9, "1080p24", .p1920x1080⟩,
   ⟨.vic33_1920_1080_p_25_16_9, "1080p25", .p1920x1080⟩,
   ⟨.vic34_1920_1080_p_30_16_9, "1080p30", .p1920x1080⟩,
   ⟨.vic31_1920_1080_p_50_16_9, "1080p50", .p1920x1080⟩,
   ⟨.vic93_3840_2160_p_24_16_9, "2160p24", .p3840x2160⟩,
   ⟨.vic94_3840_2160_p_25_16_9, "2160p25", .p3840x2160⟩,
   ⟨.vic95_3840_2160_p_30_16_9, "2160p30", .p3840x2160⟩,
   ⟨.vic96_3840_2160_p_50_16_9, "2160p50", .p3840x2160⟩,
   ⟨.vic97_3840_2160_p_60_16_9, "2160p", .p3840x2160⟩]

/-- `ResolutionNameToVic(name, vic)`. -/
def resolutionNameToVic (name : String) : Option Vic :=
  (kVicTable.find? fun entry => name == entry.name).map VicResolutionEntry.vic

structure FrameRateVicEntry where
  vic : Vic
  family : PixelResolution
  frameRateHz : Nat

def kFrameRateTable : List FrameRateVicEntry :=
  [⟨.vic32_1920_1080_p_24_16_9, .p1920x1080, 24⟩,
   ⟨.vic33_1920_1080_p_25_16_9, .p1920x1080, 25⟩,
   ⟨.vic34_1920_1080_p_30_16_9, .p1920x1080, 30⟩,
   ⟨.vic31_1920_1080_p_50_16_9, .p1920x1080, 50⟩,
   ⟨.vic16_1920_1080_p_60_16_9, .p1920x1080, 60⟩,
   ⟨.vic93_3840_2160_p_24_16_9, .p3840x2160, 24⟩,
   ⟨.vic94_3840_2160_p_25_16_9, .p3840x2160, 25⟩,
   ⟨.vic95_3840_2160_p_30_16_9, .p3840x2160, 30⟩,
   ⟨.vic96_3840_2160_p_50_16_9, .p3840x2160, 50⟩,
   ⟨.vic97_3840_2160_p_60_16_9, .p3840x2160, 60⟩]

def findByVic (vic : Vic) : Option FrameRateVicEntry :=
  kFrameRateTable.find? fun entry => entry.vic == vic

def findByFamilyAndRate (family : PixelResolution) (frameRateHz : Nat) :
    Option FrameRateVicEntry :=
  kFrameRateTable.find? fun entry => entry.family == family && entry.frameRateHz == frameRateHz

/-- The outputs over the state they keep. -/
structure OutputHal (σ : Type) where
  /-- `getHotPlugDetectState`; `none` when the call fails. -/
  getHotPlugDetectState : σ → Int → Option Bool
  /-- `getProperty(VIC)`; the value may be missing or no integer. -/
  getVic : σ → Int → Option (Option Vic)
  /-- `setProperty(VIC)`: whether it was applied. -/
  setVic : σ → Int → Vic → Bool × σ

/-- What the HAL lets one component open: `getHDMIOutputIds`, and the outputs on which
`OpenDevice` succeeds. -/
structure Opening where
  ids : Option (List Int)
  opens : Int → Bool

/-- The outputs `InitialiseHAL` keeps; the component is open when there is one. -/
def Opening.devices (opening : Opening) : List Int :=
  (opening.ids.getD []).filter opening.opens

/-- `FindDevice(handle)` over the outputs of a component; one without outputs is not open. -/
def findDevice (devices : List Int) (handle : Int) : Option Int :=
  devices.find? fun id => id == handle

structure VideoPortImpl where
  devices : List Int
  persistedResolution : String
  force4KDisabled : Bool

structure VideoDeviceImpl where
  devices : List Int

/-- What the components run on; `tvProfile` is `profileType == TV`. -/
structure OutputPlatform (σ : Type) where
  hal : OutputHal σ
  tvProfile : Bool
  storeFile : String

structure OutputState (σ : Type) where
  hal : σ
  videoPort : VideoPortImpl
  videoDevice : VideoDeviceImpl
  store : HostPersistence
  files : Files String

/-- What a call shows outside: the `setProperty` calls for a VIC, and its result. -/
inductive OutputEffect where
  | setVic (output : Int) (vic : Vic)
  | returned (result : Except CoreError Unit)
  deriving DecidableEq

namespace OutputState

variable {σ : Type} (platform : OutputPlatform σ)

/-- `persistHostProperty(key, value)`; the callers catch what it throws. -/
def persist (state : OutputState σ) (key value : String) :
    Except InvalidArgument Unit × OutputState σ :=
  let called := state.store.persistHostProperty state.files key value
  (called.1, { state with store := called.2.1, files := called.2.2 })

/-- `dVideoPortAIDLImpl::SetVideoPortResolution`; there are no analog ports to be compatible
with. -/
def setVideoPortResolution (state : OutputState σ) (handle : Int)
    (resolution : VideoPortResolution) (persist _forceCompatibility : Bool) :
    OutputState σ × List OutputEffect :=
  match findDevice state.videoPort.devices handle with
  | none => (state, [.returned (.error .unavailable)])
  | some device =>
    match resolutionNameToVic resolution.name with
    | none => (state, [.returned (.error .badRequest)])
    | some vic =>
      if platform.hal.getHotPlugDetectState state.hal device = some false then
        (state, [.returned (.error .general)])
      else if state.videoPort.force4KDisabled && occursIn "2160" resolution.name then
        (state, [.returned (.error .general)])
      else
        let called := platform.hal.setVic state.hal device vic
        let state := { state with hal := called.2 }
        if called.1 then
          if persist then
            match state.persist "HDMI0.resolution" resolution.name with
            | (.ok _, state) =>
              ({ state with
                  videoPort := { state.videoPort with persistedResolution := resolution.name } },
                [.setVic device vic, .returned (.ok ())])
            | (.error _, state) => (state, [.setVic device vic, .returned (.ok ())])
          else (state, [.setVic device vic, .returned (.ok ())])
        else (state, [.setVic device vic, .returned (.error .general)])

/-- The property that keeps the 4K switch. -/
def force4KKey : String := "VideoDevice.force4KDisabled"

/-- `dVideoPortAIDLImpl::SetForceDisable4K(handle, disable)`. -/
def setForceDisable4K (state : OutputState σ) (handle : Int) (disable : Bool) :
    OutputState σ × List OutputEffect :=
  match findDevice state.videoPort.devices handle with
  | none => (state, [.returned (.error .unavailable)])
  | some _ =>
    let state := { state with videoPort := { state.videoPort with force4KDisabled := disable } }
    ((state.persist force4KKey (if disable then "true" else "false")).2, [.returned (.ok ())])

/-- `dVideoDeviceAIDLImpl::SetDisplayFrameRate(handle, framerate)`. -/
def setDisplayFrameRate (state : OutputState σ) (handle : Int) (framerate : String) :
    OutputState σ × List OutputEffect :=
  match findDevice state.videoDevice.devices handle with
  | none => (state, [.returned (.error .unavailable)])
  | some device =>
    if framerate = "" then (state, [.returned (.error .badRequest)])
    else
      let requestedRate := (atoi framerate % 2 ^ 32).toNat
      match platform.hal.getVic state.hal device with
      | none => (state, [.returned (.error .general)])
      | some value =>
        match findByVic (value.getD (.other 0)) with
        | none => (state, [.returned (.error .unavailable)])
        | some current =>
          match findByFamilyAndRate current.family requestedRate with
          | none => (state, [.returned (.error .badRequest)])
          | some target =>
            let called := platform.hal.setVic state.hal device target.vic
            ({ state with hal := called.2 },
              [.setVic device target.vic,
                .returned (if called.1 then .ok () else .error .general)])

/-- `dVideoPortAIDLImpl::getPersistenceValue()`; neither look-up throws. -/
def getPersistenceValue (state : OutputState σ) : OutputState σ :=
  let defaultResolution := if platform.tvProfile then "2160p" else "1080p"
  let reset : VideoPortImpl := ⟨state.videoPort.devices, defaultResolution, false⟩
  match state.store.getPropertyOr state.files "HDMI0.resolution" defaultResolution with
  | (.error _, store) => { state with store := store, videoPort := reset }
  | (.ok resolution, store) =>
    let loaded := { reset with persistedResolution := resolution }
    match store.getPropertyOr state.files force4KKey "false" with
    | (.error _, store) => { state with store := store, videoPort := loaded }
    | (.ok value, store) =>
      { state with
        store := store
        videoPort := { loaded with force4KDisabled := value == "true" } }

/-- The plugin starts anew: another store object, and both components on what they can open. -/
def restart (state : OutputState σ) (videoPort videoDevice : Opening) (hal : σ) :
    OutputState σ :=
  { state with
    hal := hal
    videoPort := ⟨videoPort.devices, "", false⟩
    videoDevice := ⟨videoDevice.devices⟩
    store := .ofStoreFile platform.storeFile : OutputState σ }.getPersistenceValue platform

section Restart

variable (state : OutputState σ)

/-- Reading the store leaves the outputs alone. -/
theorem outputs_getPersistenceValue :
    (state.getPersistenceValue platform).hal = state.hal ∧
      (state.getPersistenceValue platform).videoPort.devices = state.videoPort.devices ∧
      (state.getPersistenceValue platform).videoDevice = state.videoDevice := by
  unfold getPersistenceValue
  dsimp only
  split
  · exact ⟨rfl, rfl, rfl⟩
  · split <;> exact ⟨rfl, rfl, rfl⟩

variable (videoPort videoDevice : Opening) (hal : σ)

@[simp] theorem hal_restart :
    (state.restart platform videoPort videoDevice hal).hal = hal :=
  (outputs_getPersistenceValue platform _).1

@[simp] theorem videoPort_devices_restart :
    (state.restart platform videoPort videoDevice hal).videoPort.devices = videoPort.devices :=
  (outputs_getPersistenceValue platform _).2.1

@[simp] theorem videoDevice_restart :
    (state.restart platform videoPort videoDevice hal).videoDevice = ⟨videoDevice.devices⟩ :=
  (outputs_getPersistenceValue platform _).2.2

end Restart
end OutputState
end DeviceSettings.HdmiOutput
