import DeviceSettings.Persistence.HostPersistence
import DeviceSettings.Std.CString
import DeviceSettings.VideoPort.Ports

/-!
# Video port resolutions

`GetVideoPortResolution` and `SetVideoPortResolution` between the HAL, which holds the
resolution of every port, and the cache `_dsHDMIResolution` with its analog siblings. Both
write the cache: the getter what the HAL reports, the setter what it has set, with or without
`persist`. The change announcements to clients are not part of the state.
-/

namespace DeviceSettings.VideoPort

open DeviceSettings.Std
open DeviceSettings.Persistence

/-- A character array of `room + 1` bytes that holds a string. -/
@[ext] structure HalName (room : Nat) where
  text : String
  fits : text.length ≤ room
  terminated : '\x00' ∉ text.toList
  deriving DecidableEq

/-- `strncpy(name, source, sizeof(name) - 1)` into a zeroed array. -/
def HalName.copy (room : Nat) (source : String) : HalName room :=
  ⟨strncpy source room, length_strncpy_le source room, nul_not_mem_strncpy source room⟩

/-- A name copied out of one array into another of the same size is that name. -/
@[simp] theorem HalName.copy_text {room : Nat} (name : HalName room) :
    HalName.copy room name.text = name := by
  cases name with
  | mk text fits terminated => simp [HalName.copy, strncpy_eq_self fits terminated]

/-- `dsVideoResolution_t`; `VideoResolution` of the plugin has the same ordinals. -/
inductive PixelResolution where
  | p720x480
  | p720x576
  | p1280x720
  | p1366x768
  | p1920x1080
  | p3840x2160
  | p4096x2160
  | max
  deriving DecidableEq, Repr

inductive AspectRatio where
  | ratio4x3
  | ratio16x9
  | other (code : Nat)
  deriving DecidableEq, Repr

inductive StereoScopicMode where
  | twoD
  | other (code : Nat)
  deriving DecidableEq, Repr

/-- The frame rates; the HAL has some beyond the interface's `MAX`. -/
inductive FrameRate where
  | unknown
  | fps24
  | fps25
  | fps30
  | fps50
  | fps60
  | other (code : Nat)
  | beyondInterface (code : Nat)
  deriving DecidableEq, Repr

/-- `dsVideoPortResolution_t`. -/
structure HalResolution (room : Nat) where
  name : HalName room
  pixelResolution : PixelResolution
  aspectRatio : AspectRatio
  stereoScopicMode : StereoScopicMode
  frameRate : FrameRate
  interlaced : Bool
  deriving DecidableEq

/-- `VideoPortResolution` of the plugin interface. -/
structure VideoPortResolution where
  name : String
  pixelResolution : PixelResolution
  aspectRatio : AspectRatio
  stereoScopicMode : StereoScopicMode
  frameRate : FrameRate
  interlaced : Bool
  deriving DecidableEq

/-- The resolution calls of the HAL over the state it keeps; its ports are fixed. -/
structure ResolutionHal (σ : Type) (room : Nat) where
  dsGetVideoPort : DsVideoPortType → Int → Except DsError Int
  dsIsDisplayConnected : σ → Int → Except DsError Bool
  dsGetForceDisable4KSupport : σ → Int → Except DsError Bool
  dsGetResolution : σ → Int → Except DsError (HalResolution room)
  dsSetResolution : σ → Int → HalResolution room → Except DsError Unit × σ

/-- What the resolution code runs on: the HAL, the configured resolutions of all port types
in the order of `_cachedVideoPortResolutions`, those of the HDMI port, and the build. -/
structure ResolutionPlatform (σ : Type) (room : Nat) where
  hal : ResolutionHal σ room
  cachedVideoPortResolutions : List VideoPortResolution
  hdmiResolutions : List VideoPortResolution
  /-- `profileType == TV`. -/
  tvProfile : Bool
  /-- `HAS_ONLY_COMPOSITE`. -/
  hasOnlyComposite : Bool

/-- The HAL, the four cached names and the property store. -/
structure ResolutionState (σ : Type) where
  hal : σ
  dsHDMIResolution : String
  dsCompResolution : String
  dsBBResolution : String
  dsRFResolution : String
  store : HostPersistence
  files : Files String

/-! ### Conversions -/

/-- `convertVideoPortResolution` from the HAL: the name is derived from the other fields only
when the HAL left it empty. -/
def derivedName (pixelResolution : PixelResolution) (interlaced : Bool) : String :=
  match pixelResolution with
  | .p720x480 => if interlaced then "480i" else "480p"
  | .p720x576 => if interlaced then "576i50" else "576p50"
  | .p1280x720 => "720p"
  | .p1366x768 => "768p60"
  | .p1920x1080 => if interlaced then "1080i" else "1080p"
  | .p3840x2160 => "2160p60"
  | .p4096x2160 => "4096x2160"
  | .max => "1080p"

/-- Both conversions know five pixel resolutions. -/
def convertPixelResolution : PixelResolution → PixelResolution
  | .p720x480 => .p720x480
  | .p720x576 => .p720x576
  | .p1280x720 => .p1280x720
  | .p3840x2160 => .p3840x2160
  | _ => .p1920x1080

/-- `convertVideoPortResolution(const dsVideoPortResolution_t&)`. -/
def fromHal {room : Nat} (dsResolution : HalResolution room) : VideoPortResolution where
  name :=
    if dsResolution.name.text = "" then
      derivedName dsResolution.pixelResolution dsResolution.interlaced
    else dsResolution.name.text
  pixelResolution := convertPixelResolution dsResolution.pixelResolution
  aspectRatio := dsResolution.aspectRatio
  stereoScopicMode := dsResolution.stereoScopicMode
  frameRate :=
    match dsResolution.frameRate with
    | .beyondInterface _ => .unknown
    | rate => rate
  interlaced := dsResolution.interlaced

/-- `convertVideoPortResolution(const VideoPortResolution&)`. -/
def toHal (room : Nat) (resolution : VideoPortResolution) : HalResolution room where
  name := .copy room resolution.name
  pixelResolution := convertPixelResolution resolution.pixelResolution
  aspectRatio := resolution.aspectRatio
  stereoScopicMode := resolution.stereoScopicMode
  frameRate := resolution.frameRate
  interlaced := resolution.interlaced

/-- The rates `buildResolutionFromName` looks for in the names of 1080 and 2160 lines. -/
def namedRates : List (String × FrameRate) :=
  [("24", .fps24), ("25", .fps25), ("30", .fps30), ("50", .fps50)]

/-- The first rate whose digits the name contains; 60 Hz without one. -/
def rateInName (rates : List (String × FrameRate)) (resolutionName : String) : FrameRate :=
  match rates.find? fun rate => occursIn rate.1 resolutionName with
  | some rate => rate.2
  | none => .fps60

/-- `buildResolutionFromName(resolutionName)`. -/
def buildResolutionFromName (resolutionName : String) : VideoPortResolution :=
  let built := fun pixelResolution aspectRatio frameRate interlaced =>
    (⟨resolutionName, pixelResolution, aspectRatio, .twoD, frameRate, interlaced⟩ :
      VideoPortResolution)
  if occursIn "2160" resolutionName then
    built .p3840x2160 .ratio16x9 (rateInName namedRates resolutionName) false
  else if occursIn "1080i" resolutionName then built .p1920x1080 .ratio16x9 .fps60 true
  else if occursIn "1080" resolutionName then
    built .p1920x1080 .ratio16x9 (rateInName namedRates resolutionName) false
  else if occursIn "720" resolutionName then
    built .p1280x720 .ratio16x9 (rateInName [("50", .fps50)] resolutionName) false
  else if occursIn "576i" resolutionName then built .p720x576 .ratio4x3 .fps50 true
  else if occursIn "576" resolutionName then built .p720x576 .ratio4x3 .fps50 false
  else if occursIn "480i" resolutionName then built .p720x480 .ratio4x3 .fps60 true
  else if occursIn "480" resolutionName then built .p720x480 .ratio4x3 .fps60 false
  else built .p1920x1080 .ratio16x9 .fps60 false

/-! ### Compatibility of HDMI and analog ports -/

/-- `IsHDCompatible(pixelResolution)`. -/
def isHDCompatible : PixelResolution → Bool
  | .p720x480 | .p720x576 | .max => false
  | _ => true

/-- `IsCompatibleResolution(pixelResolution1, pixelResolution2)`. -/
def isCompatibleResolution (pixelResolution1 pixelResolution2 : PixelResolution) : Bool :=
  pixelResolution1 == pixelResolution2 ||
    (isHDCompatible pixelResolution1 && isHDCompatible pixelResolution2)

/-- `getCompatibleAnalogResolution(hdmiResolution)`. -/
def getCompatibleAnalogResolution : PixelResolution → String
  | .p1280x720 => "720p"
  | .p720x480 => "480p"
  | .p720x576 => "576p"
  | _ => "1080p"

/-- `getCompatibleHDMIResolution(analogResolution)`. -/
def getCompatibleHDMIResolution : PixelResolution → String
  | .p720x480 => "480p"
  | .p720x576 => "576p"
  | .p1280x720 => "720p"
  | _ => "1080p"

namespace ResolutionPlatform

variable {σ : Type} {room : Nat} (platform : ResolutionPlatform σ room)

/-- `defaultResolutionByProfile()`. -/
def defaultResolutionByProfile : String := if platform.tvProfile then "2160p" else "1080p"

/-- `getPixelResolutionByName(resolutionName)`. -/
def getPixelResolutionByName (resolutionName : String) : PixelResolution :=
  match platform.hdmiResolutions.find? fun resolution => resolution.name == resolutionName with
  | some resolution => resolution.pixelResolution
  | none => .max

/-- The port types `resolvePortTypeByHandle` tries, in its order. -/
def resolvedPortTypes : List DsVideoPortType := [.hdmi, .internal, .component, .bb, .rf]

/-- `resolvePortTypeByHandle(handle, portType)`. -/
def resolvePortTypeByHandle (handle : Int) : Option DsVideoPortType :=
  resolvedPortTypes.find? fun type =>
    match platform.hal.dsGetVideoPort type 0 with
    | .ok halHandle => int32Handle halHandle == handle
    | .error _ => false

/-- The port type `persistVideoPortResolution` goes by: the handles are compared at full
width, and a handle of no port counts as HDMI. -/
def persistedPortType (handle : Int) : DsVideoPortType :=
  ([.hdmi, .component, .internal, .bb, .rf].find? fun type =>
    match platform.hal.dsGetVideoPort type 0 with
    | .ok testHandle => testHandle == handle
    | .error _ => false).getD .hdmi

/-- The look-up of `DeviceSettingsVideoPortImpl`: a name that the platform knows brings the
platform's fields with it. -/
def resolvedResolution (resolution : VideoPortResolution) : VideoPortResolution :=
  if resolution.name = "" then resolution
  else
    (platform.cachedVideoPortResolutions.find? fun cached =>
      cached.name == resolution.name).getD resolution

end ResolutionPlatform

namespace ResolutionState

variable {σ : Type} {room : Nat} (platform : ResolutionPlatform σ room)

/-- `getCachedResolutionForPort(portType)`. -/
def getCachedResolutionForPort (state : ResolutionState σ) (portType : DsVideoPortType) :
    String :=
  let orElse := fun (cached fallback : String) => if cached = "" then fallback else cached
  match portType with
  | .hdmi | .internal => orElse state.dsHDMIResolution platform.defaultResolutionByProfile
  | .component => orElse state.dsCompResolution platform.defaultResolutionByProfile
  | .bb => orElse state.dsBBResolution "720p"
  | .rf => orElse state.dsRFResolution "720p"
  | _ => platform.defaultResolutionByProfile

/-- `updateCachedResolutionForPort(portType, resolutionName)`. -/
def updateCachedResolutionForPort (state : ResolutionState σ) (portType : DsVideoPortType)
    (resolutionName : String) : ResolutionState σ :=
  if resolutionName = "" then state
  else
    match portType with
    | .hdmi | .internal => { state with dsHDMIResolution := resolutionName }
    | .component => { state with dsCompResolution := resolutionName }
    | .bb => { state with dsBBResolution := resolutionName }
    | .rf => { state with dsRFResolution := resolutionName }
    | _ => state

/-- `persistHostProperty(key, value)`. -/
def persist (state : ResolutionState σ) (key value : String) :
    Except InvalidArgument Unit × ResolutionState σ :=
  let called := state.store.persistHostProperty state.files key value
  (called.1, { state with store := called.2.1, files := called.2.2 })

/-- The property of the analog resolution. -/
def analogKey : String :=
  if platform.hasOnlyComposite then "Baseband0.resolution" else "COMPONENT0.resolution"

/-- What an analog resolution does to the cached HDMI resolution when they do not agree; the
component port may also persist it. -/
def alignHdmi (state : ResolutionState σ) (pixelResolution : PixelResolution)
    (forceCompatible : Bool) : ResolutionState σ :=
  if isCompatibleResolution pixelResolution
      (platform.getPixelResolutionByName state.dsHDMIResolution) then state
  else
    let compatibleResolution := getCompatibleHDMIResolution pixelResolution
    let state := { state with dsHDMIResolution := compatibleResolution }
    if forceCompatible then (state.persist "HDMI0.resolution" compatibleResolution).2
    else state

/-- What an HDMI resolution does to the cached component resolution. -/
def alignAnalog (state : ResolutionState σ) (pixelResolution : PixelResolution)
    (forceCompatible : Bool) : ResolutionState σ :=
  if isCompatibleResolution pixelResolution
      (platform.getPixelResolutionByName state.dsCompResolution) then state
  else
    let compatibleResolution := getCompatibleAnalogResolution pixelResolution
    let state := { state with dsCompResolution := compatibleResolution }
    if forceCompatible then (state.persist (analogKey platform) compatibleResolution).2
    else state

/-- Persist a property; an exception of the store ends the function and is caught. -/
def persistThen (state : ResolutionState σ) (key value : String)
    (rest : ResolutionState σ → ResolutionState σ) : ResolutionState σ :=
  let persisted := state.persist key value
  match persisted.1 with
  | .ok _ => rest persisted.2
  | .error _ => persisted.2

/-- `persistVideoPortResolution(handle, resolution, forceCompatible)`. -/
def persistVideoPortResolution (state : ResolutionState σ) (handle : Int)
    (resolution : HalResolution room) (forceCompatible : Bool) : ResolutionState σ :=
  let resolutionName := resolution.name.text
  match platform.persistedPortType handle with
  | .component =>
    state.persistThen (analogKey platform) resolutionName fun state =>
      { state with dsCompResolution := resolutionName }.alignHdmi platform
        resolution.pixelResolution forceCompatible
  | .bb =>
    state.persistThen "Baseband0.resolution" resolutionName fun state =>
      { state with dsBBResolution := resolutionName }.alignHdmi platform
        resolution.pixelResolution false
  | .rf =>
    state.persistThen "RF0.resolution" resolutionName fun state =>
      { state with dsRFResolution := resolutionName }.alignHdmi platform
        resolution.pixelResolution false
  | _ =>
    state.persistThen "HDMI0.resolution" resolutionName fun state =>
      { state with dsHDMIResolution := resolutionName }.alignAnalog platform
        resolution.pixelResolution forceCompatible

/-- The answer from the cache. -/
def cachedResolution (state : ResolutionState σ) (portType : DsVideoPortType) :
    VideoPortResolution :=
  buildResolutionFromName (state.getCachedResolutionForPort platform portType)

/-- `GetVideoPortResolution(handle, resolution)`. An analog port and a port without a display
answer from the cache; otherwise the HAL is asked, and its answer replaces the cached name. -/
def getVideoPortResolution (state : ResolutionState σ) (handle : Int) :
    Except CoreError VideoPortResolution × ResolutionState σ :=
  match platform.resolvePortTypeByHandle handle with
  | none => (.error .general, state)
  | some portType =>
    if portType = .component ∨ portType = .bb ∨ portType = .rf then
      (.ok (state.cachedResolution platform portType), state)
    else if gave (platform.hal.dsIsDisplayConnected state.hal handle) false then
      (.ok (state.cachedResolution platform portType), state)
    else
      match platform.hal.dsGetResolution state.hal handle with
      | .ok dsResolution =>
        let resolution := fromHal dsResolution
        if resolution.name = "" then (.ok (state.cachedResolution platform portType), state)
        else (.ok resolution, state.updateCachedResolutionForPort portType resolution.name)
      | .error _ => (.ok (state.cachedResolution platform portType), state)

/-- The end of `SetVideoPortResolution` once a resolution is in effect. -/
def recordResolution (state : ResolutionState σ) (portType : DsVideoPortType) (handle : Int)
    (resolution : HalResolution room) (persist forceCompatibility : Bool) : ResolutionState σ :=
  let state := state.updateCachedResolutionForPort portType resolution.name.text
  if persist then state.persistVideoPortResolution platform handle resolution forceCompatibility
  else state

/-- `dVideoPortImpl::SetVideoPortResolution` behind its checks: the HAL is left alone when it
has a resolution of that name already. -/
def applyResolution (state : ResolutionState σ) (portType : DsVideoPortType) (handle : Int)
    (dsResolution : HalResolution room) (persist forceCompatibility : Bool) :
    Except CoreError Unit × ResolutionState σ :=
  let set :=
    match platform.hal.dsSetResolution state.hal handle dsResolution with
    | (.ok _, hal) =>
      (.ok (), { state with hal := hal }.recordResolution platform portType handle dsResolution
        persist forceCompatibility)
    | (.error _, hal) => (.error .general, { state with hal := hal })
  match platform.hal.dsGetResolution state.hal handle with
  | .ok platformResolution =>
    if dsResolution.name.text = platformResolution.name.text then
      (.ok (), state.recordResolution platform portType handle platformResolution persist
        forceCompatibility)
    else set
  | .error _ => set

/-- `SetVideoPortResolution(handle, resolution, persist, forceCompatibility)` through
`DeviceSettingsVideoPortImpl`. -/
def setVideoPortResolution (state : ResolutionState σ) (handle : Int)
    (resolution : VideoPortResolution) (persist forceCompatibility : Bool) :
    Except CoreError Unit × ResolutionState σ :=
  let resolution := platform.resolvedResolution resolution
  match platform.resolvePortTypeByHandle handle with
  | none => (.error .general, state)
  | some portType =>
    if gave (platform.hal.dsIsDisplayConnected state.hal handle) false then
      (.error .general, state)
    else if gave (platform.hal.dsGetForceDisable4KSupport state.hal handle) true &&
        occursIn "2160" resolution.name then
      (.error .general, state)
    else
      state.applyResolution platform portType handle (toHal room resolution) persist
        forceCompatibility

end ResolutionState

@[simp] theorem name_buildResolutionFromName (name : String) :
    (buildResolutionFromName name).name = name := by
  unfold buildResolutionFromName
  split_ifs <;> rfl

/-! ### The resolution in effect -/

@[simp] theorem ResolutionPlatform.resolvedResolution_name {σ : Type} {room : Nat}
    (platform : ResolutionPlatform σ room) (resolution : VideoPortResolution) :
    (platform.resolvedResolution resolution).name = resolution.name := by
  unfold resolvedResolution
  split_ifs
  · rfl
  · cases found : platform.cachedVideoPortResolutions.find? fun cached =>
        cached.name == resolution.name with
    | none => rfl
    | some cached => simpa using List.find?_some found

theorem derivedName_ne (pixelResolution : PixelResolution) (interlaced : Bool) :
    derivedName pixelResolution interlaced ≠ "" := by
  cases pixelResolution <;> cases interlaced <;> decide

theorem fromHal_name_ne {room : Nat} (dsResolution : HalResolution room) :
    (fromHal dsResolution).name ≠ "" := by
  unfold fromHal
  dsimp only
  split_ifs with empty
  · exact derivedName_ne _ _
  · exact empty

namespace ResolutionState

variable {σ : Type} {room : Nat} {platform : ResolutionPlatform σ room}

@[simp] theorem updateCachedResolutionForPort_hal (state : ResolutionState σ)
    (portType : DsVideoPortType) (resolutionName : String) :
    (state.updateCachedResolutionForPort portType resolutionName).hal = state.hal := by
  unfold updateCachedResolutionForPort
  split_ifs
  · rfl
  · cases portType <;> rfl

@[simp] theorem persist_hal (state : ResolutionState σ) (key value : String) :
    (state.persist key value).2.hal = state.hal := rfl

@[simp] theorem alignHdmi_hal (state : ResolutionState σ) (pixelResolution : PixelResolution)
    (forceCompatible : Bool) :
    (state.alignHdmi platform pixelResolution forceCompatible).hal = state.hal := by
  unfold alignHdmi
  dsimp only
  split_ifs <;> rfl

@[simp] theorem alignAnalog_hal (state : ResolutionState σ) (pixelResolution : PixelResolution)
    (forceCompatible : Bool) :
    (state.alignAnalog platform pixelResolution forceCompatible).hal = state.hal := by
  unfold alignAnalog
  dsimp only
  split_ifs <;> rfl

theorem persistThen_hal (state : ResolutionState σ) (key value : String)
    {rest : ResolutionState σ → ResolutionState σ} (kept : ∀ state, (rest state).hal = state.hal) :
    (state.persistThen key value rest).hal = state.hal := by
  unfold persistThen
  dsimp only
  split
  · rw [kept, persist_hal]
  · exact persist_hal state key value

/-- Persisting a resolution does not reach the HAL. -/
@[simp] theorem persistVideoPortResolution_hal (state : ResolutionState σ) (handle : Int)
    (resolution : HalResolution room) (forceCompatible : Bool) :
    (state.persistVideoPortResolution platform handle resolution forceCompatible).hal =
      state.hal := by
  unfold persistVideoPortResolution
  cases platform.persistedPortType handle <;> exact persistThen_hal state _ _ (by simp)

@[simp] theorem recordResolution_hal (state : ResolutionState σ) (portType : DsVideoPortType)
    (handle : Int) (resolution : HalResolution room) (persist forceCompatibility : Bool) :
    (state.recordResolution platform portType handle resolution persist
      forceCompatibility).hal = state.hal := by
  unfold recordResolution
  cases persist <;> simp

@[simp] theorem getVideoPortResolution_hal (state : ResolutionState σ) (handle : Int) :
    (state.getVideoPortResolution platform handle).2.hal = state.hal := by
  unfold getVideoPortResolution
  split
  · rfl
  · split_ifs
    · rfl
    · rfl
    · split
      · dsimp only
        split_ifs
        · rfl
        · simp
      · rfl

end ResolutionState
end DeviceSettings.VideoPort
