import DeviceSettings.Std.OneSlot
import DeviceSettings.VideoPort.Resolution

/-!
# The EDID of a display

The part of `dDisplayImpl` that reads the EDID of a display, keeps it in static caches and drops
the caches when a display is unplugged. One instance answers all calls and gets all events.
-/

namespace DeviceSettings.Display

open DeviceSettings.Std
open DeviceSettings.VideoPort

/-- `dsDisplayEDID_t`; `limit` is `dsEEDID_MAX_VIDEO_CODE * dsVIDEO_SSMODE_MAX`. -/
structure DsDisplayEdid (room limit : Nat) where
  productCode : Int
  serialNumber : Int
  manufactureYear : Int
  manufactureWeek : Int
  hdmiDeviceType : Bool
  isRepeater : Bool
  physicalAddressA : UInt8
  physicalAddressB : UInt8
  physicalAddressC : UInt8
  physicalAddressD : UInt8
  numOfSupportedResolution : Int
  suppResolutionList : Vector (HalResolution room) limit
  monitorName : String

/-- `DisplayEDID` of the plugin interface with the list that `GetDisplayEdid` gives with it; the
list is `nullptr` where there is no resolution. -/
structure DisplayEdid where
  productCode : Int
  serialNumber : Int
  manufactureYear : Int
  manufactureWeek : Int
  hdmiDeviceType : Bool
  isRepeater : Bool
  physicalAddressA : UInt8
  physicalAddressB : UInt8
  physicalAddressC : UInt8
  physicalAddressD : UInt8
  numOfSupportedResolution : Int
  monitorName : String
  supportedResolutionList : Option (List VideoPortResolution)
  deriving DecidableEq

/-- The display calls of the HAL over its state, and the configuration of the video ports. -/
structure DisplayPlatform (σ : Type) (room limit : Nat) where
  dsGetEDID : σ → Int → Except DsError (DsDisplayEdid room limit)
  /-- The bytes that are written and their number. -/
  dsGetEDIDBytes : σ → Int → Except DsError (List UInt8)
  /-- `resolve` finds `dsGetEDIDBytes`. -/
  resolvesBytes : Bool
  dsGetDisplay : DsVideoPortType → Int → Except DsError Int
  videoPorts : List (DsVideoPortType × Int)
  hdmiResolutions : List VideoPortResolution

/-- The HAL and the static variables of `dDisplayImpl`; the byte cache is an array of 1024. -/
structure DisplayState (σ : Type) (room limit : Nat) where
  hal : σ
  isEdidCached : Bool
  edidStructCache : DsDisplayEdid room limit
  isEdidBytesCached : Bool
  edidBytesCache : List UInt8
  edidBytesCacheLength : Nat

section Conversions

variable {room limit : Nat}

/-- A resolution of the list; the casts keep the ordinals. -/
def displayResolution (halResolution : HalResolution room) : VideoPortResolution where
  name := halResolution.name.text
  pixelResolution := halResolution.pixelResolution
  aspectRatio := halResolution.aspectRatio
  stereoScopicMode := halResolution.stereoScopicMode
  frameRate := halResolution.frameRate
  interlaced := halResolution.interlaced

/-- The entries of an EDID that count. -/
def resolutionCount (edid : DsDisplayEdid room limit) : Int :=
  if edid.numOfSupportedResolution < limit then edid.numOfSupportedResolution else limit

/-- `buildSupportedResolutionIterator(halEdid)`. -/
def buildSupportedResolutionIterator (halEdid : DsDisplayEdid room limit) :
    Option (List VideoPortResolution) :=
  if halEdid.numOfSupportedResolution ≤ 0 then none
  else some ((halEdid.suppResolutionList.toList.take (resolutionCount halEdid).toNat).map
    displayResolution)

/-- The fields that both paths of `GetDisplayEdid` copy. -/
def displayEdid (halEdid : DsDisplayEdid room limit) : DisplayEdid where
  productCode := halEdid.productCode
  serialNumber := halEdid.serialNumber
  manufactureYear := halEdid.manufactureYear
  manufactureWeek := halEdid.manufactureWeek
  hdmiDeviceType := halEdid.hdmiDeviceType
  isRepeater := halEdid.isRepeater
  physicalAddressA := halEdid.physicalAddressA
  physicalAddressB := halEdid.physicalAddressB
  physicalAddressC := halEdid.physicalAddressC
  physicalAddressD := halEdid.physicalAddressD
  numOfSupportedResolution := halEdid.numOfSupportedResolution
  monitorName := halEdid.monitorName
  supportedResolutionList := buildSupportedResolutionIterator halEdid

/-- One comparison of `filterEDIDResolution`: a match is stored at the next free place. -/
def keepIfNamed (name : String) (kept : Vector (HalResolution room) limit × Nat)
    (entry : HalResolution room) : Vector (HalResolution room) limit × Nat :=
  if kept.2 < limit ∧ name = entry.name.text then
    (kept.1.setIfInBounds kept.2 entry, kept.2 + 1)
  else kept

end Conversions

section Calls

variable {σ : Type} {room limit : Nat} (platform : DisplayPlatform σ room limit)

/-- `GetDisplayPortType(handle)`; `dsVIDEOPORT_TYPE_MAX` is `none`. -/
def DisplayPlatform.getDisplayPortType (handle : Int) : Option DsVideoPortType :=
  (platform.videoPorts.find? fun port =>
    match platform.dsGetDisplay port.1 port.2 with
    | .ok halHandle => halHandle = handle
    | .error _ => false).map Prod.fst

/-- `filterEDIDResolution(handle, edid)`: the list of a display that is not HDMI stays as it
is. -/
def DisplayPlatform.filterEDIDResolution (handle : Int) (edid : DsDisplayEdid room limit) :
    DsDisplayEdid room limit :=
  if platform.getDisplayPortType handle ≠ some .hdmi then edid
  else
    let originalList := edid.suppResolutionList.toList.take (resolutionCount edid).toNat
    let kept := platform.hdmiResolutions.foldl
      (fun kept platformRes => originalList.foldl (keepIfNamed platformRes.name) kept)
      (edid.suppResolutionList, 0)
    { edid with suppResolutionList := kept.1, numOfSupportedResolution := kept.2 }

namespace DisplayState

/-- `GetDisplayEdid(handle)`. -/
def getDisplayEdid (state : DisplayState σ room limit) (handle : Int) :
    Except CoreError DisplayEdid × DisplayState σ room limit :=
  if state.isEdidCached then (.ok (displayEdid state.edidStructCache), state)
  else
    match platform.dsGetEDID state.hal handle with
    | .error _ => (.error .general, state)
    | .ok halEdid =>
      let halEdid := platform.filterEDIDResolution handle halEdid
      (.ok (displayEdid halEdid), { state with edidStructCache := halEdid, isEdidCached := true })

/-- `GetDisplayEdidBytes(handle, edIdBytes, edidLength)`; the answer is what the buffer holds,
where there is a buffer. -/
def getDisplayEdidBytes (state : DisplayState σ room limit) (handle : Int) (hasBuffer : Bool)
    (edidLength : UInt16) : Except CoreError (List UInt8) × DisplayState σ room limit :=
  if hasBuffer = false ∨ edidLength = 0 then (.error .general, state)
  else if state.isEdidBytesCached ∧ 0 < state.edidBytesCacheLength ∧
      state.edidBytesCacheLength ≤ edidLength.toNat then
    (.ok (state.edidBytesCache.take state.edidBytesCacheLength), state)
  else if platform.resolvesBytes = false then (.error .general, state)
  else
    match platform.dsGetEDIDBytes state.hal handle with
    | .error _ => (.error .general, state)
    | .ok bytes =>
      if 0 < bytes.length ∧ bytes.length ≤ edidLength.toNat ∧ bytes.length ≤ 1024 then
        (.ok bytes, { state with
          edidBytesCache := bytes ++ state.edidBytesCache.drop bytes.length
          edidBytesCacheLength := bytes.length
          isEdidBytesCached := true })
      else (.error .general, state)

/-- `dsDisplayEventCallbackImpl` for `dsDISPLAY_EVENT_DISCONNECTED`; the event for a connect
leaves the caches alone. -/
def disconnected (state : DisplayState σ room limit) : DisplayState σ room limit :=
  { state with isEdidCached := false, isEdidBytesCached := false, edidBytesCacheLength := 0 }

end DisplayState
end Calls
end DeviceSettings.Display
