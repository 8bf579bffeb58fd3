import DeviceSettings.HdmiOutput.Components

/-!
# Resolutions of the AIDL port

`GetVideoPortResolution` of `dVideoPortAIDLImpl`: the persisted name while no display is there,
else the name of the VIC. A name or a VIC that the table does not have is passed over.
-/

namespace DeviceSettings.HdmiOutput

open DeviceSettings.VideoPort

/-- The columns of `kVicTable` for the frame rate and interlacing; the aspect ratio is 16:9 in
every row. -/
def vicRate : Vic → FrameRate × Bool
  | .vic3_720_480_p_60_16_9 => (.fps60, false)
  | .vic18_720_576_p_50_16_9 => (.fps50, false)
  | .vic4_1280_720_p_60_16_9 => (.fps60, false)
  | .vic19_1280_720_p_50_16_9 => (.fps50, false)
  | .vic5_1920_1080_i_60_16_9 => (.fps60, true)
  | .vic20_1920_1080_i_50_16_9 => (.fps50, true)
  | .vic16_1920_1080_p_60_16_9 => (.fps60, false)
  | .vic32_1920_1080_p_24_16_9 => (.fps24, false)
  | .vic33_1920_1080_p_25_16_9 => (.fps25, false)
  | .vic34_1920_1080_p_30_16_9 => (.fps30, false)
  | .vic31_1920_1080_p_50_16_9 => (.fps50, false)
  | .vic93_3840_2160_p_24_16_9 => (.fps24, false)
  | .vic94_3840_2160_p_25_16_9 => (.fps25, false)
  | .vic95_3840_2160_p_30_16_9 => (.fps30, false)
  | .vic96_3840_2160_p_50_16_9 => (.fps50, false)
  | .vic97_3840_2160_p_60_16_9 => (.fps60, false)
  | .other _ => (.unknown, false)

def VicResolutionEntry.resolution (entry : VicResolutionEntry) : VideoPortResolution where
  name := entry.name
  pixelResolution := entry.pixelResolution
  aspectRatio := .ratio16x9
  stereoScopicMode := .twoD
  frameRate := (vicRate entry.vic).1
  interlaced := (vicRate entry.vic).2

/-- `VicToResolution(vic, resolution)`. -/
def vicToResolution (vic : Vic) : Option VideoPortResolution :=
  (kVicTable.find? fun entry => entry.vic == vic).map VicResolutionEntry.resolution

/-- The resolution of `VIC16_1920_1080_P_60_16_9`, which stands in for an unmapped VIC. -/
def defaultResolution : VideoPortResolution :=
  ⟨"1080p", .p1920x1080, .ratio16x9, .twoD, .fps60, false⟩

example : vicToResolution .vic16_1920_1080_p_60_16_9 = some defaultResolution := by decide

namespace OutputState

variable {σ : Type} (platform : OutputPlatform σ)

/-- The persisted resolution, if the table has its name. -/
def persistedEntry (state : OutputState σ) : Option VideoPortResolution :=
  (resolutionNameToVic state.videoPort.persistedResolution).bind vicToResolution

/-- The end of `GetVideoPortResolution`, which asks the output. -/
def currentResolution (state : OutputState σ) (device : Int) :
    Except CoreError VideoPortResolution :=
  match platform.hal.getVic state.hal device with
  | none => .error .general
  | some value => .ok ((vicToResolution (value.getD (.other 0))).getD defaultResolution)

/-- `dVideoPortAIDLImpl::GetVideoPortResolution(handle, resolution)`. -/
def getVideoPortResolution (state : OutputState σ) (handle : Int) :
    Except CoreError VideoPortResolution :=
  match findDevice state.videoPort.devices handle with
  | none => .error .unavailable
  | some device =>
    if platform.hal.getHotPlugDetectState state.hal device = some false then
      match state.persistedEntry with
      | some resolution => .ok resolution
      | none => state.currentResolution platform device
    else state.currentResolution platform device

end OutputState
end DeviceSettings.HdmiOutput
