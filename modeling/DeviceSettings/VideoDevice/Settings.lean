import DeviceSettings.Hal
import DeviceSettings.Persistence.HostPersistence

/-!
# Zoom and HDR of the video device

`SetVideoDeviceDFC` and `DisableHDR` of `dVideoDeviceImpl`. The first writes `srv_dfc` and the
store when the HAL has agreed, the second whatever the HAL has answered.
-/

namespace DeviceSettings.VideoDevice

open DeviceSettings.Std
open DeviceSettings.Persistence

/-- `VideoDeviceZoom` of the plugin interface. -/
inductive VideoDeviceZoom where
  | none
  | full
  | lb16x9
  | lb14x9
  | cco
  | panScan
  | lb221On4x3
  | lb221On16x9
  | platform
  | zoom16x9
  | pillarbox4x3
  | wide4x3
  | other
  deriving DecidableEq, Repr

/-- `dsVideoZoom_t`. -/
inductive DsVideoZoom where
  | none
  | full
  | lb16x9
  | lb14x9
  | cco
  | panScan
  | lb221On4x3
  | lb221On16x9
  | platform
  | zoom16x9
  | pillarbox4x3
  | wide4x3
  deriving DecidableEq, Repr

/-- `convertVideoDeviceZoom(zoom)`. -/
def convertVideoDeviceZoom : VideoDeviceZoom → DsVideoZoom
  | .none => .none
  | .full => .full
  | .lb16x9 => .lb16x9
  | .lb14x9 => .lb14x9
  | .cco => .cco
  | .panScan => .panScan
  | .lb221On4x3 => .lb221On4x3
  | .lb221On16x9 => .lb221On16x9
  | .platform => .platform
  | .zoom16x9 => .zoom16x9
  | .pillarbox4x3 => .pillarbox4x3
  | .wide4x3 => .wide4x3
  | .other => .full

/-- The zooms that `SetVideoDeviceDFC` supports, with what it persists for each. -/
def dfcString : DsVideoZoom → Option String
  | .none => some "None"
  | .full | .zoom16x9 => some "Full"
  | _ => Option.none

/-- The calls of the HAL; `dsForceDisableHDRSupport` may be missing. -/
structure VideoDeviceHal (σ : Type) where
  dsSetDFC : σ → Int → DsVideoZoom → Except DsError Unit × σ
  dsHdmiInSelectZoomMode : σ → DsVideoZoom → σ
  dsForceDisableHDRSupport : Option (σ → Int → Bool → Except DsError Unit × σ)
  /-- `profileType == TV`. -/
  tvProfile : Bool

/-- The HAL, `srv_dfc`, `force_disable_hdr` and the property store. -/
structure VideoDeviceState (σ : Type) where
  hal : σ
  srvDfc : DsVideoZoom
  forceDisableHdr : Bool
  store : HostPersistence
  files : Files String

/-- The property of the HDR flag. -/
def forceHDRDisabledKey : String := "VideoDevice.forceHDRDisabled"

namespace VideoDeviceState

variable {σ : Type} (hal : VideoDeviceHal σ)

/-- `persistHostProperty(key, value)`; no key or value of this class is empty, so nothing is
thrown. -/
def persist (state : VideoDeviceState σ) (key value : String) : VideoDeviceState σ :=
  let persisted := state.store.persistHostProperty state.files key value
  { state with store := persisted.2.1, files := persisted.2.2 }

/-- The branches of `SetVideoDeviceDFC` for the zooms. -/
def applyDfc (state : VideoDeviceState σ) (handle : Int) (dsZoom : DsVideoZoom) :
    Except CoreError Unit × VideoDeviceState σ :=
  match dfcString dsZoom with
  | none => (.error .general, state)
  | some text =>
    match hal.dsSetDFC state.hal handle dsZoom with
    | (.ok _, halState) =>
      (.ok (), { state with hal := halState, srvDfc := dsZoom }.persist "VideoDevice.DFC" text)
    | (.error _, halState) => (.error .general, { state with hal := halState })

/-- `dVideoDeviceImpl::SetVideoDeviceDFC(handle, zoomSetting)`. -/
def setVideoDeviceDFC (state : VideoDeviceState σ) (handle : Int)
    (zoomSetting : VideoDeviceZoom) : Except CoreError Unit × VideoDeviceState σ :=
  let applied := state.applyDfc hal handle (convertVideoDeviceZoom zoomSetting)
  if hal.tvProfile then
    (applied.1, { applied.2 with
      hal := hal.dsHdmiInSelectZoomMode applied.2.hal applied.2.srvDfc })
  else applied

/-- The answer of `dsForceDisableHDRSupport`; without the function the call goes well. -/
def callDisableHDR (state : VideoDeviceState σ) (handle : Int) (disable : Bool) :
    Except DsError Unit × σ :=
  match hal.dsForceDisableHDRSupport with
  | none => (.ok (), state.hal)
  | some func => func state.hal handle disable

/-- `dVideoDeviceImpl::DisableHDR(handle, disable)`. -/
def disableHDR (state : VideoDeviceState σ) (handle : Int) (disable : Bool) :
    Except CoreError Unit × VideoDeviceState σ :=
  let called := state.callDisableHDR hal handle disable
  let retCode : Except CoreError Unit :=
    match called.1 with
    | .ok _ => .ok ()
    | .error _ => .error .general
  (retCode, { state with hal := called.2, forceDisableHdr := disable }.persist
    forceHDRDisabledKey (if disable then "true" else "false"))

end VideoDeviceState
end DeviceSettings.VideoDevice
