import DeviceSettings.Hal
import Mathlib.Logic.Function.Basic

/-!
# Enabling video ports

The calls of `dVideoPortImpl` that look a port up and enable it. They keep no state of
their own, so they act on the state of the HAL.
-/

namespace DeviceSettings.VideoPort

/-- `VideoPortType` of the plugin interface; the other types convert to HDMI. -/
inductive VideoPortType where
  | hdmi
  | component
  | svideo
  | ieee1394
  | dvi
  | internal
  | other
  deriving DecidableEq, Repr

/-- `dsVideoPortType_t`. -/
inductive DsVideoPortType where
  | rf
  | bb
  | svideo
  | ieee1394
  | dvi
  | component
  | hdmi
  | internal
  deriving DecidableEq, Repr

/-- The entry points of the HAL that this module uses, over the state it keeps. -/
structure VideoPortHal (σ : Type) where
  dsGetVideoPort : σ → DsVideoPortType → Int → Except DsError Int
  dsIsVideoPortEnabled : σ → Int → Except DsError Bool
  dsEnableVideoPort : σ → Int → Bool → Except DsError Unit × σ

/-- `convertVideoPortType(videoPort)`. -/
def convertVideoPortType : VideoPortType → DsVideoPortType
  | .hdmi => .hdmi
  | .component => .component
  | .svideo => .svideo
  | .ieee1394 => .ieee1394
  | .dvi => .dvi
  | .internal => .internal
  | .other => .hdmi

variable {σ β : Type}

section Calls

variable (hal : VideoPortHal σ) (state : σ)

/-- `GetVideoPort(videoPort, index, handle)`. -/
def getVideoPort (videoPort : VideoPortType) (index : Int) : Except CoreError Int :=
  match hal.dsGetVideoPort state (convertVideoPortType videoPort) index with
  | .ok handle => .ok (int32Handle handle)
  | .error _ => .error .general

/-- `IsVideoPortEnabled(handle, enabled)`: what the HAL reports. -/
def isVideoPortEnabled (handle : Int) : Except CoreError Bool :=
  match hal.dsIsVideoPortEnabled state handle with
  | .ok enabled => .ok enabled
  | .error _ => .error .general

/-- `EnableVideoPort(handle, enabled)`. -/
def enableVideoPort (handle : Int) (enabled : Bool) : Except CoreError Unit × σ :=
  match hal.dsEnableVideoPort state handle enabled with
  | (.ok _, state) => (.ok (), state)
  | (.error _, state) => (.error .general, state)

end Calls

/-- `dsEnableVideoPort` and `dsIsVideoPortEnabled` store and report one state per port and
always succeed; the ports themselves are fixed. -/
structure VideoPortHal.StoresPorts (hal : VideoPortHal σ) (enabled : σ → Int → Bool) : Prop where
  fixed : ∀ state other, hal.dsGetVideoPort state = hal.dsGetVideoPort other
  reports : ∀ state handle, hal.dsIsVideoPortEnabled state handle = .ok (enabled state handle)
  succeeds : ∀ state handle enable, (hal.dsEnableVideoPort state handle enable).1 = .ok ()
  stores : ∀ state handle enable, enabled (hal.dsEnableVideoPort state handle enable).2 =
    Function.update (enabled state) handle enable

/-- Enabling video ports leaves this part of the HAL state alone. -/
def VideoPortHal.Keeps (hal : VideoPortHal σ) (view : σ → β) : Prop :=
  ∀ state handle enable, view (hal.dsEnableVideoPort state handle enable).2 = view state

@[simp] theorem enableVideoPort_snd (hal : VideoPortHal σ) (state : σ) (handle : Int)
    (enabled : Bool) :
    (enableVideoPort hal state handle enabled).2 =
      (hal.dsEnableVideoPort state handle enabled).2 := by
  unfold enableVideoPort
  split <;> rename_i called <;> rw [called]

end DeviceSettings.VideoPort
