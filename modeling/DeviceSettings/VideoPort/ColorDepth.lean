import DeviceSettings.VideoPort.Resolution

/-!
# The preferred color depth and the 4K switch

`SetPreferredColorDepth` and `SetForceDisable4K` of `dVideoPortImpl`: both ask the HAL first and
persist what was requested when it has agreed.
-/

namespace DeviceSettings.VideoPort

open DeviceSettings.Std
open DeviceSettings.Persistence

/-- The values of `dsDisplayColorDepth_t`, which are bits of a capability. -/
structure ColorDepthBits where
  depth8 : UInt32
  depth10 : UInt32
  depth12 : UInt32
  auto : UInt32

/-- The calls of the HAL for the color depth and the 4K switch. A symbol that cannot be resolved
is a call that fails. -/
structure ColorDepthHal (σ : Type) where
  dsIsDisplayConnected : σ → Int → Except DsError Bool
  dsGetPreferredColorDepth : σ → Int → Except DsError UInt32
  dsColorDepthCapabilities : σ → Int → Except DsError UInt32
  dsSetPreferredColorDepth : σ → Int → UInt32 → Except DsError Unit × σ
  dsSetForceDisable4KSupport : σ → Int → Bool → Except DsError Unit × σ

/-- `std::to_string(static_cast<int>(colorDepth))`. -/
def colorDepthString (colorDepth : UInt32) : String := toString colorDepth.toInt32.toInt

/-- `getBestSupportedColorDepth(handle, requested)`, over the answer of the HAL. -/
def getBestSupportedColorDepth (bits : ColorDepthBits) (capabilities : Except DsError UInt32)
    (requested : UInt32) : UInt32 :=
  match capabilities with
  | .error _ => bits.depth8
  | .ok capability =>
    let capability := capability ||| bits.auto
    if capability &&& requested ≠ 0 ∧ requested ≠ bits.auto then requested
    else if capability &&& bits.depth12 ≠ 0 then bits.depth12
    else if capability &&& bits.depth10 ≠ 0 then bits.depth10
    else if capability &&& bits.depth8 ≠ 0 then bits.depth8
    else bits.depth8

namespace ResolutionState

variable {σ : Type} (hal : ColorDepthHal σ) (bits : ColorDepthBits)

/-- `dVideoPortImpl::SetPreferredColorDepth(handle, colorDepth, persist)`. -/
def setPreferredColorDepth (state : ResolutionState σ) (handle : Int) (colorDepth : UInt32)
    (persist : Bool) : Except CoreError Unit × ResolutionState σ :=
  let persisted := fun state : ResolutionState σ =>
    if persist then (state.persist "HDMI0.colorDepth" (colorDepthString colorDepth)).2 else state
  if gave (hal.dsIsDisplayConnected state.hal handle) false then (.error .general, state)
  else if hal.dsGetPreferredColorDepth state.hal handle = .ok colorDepth then
    (.ok (), persisted state)
  else
    let colorDepthToSet := getBestSupportedColorDepth bits
      (hal.dsColorDepthCapabilities state.hal handle) colorDepth
    match hal.dsSetPreferredColorDepth state.hal handle colorDepthToSet with
    | (.ok _, halState) => (.ok (), persisted { state with hal := halState })
    | (.error _, halState) => (.error .general, { state with hal := halState })

/-- `dVideoPortImpl::SetForceDisable4K(handle, disable)`. -/
def setForceDisable4K (state : ResolutionState σ) (handle : Int) (disable : Bool) :
    Except CoreError Unit × ResolutionState σ :=
  match hal.dsSetForceDisable4KSupport state.hal handle disable with
  | (.ok _, halState) =>
    (.ok (), ({ state with hal := halState }.persist "VideoDevice.force4KDisabled"
      (if disable then "true" else "false")).2)
  | (.error _, halState) => (.error .general, { state with hal := halState })

end ResolutionState
end DeviceSettings.VideoPort
