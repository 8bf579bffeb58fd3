import Mathlib.Algebra.Group.Nat.Defs

/-!
# Error codes and handles

The vocabulary shared by the components over the HAL: `dsError_t`, the codes of
`WPEFramework::Core` and the handles of the plugin interface.
-/

namespace DeviceSettings

/-- The failures of `dsError_t`; `dsERR_NONE` is the `ok` of a call. -/
inductive DsError where
  | general
  | invalidParam
  | invalidState
  | operationNotSupported
  | unknown
  deriving DecidableEq, Repr

/-- The failures of `WPEFramework::Core` that the plugin returns. -/
inductive CoreError where
  | general
  | badRequest
  | unavailable
  deriving DecidableEq, Repr

/-- The call has succeeded and given this value. -/
def gave (answer : Except DsError Bool) (value : Bool) : Bool :=
  match answer with
  | .ok given => given == value
  | .error _ => false

@[simp] theorem gave_iff {answer : Except DsError Bool} {value : Bool} :
    gave answer value = true ↔ answer = .ok value := by
  cases answer <;> simp [gave]

/-- `static_cast<int32_t>` of an `intptr_t` handle. -/
def int32Handle (handle : Int) : Int := handle.bmod (2 ^ 32)

end DeviceSettings
