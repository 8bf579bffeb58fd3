import DeviceSettings.HdmiOutput.Components
import DeviceSettings.VideoPort.Ports

/-!
# Handles of the HDMI outputs

Both AIDL components number their outputs by the position in a vector that leaves out the
ones that did not open, and `DSController` takes handle 0 for no port. So an index names its
output only if no output opens behind one that does not, and the first output is found only
if its id is not 0.
-/

namespace DeviceSettings.HdmiOutput

open DeviceSettings.VideoPort

/-- How the service replies to the calls of one component's `InitialiseHAL`. -/
structure OutputReplies where
  /-- `getHDMIOutput` succeeds with an output. -/
  getHDMIOutput : Int → Bool
  /-- `open` succeeds with a controller. -/
  opens : Int → Bool
  starts : Int → Bool

/-- `OpenDevice(id, device)`; an event listener that is not registered is passed over. -/
def OutputReplies.openDevice (replies : OutputReplies) (id : Int) : Bool :=
  if !replies.getHDMIOutput id then false
  else if !replies.opens id then false
  else if !replies.starts id then false
  else true

/-- What the component can open of the outputs that `getHDMIOutputIds` has reported. -/
def OutputReplies.opening (replies : OutputReplies) (ids : List Int) : Opening :=
  ⟨some ids, replies.openDevice⟩

/-- The port type that `DSController` casts to. -/
def vpType : DsVideoPortType → VideoPortType
  | .hdmi => .hdmi
  | .component => .component
  | .svideo => .svideo
  | .ieee1394 => .ieee1394
  | .dvi => .dvi
  | .internal => .internal
  | .bb | .rf => .other

/-- The position in `_devices`; a component without devices is not open. -/
def deviceAt (devices : List Int) (index : Int) : Option Int :=
  if index < 0 then none else devices[index.toNat]?

namespace OutputState

variable {σ : Type} (platform : OutputPlatform σ) (state : OutputState σ)

/-- `dVideoPortAIDLImpl::GetVideoPort(videoPort, index, handle)`. -/
def getVideoPort (videoPort : VideoPortType) (index : Int) : Except CoreError Int :=
  match deviceAt state.videoPort.devices index with
  | none => .error .unavailable
  | some id =>
    if videoPort ≠ .hdmi ∧ videoPort ≠ .internal then .error .unavailable else .ok id

/-- `dVideoDeviceAIDLImpl::GetVideoDeviceHandle(index, handle)`. -/
def getVideoDeviceHandle (index : Int) : Except CoreError Int :=
  match deviceAt state.videoDevice.devices index with
  | none => .error .unavailable
  | some id => .ok id

/-- `dVideoPortAIDLImpl::IsVideoPortDisplayConnected(handle, connected)`. -/
def isVideoPortDisplayConnected (handle : Int) : Except CoreError Bool :=
  match findDevice state.videoPort.devices handle with
  | none => .error .unavailable
  | some device =>
    match platform.hal.getHotPlugDetectState state.hal device with
    | none => .error .general
    | some connected => .ok connected

/-- `DSController::GetVideoPortHandle(port)`. -/
def getVideoPortHandle (port : DsVideoPortType) : Int :=
  match state.getVideoPort (vpType port) 0 with
  | .ok handle => handle
  | .error _ => 0

/-- `DSController::IsHDMIConnected()`. -/
def isHDMIConnected : Bool :=
  let handle := state.getVideoPortHandle .hdmi
  if handle ≠ 0 then
    match state.isVideoPortDisplayConnected platform handle with
    | .ok connected => connected
    | .error _ => false
  else false

/-- The `SetResolution(handle, portType)` that `DSController::SetVideoPortResolution` comes to. -/
def setResolutionCall : Option (Int × DsVideoPortType) :=
  let hdmiHandle := state.getVideoPortHandle .hdmi
  if hdmiHandle ≠ 0 then
    if state.isHDMIConnected platform then some (hdmiHandle, .hdmi)
    else
      let compHandle := state.getVideoPortHandle .component
      if 0 ≠ compHandle then some (compHandle, .component)
      else
        let compositeHandle := state.getVideoPortHandle .bb
        if 0 ≠ compositeHandle then some (compositeHandle, .bb)
        else
          let rfHandle := state.getVideoPortHandle .rf
          if 0 ≠ rfHandle then some (rfHandle, .rf) else none
  else none

end OutputState

/-- No output opens behind one that does not. -/
def OpensInOrder (replies : OutputReplies) (ids : List Int) : Prop :=
  ids.Pairwise fun earlier later =>
    replies.openDevice later = true → replies.openDevice earlier = true

/-! ### Positions in the vector -/

/-- Leaving out elements keeps the positions of the others if and only if these come first. -/
theorem getElem?_filter_iff {α : Type} (holds : α → Bool) (items : List α) :
    (∀ (index : Nat) item, (items.filter holds)[index]? = some item ↔
        items[index]? = some item ∧ holds item = true) ↔
      items.Pairwise fun earlier later => holds later = true → holds earlier = true := by
  induction items with
  | nil => simp
  | cons first rest ih =>
    rw [List.pairwise_cons]
    cases kept : holds first with
    | true =>
        rw [← ih, List.filter_cons_of_pos kept]
        constructor
        · intro positions
          exact ⟨fun _ _ _ => rfl, fun index item => by simpa using positions (index + 1) item⟩
        · rintro ⟨-, positions⟩ (_ | index) item
          · simp only [List.getElem?_cons_zero, Option.some.injEq]
            exact ⟨fun same => ⟨same, same ▸ kept⟩, And.left⟩
          · simpa using positions index item
    | false =>
        have dropped : ¬holds first = true := by simp [kept]
        rw [List.filter_cons_of_neg dropped]
        constructor
        · intro positions
          have none_kept : ∀ later ∈ rest, ¬holds later = true := by
            intro later member holdsLater
            obtain ⟨head, tail, same⟩ : ∃ head tail, rest.filter holds = head :: tail := by
              refine List.exists_cons_of_ne_nil fun empty => ?_
              exact List.filter_eq_nil_iff.mp empty later member holdsLater
            have atFirst := (positions 0 head).mp (by rw [same]; rfl)
            simp only [List.getElem?_cons_zero, Option.some.injEq] at atFirst
            exact dropped (atFirst.1 ▸ atFirst.2)
          refine ⟨fun later member holdsLater => absurd holdsLater (none_kept later member), ?_⟩
          refine List.Pairwise.imp_of_mem (fun _ member _ holdsLater => ?_)
            (List.pairwise_of_forall (R := fun _ _ => True) fun _ _ => trivial)
          exact absurd holdsLater (none_kept _ member)
        · rintro ⟨below, -⟩ index item
          have none_kept : ∀ later ∈ first :: rest, ¬holds later = true := by
            intro later member holdsLater
            rcases List.mem_cons.mp member with rfl | inRest
            · exact dropped holdsLater
            · exact absurd (below later inRest holdsLater) Bool.false_ne_true
          rw [List.filter_eq_nil_iff.mpr fun later member =>
            none_kept later (List.mem_cons_of_mem _ member)]
          simp only [List.getElem?_nil, reduceCtorEq, false_iff, not_and]
          exact fun found => none_kept item (List.mem_of_getElem? found)

section Handles

variable {σ : Type} {platform : OutputPlatform σ} {state : OutputState σ}

theorem deviceAt_eq_some_iff {devices : List Int} {index id : Int} :
    deviceAt devices index = some id ↔
      ∃ position : Nat, index = position ∧ devices[position]? = some id := by
  unfold deviceAt
  split_ifs with negative
  · simp only [false_iff]
    rintro ⟨position, rfl, -⟩
    omega
  · constructor
    · intro found
      exact ⟨index.toNat, by omega, found⟩
    · rintro ⟨position, rfl, found⟩
      rw [Int.toNat_natCast]
      exact found

theorem getVideoPort_hdmi_iff {index handle : Int} :
    state.getVideoPort .hdmi index = .ok handle ↔
      deviceAt state.videoPort.devices index = some handle := by
  unfold OutputState.getVideoPort
  cases deviceAt state.videoPort.devices index with
  | none => simp
  | some id => simp

theorem getVideoDeviceHandle_iff {index handle : Int} :
    state.getVideoDeviceHandle index = .ok handle ↔
      deviceAt state.videoDevice.devices index = some handle := by
  unfold OutputState.getVideoDeviceHandle
  cases deviceAt state.videoDevice.devices index with
  | none => simp
  | some id => simp

/-- The handle of an index is that output of the list, which has been opened. -/
def Names (answer : Int → Except CoreError Int) (ids : List Int) (opened : Int → Bool) : Prop :=
  ∀ index handle, answer index = .ok handle ↔
    ∃ position : Nat, index = position ∧ ids[position]? = some handle ∧ opened handle = true

/-- A component that answers by position names its outputs if they open in order. -/
theorem names_iff {answer : Int → Except CoreError Int} {ids : List Int} {opened : Int → Bool}
    (answers : ∀ index handle, answer index = .ok handle ↔
      deviceAt (ids.filter opened) index = some handle) :
    Names answer ids opened ↔
      ids.Pairwise fun earlier later => opened later = true → opened earlier = true := by
  rw [← getElem?_filter_iff]
  constructor
  · intro names position handle
    have named := (answers position handle).symm.trans (names position handle)
    rw [deviceAt_eq_some_iff] at named
    simpa using named
  · intro positions index handle
    rw [answers, deviceAt_eq_some_iff]
    simp only [positions]

/-- The first output that is open and connected is found by the controller. -/
structure FindsFirst (platform : OutputPlatform σ) (state : OutputState σ) (first : Int) :
    Prop where
  isHDMIConnected : state.isHDMIConnected platform = true
  setResolutionCall : state.setResolutionCall platform = some (first, .hdmi)

theorem findsFirst_iff {first : Int} {rest : List Int}
    (devices : state.videoPort.devices = first :: rest)
    (connected : platform.hal.getHotPlugDetectState state.hal first = some true) :
    FindsFirst platform state first ↔ first ≠ 0 := by
  have handle : state.getVideoPortHandle .hdmi = first := by
    have found : state.getVideoPort .hdmi 0 = .ok first :=
      getVideoPort_hdmi_iff.mpr (by rw [devices]; rfl)
    simp only [OutputState.getVideoPortHandle, vpType, found]
  have plugged : state.isVideoPortDisplayConnected platform first = .ok true := by
    have found : findDevice state.videoPort.devices first = some first := by
      simp [findDevice, devices]
    simp only [OutputState.isVideoPortDisplayConnected, found, connected]
  constructor
  · intro finds zero
    have called := finds.isHDMIConnected
    simp [OutputState.isHDMIConnected, handle, zero] at called
  · intro valid
    have isConnected : state.isHDMIConnected platform = true := by
      simp only [OutputState.isHDMIConnected, handle, plugged, if_pos valid]
    refine ⟨isConnected, ?_⟩
    simp only [OutputState.setResolutionCall, handle, isConnected, if_pos valid, if_true]

end Handles

/-- The handles of both components name the outputs, and the controller finds the first. -/
structure HandlesNameOutputs {σ : Type} (platform : OutputPlatform σ) (state : OutputState σ)
    (ids : List Int) (videoPort videoDevice : OutputReplies) : Prop where
  ports : Names (state.getVideoPort .hdmi) ids videoPort.openDevice
  devices : Names state.getVideoDeviceHandle ids videoDevice.openDevice
  agree : ∀ index port device, state.getVideoPort .hdmi index = .ok port →
    state.getVideoDeviceHandle index = .ok device → port = device
  first : ∀ id, ids.head? = some id → videoPort.openDevice id = true →
    platform.hal.getHotPlugDetectState state.hal id = some true → FindsFirst platform state id

/-- The handles name the outputs if and only if in both components no output opens behind one
that does not, and the first output does not have the id 0 while it is open and connected. -/
theorem handles_name_outputs_iff {σ : Type} (platform : OutputPlatform σ)
    (before : OutputState σ) (hal : σ) (ids : List Int)
    (videoPort videoDevice : OutputReplies) :
    HandlesNameOutputs platform (before.restart platform (videoPort.opening ids)
        (videoDevice.opening ids) hal) ids videoPort videoDevice ↔
      OpensInOrder videoPort ids ∧ OpensInOrder videoDevice ids ∧
        ∀ id, ids.head? = some id → videoPort.openDevice id = true →
          platform.hal.getHotPlugDetectState hal id = some true → id ≠ 0 := by
  have ports : Names ((before.restart platform (videoPort.opening ids)
      (videoDevice.opening ids) hal).getVideoPort .hdmi) ids videoPort.openDevice ↔
        OpensInOrder videoPort ids := by
    refine names_iff fun index handle => ?_
    rw [getVideoPort_hdmi_iff, OutputState.videoPort_devices_restart]
    rfl
  have devices : Names (before.restart platform (videoPort.opening ids)
      (videoDevice.opening ids) hal).getVideoDeviceHandle ids videoDevice.openDevice ↔
        OpensInOrder videoDevice ids := by
    refine names_iff fun index handle => ?_
    rw [getVideoDeviceHandle_iff, OutputState.videoDevice_restart]
    rfl
  have finds : ∀ id, ids.head? = some id → videoPort.openDevice id = true →
      platform.hal.getHotPlugDetectState hal id = some true →
      (FindsFirst platform (before.restart platform (videoPort.opening ids)
        (videoDevice.opening ids) hal) id ↔ id ≠ 0) := by
    intro id head opened connected
    obtain ⟨rest, rfl⟩ := List.head?_eq_some_iff.mp head
    have devices : (before.restart platform (videoPort.opening (id :: rest))
        (videoDevice.opening (id :: rest)) hal).videoPort.devices =
          id :: rest.filter videoPort.openDevice := by
      rw [OutputState.videoPort_devices_restart]
      exact List.filter_cons_of_pos opened
    refine findsFirst_iff devices ?_
    rw [OutputState.hal_restart]
    exact connected
  constructor
  · rintro ⟨portNames, deviceNames, -, first⟩
    refine ⟨ports.mp portNames, devices.mp deviceNames, fun id head opened connected => ?_⟩
    refine (finds id head opened connected).mp (first id head opened ?_)
    rw [OutputState.hal_restart]
    exact connected
  · rintro ⟨portOrder, deviceOrder, nonzero⟩
    refine ⟨ports.mpr portOrder, devices.mpr deviceOrder, fun index port device => ?_,
      fun id head opened connected => ?_⟩
    · intro portNamed deviceNamed
      obtain ⟨position, at_, found, -⟩ := (ports.mpr portOrder index port).mp portNamed
      obtain ⟨other, same, alsoFound, -⟩ :=
        (devices.mpr deviceOrder index device).mp deviceNamed
      obtain rfl : position = other := by omega
      exact Option.some.inj (found.symm.trans alsoFound)
    · rw [OutputState.hal_restart] at connected
      exact (finds id head opened connected).mpr (nonzero id head opened connected)

namespace FailedOutput

/-- The outputs of the list are connected. -/
def platform : OutputPlatform Unit where
  hal :=
    { getHotPlugDetectState := fun _ _ => some true
      getVic := fun _ _ => some none
      setVic := fun hal _ _ => (true, hal) }
  tvProfile := false
  storeFile := "/opt/persistent/ds/hostData"

def accepting : OutputReplies := ⟨fun _ => true, fun _ => true, fun _ => true⟩

/-- Output 1 does not start. -/
def refusing : OutputReplies := { accepting with starts := fun id => id != 1 }

def before : OutputState Unit where
  hal := ()
  videoPort := ⟨[], "", false⟩
  videoDevice := ⟨[]⟩
  store := .ofStoreFile platform.storeFile
  files _ := .absent

/-- What the components are after a start with these outputs. -/
def started (ids : List Int) (videoPort videoDevice : OutputReplies) : OutputState Unit :=
  before.restart platform (videoPort.opening ids) (videoDevice.opening ids) ()

end FailedOutput

/-- Index 0 is output 2 for the ports and output 1 for the devices, after output 1 has failed
to start in the first. An output with the id 0 is not found by the controller. -/
theorem not_handlesNameOutputs_failed :
    ¬HandlesNameOutputs FailedOutput.platform
        (FailedOutput.started [1, 2] FailedOutput.refusing FailedOutput.accepting) [1, 2]
        FailedOutput.refusing FailedOutput.accepting ∧
      ¬HandlesNameOutputs FailedOutput.platform
        (FailedOutput.started [0] FailedOutput.accepting FailedOutput.accepting) [0]
        FailedOutput.accepting FailedOutput.accepting := by
  constructor
  · intro named
    have port : (FailedOutput.started [1, 2] FailedOutput.refusing
        FailedOutput.accepting).getVideoPort .hdmi 0 = .ok 2 := rfl
    have device : (FailedOutput.started [1, 2] FailedOutput.refusing
        FailedOutput.accepting).getVideoDeviceHandle 0 = .ok 1 := rfl
    exact absurd (named.agree 0 2 1 port device) (by decide)
  · intro named
    have called := (named.first 0 rfl rfl rfl).isHDMIConnected
    have unconnected : (FailedOutput.started [0] FailedOutput.accepting
        FailedOutput.accepting).isHDMIConnected FailedOutput.platform = false := rfl
    rw [unconnected] at called
    cases called

end DeviceSettings.HdmiOutput
