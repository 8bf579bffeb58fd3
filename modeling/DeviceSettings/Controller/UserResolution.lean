import DeviceSettings.Controller.Fallback
import DeviceSettings.Std.Machine
import DeviceSettings.VideoPort.Resolution

/-!
# The user's resolution over plugging and unplugging

What `SetResolution` reads as the user's persisted resolution is the resolution in effect. A
fallback for one sink becomes what the next connect starts from, and since fallbacks only lead
down the ladder the user's resolution never comes back by itself.
-/

namespace DeviceSettings.Controller

open DeviceSettings.Std
open DeviceSettings.VideoPort

/-- What `SetResolution` reads of `DisplayEDID` and of the list of supported resolutions. -/
structure DisplayEdid (room : Nat) where
  numOfSupportedResolution : Int
  hdmiDeviceType : Bool
  supportedResolutions : List (HalName room)

/-- A sink by the answers of `GetDisplay` and `GetDisplayEdid`. On the way `filterEDIDResolution`
narrows the names to the HDMI table. Names outside the table arrive where the HAL library has no
port configuration: then no display is known for that of an HDMI port, and the table is empty. -/
structure Sink (room : Nat) where
  getDisplay : Except CoreError Int
  getDisplayEdid : Except CoreError (DisplayEdid room)

namespace Sink

variable {room : Nat}

/-- The non-empty names of the sink's EDID. -/
def edidNames (sink : Sink room) : List String :=
  match sink.getDisplayEdid with
  | .ok edidData => (edidData.supportedResolutions.map HalName.text).filter (· != "")
  | .error _ => []

/-- The display is there, and its EDID is not that of a DVI sink or of one not ready yet. -/
def ready (sink : Sink room) : Bool :=
  match sink.getDisplay, sink.getDisplayEdid with
  | .ok displayHandle, .ok edidData =>
    displayHandle != 0 && edidData.numOfSupportedResolution != 0 && edidData.hdmiDeviceType
  | _, _ => false

/-- `isResInEdid(name)`. -/
def isResInEdid (sink : Sink room) (name : String) : Bool := sink.edidNames.contains name

end Sink

/-- The HDMI output: the code's platform, the region, and what plugging does to the HAL. -/
structure HdmiPlatform (σ : Type) (room : Nat) where
  ports : ResolutionPlatform σ room
  isEUPlatform : Bool
  attach : σ → Sink room → σ
  detach : σ → σ

inductive PlugAction (room : Nat) where
  | connect (sink : Sink room)
  | disconnect

section Code

variable {σ : Type} {room : Nat} (platform : HdmiPlatform σ room)

/-- `GetVideoPortHandle(dsVIDEOPORT_TYPE_HDMI)`. -/
def HdmiPlatform.hdmiHandle : Int :=
  match platform.ports.hal.dsGetVideoPort .hdmi 0 with
  | .ok handle => int32Handle handle
  | .error _ => 0

/-- What `SetResolution` decides: by the EDID for HDMI, the resolution it has read for an
analog port. -/
def chooseResolution (sink : Sink room) (portType : DsVideoPortType) (name : String) :
    ResolutionChoice :=
  if portType = .hdmi then
    if sink.ready then selectResolution platform.isEUPlatform sink.isResInEdid name else .keep
  else if portType = .component ∨ portType = .bb ∨ portType = .rf then .set name
  else .keep

/-- `SetResolution(handle, portType)`; `none` where its behaviour is undefined. -/
def setResolution (sink : Sink room) (state : ResolutionState σ) (handle : Int)
    (portType : DsVideoPortType) : Option (ResolutionState σ) :=
  if handle = 0 then some state
  else
    match state.getVideoPortResolution platform.ports handle with
    | (.error _, state) => some state
    | (.ok presolution, state) =>
      match chooseResolution platform sink portType presolution.name with
      | .undefined => none
      | .keep => some state
      | .set name =>
        some (state.setVideoPortResolution platform.ports handle
          { presolution with name := name } false false).2

/-- A sink is plugged in and `SetResolution` runs on the HDMI handle, or it is taken away. -/
def plugStep (state : ResolutionState σ) :
    PlugAction room → Option (ResolutionState σ × List Unit)
  | .connect sink =>
    (setResolution platform sink { state with hal := platform.attach state.hal sink }
      platform.hdmiHandle .hdmi).map fun state => (state, [])
  | .disconnect => some ({ state with hal := platform.detach state.hal }, [])

def plugMachine : Machine (ResolutionState σ) (PlugAction room) Unit := ⟨plugStep platform⟩

end Code

/-- A step of the HDMI output together with the states around it. -/
abbrev PlugStep (σ : Type) (room : Nat) := Occurrence (ResolutionState σ) (PlugAction room) Unit

section Law

variable {σ : Type} {room : Nat} {platform : HdmiPlatform σ room}

/-- `dsGetResolution` returns the last resolution set on the port; a set that fails and the
plugging of sinks leave it as it is. -/
structure HdmiPlatform.ReturnsLastSet (platform : HdmiPlatform σ room)
    (inEffect : σ → Int → HalResolution room) : Prop where
  reports : ∀ hal handle,
    platform.ports.hal.dsGetResolution hal handle = .ok (inEffect hal handle)
  sets : ∀ hal handle resolution,
    (platform.ports.hal.dsSetResolution hal handle resolution).1 = .ok () →
      inEffect (platform.ports.hal.dsSetResolution hal handle resolution).2 =
        Function.update (inEffect hal) handle resolution
  refuses : ∀ hal handle resolution,
    (platform.ports.hal.dsSetResolution hal handle resolution).1 ≠ .ok () →
      inEffect (platform.ports.hal.dsSetResolution hal handle resolution).2 = inEffect hal
  attach : ∀ hal sink, inEffect (platform.attach hal sink) = inEffect hal
  detach : ∀ hal, inEffect (platform.detach hal) = inEffect hal

/-- The HAL takes a resolution on the HDMI port: the display is not reported away, 4K is not
disabled for it, and `dsSetResolution` succeeds. -/
structure Accepted (platform : HdmiPlatform σ room) (hal : σ) (request : VideoPortResolution) :
    Prop where
  connected : platform.ports.hal.dsIsDisplayConnected hal platform.hdmiHandle ≠ .ok false
  allowed : ¬(platform.ports.hal.dsGetForceDisable4KSupport hal platform.hdmiHandle = .ok true ∧
    occursIn "2160" request.name = true)
  taken : (platform.ports.hal.dsSetResolution hal platform.hdmiHandle
    (toHal room (platform.ports.resolvedResolution request))).1 = .ok ()

/-- With this resolution in effect the sink brings a fallback: there is an HDMI handle, the sink
is ready and lacks the resolution, and the HAL takes the first fallback name the sink has. -/
structure FallsBackTo (platform : HdmiPlatform σ room) (hal : σ) (sink : Sink room)
    (resolution : HalResolution room) (fallback : String) : Prop where
  handled : platform.hdmiHandle ≠ 0
  ready : sink.ready = true
  lacking : resolution.name.text ∉ sink.edidNames
  first : (fallbackNames platform.isEUPlatform resolution.name.text).find? sink.isResInEdid =
    some fallback
  accepted : Accepted platform hal { fromHal resolution with name := fallback }

end Law

section Set

variable {σ : Type} {room : Nat} {platform : HdmiPlatform σ room}
  {inEffect : σ → Int → HalResolution room}

theorem resolvePortType_hdmi (nonzero : platform.hdmiHandle ≠ 0) :
    platform.ports.resolvePortTypeByHandle platform.hdmiHandle = some .hdmi := by
  unfold HdmiPlatform.hdmiHandle at nonzero ⊢
  unfold ResolutionPlatform.resolvePortTypeByHandle ResolutionPlatform.resolvedPortTypes
  cases found : platform.ports.hal.dsGetVideoPort .hdmi 0 with
  | error error => simp [found] at nonzero
  | ok handle => simp [found]

variable (returns : platform.ReturnsLastSet inEffect)
include returns

/-- Setting the name that is in effect leaves the HAL alone. -/
theorem applyResolution_same {state : ResolutionState σ} {portType : DsVideoPortType}
    {handle : Int} {resolution : HalResolution room}
    (same : resolution.name = (inEffect state.hal handle).name) (persist force : Bool) :
    (state.applyResolution platform.ports portType handle resolution persist force).2.hal =
      state.hal := by
  unfold ResolutionState.applyResolution
  rw [returns.reports]
  simp [same]

/-- Setting another name leaves in effect what `dsSetResolution` makes of it. -/
theorem applyResolution_other {state : ResolutionState σ} {handle : Int}
    {resolution : HalResolution room}
    (other : resolution.name.text ≠ (inEffect state.hal handle).name.text)
    (portType : DsVideoPortType) (persist force : Bool) :
    (state.applyResolution platform.ports portType handle resolution persist force).2.hal =
      (platform.ports.hal.dsSetResolution state.hal handle resolution).2 ∧
    ((state.applyResolution platform.ports portType handle resolution persist force).1 =
        .ok () ↔
      (platform.ports.hal.dsSetResolution state.hal handle resolution).1 = .ok ()) := by
  unfold ResolutionState.applyResolution
  rw [returns.reports]
  simp only [if_neg other]
  split
  next called => simp [called]
  next called => simp [called]

variable {portType : DsVideoPortType}
  (resolved : platform.ports.resolvePortTypeByHandle platform.hdmiHandle = some portType)
include resolved

/-- `SetVideoPortResolution` of the name that is in effect leaves the HAL alone. -/
theorem setVideoPortResolution_same {state : ResolutionState σ} {request : VideoPortResolution}
    (same : HalName.copy room request.name = (inEffect state.hal platform.hdmiHandle).name)
    (persist force : Bool) :
    (state.setVideoPortResolution platform.ports platform.hdmiHandle request persist
      force).2.hal = state.hal := by
  unfold ResolutionState.setVideoPortResolution
  simp only [resolved]
  split_ifs
  · rfl
  · rfl
  · exact applyResolution_same returns (by simpa [toHal] using same) persist force

/-- Another name comes into effect exactly when the HAL takes it. -/
theorem setVideoPortResolution_other {state : ResolutionState σ} {request : VideoPortResolution}
    (other : (HalName.copy room request.name).text ≠
      (inEffect state.hal platform.hdmiHandle).name.text) (persist force : Bool) :
    let called := state.setVideoPortResolution platform.ports platform.hdmiHandle request
      persist force
    (Accepted platform state.hal request ∧ called.1 = .ok () ∧
        inEffect called.2.hal platform.hdmiHandle =
          toHal room (platform.ports.resolvedResolution request)) ∨
      (¬Accepted platform state.hal request ∧ called.1 ≠ .ok () ∧
        inEffect called.2.hal = inEffect state.hal) := by
  unfold ResolutionState.setVideoPortResolution
  simp only [resolved]
  split_ifs with away disabled
  · exact .inr ⟨fun accepted => accepted.connected (gave_iff.mp away), by simp, rfl⟩
  · rw [Bool.and_eq_true, gave_iff, ResolutionPlatform.resolvedResolution_name] at disabled
    exact .inr ⟨fun accepted => accepted.allowed disabled, by simp, rfl⟩
  · have otherName : (toHal room (platform.ports.resolvedResolution request)).name.text ≠
        (inEffect state.hal platform.hdmiHandle).name.text := by simpa [toHal] using other
    obtain ⟨reached, succeeds⟩ := applyResolution_other returns otherName portType persist force
    rw [reached]
    by_cases taken : (platform.ports.hal.dsSetResolution state.hal platform.hdmiHandle
        (toHal room (platform.ports.resolvedResolution request))).1 = .ok ()
    · refine .inl ⟨⟨fun answer => away (gave_iff.mpr answer), ?_, taken⟩, succeeds.mpr taken, ?_⟩
      · rw [Bool.and_eq_true, gave_iff, ResolutionPlatform.resolvedResolution_name] at disabled
        exact disabled
      · rw [returns.sets _ _ _ taken, Function.update_self]
    · exact .inr ⟨fun accepted => taken accepted.taken, mt succeeds.mp taken,
        returns.refuses _ _ _ taken⟩

omit resolved in
/-- A call that succeeds has brought the name into effect. -/
theorem name_of_set {initial start : ResolutionState σ} {request : VideoPortResolution}
    {persist force : Bool}
    (called : initial.setVideoPortResolution platform.ports platform.hdmiHandle request persist
      force = (.ok (), start)) :
    (inEffect start.hal platform.hdmiHandle).name = HalName.copy room request.name := by
  cases resolved : platform.ports.resolvePortTypeByHandle platform.hdmiHandle with
  | none => simp [ResolutionState.setVideoPortResolution, resolved] at called
  | some portType =>
      by_cases same : HalName.copy room request.name =
          (inEffect initial.hal platform.hdmiHandle).name
      · have kept := setVideoPortResolution_same returns resolved same persist force
        rw [called] at kept
        rw [kept, same]
      · have other : (HalName.copy room request.name).text ≠
            (inEffect initial.hal platform.hdmiHandle).name.text := fun texts =>
          same (HalName.ext texts)
        rcases setVideoPortResolution_other returns resolved other persist force with
          ⟨-, -, reached⟩ | ⟨-, failed, -⟩
        · rw [called] at reached
          simp [reached, toHal]
        · exact absurd (by rw [called]) failed

omit resolved in
/-- What `SetResolution` reads where the display is not reported away. -/
theorem getVideoPortResolution_inEffect (nonzero : platform.hdmiHandle ≠ 0)
    {state : ResolutionState σ}
    (connected : platform.ports.hal.dsIsDisplayConnected state.hal platform.hdmiHandle ≠
      .ok false) :
    (state.getVideoPortResolution platform.ports platform.hdmiHandle).1 =
      .ok (fromHal (inEffect state.hal platform.hdmiHandle)) := by
  unfold ResolutionState.getVideoPortResolution
  simp only [resolvePortType_hdmi nonzero, returns.reports]
  rw [if_neg (by simp), if_neg (mt gave_iff.mp connected), if_neg (fromHal_name_ne _)]

end Set

/-! ### Connecting a sink -/

theorem name_of_edid {room : Nat} {sink : Sink room} {name : String}
    (offered : name ∈ sink.edidNames) : (HalName.copy room name).text = name := by
  unfold Sink.edidNames at offered
  split at offered
  · obtain ⟨halName, -, rfl⟩ := List.mem_map.mp (List.mem_filter.mp offered).1
    rw [HalName.copy_text]
  · exact absurd offered List.not_mem_nil

theorem edidNames_ne {room : Nat} {sink : Sink room} {name : String}
    (offered : name ∈ sink.edidNames) : name ≠ "" := by
  unfold Sink.edidNames at offered
  split at offered
  · simpa using (List.mem_filter.mp offered).2
  · exact absurd offered List.not_mem_nil

theorem isResInEdid_iff {room : Nat} {sink : Sink room} {name : String} :
    sink.isResInEdid name = true ↔ name ∈ sink.edidNames := by
  simp [Sink.isResInEdid]

section Connect

variable {σ : Type} {room : Nat} {platform : HdmiPlatform σ room}
  {inEffect : σ → Int → HalResolution room}
  (returns : platform.ReturnsLastSet inEffect)

section Handled

variable (nonzero : platform.hdmiHandle ≠ 0)
include nonzero

/-- Without a display the cached name is read, and setting it or its fallback is refused. -/
theorem setResolution_away {sink : Sink room} {state after : ResolutionState σ}
    (away : platform.ports.hal.dsIsDisplayConnected state.hal platform.hdmiHandle = .ok false)
    (ran : setResolution platform sink state platform.hdmiHandle .hdmi = some after) :
    after = state := by
  have refused : ∀ request, (state.setVideoPortResolution platform.ports platform.hdmiHandle
      request false false).2 = state := fun request => by
    simp [ResolutionState.setVideoPortResolution, resolvePortType_hdmi nonzero, away]
  simp only [setResolution, if_neg nonzero, ResolutionState.getVideoPortResolution,
    resolvePortType_hdmi nonzero, gave_iff.mpr away, if_true, reduceCtorEq, or_self, if_false,
    refused] at ran
  split at ran <;> simp_all

include returns

/-- Otherwise it goes by the resolution in effect. -/
theorem setResolution_of_connected {sink : Sink room} {state : ResolutionState σ}
    (connected : platform.ports.hal.dsIsDisplayConnected state.hal platform.hdmiHandle ≠
      .ok false) :
    let current := fromHal (inEffect state.hal platform.hdmiHandle)
    let read := (state.getVideoPortResolution platform.ports platform.hdmiHandle).2
    setResolution platform sink state platform.hdmiHandle .hdmi =
      match chooseResolution platform sink .hdmi current.name with
      | .undefined => none
      | .keep => some read
      | .set name =>
        some (read.setVideoPortResolution platform.ports platform.hdmiHandle
          { current with name := name } false false).2 := by
  intro current read
  have answer : state.getVideoPortResolution platform.ports platform.hdmiHandle =
      (.ok current, read) :=
    Prod.ext (getVideoPortResolution_inEffect returns nonzero connected) rfl
  rw [setResolution, if_neg nonzero, answer]

/-- A fallback that the sink offers comes into effect exactly when the HAL takes it. -/
theorem setFallback_effect {sink : Sink room} (state : ResolutionState σ) {fallback : String}
    (offered : fallback ∈ sink.edidNames)
    (lacking : (inEffect state.hal platform.hdmiHandle).name.text ∉ sink.edidNames) :
    let request := { fromHal (inEffect state.hal platform.hdmiHandle) with name := fallback }
    let after := (state.setVideoPortResolution platform.ports platform.hdmiHandle request false
      false).2
    (Accepted platform state.hal request ∧
        (inEffect after.hal platform.hdmiHandle).name.text = fallback) ∨
      (¬Accepted platform state.hal request ∧ inEffect after.hal = inEffect state.hal) := by
  intro request after
  have other : (HalName.copy room request.name).text ≠
      (inEffect state.hal platform.hdmiHandle).name.text := by
    rw [name_of_edid offered]
    exact fun same => lacking (same ▸ offered)
  rcases setVideoPortResolution_other returns (resolvePortType_hdmi nonzero) other false
      false with
    ⟨accepted, -, reached⟩ | ⟨refused, -, kept⟩
  · refine .inl ⟨accepted, ?_⟩
    rw [reached]
    simp [toHal, request, name_of_edid offered]
  · exact .inr ⟨refused, kept⟩

end Handled

include returns

/-- `SetResolution` brings the fallback if there is one, and leaves the HAL's resolutions as
they are if not. -/
theorem setResolution_effect {sink : Sink room} {state after : ResolutionState σ}
    (named : (inEffect state.hal platform.hdmiHandle).name.text ≠ "")
    (ran : setResolution platform sink state platform.hdmiHandle .hdmi = some after) :
    let current := inEffect state.hal platform.hdmiHandle
    (∃ fallback, FallsBackTo platform state.hal sink current fallback ∧
        (inEffect after.hal platform.hdmiHandle).name.text = fallback) ∨
      ((∀ fallback, ¬FallsBackTo platform state.hal sink current fallback) ∧
        inEffect after.hal = inEffect state.hal) := by
  intro current
  by_cases nonzero : platform.hdmiHandle = 0
  · right
    refine ⟨fun fallback falls => falls.handled nonzero, ?_⟩
    rw [setResolution, if_pos nonzero] at ran
    rw [Option.some.inj ran]
  by_cases away : platform.ports.hal.dsIsDisplayConnected state.hal platform.hdmiHandle =
      .ok false
  · right
    refine ⟨fun fallback falls => falls.accepted.connected away, ?_⟩
    rw [setResolution_away nonzero away ran]
  have currentName : (fromHal current).name = current.name.text := if_neg named
  have readHal : (state.getVideoPortResolution platform.ports platform.hdmiHandle).2.hal =
      state.hal := ResolutionState.getVideoPortResolution_hal state platform.hdmiHandle
  rw [setResolution_of_connected returns nonzero away, currentName, chooseResolution,
    if_pos rfl] at ran
  by_cases ready : sink.ready = true
  · rw [if_pos ready] at ran
    by_cases offered : current.name.text ∈ sink.edidNames
    · -- the name in effect is set once more
      rw [selectResolution, if_pos (isResInEdid_iff.mpr offered)] at ran
      cases ran
      refine .inr ⟨fun fallback falls => falls.lacking offered, ?_⟩
      rw [setVideoPortResolution_same returns (resolvePortType_hdmi nonzero)
        (by rw [readHal, HalName.copy_text]), readHal]
    · have absent := Bool.eq_false_iff.mpr (mt isResInEdid_iff.mp offered)
      rw [selectResolution_fallback _ absent] at ran
      cases found : (fallbackNames platform.isEUPlatform current.name.text).find?
          sink.isResInEdid with
      | none =>
          refine .inr ⟨fun fallback falls => ?_, ?_⟩
          · exact absurd (falls.first.symm.trans found) (Option.some_ne_none fallback)
          · rw [found] at ran
            dsimp only at ran
            split_ifs at ran
            cases ran
            rw [readHal]
      | some fallback =>
          rw [found] at ran
          cases ran
          have tried := setFallback_effect returns nonzero
            (state.getVideoPortResolution platform.ports platform.hdmiHandle).2
            (isResInEdid_iff.mp (List.find?_some found)) (by rwa [readHal])
          rw [readHal] at tried
          rcases tried with ⟨accepted, reached⟩ | ⟨refused, kept⟩
          · exact .inl ⟨fallback, ⟨nonzero, ready, offered, found, accepted⟩, reached⟩
          · refine .inr ⟨fun other falls => refused ?_, kept⟩
            cases Option.some.inj (falls.first.symm.trans found)
            exact falls.accepted
  · rw [if_neg ready] at ran
    cases ran
    exact .inr ⟨fun fallback falls => ready falls.ready, by rw [readHal]⟩

/-- The same for the step of the machine. -/
theorem connect_effect {sink : Sink room} {before after : ResolutionState σ}
    {effects : List Unit}
    (named : (inEffect before.hal platform.hdmiHandle).name.text ≠ "")
    (taken : (plugMachine platform).step before (.connect sink) = some (after, effects)) :
    let current := inEffect before.hal platform.hdmiHandle
    (∃ fallback, FallsBackTo platform (platform.attach before.hal sink) sink current fallback ∧
        (inEffect after.hal platform.hdmiHandle).name.text = fallback) ∨
      ((∀ fallback,
          ¬FallsBackTo platform (platform.attach before.hal sink) sink current fallback) ∧
        inEffect after.hal = inEffect before.hal) := by
  obtain ⟨reached, ran, same⟩ := Option.map_eq_some_iff.mp taken
  cases (Prod.mk.inj same).1
  have brought := setResolution_effect returns (by rwa [returns.attach]) ran
  simp only [returns.attach] at brought
  exact brought

theorem disconnect_effect {before after : ResolutionState σ} {effects : List Unit}
    (taken : (plugMachine platform).step before .disconnect = some (after, effects)) :
    inEffect after.hal = inEffect before.hal := by
  have same : { before with hal := platform.detach before.hal } = after :=
    (Prod.ext_iff.mp (Option.some.inj taken)).1
  rw [← same]
  exact returns.detach before.hal

end Connect

/-! ### Runs -/

section Runs

variable {σ : Type} {room : Nat} {platform : HdmiPlatform σ room}

/-- The step connects a sink that brings a fallback while this resolution is in effect. -/
def Displaces (platform : HdmiPlatform σ room) (resolution : HalResolution room)
    (occurrence : PlugStep σ room) : Prop :=
  ∃ sink fallback, occurrence.action = .connect sink ∧
    FallsBackTo platform (platform.attach occurrence.before.hal sink) sink resolution fallback

/-- What the trace has made of the user's resolution: it is in effect as long as no step
displaces it, and below it on the ladder ever after. -/
inductive Standing (platform : HdmiPlatform σ room) (resolution current : HalResolution room)
    (trace : List (PlugStep σ room)) : Prop where
  | kept (same : current = resolution)
      (undisturbed : ∀ occurrence ∈ trace, ¬Displaces platform resolution occurrence)
  | lost (named : current.name.text ≠ "")
      (below : Below platform.isEUPlatform resolution.name.text current.name.text)
      (displaced : ∃ occurrence ∈ trace, Displaces platform resolution occurrence)

/-- A step that leaves the resolution in effect as it was. -/
theorem Standing.quiet {resolution current : HalResolution room}
    {trace : List (PlugStep σ room)} {occurrence : PlugStep σ room}
    (standing : Standing platform resolution current trace)
    (undisturbed : current = resolution → ¬Displaces platform resolution occurrence) :
    Standing platform resolution current (trace ++ [occurrence]) := by
  cases standing with
  | kept same before =>
      refine .kept same fun step member => ?_
      rcases List.mem_append.mp member with earlier | last
      · exact before step earlier
      · cases List.mem_singleton.mp last
        exact undisturbed same
  | lost named below displaced =>
      obtain ⟨step, member, displaces⟩ := displaced
      exact .lost named below ⟨step, List.mem_append_left _ member, displaces⟩

theorem FallsBackTo.mem {hal : σ} {sink : Sink room} {resolution : HalResolution room}
    {fallback : String} (falls : FallsBackTo platform hal sink resolution fallback) :
    fallback ∈ fallbackNames platform.isEUPlatform resolution.name.text :=
  List.mem_of_find?_eq_some falls.first

theorem FallsBackTo.offered {hal : σ} {sink : Sink room} {resolution : HalResolution room}
    {fallback : String} (falls : FallsBackTo platform hal sink resolution fallback) :
    fallback ∈ sink.edidNames :=
  isResInEdid_iff.mp (List.find?_some falls.first)

/-- A step that brings a fallback leads below the user's resolution. -/
theorem Standing.fallback {resolution next : HalResolution room}
    {trace : List (PlugStep σ room)} {occurrence : PlugStep σ room} {sink : Sink room}
    {fallback : String} {current : HalResolution room}
    (standing : Standing platform resolution current trace)
    (connects : occurrence.action = .connect sink)
    (falls : FallsBackTo platform (platform.attach occurrence.before.hal sink) sink current
      fallback)
    (reached : next.name.text = fallback) :
    Standing platform resolution next (trace ++ [occurrence]) := by
  cases reached
  have named := edidNames_ne falls.offered
  cases standing with
  | kept same _ =>
      cases same
      refine .lost named (below_of_fallback falls.mem ?_)
        ⟨occurrence, List.mem_append_right _ List.mem_cons_self, sink, _, connects, falls⟩
      exact fun same => falls.lacking (same ▸ falls.offered)
  | lost _ below displaced =>
      obtain ⟨step, member, displaces⟩ := displaced
      exact .lost named (below.trans_fallback falls.mem)
        ⟨step, List.mem_append_left _ member, displaces⟩

variable {inEffect : σ → Int → HalResolution room} (returns : platform.ReturnsLastSet inEffect)
include returns

/-- Over every run from a state in which the user's resolution is in effect. -/
theorem standing_run {start state : ResolutionState σ} {trace : List (PlugStep σ room)}
    (named : (inEffect start.hal platform.hdmiHandle).name.text ≠ "")
    (run : (plugMachine platform).Run start trace state) :
    Standing platform (inEffect start.hal platform.hdmiHandle)
      (inEffect state.hal platform.hdmiHandle) trace := by
  induction run with
  | nil => exact .kept rfl fun _ member => absurd member List.not_mem_nil
  | @snoc trace before action after effects _ taken standing =>
      have namedBefore : (inEffect before.hal platform.hdmiHandle).name.text ≠ "" := by
        cases standing with
        | kept same _ => rwa [same]
        | lost named _ _ => exact named
      cases action with
      | disconnect =>
          rw [disconnect_effect returns taken]
          exact standing.quiet fun _ ⟨_, _, connects, _⟩ => by cases connects
      | connect sink =>
          rcases connect_effect returns namedBefore taken with
            ⟨fallback, falls, reached⟩ | ⟨none, same⟩
          · exact standing.fallback rfl falls reached
          · rw [same]
            refine standing.quiet fun current => ?_
            rintro ⟨sink, fallback, connects, falls⟩
            cases connects
            exact none fallback (current ▸ falls)

/-- In every run behind a call that has set and persisted a resolution, each connect to a sink
whose EDID has its name finds or brings the resolution into effect, exactly when no step before
such a connect displaces it. -/
theorem userResolution_survives_iff {initial start state : ResolutionState σ}
    {resolution : VideoPortResolution} {force : Bool}
    (persisted : initial.setVideoPortResolution platform.ports platform.hdmiHandle resolution
      true force = (.ok (), start))
    {trace : List (PlugStep σ room)} (run : (plugMachine platform).Run start trace state) :
    (∀ earlier occurrence later sink, trace = earlier ++ occurrence :: later →
        occurrence.action = .connect sink → resolution.name ∈ sink.edidNames →
        inEffect occurrence.after.hal platform.hdmiHandle =
            inEffect start.hal platform.hdmiHandle ∧
          (inEffect occurrence.after.hal platform.hdmiHandle).name.text = resolution.name) ↔
      ∀ earlier occurrence later sink, trace = earlier ++ occurrence :: later →
        occurrence.action = .connect sink → resolution.name ∈ sink.edidNames →
        ∀ step ∈ earlier,
          ¬Displaces platform (inEffect start.hal platform.hdmiHandle) step := by
  have onStart : ∀ {sink : Sink room}, resolution.name ∈ sink.edidNames →
      (inEffect start.hal platform.hdmiHandle).name.text = resolution.name :=
    fun offered => by rw [name_of_set returns persisted, name_of_edid offered]
  have standing : ∀ {earlier later : List (PlugStep σ room)} {occurrence} {sink : Sink room},
      trace = earlier ++ occurrence :: later → resolution.name ∈ sink.edidNames →
        Standing platform (inEffect start.hal platform.hdmiHandle)
          (inEffect occurrence.after.hal platform.hdmiHandle) (earlier ++ [occurrence]) := by
    rintro earlier later occurrence sink rfl offered
    obtain ⟨prior, taken⟩ := run.at_occurrence
    exact standing_run returns (by rw [onStart offered]; exact edidNames_ne offered)
      (prior.snoc taken)
  constructor
  · intro survives earlier occurrence later sink split connects offered step member displaces
    cases standing split offered with
    | kept _ undisturbed => exact undisturbed step (List.mem_append_left _ member) displaces
    | lost _ below _ =>
        apply below.ne
        rw [(survives earlier occurrence later sink split connects offered).1]
  · intro undisturbed earlier occurrence later sink split connects offered
    cases standing split offered with
    | kept same _ => exact ⟨same, by rw [same, onStart offered]⟩
    | lost _ _ displaced =>
        obtain ⟨step, member, displaces⟩ := displaced
        rcases List.mem_append.mp member with before | last
        · exact absurd displaces
            (undisturbed earlier occurrence later sink split connects offered step before)
        · -- the connect itself cannot displace a resolution that its sink offers
          cases List.mem_singleton.mp last
          obtain ⟨other, fallback, connectsOther, falls⟩ := displaces
          cases connects.symm.trans connectsOther
          exact absurd (onStart offered ▸ offered) falls.lacking

end Runs

/-! ### A HAL that remembers the resolutions -/

/-- The resolutions set on the ports. -/
abbrev ResolutionMemory := Int → HalResolution 31

namespace ResolutionMemory

/-- One HDMI port; every call on it succeeds. -/
def hal : ResolutionHal ResolutionMemory 31 where
  dsGetVideoPort type _ := if type = .hdmi then .ok 1 else .error .operationNotSupported
  dsIsDisplayConnected _ _ := .ok true
  dsGetForceDisable4KSupport _ _ := .ok false
  dsGetResolution memory handle := .ok (memory handle)
  dsSetResolution memory handle resolution := (.ok (), Function.update memory handle resolution)

/-- A set-top box for the American market. Its HAL library has no port configuration, so both tables
are empty and every name of an EDID arrives. -/
def platform : HdmiPlatform ResolutionMemory 31 where
  ports := ⟨hal, [], [], false, false⟩
  isEUPlatform := false
  attach memory _ := memory
  detach := id

theorem returnsLastSet : platform.ReturnsLastSet fun memory => memory where
  reports _ _ := rfl
  sets _ _ _ _ := rfl
  refuses _ _ _ failed := absurd rfl failed
  attach _ _ := rfl
  detach _ := rfl

/-- A television with these resolutions. -/
def television (names : List String) : Sink 31 where
  getDisplay := .ok 1
  getDisplayEdid := .ok ⟨names.length, true, names.map (HalName.copy 31)⟩

/-- Everything at 720p, and nothing persisted. -/
def initial : ResolutionState ResolutionMemory where
  hal _ := toHal 31 (buildResolutionFromName "720p")
  dsHDMIResolution := ""
  dsCompResolution := ""
  dsBBResolution := ""
  dsRFResolution := ""
  store := .ofStoreFile "/opt/persistent/ds/hostData"
  files _ := .absent

/-- The user chooses 2160p60. -/
def chosen : ResolutionState ResolutionMemory :=
  (initial.setVideoPortResolution platform.ports platform.hdmiHandle
    (buildResolutionFromName "2160p60") true false).2

/-- A television without 2160p60 is replaced by one that has it. -/
def exchange : List (PlugAction 31) :=
  [.connect (television ["1080p60"]), .disconnect,
    .connect (television ["2160p60", "1080p60"])]

end ResolutionMemory

/-- The new television keeps the fallback for the old one. -/
theorem run_exchange :
    ∃ (trace : List (PlugStep ResolutionMemory 31)) (final : ResolutionState ResolutionMemory),
      (plugMachine ResolutionMemory.platform).Run ResolutionMemory.chosen trace final ∧
      Machine.actionsOf trace = ResolutionMemory.exchange ∧
      (final.hal ResolutionMemory.platform.hdmiHandle).name.text = "1080p60" := by
  have reached : ((plugMachine ResolutionMemory.platform).play ResolutionMemory.chosen
      ResolutionMemory.exchange).map (fun result =>
        (result.1.hal ResolutionMemory.platform.hdmiHandle).name.text) = some "1080p60" := by
    decide +kernel
  obtain ⟨⟨final, trace⟩, played, name⟩ := Option.map_eq_some_iff.mp reached
  exact ⟨trace, final, Machine.play_run played, Machine.actionsOf_played played, name⟩

theorem persisted_chosen :
    ResolutionMemory.initial.setVideoPortResolution ResolutionMemory.platform.ports
      ResolutionMemory.platform.hdmiHandle (buildResolutionFromName "2160p60") true false =
        (.ok (), ResolutionMemory.chosen) :=
  Prod.ext rfl rfl

theorem userResolution_survives_iff_exchange :
    ∃ trace : List (PlugStep ResolutionMemory 31),
      Machine.actionsOf trace = ResolutionMemory.exchange ∧
      ((∀ earlier occurrence later sink, trace = earlier ++ occurrence :: later →
          occurrence.action = .connect sink → "2160p60" ∈ sink.edidNames →
          occurrence.after.hal ResolutionMemory.platform.hdmiHandle =
              ResolutionMemory.chosen.hal ResolutionMemory.platform.hdmiHandle ∧
            (occurrence.after.hal ResolutionMemory.platform.hdmiHandle).name.text = "2160p60") ↔
        ∀ earlier occurrence later sink, trace = earlier ++ occurrence :: later →
          occurrence.action = .connect sink → "2160p60" ∈ sink.edidNames →
          ∀ step ∈ earlier, ¬Displaces ResolutionMemory.platform
            (ResolutionMemory.chosen.hal ResolutionMemory.platform.hdmiHandle) step) := by
  obtain ⟨trace, final, run, actions, -⟩ := run_exchange
  exact ⟨trace, actions,
    userResolution_survives_iff ResolutionMemory.returnsLastSet persisted_chosen run⟩

/-- 2160p60 is the user's choice and the new television has it, but 1080p60 stays in effect. -/
theorem not_userResolution_survives :
    ¬∀ (start state : ResolutionState ResolutionMemory)
      (trace : List (PlugStep ResolutionMemory 31)),
      ResolutionMemory.initial.setVideoPortResolution ResolutionMemory.platform.ports
        ResolutionMemory.platform.hdmiHandle (buildResolutionFromName "2160p60") true false =
          (.ok (), start) →
      (plugMachine ResolutionMemory.platform).Run start trace state →
      ∀ earlier occurrence later sink, trace = earlier ++ occurrence :: later →
        occurrence.action = .connect sink → "2160p60" ∈ sink.edidNames →
        (occurrence.after.hal ResolutionMemory.platform.hdmiHandle).name.text = "2160p60" := by
  intro survives
  obtain ⟨trace, final, run, actions, name⟩ := run_exchange
  have holds := survives _ final trace persisted_chosen run
  cases run with
  | nil => cases actions
  | @snoc earlier before action after effects prior taken =>
      rw [Machine.actionsOf_append, Machine.actionsOf_singleton] at actions
      have connects : action = .connect (ResolutionMemory.television ["2160p60", "1080p60"]) :=
        List.singleton_inj.mp (List.append_inj'
          (show Machine.actionsOf earlier ++ [action] = [_, _] ++ [_] from actions) rfl).2
      have same := holds earlier _ [] _ rfl connects (by decide)
      rw [name] at same
      exact absurd same (by decide)

end DeviceSettings.Controller
