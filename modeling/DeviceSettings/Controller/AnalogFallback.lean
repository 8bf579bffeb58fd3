import DeviceSettings.Controller.UserResolution
import DeviceSettings.HdmiOutput.Handles

/-!
# The analog ports without an HDMI sink

When the sink is gone `DSController` looks for a component or composite port. The port types of the
plugin interface begin with RF, but `convertVideoPortType` has no case for RF and for baseband, so
the legacy port answers with the handle of the HDMI port.
-/

namespace DeviceSettings.Controller

open DeviceSettings.Std
open DeviceSettings.VideoPort
open DeviceSettings.HdmiOutput (vpType)

/-- What the steps show: the answer of `isComponentPortPresent`, and calls of `SetResolution`. -/
inductive AnalogEffect where
  | componentPortPresent (present : Bool)
  | setResolution (handle : Int) (portType : DsVideoPortType)
  deriving DecidableEq, Repr

/-- What the resolution thread and the timer look at. -/
structure AnalogState (σ : Type) where
  resolution : ResolutionState σ
  tuneReady : Bool
  hdcpAuthenticated : Bool
  /-- The timer of the last DISCONNECTED event, if it is known. -/
  hotplugEventSrc : Option Nat
  nextSource : Nat

/-- The sink is what `SetResolution` finds when it asks for the display. -/
inductive AnalogAction (σ : Type) (room : Nat) where
  | setVideoPortResolution (sink : Sink room)
  | setResolutionHandler (sink : Sink room)
  | disconnected
  | halChanges (hal : σ)

section Code

variable {σ : Type} {room : Nat} (platform : HdmiPlatform σ room)

/-- `GetVideoPortHandle(port)` over `dVideoPortImpl::GetVideoPort`. -/
def HdmiPlatform.getVideoPortHandle (port : DsVideoPortType) : Int :=
  match platform.ports.hal.dsGetVideoPort (convertVideoPortType (vpType port)) 0 with
  | .ok dsHandle => int32Handle dsHandle
  | .error _ => 0

/-- `IsHDMIConnected()`. -/
def HdmiPlatform.isHDMIConnected (hal : σ) : Bool :=
  let handle := platform.getVideoPortHandle .hdmi
  if handle ≠ 0 then
    match platform.ports.hal.dsIsDisplayConnected hal handle with
    | .ok connected => connected
    | .error _ => false
  else false

/-- The `SetResolution(handle, portType)` that `SetVideoPortResolution` comes to. -/
def HdmiPlatform.resolutionCall (hal : σ) : Option (Int × DsVideoPortType) :=
  let hdmiHandle := platform.getVideoPortHandle .hdmi
  if hdmiHandle ≠ 0 then
    if platform.isHDMIConnected hal then some (hdmiHandle, .hdmi)
    else
      let compHandle := platform.getVideoPortHandle .component
      if 0 ≠ compHandle then some (compHandle, .component)
      else
        let compositeHandle := platform.getVideoPortHandle .bb
        if 0 ≠ compositeHandle then some (compositeHandle, .bb)
        else
          let rfHandle := platform.getVideoPortHandle .rf
          if 0 ≠ rfHandle then some (rfHandle, .rf) else none
  else none

/-- `isComponentPortPresent()`. -/
def HdmiPlatform.isComponentPortPresent : Bool :=
  let compHandle := platform.getVideoPortHandle .component
  let present := compHandle != 0
  if !present then
    let compositeHandle := platform.getVideoPortHandle .bb
    compositeHandle != 0
  else present

/-- `SetVideoPortResolution()`; `none` where the behaviour of `SetResolution` is undefined. -/
def AnalogState.setVideoPortResolution (state : AnalogState σ) (sink : Sink room) :
    Option (AnalogState σ × List AnalogEffect) :=
  match platform.resolutionCall state.resolution.hal with
  | none => some (state, [])
  | some (handle, portType) =>
    (Controller.setResolution platform sink state.resolution handle portType).map fun resolution =>
      ({ state with resolution := resolution }, [.setResolution handle portType])

/-- The resolution thread with a DISCONNECTED event. -/
def AnalogState.disconnected (state : AnalogState σ) : AnalogState σ × List AnalogEffect :=
  let state := { state with hotplugEventSrc := none }
  if state.tuneReady then
    let state := { state with hdcpAuthenticated := false }
    let present := platform.isComponentPortPresent
    if present then
      ({ state with hotplugEventSrc := some state.nextSource, nextSource := state.nextSource + 1 },
        [.componentPortPresent present])
    else (state, [.componentPortPresent present])
  else (state, [])

/-- A timer can fire in every state: its id may have been lost. The HAL can change by itself, such
as when a sink is plugged in. -/
def analogMachine : Machine (AnalogState σ) (AnalogAction σ room) AnalogEffect where
  step state
    | .setVideoPortResolution sink => state.setVideoPortResolution platform sink
    | .setResolutionHandler sink =>
      (state.setVideoPortResolution platform sink).map fun result =>
        ({ result.1 with hotplugEventSrc := none }, result.2)
    | .disconnected => some (state.disconnected platform)
    | .halChanges hal =>
      some ({ state with resolution := { state.resolution with hal := hal } }, [])

abbrev AnalogStep (σ : Type) (room : Nat) :=
  Occurrence (AnalogState σ) (AnalogAction σ room) AnalogEffect

/-- The HAL has a port of this type. -/
def HdmiPlatform.HasPort (portType : DsVideoPortType) : Prop :=
  ∃ handle, platform.ports.hal.dsGetVideoPort portType 0 = .ok handle

/-- A present component port is there, and an analog resolution goes to the handle of its port. -/
def AnalogEffect.Right : AnalogEffect → Prop
  | .componentPortPresent present =>
    present = true → platform.HasPort .component ∨ platform.HasPort .bb
  | .setResolution handle portType =>
    portType ≠ .hdmi →
      (∃ dsHandle, platform.ports.hal.dsGetVideoPort portType 0 = .ok dsHandle ∧
        int32Handle dsHandle = handle) ∧ handle ≠ platform.getVideoPortHandle .hdmi

/-- There is an HDMI port whose sink is not there. -/
def HdmiPlatform.Unplugged (hal : σ) : Prop :=
  platform.getVideoPortHandle .hdmi ≠ 0 ∧ platform.isHDMIConnected hal = false

/-- Where the analog ports are looked at, baseband and RF are not reached: an unplugged HDMI port
comes with a component port of another handle, and a DISCONNECTED event finds one of the ports or
no HDMI port. -/
def HdmiPlatform.HasAnalog (occurrence : AnalogStep σ room) : Prop :=
  match occurrence.action with
  | .setVideoPortResolution _ | .setResolutionHandler _ =>
    platform.Unplugged occurrence.before.resolution.hal →
      platform.getVideoPortHandle .component ≠ 0 ∧
        platform.getVideoPortHandle .component ≠ platform.getVideoPortHandle .hdmi
  | .disconnected =>
    occurrence.before.tuneReady = true →
      platform.HasPort .component ∨ platform.HasPort .bb ∨ platform.getVideoPortHandle .hdmi = 0
  | .halChanges _ => True

end Code

section Law

variable {σ : Type} {room : Nat} {platform : HdmiPlatform σ room}

/-- A non-zero handle is that of a port of the HAL. -/
theorem gives_of_getVideoPortHandle {port : DsVideoPortType}
    (nonzero : platform.getVideoPortHandle port ≠ 0) :
    ∃ dsHandle, platform.ports.hal.dsGetVideoPort (convertVideoPortType (vpType port)) 0 =
        .ok dsHandle ∧ int32Handle dsHandle = platform.getVideoPortHandle port := by
  unfold HdmiPlatform.getVideoPortHandle at nonzero ⊢
  cases found : platform.ports.hal.dsGetVideoPort (convertVideoPortType (vpType port)) 0 with
  | ok dsHandle => exact ⟨dsHandle, rfl, rfl⟩
  | error error => simp [found] at nonzero

/-- Baseband and RF are taken for HDMI. -/
theorem getVideoPortHandle_bb :
    platform.getVideoPortHandle .bb = platform.getVideoPortHandle .hdmi := rfl

theorem isComponentPortPresent_iff :
    platform.isComponentPortPresent = true ↔
      platform.getVideoPortHandle .component ≠ 0 ∨ platform.getVideoPortHandle .hdmi ≠ 0 := by
  simp only [HdmiPlatform.isComponentPortPresent, getVideoPortHandle_bb]
  by_cases component : platform.getVideoPortHandle .component = 0 <;> simp [component]

/-- With an HDMI port RF is never come to. -/
theorem resolutionCall_eq (hal : σ) :
    platform.resolutionCall hal =
      if platform.getVideoPortHandle .hdmi = 0 then none
      else if platform.isHDMIConnected hal = true then
        some (platform.getVideoPortHandle .hdmi, .hdmi)
      else if platform.getVideoPortHandle .component ≠ 0 then
        some (platform.getVideoPortHandle .component, .component)
      else some (platform.getVideoPortHandle .hdmi, .bb) := by
  simp only [HdmiPlatform.resolutionCall, getVideoPortHandle_bb]
  split_ifs <;> simp_all

/-- The call is right exactly when an unplugged HDMI port comes with a component port. -/
theorem right_of_resolutionCall_iff (hal : σ) :
    (∀ handle portType, platform.resolutionCall hal = some (handle, portType) →
        AnalogEffect.Right platform (.setResolution handle portType)) ↔
      (platform.Unplugged hal → platform.getVideoPortHandle .component ≠ 0 ∧
        platform.getVideoPortHandle .component ≠ platform.getVideoPortHandle .hdmi) := by
  rw [resolutionCall_eq]
  split_ifs with absent connected component
  · exact iff_of_true (by simp) fun unplugged => absurd absent unplugged.1
  · refine iff_of_true (fun handle portType call => ?_) fun unplugged => ?_
    · obtain ⟨-, rfl⟩ := Prod.mk.inj (Option.some.inj call)
      exact fun other => absurd rfl other
    · exact absurd (connected.symm.trans unplugged.2) (by decide)
  · constructor
    · intro right _
      exact ⟨component, (right _ _ rfl (by decide)).2⟩
    · intro analog handle portType call _
      obtain ⟨rfl, rfl⟩ := Prod.mk.inj (Option.some.inj call)
      have unplugged : platform.Unplugged hal := ⟨absent, by simpa using connected⟩
      exact ⟨gives_of_getVideoPortHandle component, (analog unplugged).2⟩
  · constructor
    · intro right _
      exact absurd rfl (right _ _ rfl (by decide)).2
    · intro analog
      have unplugged : platform.Unplugged hal := ⟨absent, by simpa using connected⟩
      exact absurd (analog unplugged).1 component

/-- The effects of `SetVideoPortResolution` are the call it comes to. -/
theorem effects_of_setVideoPortResolution {sink : Sink room} {before after : AnalogState σ}
    {effects : List AnalogEffect}
    (taken : before.setVideoPortResolution platform sink = some (after, effects)) :
    effects = (platform.resolutionCall before.resolution.hal).toList.map
      fun call => .setResolution call.1 call.2 := by
  unfold AnalogState.setVideoPortResolution at taken
  cases called : platform.resolutionCall before.resolution.hal with
  | none =>
    simp only [called, Option.some.injEq, Prod.mk.injEq] at taken
    simp [taken.2.symm]
  | some call =>
    simp only [called, Option.map_eq_some_iff, Prod.mk.injEq] at taken
    obtain ⟨resolution, -, -, shown⟩ := taken
    simp [shown.symm]

theorem right_of_setVideoPortResolution_iff {sink : Sink room} {before after : AnalogState σ}
    {effects : List AnalogEffect}
    (taken : before.setVideoPortResolution platform sink = some (after, effects)) :
    (∀ effect ∈ effects, effect.Right platform) ↔
      (platform.Unplugged before.resolution.hal → platform.getVideoPortHandle .component ≠ 0 ∧
        platform.getVideoPortHandle .component ≠ platform.getVideoPortHandle .hdmi) := by
  rw [effects_of_setVideoPortResolution taken, ← right_of_resolutionCall_iff]
  constructor
  · intro right handle portType call
    exact right _ (List.mem_map.mpr ⟨(handle, portType), Option.mem_toList.mpr call, rfl⟩)
  · intro right effect shown
    obtain ⟨⟨handle, portType⟩, call, rfl⟩ := List.mem_map.mp shown
    exact right handle portType (Option.mem_toList.mp call)

/-- A component port found is there exactly when the search did not end at HDMI. -/
theorem right_of_componentPortPresent_iff :
    AnalogEffect.Right platform (.componentPortPresent platform.isComponentPortPresent) ↔
      platform.HasPort .component ∨ platform.HasPort .bb ∨
        platform.getVideoPortHandle .hdmi = 0 := by
  simp only [AnalogEffect.Right, isComponentPortPresent_iff]
  constructor
  · intro right
    by_cases absent : platform.getVideoPortHandle .hdmi = 0
    · exact .inr (.inr absent)
    · exact (right (.inr absent)).imp_right .inl
  · rintro (component | bb | absent) found
    · exact .inl component
    · exact .inr bb
    · have component := found.resolve_right (not_not_intro absent)
      obtain ⟨dsHandle, given, -⟩ := gives_of_getVideoPortHandle component
      exact .inl ⟨dsHandle, given⟩

/-- A step does right exactly when it does not come to baseband. -/
theorem analog_right_iff {before after : AnalogState σ} {action : AnalogAction σ room}
    {effects : List AnalogEffect}
    (taken : (analogMachine platform).step before action = some (after, effects)) :
    (∀ effect ∈ effects, effect.Right platform) ↔
      platform.HasAnalog ⟨before, action, effects, after⟩ := by
  cases action with
  | setVideoPortResolution sink => exact right_of_setVideoPortResolution_iff taken
  | setResolutionHandler sink =>
    obtain ⟨result, set, stepped⟩ := Option.map_eq_some_iff.mp taken
    obtain ⟨-, rfl⟩ := Prod.mk.inj stepped
    exact right_of_setVideoPortResolution_iff set
  | disconnected =>
    rw [show effects = (before.disconnected platform).2 from
      (congrArg Prod.snd (Option.some.inj taken)).symm]
    simp only [AnalogState.disconnected, HdmiPlatform.HasAnalog]
    cases before.tuneReady with
    | false => simp
    | true =>
      simp only [if_true, true_imp_iff]
      rw [← right_of_componentPortPresent_iff]
      split_ifs <;> simp
  | halChanges hal =>
    rw [show effects = [] from (congrArg Prod.snd (Option.some.inj taken)).symm]
    simp [HdmiPlatform.HasAnalog]

/-- In every run `isComponentPortPresent` is right and analog resolutions go to their own ports,
exactly when no step comes to baseband. -/
theorem analogFallback_iff (platform : HdmiPlatform σ room) (start state : AnalogState σ)
    (trace : List (AnalogStep σ room))
    (run : (analogMachine platform).Run start trace state) :
    (∀ effect ∈ Machine.effectsOf trace, effect.Right platform) ↔
      ∀ occurrence ∈ trace, platform.HasAnalog occurrence := by
  constructor
  · intro right occurrence member
    refine (analog_right_iff (run.step_of_mem member)).mp fun effect shown => ?_
    exact right effect (List.mem_flatMap.mpr ⟨occurrence, member, shown⟩)
  · intro analog effect shown
    obtain ⟨occurrence, member, shown⟩ := List.mem_flatMap.mp shown
    exact (analog_right_iff (run.step_of_mem member)).mpr (analog occurrence member) effect shown

end Law

/-- The HDMI port of `ResolutionMemory` without a sink. -/
def ResolutionMemory.unplugged : HdmiPlatform ResolutionMemory 31 :=
  { ResolutionMemory.platform with
    ports := { ResolutionMemory.platform.ports with
      hal := { ResolutionMemory.hal with dsIsDisplayConnected := fun _ _ => .ok false } } }

/-- After start-up, with the channel tuned. -/
def ResolutionMemory.tuned : AnalogState ResolutionMemory where
  resolution := ResolutionMemory.initial
  tuneReady := true
  hdcpAuthenticated := false
  hotplugEventSrc := none
  nextSource := 1

/-- The same with a component port. -/
def ResolutionMemory.withComponent : HdmiPlatform ResolutionMemory 31 :=
  { ResolutionMemory.unplugged with
    ports := { ResolutionMemory.unplugged.ports with
      hal := { ResolutionMemory.unplugged.ports.hal with
        dsGetVideoPort := fun type _ =>
          if type = .hdmi then .ok 1 else if type = .component then .ok 2
          else .error .operationNotSupported } } }

/-- A sink is gone, both the thread and the timer set a resolution, and then it happens again. -/
def ResolutionMemory.unplugging : List (AnalogAction ResolutionMemory 31) :=
  [.disconnected, .setVideoPortResolution (ResolutionMemory.television ["720p"]),
    .setResolutionHandler (ResolutionMemory.television ["720p"]), .disconnected]

theorem analogFallback_iff_component :
    ∃ (state : AnalogState ResolutionMemory) (trace : List (AnalogStep ResolutionMemory 31)),
      (analogMachine ResolutionMemory.withComponent).play ResolutionMemory.tuned
          ResolutionMemory.unplugging = some (state, trace) ∧
        Machine.actionsOf trace = ResolutionMemory.unplugging ∧
        Machine.effectsOf trace = [.componentPortPresent true, .setResolution 2 .component,
          .setResolution 2 .component, .componentPortPresent true] ∧
        ((∀ effect ∈ Machine.effectsOf trace, effect.Right ResolutionMemory.withComponent) ↔
          ∀ occurrence ∈ trace, ResolutionMemory.withComponent.HasAnalog occurrence) ∧
        ∀ effect ∈ Machine.effectsOf trace, effect.Right ResolutionMemory.withComponent := by
  have played : (analogMachine ResolutionMemory.withComponent).play ResolutionMemory.tuned
      ResolutionMemory.unplugging = some (_, [_, _, _, _]) := rfl
  have exact_ := analogFallback_iff ResolutionMemory.withComponent _ _ _
    (Machine.play_run played)
  have component : ResolutionMemory.withComponent.HasPort .component := ⟨2, rfl⟩
  refine ⟨_, _, played, Machine.actionsOf_played played, rfl, exact_, exact_.mpr ?_⟩
  simp only [List.forall_mem_cons, List.not_mem_nil, false_implies, implies_true, and_true]
  exact ⟨fun _ => .inl component, fun _ => by decide, fun _ => by decide, fun _ => .inl component⟩

/-- With an HDMI port alone the composite resolution goes to HDMI. -/
theorem composite_on_hdmi :
    ¬∀ (platform : HdmiPlatform ResolutionMemory 31) (start state : AnalogState ResolutionMemory)
      (trace : List (AnalogStep ResolutionMemory 31)),
      (∀ portType handle, platform.ports.hal.dsGetVideoPort portType 0 = .ok handle →
        int32Handle handle ≠ 0) →
      (analogMachine platform).Run start trace state →
      ∀ effect ∈ Machine.effectsOf trace, effect.Right platform := by
  intro right
  have nonzero : ∀ portType handle,
      ResolutionMemory.unplugged.ports.hal.dsGetVideoPort portType 0 = .ok handle →
        int32Handle handle ≠ 0 := by
    intro portType handle given
    cases portType <;> cases given
    decide
  have taken : ∃ after, (analogMachine ResolutionMemory.unplugged).step ResolutionMemory.tuned
      (.setVideoPortResolution (ResolutionMemory.television ["720p"])) =
        some (after, [.setResolution 1 .bb]) := ⟨_, rfl⟩
  obtain ⟨after, taken⟩ := taken
  have onBaseband := right _ _ _ _ nonzero (.snoc .nil taken) (.setResolution 1 .bb)
    (List.mem_singleton_self _)
  exact (onBaseband (by decide)).2 rfl

end DeviceSettings.Controller
