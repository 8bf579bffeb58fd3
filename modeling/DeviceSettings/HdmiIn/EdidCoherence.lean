import DeviceSettings.HdmiIn.PortEdid
import DeviceSettings.Std.OneSlot

/-!
# The EDID bits of the HAL and of the cache

For a port with EDID 2.0 the HAL should have the ALLM and VRR bits that `dHdmiInImpl` caches. The
HAL may refuse any call. A refused setter changes nothing, but the bits that are told along with a
version are told without a look at the answer, and one VRR call is made twice.
-/

namespace DeviceSettings.HdmiIn

open DeviceSettings.Std
open DeviceSettings.Persistence

namespace PortEdid

/-- The HAL has the cached bits. -/
def HasBits (port : PortEdid) : Prop :=
  port.halAllm = some port.edidallmsupport ∧
    (port.vrrCaps = true → port.halVrr = some port.vrrsupport)

/-- With EDID 2.0 the HAL has the cached bits. -/
def Coherent (port : PortEdid) : Prop := port.edidversion = hdmiEdidVer20 → port.HasBits

section Gaps

variable (answers : PortAnswers)

/-- A bit that the HAL does not have is not refused when both are told to it. -/
def BitsReach (port : PortEdid) : Prop :=
  (answers.allm = .ok () ∨ port.halAllm = some port.edidallmsupport) ∧
    (port.vrrCaps = true →
      answers.vrrAgain = .ok () ∨ answers.vrr = .ok () ∨ port.halVrr = some port.vrrsupport)

/-- A change to 2.0 that is accepted reaches the HAL with its bits, and the HAL does not accept the
first of two VRR calls with a new bit and refuse the second. -/
def NoGap (port : PortEdid) : PortCall → Prop
  | .edidVersion edidVersion =>
    edidVersion = hdmiEdidVer20 → answers.version = .ok () → port.BitsReach answers
  | .allmSupport _ => True
  | .vrrSupport vrrSupport =>
    port.edidversion = hdmiEdidVer20 → port.vrrCaps = true → answers.vrr = .ok () →
      answers.vrrAgain ≠ .ok () → vrrSupport = port.vrrsupport

/-- A port that is loaded with EDID 2.0: the bits reach the HAL, or it has them already where it
refuses the version. -/
def NoGapAtStart (port : PortEdid) : Prop :=
  (port.load answers).edidversion = hdmiEdidVer20 →
    (answers.version = .ok () → (port.load answers).BitsReach answers) ∧
      (answers.version ≠ .ok () → (port.load answers).HasBits)

end Gaps

theorem acceptOne_eq_some {β : Type} {answer : Except DsError Unit} {register : Option β}
    {value : β} : acceptOne answer register value = some value ↔
      answer = .ok () ∨ register = some value := by
  cases answer <;> simp [acceptOne]

variable {answers : PortAnswers}

/-- Behind a change to 2.0 the HAL has the bits exactly when they reach it. -/
theorem hasBits_setEdidVersion_iff (accepted : answers.version = .ok ()) (port : PortEdid) :
    (port.setEdidVersion answers hdmiEdidVer20).2.HasBits ↔ port.BitsReach answers := by
  rw [setEdidVersion_of_accepted port hdmiEdidVer20 accepted]
  unfold HasBits BitsReach
  refine and_congr (by simp [acceptOne_eq_some]) (imp_congr_right fun caps => ?_)
  change port.vrrCaps = true at caps
  simp [caps, acceptOne_eq_some]

theorem edidversion_setEdidVersion (port : PortEdid) (edidVersion : Int) :
    (port.setEdidVersion answers edidVersion).2.edidversion = port.edidversion := by
  cases told : answers.version with
  | error error => rw [setEdidVersion_of_refused port edidVersion told]
  | ok _ => rw [setEdidVersion_of_accepted port edidVersion told]

/-- From a coherent port on, a setter leads to a coherent port exactly when it has no gap. -/
theorem coherent_call_iff {port : PortEdid} (coherent : port.Coherent) (call : PortCall) :
    (port.call answers call).2.Coherent ↔ port.NoGap answers call := by
  cases call with
  | edidVersion edidVersion =>
      cases told : answers.version with
      | error error =>
          simp [PortEdid.call, setEdidVersion_of_refused port edidVersion told, conclude, NoGap,
            told, coherent]
      | ok _ =>
          have called : (port.call answers (.edidVersion edidVersion)).2 =
              (port.setEdidVersion answers edidVersion).2.withEdidVersion edidVersion := by
            simp [PortEdid.call, setEdidVersion_of_accepted port edidVersion told, conclude]
          rw [called]
          constructor
          · rintro after rfl -
            exact (hasBits_setEdidVersion_iff told port).mp (after rfl)
          · intro noGap changed
            change edidVersion = hdmiEdidVer20 at changed
            subst changed
            exact (hasBits_setEdidVersion_iff told port).mpr (noGap rfl told)
  | allmSupport allmSupport =>
      refine iff_of_true ?_ trivial
      unfold PortEdid.call setEdid2AllmSupport
      split_ifs with version
      · cases answers.allm with
        | ok _ => exact fun _ => ⟨rfl, (coherent version).2⟩
        | error _ => exact coherent
      · exact coherent
  | vrrSupport vrrSupport =>
      unfold PortEdid.call setVRRSupport NoGap
      by_cases version : port.edidversion = hdmiEdidVer20
      · obtain ⟨allm, vrr⟩ := coherent version
        by_cases caps : port.vrrCaps = true
        · have had := vrr caps
          cases once : answers.vrr <;> cases twice : answers.vrrAgain <;>
            simp [version, caps, conclude, acceptOne, withVrrSupport, Coherent, HasBits, allm,
              had]
        · simp [version, caps, conclude, coherent]
      · simp [version, coherent]

/-- A startup leads to a coherent port exactly when it has no gap. -/
theorem coherent_start_iff (port : PortEdid) :
    (port.start answers).Coherent ↔ port.NoGapAtStart answers := by
  have version : (port.start answers).edidversion = (port.load answers).edidversion :=
    edidversion_setEdidVersion (port.load answers) port.foundVersion
  unfold Coherent NoGapAtStart
  rw [version]
  refine imp_congr_right fun found => ?_
  change port.foundVersion = hdmiEdidVer20 at found
  unfold start
  rw [found]
  cases told : answers.version with
  | error error => simp [setEdidVersion_of_refused _ _ told]
  | ok _ => simp [hasBits_setEdidVersion_iff told]

end PortEdid

namespace HdmiInState

/-- A setter, with the answers of the HAL during the call. -/
def perform (state : HdmiInState) (step : HdmiInAnswers × HdmiInCall) : HdmiInState :=
  (state.call step.1 step.2).2

/-- With EDID 2.0 the HAL has accepted last the bits that are cached. -/
def Coherent (state : HdmiInState) (port : DsHdmiInPort) : Prop :=
  state.edidversion port = hdmiEdidVer20 →
    state.hal.edid2Allm port = some (state.edidallmsupport port) ∧
      (state.hdmiPortVrrCaps port = true → state.hal.vrr port = some (state.vrrsupport port))

/-- Only the HAL has moved. -/
def OnlyHal (before after : HdmiInState) : Prop := after = { before with hal := after.hal }

/-- A step leads to a coherent state, and where the setter fails nothing but the HAL has moved. -/
def StaysCoherent (state : HdmiInState) (step : HdmiInAnswers × HdmiInCall) : Prop :=
  (∀ port, (state.perform step).Coherent port) ∧
    ((state.call step.1 step.2).1 ≠ .ok () → OnlyHal state (state.perform step))

def NoGap (state : HdmiInState) (step : HdmiInAnswers × HdmiInCall) : Prop :=
  (state.portEdid step.2.port).NoGap (step.1.forPort step.2.port) step.2.forPort

theorem onlyHal_conclude {state : HdmiInState} {told : Except DsError Unit × HdmiInState}
    {finish : HdmiInState → HdmiInState} (only : told.1 ≠ .ok () → OnlyHal state told.2)
    (failed : (conclude told finish).1 ≠ .ok ()) : OnlyHal state (conclude told finish).2 := by
  obtain ⟨result, after⟩ := told
  cases result with
  | ok _ => exact absurd rfl failed
  | error _ => exact only (by simp)

theorem onlyHal_setVRRSupport (answers : HdmiInAnswers) (state : HdmiInState)
    (port : DsHdmiInPort) (vrrSupport : Bool) :
    OnlyHal state (state.setVRRSupport answers port vrrSupport).2 := by
  unfold setVRRSupport
  split_ifs <;> rfl

theorem onlyHal_setEdidVersion {answers : HdmiInAnswers} {state : HdmiInState}
    {port : DsHdmiInPort} {edidVersion : Int}
    (failed : (state.setEdidVersion answers port edidVersion).1 ≠ .ok ()) :
    OnlyHal state (state.setEdidVersion answers port edidVersion).2 := by
  have own := (state.portEdid_setEdidVersion answers port edidVersion).1
  cases told : answers.dsSetEdidVersion port with
  | error error =>
      rw [setEdidVersion, told]
      rfl
  | ok _ =>
      have accepted : (answers.forPort port).version = .ok () := told
      rw [own, PortEdid.setEdidVersion_of_accepted _ edidVersion accepted] at failed
      exact absurd rfl failed

/-- A setter that fails leaves the arrays and the store alone. -/
theorem onlyHal_call {answers : HdmiInAnswers} {state : HdmiInState} {call : HdmiInCall}
    (failed : (state.call answers call).1 ≠ .ok ()) :
    OnlyHal state (state.call answers call).2 := by
  cases call with
  | setHDMIEdidVersion port edidVersion =>
      exact onlyHal_conclude onlyHal_setEdidVersion failed
  | setHDMIInEdid2AllmSupport port allmSupport =>
      revert failed
      simp only [HdmiInState.call, setHDMIInEdid2AllmSupport]
      split_ifs
      · exact onlyHal_conclude fun _ => rfl
      · exact fun _ => rfl
  | setVRRSupport port vrrSupport =>
      revert failed
      simp only [HdmiInState.call, setPortVRRSupport]
      split_ifs
      · exact onlyHal_conclude fun _ => onlyHal_setVRRSupport answers state port vrrSupport
      · exact fun _ => rfl

theorem staysCoherent_iff {state : HdmiInState} (coherent : ∀ port, state.Coherent port)
    (step : HdmiInAnswers × HdmiInCall) : state.StaysCoherent step ↔ state.NoGap step := by
  have moved := (state.portEdid_call step.1 step.2).2
  have own : (state.perform step).Coherent step.2.port ↔ state.NoGap step := by
    have at_port := congrFun moved step.2.port
    rw [Function.update_self] at at_port
    change ((state.call step.1 step.2).2.portEdid step.2.port).Coherent ↔ _
    rw [at_port]
    have here : (state.portEdid step.2.port).Coherent := coherent step.2.port
    exact PortEdid.coherent_call_iff here step.2.forPort
  constructor
  · exact fun stays => own.mp (stays.1 step.2.port)
  · intro noGap
    refine ⟨fun port => ?_, fun failed => onlyHal_call failed⟩
    by_cases same : port = step.2.port
    · rw [same]
      exact own.mpr noGap
    · have at_port := congrFun moved port
      rw [Function.update_of_ne same] at at_port
      change ((state.call step.1 step.2).2.portEdid port).Coherent
      rw [at_port]
      exact coherent port

end HdmiInState

/-- From a startup on, in any run of setters with any answers of the HAL: every state reached is
coherent exactly when no step has a gap. -/
theorem edid_coherent_iff (hal : HdmiInHal) (properties : LoadedStore) (startup : HdmiInAnswers)
    (inputs : Nat) (steps : List (HdmiInAnswers × HdmiInCall)) :
    let process := HdmiInState.fresh hal properties
    let started := process.getPersistenceValue startup inputs
    ((∀ port, started.Coherent port) ∧
        Along HdmiInState.perform HdmiInState.StaysCoherent started steps) ↔
      (∀ port ∈ supportedPorts inputs,
          (process.portEdid port).NoGapAtStart (startup.forPort port)) ∧
        Along HdmiInState.perform HdmiInState.NoGap started steps := by
  intro process started
  have initially : (∀ port, started.Coherent port) ↔ ∀ port ∈ supportedPorts inputs,
      (process.portEdid port).NoGapAtStart (startup.forPort port) := by
    refine forall_congr' fun port => ?_
    have own := process.portEdid_getPersistenceValue startup port rfl Nat.one_ne_zero inputs
    rw [mem_supportedPorts]
    change (started.portEdid port).Coherent ↔ _
    rw [show started.portEdid port = _ from own]
    split_ifs with supported
    · simp [supported, PortEdid.coherent_start_iff]
    · -- a port that is not supported keeps the version 1.4 of the static array
      refine iff_of_true (fun version => ?_) fun member => absurd member supported
      exact absurd (show hdmiEdidVer14 = hdmiEdidVer20 from version) (by decide)
  rw [← initially]
  refine and_congr_right fun coherent => ?_
  exact along_iff_of_related (fun state other => state = other ∧ ∀ port, state.Coherent port)
    (fun state _ step related => by
      rw [← related.1]
      exact HdmiInState.staysCoherent_iff related.2 step)
    (fun state _ step related stays => ⟨by rw [← related.1], stays.1⟩) ⟨rfl, coherent⟩ steps

/-! ### A willing HAL -/

namespace WillingHal

/-- The HAL accepts everything, and port 0 is capable of VRR. -/
def answers : HdmiInAnswers where
  dsHdmiInGetVRRSupport _ := some true
  dsSetEdidVersion _ := .ok ()
  dsSetEdid2AllmSupport _ := .ok ()
  dsHdmiInSetVRRSupport _ := .ok ()
  dsHdmiInSetVRRSupportAgain _ := .ok ()

/-- Only the second of the two VRR calls is refused. -/
def refusesAgain : HdmiInAnswers :=
  { answers with dsHdmiInSetVRRSupportAgain _ := .error .general }

def hal : HdmiInHal := ⟨fun _ => none, fun _ => none, fun _ => none⟩

def properties : LoadedStore :=
  .ofStore (.ofStoreFile "/opt/ds/hostData") fun _ => .absent

end WillingHal

/-- `SetVRRSupport(HDMI0, false)` fails, and the HAL has the bit all the same. -/
theorem not_edid_coherent :
    ¬∀ (hal : HdmiInHal) (properties : LoadedStore) (startup : HdmiInAnswers) (inputs : Nat)
      (steps : List (HdmiInAnswers × HdmiInCall)),
      let started := (HdmiInState.fresh hal properties).getPersistenceValue startup inputs
      (∀ port, started.Coherent port) ∧
        Along HdmiInState.perform HdmiInState.StaysCoherent started steps := by
  intro always
  have stays := (always WillingHal.hal WillingHal.properties WillingHal.answers 1
    [(WillingHal.refusesAgain, .setVRRSupport .port0 false)]).2.1.1 .port0
  have bits := stays (by decide)
  exact absurd (bits.2 (by decide)) (by decide)

end DeviceSettings.HdmiIn
