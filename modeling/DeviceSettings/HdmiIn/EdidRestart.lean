import DeviceSettings.HdmiIn.EdidCoherence

/-!
# The EDID settings over a restart

What the setters persist, `getPersistenceValue` reads back for every port whose keys the switch
statements enumerate. The last port has none: it starts with what its store had before.
-/

namespace DeviceSettings.HdmiIn

open DeviceSettings.Std
open DeviceSettings.Persistence

/-- What is cached for a port, and what a startup finds for it. -/
@[ext]
structure EdidSettings where
  edidversion : Int
  edidallmsupport : Bool
  vrrsupport : Bool
  deriving DecidableEq, Repr

/-- What a setter does to the settings of its port, where it succeeds. -/
def PortCall.apply (settings : EdidSettings) : PortCall → EdidSettings
  | .edidVersion version => { settings with edidversion := version }
  | .allmSupport allm => { settings with edidallmsupport := allm }
  | .vrrSupport vrr => { settings with vrrsupport := vrr }

/-- The version is 1.4 or 2.0. -/
def PortCall.Listed : PortCall → Prop
  | .edidVersion version => version = hdmiEdidVer14 ∨ version = hdmiEdidVer20
  | _ => True

/-! ### One port -/

namespace PortEdid

def cached (port : PortEdid) : EdidSettings :=
  ⟨port.edidversion, port.edidallmsupport, port.vrrsupport⟩

def found (port : PortEdid) : EdidSettings := ⟨port.foundVersion, port.foundAllm, port.foundVrr⟩

variable (answers : PortAnswers) (port : PortEdid)

@[simp] theorem boolString_eq_true (value : Bool) : boolString value = "TRUE" ↔ value = true := by
  cases value <;> decide

/-- A version found at startup is an `int`, so it is found again once it is persisted. -/
theorem atoi_toString_foundVersion : atoi (toString port.foundVersion) = port.foundVersion := by
  unfold foundVersion
  cases port.storedVersion.or port.defaultVersion with
  | none =>
      rw [Option.map_none, Option.getD_none]
      exact atoi_toString_int (by decide) (by decide)
  | some text =>
      rw [Option.map_some, Option.getD_some]
      exact atoi_toString_atoi text

/-- A version that is told to the HAL: only the version a startup finds may change. -/
theorem setEdidVersion_spec {edidVersion : Int}
    (printed : atoi (toString edidVersion) = edidVersion) :
    let called := port.setEdidVersion answers edidVersion
    called.2.cached = port.cached ∧ called.2.kept = port.kept ∧
      called.2.found =
        if called.1 = .ok () ∧ port.kept = true then { port.found with edidversion := edidVersion }
        else port.found := by
  cases told : answers.version with
  | error error =>
      rw [setEdidVersion_of_refused port edidVersion told]
      exact ⟨rfl, rfl, by simp⟩
  | ok _ =>
      rw [setEdidVersion_of_accepted port edidVersion told]
      refine ⟨rfl, rfl, ?_⟩
      by_cases kept : port.kept = true
      · ext
        · simpa [found, foundVersion, kept] using printed
        · simp [found, foundAllm, kept]
        · simp [found, foundVrr, kept]
      · simp [found, foundVersion, foundAllm, foundVrr, kept]

/-- Whatever was stored, a startup caches what the next one would find as well. -/
theorem start_spec :
    (port.start answers).cached = port.found ∧ (port.start answers).found = port.found ∧
      (port.start answers).kept = port.kept := by
  obtain ⟨cached, kept, found⟩ :=
    (port.load answers).setEdidVersion_spec answers port.atoi_toString_foundVersion
  refine ⟨cached, found.trans ?_, kept⟩
  split_ifs <;> rfl

omit answers port in
theorem conclude_eq {α : Type} (told : Except DsError Unit × α) (finish : α → α) :
    conclude told finish =
      if told.1 = .ok () then (.ok (), finish told.2) else (.error .general, told.2) := by
  obtain ⟨result, after⟩ := told
  cases result <;> rfl

/-- Nothing has moved that a startup or the arrays know of. -/
structure SameSettings (before after : PortEdid) : Prop where
  kept : after.kept = before.kept
  cached : after.cached = before.cached
  found : after.found = before.found

/-- The result and the state behind a setter: what is cached, and what a startup finds. -/
structure Sets (before : PortEdid) (call : PortCall)
    (called : Except CoreError Unit × PortEdid) : Prop where
  kept : called.2.kept = before.kept
  cached : called.2.cached =
    if called.1 = .ok () then call.apply before.cached else before.cached
  found : called.2.found =
    if called.1 = .ok () ∧ before.kept = true then call.apply before.found else before.found

variable {answers port}

theorem sets_of_failed {call : PortCall} {error : CoreError} {after : PortEdid}
    (same : SameSettings port after) : Sets port call (.error error, after) :=
  ⟨same.kept, by simp [same.cached], by simp [same.found]⟩

/-- A bit that is told to the HAL, and is stored and cached where it was accepted. -/
theorem sets_conclude {call : PortCall} {told : Except DsError Unit × PortEdid}
    {finish : PortEdid → PortEdid} (same : SameSettings port told.2)
    (kept : (finish told.2).kept = told.2.kept)
    (cached : (finish told.2).cached = call.apply told.2.cached)
    (found : (finish told.2).found =
      if told.2.kept = true then call.apply told.2.found else told.2.found) :
    Sets port call (conclude told finish) := by
  rw [conclude_eq]
  split_ifs with accepted
  · rw [same.kept, same.found] at found
    refine ⟨kept.trans same.kept, ?_, ?_⟩
    · simpa [same.cached] using cached
    · simpa using found
  · exact sets_of_failed same

/-- Behind a startup the HAL has the version of the port where it accepts it or has it. -/
theorem halVersion_start_iff :
    (port.start answers).halVersion = some (port.start answers).edidversion ↔
      answers.version = .ok () ∨ port.halVersion = some port.foundVersion := by
  unfold start
  cases told : answers.version with
  | error error =>
      rw [setEdidVersion_of_refused _ _ told]
      simp [load]
  | ok _ =>
      rw [setEdidVersion_of_accepted _ _ told]
      simp [load]

/-- A setter that succeeds sets what is cached, and what a startup finds where the port has
properties; one that fails changes neither. -/
theorem sets_call {call : PortCall} (listed : call.Listed) :
    Sets port call (port.call answers call) := by
  cases call with
  | edidVersion edidVersion =>
      have printed : atoi (toString edidVersion) = edidVersion := by
        rcases listed with rfl | rfl <;> exact atoi_toString_int (by decide) (by decide)
      obtain ⟨cached, kept, found⟩ := port.setEdidVersion_spec answers printed
      simp only [PortEdid.call, conclude_eq]
      split_ifs with accepted
      · refine ⟨kept, ?_, ?_⟩
        · exact congrArg (fun settings => { settings with edidversion := edidVersion }) cached
        · simp only [accepted, true_and] at found ⊢
          exact found
      · refine sets_of_failed ⟨kept, cached, ?_⟩
        simpa [accepted] using found
  | allmSupport allmSupport =>
      unfold PortEdid.call
      split_ifs with version
      · refine sets_conclude ⟨rfl, rfl, rfl⟩ rfl rfl ?_
        by_cases kept : port.kept = true <;>
          simp [setEdid2AllmSupport, withAllmSupport, found, foundAllm, foundVersion, foundVrr,
            PortCall.apply, kept]
      · exact sets_of_failed ⟨rfl, rfl, rfl⟩
  | vrrSupport vrrSupport =>
      have same : SameSettings port (port.setVRRSupport answers vrrSupport).2 := by
        unfold setVRRSupport
        split_ifs <;> exact ⟨rfl, rfl, rfl⟩
      unfold PortEdid.call
      split_ifs with version
      · refine sets_conclude same rfl rfl ?_
        generalize (port.setVRRSupport answers vrrSupport).2 = told
        by_cases kept : told.kept = true <;>
          simp [withVrrSupport, found, foundAllm, foundVersion, foundVrr, PortCall.apply, kept]
      · exact sets_of_failed ⟨rfl, rfl, rfl⟩

end PortEdid
/-! ### All ports -/

/-- The settings of a port in the arrays. -/
def HdmiInState.settings (state : HdmiInState) (port : DsHdmiInPort) : EdidSettings :=
  ⟨state.edidversion port, state.edidallmsupport port, state.vrrsupport port⟩

/-- The settings that a startup finds for a port. -/
def storedSettings (properties : LoadedStore) (port : DsHdmiInPort) : EdidSettings :=
  ⟨readEdidVersion properties port,
    getHdmiInPortPersistValue properties (portProperty port ".edidallmEnable"),
    getHdmiInPortPersistValue properties (portProperty port ".vrrEnable")⟩

/-- What a successful call does to the settings of a port. -/
def applyTo (port : DsHdmiInPort) (settings : EdidSettings)
    (step : HdmiInAnswers × HdmiInCall) : EdidSettings :=
  if step.2.port = port then step.2.forPort.apply settings else settings

namespace HdmiInState

/-- The setter returns `ERROR_NONE`, and sets no version but 1.4 and 2.0. -/
def Succeeds (state : HdmiInState) (step : HdmiInAnswers × HdmiInCall) : Prop :=
  (state.call step.1 step.2).1 = .ok () ∧ step.2.forPort.Listed

theorem found_portEdid (state : HdmiInState) (port : DsHdmiInPort) :
    (state.portEdid port).found = storedSettings state.properties port := by
  simp only [PortEdid.found, storedSettings, readEdidVersion_eq,
    getHdmiInPortPersistValue_eq _ (portProperty_ne port _)]
  rfl

/-- A port behind a call that succeeds. -/
theorem portEdid_perform {state : HdmiInState} {step : HdmiInAnswers × HdmiInCall}
    (succeeds : state.Succeeds step) (port : DsHdmiInPort) :
    (state.perform step).settings port = applyTo port (state.settings port) step ∧
      storedSettings (state.perform step).properties port =
        if port = .port4 then storedSettings state.properties port
        else applyTo port (storedSettings state.properties port) step := by
  obtain ⟨answer, moved⟩ := state.portEdid_call step.1 step.2
  have here := congrFun moved port
  simp only [← found_portEdid]
  change ((state.call step.1 step.2).2.portEdid port).cached =
      applyTo port (state.portEdid port).cached step ∧
    ((state.call step.1 step.2).2.portEdid port).found = _
  rw [here]
  unfold applyTo
  by_cases same : step.2.port = port
  · subst same
    have sets : PortEdid.Sets (state.portEdid step.2.port) step.2.forPort
        ((state.portEdid step.2.port).call (step.1.forPort step.2.port) step.2.forPort) :=
      PortEdid.sets_call succeeds.2
    have succeeded := answer.symm.trans succeeds.1
    rw [Function.update_self, if_pos rfl, if_pos rfl, sets.cached, sets.found, if_pos succeeded]
    have keeps : (state.portEdid step.2.port).kept = decide (step.2.port ≠ .port4) := rfl
    refine ⟨rfl, ?_⟩
    simp only [keeps, succeeded, true_and, decide_eq_true_eq, ne_eq, ite_not]
  · rw [Function.update_of_ne (Ne.symm same), if_neg same, if_neg same]
    exact ⟨rfl, (ite_self _).symm⟩

/-- A run of calls that succeed. -/
theorem settings_run {start : HdmiInState} {steps : List (HdmiInAnswers × HdmiInCall)}
    (succeed : Along perform Succeeds start steps) (port : DsHdmiInPort) :
    (steps.foldl perform start).settings port =
        steps.foldl (applyTo port) (start.settings port) ∧
      storedSettings (steps.foldl perform start).properties port =
        if port = .port4 then storedSettings start.properties port
        else steps.foldl (applyTo port) (storedSettings start.properties port) := by
  constructor
  · exact view_foldl_of_along (fun state => state.settings port) (applyTo port)
      (fun state step succeeds => (portEdid_perform succeeds port).1) succeed
  · have run := view_foldl_of_along (fun state => storedSettings state.properties port)
      (fun settings step => if port = .port4 then settings else applyTo port settings step)
      (fun state step succeeds => (portEdid_perform succeeds port).2) succeed
    refine run.trans ?_
    split_ifs
    · exact List.foldl_fixed' (fun _ => rfl) steps
    · rfl

/-- A supported port behind a startup: it has what was stored for it, and the HAL its version
exactly where it was accepted or known. -/
theorem settings_getPersistenceValue (hal : HdmiInHal) (properties : LoadedStore)
    (answers : HdmiInAnswers) {inputs : Nat} {port : DsHdmiInPort}
    (supported : port.index < inputs) :
    let started := (fresh hal properties).getPersistenceValue answers inputs
    started.settings port = storedSettings properties port ∧
      storedSettings started.properties port = storedSettings properties port ∧
      (started.hal.edidVersion port = some (started.edidversion port) ↔
        answers.dsSetEdidVersion port = .ok () ∨
          hal.edidVersion port = some (readEdidVersion properties port)) := by
  intro started
  have own := (fresh hal properties).portEdid_getPersistenceValue answers port rfl
    Nat.one_ne_zero inputs
  rw [if_pos supported] at own
  obtain ⟨cached, found, -⟩ := ((fresh hal properties).portEdid port).start_spec
    (answers.forPort port)
  have stored := (fresh hal properties).found_portEdid port
  change (started.portEdid port).cached = storedSettings properties port ∧
    storedSettings started.properties port = _ ∧
    ((started.portEdid port).halVersion = some (started.portEdid port).edidversion ↔ _)
  rw [← started.found_portEdid, show started.portEdid port = _ from own]
  refine ⟨cached.trans stored, found.trans stored, PortEdid.halVersion_start_iff.trans ?_⟩
  rw [show ((fresh hal properties).portEdid port).foundVersion = readEdidVersion properties port
    from congrArg EdidSettings.edidversion stored]
  exact Iff.rfl

end HdmiInState

/-- Any run of successful calls between two startups. The settings survive on every supported port
exactly when those of the last port end as they began, and the HAL has the version of a port
exactly when it accepts it or has it. -/
theorem edid_survives_restart_iff (hal hal' : HdmiInHal) (properties : LoadedStore)
    (startup restart : HdmiInAnswers) (inputs : Nat) (steps : List (HdmiInAnswers × HdmiInCall))
    (succeed : Along HdmiInState.perform HdmiInState.Succeeds
      ((HdmiInState.fresh hal properties).getPersistenceValue startup inputs) steps) :
    let before := steps.foldl HdmiInState.perform
      ((HdmiInState.fresh hal properties).getPersistenceValue startup inputs)
    let after := (HdmiInState.fresh hal' before.properties).getPersistenceValue restart inputs
    (∀ port, port.index < inputs → after.settings port = before.settings port ∧
        after.hal.edidVersion port = some (after.edidversion port)) ↔
      (4 < inputs → steps.foldl (applyTo .port4) (storedSettings properties .port4) =
          storedSettings properties .port4) ∧
        ∀ port, port.index < inputs → restart.dsSetEdidVersion port = .ok () ∨
          hal'.edidVersion port = some (readEdidVersion before.properties port) := by
  intro before after
  have cached : ∀ port, port.index < inputs →
      before.settings port = steps.foldl (applyTo port) (storedSettings properties port) := by
    intro port supported
    obtain ⟨started, -, -⟩ :=
      HdmiInState.settings_getPersistenceValue hal properties startup supported
    exact (HdmiInState.settings_run succeed port).1.trans (by rw [started])
  have reloaded : ∀ port, port.index < inputs → after.settings port =
      if port = .port4 then storedSettings properties port
      else steps.foldl (applyTo port) (storedSettings properties port) := by
    intro port supported
    obtain ⟨-, kept, -⟩ :=
      HdmiInState.settings_getPersistenceValue hal properties startup supported
    obtain ⟨loaded, -, -⟩ :=
      HdmiInState.settings_getPersistenceValue hal' before.properties restart supported
    refine loaded.trans ((HdmiInState.settings_run succeed port).2.trans ?_)
    rw [kept]
  have version : ∀ port, port.index < inputs →
      (after.hal.edidVersion port = some (after.edidversion port) ↔
        restart.dsSetEdidVersion port = .ok () ∨
          hal'.edidVersion port = some (readEdidVersion before.properties port)) :=
    fun port supported =>
      (HdmiInState.settings_getPersistenceValue hal' before.properties restart supported).2.2
  constructor
  · intro survives
    refine ⟨fun last => ?_, fun port supported =>
      (version port supported).mp (survives port supported).2⟩
    have same := (survives .port4 last).1
    rw [cached .port4 last, reloaded .port4 last, if_pos rfl] at same
    exact same.symm
  · rintro ⟨last, accepted⟩ port supported
    refine ⟨?_, (version port supported).mpr (accepted port supported)⟩
    rw [cached port supported, reloaded port supported]
    split_ifs with isLast
    · subst isLast
      exact (last supported).symm
    · rfl

/-- Calls for four of five ports; the bit of the last one is switched on again. -/
def severalPorts : List (HdmiInAnswers × HdmiInCall) :=
  [.setHDMIEdidVersion .port0 hdmiEdidVer14, .setHDMIInEdid2AllmSupport .port1 false,
    .setHDMIInEdid2AllmSupport .port4 false, .setVRRSupport .port2 false,
    .setHDMIEdidVersion .port0 hdmiEdidVer20, .setHDMIInEdid2AllmSupport .port4 true,
    .setHDMIEdidVersion .port1 hdmiEdidVer14].map fun call => (WillingHal.answers, call)

theorem edid_survives_restart_iff_severalPorts :
    let before := severalPorts.foldl HdmiInState.perform
      ((HdmiInState.fresh WillingHal.hal WillingHal.properties).getPersistenceValue
        WillingHal.answers 5)
    let after := (HdmiInState.fresh WillingHal.hal before.properties).getPersistenceValue
      WillingHal.answers 5
    before.settings .port1 = ⟨hdmiEdidVer14, false, true⟩ ∧
      ((∀ port, port.index < 5 → after.settings port = before.settings port ∧
          after.hal.edidVersion port = some (after.edidversion port)) ↔
        (4 < 5 → severalPorts.foldl (applyTo .port4) (storedSettings WillingHal.properties .port4) =
            storedSettings WillingHal.properties .port4) ∧
          ∀ port, port.index < 5 → WillingHal.answers.dsSetEdidVersion port = .ok () ∨
            WillingHal.hal.edidVersion port = some (readEdidVersion before.properties port)) ∧
      ∀ port, port.index < 5 → after.settings port = before.settings port ∧
        after.hal.edidVersion port = some (after.edidversion port) := by
  intro before after
  have exact_ := edid_survives_restart_iff WillingHal.hal WillingHal.hal WillingHal.properties
    WillingHal.answers WillingHal.answers 5 severalPorts
    ⟨⟨rfl, .inl rfl⟩, ⟨rfl, trivial⟩, ⟨rfl, trivial⟩, ⟨rfl, trivial⟩, ⟨rfl, .inr rfl⟩,
      ⟨rfl, trivial⟩, ⟨rfl, .inl rfl⟩, trivial⟩
  exact ⟨by decide +kernel, exact_,
    exact_.mpr ⟨fun _ => by decide +kernel, fun _ _ => .inl rfl⟩⟩

/-- On the fifth port the ALLM bit is on again behind a restart. -/
theorem not_edid_survives_restart :
    ¬∀ (hal hal' : HdmiInHal) (properties : LoadedStore) (startup restart : HdmiInAnswers)
      (inputs : Nat) (steps : List (HdmiInAnswers × HdmiInCall)), inputs ≤ dsHdmiInPortMax →
      (∀ port, restart.dsSetEdidVersion port = .ok ()) →
      Along HdmiInState.perform HdmiInState.Succeeds
        ((HdmiInState.fresh hal properties).getPersistenceValue startup inputs) steps →
      let before := steps.foldl HdmiInState.perform
        ((HdmiInState.fresh hal properties).getPersistenceValue startup inputs)
      let after := (HdmiInState.fresh hal' before.properties).getPersistenceValue restart inputs
      ∀ port, port.index < inputs → after.settings port = before.settings port ∧
        after.hal.edidVersion port = some (after.edidversion port) := by
  intro survives
  have same := (survives WillingHal.hal WillingHal.hal WillingHal.properties
    WillingHal.answers WillingHal.answers 5
    [(WillingHal.answers, .setHDMIInEdid2AllmSupport .port4 false)] (by decide) (fun _ => rfl)
    ⟨⟨rfl, trivial⟩, trivial⟩ .port4 (by decide)).1
  exact absurd (congrArg EdidSettings.edidallmsupport same) (by decide)

end DeviceSettings.HdmiIn
