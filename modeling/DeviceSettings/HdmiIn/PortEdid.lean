import DeviceSettings.HdmiIn.Edid
import DeviceSettings.Std.Decimal
import DeviceSettings.Std.Sweep

/-!
# One HDMI input on its own

The EDID settings of one port, with the registers of the HAL and the properties that belong to it.
The ports do not disturb each other: every operation of `dHdmiInImpl` is the operation of its own
port and leaves the others as they are.
-/

namespace DeviceSettings.HdmiIn

open DeviceSettings.Std
open DeviceSettings.Persistence

/-- One port; `kept` says whether its properties are written at all. -/
structure PortEdid where
  edidversion : Int
  edidallmsupport : Bool
  vrrsupport : Bool
  vrrCaps : Bool
  halVersion : Option Int
  halAllm : Option Bool
  halVrr : Option Bool
  kept : Bool
  storedVersion : Option String
  storedAllm : Option String
  storedVrr : Option String
  defaultVersion : Option String

/-- How the HAL answers for one port. -/
structure PortAnswers where
  vrrCaps : Option Bool
  version : Except DsError Unit
  allm : Except DsError Unit
  vrr : Except DsError Unit
  vrrAgain : Except DsError Unit

inductive PortCall where
  | edidVersion (edidVersion : Int)
  | allmSupport (allmSupport : Bool)
  | vrrSupport (vrrSupport : Bool)

/-- What a call leaves in a register. -/
def acceptOne {β : Type} (answer : Except DsError Unit) (register : Option β) (value : β) :
    Option β :=
  match answer with
  | .ok _ => some value
  | .error _ => register

namespace PortEdid

variable (answers : PortAnswers)

def setVRRSupport (port : PortEdid) (vrrSupport : Bool) : Except DsError Unit × PortEdid :=
  if port.vrrCaps = false then (.error .operationNotSupported, port)
  else
    (answers.vrrAgain, { port with
      halVrr := acceptOne answers.vrrAgain (acceptOne answers.vrr port.halVrr vrrSupport)
        vrrSupport })

def setEdid2AllmSupport (port : PortEdid) (allmSupport : Bool) :
    Except DsError Unit × PortEdid :=
  (answers.allm, { port with halAllm := acceptOne answers.allm port.halAllm allmSupport })

/-- The port behind a property that is written. -/
def persistVersion (port : PortEdid) (edidVersion : Int) : PortEdid :=
  if port.kept then { port with storedVersion := some (toString edidVersion) } else port

@[simp]
theorem edidallmsupport_persistVersion (port : PortEdid) (edidVersion : Int) :
    (port.persistVersion edidVersion).edidallmsupport = port.edidallmsupport := by
  unfold persistVersion
  split_ifs <;> rfl

@[simp]
theorem vrrsupport_persistVersion (port : PortEdid) (edidVersion : Int) :
    (port.persistVersion edidVersion).vrrsupport = port.vrrsupport := by
  unfold persistVersion
  split_ifs <;> rfl

def setEdidVersion (port : PortEdid) (edidVersion : Int) : Except DsError Unit × PortEdid :=
  match answers.version with
  | .error error => (.error error, port)
  | .ok _ =>
    let port := { port with halVersion := some edidVersion }.persistVersion edidVersion
    if edidVersion = hdmiEdidVer20 then
      let port := (port.setEdid2AllmSupport answers port.edidallmsupport).2
      (.ok (), (port.setVRRSupport answers port.vrrsupport).2)
    else (.ok (), port)

/-- The port behind a setter that the HAL has accepted. -/
def withEdidVersion (edidVersion : Int) (port : PortEdid) : PortEdid :=
  { port with edidversion := edidVersion }

def withAllmSupport (allmSupport : Bool) (port : PortEdid) : PortEdid :=
  { port with
    storedAllm := if port.kept then some (boolString allmSupport) else port.storedAllm
    edidallmsupport := allmSupport }

def withVrrSupport (vrrSupport : Bool) (port : PortEdid) : PortEdid :=
  { port with
    storedVrr := if port.kept then some (boolString vrrSupport) else port.storedVrr
    vrrsupport := vrrSupport }

def call (port : PortEdid) : PortCall → Except CoreError Unit × PortEdid
  | .edidVersion edidVersion =>
    conclude (port.setEdidVersion answers edidVersion) (withEdidVersion edidVersion)
  | .allmSupport allmSupport =>
    if port.edidversion = hdmiEdidVer20 then
      conclude (port.setEdid2AllmSupport answers allmSupport) (withAllmSupport allmSupport)
    else (.error .unavailable, port)
  | .vrrSupport vrrSupport =>
    if port.edidversion = hdmiEdidVer20 then
      conclude (port.setVRRSupport answers vrrSupport) (withVrrSupport vrrSupport)
    else (.error .unavailable, port)

/-- The EDID version that a startup finds. -/
def foundVersion (port : PortEdid) : Int :=
  ((port.storedVersion.or port.defaultVersion).map atoi).getD hdmiEdidVer20

def foundAllm (port : PortEdid) : Bool := decide (port.storedAllm.getD "TRUE" = "TRUE")

def foundVrr (port : PortEdid) : Bool := decide (port.storedVrr.getD "TRUE" = "TRUE")

/-- The arrays from the store and from the HAL. -/
def load (port : PortEdid) : PortEdid :=
  { port with
    edidversion := port.foundVersion
    edidallmsupport := port.foundAllm
    vrrsupport := port.foundVrr
    vrrCaps := answers.vrrCaps.getD port.vrrCaps }

/-- A startup. -/
def start (port : PortEdid) : PortEdid :=
  ((port.load answers).setEdidVersion answers port.foundVersion).2

section Spec

variable {answers : PortAnswers} (port : PortEdid) (edidVersion : Int)

theorem setEdidVersion_of_refused {error : DsError} (refused : answers.version = .error error) :
    port.setEdidVersion answers edidVersion = (.error error, port) := by
  rw [setEdidVersion, refused]

/-- A version that is accepted: it is persisted, and with 2.0 the HAL is told both bits. -/
theorem setEdidVersion_of_accepted (accepted : answers.version = .ok ()) :
    port.setEdidVersion answers edidVersion =
      (.ok (), { port with
        halVersion := some edidVersion
        storedVersion := if port.kept then some (toString edidVersion) else port.storedVersion
        halAllm := if edidVersion = hdmiEdidVer20 then
            acceptOne answers.allm port.halAllm port.edidallmsupport
          else port.halAllm
        halVrr := if edidVersion = hdmiEdidVer20 ∧ port.vrrCaps = true then
            acceptOne answers.vrrAgain (acceptOne answers.vrr port.halVrr port.vrrsupport)
              port.vrrsupport
          else port.halVrr }) := by
  simp only [setEdidVersion, accepted]
  by_cases kept : port.kept = true <;> by_cases changed : edidVersion = hdmiEdidVer20 <;>
    by_cases caps : port.vrrCaps = true <;>
    simp [persistVersion, setEdid2AllmSupport, setVRRSupport, kept, changed, caps]

end Spec
end PortEdid

/-! ### The ports of the implementation -/

/-- The part of the state that belongs to a port. -/
def HdmiInState.portEdid (state : HdmiInState) (port : DsHdmiInPort) : PortEdid where
  edidversion := state.edidversion port
  edidallmsupport := state.edidallmsupport port
  vrrsupport := state.vrrsupport port
  vrrCaps := state.hdmiPortVrrCaps port
  halVersion := state.hal.edidVersion port
  halAllm := state.hal.edid2Allm port
  halVrr := state.hal.vrr port
  kept := decide (port ≠ .port4)
  storedVersion := state.properties.find? (portProperty port ".edidversion")
  storedAllm := state.properties.find? (portProperty port ".edidallmEnable")
  storedVrr := state.properties.find? (portProperty port ".vrrEnable")
  defaultVersion := state.properties.findDefault? (portProperty port ".edidversion")

def HdmiInAnswers.forPort (answers : HdmiInAnswers) (port : DsHdmiInPort) : PortAnswers where
  vrrCaps := answers.dsHdmiInGetVRRSupport port
  version := answers.dsSetEdidVersion port
  allm := answers.dsSetEdid2AllmSupport port
  vrr := answers.dsHdmiInSetVRRSupport port
  vrrAgain := answers.dsHdmiInSetVRRSupportAgain port

def HdmiInCall.forPort : HdmiInCall → PortCall
  | .setHDMIEdidVersion _ edidVersion => .edidVersion edidVersion
  | .setHDMIInEdid2AllmSupport _ allmSupport => .allmSupport allmSupport
  | .setVRRSupport _ vrrSupport => .vrrSupport vrrSupport

/-! ### Properties -/

/-- The properties of a port. -/
def edidProperties : List String := [".edidversion", ".edidallmEnable", ".vrrEnable"]

theorem edidversion_mem : ".edidversion" ∈ edidProperties := by decide

theorem edidallmEnable_mem : ".edidallmEnable" ∈ edidProperties := by decide

theorem vrrEnable_mem : ".vrrEnable" ∈ edidProperties := by decide

def allPorts : List DsHdmiInPort := [.port0, .port1, .port2, .port3, .port4]

theorem mem_allPorts (port : DsHdmiInPort) : port ∈ allPorts := by
  cases port <;> decide

theorem portProperty_ne (port : DsHdmiInPort) (property : String) :
    portProperty port property ≠ "" := by
  intro empty
  have lengths := congrArg String.length empty
  rw [portProperty, String.length_append, String.length_append] at lengths
  have front : "HDMI".length = 4 := rfl
  have none : "".length = 0 := rfl
  omega

theorem portProperty_injective_of_mem : ∀ port ∈ allPorts, ∀ other ∈ allPorts,
    ∀ property ∈ edidProperties, ∀ otherProperty ∈ edidProperties,
      portProperty port property = portProperty other otherProperty →
        port = other ∧ property = otherProperty := by
  decide +kernel

theorem portProperty_inj {port other : DsHdmiInPort} {property otherProperty : String}
    (listed : property ∈ edidProperties) (otherListed : otherProperty ∈ edidProperties) :
    portProperty port property = portProperty other otherProperty ↔
      port = other ∧ property = otherProperty := by
  constructor
  · exact portProperty_injective_of_mem port (mem_allPorts port) other (mem_allPorts other)
      property listed otherProperty otherListed
  · rintro ⟨rfl, rfl⟩
    rfl

/-- The keys that the switch statements enumerate are those that the startup code builds, for all
ports but the last. -/
def writtenKey (property : String) (port : DsHdmiInPort) : Option String :=
  if port = .port4 then none else some (portProperty port property)

theorem edidversionKey_eq (port : DsHdmiInPort) :
    edidversionKey port = writtenKey ".edidversion" port := by
  cases port <;> decide +kernel

theorem edidallmKey_eq (port : DsHdmiInPort) :
    edidallmKey port = writtenKey ".edidallmEnable" port := by
  cases port <;> decide +kernel

theorem vrrKey_eq (port : DsHdmiInPort) : vrrKey port = writtenKey ".vrrEnable" port := by
  cases port <;> decide +kernel

section Persisted

variable (properties : LoadedStore) {property value : String}
  (listed : property ∈ edidProperties) (given : value ≠ "") (port other : DsHdmiInPort)

include listed given in
/-- What is found behind a write to a property of a port. -/
theorem find?_persistPort {otherProperty : String} (otherListed : otherProperty ∈ edidProperties) :
    (persistPort properties (writtenKey property port) value).find?
        (portProperty other otherProperty) =
      if port ≠ .port4 ∧ other = port ∧ otherProperty = property then some value
      else properties.find? (portProperty other otherProperty) := by
  by_cases last : port = .port4
  · rw [if_neg fun kept => kept.1 last, writtenKey, if_pos last, persistPort]
  · rw [writtenKey, if_neg last, persistPort,
      properties.find?_persist ⟨portProperty_ne port property, given⟩]
    by_cases same : other = port ∧ otherProperty = property
    · obtain ⟨rfl, rfl⟩ := same
      rw [if_pos rfl, if_pos ⟨last, rfl, rfl⟩]
    · have distinct : portProperty port property ≠ portProperty other otherProperty := by
        rw [ne_eq, portProperty_inj listed otherListed]
        exact fun found => same ⟨found.1.symm, found.2.symm⟩
      rw [if_neg distinct, if_neg fun written => same written.2]

include given in
theorem findDefault?_persistPort (key : String) :
    (persistPort properties (writtenKey property port) value).findDefault? key =
      properties.findDefault? key := by
  unfold writtenKey
  split_ifs
  · rfl
  · exact properties.findDefault?_persist ⟨portProperty_ne port property, given⟩ key

end Persisted

/-! ### Every operation is the operation of its port -/

theorem accept_eq_update {β : Type} (answer : Except DsError Unit)
    (register : DsHdmiInPort → Option β) (port : DsHdmiInPort) (value : β) :
    accept answer register port value =
      Function.update register port (acceptOne answer (register port) value) := by
  cases answer with
  | ok _ => rfl
  | error _ => exact (Function.update_eq_self port register).symm

namespace HdmiInState

variable (answers : HdmiInAnswers) (state : HdmiInState) (port : DsHdmiInPort)

theorem portEdid_setVRRSupport (vrrSupport : Bool) :
    let own := (state.portEdid port).setVRRSupport (answers.forPort port) vrrSupport
    (state.setVRRSupport answers port vrrSupport).1 = own.1 ∧
      (state.setVRRSupport answers port vrrSupport).2.portEdid =
        Function.update state.portEdid port own.2 := by
  have caps : (state.portEdid port).vrrCaps = state.hdmiPortVrrCaps port := rfl
  simp only [setVRRSupport, PortEdid.setVRRSupport, caps]
  split_ifs
  · exact ⟨rfl, (Function.update_eq_self port state.portEdid).symm⟩
  · refine ⟨rfl, funext fun other => ?_⟩
    by_cases same : other = port
    · subst same
      simp [portEdid, accept_eq_update, HdmiInAnswers.forPort]
    · simp [portEdid, accept_eq_update, same]

theorem portEdid_setEdid2AllmSupport (allmSupport : Bool) :
    let own := (state.portEdid port).setEdid2AllmSupport (answers.forPort port) allmSupport
    (state.setEdid2AllmSupport answers port allmSupport).1 = own.1 ∧
      (state.setEdid2AllmSupport answers port allmSupport).2.portEdid =
        Function.update state.portEdid port own.2 := by
  refine ⟨rfl, funext fun other => ?_⟩
  by_cases same : other = port
  · subst same
    simp [portEdid, setEdid2AllmSupport, PortEdid.setEdid2AllmSupport, accept_eq_update,
      HdmiInAnswers.forPort]
  · simp [portEdid, setEdid2AllmSupport, accept_eq_update, same]

/-- The HAL has accepted a version, and it is persisted. -/
def withVersion (edidVersion : Int) : HdmiInState :=
  { state with
    hal.edidVersion := Function.update state.hal.edidVersion port (some edidVersion)
    properties := persistPort state.properties (edidversionKey port) (toString edidVersion) }

theorem portEdid_withVersion (edidVersion : Int) :
    (state.withVersion port edidVersion).portEdid =
      Function.update state.portEdid port
        ({ state.portEdid port with halVersion := some edidVersion }.persistVersion
          edidVersion) := by
  have given : toString edidVersion ≠ "" := by simp
  refine funext fun other => ?_
  simp only [withVersion, portEdid, edidversionKey_eq,
    find?_persistPort state.properties edidversion_mem given port other edidversion_mem,
    find?_persistPort state.properties edidversion_mem given port other edidallmEnable_mem,
    find?_persistPort state.properties edidversion_mem given port other vrrEnable_mem,
    findDefault?_persistPort state.properties given]
  by_cases same : other = port
  · subst same
    by_cases last : other = .port4 <;> simp [PortEdid.persistVersion, last]
  · simp [same, portEdid]

theorem portEdid_setEdidVersion (edidVersion : Int) :
    let own := (state.portEdid port).setEdidVersion (answers.forPort port) edidVersion
    (state.setEdidVersion answers port edidVersion).1 = own.1 ∧
      (state.setEdidVersion answers port edidVersion).2.portEdid =
        Function.update state.portEdid port own.2 := by
  have answer : (answers.forPort port).version = answers.dsSetEdidVersion port := rfl
  unfold setEdidVersion PortEdid.setEdidVersion
  rw [answer]
  cases answers.dsSetEdidVersion port with
  | error error => exact ⟨rfl, (Function.update_eq_self port state.portEdid).symm⟩
  | ok _ =>
      have accepted := state.portEdid_withVersion port edidVersion
      have own := congrFun accepted port
      rw [Function.update_self] at own
      dsimp only
      split_ifs with changed
      · refine ⟨rfl, ?_⟩
        have allm := (portEdid_setEdid2AllmSupport answers (state.withVersion port edidVersion)
          port (state.edidallmsupport port)).2
        have ownAllm := congrFun allm port
        rw [Function.update_self, own] at ownAllm
        have vrr := (portEdid_setVRRSupport answers ((state.withVersion port
          edidVersion).setEdid2AllmSupport answers port (state.edidallmsupport port)).2
          port (state.vrrsupport port)).2
        rw [ownAllm, allm, accepted, Function.update_idem, Function.update_idem] at vrr
        refine vrr.trans ?_
        simp only [PortEdid.edidallmsupport_persistVersion, PortEdid.setEdid2AllmSupport,
          PortEdid.vrrsupport_persistVersion]
        rfl
      · exact ⟨rfl, accepted⟩

variable {answers state port} in
/-- The three setters have one shape. -/
theorem portEdid_conclude {told : Except DsError Unit × HdmiInState}
    {own : Except DsError Unit × PortEdid} {finish : HdmiInState → HdmiInState}
    {finishOwn : PortEdid → PortEdid}
    (same : told.1 = own.1 ∧ told.2.portEdid = Function.update state.portEdid port own.2)
    (finished : ∀ state : HdmiInState,
      (finish state).portEdid = Function.update state.portEdid port
        (finishOwn (state.portEdid port))) :
    (conclude told finish).1 = (conclude own finishOwn).1 ∧
      (conclude told finish).2.portEdid =
        Function.update state.portEdid port (conclude own finishOwn).2 := by
  obtain ⟨result, after⟩ := told
  obtain ⟨ownResult, ownAfter⟩ := own
  obtain ⟨rfl, moved⟩ := same
  cases result with
  | error _ => exact ⟨rfl, moved⟩
  | ok _ =>
      refine ⟨rfl, (finished after).trans ?_⟩
      dsimp only at moved
      rw [moved, Function.update_self, Function.update_idem]
      rfl

theorem portEdid_withEdidVersion (edidVersion : Int) :
    (withEdidVersion port edidVersion state).portEdid =
      Function.update state.portEdid port
        ((state.portEdid port).withEdidVersion edidVersion) := by
  refine funext fun other => ?_
  by_cases same : other = port
  · subst same
    simp [withEdidVersion, portEdid, PortEdid.withEdidVersion]
  · simp [withEdidVersion, portEdid, same]

theorem boolString_ne (value : Bool) : boolString value ≠ "" := by
  cases value <;> decide

theorem portEdid_withAllmSupport (allmSupport : Bool) :
    (withAllmSupport port allmSupport state).portEdid =
      Function.update state.portEdid port
        ((state.portEdid port).withAllmSupport allmSupport) := by
  have given := boolString_ne allmSupport
  refine funext fun other => ?_
  simp only [withAllmSupport, portEdid, edidallmKey_eq,
    find?_persistPort state.properties edidallmEnable_mem given port other edidversion_mem,
    find?_persistPort state.properties edidallmEnable_mem given port other edidallmEnable_mem,
    find?_persistPort state.properties edidallmEnable_mem given port other vrrEnable_mem,
    findDefault?_persistPort state.properties given]
  by_cases same : other = port
  · subst same
    by_cases last : other = .port4 <;> simp [PortEdid.withAllmSupport, last]
  · simp [same, portEdid]

theorem portEdid_withVrrSupport (vrrSupport : Bool) :
    (withVrrSupport port vrrSupport state).portEdid =
      Function.update state.portEdid port
        ((state.portEdid port).withVrrSupport vrrSupport) := by
  have given := boolString_ne vrrSupport
  refine funext fun other => ?_
  simp only [withVrrSupport, portEdid, vrrKey_eq,
    find?_persistPort state.properties vrrEnable_mem given port other edidversion_mem,
    find?_persistPort state.properties vrrEnable_mem given port other edidallmEnable_mem,
    find?_persistPort state.properties vrrEnable_mem given port other vrrEnable_mem,
    findDefault?_persistPort state.properties given]
  by_cases same : other = port
  · subst same
    by_cases last : other = .port4 <;> simp [PortEdid.withVrrSupport, last]
  · simp [same, portEdid]

/-- A setter of the implementation is the setter of its port. -/
theorem portEdid_call (call : HdmiInCall) :
    let own := (state.portEdid call.port).call (answers.forPort call.port) call.forPort
    (state.call answers call).1 = own.1 ∧
      (state.call answers call).2.portEdid = Function.update state.portEdid call.port own.2 := by
  have version : ∀ port, (state.portEdid port).edidversion = state.edidversion port :=
    fun _ => rfl
  cases call with
  | setHDMIEdidVersion port edidVersion =>
      exact portEdid_conclude (state.portEdid_setEdidVersion answers port edidVersion)
        fun state => state.portEdid_withEdidVersion port edidVersion
  | setHDMIInEdid2AllmSupport port allmSupport =>
      simp only [HdmiInState.call, setHDMIInEdid2AllmSupport, HdmiInCall.forPort, HdmiInCall.port,
        PortEdid.call, version]
      split_ifs
      · exact portEdid_conclude (state.portEdid_setEdid2AllmSupport answers port allmSupport)
          fun state => state.portEdid_withAllmSupport port allmSupport
      · exact ⟨rfl, (Function.update_eq_self port state.portEdid).symm⟩
  | setVRRSupport port vrrSupport =>
      simp only [HdmiInState.call, setPortVRRSupport, HdmiInCall.forPort, HdmiInCall.port,
        PortEdid.call, version]
      split_ifs
      · exact portEdid_conclude (state.portEdid_setVRRSupport answers port vrrSupport)
          fun state => state.portEdid_withVrrSupport port vrrSupport
      · exact ⟨rfl, (Function.update_eq_self port state.portEdid).symm⟩

end HdmiInState

/-! ### The startup code goes through the ports -/

theorem mem_supportedPorts {port : DsHdmiInPort} {inputs : Nat} :
    port ∈ supportedPorts inputs ↔ port.index < inputs := by
  rcases inputs with _ | _ | _ | _ | _ | inputs <;> cases port <;>
    simp [supportedPorts, DsHdmiInPort.index]

theorem nodup_supportedPorts (inputs : Nat) : (supportedPorts inputs).Nodup :=
  (List.take_sublist inputs allPorts).nodup (by decide)

theorem readEdidVersion_eq (properties : LoadedStore) (port : DsHdmiInPort) :
    readEdidVersion properties port =
      (((properties.find? (portProperty port ".edidversion")).or
        (properties.findDefault? (portProperty port ".edidversion"))).map atoi).getD
          hdmiEdidVer20 := by
  have named := portProperty_ne port ".edidversion"
  simp only [readEdidVersion, properties.getProperty_eq named,
    properties.getDefaultProperty_eq named]
  cases properties.find? (portProperty port ".edidversion") with
  | some text => rfl
  | none => cases properties.findDefault? (portProperty port ".edidversion") <;> rfl

theorem getHdmiInPortPersistValue_eq (properties : LoadedStore) {name : String}
    (named : name ≠ "") :
    getHdmiInPortPersistValue properties name =
      decide ((properties.find? name).getD "TRUE" = "TRUE") := by
  rw [getHdmiInPortPersistValue, properties.getPropertyOr_eq named]

namespace HdmiInState

variable (answers : HdmiInAnswers) (state : HdmiInState) (port : DsHdmiInPort)

theorem portEdid_loadPorts {ports : List DsHdmiInPort} (nodup : ports.Nodup) :
    (state.loadPorts answers ports).portEdid port =
      if port ∈ ports then (state.portEdid port).load (answers.forPort port)
      else state.portEdid port := by
  have allm := foldl_update (fun itr _ => getHdmiInPortPersistValue state.properties
    (portProperty itr ".edidallmEnable")) nodup state.edidallmsupport port
  have vrr := foldl_update (fun itr _ => getHdmiInPortPersistValue state.properties
    (portProperty itr ".vrrEnable")) nodup state.vrrsupport port
  have version := foldl_update (fun itr _ => readEdidVersion state.properties itr) nodup
    state.edidversion port
  have caps := foldl_update (fun itr cap => (answers.dsHdmiInGetVRRSupport itr).getD cap) nodup
    state.hdmiPortVrrCaps port
  simp only [portEdid, loadPorts, allm, vrr, version, caps]
  split_ifs
  · simp only [PortEdid.load, PortEdid.foundVersion, PortEdid.foundAllm, PortEdid.foundVrr,
      HdmiInAnswers.forPort, readEdidVersion_eq,
      getHdmiInPortPersistValue_eq _ (portProperty_ne port _)]
  · rfl

/-- The last loop of the startup code. -/
theorem portEdid_tellPorts {ports : List DsHdmiInPort} (nodup : ports.Nodup) :
    (ports.foldl (fun state itr => (state.setEdidVersion answers itr (state.edidversion itr)).2)
      state).portEdid port =
      if port ∈ ports then
        ((state.portEdid port).setEdidVersion (answers.forPort port) (state.edidversion port)).2
      else state.portEdid port := by
  induction ports generalizing state with
  | nil => rfl
  | cons first rest ih =>
      obtain ⟨fresh, nodup⟩ := List.nodup_cons.mp nodup
      have moved := (state.portEdid_setEdidVersion answers first (state.edidversion first)).2
      rw [List.foldl_cons, ih _ nodup]
      by_cases same : port = first
      · subst same
        rw [if_neg fresh, if_pos List.mem_cons_self, moved, Function.update_self]
      · have stays := congrFun moved port
        rw [Function.update_of_ne same] at stays
        have version := congrArg PortEdid.edidversion stays
        simp only [portEdid] at version
        simp only [List.mem_cons, same, false_or, stays, version]

/-- Behind the startup code every supported port has had its startup. -/
theorem portEdid_getPersistenceValue (begins : state.hdmiInInitialized = false)
    (platform : state.hdmiInPlatInitialized ≠ 0) (inputs : Nat) :
    (state.getPersistenceValue answers inputs).portEdid port =
      if port.index < inputs then (state.portEdid port).start (answers.forPort port)
      else state.portEdid port := by
  have nodup := nodup_supportedPorts inputs
  have loaded := state.portEdid_loadPorts answers port nodup
  have told := (state.loadPorts answers (supportedPorts inputs)).portEdid_tellPorts answers port
    nodup
  have version := congrArg PortEdid.edidversion loaded
  rw [getPersistenceValue, if_pos ⟨begins, platform⟩]
  refine told.trans ?_
  simp only [← mem_supportedPorts]
  split_ifs with member
  · rw [if_pos member] at loaded version
    rw [loaded, PortEdid.start]
    exact congrArg (fun found => (((state.portEdid port).load
      (answers.forPort port)).setEdidVersion (answers.forPort port) found).2) version
  · rw [if_neg member] at loaded
    exact loaded

end HdmiInState
end DeviceSettings.HdmiIn
