import DeviceSettings.Hal
import DeviceSettings.Persistence.LoadedStore
import DeviceSettings.Std.CString
import Mathlib.Logic.Function.Basic

/-!
# The EDID of the HDMI inputs

The EDID version of a port and the ALLM and VRR bits of an EDID 2.0, as `dHdmiInImpl` keeps them:
in static arrays, in the store and in the HAL. Every call of the HAL may be refused; what it
accepted last is recorded port by port.
-/

namespace DeviceSettings.HdmiIn

open DeviceSettings.Std
open DeviceSettings.Persistence

/-- The ports of `dsHdmiInPort_t`; `dsHDMI_IN_PORT_NONE` and `dsHDMI_IN_PORT_MAX` are none. -/
inductive DsHdmiInPort where
  | port0
  | port1
  | port2
  | port3
  | port4
  deriving DecidableEq, Repr

def DsHdmiInPort.index : DsHdmiInPort → Nat
  | .port0 => 0
  | .port1 => 1
  | .port2 => 2
  | .port3 => 3
  | .port4 => 4

/-- `dsHDMI_IN_PORT_MAX`, the size of the arrays. -/
def dsHdmiInPortMax : Nat := 5

/-- The ports a loop up to the number of inputs goes through; the HAL reports at most
`dsHDMI_IN_PORT_MAX` of them. -/
def supportedPorts (inputs : Nat) : List DsHdmiInPort :=
  [.port0, .port1, .port2, .port3, .port4].take inputs

/-- The values of `tv_hdmi_edid_version_t`. The startup code casts any number to it. -/
def hdmiEdidVer14 : Int := 0
def hdmiEdidVer20 : Int := 1

/-- What the HAL accepted last for each port. -/
structure HdmiInHal where
  edidVersion : DsHdmiInPort → Option Int
  edid2Allm : DsHdmiInPort → Option Bool
  vrr : DsHdmiInPort → Option Bool

/-- How the HAL answers during one operation. A symbol that `resolve` does not find is like a
call that is refused with `dsERR_GENERAL`. -/
structure HdmiInAnswers where
  /-- What is written through the pointer, if anything is. -/
  dsHdmiInGetVRRSupport : DsHdmiInPort → Option Bool
  dsSetEdidVersion : DsHdmiInPort → Except DsError Unit
  dsSetEdid2AllmSupport : DsHdmiInPort → Except DsError Unit
  dsHdmiInSetVRRSupport : DsHdmiInPort → Except DsError Unit
  /-- The second of the two calls that `setVRRSupport` makes. -/
  dsHdmiInSetVRRSupportAgain : DsHdmiInPort → Except DsError Unit

/-- The static variables of `dHdmiInImpl`, with the HAL and the store. -/
structure HdmiInState where
  hdmiInInitialized : Bool
  hdmiInPlatInitialized : Nat
  edidallmsupport : DsHdmiInPort → Bool
  vrrsupport : DsHdmiInPort → Bool
  hdmiPortVrrCaps : DsHdmiInPort → Bool
  edidversion : DsHdmiInPort → Int
  hal : HdmiInHal
  properties : LoadedStore

/-- The property that `updateEdidAllmBitValuesInPersistence` writes. -/
def edidallmKey : DsHdmiInPort → Option String
  | .port0 => some "HDMI0.edidallmEnable"
  | .port1 => some "HDMI1.edidallmEnable"
  | .port2 => some "HDMI2.edidallmEnable"
  | .port3 => some "HDMI3.edidallmEnable"
  | .port4 => none

/-- The property that `updateVRRBitValuesInPersistence` writes. -/
def vrrKey : DsHdmiInPort → Option String
  | .port0 => some "HDMI0.vrrEnable"
  | .port1 => some "HDMI1.vrrEnable"
  | .port2 => some "HDMI2.vrrEnable"
  | .port3 => some "HDMI3.vrrEnable"
  | .port4 => none

/-- The property that `setEdidVersion` writes. -/
def edidversionKey : DsHdmiInPort → Option String
  | .port0 => some "HDMI0.edidversion"
  | .port1 => some "HDMI1.edidversion"
  | .port2 => some "HDMI2.edidversion"
  | .port3 => some "HDMI3.edidversion"
  | .port4 => none

/-- The name of a property as `getPersistenceValue` builds it. -/
def portProperty (port : DsHdmiInPort) (property : String) : String :=
  "HDMI" ++ toString port.index ++ property

/-- What a call leaves in a register of the HAL. -/
def accept {β : Type} (answer : Except DsError Unit) (register : DsHdmiInPort → Option β)
    (port : DsHdmiInPort) (value : β) : DsHdmiInPort → Option β :=
  match answer with
  | .ok _ => Function.update register port (some value)
  | .error _ => register

/-- A property where the port has one; the values are not empty, so nothing is thrown. -/
def persistPort (properties : LoadedStore) (key : Option String) (value : String) : LoadedStore :=
  match key with
  | some key => properties.persist key value
  | none => properties

/-- `getHdmiInPortPersistValue(propertyName, portIndex)`. -/
def getHdmiInPortPersistValue (properties : LoadedStore) (propertyName : String) : Bool :=
  match properties.getPropertyOr propertyName "TRUE" with
  | .ok value => value = "TRUE"
  | .error _ => true

/-- The EDID version the startup code finds for a port. -/
def readEdidVersion (properties : LoadedStore) (port : DsHdmiInPort) : Int :=
  let portEdidVer := portProperty port ".edidversion"
  match properties.getProperty portEdidVer with
  | .ok edidVersion => atoi edidVersion
  | .error _ =>
    match properties.getDefaultProperty portEdidVer with
    | .ok edidVersion => atoi edidVersion
    | .error _ => hdmiEdidVer20

/-- A bit as a property value. -/
def boolString (value : Bool) : String := if value then "TRUE" else "FALSE"

/-- The end of a setter: `finish` where the call of the HAL has succeeded. -/
def conclude {α : Type} (told : Except DsError Unit × α) (finish : α → α) :
    Except CoreError Unit × α :=
  match told with
  | (.ok _, state) => (.ok (), finish state)
  | (.error _, state) => (.error .general, state)

namespace HdmiInState

variable (answers : HdmiInAnswers)

/-- `setVRRSupport(iHdmiPort, vrrSupport)`: the answer is the one of the second call. -/
def setVRRSupport (state : HdmiInState) (port : DsHdmiInPort) (vrrSupport : Bool) :
    Except DsError Unit × HdmiInState :=
  if state.hdmiPortVrrCaps port = false then (.error .operationNotSupported, state)
  else
    let once := accept (answers.dsHdmiInSetVRRSupport port) state.hal.vrr port vrrSupport
    let twice := accept (answers.dsHdmiInSetVRRSupportAgain port) once port vrrSupport
    (answers.dsHdmiInSetVRRSupportAgain port, { state with hal.vrr := twice })

/-- `setEdid2AllmSupport(iHdmiPort, allmSupport)`. -/
def setEdid2AllmSupport (state : HdmiInState) (port : DsHdmiInPort) (allmSupport : Bool) :
    Except DsError Unit × HdmiInState :=
  (answers.dsSetEdid2AllmSupport port,
    { state with
      hal.edid2Allm :=
        accept (answers.dsSetEdid2AllmSupport port) state.hal.edid2Allm port allmSupport })

/-- `setEdidVersion(iHdmiPort, iEdidVersion)`: behind a change to 2.0 the two bits are told to the
HAL once more, and the answers are dropped. -/
def setEdidVersion (state : HdmiInState) (port : DsHdmiInPort) (edidVersion : Int) :
    Except DsError Unit × HdmiInState :=
  match answers.dsSetEdidVersion port with
  | .error error => (.error error, state)
  | .ok _ =>
    let state := { state with
      hal.edidVersion := Function.update state.hal.edidVersion port (some edidVersion)
      properties := persistPort state.properties (edidversionKey port) (toString edidVersion) }
    if edidVersion = hdmiEdidVer20 then
      let state := (state.setEdid2AllmSupport answers port (state.edidallmsupport port)).2
      (.ok (), (state.setVRRSupport answers port (state.vrrsupport port)).2)
    else (.ok (), state)

/-- The state behind a setter that the HAL has accepted. -/
def withEdidVersion (port : DsHdmiInPort) (edidVersion : Int) (state : HdmiInState) :
    HdmiInState :=
  { state with edidversion := Function.update state.edidversion port edidVersion }

def withAllmSupport (port : DsHdmiInPort) (allmSupport : Bool) (state : HdmiInState) :
    HdmiInState :=
  { state with
    properties := persistPort state.properties (edidallmKey port) (boolString allmSupport)
    edidallmsupport := Function.update state.edidallmsupport port allmSupport }

def withVrrSupport (port : DsHdmiInPort) (vrrSupport : Bool) (state : HdmiInState) :
    HdmiInState :=
  { state with
    properties := persistPort state.properties (vrrKey port) (boolString vrrSupport)
    vrrsupport := Function.update state.vrrsupport port vrrSupport }

/-- `SetHDMIEdidVersion(port, edidVersion)`. -/
def setHDMIEdidVersion (state : HdmiInState) (port : DsHdmiInPort) (edidVersion : Int) :
    Except CoreError Unit × HdmiInState :=
  conclude (state.setEdidVersion answers port edidVersion) (withEdidVersion port edidVersion)

/-- `SetHDMIInEdid2AllmSupport(port, allmSupport)`. -/
def setHDMIInEdid2AllmSupport (state : HdmiInState) (port : DsHdmiInPort) (allmSupport : Bool) :
    Except CoreError Unit × HdmiInState :=
  if state.edidversion port = hdmiEdidVer20 then
    conclude (state.setEdid2AllmSupport answers port allmSupport)
      (withAllmSupport port allmSupport)
  else (.error .unavailable, state)

/-- `SetVRRSupport(port, vrrSupport)`. -/
def setPortVRRSupport (state : HdmiInState) (port : DsHdmiInPort) (vrrSupport : Bool) :
    Except CoreError Unit × HdmiInState :=
  if state.edidversion port = hdmiEdidVer20 then
    conclude (state.setVRRSupport answers port vrrSupport) (withVrrSupport port vrrSupport)
  else (.error .unavailable, state)

/-- The first loops of `getPersistenceValue`: the arrays from the store and from the HAL. -/
def loadPorts (state : HdmiInState) (ports : List DsHdmiInPort) : HdmiInState :=
  let properties := state.properties
  { state with
    edidallmsupport := ports.foldl (fun supports itr => Function.update supports itr
      (getHdmiInPortPersistValue properties (portProperty itr ".edidallmEnable")))
      state.edidallmsupport
    vrrsupport := ports.foldl (fun supports itr => Function.update supports itr
      (getHdmiInPortPersistValue properties (portProperty itr ".vrrEnable")))
      state.vrrsupport
    edidversion := ports.foldl (fun versions itr => Function.update versions itr
      (readEdidVersion properties itr)) state.edidversion
    hdmiPortVrrCaps := ports.foldl (fun caps itr => Function.update caps itr
      ((answers.dsHdmiInGetVRRSupport itr).getD (caps itr))) state.hdmiPortVrrCaps }

/-- `getPersistenceValue()`; `inputs` is what `dsHdmiInGetNumberOfInputs` has left in its
variable, 0 where it failed. -/
def getPersistenceValue (state : HdmiInState) (inputs : Nat) : HdmiInState :=
  if state.hdmiInInitialized = false ∧ state.hdmiInPlatInitialized ≠ 0 then
    let loaded := state.loadPorts answers (supportedPorts inputs)
    let told := (supportedPorts inputs).foldl (fun state itr =>
      (state.setEdidVersion answers itr (state.edidversion itr)).2) loaded
    { told with hdmiInInitialized := true }
  else state

/-- A new process on a television, where `InitialiseHAL` has run. -/
def fresh (hal : HdmiInHal) (properties : LoadedStore) : HdmiInState where
  hdmiInInitialized := false
  hdmiInPlatInitialized := 1
  edidallmsupport _ := false
  vrrsupport _ := false
  hdmiPortVrrCaps _ := false
  edidversion _ := hdmiEdidVer14
  hal := hal
  properties := properties

end HdmiInState

/-- The setters. -/
inductive HdmiInCall where
  | setHDMIEdidVersion (port : DsHdmiInPort) (edidVersion : Int)
  | setHDMIInEdid2AllmSupport (port : DsHdmiInPort) (allmSupport : Bool)
  | setVRRSupport (port : DsHdmiInPort) (vrrSupport : Bool)
  deriving DecidableEq, Repr

/-- The port a call is for. -/
def HdmiInCall.port : HdmiInCall → DsHdmiInPort
  | .setHDMIEdidVersion port _ | .setHDMIInEdid2AllmSupport port _ | .setVRRSupport port _ => port

/-- A call with what it returns. -/
def HdmiInState.call (answers : HdmiInAnswers) (state : HdmiInState) :
    HdmiInCall → Except CoreError Unit × HdmiInState
  | .setHDMIEdidVersion port edidVersion => state.setHDMIEdidVersion answers port edidVersion
  | .setHDMIInEdid2AllmSupport port allmSupport =>
    state.setHDMIInEdid2AllmSupport answers port allmSupport
  | .setVRRSupport port vrrSupport => state.setPortVRRSupport answers port vrrSupport

end DeviceSettings.HdmiIn
