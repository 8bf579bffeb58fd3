import DeviceSettings.Hal
import DeviceSettings.Persistence.Durable
import DeviceSettings.Std.Decimal
import DeviceSettings.Std.Machine

/-!
# The front panel

`dFPDImpl` caches what it has told the HAL for each indicator, and keeps one brightness and one
colour of the power LED in the store. The HAL is initialised by the first call that needs it, and
the store is read behind that.
-/

namespace DeviceSettings.FrontPanel

open DeviceSettings.Std
open DeviceSettings.Persistence

/-- `FPDState`. -/
inductive FpdState where
  | off
  | on
  | other (state : Nat)
  deriving DecidableEq, Repr

/-- The calls of the HAL and the constants of its header. The `switch` of `SetFPDColor` compiles
only where its labels differ. -/
structure FpdHal (σ : Type) where
  dsFPInit : σ → Except DsError Unit × σ
  dsFPTerm : σ → σ
  dsSetFPBrightness : σ → Nat → UInt32 → Except DsError Unit × σ
  dsGetFPBrightness : σ → Nat → Except DsError UInt32
  dsSetFPColor : σ → Nat → UInt32 → Except DsError Unit × σ
  dsGetFPColor : σ → Nat → Except DsError UInt32
  dsSetFPDMode : σ → Nat → Except DsError Unit × σ
  indicatorPower : Nat
  indicatorMax : Nat
  brightnessMax : UInt32
  brightnessDefault : UInt32
  dsFPDColorIsValid : UInt32 → Bool
  blue : UInt32
  green : UInt32
  red : UInt32
  yellow : UInt32
  orange : UInt32
  labels : [green, red, yellow, orange].Nodup

/-- `_FPDSettings_t`. -/
structure FpdSettings where
  brightness : UInt32
  state : FpdState
  color : UInt32
  deriving DecidableEq, Repr

/-- The calls that change something in the HAL. -/
inductive FpdEffect where
  | dsFPInit (accepted : Bool)
  | dsFPTerm
  | dsSetFPBrightness (indicator : Nat) (brightness : UInt32) (accepted : Bool)
  | dsSetFPColor (indicator : Nat) (color : UInt32) (accepted : Bool)
  | dsSetFPDMode (mode : Nat) (accepted : Bool)
  deriving DecidableEq, Repr

/-- The HAL, the statics of `dFPDImpl.h` and the property store behind its first use. -/
structure Panel (σ : Type) where
  hal : σ
  isInitialized : Bool
  isPlatInitialized : Bool
  srvFPDSettings : Nat → FpdSettings
  dsPowerBrightness : UInt32
  dsTextBrightness : UInt32
  dsPowerLedColor : UInt32
  store : LoadedStore

def powerBrightnessKey : String := "Power.brightness"

def textBrightnessKey : String := "Text.brightness"

def powerColorKey : String := "Power.Color"

/-- A call has been accepted by the HAL. -/
def accepted {α : Type} : Except DsError α → Bool
  | .ok _ => true
  | .error _ => false

section Constants

variable {σ : Type} (hal : FpdHal σ)

/-- The colour that `EnsurePlatInit` makes of `Power.Color`. -/
def colorOf (colorStr : String) : UInt32 :=
  if colorStr = "GREEN" then hal.green
  else if colorStr = "RED" then hal.red
  else if colorStr = "YELLOW" then hal.yellow
  else if colorStr = "ORANGE" then hal.orange
  else hal.blue

/-- The text that `SetFPDColor` makes of a colour: orange is kept as red. -/
def colorStr (color : UInt32) : String :=
  if color = hal.green then "GREEN"
  else if color = hal.red then "RED"
  else if color = hal.yellow then "YELLOW"
  else if color = hal.orange then "RED"
  else "BLUE"

/-- `static_cast<dsFPDBrightness_t>(atoi(value.c_str()))`. -/
def brightnessOf (value : String) : UInt32 := UInt32.ofInt (atoi value)

/-- The `#if` behind the look-ups, for a board with a default of its own. -/
def defaulted (brightness : UInt32) : UInt32 :=
  if hal.brightnessDefault ≠ hal.brightnessMax ∧ brightness = hal.brightnessMax then
    hal.brightnessDefault
  else brightness

/-- The loop around `dsFPInit`, with the attempts that are left. -/
def retryInit : Nat → σ → Bool × σ × List FpdEffect
  | 0, state => (false, state, [])
  | tries + 1, state =>
    match hal.dsFPInit state with
    | (.ok _, after) => (true, after, [.dsFPInit true])
    | (.error _, after) =>
      let rest := retryInit tries after
      (rest.1, rest.2.1, .dsFPInit false :: rest.2.2)

end Constants

namespace Panel

variable {σ : Type} (hal : FpdHal σ)

/-- The statics of a new process. -/
def ofProcess (state : σ) (store : LoadedStore) : Panel σ where
  hal := state
  isInitialized := false
  isPlatInitialized := false
  srvFPDSettings := fun _ => ⟨0, .off, 0⟩
  dsPowerBrightness := hal.brightnessMax
  dsTextBrightness := hal.brightnessMax
  dsPowerLedColor := hal.blue
  store := store

/-- `InitialiseHAL()`. -/
def initialiseHAL (panel : Panel σ) : Panel σ :=
  if panel.isInitialized then panel
  else
    { panel with
      srvFPDSettings := fun indicator =>
        if indicator < hal.indicatorMax then ⟨hal.brightnessMax, .off, hal.blue⟩
        else panel.srvFPDSettings indicator
      isInitialized := true }

/-- `DeInitialiseHAL()`. -/
def deInitialiseHAL (panel : Panel σ) : Panel σ × List FpdEffect :=
  if panel.isPlatInitialized then
    ({ panel with
      hal := hal.dsFPTerm panel.hal, isPlatInitialized := false, isInitialized := false },
      [.dsFPTerm])
  else ({ panel with isInitialized := false }, [])

/-- A brightness property; one that is not there is persisted with the default. -/
def readBrightness (store : LoadedStore) (key : String) : UInt32 × LoadedStore :=
  match store.getProperty key with
  | .ok value => (brightnessOf value, store)
  | .error _ =>
    let value := toString hal.brightnessDefault.toNat
    (brightnessOf value, store.persist key value)

/-- What `EnsurePlatInit` does behind a successful `dsFPInit`. -/
def readPersistence (panel : Panel σ) : Panel σ :=
  let power := readBrightness hal panel.store powerBrightnessKey
  let text := readBrightness hal power.2 textBrightnessKey
  let colorStr :=
    match text.2.getProperty powerColorKey with
    | .ok value => value
    | .error _ => "BLUE"
  { panel with
    isPlatInitialized := true
    dsPowerBrightness := defaulted hal power.1
    dsTextBrightness := defaulted hal text.1
    dsPowerLedColor := colorOf hal colorStr
    store := text.2 }

/-- `EnsurePlatInit()`. -/
def ensurePlatInit (panel : Panel σ) : Bool × Panel σ × List FpdEffect :=
  if panel.isPlatInitialized then (true, panel, [])
  else
    let tried := retryInit hal 20 panel.hal
    let panel := { panel with hal := tried.2.1 }
    if tried.1 then (true, panel.readPersistence hal, tried.2.2) else (false, panel, tried.2.2)

def setSettings (panel : Panel σ) (indicator : Nat) (change : FpdSettings → FpdSettings) :
    Panel σ :=
  { panel with
    srvFPDSettings :=
      Function.update panel.srvFPDSettings indicator (change (panel.srvFPDSettings indicator)) }

/-- The result of a call with its panel and the HAL calls it has made. -/
abbrev Called (σ α : Type) := Except CoreError α × Panel σ × List FpdEffect

/-- A call fails where `EnsurePlatInit` does, and goes on with `act` where not. -/
def behindPlatInit {α : Type} (panel : Panel σ) (act : Panel σ → Called σ α) :
    Called σ α :=
  let ensured := panel.ensurePlatInit hal
  if ensured.1 then
    let called := act ensured.2.1
    (called.1, called.2.1, ensured.2.2 ++ called.2.2)
  else (.error .general, ensured.2)

/-- `dsSetFPBrightness`, and what is done where it succeeds. -/
def callBrightness (panel : Panel σ) (indicator : Nat) (brightness : UInt32)
    (finish : Panel σ → Panel σ) : Called σ Unit :=
  let called := hal.dsSetFPBrightness panel.hal indicator brightness
  let effect := FpdEffect.dsSetFPBrightness indicator brightness (accepted called.1)
  let panel := { panel with hal := called.2 }
  match called.1 with
  | .ok _ => (.ok (), finish panel, [effect])
  | .error _ => (.error .general, panel, [effect])

/-- `SetFPDBrightness(indicator, brightNess, persist)`. -/
def setFPDBrightness (panel : Panel σ) (indicator : Nat) (brightNess : UInt32)
    (persist : Bool) : Called σ Unit :=
  panel.behindPlatInit hal fun panel =>
    if indicator < hal.indicatorMax ∧ brightNess ≤ hal.brightnessMax then
      panel.callBrightness hal indicator brightNess fun panel =>
        let panel := panel.setSettings indicator fun settings =>
          { settings with brightness := brightNess }
        if indicator = hal.indicatorPower ∧ persist = true then
          { panel with
            dsPowerBrightness := brightNess
            store := panel.store.persist powerBrightnessKey (toString brightNess.toNat) }
        else panel
    else (.error .general, panel, [])

/-- `GetFPDBrightness(indicator, brightNess, persist)`; a failure of the HAL leaves 0. -/
def getFPDBrightness (panel : Panel σ) (indicator : Nat) (persist : Bool) :
    Called σ UInt32 :=
  panel.behindPlatInit hal fun panel =>
    if indicator < hal.indicatorMax then
      let halBrightness :=
        match hal.dsGetFPBrightness panel.hal indicator with
        | .ok brightness => brightness
        | .error _ => 0
      (.ok (if persist then panel.dsPowerBrightness else halBrightness), panel, [])
    else (.error .general, panel, [])

/-- `SetFPDState(indicator, state)`: the brightness of the power LED is that of all. -/
def setFPDState (panel : Panel σ) (indicator : Nat) (state : FpdState) : Called σ Unit :=
  panel.behindPlatInit hal fun panel =>
    let finish := fun panel : Panel σ =>
      panel.setSettings indicator fun settings => { settings with state := state }
    if indicator < hal.indicatorMax then
      match state with
      | .on => panel.callBrightness hal indicator panel.dsPowerBrightness finish
      | .off => panel.callBrightness hal indicator 0 finish
      | .other _ => (.ok (), finish panel, [])
    else (.error .general, panel, [])

/-- `GetFPDState(indicator, state)`. -/
def getFPDState (panel : Panel σ) (indicator : Nat) : Called σ FpdState :=
  panel.behindPlatInit hal fun panel =>
    if indicator < hal.indicatorMax then
      (.ok (panel.srvFPDSettings indicator).state, panel, [])
    else (.error .general, panel, [])

/-- `GetFPDColor(indicator, color)`: the HAL's colour is cached, and the cached one answered where
the HAL fails. -/
def getFPDColor (panel : Panel σ) (indicator : Nat) : Called σ UInt32 :=
  panel.behindPlatInit hal fun panel =>
    if indicator < hal.indicatorMax then
      match hal.dsGetFPColor panel.hal indicator with
      | .ok halColor =>
        (.ok halColor,
          panel.setSettings indicator fun settings => { settings with color := halColor }, [])
      | .error _ => (.ok (panel.srvFPDSettings indicator).color, panel, [])
    else (.error .general, panel, [])

/-- The colour that `SetFPDColor` caches and keeps. -/
def maskedColor (color : UInt32) : UInt32 := color &&& 0x00FFFFFF

/-- `SetFPDColor(indicator, color)`. -/
def setFPDColor (panel : Panel σ) (indicator : Nat) (color : UInt32) : Called σ Unit :=
  panel.behindPlatInit hal fun panel =>
    if indicator < hal.indicatorMax ∧ hal.dsFPDColorIsValid color = true then
      let called := hal.dsSetFPColor panel.hal indicator color
      let effect := FpdEffect.dsSetFPColor indicator color (accepted called.1)
      let panel := { panel with hal := called.2 }
      match called.1 with
      | .ok _ =>
        let panel := panel.setSettings indicator fun settings =>
          { settings with color := maskedColor color }
        if indicator = hal.indicatorPower then
          (.ok (), { panel with
            dsPowerLedColor := maskedColor color
            store := panel.store.persist powerColorKey (colorStr hal (maskedColor color)) },
            [effect])
        else (.ok (), panel, [effect])
      | .error _ => (.error .general, panel, [effect])
    else (.error .general, panel, [])

/-- `SetFPDMode(fpdMode)`, which does not ask for the initialisation. -/
def setFPDMode (panel : Panel σ) (mode : Nat) : Called σ Unit :=
  let called := hal.dsSetFPDMode panel.hal mode
  let effect := FpdEffect.dsSetFPDMode mode (accepted called.1)
  let panel := { panel with hal := called.2 }
  match called.1 with
  | .ok _ => (.ok (), panel, [effect])
  | .error _ => (.error .general, panel, [effect])

end Panel

/-! ### Runs -/

/-- What a call answers with. -/
inductive FpdAnswer where
  | done
  | brightness (value : UInt32)
  | state (value : FpdState)
  | color (value : UInt32)
  deriving DecidableEq, Repr

/-- The calls of the plugin interface; the deprecated ones do nothing. -/
inductive FpdCall where
  | setFPDBrightness (indicator : Nat) (brightNess : UInt32) (persist : Bool)
  | getFPDBrightness (indicator : Nat) (persist : Bool)
  | setFPDState (indicator : Nat) (state : FpdState)
  | getFPDState (indicator : Nat)
  | setFPDColor (indicator : Nat) (color : UInt32)
  | getFPDColor (indicator : Nat)
  | setFPDMode (mode : Nat)
  deriving DecidableEq, Repr

/-- What the outside sees of a step. -/
inductive FpdOutput where
  | effect (effect : FpdEffect)
  | returned (result : Except CoreError FpdAnswer)

namespace Panel

variable {σ : Type} (hal : FpdHal σ)

def answered {α : Type} (called : Called σ α) (answer : α → FpdAnswer) : Called σ FpdAnswer :=
  (called.1.map answer, called.2)

/-- A call of the interface on the panel. -/
def make (panel : Panel σ) : FpdCall → Called σ FpdAnswer
  | .setFPDBrightness indicator brightNess persist =>
    answered (panel.setFPDBrightness hal indicator brightNess persist) fun _ => .done
  | .getFPDBrightness indicator persist =>
    answered (panel.getFPDBrightness hal indicator persist) .brightness
  | .setFPDState indicator state =>
    answered (panel.setFPDState hal indicator state) fun _ => .done
  | .getFPDState indicator => answered (panel.getFPDState hal indicator) .state
  | .setFPDColor indicator color =>
    answered (panel.setFPDColor hal indicator color) fun _ => .done
  | .getFPDColor indicator => answered (panel.getFPDColor hal indicator) .color
  | .setFPDMode mode => answered (panel.setFPDMode hal mode) fun _ => .done

end Panel

/-- The panel's object is constructed or destructed, a call is made on it, or another component
persists a property. -/
inductive FpdAction where
  | initialiseHAL
  | deInitialiseHAL
  | call (call : FpdCall)
  | otherProperty (key value : String)
  deriving DecidableEq, Repr

def panelKeys : List String := [powerBrightnessKey, textBrightnessKey, powerColorKey]

/-- One step of a process; there is one object at a time. -/
def Panel.step {σ : Type} (hal : FpdHal σ) (panel : Panel σ) :
    FpdAction → Option (Panel σ × List FpdOutput)
  | .initialiseHAL => if panel.isInitialized then none else some (panel.initialiseHAL hal, [])
  | .deInitialiseHAL =>
    if panel.isInitialized then
      let left := panel.deInitialiseHAL hal
      some (left.1, left.2.map .effect)
    else none
  | .call call =>
    if panel.isInitialized then
      let called := panel.make hal call
      some (called.2.1, called.2.2.map .effect ++ [.returned called.1])
    else none
  | .otherProperty key value =>
    if key ∈ panelKeys then none
    else some ({ panel with store := panel.store.persist key value }, [])

/-- The front panel in one process. -/
def frontPanel {σ : Type} (hal : FpdHal σ) : Machine (Panel σ) FpdAction FpdOutput :=
  ⟨Panel.step hal⟩

abbrev FpdStep (σ : Type) := Occurrence (Panel σ) FpdAction FpdOutput

end DeviceSettings.FrontPanel
