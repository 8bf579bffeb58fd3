import DeviceSettings.Hal
import DeviceSettings.Std.Machine
import Mathlib.Logic.Function.Basic

/-!
# Selecting a composite input

`SelectCompositeInPort` of `dCompositeInAIDLImpl` stops the active port, then registers a
listener, opens and starts the new one, and undoes what it has done when one of these fails.
In every run at most one port is open, and it is the active one.
-/

namespace DeviceSettings.CompositeIn

open DeviceSettings.Std

/-! ### The inputs of the HAL -/

/-- An open port: its controller, the listener that `open` was given, and whether it runs. -/
structure OpenPort where
  controller : Nat
  controllerListener : Nat
  started : Bool
  deriving DecidableEq, Repr

/-- What the service keeps. -/
structure CompositeInputHal where
  ports : Int → Option OpenPort
  eventListeners : List (Int × Nat)
  nextController : Nat

/-- What `open` does on a port that is not open; the status may be fine without a
controller. -/
inductive OpenReply where
  | fails
  | noController
  | opens
  deriving DecidableEq, Repr

namespace CompositeInputHal

def registerEventListener (hal : CompositeInputHal) (port : Int) (listener : Nat)
    (accepts : Bool) : Bool × CompositeInputHal :=
  if accepts then (true, { hal with eventListeners := hal.eventListeners ++ [(port, listener)] })
  else (false, hal)

def unregisterEventListener (hal : CompositeInputHal) (port : Int) (listener : Nat) :
    CompositeInputHal :=
  { hal with eventListeners := hal.eventListeners.filter fun held => held != (port, listener) }

/-- `open(controllerListener, &controller)`; it fails on a port that is open. -/
def openPort (hal : CompositeInputHal) (port : Int) (listener : Nat) (reply : OpenReply) :
    Option Nat × CompositeInputHal :=
  match hal.ports port, reply with
  | none, .opens =>
    (some hal.nextController,
      { hal with
        ports := Function.update hal.ports port (some ⟨hal.nextController, listener, false⟩)
        nextController := hal.nextController + 1 })
  | _, _ => (none, hal)

/-- The ports of a controller run or stand still. -/
def run (hal : CompositeInputHal) (controller : Nat) (started : Bool) : CompositeInputHal :=
  { hal with
    ports := fun port => (hal.ports port).map fun held =>
      if held.controller = controller then { held with started := started } else held }

def start (hal : CompositeInputHal) (controller : Nat) (accepts : Bool) :
    Bool × CompositeInputHal :=
  if accepts then (true, hal.run controller true) else (false, hal)

def stop (hal : CompositeInputHal) (controller : Nat) : CompositeInputHal :=
  hal.run controller false

/-- `close(controller, &closed)`, for the controller that the port was opened with. -/
def close (hal : CompositeInputHal) (port : Int) (controller : Nat) : CompositeInputHal :=
  { hal with
    ports := Function.update hal.ports port
      ((hal.ports port).filter fun held => held.controller != controller) }

/-- No port is open and no listener is registered. -/
structure Idle (hal : CompositeInputHal) : Prop where
  ports : hal.ports = fun _ => none
  eventListeners : hal.eventListeners = []

/-- One port is open, with this listener registered. -/
structure Only (hal : CompositeInputHal) (port : Int) (held : OpenPort) (listener : Nat) :
    Prop where
  ports : hal.ports = Function.update (fun _ => none) port (some held)
  eventListeners : hal.eventListeners = [(port, listener)]

end CompositeInputHal

/-! ### The port selection -/

/-- `dCompositeInAIDLImpl` and the HAL. New listeners are numbered from `nextListener`. -/
structure CompositeInState where
  hal : CompositeInputHal
  activePortId : Int
  activePort : Option Int
  controller : Option Nat
  controllerListener : Option Nat
  eventListener : Option Nat
  nextListener : Nat

/-- How the service replies to the calls of one selection. -/
structure Replies where
  /-- `_manager`, or what `GetManager()` finds. -/
  manager : Bool
  /-- `getPort` succeeds with a port. -/
  getPort : Bool
  registers : Bool
  opens : OpenReply
  starts : Bool
  deriving Repr

/-- The port is found, and the selection goes on to `StopActivePort`. -/
def Replies.finds (replies : Replies) : Bool := replies.manager && replies.getPort

namespace CompositeInState

/-- The state of the constructor. -/
def constructed (hal : CompositeInputHal) : CompositeInState where
  hal := hal
  activePortId := -1
  activePort := none
  controller := none
  controllerListener := none
  eventListener := none
  nextListener := 0

/-- The calls of `StopActivePort()`. -/
def stopHal (state : CompositeInState) : CompositeInputHal :=
  let hal := match state.controller with
    | some controller => state.hal.stop controller
    | none => state.hal
  match state.activePort with
  | none => hal
  | some port =>
    let hal := match state.eventListener with
      | some listener => hal.unregisterEventListener port listener
      | none => hal
    match state.controller with
    | some controller => hal.close port controller
    | none => hal

/-- `StopActivePort()`. -/
def stopActivePort (state : CompositeInState) : CompositeInState where
  hal := state.stopHal
  activePortId := -1
  activePort := none
  controller := none
  controllerListener := none
  eventListener := none
  nextListener := state.nextListener

/-- `SelectCompositeInPort(port)`. -/
def selectCompositeInPort (state : CompositeInState) (portId : Int) (replies : Replies) :
    Except CoreError Unit × CompositeInState :=
  if portId < 0 then (.ok (), state.stopActivePort)
  else if replies.finds then
    let state := state.stopActivePort
    let controllerListener := state.nextListener
    let eventListener := state.nextListener + 1
    let state := { state with nextListener := state.nextListener + 2 }
    let registered := state.hal.registerEventListener portId eventListener replies.registers
    if registered.1 then
      match registered.2.openPort portId controllerListener replies.opens with
      | (none, hal) =>
        (.error .general, { state with hal := hal.unregisterEventListener portId eventListener })
      | (some controller, hal) =>
        let started := hal.start controller replies.starts
        if started.1 then
          (.ok (),
            { state with
              hal := started.2
              activePortId := portId
              activePort := some portId
              controller := some controller
              controllerListener := some controllerListener
              eventListener := some eventListener })
        else
          (.error .general,
            { state with
              hal := (started.2.close portId controller).unregisterEventListener portId
                eventListener })
    else
      (.error .general,
        { state with hal := registered.2.unregisterEventListener portId eventListener })
  else (.error .unavailable, state)

/-- The HAL has the active port, and no other, open and running with what is stored. -/
def HasActive (state : CompositeInState) : Prop :=
  ∃ controller controllerListener eventListener,
    state.controller = some controller ∧
    state.controllerListener = some controllerListener ∧
    state.eventListener = some eventListener ∧
    state.hal.Only state.activePortId ⟨controller, controllerListener, true⟩ eventListener

/-- The stored port is the active one, or there is none. -/
inductive Balanced (state : CompositeInState) : Prop where
  | active (port : state.activePort = some state.activePortId) (valid : 0 ≤ state.activePortId)
      (has : state.HasActive)
  | none (port : state.activePort = none) (controller : state.controller = none)
      (invalid : state.activePortId < 0) (idle : state.hal.Idle)

end CompositeInState

/-- A call of `SelectCompositeInPort`, and how the service replies to it. -/
structure Selection where
  portId : Int
  replies : Replies

def compositeInMachine : Machine CompositeInState Selection (Except CoreError Unit) where
  step state selection :=
    let called := state.selectCompositeInPort selection.portId selection.replies
    some (called.2, [called.1])

abbrev SelectionStep := Occurrence CompositeInState Selection (Except CoreError Unit)

/-! ### What the calls of the HAL do -/

namespace CompositeInputHal

variable {hal : CompositeInputHal} {port : Int} {listener : Nat}

theorem Idle.unregistered (idle : hal.Idle) :
    (hal.unregisterEventListener port listener).Idle := by
  refine ⟨idle.ports, ?_⟩
  simp [unregisterEventListener, idle.eventListeners]

/-- A registration is undone by `unregisterEventListener`. -/
theorem Idle.register_undone {registered : CompositeInputHal} (idle : hal.Idle)
    (registers : hal.registerEventListener port listener true = (true, registered)) :
    (registered.unregisterEventListener port listener).Idle := by
  obtain rfl := congrArg Prod.snd registers
  refine ⟨idle.ports, ?_⟩
  simp [registerEventListener, unregisterEventListener, idle.eventListeners]

/-- Behind a registration on an idle HAL, `open` changes nothing or opens the only port. -/
theorem Idle.openPort_cases {registered : CompositeInputHal} (idle : hal.Idle)
    (registers : hal.registerEventListener port listener true = (true, registered))
    (controllerListener : Nat) (reply : OpenReply) :
    registered.openPort port controllerListener reply = (none, registered) ∨
      ∃ controller opened,
        registered.openPort port controllerListener reply = (some controller, opened) ∧
        opened.Only port ⟨controller, controllerListener, false⟩ listener := by
  obtain rfl := congrArg Prod.snd registers
  have unopened : (hal.registerEventListener port listener true).2.ports = fun _ => none :=
    idle.ports
  unfold openPort
  split
  · refine .inr ⟨_, _, rfl, ?_, ?_⟩
    · dsimp only
      rw [unopened]
    · simp [registerEventListener, idle.eventListeners]
  · exact .inl rfl

theorem Only.run {held : OpenPort} (only : hal.Only port held listener) (started : Bool) :
    (hal.run held.controller started).Only port { held with started := started } listener := by
  refine ⟨?_, only.eventListeners⟩
  funext other
  simp only [CompositeInputHal.run, only.ports]
  by_cases same : other = port
  · subst same
    simp
  · simp [same]

/-- Closed and with the listener unregistered, in either order, the HAL is idle. -/
theorem Only.closed {held : OpenPort} (only : hal.Only port held listener) :
    ((hal.close port held.controller).unregisterEventListener port listener).Idle := by
  constructor
  · funext other
    simp only [unregisterEventListener, close, only.ports]
    by_cases same : other = port
    · subst same
      simp [Option.filter]
    · simp [same]
  · simp [unregisterEventListener, close, only.eventListeners]

end CompositeInputHal

/-! ### What a selection does -/

namespace CompositeInState

variable {state : CompositeInState}

/-- `StopActivePort` leaves nothing open behind. -/
theorem Balanced.stopHal_idle (balanced : state.Balanced) : state.stopHal.Idle := by
  cases balanced with
  | active port valid has =>
      obtain ⟨controller, controllerListener, eventListener, held, -, registered, only⟩ := has
      simp only [stopHal, port, held, registered]
      exact (only.run false).closed
  | none port controller invalid idle =>
      simp only [stopHal, port, controller]
      exact idle

theorem Balanced.stopActivePort (balanced : state.Balanced) : state.stopActivePort.Balanced :=
  .none rfl rfl (Int.negSucc_lt_zero 0) balanced.stopHal_idle

/-- A selection that fails behind `StopActivePort` and leaves the HAL idle is balanced. -/
theorem balanced_of_idle (state : CompositeInState) {hal : CompositeInputHal} {next : Nat}
    (idle : hal.Idle) :
    Balanced { state.stopActivePort with hal := hal, nextListener := next } :=
  .none rfl rfl (Int.negSucc_lt_zero 0) idle

/-- All that a selection can come to. -/
inductive Outcome (state : CompositeInState) (portId : Int) (replies : Replies) :
    Except CoreError Unit → CompositeInState → Prop where
  | deselected {after} (negative : portId < 0) (balanced : after.Balanced)
      (invalid : after.activePortId < 0) : Outcome state portId replies (.ok ()) after
  | missing (valid : 0 ≤ portId) (unfound : replies.finds = false) :
      Outcome state portId replies (.error .unavailable) state
  | failed {after} (valid : 0 ≤ portId) (found : replies.finds = true)
      (balanced : after.Balanced) (invalid : after.activePortId < 0) :
      Outcome state portId replies (.error .general) after
  | selected {after} (valid : 0 ≤ portId) (found : replies.finds = true)
      (balanced : after.Balanced) (active : after.activePortId = portId) :
      Outcome state portId replies (.ok ()) after

theorem Balanced.outcome (balanced : state.Balanced) (portId : Int) (replies : Replies) :
    Outcome state portId replies (state.selectCompositeInPort portId replies).1
      (state.selectCompositeInPort portId replies).2 := by
  have idle := balanced.stopHal_idle
  unfold selectCompositeInPort
  by_cases negative : portId < 0
  · rw [if_pos negative]
    exact .deselected negative balanced.stopActivePort (Int.negSucc_lt_zero 0)
  rw [if_neg negative]
  have valid : 0 ≤ portId := by omega
  cases found : replies.finds with
  | false => exact .missing valid found
  | true =>
    simp only [if_true, CompositeInState.stopActivePort]
    cases accepted : replies.registers with
    | false =>
        simp only [CompositeInputHal.registerEventListener, Bool.false_eq_true, if_false]
        exact .failed valid found (balanced_of_idle state idle.unregistered) (Int.negSucc_lt_zero 0)
    | true =>
        obtain ⟨registered, registers⟩ : ∃ registered, state.stopHal.registerEventListener
            portId (state.nextListener + 1) true = (true, registered) := ⟨_, rfl⟩
        simp only [registers, if_true]
        rcases idle.openPort_cases registers state.nextListener replies.opens with
          refused | ⟨controller, opened, gave, only⟩
        · simp only [refused]
          exact .failed valid found (balanced_of_idle state (idle.register_undone registers))
            (Int.negSucc_lt_zero 0)
        · simp only [gave]
          cases starts : replies.starts with
          | false =>
              simp only [CompositeInputHal.start, Bool.false_eq_true, if_false]
              exact .failed valid found (balanced_of_idle state only.closed)
                (Int.negSucc_lt_zero 0)
          | true =>
              simp only [CompositeInputHal.start, if_true]
              exact .selected valid found
                (.active rfl valid ⟨_, _, _, rfl, rfl, rfl, only.run true⟩) rfl

end CompositeInState

/-! ### Runs -/

theorem balanced_of_step {before after : CompositeInState} {selection : Selection}
    {effects : List (Except CoreError Unit)} (balanced : before.Balanced)
    (taken : compositeInMachine.step before selection = some (after, effects)) :
    ∃ result, effects = [result] ∧
      before.Outcome selection.portId selection.replies result after := by
  obtain ⟨rfl, rfl⟩ := Prod.mk.inj (Option.some.inj taken)
  exact ⟨_, rfl, balanced.outcome selection.portId selection.replies⟩

theorem CompositeInState.Outcome.balanced {state after : CompositeInState} {portId : Int}
    {replies : Replies} {result : Except CoreError Unit} (balanced : state.Balanced)
    (outcome : state.Outcome portId replies result after) : after.Balanced := by
  cases outcome with
  | deselected _ kept _ => exact kept
  | missing _ _ => exact balanced
  | failed _ _ kept _ => exact kept
  | selected _ _ kept _ => exact kept

theorem balanced_of_run {hal : CompositeInputHal} {trace : List SelectionStep}
    {state : CompositeInState} (idle : hal.Idle)
    (run : compositeInMachine.Run (.constructed hal) trace state) : state.Balanced := by
  refine run.invariant (.none rfl rfl (Int.negSucc_lt_zero 0) idle) ?_
  intro before selection after effects balanced taken
  obtain ⟨result, -, outcome⟩ := balanced_of_step balanced taken
  exact outcome.balanced balanced

theorem CompositeInState.Balanced.hasActive_iff {state : CompositeInState}
    (balanced : state.Balanced) : 0 ≤ state.activePortId ↔ state.HasActive := by
  cases balanced with
  | active port valid has => exact ⟨fun _ => has, fun _ => valid⟩
  | none port controller invalid idle =>
      constructor
      · intro valid
        omega
      · rintro ⟨controller, controllerListener, eventListener, -, -, -, only⟩
        have open_ := congrFun (only.ports.symm.trans idle.ports) state.activePortId
        simp at open_

theorem CompositeInState.Balanced.idle {state : CompositeInState} (balanced : state.Balanced)
    (invalid : state.activePortId < 0) : state.hal.Idle := by
  cases balanced with
  | active port valid has => omega
  | none port controller _ idle => exact idle

/-- What a call leaves behind. -/
structure LeavesRequested (occurrence : SelectionStep) : Prop where
  selected : occurrence.effects = [.ok ()] → 0 ≤ occurrence.action.portId →
    occurrence.after.activePortId = occurrence.action.portId ∧ occurrence.after.HasActive
  deselected : occurrence.effects = [.ok ()] → occurrence.action.portId < 0 →
    occurrence.after.activePortId < 0
  unfound : occurrence.effects ≠ [.ok ()] → occurrence.action.replies.finds = false →
    occurrence.after = occurrence.before
  failed : occurrence.effects ≠ [.ok ()] → occurrence.action.replies.finds = true →
    occurrence.after.activePortId < 0

theorem leavesRequested_of_step {before after : CompositeInState} {selection : Selection}
    {effects : List (Except CoreError Unit)} (balanced : before.Balanced)
    (taken : compositeInMachine.step before selection = some (after, effects)) :
    LeavesRequested ⟨before, selection, effects, after⟩ := by
  obtain ⟨result, rfl, outcome⟩ := balanced_of_step balanced taken
  have hasActive := (outcome.balanced balanced).hasActive_iff
  constructor
  · intro succeeded (valid : 0 ≤ selection.portId)
    cases outcome with
    | deselected negative _ _ => omega
    | missing _ _ => cases succeeded
    | failed _ _ _ _ => cases succeeded
    | selected _ _ _ active => exact ⟨active, hasActive.mp (active ▸ valid)⟩
  · intro succeeded (negative : selection.portId < 0)
    cases outcome with
    | deselected _ _ invalid => exact invalid
    | missing _ _ => cases succeeded
    | failed _ _ _ _ => cases succeeded
    | selected valid _ _ _ => omega
  · intro fails (unfound : selection.replies.finds = false)
    cases outcome with
    | deselected _ _ _ => exact absurd rfl fails
    | missing _ _ => rfl
    | failed _ found _ _ =>
        rw [found] at unfound
        cases unfound
    | selected _ _ _ _ => exact absurd rfl fails
  · intro fails (found : selection.replies.finds = true)
    cases outcome with
    | deselected _ _ _ => exact absurd rfl fails
    | missing _ unfound =>
        rw [unfound] at found
        cases found
    | failed _ _ _ invalid => exact invalid
    | selected _ _ _ _ => exact absurd rfl fails

/-- In every run at most one input is open. It is the active one, it runs with the stored
controller and has just the stored listener. -/
theorem one_input_open {hal : CompositeInputHal} {trace : List SelectionStep}
    {state : CompositeInState} (idle : hal.Idle)
    (run : compositeInMachine.Run (.constructed hal) trace state) :
    (0 ≤ state.activePortId ↔ state.HasActive) ∧
      (state.activePortId < 0 → state.hal.Idle) ∧
      ∀ occurrence ∈ trace, LeavesRequested occurrence := by
  have balanced := balanced_of_run idle run
  refine ⟨balanced.hasActive_iff, balanced.idle, fun occurrence member => ?_⟩
  obtain ⟨earlier, later, rfl⟩ := List.append_of_mem member
  obtain ⟨prior, taken⟩ := run.at_occurrence
  exact leavesRequested_of_step (balanced_of_run idle prior) taken

namespace Reselection

def hal : CompositeInputHal := ⟨fun _ => none, [], 0⟩

def accepting : Replies := ⟨true, true, true, .opens, true⟩

def selected : CompositeInState :=
  ((CompositeInState.constructed hal).selectCompositeInPort 1 accepting).2

def failed : CompositeInState :=
  (selected.selectCompositeInPort 2 { accepting with starts := false }).2

/-- Port 1 is selected, and then port 2, whose controller does not start. -/
def trace : List SelectionStep :=
  [⟨.constructed hal, ⟨1, accepting⟩, [.ok ()], selected⟩,
    ⟨selected, ⟨2, { accepting with starts := false }⟩, [.error .general], failed⟩]

theorem run : compositeInMachine.Run (.constructed hal) trace failed :=
  .snoc (.snoc .nil rfl) rfl

end Reselection

theorem one_input_open_reselection :
    (0 ≤ Reselection.failed.activePortId ↔ Reselection.failed.HasActive) ∧
      (Reselection.failed.activePortId < 0 → Reselection.failed.hal.Idle) ∧
      ∀ occurrence ∈ Reselection.trace, LeavesRequested occurrence :=
  one_input_open ⟨rfl, rfl⟩ Reselection.run

end DeviceSettings.CompositeIn
