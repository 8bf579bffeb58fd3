import Mathlib.Data.List.Nodup
import Mathlib.Logic.Function.Basic
import DeviceSettings.Std.Usage

/-!
# The plugin and its interfaces

`DeviceSettings::Initialize` takes the service and the interfaces of the implementation and
registers a sink on some of them; `Deinitialize` unregisters and releases what is there, also where
`Initialize` has failed on the way.
-/

namespace DeviceSettings.Plugin

open DeviceSettings.Std

/-- The interfaces that are asked for with `QueryInterface`. -/
inductive Interface where
  | fpd
  | hdmiIn
  | audio
  | videoPort
  | videoDevice
  | host
  | compositeIn
  | display
  deriving DecidableEq, Repr

/-- What the plugin holds a reference on: `mService`, `_mDeviceSettings` and the others. -/
inductive Held where
  | service
  | implementation
  | interface (name : Interface)
  deriving DecidableEq, Repr

/-- What `mNotificationSink` is registered as. -/
inductive Sink where
  | remoteConnection
  | comLink
  | events (name : Interface)
  deriving DecidableEq, Repr

/-- Where a sink is registered. -/
def Sink.owner : Sink → Held
  | .remoteConnection | .comLink => .service
  | .events name => .interface name

/-- The sinks that are registered somewhere. -/
def Held.sinks : Held → List Sink
  | .service => [.remoteConnection, .comLink]
  | .implementation => []
  | .interface name => [.events name]

inductive PluginEvent where
  | taken (item : Held)
  | released (item : Held)
  | registered (sink : Sink)
  | unregistered (sink : Sink)
  /-- A `DEACTIVATED` job is submitted for `mService`. -/
  | submitted
  deriving DecidableEq, Repr

/-- The pointers of the plugin, `true` where they are not null, and `mConnectionId`. -/
structure PluginState where
  mService : Bool
  mConnectionId : Nat
  mDeviceSettings : Bool
  interfaces : Interface → Bool

/-- What the framework and the implementation answer to an `Initialize`: the connection and the
interface of `Root`, the result of `Configure`, and the interfaces that `QueryInterface` finds. -/
structure Answers where
  connectionId : Nat
  root : Bool
  configure : Bool
  queryInterface : Interface → Bool

namespace PluginState

/-- The plugin as it is constructed. -/
def constructed : PluginState := ⟨false, 0, false, fun _ => false⟩

/-- The order of the `QueryInterface` calls, without and with `USE_LEGACY_INTERFACE`. -/
def queryOrder (legacy : Bool) : List Interface :=
  if legacy then [.fpd, .hdmiIn, .audio, .videoPort, .videoDevice, .host, .compositeIn, .display]
  else [.fpd, .hdmiIn, .compositeIn, .audio, .videoPort, .videoDevice, .host, .display]

/-- The interfaces that a sink is registered on, in the order of both functions. -/
def registerOrder : List Interface := [.hdmiIn, .videoPort, .videoDevice, .compositeIn, .display]

/-- The order of the `Release` calls. -/
def releaseOrder : List Interface :=
  [.fpd, .hdmiIn, .compositeIn, .audio, .videoPort, .videoDevice, .host, .display]

/-- `Deinitialize(service)`. -/
def deinitializePlugin (plugin : PluginState) : PluginState × List PluginEvent :=
  if plugin.mService then
    (constructed,
      [.unregistered .remoteConnection, .unregistered .comLink] ++
        (registerOrder.filter plugin.interfaces).map (fun i => .unregistered (.events i)) ++
          (releaseOrder.filter plugin.interfaces).map (fun i => .released (.interface i)) ++
            (if plugin.mDeviceSettings then [.released .implementation] else []) ++
              [.released .service])
  else (plugin, [])

/-- What `Initialize` does before it looks at `message`. -/
def acquire (legacy : Bool) (plugin : PluginState) (answers : Answers) :
    String × PluginState × List PluginEvent :=
  let plugin := { plugin with mService := true }
  let onService : List PluginEvent :=
    [.taken .service, .registered .remoteConnection, .registered .comLink]
  let plugin :=
    { plugin with mConnectionId := answers.connectionId, mDeviceSettings := answers.root }
  if answers.root = false then
    ("DeviceSettings plugin could not be initialised", plugin, onService)
  else if answers.configure = false then
    ("DeviceSettings configuration failed", plugin, onService ++ [.taken .implementation])
  else
    let plugin := { plugin with interfaces := answers.queryInterface }
    ("", plugin,
      onService ++ [.taken .implementation] ++
        ((queryOrder legacy).filter answers.queryInterface).map (fun i => .taken (.interface i)) ++
          (registerOrder.filter plugin.interfaces).map (fun i => .registered (.events i)))

/-- `Initialize(service)`; the message is empty where it has gone well. -/
def initializePlugin (legacy : Bool) (plugin : PluginState) (answers : Answers) :
    String × PluginState × List PluginEvent :=
  let acquired := plugin.acquire legacy answers
  if acquired.1.length ≠ 0 then
    let left := acquired.2.1.deinitializePlugin
    (acquired.1, left.1, acquired.2.2 ++ left.2)
  else acquired

/-- The assertions with which `Initialize` begins. -/
def Asserted (plugin : PluginState) : Prop :=
  plugin.mService = false ∧ plugin.mConnectionId = 0 ∧ plugin.mDeviceSettings = false ∧
    ∀ interface, plugin.interfaces interface = false

end PluginState

/-- A call of the framework; the identifier of a connection is not 0. -/
inductive PluginAction where
  | initializePlugin (answers : Answers)
  | deinitializePlugin
  | deactivated (connectionId : Nat)

/-- The calls behind which the plugin is down: a `Deinitialize`, and an `Initialize` that answers
with a message. -/
def PluginAction.LeavesDown (legacy : Bool) (before : PluginState) : PluginAction → Prop
  | .initializePlugin answers => (before.initializePlugin legacy answers).1 ≠ ""
  | .deinitializePlugin => True
  | .deactivated _ => False

/-- One call. The framework initialises what is not initialised, and connections have been made. -/
def PluginState.step (legacy : Bool) (plugin : PluginState) :
    PluginAction → Option (PluginState × List PluginEvent)
  | .initializePlugin answers =>
    if plugin.mService then none else some (plugin.initializePlugin legacy answers).2
  | .deinitializePlugin => some plugin.deinitializePlugin
  | .deactivated connectionId =>
    if connectionId = 0 then none
    else if plugin.mConnectionId = connectionId then some (plugin, [.submitted])
    else some (plugin, [])

/-- The plugin under its framework. -/
def lifecycle (legacy : Bool) : Machine PluginState PluginAction PluginEvent :=
  ⟨PluginState.step legacy⟩

/-! ### What may be done with an interface -/

/-- What is held, and what is registered. -/
@[ext]
structure PluginMode where
  held : Held → Bool
  registered : Sink → Bool

/-- Nothing is taken or registered twice, a sink is registered where its owner is held, and an
owner is released behind its sinks. -/
def pluginUsage : Usage PluginMode PluginEvent where
  next mode
    | .taken item =>
      if mode.held item then none
      else some { mode with held := Function.update mode.held item true }
    | .released item =>
      if mode.held item = true ∧ ∀ sink ∈ item.sinks, mode.registered sink = false then
        some { mode with held := Function.update mode.held item false }
      else none
    | .registered sink =>
      if mode.held sink.owner = true ∧ mode.registered sink = false then
        some { mode with registered := Function.update mode.registered sink true }
      else none
    | .unregistered sink =>
      if mode.held sink.owner = true ∧ mode.registered sink = true then
        some { mode with registered := Function.update mode.registered sink false }
      else none
    | .submitted => if mode.held .service then some mode else none

namespace PluginMode

variable (mode : PluginMode)

/-- What is on behind some items is on behind one more. -/
theorem update_or_mem {Item : Type} [DecidableEq Item] (on : Item → Bool) (done : List Item)
    (item : Item) :
    Function.update (fun other => on other || decide (other ∈ done)) item true =
      fun other => on other || decide (other ∈ done ++ [item]) := by
  funext other
  by_cases same : other = item <;> simp [same]

theorem update_and_not_mem {Item : Type} [DecidableEq Item] (on : Item → Bool) (done : List Item)
    (item : Item) :
    Function.update (fun other => on other && !decide (other ∈ done)) item false =
      fun other => on other && !decide (other ∈ done ++ [item]) := by
  funext other
  by_cases same : other = item <;> simp [same]

theorem not_mem_of_nodup {Item : Type} {items earlier later : List Item} {item : Item}
    (distinct : items.Nodup) (split : items = earlier ++ item :: later) : item ∉ earlier := by
  rw [split, List.nodup_append] at distinct
  exact fun before => distinct.2.2 item before item List.mem_cons_self rfl

theorem follow_taken (items : List Held) (distinct : items.Nodup)
    (free : ∀ item ∈ items, mode.held item = false) :
    pluginUsage.follow mode (items.map .taken) =
      some { mode with held := fun item => mode.held item || decide (item ∈ items) } := by
  have modes := pluginUsage.follow_map PluginEvent.taken items fun done =>
    { mode with held := fun item => mode.held item || decide (item ∈ done) }
  simp only [List.not_mem_nil, decide_false, Bool.or_false] at modes
  refine modes fun earlier item later split => ?_
  have notYet := not_mem_of_nodup distinct split
  rw [← update_or_mem]
  exact if_neg (by simp [free item (split ▸ by simp), notYet])

theorem follow_released {items : List Held} (distinct : items.Nodup)
    (held : ∀ item ∈ items, mode.held item = true)
    (quiet : ∀ item ∈ items, ∀ sink ∈ item.sinks, mode.registered sink = false) :
    pluginUsage.follow mode (items.map .released) =
      some { mode with held := fun item => mode.held item && !decide (item ∈ items) } := by
  have modes := pluginUsage.follow_map PluginEvent.released items fun done =>
    { mode with held := fun item => mode.held item && !decide (item ∈ done) }
  simp only [List.not_mem_nil, decide_false, Bool.not_false, Bool.and_true] at modes
  refine modes fun earlier item later split => ?_
  have still := not_mem_of_nodup distinct split
  have member : item ∈ items := split ▸ by simp
  rw [← update_and_not_mem]
  exact if_pos ⟨by simp [held item member, still], quiet item member⟩

theorem follow_registered (sinks : List Sink) (distinct : sinks.Nodup)
    (held : ∀ sink ∈ sinks, mode.held sink.owner = true)
    (free : ∀ sink ∈ sinks, mode.registered sink = false) :
    pluginUsage.follow mode (sinks.map .registered) =
      some { mode with
        registered := fun sink => mode.registered sink || decide (sink ∈ sinks) } := by
  have modes := pluginUsage.follow_map PluginEvent.registered sinks fun done =>
    { mode with registered := fun sink => mode.registered sink || decide (sink ∈ done) }
  simp only [List.not_mem_nil, decide_false, Bool.or_false] at modes
  refine modes fun earlier sink later split => ?_
  have notYet := not_mem_of_nodup distinct split
  have member : sink ∈ sinks := split ▸ by simp
  rw [← update_or_mem]
  exact if_pos ⟨held sink member, by simp [free sink member, notYet]⟩

theorem follow_unregistered {sinks : List Sink} (distinct : sinks.Nodup)
    (held : ∀ sink ∈ sinks, mode.held sink.owner = true)
    (registered : ∀ sink ∈ sinks, mode.registered sink = true) :
    pluginUsage.follow mode (sinks.map .unregistered) =
      some { mode with
        registered := fun sink => mode.registered sink && !decide (sink ∈ sinks) } := by
  have modes := pluginUsage.follow_map PluginEvent.unregistered sinks fun done =>
    { mode with registered := fun sink => mode.registered sink && !decide (sink ∈ done) }
  simp only [List.not_mem_nil, decide_false, Bool.not_false, Bool.and_true] at modes
  refine modes fun earlier sink later split => ?_
  have still := not_mem_of_nodup distinct split
  have member : sink ∈ sinks := split ▸ by simp
  rw [← update_and_not_mem]
  exact if_pos ⟨held sink member, by simp [registered sink member, still]⟩

end PluginMode

namespace PluginState

variable (plugin : PluginState)

/-- What the pointers say of the references and of the sinks. -/
def view : PluginMode where
  held
    | .service => plugin.mService
    | .implementation => plugin.mDeviceSettings
    | .interface name => plugin.interfaces name
  registered
    | .remoteConnection => plugin.mService
    | .comLink => plugin.mService
    | .events name => plugin.interfaces name && decide (name ∈ registerOrder)

/-- The sinks that `Deinitialize` unregisters. -/
def registeredSinks : List Sink :=
  [.remoteConnection, .comLink] ++ (registerOrder.filter plugin.interfaces).map .events

/-- What `Deinitialize` releases. -/
def releasedItems : List Held :=
  (releaseOrder.filter plugin.interfaces).map .interface ++
    (if plugin.mDeviceSettings then [.implementation] else []) ++ [.service]

theorem deinitializePlugin_events (present : plugin.mService = true) :
    plugin.deinitializePlugin =
      (constructed, plugin.registeredSinks.map .unregistered ++
        plugin.releasedItems.map .released) := by
  unfold deinitializePlugin registeredSinks releasedItems
  rw [if_pos present]
  cases plugin.mDeviceSettings <;> simp [Function.comp_def]

theorem nodup_registeredSinks : plugin.registeredSinks.Nodup := by
  have events : ((registerOrder.filter plugin.interfaces).map Sink.events).Nodup :=
    (List.Nodup.filter _ (by decide)).map fun _ _ => Sink.events.inj
  simp [registeredSinks, events]

theorem nodup_releasedItems : plugin.releasedItems.Nodup := by
  have interfaces : ((releaseOrder.filter plugin.interfaces).map Held.interface).Nodup :=
    (List.Nodup.filter _ (by decide)).map fun _ _ => Held.interface.inj
  have rest : (if plugin.mDeviceSettings then [Held.implementation] else []).Nodup := by
    split_ifs <;> simp
  refine (interfaces.append rest fun item member other => ?_).append (List.nodup_singleton _)
    fun item member other => ?_
  · obtain ⟨name, -, rfl⟩ := List.mem_map.mp member
    cases held : plugin.mDeviceSettings <;> simp [held] at other
  · obtain rfl := List.mem_singleton.mp other
    cases held : plugin.mDeviceSettings <;> simp [held] at member

variable {plugin}

theorem mem_registeredSinks (present : plugin.mService = true) (sink : Sink) :
    sink ∈ plugin.registeredSinks ↔ plugin.view.registered sink = true := by
  cases sink <;> simp [registeredSinks, view, present, and_comm]

theorem mem_releasedItems (present : plugin.mService = true) (item : Held) :
    item ∈ plugin.releasedItems ↔ plugin.view.held item = true := by
  cases item with
  | service => simp [releasedItems, view, present]
  | implementation => cases held : plugin.mDeviceSettings <;> simp [releasedItems, view, held]
  | interface name =>
      have listed : name ∈ releaseOrder := by cases name <;> decide
      cases held : plugin.mDeviceSettings <;> simp [releasedItems, view, held, listed]

/-- A sink is registered where the plugin holds a reference. -/
theorem held_of_registered {sink : Sink} (registered : plugin.view.registered sink = true) :
    plugin.view.held sink.owner = true := by
  cases sink with
  | remoteConnection => exact registered
  | comLink => exact registered
  | events name =>
      rw [view, Bool.and_eq_true] at registered
      exact registered.1

theorem asserted_constructed : constructed.Asserted := ⟨rfl, rfl, rfl, fun _ => rfl⟩

theorem view_constructed : constructed.view = ⟨fun _ => false, fun _ => false⟩ := by
  ext item
  · cases item <;> rfl
  · cases item <;> rfl

/-- `Deinitialize` leaves nothing behind, whatever `Initialize` has got. -/
theorem follow_deinitializePlugin (present : plugin.mService = true) :
    pluginUsage.follow plugin.view plugin.deinitializePlugin.2 = some constructed.view := by
  have sinks := mem_registeredSinks present
  have items := mem_releasedItems present
  have unregistered := plugin.view.follow_unregistered plugin.nodup_registeredSinks
    (fun sink member => held_of_registered ((sinks sink).mp member))
    fun sink member => (sinks sink).mp member
  have silent : (fun sink => plugin.view.registered sink &&
      !decide (sink ∈ plugin.registeredSinks)) = fun _ => false := by
    funext sink
    cases registered : plugin.view.registered sink <;> simp [sinks, registered]
  have given : (fun item => plugin.view.held item &&
      !decide (item ∈ plugin.releasedItems)) = fun _ => false := by
    funext item
    cases held : plugin.view.held item <;> simp [items, held]
  have released := PluginMode.follow_released ⟨plugin.view.held, fun _ => false⟩
    plugin.nodup_releasedItems (fun item member => (items item).mp member) fun _ _ _ _ => rfl
  rw [plugin.deinitializePlugin_events present, view_constructed]
  rw [silent] at unregistered
  rw [given] at released
  exact pluginUsage.follow_append_of unregistered released

/-- The service is held, with the sinks on it. -/
theorem follow_service (connectionId : Nat) :
    pluginUsage.follow constructed.view
        [.taken .service, .registered .remoteConnection, .registered .comLink] =
      some (view ⟨true, connectionId, false, fun _ => false⟩) := by
  refine Option.some_inj.mpr (PluginMode.ext (funext fun item => ?_) (funext fun sink => ?_))
  · cases item <;> rfl
  · cases sink <;> rfl

theorem follow_implementation (connectionId : Nat) :
    pluginUsage.follow (view ⟨true, connectionId, false, fun _ => false⟩)
        [.taken .implementation] =
      some (view ⟨true, connectionId, true, fun _ => false⟩) := by
  refine Option.some_inj.mpr (PluginMode.ext (funext fun item => ?_) rfl)
  cases item <;> rfl

theorem follow_interfaces (legacy : Bool) (connectionId : Nat) (found : Interface → Bool) :
    pluginUsage.follow (view ⟨true, connectionId, true, fun _ => false⟩)
        (((queryOrder legacy).filter found).map (fun i => .taken (.interface i)) ++
          (registerOrder.filter found).map fun i => .registered (.events i)) =
      some (view ⟨true, connectionId, true, found⟩) := by
  have listed : ∀ name, name ∈ queryOrder legacy := by
    intro name
    cases legacy <;> cases name <;> decide
  have order : (queryOrder legacy).Nodup := by cases legacy <;> decide
  have taken := (view ⟨true, connectionId, true, fun _ => false⟩).follow_taken
    (((queryOrder legacy).filter found).map .interface)
    ((order.filter _).map fun _ _ => Held.interface.inj) (List.forall_mem_map.mpr fun _ _ => rfl)
  have registered := PluginMode.follow_registered
    ⟨(view ⟨true, connectionId, true, found⟩).held,
      (view ⟨true, connectionId, true, fun _ => false⟩).registered⟩
    ((registerOrder.filter found).map .events)
    ((List.Nodup.filter _ (by decide)).map fun _ _ => Sink.events.inj)
    (List.forall_mem_map.mpr fun _ member => (List.mem_filter.mp member).2)
    (List.forall_mem_map.mpr fun _ _ => rfl)
  have held : (fun item => (view ⟨true, connectionId, true, fun _ => false⟩).held item ||
      decide (item ∈ ((queryOrder legacy).filter found).map Held.interface)) =
        (view ⟨true, connectionId, true, found⟩).held := by
    funext item
    cases item <;> simp [view, listed]
  have sinks : (fun sink => (view ⟨true, connectionId, true, fun _ => false⟩).registered sink ||
      decide (sink ∈ (registerOrder.filter found).map Sink.events)) =
        (view ⟨true, connectionId, true, found⟩).registered := by
    funext sink
    cases sink <;> simp [view, Bool.and_comm]
  rw [held, List.map_map] at taken
  rw [List.map_map] at registered
  refine pluginUsage.follow_append_of taken (registered.trans ?_)
  dsimp only
  rw [sinks]

/-- What `Initialize` takes is held, up to where it has come. -/
theorem follow_acquire (legacy : Bool) (answers : Answers) :
    pluginUsage.follow constructed.view (constructed.acquire legacy answers).2.2 =
      some (constructed.acquire legacy answers).2.1.view := by
  obtain ⟨connectionId, root, configure, found⟩ := answers
  have service := follow_service connectionId
  have implementation := pluginUsage.follow_append_of service (follow_implementation connectionId)
  cases root with
  | false => exact service
  | true =>
      cases configure with
      | false => exact implementation
      | true =>
          have all := pluginUsage.follow_append_of implementation
            (follow_interfaces legacy connectionId found)
          rw [← List.append_assoc] at all
          exact all

/-- Nothing is held of a plugin that is not initialised. -/
def Idle (plugin : PluginState) : Prop := plugin.mService = false → plugin = constructed

theorem mService_acquire (legacy : Bool) (answers : Answers) :
    (constructed.acquire legacy answers).2.1.mService = true := by
  unfold acquire
  dsimp only
  split_ifs <;> rfl

/-- An `Initialize` that answers with a message has undone what it did. -/
theorem initializePlugin_failed {legacy : Bool} {answers : Answers}
    (failed : (constructed.initializePlugin legacy answers).1 ≠ "") :
    (constructed.initializePlugin legacy answers).2.1 = constructed := by
  have present := mService_acquire legacy answers
  unfold initializePlugin at failed ⊢
  dsimp only at failed ⊢
  split_ifs at failed ⊢ with message
  · rw [(constructed.acquire legacy answers).2.1.deinitializePlugin_events present]
  · rw [ne_eq, not_not, String.length_eq_zero_iff] at message
    exact absurd message failed

theorem follow_initializePlugin (legacy : Bool) (answers : Answers) :
    (constructed.initializePlugin legacy answers).2.1.Idle ∧
      pluginUsage.follow constructed.view (constructed.initializePlugin legacy answers).2.2 =
        some (constructed.initializePlugin legacy answers).2.1.view := by
  have acquired := follow_acquire legacy answers
  have present := mService_acquire legacy answers
  unfold initializePlugin
  dsimp only
  split_ifs with failed
  · rw [(constructed.acquire legacy answers).2.1.deinitializePlugin_events present]
    have left := follow_deinitializePlugin present
    rw [(constructed.acquire legacy answers).2.1.deinitializePlugin_events present] at left
    exact ⟨fun _ => rfl, pluginUsage.follow_append_of acquired left⟩
  · exact ⟨fun absent => absurd (absent.symm.trans present) (by decide), acquired⟩

end PluginState

section Lifecycle

variable {legacy : Bool} {before after : PluginState} {action : PluginAction}
  {effects : List PluginEvent}

theorem idle_step (idle : before.Idle)
    (taken : (lifecycle legacy).step before action = some (after, effects)) :
    after.Idle ∧ pluginUsage.follow before.view effects = some after.view := by
  cases action with
  | initializePlugin answers =>
      simp only [lifecycle, PluginState.step] at taken
      split_ifs at taken with present
      obtain rfl := idle (by simpa using present)
      obtain ⟨rfl, rfl⟩ := Prod.mk.inj (Option.some.inj taken)
      exact PluginState.follow_initializePlugin legacy answers
  | deinitializePlugin =>
      simp only [lifecycle, PluginState.step] at taken
      by_cases present : before.mService = true
      · have left := PluginState.follow_deinitializePlugin present
        rw [before.deinitializePlugin_events present] at taken left
        obtain ⟨rfl, rfl⟩ := Prod.mk.inj (Option.some.inj taken)
        exact ⟨fun _ => rfl, left⟩
      · unfold PluginState.deinitializePlugin at taken
        rw [if_neg present] at taken
        obtain ⟨rfl, rfl⟩ := Prod.mk.inj (Option.some.inj taken)
        exact ⟨idle, rfl⟩
  | deactivated connectionId =>
      simp only [lifecycle, PluginState.step] at taken
      split_ifs at taken with none same
      · obtain ⟨rfl, rfl⟩ := Prod.mk.inj (Option.some.inj taken)
        have present : before.mService = true := by
          by_contra absent
          rw [idle (by simpa using absent)] at same
          exact none same.symm
        exact ⟨idle, by simp [Usage.follow_cons, pluginUsage, PluginState.view, present]⟩
      · obtain ⟨rfl, rfl⟩ := Prod.mk.inj (Option.some.inj taken)
        exact ⟨idle, rfl⟩

/-- A call behind which the plugin is down leaves it as it was constructed. -/
theorem constructed_of_leavesDown (idle : before.Idle)
    (taken : (lifecycle legacy).step before action = some (after, effects))
    (leaves : action.LeavesDown legacy before) : after = .constructed := by
  cases action with
  | initializePlugin answers =>
      simp only [lifecycle, PluginState.step] at taken
      split_ifs at taken with present
      obtain rfl := idle (by simpa using present)
      obtain ⟨rfl, rfl⟩ := Prod.mk.inj (Option.some.inj taken)
      exact PluginState.initializePlugin_failed leaves
  | deinitializePlugin =>
      simp only [lifecycle, PluginState.step] at taken
      by_cases present : before.mService = true
      · rw [before.deinitializePlugin_events present] at taken
        exact (Prod.mk.inj (Option.some.inj taken)).1.symm
      · obtain rfl := idle (by simpa using present)
        exact (Prod.mk.inj (Option.some.inj taken)).1.symm
  | deactivated connectionId => exact leaves.elim

/-- `Initialize` is called on the plugin as it was constructed. -/
theorem constructed_of_initializePlugin (idle : before.Idle) {answers : Answers}
    (taken : (lifecycle legacy).step before (.initializePlugin answers) = some (after, effects)) :
    before = .constructed := by
  simp only [lifecycle, PluginState.step] at taken
  split_ifs at taken with present
  exact idle (by simpa using present)

variable {trace : List (Occurrence PluginState PluginAction PluginEvent)} {plugin : PluginState}

theorem follow_run (run : (lifecycle legacy).Run .constructed trace plugin) :
    plugin.Idle ∧
      pluginUsage.follow PluginState.constructed.view (Machine.effectsOf trace) =
        some plugin.view := by
  obtain ⟨idle, follows⟩ : plugin.Idle ∧ _ :=
    run.follow_eq_within pluginUsage PluginState.view some (fun _ => rfl)
      fun before action after effects idle taken => by
        rw [List.filterMap_some]
        exact idle_step idle taken
  rw [List.filterMap_some] at follows
  exact ⟨idle, follows⟩

/-- However often the plugin is initialised, fails to be and is deinitialised, each interface is
released once for each time it was taken and not before the sinks on it are unregistered, and a job
is submitted on a service that is held only; the assertions of every `Initialize` hold, and behind
every `Deinitialize` and every failed `Initialize` nothing is held or registered. -/
theorem lifecycle_run (run : (lifecycle legacy).Run .constructed trace plugin) :
    pluginUsage.follow PluginState.constructed.view (Machine.effectsOf trace) =
        some plugin.view ∧
      (plugin.mService = false → plugin.Asserted ∧
        plugin.view = ⟨fun _ => false, fun _ => false⟩) ∧
      (∀ occurrence ∈ trace, occurrence.action.LeavesDown legacy occurrence.before →
        occurrence.after.Asserted ∧
          occurrence.after.view = ⟨fun _ => false, fun _ => false⟩) ∧
      ∀ occurrence ∈ trace, ∀ answers, occurrence.action = .initializePlugin answers →
        occurrence.before.Asserted := by
  obtain ⟨idle, follows⟩ := follow_run run
  refine ⟨follows, fun absent => ?_, fun occurrence member leaves => ?_,
    fun occurrence member answers initialises => ?_⟩
  · rw [idle absent]
    exact ⟨PluginState.asserted_constructed, PluginState.view_constructed⟩
  · obtain ⟨earlier, later, rfl⟩ := List.append_of_mem member
    obtain ⟨prior, taken⟩ := run.at_occurrence
    rw [constructed_of_leavesDown (follow_run prior).1 taken leaves]
    exact ⟨PluginState.asserted_constructed, PluginState.view_constructed⟩
  · obtain ⟨earlier, later, rfl⟩ := List.append_of_mem member
    obtain ⟨prior, taken⟩ := run.at_occurrence
    rw [initialises] at taken
    rw [constructed_of_initializePlugin (follow_run prior).1 taken]
    exact PluginState.asserted_constructed

/-- A plugin that is configured without the display and deinitialised, one that cannot be
configured, and one whose connection ends before it is deinitialised. -/
def upAndDown : List PluginAction :=
  [.initializePlugin ⟨7, true, true, fun name => name != .display⟩, .deinitializePlugin,
    .initializePlugin ⟨8, true, false, fun _ => true⟩,
    .initializePlugin ⟨9, true, true, fun _ => true⟩, .deactivated 9, .deinitializePlugin]

theorem lifecycle_run_upAndDown :
    ∃ up down failed again ended left : Occurrence PluginState PluginAction PluginEvent,
      (lifecycle false).play .constructed upAndDown =
          some (left.after, [up, down, failed, again, ended, left]) ∧
        Machine.actionsOf [up, down, failed, again, ended, left] = upAndDown ∧
        pluginUsage.follow PluginState.constructed.view
          (Machine.effectsOf [up, down, failed, again, ended, left]) = some left.after.view ∧
        (∀ occurrence ∈ [down, failed, left], occurrence.after.Asserted ∧
          occurrence.after.view = ⟨fun _ => false, fun _ => false⟩) ∧
        ∀ occurrence ∈ [up, failed, again], occurrence.before.Asserted := by
  have played : (lifecycle false).play .constructed upAndDown =
      some (_, [_, _, _, _, _, _]) := rfl
  obtain ⟨follows, -, leaves, asserted⟩ := lifecycle_run (Machine.play_run played)
  refine ⟨_, _, _, _, _, _, played, Machine.actionsOf_played played, follows, ?_, ?_⟩
  · simp only [List.forall_mem_cons, List.not_mem_nil, false_implies, implies_true, and_true]
      at leaves ⊢
    have message : (PluginState.constructed.initializePlugin false
        ⟨8, true, false, fun _ => true⟩).1 ≠ "" := by decide
    exact ⟨leaves.2.1 trivial, leaves.2.2.1 message, leaves.2.2.2.2.2 trivial⟩
  · simp only [List.forall_mem_cons, List.not_mem_nil, false_implies, implies_true, and_true]
      at asserted ⊢
    exact ⟨asserted.1 _ rfl, asserted.2.2.1 _ rfl, asserted.2.2.2.1 _ rfl⟩

end Lifecycle
end DeviceSettings.Plugin
