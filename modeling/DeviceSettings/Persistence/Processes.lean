import DeviceSettings.Persistence.Durable
import DeviceSettings.Std.LastWrite
import DeviceSettings.Std.Machine

/-!
# Processes on one store

A device runs one process after the other, and each opens the file that the one before has left.
What a component keeps in the store is a register: a step writes it or leaves it alone, so the
next process finds the last write of all processes.
-/

namespace DeviceSettings.Persistence

open DeviceSettings.Std

namespace LoadedStore

/-- A store that is loaded is loaded no more. -/
@[simp] theorem ofStore_store (loaded : LoadedStore) :
    ofStore loaded.store loaded.files = loaded := by
  obtain ⟨store, files, ready⟩ := loaded
  simp only [ofStore, HostPersistence.ensureInitialized_of_ready ready]

/-- A call on the object is one on the store behind its first use. -/
theorem ofStore_persistHostProperty (store : HostPersistence) (files : Files String)
    (key value : String) :
    ofStore (store.persistHostProperty files key value).2.1
        (store.persistHostProperty files key value).2.2 =
      (ofStore store files).persist key value := by
  have loads : store.persistHostProperty files key value =
      (store.ensureInitialized files).persistHostProperty files key value := by
    simp only [HostPersistence.persistHostProperty,
      HostPersistence.ensureInitialized_of_ready (store.ensureInitialized_isInitialized files)]
  rw [loads]
  exact ((ofStore store files).persist key value).ofStore_store

/-- An empty text is refused. -/
@[simp] theorem persist_empty (loaded : LoadedStore) (key : String) :
    loaded.persist key "" = loaded := by
  obtain ⟨store, files, ready⟩ := loaded
  simp [persist, HostPersistence.persistHostProperty,
    HostPersistence.ensureInitialized_of_ready ready]

/-- Properties that are persisted one after the other. -/
def persistEach (store : LoadedStore) (properties : List (String × String)) : LoadedStore :=
  properties.foldl (fun store property => store.persist property.1 property.2) store

/-- The text of a property, where it has the key. -/
def valueAt (key : String) (property : String × String) : Option String :=
  if property.1 = key then some property.2 else none

theorem find?_persistEach (store : LoadedStore) {properties : List (String × String)}
    (readable : ∀ property ∈ properties, Readable property.1 ∧ Readable property.2)
    (key : String) :
    (store.persistEach properties).find? key =
      (lastOf (valueAt key) properties).or (store.find? key) := by
  induction properties generalizing store with
  | nil => rfl
  | cons property rest ih =>
      have words := readable property List.mem_cons_self
      have later := ih (store.persist property.1 property.2) fun other member =>
        readable other (List.mem_cons_of_mem _ member)
      have accepted : property.1 ≠ "" ∧ property.2 ≠ "" := ⟨words.1.ne, words.2.ne⟩
      rw [lastOf_cons, Option.or_assoc]
      refine later.trans ?_
      rw [store.find?_persist accepted, valueAt]
      split_ifs <;> rfl

theorem Durable.persistEach {store : LoadedStore} (durable : store.Durable)
    {properties : List (String × String)}
    (readable : ∀ property ∈ properties, Readable property.1 ∧ Readable property.2) :
    (store.persistEach properties).Durable := by
  induction properties generalizing store with
  | nil => exact durable
  | cons property rest ih =>
      exact ih (durable.persist (readable property List.mem_cons_self)) fun other member =>
        readable other (List.mem_cons_of_mem _ member)

end LoadedStore

/-- A component that keeps its settings in the store, and the states in which a process has it on
a store that it has opened. -/
structure Process (State Action Effect : Type) where
  machine : Machine State Action Effect
  storeOf : State → LoadedStore
  Starts : LoadedStore → State → Prop
  opens : ∀ store state, Starts store state → storeOf state = store

namespace Process

variable {State Action Effect : Type}

/-- The processes of a device, one after the other, up to the store that the last one leaves. -/
inductive Lives (process : Process State Action Effect) (first : LoadedStore) :
    List (Occurrence State Action Effect) → LoadedStore → Prop where
  | nil : Lives process first [] first
  | snoc {earlier trace : List (Occurrence State Action Effect)} {store : LoadedStore}
      {start state : State} (prior : Lives process first earlier store)
      (starts : process.Starts store.reopened start)
      (run : process.machine.Run start trace state) :
      Lives process first (earlier ++ trace) (process.storeOf state)

theorem Lives.step_of_mem {process : Process State Action Effect} {first store : LoadedStore}
    {trace : List (Occurrence State Action Effect)} (lives : process.Lives first trace store)
    {step : Occurrence State Action Effect} (member : step ∈ trace) :
    process.machine.step step.before step.action = some (step.after, step.effects) := by
  induction lives with
  | nil => exact absurd member List.not_mem_nil
  | snoc _ _ run ih =>
      rcases List.mem_append.mp member with before | own
      · exact ih before
      · exact run.step_of_mem own

/-- What is found in the store, and what a step that meets the condition writes there, where the
store is durable. -/
structure Register (process : Process State Action Effect) (α : Type) where
  found : LoadedStore → α
  written : Occurrence State Action Effect → Option α
  Meets : Occurrence State Action Effect → Prop
  found_congr : ∀ {store other : LoadedStore},
    (∀ key, store.find? key = other.find? key) → found store = found other
  step : ∀ {before action effects after},
    process.machine.step before action = some (after, effects) →
      Meets ⟨before, action, effects, after⟩ → (process.storeOf before).Durable →
        (process.storeOf after).Durable ∧
          found (process.storeOf after) =
            (written ⟨before, action, effects, after⟩).getD (found (process.storeOf before))

namespace Register

variable {process : Process State Action Effect} {α : Type} (register : process.Register α)
  {trace earlier : List (Occurrence State Action Effect)} {start state : State}
  {first store : LoadedStore}

theorem found_reopened (durable : store.Durable) :
    register.found store.reopened = register.found store :=
  register.found_congr durable.find?_reopened

/-- Within a process the last write is found. -/
theorem found_run (durable : (process.storeOf start).Durable)
    (run : process.machine.Run start trace state)
    (meets : ∀ step ∈ trace, register.Meets step) :
    (process.storeOf state).Durable ∧
      register.found (process.storeOf state) =
        (lastOf register.written trace).getD (register.found (process.storeOf start)) := by
  induction run with
  | nil => exact ⟨durable, rfl⟩
  | snoc _ taken ih =>
      obtain ⟨kept, found⟩ := ih fun step member => meets step (List.mem_append_left _ member)
      have stepped := register.step taken
        (meets _ (List.mem_append_right _ List.mem_cons_self)) kept
      refine ⟨stepped.1, ?_⟩
      rw [stepped.2, found, lastOf_snoc]
      cases register.written _ <;> rfl

/-- The next process finds the last write of all that were before it. -/
theorem found_lives (durable : first.Durable) (lives : process.Lives first trace store)
    (meets : ∀ step ∈ trace, register.Meets step) :
    store.Durable ∧
      register.found store = (lastOf register.written trace).getD (register.found first) := by
  induction lives with
  | nil => exact ⟨durable, rfl⟩
  | snoc _ starts run ih =>
      obtain ⟨kept, found⟩ := ih fun step member => meets step (List.mem_append_left _ member)
      have opened := process.opens _ _ starts
      obtain ⟨stays, ran⟩ := register.found_run (opened ▸ kept.reopened) run fun step member =>
        meets step (List.mem_append_right _ member)
      refine ⟨stays, ?_⟩
      rw [ran, opened, register.found_reopened kept, found, lastOf_append]
      cases lastOf register.written _ <;> rfl

/-- A process that is under way finds the last write, of its own or of one before it. -/
theorem found_within (durable : first.Durable) (lives : process.Lives first earlier store)
    (starts : process.Starts store.reopened start)
    (run : process.machine.Run start trace state)
    (meets : ∀ step ∈ earlier ++ trace, register.Meets step) :
    register.found (process.storeOf state) =
      (lastOf register.written (earlier ++ trace)).getD (register.found first) := by
  obtain ⟨kept, found⟩ := register.found_lives durable lives fun step member =>
    meets step (List.mem_append_left _ member)
  have opened := process.opens _ _ starts
  obtain ⟨-, ran⟩ := register.found_run (opened ▸ kept.reopened) run fun step member =>
    meets step (List.mem_append_right _ member)
  rw [ran, opened, register.found_reopened kept, found, lastOf_append]
  cases lastOf register.written trace <;> rfl

end Register

/-- A component whose steps do nothing to the store but persist properties. -/
structure Persists (process : Process State Action Effect)
    (wrote : Occurrence State Action Effect → List (String × String)) : Prop where
  step : ∀ {before action effects after},
    process.machine.step before action = some (after, effects) →
      process.storeOf after =
        (process.storeOf before).persistEach (wrote ⟨before, action, effects, after⟩)

namespace Persists

variable {process : Process State Action Effect}
  {wrote : Occurrence State Action Effect → List (String × String)}
  (persists : process.Persists wrote) (key : String)
  {written : Occurrence State Action Effect → Option String}
  (last : ∀ {before action effects after},
    process.machine.step before action = some (after, effects) →
      lastOf (LoadedStore.valueAt key) (wrote ⟨before, action, effects, after⟩) =
        written ⟨before, action, effects, after⟩)
  {trace earlier : List (Occurrence State Action Effect)} {start state : State}
  {first store : LoadedStore}

include persists last

/-- What is under a key is a register. -/
def register : process.Register (Option String) where
  found store := store.find? key
  written occurrence := (written occurrence).map some
  Meets occurrence := ∀ property ∈ wrote occurrence, Readable property.1 ∧ Readable property.2
  found_congr same := same key
  step taken readable durable := by
    rw [persists.step taken]
    refine ⟨durable.persistEach readable, ?_⟩
    rw [LoadedStore.find?_persistEach _ readable, last taken]
    cases written _ <;> rfl

theorem find?_run (durable : (process.storeOf start).Durable)
    (run : process.machine.Run start trace state)
    (readable : ∀ step ∈ trace, ∀ property ∈ wrote step,
      Readable property.1 ∧ Readable property.2) :
    (process.storeOf state).find? key =
      (lastOf written trace).or ((process.storeOf start).find? key) := by
  refine ((persists.register key last).found_run durable run readable).2.trans ?_
  rw [show lastOf (persists.register key last).written trace = _ from lastOf_map written some trace]
  cases lastOf written trace <;> rfl

theorem find?_lives (durable : first.Durable) (lives : process.Lives first trace store)
    (readable : ∀ step ∈ trace, ∀ property ∈ wrote step,
      Readable property.1 ∧ Readable property.2) :
    store.Durable ∧ store.reopened.find? key = (lastOf written trace).or (first.find? key) := by
  obtain ⟨kept, found⟩ := (persists.register key last).found_lives durable lives readable
  refine ⟨kept, ?_⟩
  rw [kept.find?_reopened]
  refine found.trans ?_
  rw [show lastOf (persists.register key last).written trace = _ from lastOf_map written some trace]
  cases lastOf written trace <;> rfl

end Persists
end Process
end DeviceSettings.Persistence
