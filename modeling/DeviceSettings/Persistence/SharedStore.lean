import DeviceSettings.Persistence.RoundTrip
import DeviceSettings.Std.Machine

/-!
# Several threads on one store

The audio level thread and the API threads call `persistHostProperty` on the same
object without a lock. Each shared access is a step of its own: the look-up, the
update of the map, `unlink`, `fopen`, the copy of one record into the private stream
buffer and the flush at offset 0 of the file that was opened.
-/

namespace DeviceSettings.Persistence

open DeviceSettings.Std

/-- Where a thread stands in `writeToFile`. -/
inductive WritePhase where
  | unlink
  | fopen
  /-- `last` is the key of the newest record in `buffer`, which `file` will receive. -/
  | copying (file : Nat) (buffer : List Char) (last : Option String)
  deriving DecidableEq

/-- Where a thread stands in `persistHostProperty`. -/
inductive PersistPhase where
  | returned
  | lookUp (key value : String)
  | backingUp (key value : String) (phase : WritePhase)
  /-- `found` tells whether `erase` precedes `insert`. -/
  | updating (key value : String) (found : Bool)
  | writing (phase : WritePhase)
  deriving DecidableEq

/-- The store object, its files and every thread's place in the code. -/
structure SharedStore (Thread : Type) where
  properties : Properties
  files : Files String
  phase : Thread → PersistPhase

inductive PersistAction (Thread : Type) where
  | call (thread : Thread) (key value : String)
  | step (thread : Thread)

namespace SharedStore

variable {Thread : Type} [DecidableEq Thread]

/-- Move one thread. -/
def goto (state : SharedStore Thread) (thread : Thread) (phase : PersistPhase) :
    SharedStore Thread :=
  { state with phase := Function.update state.phase thread phase }

/-- The next shared access of `writeToFile(path)`; `resume` and `done` place the
thread inside the write and behind it. -/
def writeStep (state : SharedStore Thread) (thread : Thread) (path : String)
    (resume : WritePhase → PersistPhase) (done : PersistPhase) :
    WritePhase → SharedStore Thread
  | .unlink =>
    { state with files := state.files.modify path Slot.unlink }.goto thread (resume .fopen)
  | .fopen =>
    if state.properties.size > 0 then
      { state with files := state.files.modify path Slot.create }.goto thread
        (resume (.copying (state.files path).opened [] none))
    else state.goto thread done
  | .copying file buffer last =>
    match state.properties.entryAbove last with
    | some entry =>
      state.goto thread (resume (.copying file (buffer ++ dataToWrite entry) (some entry.1)))
    | none =>
      { state with files := state.files.modify path (Slot.overwrite · file buffer) }.goto
        thread done

/-- The next shared access of `persistHostProperty`. -/
def threadStep (filePath : String) (state : SharedStore Thread) (thread : Thread) :
    PersistPhase → Option (SharedStore Thread)
  | .returned => none
  | .lookUp key value =>
    match state.properties.find? key with
    | none => some (state.goto thread (.updating key value false))
    | some current =>
      if current = value then some (state.goto thread .returned)
      else some (state.goto thread (.backingUp key value .unlink))
  | .backingUp key value phase =>
    some (state.writeStep thread (filePath ++ "tmpDB") (.backingUp key value)
      (.updating key value true) phase)
  | .updating key value found =>
    let properties := if found then state.properties.erase key else state.properties
    some ({ state with properties := properties.insert key value }.goto thread (.writing .unlink))
  | .writing phase => some (state.writeStep thread filePath .writing .returned phase)

/-- The threads and their shared store; a call with an empty string throws at once. -/
def machine (filePath : String) :
    Machine (SharedStore Thread) (PersistAction Thread) InvalidArgument where
  step state
    | .call thread key value =>
      if state.phase thread = .returned then
        if key = "" ∨ value = "" then
          some (state, [⟨"Given KEY or VALUE is empty"⟩])
        else some (state.goto thread (.lookUp key value), [])
      else none
    | .step thread =>
      (state.threadStep filePath thread (state.phase thread)).map fun after => (after, [])

@[simp] theorem goto_properties (state : SharedStore Thread) (thread : Thread)
    (phase : PersistPhase) : (state.goto thread phase).properties = state.properties := rfl

@[simp] theorem goto_phase_self (state : SharedStore Thread) (thread : Thread)
    (phase : PersistPhase) : (state.goto thread phase).phase thread = phase := by
  simp [goto]

theorem goto_phase_other (state : SharedStore Thread) {thread other : Thread}
    (apart : other ≠ thread) (phase : PersistPhase) :
    (state.goto thread phase).phase other = state.phase other := by
  simp [goto, Function.update_of_ne apart]

variable {filePath : String}

/-! ### The concurrent store against the sequential one -/

@[simp] theorem goto_goto (state : SharedStore Thread) (thread : Thread)
    (first second : PersistPhase) :
    (state.goto thread first).goto thread second = state.goto thread second := by
  simp [goto]

theorem goto_self {state : SharedStore Thread} {thread : Thread} {phase : PersistPhase}
    (at_ : state.phase thread = phase) : state.goto thread phase = state := by
  simp [goto, ← at_]

/-- The thread's next shared access, as a run. -/
theorem run_step {state after : SharedStore Thread} {thread : Thread} {phase : PersistPhase}
    (at_ : state.phase thread = phase)
    (taken : state.threadStep filePath thread phase = some after) :
    (machine filePath).Run state [⟨state, .step thread, [], after⟩] after := by
  refine Machine.Run.single ?_
  simp only [machine, at_, taken, Option.map_some]

/-- The files after a flush of the whole map. -/
def flushed (state : SharedStore Thread) (path : String) (file : Nat) : SharedStore Thread :=
  { state with
    files := state.files.modify path
      (Slot.overwrite · file (encode state.properties.entries)) }

/-- Left alone, a thread copies the rest of the map and flushes all of it. -/
theorem run_copying {path : String} {resume : WritePhase → PersistPhase} {done : PersistPhase}
    {thread : Thread}
    (moves : ∀ (state : SharedStore Thread) phase,
      state.threadStep filePath thread (resume phase) =
        some (state.writeStep thread path resume done phase))
    (state : SharedStore Thread) (file : Nat) (remaining : Nat) :
    ∀ last, state.properties.size ≤ (state.properties.upTo last).length + remaining →
      ∃ trace, (machine filePath).Run
        (state.goto thread (resume (.copying file (encode (state.properties.upTo last)) last)))
        trace ((state.flushed path file).goto thread done) ∧
        ∀ occurrence ∈ trace, occurrence.action = .step thread := by
  have flushNow : ∀ last, state.properties.entryAbove last = none →
      (state.goto thread (resume (.copying file (encode (state.properties.upTo last)) last))
        ).threadStep filePath thread
          (resume (.copying file (encode (state.properties.upTo last)) last)) =
        some ((state.flushed path file).goto thread done) := fun last covered => by
    rw [moves]
    simp only [writeStep, goto_properties, covered, OrderedMap.upTo_of_entryAbove_none covered]
    simp [flushed, goto]
  induction remaining with
  | zero =>
      intro last left
      cases next : state.properties.entryAbove last with
      | none =>
          exact ⟨_, run_step (goto_phase_self _ _ _) (flushNow last next), by simp⟩
      | some entry =>
          have longer := OrderedMap.length_upTo_le state.properties (some entry.1)
          rw [OrderedMap.upTo_entryAbove next, List.length_append, List.length_singleton]
            at longer
          omega
  | succ remaining ih =>
      intro last left
      cases next : state.properties.entryAbove last with
      | none =>
          exact ⟨_, run_step (goto_phase_self _ _ _) (flushNow last next), by simp⟩
      | some entry =>
          have grown := OrderedMap.upTo_entryAbove next
          have closer : state.properties.size ≤
              (state.properties.upTo (some entry.1)).length + remaining := by
            rw [grown, List.length_append, List.length_singleton]
            omega
          obtain ⟨trace, rest, mine⟩ := ih (some entry.1) closer
          have copied : (state.goto thread
              (resume (.copying file (encode (state.properties.upTo last)) last))).threadStep
                filePath thread
                (resume (.copying file (encode (state.properties.upTo last)) last)) =
              some (state.goto thread (resume (.copying file
                (encode (state.properties.upTo (some entry.1))) (some entry.1)))) := by
            rw [moves]
            simp only [writeStep, goto_properties, next, goto_goto, grown, encode_append]
            simp [encode]
          refine ⟨_, (run_step (goto_phase_self _ _ _) copied).trans rest, ?_⟩
          intro occurrence member
          rcases List.mem_append.mp member with first | later
          · rw [List.mem_singleton.mp first]
          · exact mine occurrence later

/-- Left alone, a thread carries out `writeToFile` as the sequential code does. -/
theorem run_writeToFile {path : String} {resume : WritePhase → PersistPhase}
    {done : PersistPhase} {thread : Thread}
    (moves : ∀ (state : SharedStore Thread) phase,
      state.threadStep filePath thread (resume phase) =
        some (state.writeStep thread path resume done phase))
    (state : SharedStore Thread) (filled : state.properties.size > 0) :
    ∃ trace, (machine filePath).Run (state.goto thread (resume .unlink)) trace
        ({ state with files := state.files.run (writeSteps path state.properties) }.goto
          thread done) ∧
      ∀ occurrence ∈ trace, occurrence.action = .step thread := by
  let unlinked : SharedStore Thread :=
    { state with files := state.files.modify path Slot.unlink }
  let created : SharedStore Thread :=
    { state with files := unlinked.files.modify path Slot.create }
  have unlinks : (state.goto thread (resume .unlink)).threadStep filePath thread
      (resume .unlink) = some (unlinked.goto thread (resume .fopen)) := by
    rw [moves]
    simp [writeStep, goto, unlinked]
  have creates : (unlinked.goto thread (resume .fopen)).threadStep filePath thread
      (resume .fopen) = some (created.goto thread
        (resume (.copying (unlinked.files path).opened [] none))) := by
    have stillFilled : (unlinked.goto thread (resume .fopen)).properties.size > 0 := filled
    rw [moves, writeStep, if_pos stillFilled]
    simp [goto, created, unlinked]
  obtain ⟨trace, copies, mine⟩ := run_copying moves created (unlinked.files path).opened
    state.properties.size none (by simp [created])
  have sameFiles : (created.flushed path (unlinked.files path).opened).files =
      state.files.run (writeSteps path state.properties) := by
    have content : encode state.properties.entries =
        (state.properties.entries.map dataToWrite).flatten := List.flatMap_def
    have stream := Slot.overwrite_create (unlinked.files path) (encode state.properties.entries)
    rw [writeSteps, if_pos filled, Files.run_cons, Files.run_cons, Files.run_appends, ← content]
    have sameFile : (unlinked.files.modify path Slot.create).modify path
          (Slot.overwrite · (unlinked.files path).opened (encode state.properties.entries)) =
        (unlinked.files.modify path Slot.create).modify path
          (Slot.append · (encode state.properties.entries)) := by
      simp only [Files.modify, Function.update_self, stream]
    exact sameFile
  have reached : created.flushed path (unlinked.files path).opened =
      { state with files := state.files.run (writeSteps path state.properties) } := by
    rw [← sameFiles]
    rfl
  rw [reached] at copies
  refine ⟨_, ((run_step (goto_phase_self _ _ _) unlinks).trans
    (run_step (goto_phase_self _ _ _) creates)).trans copies, ?_⟩
  intro occurrence member
  rcases List.mem_append.mp member with opening | later
  · rcases List.mem_append.mp opening with first | second
    · rw [List.mem_singleton.mp first]
    · rw [List.mem_singleton.mp second]
  · exact mine occurrence later

/-- Left alone after its update, a thread rewrites the store file and returns. -/
theorem run_update {state : SharedStore Thread} {thread : Thread}
    (idle : state.phase thread = .returned) (files : Files String) (key value : String)
    (found : Bool) :
    let properties := (if found then state.properties.erase key else state.properties).insert
      key value
    ∃ trace, (machine filePath).Run ({ state with files }.goto thread (.updating key value found))
        trace { state with properties, files := files.run (writeSteps filePath properties) } ∧
      ∀ occurrence ∈ trace, occurrence.action = .step thread := by
  intro properties
  have moves : ∀ (state : SharedStore Thread) phase,
      state.threadStep filePath thread (PersistPhase.writing phase) =
        some (state.writeStep thread filePath .writing .returned phase) := fun _ _ => rfl
  let updated : SharedStore Thread := { state with properties, files }
  have updates : ({ state with files }.goto thread (.updating key value found)).threadStep
      filePath thread (.updating key value found) =
        some (updated.goto thread (.writing .unlink)) := by
    simp [threadStep, goto, updated, properties]
  obtain ⟨trace, writes, mine⟩ :=
    run_writeToFile moves updated (OrderedMap.size_insert_pos _ key value)
  have settled : ({ updated with
        files := updated.files.run (writeSteps filePath updated.properties) } :
      SharedStore Thread).goto thread .returned =
      { state with properties, files := files.run (writeSteps filePath properties) } :=
    goto_self idle
  rw [settled] at writes
  refine ⟨_, (run_step (goto_phase_self _ _ _) updates).trans writes, ?_⟩
  intro occurrence member
  rcases List.mem_append.mp member with first | later
  · rw [List.mem_singleton.mp first]
  · exact mine occurrence later

/-- Left alone, a thread that found another value backs the map up first. -/
theorem run_backup {state : SharedStore Thread} {thread : Thread} (key value : String)
    (filled : state.properties.size > 0) :
    ∃ trace, (machine filePath).Run (state.goto thread (.backingUp key value .unlink)) trace
        ({ state with
            files := state.files.run (writeSteps (filePath ++ "tmpDB") state.properties) }.goto
          thread (.updating key value true)) ∧
      ∀ occurrence ∈ trace, occurrence.action = .step thread := by
  have moves : ∀ (state : SharedStore Thread) phase,
      state.threadStep filePath thread (PersistPhase.backingUp key value phase) =
        some (state.writeStep thread (filePath ++ "tmpDB") (.backingUp key value)
          (.updating key value true) phase) := fun _ _ => rfl
  exact run_writeToFile moves state filled

/-- The store object of the sequential code over the same memory. -/
def sequential (state : SharedStore Thread) (filePath : String) : HostPersistence :=
  { HostPersistence.ofStoreFile filePath with
    properties := state.properties
    isInitialized := true }

/-- What the sequential call makes of the memory and the files. -/
def afterCall (state : SharedStore Thread) (filePath key value : String) :
    SharedStore Thread :=
  let result := (state.sequential filePath).persistHostProperty state.files key value
  { state with properties := result.2.1.properties, files := result.2.2 }

/-- A call that no other thread interrupts is the sequential `persistHostProperty`. -/
theorem run_persistHostProperty (filePath : String) {state : SharedStore Thread}
    {thread : Thread} (idle : state.phase thread = .returned) {key value : String}
    (accepted : key ≠ "" ∧ value ≠ "") :
    ∃ trace, (machine filePath).Run state trace (state.afterCall filePath key value) ∧
      ∀ occurrence ∈ trace, occurrence.action = .call thread key value ∨
        occurrence.action = .step thread := by
  have notRefused : ¬(key = "" ∨ value = "") := by tauto
  have called : (machine filePath).step state (.call thread key value) =
      some (state.goto thread (.lookUp key value), []) := by
    simp [machine, idle, notRefused]
  have assembled : ∀ {middle after : SharedStore Thread}
      {trace : List (Occurrence (SharedStore Thread) (PersistAction Thread) InvalidArgument)},
      (state.goto thread (.lookUp key value)).threadStep filePath thread (.lookUp key value) =
        some middle →
      (machine filePath).Run middle trace after →
      (∀ occurrence ∈ trace, occurrence.action = .step thread) →
      ∃ trace, (machine filePath).Run state trace after ∧
        ∀ occurrence ∈ trace, occurrence.action = .call thread key value ∨
          occurrence.action = .step thread := by
    intro middle after trace looked rest mine
    refine ⟨_, ((Machine.Run.single called).trans
      (run_step (goto_phase_self _ _ _) looked)).trans rest, fun occurrence member => ?_⟩
    rcases List.mem_append.mp member with opening | later
    · rcases List.mem_append.mp opening with first | second
      · exact Or.inl (by rw [List.mem_singleton.mp first])
      · exact Or.inr (by rw [List.mem_singleton.mp second])
    · exact Or.inr (mine occurrence later)
  simp only [afterCall, HostPersistence.persistHostProperty, HostPersistence.getProperty,
    HostPersistence.ensureInitialized_of_ready
      (show (state.sequential filePath).isInitialized = true from rfl),
    if_neg notRefused, if_neg accepted.1]
  cases found : state.properties.find? key with
  | none =>
      have looked : (state.goto thread (.lookUp key value)).threadStep filePath thread
          (.lookUp key value) = some (state.goto thread (.updating key value false)) := by
        simp [threadStep, found]
      obtain ⟨trace, updates, mine⟩ := run_update idle state.files key value false
      have same : (state.sequential filePath).properties.find? key = none := found
      simp only [same]
      exact assembled looked updates mine
  | some current =>
      have same : (state.sequential filePath).properties.find? key = some current := found
      simp only [same]
      by_cases unchanged : current = value
      · have looked : (state.goto thread (.lookUp key value)).threadStep filePath thread
            (.lookUp key value) = some state := by
          simp [threadStep, found, unchanged, goto_self idle]
        simp only [if_pos unchanged]
        exact assembled looked Machine.Run.nil (by simp)
      · have looked : (state.goto thread (.lookUp key value)).threadStep filePath thread
            (.lookUp key value) = some (state.goto thread (.backingUp key value .unlink)) := by
          simp [threadStep, found, unchanged]
        obtain ⟨backup, backsUp, backupMine⟩ := run_backup key value
          (OrderedMap.size_pos_of_find? found)
        obtain ⟨trace, updates, mine⟩ := run_update idle
          (state.files.run (writeSteps (filePath ++ "tmpDB") state.properties)) key value true
        simp only [if_neg unchanged]
        refine assembled looked (backsUp.trans updates) fun occurrence member => ?_
        rcases List.mem_append.mp member with first | later
        · exact backupMine occurrence first
        · exact mine occurrence later

end SharedStore
end DeviceSettings.Persistence
