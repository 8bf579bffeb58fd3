import DeviceSettings.Persistence.SharedStore

/-!
# No setting is lost between threads

Each thread changes the map before it unlinks the store file, so whatever is linked
afterwards was opened after the change and is filled from the new map. `Settling` says
so for every interleaving; once all threads have returned the store file encodes the map,
and only strings the reader cannot return keep the two apart.
-/

namespace DeviceSettings.Persistence

open DeviceSettings.Std

namespace SharedStore

variable {Thread : Type} [DecidableEq Thread] {filePath : String}

/-! ### The invariant of the store file -/

/-- Nobody has touched the store file, which still holds the map. -/
def Untouched (filePath : String) (state : SharedStore Thread) : Prop :=
  reload state.files filePath = state.properties ∧
    ∀ thread phase, state.phase thread ≠ .writing phase

/-- Some thread has changed the map and is about to unlink the store file. -/
def Unlinking (state : SharedStore Thread) : Prop :=
  ∃ thread, state.phase thread = .writing .unlink

/-- Some thread is about to create the store file, which does not exist. -/
def Creating (filePath : String) (state : SharedStore Thread) : Prop :=
  (state.files filePath).linked = false ∧ ∃ thread, state.phase thread = .writing .fopen

/-- Streams into the linked file hold the records up to their last key, and the file
is complete or will be completed by one of them. -/
structure Tracking (filePath : String) (state : SharedStore Thread) : Prop where
  linked : (state.files filePath).linked = true
  copied : ∀ thread buffer last,
    state.phase thread =
        .writing (.copying (state.files filePath).generation buffer last) →
      buffer = encode (state.properties.upTo last)
  completes :
    (state.files filePath).content (state.files filePath).generation =
        encode state.properties.entries ∨
      ((state.files filePath).content (state.files filePath).generation = [] ∧
        ∃ thread buffer last, state.phase thread =
          .writing (.copying (state.files filePath).generation buffer last))

/-- What holds between any two steps of any threads. -/
structure Settling (filePath : String) (state : SharedStore Thread) : Prop where
  opened : ∀ thread file buffer last,
    state.phase thread = .writing (.copying file buffer last) →
      file ≤ (state.files filePath).generation
  filled : ∀ thread phase, state.phase thread = .writing phase → state.properties.size > 0
  stage : Untouched filePath state ∨ Unlinking state ∨ Creating filePath state ∨
    Tracking filePath state

/-- A thread that copies into a linked file was moved there or stood there before. -/
theorem goto_phase_cases {state : SharedStore Thread} {thread other : Thread}
    {phase seen : PersistPhase} (at_ : (state.goto thread phase).phase other = seen) :
    (other = thread ∧ seen = phase) ∨ (other ≠ thread ∧ state.phase other = seen) := by
  by_cases same : other = thread
  · subst same
    rw [goto_phase_self] at at_
    exact Or.inl ⟨rfl, at_.symm⟩
  · rw [goto_phase_other _ same] at at_
    exact Or.inr ⟨same, at_⟩

/-- A step outside the rewrite of the store file changes nothing that matters to it. -/
theorem Settling.outside {state : SharedStore Thread} (settling : Settling filePath state)
    {thread : Thread} {phase : PersistPhase} {files : Files String}
    (sameFile : files filePath = state.files filePath)
    (leaves : ∀ inside, state.phase thread ≠ .writing inside)
    (enters : ∀ inside, phase ≠ .writing inside) :
    Settling filePath ({ state with files }.goto thread phase) := by
  set after := ({ state with files } : SharedStore Thread).goto thread phase with afterEq
  have phases : ∀ other inside, after.phase other = .writing inside ↔
      state.phase other = .writing inside := fun other inside => by
    by_cases same : other = thread
    · subst same
      rw [afterEq, goto_phase_self]
      exact iff_of_false (enters inside) (leaves inside)
    · rw [afterEq, goto_phase_other _ same]
  have slot : after.files filePath = state.files filePath := sameFile
  have map : after.properties = state.properties := rfl
  refine ⟨fun other file buffer last at_ => ?_, fun other inside at_ => ?_, ?_⟩
  · rw [slot]
    exact settling.opened other file buffer last ((phases other _).mp at_)
  · exact settling.filled other inside ((phases other _).mp at_)
  · rcases settling.stage with untouched | unlinking | creating | tracking
    · refine Or.inl ⟨?_, fun other inside at_ => untouched.2 other inside ((phases other _).mp at_)⟩
      have held := untouched.1
      rw [reload_eq, Files.read] at held ⊢
      rw [slot, map, held]
    · obtain ⟨other, at_⟩ := unlinking
      exact Or.inr (Or.inl ⟨other, (phases other _).mpr at_⟩)
    · obtain ⟨absent, other, at_⟩ := creating
      exact Or.inr (Or.inr (Or.inl ⟨slot ▸ absent, other, (phases other _).mpr at_⟩))
    · refine Or.inr (Or.inr (Or.inr ⟨slot ▸ tracking.linked, ?_, ?_⟩))
      · intro other buffer last at_
        rw [slot] at at_
        exact tracking.copied other buffer last ((phases other _).mp at_)
      · rw [slot, map]
        rcases tracking.completes with complete | ⟨empty, other, buffer, last, at_⟩
        · exact Or.inl complete
        · exact Or.inr ⟨empty, other, buffer, last, (phases other _).mpr at_⟩

/-- Changing the map sends the thread on to unlink the store file. -/
theorem Settling.update {state : SharedStore Thread} (settling : Settling filePath state)
    (thread : Thread) {properties : Properties} (filled : properties.size > 0) :
    Settling filePath ({ state with properties }.goto thread (.writing .unlink)) := by
  refine ⟨fun other file buffer last at_ => ?_, fun _ _ _ => filled,
    Or.inr (Or.inl ⟨thread, goto_phase_self _ _ _⟩)⟩
  rcases goto_phase_cases at_ with ⟨-, impossible⟩ | ⟨-, before⟩
  · cases impossible
  · exact settling.opened other file buffer last before

/-- Unlinking leaves streams into the old file without effect on the store. -/
theorem Settling.unlink {state : SharedStore Thread} (settling : Settling filePath state)
    {thread : Thread} (at_ : state.phase thread = .writing .unlink) :
    Settling filePath ({ state with files := state.files.modify filePath Slot.unlink }.goto
      thread (.writing .fopen)) := by
  set after := ({ state with files := state.files.modify filePath Slot.unlink } :
    SharedStore Thread).goto thread (.writing .fopen) with afterEq
  have slot : after.files filePath = (state.files filePath).unlink := Files.modify_same _ _ _
  refine ⟨fun other file buffer last seen => ?_, fun _ _ _ => settling.filled thread _ at_,
    Or.inr (Or.inr (Or.inl ⟨?_, thread, goto_phase_self _ _ _⟩))⟩
  · rcases goto_phase_cases seen with ⟨-, impossible⟩ | ⟨-, before⟩
    · cases impossible
    · rw [slot]
      exact settling.opened other file buffer last before
  · rw [slot]
    rfl

/-- Opening the store file empties it and starts a stream that will fill it. -/
theorem Settling.fopen {state : SharedStore Thread} (settling : Settling filePath state)
    {thread : Thread} (at_ : state.phase thread = .writing .fopen) :
    Settling filePath ({ state with files := state.files.modify filePath Slot.create }.goto
      thread (.writing (.copying (state.files filePath).opened [] none))) := by
  set after := ({ state with files := state.files.modify filePath Slot.create } :
    SharedStore Thread).goto thread
      (.writing (.copying (state.files filePath).opened [] none)) with afterEq
  have slot : after.files filePath = (state.files filePath).create := Files.modify_same _ _ _
  have newest : (after.files filePath).generation = (state.files filePath).opened := by
    rw [slot]
    rfl
  have grows : (state.files filePath).generation ≤ (state.files filePath).opened := by
    unfold Slot.opened
    split_ifs <;> omega
  -- the streams into the newest file are this one and, when it was linked, the old ones
  have tracking : (∀ other buffer last, state.phase other =
      .writing (.copying (state.files filePath).opened buffer last) →
      buffer = encode (state.properties.upTo last)) → Tracking filePath after := fun old => by
    refine ⟨by rw [slot]; rfl, fun other buffer last seen => ?_, Or.inr ⟨?_, ?_⟩⟩
    · rw [newest] at seen
      rcases goto_phase_cases seen with ⟨-, new⟩ | ⟨-, before⟩
      · cases new
        rfl
      · exact old other buffer last before
    · rw [slot]
      simp [Slot.create]
    · rw [newest]
      exact ⟨thread, [], none, goto_phase_self _ _ _⟩
  refine ⟨fun other file buffer last seen => ?_, fun _ _ _ => settling.filled thread _ at_, ?_⟩
  · rw [newest]
    rcases goto_phase_cases seen with ⟨-, new⟩ | ⟨-, before⟩
    · cases new
      exact le_rfl
    · exact (settling.opened other file buffer last before).trans grows
  · rcases settling.stage with untouched | ⟨other, unlinking⟩ | ⟨absent, -⟩ | old
    · exact absurd at_ (untouched.2 thread _)
    · refine Or.inr (Or.inl ⟨other, ?_⟩)
      have apart : other ≠ thread := fun same => by
        rw [same, at_] at unlinking
        cases unlinking
      rw [afterEq, goto_phase_other _ apart, unlinking]
    · refine Or.inr (Or.inr (Or.inr (tracking fun other buffer last seen => ?_)))
      have bounded := settling.opened other _ buffer last seen
      simp only [Slot.opened, absent] at bounded
      exact absurd bounded (by simp)
    · refine Or.inr (Or.inr (Or.inr (tracking fun other buffer last seen => ?_)))
      rw [Slot.opened, if_pos old.linked] at seen
      exact old.copied other buffer last seen

/-- Copying a record keeps a stream in step with the map. -/
theorem Settling.copy {state : SharedStore Thread} (settling : Settling filePath state)
    {thread : Thread} {file : Nat} {buffer : List Char} {last : Option String}
    (at_ : state.phase thread = .writing (.copying file buffer last))
    {entry : String × String} (next : state.properties.entryAbove last = some entry) :
    Settling filePath (state.goto thread
      (.writing (.copying file (buffer ++ dataToWrite entry) (some entry.1)))) := by
  refine ⟨fun other otherFile otherBuffer otherLast seen => ?_,
    fun _ _ _ => settling.filled thread _ at_, ?_⟩
  · rcases goto_phase_cases seen with ⟨-, new⟩ | ⟨-, before⟩
    · cases new
      exact settling.opened thread file buffer last at_
    · exact settling.opened other otherFile otherBuffer otherLast before
  · rcases settling.stage with untouched | ⟨other, unlinking⟩ | ⟨absent, other, creating⟩ | old
    · exact absurd at_ (untouched.2 thread _)
    · refine Or.inr (Or.inl ⟨other, ?_⟩)
      have apart : other ≠ thread := fun same => by
        rw [same, at_] at unlinking
        cases unlinking
      rw [goto_phase_other _ apart, unlinking]
    · refine Or.inr (Or.inr (Or.inl ⟨absent, other, ?_⟩))
      have apart : other ≠ thread := fun same => by
        rw [same, at_] at creating
        cases creating
      rw [goto_phase_other _ apart, creating]
    · refine Or.inr (Or.inr (Or.inr ⟨old.linked, fun other otherBuffer otherLast seen => ?_, ?_⟩))
      · rcases goto_phase_cases seen with ⟨-, new⟩ | ⟨-, before⟩
        · simp only [PersistPhase.writing.injEq, WritePhase.copying.injEq] at new
          obtain ⟨newest, rfl, rfl⟩ := new
          rw [← newest] at at_
          rw [goto_properties, OrderedMap.upTo_entryAbove next, encode_append,
            old.copied thread buffer last at_]
          simp [encode]
        · exact old.copied other otherBuffer otherLast before
      · rcases old.completes with complete | ⟨empty, other, otherBuffer, otherLast, seen⟩
        · exact Or.inl complete
        refine Or.inr ⟨empty, ?_⟩
        by_cases same : other = thread
        · subst same
          rw [at_] at seen
          cases seen
          exact ⟨other, _, _, goto_phase_self _ _ _⟩
        · exact ⟨other, otherBuffer, otherLast, by rw [goto_phase_other _ same, seen]; rfl⟩

/-- A flush of the linked file completes it; a flush of another one is not seen. -/
theorem Settling.flush {state : SharedStore Thread} (settling : Settling filePath state)
    {thread : Thread} {file : Nat} {buffer : List Char} {last : Option String}
    (at_ : state.phase thread = .writing (.copying file buffer last))
    (next : state.properties.entryAbove last = none) :
    Settling filePath
      ({ state with files := state.files.modify filePath (Slot.overwrite · file buffer) }.goto
        thread .returned) := by
  set after := ({ state with
    files := state.files.modify filePath (Slot.overwrite · file buffer) } :
      SharedStore Thread).goto thread .returned with afterEq
  have slot : after.files filePath = (state.files filePath).overwrite file buffer :=
    Files.modify_same state.files filePath (Slot.overwrite · file buffer)
  have sameGeneration : (after.files filePath).generation =
      (state.files filePath).generation := by
    rw [slot]
    rfl
  have earlier : ∀ other inside, after.phase other = .writing inside →
      other ≠ thread ∧ state.phase other = .writing inside := fun other inside seen => by
    rcases goto_phase_cases seen with ⟨-, impossible⟩ | before
    · cases impossible
    · exact before
  refine ⟨fun other otherFile otherBuffer otherLast seen => ?_,
    fun _ _ _ => settling.filled thread _ at_, ?_⟩
  · rw [sameGeneration]
    exact settling.opened other otherFile otherBuffer otherLast (earlier other _ seen).2
  · rcases settling.stage with untouched | ⟨other, unlinking⟩ | ⟨absent, other, creating⟩ | old
    · exact absurd at_ (untouched.2 thread _)
    · refine Or.inr (Or.inl ⟨other, ?_⟩)
      have apart : other ≠ thread := fun same => by
        rw [same, at_] at unlinking
        cases unlinking
      rw [afterEq, goto_phase_other _ apart, unlinking]
    · refine Or.inr (Or.inr (Or.inl ⟨by rw [slot]; exact absent, other, ?_⟩))
      have apart : other ≠ thread := fun same => by
        rw [same, at_] at creating
        cases creating
      rw [afterEq, goto_phase_other _ apart, creating]
    · refine Or.inr (Or.inr (Or.inr ⟨by rw [slot]; exact old.linked, ?_, ?_⟩))
      · intro other otherBuffer otherLast seen
        rw [sameGeneration] at seen
        exact old.copied other otherBuffer otherLast (earlier other _ seen).2
      · rw [sameGeneration, slot]
        by_cases newest : file = (state.files filePath).generation
        · have whole : buffer = encode state.properties.entries := by
            rw [newest] at at_
            rw [old.copied thread buffer last at_, OrderedMap.upTo_of_entryAbove_none next]
          have nothingLeft : ((state.files filePath).content
              (state.files filePath).generation).drop buffer.length = [] := by
            rcases old.completes with complete | ⟨empty, -⟩
            · rw [complete, whole, List.drop_length]
            · rw [empty, List.drop_nil]
          left
          simp only [Slot.overwrite, newest, Function.update_self, nothingLeft,
            List.append_nil]
          exact whole
        · have unchanged : ((state.files filePath).overwrite file buffer).content
              (state.files filePath).generation =
              (state.files filePath).content (state.files filePath).generation :=
            Function.update_of_ne (Ne.symm newest) _ _
          rw [unchanged]
          rcases old.completes with complete | ⟨empty, other, otherBuffer, otherLast, seen⟩
          · exact Or.inl complete
          refine Or.inr ⟨empty, other, otherBuffer, otherLast, ?_⟩
          have apart : other ≠ thread := fun same => by
            rw [same, at_] at seen
            cases seen
            exact newest rfl
          rw [afterEq, goto_phase_other _ apart, seen]

/-- A write to another file is a sequence of steps outside the store file. -/
theorem Settling.writeElsewhere {state : SharedStore Thread} (settling : Settling filePath state)
    {thread : Thread} (leaves : ∀ inside, state.phase thread ≠ .writing inside)
    {path : String} (apart : filePath ≠ path) {resume : WritePhase → PersistPhase}
    {done : PersistPhase} (resumes : ∀ phase inside, resume phase ≠ .writing inside)
    (ends : ∀ inside, done ≠ .writing inside) (phase : WritePhase) :
    Settling filePath (state.writeStep thread path resume done phase) := by
  cases phase with
  | unlink => exact settling.outside (Files.modify_other _ apart _) leaves (resumes _)
  | fopen =>
      unfold writeStep
      split_ifs
      · exact settling.outside (Files.modify_other _ apart _) leaves (resumes _)
      · exact settling.outside rfl leaves ends
  | copying file buffer last =>
      cases next : state.properties.entryAbove last with
      | some entry =>
          simp only [writeStep, next]
          exact settling.outside rfl leaves (resumes _)
      | none =>
          simp only [writeStep, next]
          exact settling.outside
            (Files.modify_other _ apart (Slot.overwrite · file buffer)) leaves ends

/-- Every shared access of every thread keeps the store file settling. -/
theorem Settling.threadStep {state after : SharedStore Thread}
    (settling : Settling filePath state) {thread : Thread}
    (taken : state.threadStep filePath thread (state.phase thread) = some after) :
    Settling filePath after := by
  have notBackup : filePath ≠ filePath ++ "tmpDB" :=
    (HostPersistence.backupPath_ne (.ofStoreFile filePath)).symm
  cases at_ : state.phase thread with
  | returned => simp [at_, SharedStore.threadStep] at taken
  | lookUp key value =>
      have leaves : ∀ inside, state.phase thread ≠ .writing inside := by simp [at_]
      simp only [at_, SharedStore.threadStep] at taken
      split at taken
      · cases taken
        exact settling.outside rfl leaves (by simp)
      · split_ifs at taken <;> cases taken
        · exact settling.outside rfl leaves (by simp)
        · exact settling.outside rfl leaves (by simp)
  | backingUp key value phase =>
      have leaves : ∀ inside, state.phase thread ≠ .writing inside := by simp [at_]
      rw [at_] at taken
      cases taken
      exact settling.writeElsewhere leaves notBackup (by simp) (by simp) phase
  | updating key value found =>
      rw [at_] at taken
      cases taken
      refine settling.update thread (OrderedMap.size_insert_pos _ _ _)
  | writing phase =>
      rw [at_] at taken
      cases taken
      cases phase with
      | unlink => exact settling.unlink at_
      | fopen =>
          have filled := settling.filled thread _ at_
          rw [writeStep, if_pos filled]
          exact settling.fopen at_
      | copying file buffer last =>
          cases next : state.properties.entryAbove last with
          | some entry =>
              simp only [writeStep, next]
              exact settling.copy at_ next
          | none =>
              simp only [writeStep, next]
              exact settling.flush at_ next

theorem Settling.step {state after : SharedStore Thread} (settling : Settling filePath state)
    {action : PersistAction Thread} {effects : List InvalidArgument}
    (taken : (machine filePath).step state action = some (after, effects)) :
    Settling filePath after := by
  cases action with
  | call thread key value =>
      simp only [machine] at taken
      split_ifs at taken with idle refused <;> cases taken
      · exact settling
      · exact settling.outside rfl (by simp [idle]) (by simp)
  | step thread =>
      obtain ⟨reached, stepped, same⟩ := Option.map_eq_some_iff.mp taken
      cases same
      exact settling.threadStep stepped

/-- No thread is inside a call. -/
def Quiet (state : SharedStore Thread) : Prop := ∀ thread, state.phase thread = .returned

omit [DecidableEq Thread] in
/-- With every thread idle and the store file holding the map, the file has settled. -/
theorem settling_of_quiet {state : SharedStore Thread} (quiet : state.Quiet)
    (held : reload state.files filePath = state.properties) : Settling filePath state where
  opened thread _ _ _ at_ := by simp [quiet thread] at at_
  filled thread _ at_ := by simp [quiet thread] at at_
  stage := Or.inl ⟨held, fun thread => by simp [quiet thread]⟩

omit [DecidableEq Thread] in
/-- Once all threads have returned, the store file is as it was or encodes the map. -/
theorem Settling.reload_of_quiet {state : SharedStore Thread} (settling : Settling filePath state)
    (quiet : state.Quiet) :
    reload state.files filePath = state.properties ∨
      reload state.files filePath = decode (encode state.properties.entries) := by
  rcases settling.stage with untouched | ⟨thread, at_⟩ | ⟨-, thread, at_⟩ | tracking
  · exact Or.inl untouched.1
  · simp [quiet thread] at at_
  · simp [quiet thread] at at_
  · rcases tracking.completes with complete | ⟨-, thread, _, _, at_⟩
    · right
      rw [reload_eq, Files.read, Slot.read, if_pos tracking.linked, complete]
    · simp [quiet thread] at at_

/-! ### Where the bindings of the map come from -/

/-- The binding a thread is about to make. -/
def pending : PersistPhase → Option (String × String)
  | .returned => none
  | .lookUp key value => some (key, value)
  | .backingUp key value _ => some (key, value)
  | .updating key value _ => some (key, value)
  | .writing _ => none

/-- The map and the calls under way only hold bindings of one kind. -/
structure OnlyBinds (Kind : String × String → Prop) (state : SharedStore Thread) : Prop where
  bound : ∀ entry ∈ state.properties.entries, Kind entry
  called : ∀ thread binding, pending (state.phase thread) = some binding → Kind binding

theorem OnlyBinds.goto {Kind : String × String → Prop} {state : SharedStore Thread}
    (only : OnlyBinds Kind state) (thread : Thread) {phase : PersistPhase}
    (files : Files String) (kind : ∀ binding, pending phase = some binding → Kind binding) :
    OnlyBinds Kind ({ state with files }.goto thread phase) := by
  refine ⟨only.bound, fun other binding seen => ?_⟩
  by_cases same : other = thread
  · subst same
    rw [goto_phase_self] at seen
    exact kind binding seen
  · rw [goto_phase_other _ same] at seen
    exact only.called other binding seen

theorem OnlyBinds.writeStep {Kind : String × String → Prop} {state : SharedStore Thread}
    (only : OnlyBinds Kind state) (thread : Thread) (path : String)
    {resume : WritePhase → PersistPhase} {done : PersistPhase}
    (resumes : ∀ phase binding, pending (resume phase) = some binding → Kind binding)
    (ends : ∀ binding, pending done = some binding → Kind binding) (phase : WritePhase) :
    OnlyBinds Kind (state.writeStep thread path resume done phase) := by
  cases phase with
  | unlink => exact only.goto thread _ (resumes _)
  | fopen =>
      unfold SharedStore.writeStep
      split_ifs
      · exact only.goto thread _ (resumes _)
      · exact only.goto thread state.files ends
  | copying file buffer last =>
      cases next : state.properties.entryAbove last with
      | some entry =>
          simp only [SharedStore.writeStep, next]
          exact only.goto thread state.files (resumes _)
      | none =>
          simp only [SharedStore.writeStep, next]
          exact only.goto thread _ ends

theorem OnlyBinds.update {Kind : String × String → Prop} {state : SharedStore Thread}
    (only : OnlyBinds Kind state) (thread : Thread) {properties : Properties}
    (bound : ∀ entry ∈ properties.entries, Kind entry) :
    OnlyBinds Kind ({ state with properties }.goto thread (.writing .unlink)) := by
  have moved : OnlyBinds Kind (state.goto thread (.writing .unlink)) :=
    only.goto thread state.files (by simp [pending])
  exact ⟨bound, moved.called⟩

/-- A step binds what some call asked for, or nothing. -/
theorem OnlyBinds.step {Kind : String × String → Prop} {state after : SharedStore Thread}
    (only : OnlyBinds Kind state) {action : PersistAction Thread}
    {effects : List InvalidArgument}
    (taken : (machine filePath).step state action = some (after, effects))
    (calls : ∀ thread key value, action = .call thread key value →
      key ≠ "" ∧ value ≠ "" → Kind (key, value)) : OnlyBinds Kind after := by
  cases action with
  | call thread key value =>
      simp only [machine] at taken
      split_ifs at taken with idle refused <;> cases taken
      · exact only
      · refine only.goto thread state.files fun binding seen => ?_
        cases seen
        exact calls thread key value rfl (not_or.mp refused)
  | step thread =>
      obtain ⟨reached, stepped, same⟩ := Option.map_eq_some_iff.mp taken
      cases same
      have mine : ∀ binding, pending (state.phase thread) = some binding → Kind binding :=
        only.called thread
      cases at_ : state.phase thread with
      | returned => simp [at_, SharedStore.threadStep] at stepped
      | lookUp key value =>
          rw [at_] at mine
          simp only [at_, SharedStore.threadStep] at stepped
          split at stepped
          · cases stepped
            exact only.goto thread state.files mine
          · split_ifs at stepped <;> cases stepped
            · exact only.goto thread state.files (by simp [pending])
            · exact only.goto thread state.files mine
      | backingUp key value phase =>
          rw [at_] at mine stepped
          cases stepped
          have resumes : ∀ inner binding,
              pending (PersistPhase.backingUp key value inner) = some binding → Kind binding :=
            fun _ => mine
          have ends : ∀ binding,
              pending (PersistPhase.updating key value true) = some binding → Kind binding :=
            mine
          exact only.writeStep thread _ resumes ends phase
      | updating key value found =>
          rw [at_] at mine stepped
          cases stepped
          have kept : ∀ entry ∈ (if found then state.properties.erase key
              else state.properties).entries, Kind entry := fun entry member => by
            cases found with
            | false => exact only.bound entry member
            | true => exact only.bound entry (List.mem_of_mem_filter member)
          refine only.update thread fun entry member => ?_
          rcases OrderedMap.mem_insertEntry member with rfl | old
          · exact mine _ rfl
          · exact kept entry old
      | writing phase =>
          rw [at_] at stepped
          cases stepped
          exact only.writeStep thread _ (by simp [pending]) (by simp [pending]) phase

/-- Over a whole run, the map binds what it bound before or what was called for. -/
theorem OnlyBinds.run {Kind : String × String → Prop} {start final : SharedStore Thread}
    {trace : List (Occurrence (SharedStore Thread) (PersistAction Thread) InvalidArgument)}
    (run : (machine filePath).Run start trace final) (quiet : start.Quiet)
    (bound : ∀ entry ∈ start.properties.entries, Kind entry)
    (calls : ∀ occurrence ∈ trace, ∀ thread key value,
      occurrence.action = .call thread key value → key ≠ "" ∧ value ≠ "" → Kind (key, value)) :
    ∀ entry ∈ final.properties.entries, Kind entry := by
  have initially : OnlyBinds Kind start :=
    ⟨bound, fun thread binding seen => by simp [quiet thread, pending] at seen⟩
  have finally_ : OnlyBinds Kind final :=
    run.invariant_of_steps calls initially fun _ _ _ _ only taken allowed =>
      only.step taken allowed
  exact finally_.bound

/-! ### Runs that have come to rest -/

/-- Every call of a trace is made with readable strings. -/
def CallsReadable
    (trace : List (Occurrence (SharedStore Thread) (PersistAction Thread) InvalidArgument)) :
    Prop :=
  ∀ occurrence ∈ trace, ∀ thread key value,
    occurrence.action = .call thread key value → Readable key ∧ Readable value

/-- However the threads interleave, once all have returned the store file decodes to
the map exactly when the reader can return what the map binds; calls with readable
strings are enough for that. -/
theorem reload_iff_readable {start final : SharedStore Thread}
    {trace : List (Occurrence (SharedStore Thread) (PersistAction Thread) InvalidArgument)}
    (run : (machine filePath).Run start trace final) (quietStart : start.Quiet)
    (held : reload start.files filePath = start.properties)
    (nonempty : ∀ entry ∈ start.properties.entries, entry.1 ≠ "" ∧ entry.2 ≠ "")
    (quietFinal : final.Quiet) :
    (reload final.files filePath = final.properties ↔
      ∀ entry ∈ final.properties.entries, Readable entry.1 ∧ Readable entry.2) ∧
    (CallsReadable trace → reload final.files filePath = final.properties) := by
  have settling : Settling filePath final :=
    run.invariant (settling_of_quiet quietStart held) fun _ _ _ _ before taken =>
      before.step taken
  have finalNonempty := OnlyBinds.run run quietStart nonempty fun _ _ _ _ _ _ given => given
  have exact_ : reload final.files filePath = final.properties ↔
      ∀ entry ∈ final.properties.entries, Readable entry.1 ∧ Readable entry.2 := by
    refine ⟨fun same => readable_of_reload same finalNonempty, fun readable => ?_⟩
    rcases settling.reload_of_quiet quietFinal with same | encoded
    · exact same
    · rw [encoded, (decode_encode_iff finalNonempty).mpr readable]
  refine ⟨exact_, fun calls => exact_.mpr ?_⟩
  exact OnlyBinds.run run quietStart (readable_of_reload held nonempty)
    fun occurrence member thread key value called _ =>
      calls occurrence member thread key value called

/-- The two kinds of threads that persist settings. -/
inductive PersistThread where
  | audioLevelPersist
  | api
  deriving DecidableEq

/-- No thread has started on an empty store. -/
def initial : SharedStore PersistThread :=
  ⟨.empty, fun _ => Slot.absent, fun _ => .returned⟩

/-- The level thread and an API thread inside their calls at the same time: each changes the
map between the other's shared accesses, and both rewrite the store file. -/
def overlapping : List (PersistAction PersistThread) :=
  [.call .audioLevelPersist "audio.Level" "12.0", .step .audioLevelPersist,
    .call .api "audio.Mute" "ON", .step .audioLevelPersist, .step .api,
    .step .audioLevelPersist, .step .audioLevelPersist, .step .api, .step .audioLevelPersist,
    -- the API thread unlinks and creates the file into which the level thread still copies
    .step .api, .step .audioLevelPersist, .step .api, .step .audioLevelPersist,
    .step .api, .step .api, .step .api]

theorem reload_iff_readable_overlapping :
    ∃ final trace, (machine "hostData").play initial overlapping = some (final, trace) ∧
      Machine.actionsOf trace = overlapping ∧
      (∃ occurrence ∈ trace, ∀ thread, occurrence.after.phase thread ≠ .returned) ∧
      final.properties.entries = [("audio.Level", "12.0"), ("audio.Mute", "ON")] ∧
      (reload final.files "hostData" = final.properties ↔
        ∀ entry ∈ final.properties.entries, Readable entry.1 ∧ Readable entry.2) ∧
      reload final.files "hostData" = final.properties := by
  obtain ⟨final, trace, played, both, entries, quiet⟩ :
      ∃ final trace, (machine "hostData").play initial overlapping = some (final, trace) ∧
        (∃ occurrence ∈ trace, ∀ thread, occurrence.after.phase thread ≠ .returned) ∧
        final.properties.entries = [("audio.Level", "12.0"), ("audio.Mute", "ON")] ∧
        final.Quiet := by
    refine ⟨_, _, rfl, ⟨_, List.mem_of_getElem? (i := 2) rfl, fun thread => ?_⟩, rfl,
      fun thread => ?_⟩
    · cases thread <;> decide
    · cases thread <;> rfl
  have named : Machine.actionsOf trace = overlapping := Machine.actionsOf_played played
  have calls : CallsReadable trace := fun occurrence member thread key value called => by
    have listed : occurrence.action ∈ overlapping := named ▸ List.mem_map_of_mem member
    rw [called] at listed
    simp only [overlapping, List.mem_cons, PersistAction.call.injEq, reduceCtorEq, false_or,
      List.not_mem_nil, or_false] at listed
    rcases listed with ⟨-, rfl, rfl⟩ | ⟨-, rfl, rfl⟩ <;> decide
  obtain ⟨exact_, reloads⟩ := reload_iff_readable (Machine.play_run played) (fun _ => rfl) rfl
    (by decide) quiet
  exact ⟨final, trace, played, named, both, entries, exact_, reloads calls⟩

/-- A value of 1024 characters, none of them blank. -/
def longValue : String := String.ofList (List.replicate 1024 'x')

/-- The law fails without any interleaving: the reader cuts a value of 1024 characters. -/
theorem not_reload_longValue :
    ¬∀ (start final : SharedStore PersistThread)
      (trace : List (Occurrence (SharedStore PersistThread) (PersistAction PersistThread)
        InvalidArgument)),
      (machine "hostData").Run start trace final → start.Quiet →
      reload start.files "hostData" = start.properties →
      (∀ entry ∈ start.properties.entries, entry.1 ≠ "" ∧ entry.2 ≠ "") →
      (∀ occurrence ∈ trace, ∀ thread key value, occurrence.action = .call thread key value →
        (key ≠ "" ∧ ∀ c ∈ key.toList, isspace c = false) ∧
        (value ≠ "" ∧ ∀ c ∈ value.toList, isspace c = false)) →
      final.Quiet → reload final.files "hostData" = final.properties := by
  intro always
  have chars : longValue.toList = List.replicate 1024 'x' := String.toList_ofList
  have given : longValue ≠ "" := fun empty => by
    have none := congrArg String.toList empty
    rw [chars] at none
    simp at none
  have solid : ∀ c ∈ longValue.toList, isspace c = false := fun c member => by
    rw [chars] at member
    rw [List.eq_of_mem_replicate member]
    decide
  have accepted : "k" ≠ "" ∧ longValue ≠ "" := ⟨by decide, given⟩
  obtain ⟨trace, run, calls⟩ := run_persistHostProperty "hostData"
    (show initial.phase .api = .returned from rfl) accepted
  have holds := always _ _ trace run (fun _ => rfl) rfl (by decide)
    (fun occurrence member thread key value called => by
      rcases calls occurrence member with same | same
      · rw [same] at called
        cases called
        exact ⟨⟨by decide, by simp [isspace]⟩, given, solid⟩
      · rw [same] at called
        cases called)
    (fun _ => rfl)
  have bound : (initial.afterCall "hostData" "k" longValue).properties.find? "k" =
      some longValue := by
    rw [afterCall]
    dsimp only
    rw [HostPersistence.persistHostProperty_store rfl _ accepted]
    simp [OrderedMap.find?_set]
  rw [← holds] at bound
  have tooLong := (readable_of_reload_find? bound accepted).2.1.bounded
  rw [chars, List.length_replicate, scanLimit] at tooLong
  omega

end SharedStore
end DeviceSettings.Persistence
