import DeviceSettings.Persistence.RoundTrip

/-!
# A call that stops half way

`persistUntil` is `persistHostProperty` with each of its two file writes cut after
any number of steps: power loss stops both, a failed `fopen` or a short write of
the backup still lets the main file be written. The backup is never read back,
so only the steps on the main file decide what a later `load` finds.
-/

namespace DeviceSettings.Persistence

open DeviceSettings.Std

/-- The file operations of a call: those on the backup, then those on the store file. -/
def persistSteps (store : HostPersistence) (key value : String) :
    List (FileStep String) × List (FileStep String) :=
  if key = "" ∨ value = "" then ([], [])
  else
    match store.properties.find? key with
    | none => ([], writeSteps store.filePath (store.properties.insert key value))
    | some current =>
      if current = value then ([], [])
      else
        (writeSteps store.backupPath store.properties,
          writeSteps store.filePath ((store.properties.erase key).insert key value))

/-- The files that survive when only so many steps of each write take place. -/
def persistUntil (store : HostPersistence) (files : Files String) (key value : String)
    (backupSteps mainSteps : Nat) : Files String :=
  let steps := persistSteps store key value
  (files.run (steps.1.take backupSteps)).run (steps.2.take mainSteps)

/-- Cut behind its last step, a call is `persistHostProperty`. -/
theorem persistUntil_complete {store : HostPersistence} (ready : store.isInitialized = true)
    (files : Files String) (key value : String) {backupSteps mainSteps : Nat}
    (backupDone : (persistSteps store key value).1.length ≤ backupSteps)
    (mainDone : (persistSteps store key value).2.length ≤ mainSteps) :
    persistUntil store files key value backupSteps mainSteps =
      (store.persistHostProperty files key value).2.2 := by
  rw [persistUntil, List.take_of_length_le backupDone, List.take_of_length_le mainDone,
    persistSteps]
  simp only [HostPersistence.persistHostProperty,
    HostPersistence.ensureInitialized_of_ready ready, HostPersistence.getProperty]
  by_cases refused : key = "" ∨ value = ""
  · simp only [if_pos refused, Files.run_nil]
  · have keyGiven : key ≠ "" := fun empty => refused (Or.inl empty)
    simp only [if_neg refused, if_neg keyGiven]
    cases found : store.properties.find? key with
    | none => rfl
    | some current =>
        by_cases same : current = value
        · simp only [if_pos same, Files.run_nil]
        · simp only [if_neg same]
          rfl

/-- A rewrite that stops after its unlink leaves the first records behind. -/
theorem reload_run_writeSteps (files : Files String) (filePath : String) {map : Properties}
    (nonempty : map.size > 0) {steps : Nat} (started : steps ≠ 0) :
    reload (files.run ((writeSteps filePath map).take steps)) filePath =
      decode (encode (map.entries.take (steps - 2))) := by
  rw [reload_eq, writeSteps, if_pos nonempty]
  obtain _ | _ | records := steps
  · exact absurd rfl started
  · simp [Files.step, Files.read, encode]
    rfl
  · have created : ((files.step (.unlink filePath)).step (.create filePath)).read filePath =
        some [] := by
      simp [Files.step, Files.read]
    simp only [List.take_succ_cons, Files.run_cons, ← List.map_take]
    rw [Files.read_run_appends created, List.nil_append, encode, List.flatMap_def]
    simp

/-- What a load finds after the cut call. -/
theorem reload_persistUntil {store : HostPersistence} {files : Files String} {key value : String}
    (accepted : key ≠ "" ∧ value ≠ "") (changes : store.properties.find? key ≠ some value)
    (backupSteps : Nat) {mainSteps : Nat} (started : mainSteps ≠ 0) :
    reload (persistUntil store files key value backupSteps mainSteps) store.filePath =
      decode (encode ((store.properties.set key value).entries.take (mainSteps - 2))) := by
  have notRefused : ¬(key = "" ∨ value = "") := by tauto
  have bound : (store.properties.set key value).find? key = some value := by
    simp [OrderedMap.find?_set]
  have nonempty := OrderedMap.size_pos_of_find? bound
  have mainOnly : (persistSteps store key value).2 =
      writeSteps store.filePath (store.properties.set key value) := by
    rw [persistSteps, if_neg notRefused]
    cases found : store.properties.find? key with
    | none => simp only [OrderedMap.insert_eq_set found]
    | some current =>
        have other : ¬current = value := fun same => changes (same ▸ found)
        simp only [if_neg other]
        rfl
  rw [persistUntil, mainOnly]
  exact reload_run_writeSteps _ store.filePath nonempty started

/-- Before the store file is touched a load still finds what it held. -/
theorem reload_persistUntil_unstarted {store : HostPersistence} {files : Files String}
    (key value : String) (backupSteps : Nat) :
    reload (persistUntil store files key value backupSteps 0) store.filePath =
      reload files store.filePath := by
  have kept : persistUntil store files key value backupSteps 0 store.filePath =
      files store.filePath := by
    rw [persistUntil, List.take_zero, Files.run_nil]
    refine Files.run_other (fun step member => ?_) files
    have onBackup : step ∈ writeSteps store.backupPath store.properties := by
      have listed := List.mem_of_mem_take member
      unfold persistSteps at listed
      split_ifs at listed
      · exact absurd listed List.not_mem_nil
      · split at listed
        · exact absurd listed List.not_mem_nil
        · split_ifs at listed
          · exact absurd listed List.not_mem_nil
          · exact listed
    rw [HostPersistence.target_writeSteps onBackup]
    exact (HostPersistence.backupPath_ne store).symm
  rw [reload_eq, reload_eq, Files.read, Files.read, kept]

/-- A call that has nothing to change leaves every file alone. -/
theorem persistUntil_unchanged {store : HostPersistence} {key value : String}
    (unchanged : key = "" ∨ value = "" ∨ store.properties.find? key = some value)
    (files : Files String) (backupSteps mainSteps : Nat) :
    persistUntil store files key value backupSteps mainSteps = files := by
  have nothing : persistSteps store key value = ([], []) := by
    unfold persistSteps
    by_cases refused : key = "" ∨ value = ""
    · rw [if_pos refused]
    · have found : store.properties.find? key = some value := by tauto
      simp [refused, found]
  simp [persistUntil, nothing]

/-- A load after the cut call finds the map it had or the map it was given. -/
def Survives (store : HostPersistence) (files : Files String) (key value : String)
    (backupSteps mainSteps : Nat) : Prop :=
  let loaded := reload (persistUntil store files key value backupSteps mainSteps) store.filePath
  loaded = store.properties ∨ loaded = store.properties.set key value

theorem mem_entries_set {map : Properties} {key value : String} {entry : String × String}
    (member : entry ∈ (map.set key value).entries) :
    entry = (key, value) ∨ entry ∈ map.entries := by
  obtain ⟨wanted, found⟩ := entry
  have bound := OrderedMap.mem_entries_iff.mp member
  rw [OrderedMap.find?_set] at bound
  split_ifs at bound with same
  · rw [← same, ← Option.some.inj bound]
    exact Or.inl rfl
  · exact Or.inr (OrderedMap.mem_entries_iff.mpr bound)

/-- With readable strings, the records written so far are the bindings loaded. -/
theorem decode_encode_take {map : Properties}
    (readable : ∀ entry ∈ map.entries, Readable entry.1 ∧ Readable entry.2) (records : Nat) :
    decode (encode (map.entries.take records)) = map.take records := by
  have readableTake : ∀ entry ∈ map.entries.take records,
      Readable entry.1 ∧ Readable entry.2 :=
    fun entry member => readable entry (List.mem_of_mem_take member)
  rw [decode, scanRecords_encode readableTake]
  exact OrderedMap.insertAll_entries (map.take records)

/-- How much of the new map may be written for a load to find the old one. -/
theorem take_set_eq_iff {map : Properties} {key value : String}
    (changes : map.find? key ≠ some value) (records : Nat) :
    (map.set key value).take records = map ↔
      map.find? key = none ∧ (∀ entry ∈ map.entries, entry.1 < key) ∧ records = map.size := by
  cases found : map.find? key with
  | none =>
      rw [← OrderedMap.insert_eq_set found, OrderedMap.ext_iff, OrderedMap.entries_take,
        OrderedMap.take_insert_eq_iff found]
      tauto
  | some current =>
      -- the new binding of the key contradicts the old one, which the prefix would keep
      refine ⟨fun same => ?_, fun impossible => by simp at impossible⟩
      have oldBinding : (key, current) ∈ ((map.set key value).take records).entries := by
        rw [same]
        exact OrderedMap.mem_entries_iff.mpr found
      have inSet : (key, current) ∈ (map.set key value).entries :=
        List.mem_of_mem_take oldBinding
      have bound := OrderedMap.mem_entries_iff.mp inSet
      rw [OrderedMap.find?_set, if_pos rfl] at bound
      exact absurd (found.trans bound.symm) changes

theorem take_eq_self_iff (map : Properties) (records : Nat) :
    map.take records = map ↔ map.size ≤ records := by
  rw [OrderedMap.ext_iff, OrderedMap.entries_take]
  constructor
  · intro same
    have lengths := congrArg List.length same
    rw [List.length_take] at lengths
    unfold OrderedMap.size
    omega
  · exact List.take_of_length_le

/-- A binding the reader cannot return is never loaded as it was given. -/
theorem decode_ne_set {map : Properties} {key value : String}
    (accepted : key ≠ "" ∧ value ≠ "") (unreadable : ¬(Readable key ∧ Readable value))
    (content : List Char) : decode content ≠ map.set key value := by
  intro same
  have found : (decode content).find? key = some value := by
    rw [same, OrderedMap.find?_set, if_pos rfl]
  have scanned := scanned_bounded (OrderedMap.mem_of_insertAll_empty found)
  exact unreadable
    ⟨scanned key (Or.inl rfl) accepted.1, scanned value (Or.inr rfl) accepted.2⟩

/-- A call that stops half way loses nothing exactly when it had nothing to change,
had not reached the store file, had written every record, or had left out only the
record of a new key behind all others. Strings the reader cannot return are never
loaded as given; then the records written must by accident read as the old map. -/
theorem survives_iff {store : HostPersistence} {files : Files String}
    (held : reload files store.filePath = store.properties)
    (nonempty : ∀ entry ∈ store.properties.entries, entry.1 ≠ "" ∧ entry.2 ≠ "")
    (key value : String) (backupSteps mainSteps : Nat) :
    Survives store files key value backupSteps mainSteps ↔
      (key = "" ∨ value = "" ∨ store.properties.find? key = some value) ∨
      mainSteps = 0 ∨
      ((store.properties.set key value).size + 2 ≤ mainSteps ∧
        Readable key ∧ Readable value) ∨
      (store.properties.find? key = none ∧
        (∀ entry ∈ store.properties.entries, entry.1 < key) ∧
        mainSteps - 2 = store.properties.size) ∨
      (¬(Readable key ∧ Readable value) ∧
        decode (encode ((store.properties.set key value).entries.take (mainSteps - 2))) =
          store.properties) := by
  have readable := readable_of_reload held nonempty
  by_cases unchanged : key = "" ∨ value = "" ∨ store.properties.find? key = some value
  · have same : reload (persistUntil store files key value backupSteps mainSteps)
        store.filePath = store.properties := by
      rw [persistUntil_unchanged unchanged, held]
    exact iff_of_true (Or.inl same) (Or.inl unchanged)
  by_cases unstarted : mainSteps = 0
  · subst unstarted
    have same : reload (persistUntil store files key value backupSteps 0)
        store.filePath = store.properties := by
      rw [reload_persistUntil_unstarted, held]
    exact iff_of_true (Or.inl same) (Or.inr (Or.inl rfl))
  obtain ⟨keyGiven, valueGiven, changes⟩ :
      key ≠ "" ∧ value ≠ "" ∧ store.properties.find? key ≠ some value := by
    simpa only [not_or] using unchanged
  have accepted : key ≠ "" ∧ value ≠ "" := ⟨keyGiven, valueGiven⟩
  have loaded : reload (persistUntil store files key value backupSteps mainSteps)
      store.filePath =
        decode (encode ((store.properties.set key value).entries.take (mainSteps - 2))) :=
    reload_persistUntil accepted changes backupSteps unstarted
  simp only [Survives, loaded, unchanged, unstarted, false_or]
  by_cases tokens : Readable key ∧ Readable value
  · have readableSet : ∀ entry ∈ (store.properties.set key value).entries,
        Readable entry.1 ∧ Readable entry.2 := fun entry member => by
      rcases mem_entries_set member with rfl | old
      · exact tokens
      · exact readable entry old
    have bound : (store.properties.set key value).find? key = some value := by
      simp [OrderedMap.find?_set]
    have setNonempty := OrderedMap.size_pos_of_find? bound
    have allWritten : (store.properties.set key value).size ≤ mainSteps - 2 ↔
        (store.properties.set key value).size + 2 ≤ mainSteps := by
      omega
    rw [decode_encode_take readableSet, take_set_eq_iff changes, take_eq_self_iff, allWritten]
    constructor
    · rintro (oldMap | newMap)
      · exact Or.inr (Or.inl oldMap)
      · exact Or.inl ⟨newMap, tokens⟩
    · rintro (⟨newMap, -⟩ | oldMap | ⟨unreadable, -⟩)
      · exact Or.inr newMap
      · exact Or.inl oldMap
      · exact absurd tokens unreadable
  · have neverGiven : decode (encode ((store.properties.set key value).entries.take
        (mainSteps - 2))) ≠ store.properties.set key value :=
      decode_ne_set accepted tokens _
    have oldRecords : (store.properties.find? key = none ∧
        (∀ entry ∈ store.properties.entries, entry.1 < key) ∧
        mainSteps - 2 = store.properties.size) →
        decode (encode ((store.properties.set key value).entries.take (mainSteps - 2))) =
          store.properties := fun left => by
      have taken := (take_set_eq_iff changes _).mpr left
      rw [← OrderedMap.entries_take, taken, (decode_encode_iff nonempty).mpr readable]
    constructor
    · rintro (oldMap | newMap)
      · exact Or.inr (Or.inr ⟨tokens, oldMap⟩)
      · exact absurd newMap neverGiven
    · rintro (⟨-, readablePair⟩ | left | ⟨-, oldMap⟩)
      · exact absurd readablePair tokens
      · exact Or.inl (oldRecords left)
      · exact Or.inl oldMap

/-- Cutting the power behind the unlink of a two-entry store: nothing is left. -/
theorem survives_iff_cut :
    let store : HostPersistence :=
      ⟨OrderedMap.empty.insertAll [("a", "1"), ("b", "2")], .empty, "hostData", "d", true⟩
    let files : Files String :=
      Function.update (fun _ => Slot.absent) "hostData"
        ⟨1, true, fun _ => encode store.properties.entries⟩
    Survives store files "a" "3" 4 1 ↔
      ("a" = "" ∨ "3" = "" ∨ store.properties.find? "a" = some "3") ∨
      1 = 0 ∨
      ((store.properties.set "a" "3").size + 2 ≤ 1 ∧ Readable "a" ∧ Readable "3") ∨
      (store.properties.find? "a" = none ∧
        (∀ entry ∈ store.properties.entries, entry.1 < "a") ∧ 1 - 2 = store.properties.size) ∨
      (¬(Readable "a" ∧ Readable "3") ∧
        decode (encode ((store.properties.set "a" "3").entries.take (1 - 2))) =
          store.properties) :=
  survives_iff (by decide) (by decide) "a" "3" 4 1

/-- Losing power right after the store file is unlinked loses every setting, although
the backup holds them all. -/
theorem not_survives_unlinked :
    ¬∀ (store : HostPersistence) (files : Files String) (key value : String)
      (backupSteps mainSteps : Nat),
      (∀ entry ∈ store.properties.entries, Readable entry.1 ∧ Readable entry.2) →
      reload files store.filePath = store.properties →
      Survives store files key value backupSteps mainSteps := by
  intro always
  have holds := always
    ⟨OrderedMap.empty.insertAll [("a", "1"), ("b", "2")], .empty, "hostData", "d", true⟩
    (Function.update (fun _ => Slot.absent) "hostData"
      ⟨1, true, fun _ => "a\t1\nb\t2\n".toList⟩)
    "a" "3" 4 1 (by decide) (by decide)
  revert holds
  unfold Survives
  decide

end DeviceSettings.Persistence
