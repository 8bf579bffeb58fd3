import DeviceSettings.Persistence.RoundTrip

/-!
# The store behind its first use

Once a property was asked for, the store object is initialised and reads no file any more. A
`LoadedStore` carries that fact, so its operations are a map with defaults.
-/

namespace DeviceSettings.Persistence

open DeviceSettings.Std

/-- An initialised store object with the files it writes. -/
structure LoadedStore where
  store : HostPersistence
  files : Files String
  ready : store.isInitialized = true

namespace LoadedStore

/-- The store behind its first use. -/
def ofStore (store : HostPersistence) (files : Files String) : LoadedStore where
  store := store.ensureInitialized files
  files := files
  ready := store.ensureInitialized_isInitialized files

def find? (loaded : LoadedStore) (key : String) : Option String :=
  loaded.store.properties.find? key

def findDefault? (loaded : LoadedStore) (key : String) : Option String :=
  loaded.store.defaultProperties.find? key

def getProperty (loaded : LoadedStore) (key : String) : Except InvalidArgument String :=
  (loaded.store.getProperty loaded.files key).1

def getPropertyOr (loaded : LoadedStore) (key defValue : String) :
    Except InvalidArgument String :=
  (loaded.store.getPropertyOr loaded.files key defValue).1

def getDefaultProperty (loaded : LoadedStore) (key : String) : Except InvalidArgument String :=
  (loaded.store.getDefaultProperty loaded.files key).1

theorem ready_persistHostProperty (loaded : LoadedStore) (key value : String) :
    (loaded.store.persistHostProperty loaded.files key value).2.1.isInitialized = true := by
  by_cases accepted : key ≠ "" ∧ value ≠ ""
  · rw [HostPersistence.persistHostProperty_store loaded.ready loaded.files accepted]
    exact loaded.ready
  · have refused : key = "" ∨ value = "" := by tauto
    simp only [HostPersistence.persistHostProperty, if_pos refused,
      HostPersistence.ensureInitialized_of_ready loaded.ready, loaded.ready]

/-- What `persistHostProperty(key, value)` leaves behind. -/
def persist (loaded : LoadedStore) (key value : String) : LoadedStore where
  store := (loaded.store.persistHostProperty loaded.files key value).2.1
  files := (loaded.store.persistHostProperty loaded.files key value).2.2
  ready := loaded.ready_persistHostProperty key value

/-- What another `load` leaves behind. -/
def reload (loaded : LoadedStore) : LoadedStore where
  store := loaded.store.load loaded.files
  files := loaded.files
  ready := loaded.ready

/-- A binding that is there stays: `std::map::insert` replaces none. -/
theorem find?_reload (loaded : LoadedStore) {key value : String}
    (found : loaded.find? key = some value) : loaded.reload.find? key = some value := by
  unfold find? at found ⊢
  simp only [reload, HostPersistence.load, loadFromFile]
  cases loaded.files.read loaded.store.filePath with
  | none => exact found
  | some content => simp only [OrderedMap.find?_insertAll, found, Option.some_or]

theorem find?_persist (loaded : LoadedStore) {key value : String}
    (accepted : key ≠ "" ∧ value ≠ "") (wanted : String) :
    (loaded.persist key value).find? wanted =
      if key = wanted then some value else loaded.find? wanted := by
  simp only [find?, persist,
    HostPersistence.persistHostProperty_store loaded.ready loaded.files accepted]
  exact loaded.store.properties.find?_set key wanted value

/-- Whether the call is refused or not, the other bindings stay. -/
theorem find?_persist_of_ne (loaded : LoadedStore) {key other : String} (different : key ≠ other)
    (value : String) : (loaded.persist key value).find? other = loaded.find? other := by
  by_cases accepted : key ≠ "" ∧ value ≠ ""
  · rw [loaded.find?_persist accepted, if_neg different]
  · have refused : key = "" ∨ value = "" := by tauto
    simp only [find?, persist, HostPersistence.persistHostProperty, if_pos refused,
      HostPersistence.ensureInitialized_of_ready loaded.ready]

theorem findDefault?_persist (loaded : LoadedStore) {key value : String}
    (accepted : key ≠ "" ∧ value ≠ "") (wanted : String) :
    (loaded.persist key value).findDefault? wanted = loaded.findDefault? wanted := by
  simp only [findDefault?, persist,
    HostPersistence.persistHostProperty_store loaded.ready loaded.files accepted]

section Reads

variable (loaded : LoadedStore) {key : String} (named : key ≠ "")

include named in
theorem getProperty_eq :
    loaded.getProperty key =
      match loaded.find? key with
      | some value => .ok value
      | none => .error ⟨"The Item IS NOT FOUND"⟩ := by
  simp only [getProperty, HostPersistence.getProperty, if_neg named, find?,
    HostPersistence.ensureInitialized_of_ready loaded.ready]
  cases loaded.store.properties.find? key <;> rfl

include named in
theorem getPropertyOr_eq (defValue : String) :
    loaded.getPropertyOr key defValue = .ok ((loaded.find? key).getD defValue) := by
  simp only [getPropertyOr, HostPersistence.getPropertyOr, if_neg named, find?,
    HostPersistence.ensureInitialized_of_ready loaded.ready]

include named in
theorem getDefaultProperty_eq :
    loaded.getDefaultProperty key =
      match loaded.findDefault? key with
      | some value => .ok value
      | none => .error ⟨"The Item IS NOT FOUND"⟩ := by
  simp only [getDefaultProperty, HostPersistence.getDefaultProperty, if_neg named, findDefault?,
    HostPersistence.ensureInitialized_of_ready loaded.ready]
  cases loaded.store.defaultProperties.find? key <;> rfl

end Reads
end LoadedStore

/-! ### Loading once more -/

theorem loadFromFile_idem (files : Files String) (fileName : String) (map : Properties) :
    loadFromFile files fileName (loadFromFile files fileName map) =
      loadFromFile files fileName map := by
  unfold loadFromFile
  cases files.read fileName with
  | none => rfl
  | some content => exact map.insertAll_idem (scanRecords content)

namespace LoadedStore

/-- The files hold nothing that is not loaded. -/
structure Settled (loaded : LoadedStore) : Prop where
  properties : loadFromFile loaded.files loaded.store.filePath loaded.store.properties =
    loaded.store.properties
  defaults : loadFromFile loaded.files loaded.store.defaultFilePath
    loaded.store.defaultProperties = loaded.store.defaultProperties

theorem Settled.reload {loaded : LoadedStore} (settled : loaded.Settled) :
    loaded.reload.store = loaded.store := by
  unfold LoadedStore.reload HostPersistence.load
  dsimp only
  rw [settled.properties, settled.defaults]

theorem settled_ofStore (store : HostPersistence) (files : Files String) :
    (ofStore (store.load files) files).Settled := by
  unfold ofStore HostPersistence.ensureInitialized
  constructor <;> dsimp only <;> split_ifs <;> simp [HostPersistence.load, loadFromFile_idem]

/-- A store stays settled where the reader gets back what is written. -/
theorem Settled.persist {loaded : LoadedStore} (settled : loaded.Settled)
    (apart : loaded.store.defaultFilePath ≠ loaded.store.filePath ∧
      loaded.store.defaultFilePath ≠ loaded.store.backupPath) {key value : String}
    (accepted : key ≠ "" ∧ value ≠ "")
    (readable : ∀ entry ∈ (loaded.store.properties.set key value).entries,
      Readable entry.1 ∧ Readable entry.2) : (loaded.persist key value).Settled := by
  have content := HostPersistence.persistHostProperty_read loaded.ready loaded.files accepted
  have other := HostPersistence.read_persistHostProperty_of_ne loaded.ready loaded.files key value
    apart
  constructor
  · simp only [LoadedStore.persist, loadFromFile,
      HostPersistence.persistHostProperty_store loaded.ready loaded.files accepted, content]
    split_ifs with bound
    · rw [OrderedMap.set_eq_self bound]
      exact settled.properties
    · dsimp only
      rw [scanRecords_encode readable]
      exact OrderedMap.insertAll_entries_self _
  · simp only [LoadedStore.persist, loadFromFile,
      HostPersistence.persistHostProperty_store loaded.ready loaded.files accepted, other]
    exact settled.defaults

/-- What is loaded can be written and loaded again. -/
structure ReadsBack (loaded : LoadedStore) : Prop where
  settled : loaded.Settled
  apart : loaded.store.defaultFilePath ≠ loaded.store.filePath ∧
    loaded.store.defaultFilePath ≠ loaded.store.backupPath
  properties : ∀ key value, loaded.find? key = some value → Readable key ∧ Readable value
  defaults : ∀ key value, loaded.findDefault? key = some value → Readable key ∧ Readable value

theorem ReadsBack.persist {loaded : LoadedStore} (readsBack : loaded.ReadsBack)
    {key value : String} (readable : Readable key ∧ Readable value) :
    (loaded.persist key value).ReadsBack := by
  have accepted : key ≠ "" ∧ value ≠ "" := ⟨readable.1.ne, readable.2.ne⟩
  have bindings : ∀ other text, (loaded.persist key value).find? other = some text →
      Readable other ∧ Readable text := by
    intro other text found
    rw [loaded.find?_persist accepted] at found
    split_ifs at found with same
    · obtain rfl := Option.some.inj found
      exact same ▸ readable
    · exact readsBack.properties other text found
  have store := HostPersistence.persistHostProperty_store loaded.ready loaded.files accepted
  refine ⟨readsBack.settled.persist readsBack.apart accepted ?_, ?_, bindings, ?_⟩
  · rintro ⟨other, text⟩ member
    refine bindings other text ?_
    simp only [LoadedStore.find?, LoadedStore.persist, store]
    exact OrderedMap.mem_entries_iff.mp member
  · simp only [LoadedStore.persist, store]
    exact readsBack.apart
  · intro other text found
    rw [loaded.findDefault?_persist accepted] at found
    exact readsBack.defaults other text found

/-- A fresh store object reads back what it has loaded, unless a word of a file is empty up to
its first NUL. -/
theorem readsBack_ofStoreFile {files : Files String} {filePath : String}
    (apart : "/etc/hostDataDefault" ≠ filePath ∧ "/etc/hostDataDefault" ≠ filePath ++ "tmpDB")
    (properties : ∀ key value, (Persistence.reload files filePath).find? key = some value →
      key ≠ "" ∧ value ≠ "")
    (defaults : ∀ key value,
      (Persistence.reload files "/etc/hostDataDefault").find? key = some value →
        key ≠ "" ∧ value ≠ "") :
    (ofStore ((HostPersistence.ofStoreFile filePath).load files) files).ReadsBack := by
  have loads : ofStore ((HostPersistence.ofStoreFile filePath).load files) files =
      ⟨{ (HostPersistence.ofStoreFile filePath).load files with isInitialized := true }, files,
        rfl⟩ := by
    simp [ofStore, HostPersistence.ensureInitialized, HostPersistence.load, loadFromFile_idem,
      HostPersistence.ofStoreFile]
  refine ⟨settled_ofStore _ files, ?_, ?_, ?_⟩
  · rw [loads]
    exact apart
  · intro key value found
    rw [loads] at found
    exact readable_of_reload_find? found (properties key value found)
  · intro key value found
    rw [loads] at found
    exact readable_of_reload_find? found (defaults key value found)

end LoadedStore

/-! ### The map as the next call finds it -/

namespace HostPersistence

variable {store : HostPersistence} {files : Files String} {key value : String}

/-- The properties behind the load that the first use makes. -/
def map (store : HostPersistence) (files : Files String) : Properties :=
  (LoadedStore.ofStore store files).store.properties

theorem map_persistHostProperty (accepted : key ≠ "" ∧ value ≠ "") :
    (store.persistHostProperty files key value).2.1.map
        (store.persistHostProperty files key value).2.2 =
      (store.map files).set key value := by
  have loads : store.persistHostProperty files key value =
      (store.ensureInitialized files).persistHostProperty files key value := by
    simp only [persistHostProperty,
      ensureInitialized_of_ready (store.ensureInitialized_isInitialized files)]
  have ready := store.ensureInitialized_isInitialized files
  have bound := persistHostProperty_store ready files accepted
  have still : ({ store.ensureInitialized files with
      properties := (store.ensureInitialized files).properties.set key value } :
        HostPersistence).isInitialized = true := ready
  simp only [map, LoadedStore.ofStore, loads, bound, ensureInitialized_of_ready still]

/-- A call leaves the map as it was if and only if the binding was there. -/
theorem map_persistHostProperty_eq_iff (accepted : key ≠ "" ∧ value ≠ "") :
    (store.persistHostProperty files key value).2.1.map
        (store.persistHostProperty files key value).2.2 = store.map files ↔
      (store.map files).find? key = some value := by
  rw [map_persistHostProperty accepted]
  constructor
  · intro same
    rw [← same, OrderedMap.find?_set, if_pos rfl]
  · exact OrderedMap.set_eq_self

end HostPersistence
end DeviceSettings.Persistence
