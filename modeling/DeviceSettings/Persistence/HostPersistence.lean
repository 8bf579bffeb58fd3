import DeviceSettings.Std.Files
import DeviceSettings.Std.OrderedMap
import DeviceSettings.Std.Scan
import Mathlib.Data.String.Basic

/-!
# The host property store

`HostPersistence` keeps the properties in memory and rewrites its whole file on
every change. The `tmpDB` backup is written before an existing binding is
replaced; `load` only turns to it when `loadFromFile` throws, which it never does.
-/

namespace DeviceSettings.Persistence

open DeviceSettings.Std

/-- `std::map<std::string, std::string>`. -/
abbrev Properties := OrderedMap String String

/-- `std::invalid_argument` with its text. -/
structure InvalidArgument where
  what : String
  deriving DecidableEq, Repr

/-- The store object; `HostPersistence.ofStoreFile` constructs it. -/
structure HostPersistence where
  properties : Properties
  defaultProperties : Properties
  filePath : String
  defaultFilePath : String
  isInitialized : Bool

/-- Longest word of the format `"%1023s\t%1023s"`. -/
def scanLimit : Nat := 1023

/-- The bindings `loadFromFile` reads from an open file, first binding first. -/
def scanRecords (content : List Char) : List (String × String) :=
  scanPairs scanLimit content.length content

/-- A missing file adds nothing and is not an error. -/
def loadFromFile (files : Files String) (fileName : String) (map : Properties) : Properties :=
  match files.read fileName with
  | none => map
  | some content => map.insertAll (scanRecords content)

/-- The bytes `fwrite` is given for one entry; `size` is an `unsigned int`. -/
def dataToWrite (entry : String × String) : List Char :=
  let data := (entry.1 ++ "\t" ++ entry.2 ++ "\n").toList
  data.take (data.length % 2 ^ 32)

/-- The file content that a complete `writeToFile` leaves behind. -/
def encode (entries : List (String × String)) : List Char := entries.flatMap dataToWrite

/-- The file operations of `writeToFile` when none of them fails. -/
def writeSteps (fileName : String) (properties : Properties) : List (FileStep String) :=
  .unlink fileName ::
    if properties.size > 0 then
      .create fileName :: (properties.entries.map dataToWrite).map (.append fileName)
    else []

namespace HostPersistence

/-- The constructor that is given the store file. -/
def ofStoreFile (storeFileName : String) : HostPersistence :=
  ⟨.empty, .empty, storeFileName, "/etc/hostDataDefault", false⟩

/-- Where the copy goes before a binding is replaced. -/
def backupPath (store : HostPersistence) : String := store.filePath ++ "tmpDB"

/-- `loadFromFile` does not throw, so the handlers of `load` are never entered. -/
def load (store : HostPersistence) (files : Files String) : HostPersistence :=
  { store with
    properties := loadFromFile files store.filePath store.properties
    defaultProperties := loadFromFile files store.defaultFilePath store.defaultProperties }

def ensureInitialized (store : HostPersistence) (files : Files String) : HostPersistence :=
  if store.isInitialized then store else { store.load files with isInitialized := true }

def writeToFile (store : HostPersistence) (fileName : String) (files : Files String) :
    Files String :=
  files.run (writeSteps fileName store.properties)

/-- `getProperty(key)`: the stored value or an exception. -/
def getProperty (store : HostPersistence) (files : Files String) (key : String) :
    Except InvalidArgument String × HostPersistence :=
  let store := store.ensureInitialized files
  if key = "" then (.error ⟨"The KEY is empty"⟩, store)
  else
    match store.properties.find? key with
    | none => (.error ⟨"The Item IS NOT FOUND"⟩, store)
    | some value => (.ok value, store)

/-- `getProperty(key, defValue)`: a missing key is no exception here. -/
def getPropertyOr (store : HostPersistence) (files : Files String) (key defValue : String) :
    Except InvalidArgument String × HostPersistence :=
  let store := store.ensureInitialized files
  if key = "" then (.error ⟨"The KEY is empty"⟩, store)
  else (.ok ((store.properties.find? key).getD defValue), store)

/-- `getDefaultProperty(key)`: the same look-up in the defaults. -/
def getDefaultProperty (store : HostPersistence) (files : Files String) (key : String) :
    Except InvalidArgument String × HostPersistence :=
  let store := store.ensureInitialized files
  if key = "" then (.error ⟨"The KEY is empty"⟩, store)
  else
    match store.defaultProperties.find? key with
    | none => (.error ⟨"The Item IS NOT FOUND"⟩, store)
    | some value => (.ok value, store)

/-- Bind the key in memory and rewrite the store file. -/
def insertAndWrite (store : HostPersistence) (files : Files String) (key value : String) :
    Except InvalidArgument Unit × HostPersistence × Files String :=
  let store := { store with properties := store.properties.insert key value }
  (.ok (), store, store.writeToFile store.filePath files)

def persistHostProperty (store : HostPersistence) (files : Files String) (key value : String) :
    Except InvalidArgument Unit × HostPersistence × Files String :=
  let store := store.ensureInitialized files
  if key = "" ∨ value = "" then
    (.error ⟨"Given KEY or VALUE is empty"⟩, store, files)
  else
    match store.getProperty files key with
    | (.ok current, store) =>
      if current = value then (.ok (), store, files)
      else
        let files := store.writeToFile store.backupPath files
        let store := { store with properties := store.properties.erase key }
        store.insertAndWrite files key value
    | (.error _, store) => store.insertAndWrite files key value

/-! ### What the operations leave behind -/

@[simp] theorem backupPath_ne (store : HostPersistence) : store.backupPath ≠ store.filePath := by
  intro same
  have lengths := congrArg String.length same
  rw [backupPath, String.length_append] at lengths
  have suffix : "tmpDB".length = 5 := rfl
  omega

@[simp] theorem ensureInitialized_isInitialized (store : HostPersistence) (files : Files String) :
    (store.ensureInitialized files).isInitialized = true := by
  unfold ensureInitialized
  split_ifs with ready
  · exact ready
  · rfl

theorem ensureInitialized_of_ready {store : HostPersistence}
    (ready : store.isInitialized = true) (files : Files String) :
    store.ensureInitialized files = store := by
  simp [ensureInitialized, ready]

@[simp] theorem ensureInitialized_filePath (store : HostPersistence) (files : Files String) :
    (store.ensureInitialized files).filePath = store.filePath := by
  unfold ensureInitialized load
  split_ifs <;> rfl

theorem getProperty_snd (store : HostPersistence) (files : Files String) (key : String) :
    (store.getProperty files key).2 = store.ensureInitialized files := by
  unfold getProperty
  split_ifs
  · rfl
  · dsimp only
    split <;> rfl

theorem getDefaultProperty_snd (store : HostPersistence) (files : Files String) (key : String) :
    (store.getDefaultProperty files key).2 = store.ensureInitialized files := by
  unfold getDefaultProperty
  split_ifs
  · rfl
  · dsimp only
    split <;> rfl

@[simp] theorem ensureInitialized_idem (store : HostPersistence) (files : Files String) :
    (store.ensureInitialized files).ensureInitialized files = store.ensureInitialized files :=
  ensureInitialized_of_ready (ensureInitialized_isInitialized store files) files

/-- A complete rewrite leaves exactly the encoded map, or no file for an empty one. -/
theorem read_writeToFile (store : HostPersistence) (fileName : String) (files : Files String) :
    (store.writeToFile fileName files).read fileName =
      if store.properties.size > 0 then some (encode store.properties.entries) else none := by
  unfold writeToFile writeSteps
  split_ifs with some
  · have created : ((files.step (.unlink fileName)).step (.create fileName)).read fileName =
        Option.some [] := by
      simp [Files.step, Files.read]
    rw [Files.run_cons, Files.run_cons, Files.read_run_appends created, List.nil_append,
      encode, List.flatMap_def]
  · simp [Files.step, Files.read]

theorem target_writeSteps {fileName : String} {properties : Properties}
    {step : FileStep String} (member : step ∈ writeSteps fileName properties) :
    Files.target step = fileName := by
  unfold writeSteps at member
  rcases List.mem_cons.mp member with rfl | member
  · rfl
  · split_ifs at member
    · rcases List.mem_cons.mp member with rfl | member
      · rfl
      · obtain ⟨chars, -, rfl⟩ := List.mem_map.mp member
        rfl
    · exact absurd member List.not_mem_nil

/-- A call writes the store file and its backup only. -/
theorem read_persistHostProperty_of_ne {store : HostPersistence}
    (ready : store.isInitialized = true) (files : Files String) (key value : String)
    {path : String} (apart : path ≠ store.filePath ∧ path ≠ store.backupPath) :
    (store.persistHostProperty files key value).2.2.read path = files.read path := by
  have written : ∀ (other : HostPersistence) (fileName : String) (files : Files String),
      path ≠ fileName → (other.writeToFile fileName files).read path = files.read path := by
    intro other fileName files different
    unfold writeToFile Files.read
    rw [Files.run_other fun step member => by rwa [target_writeSteps member]]
  simp only [persistHostProperty, ensureInitialized_of_ready ready, getProperty]
  split_ifs with refused unnamed
  · rfl
  · exact absurd (Or.inl unnamed) refused
  · cases store.properties.find? key with
    | none => exact written _ _ _ apart.1
    | some current =>
        dsimp only
        split_ifs
        · rfl
        · exact (written _ _ _ apart.1).trans (written _ _ _ apart.2)

/-- A call is refused for an empty key or value and for nothing else. -/
theorem persistHostProperty_ok_iff (store : HostPersistence) (files : Files String)
    (key value : String) :
    (store.persistHostProperty files key value).1 = .ok () ↔ key ≠ "" ∧ value ≠ "" := by
  unfold persistHostProperty
  by_cases refused : key = "" ∨ value = ""
  · simp only [if_pos refused, reduceCtorEq, false_iff]
    tauto
  · simp only [if_neg refused]
    have accepted : key ≠ "" ∧ value ≠ "" := by tauto
    simp only [accepted, ne_eq, not_false_eq_true, and_self, iff_true]
    split
    · split_ifs <;> rfl
    · rfl

/-- The memory after a call: the key is bound to the value and nothing else moves. -/
theorem persistHostProperty_store {store : HostPersistence} (ready : store.isInitialized = true)
    (files : Files String) {key value : String} (accepted : key ≠ "" ∧ value ≠ "") :
    (store.persistHostProperty files key value).2.1 =
      { store with properties := store.properties.set key value } := by
  have notRefused : ¬(key = "" ∨ value = "") := by tauto
  simp only [persistHostProperty, ensureInitialized_of_ready ready, if_neg notRefused,
    getProperty, if_neg accepted.1]
  cases found : store.properties.find? key with
  | none => simp only [insertAndWrite, OrderedMap.insert_eq_set found]
  | some current =>
      by_cases same : current = value
      · subst same
        simp [OrderedMap.set_eq_self found]
      · simp only [if_neg same]
        rfl

/-- The store file after a call: rewritten unless the binding was there already. -/
theorem persistHostProperty_read {store : HostPersistence} (ready : store.isInitialized = true)
    (files : Files String) {key value : String} (accepted : key ≠ "" ∧ value ≠ "") :
    (store.persistHostProperty files key value).2.2.read store.filePath =
      if store.properties.find? key = some value then files.read store.filePath
      else some (encode (store.properties.set key value).entries) := by
  have notRefused : ¬(key = "" ∨ value = "") := by tauto
  have bound : (store.properties.set key value).find? key = some value := by
    simp [OrderedMap.find?_set]
  have nonempty := OrderedMap.size_pos_of_find? bound
  simp only [persistHostProperty, ensureInitialized_of_ready ready, if_neg notRefused,
    getProperty, if_neg accepted.1]
  cases found : store.properties.find? key with
  | none =>
      have absent : ¬(none : Option String) = some value := by simp
      simp only [insertAndWrite, read_writeToFile, OrderedMap.insert_eq_set found,
        if_pos nonempty, if_neg absent]
  | some current =>
      by_cases same : current = value
      · simp [same]
      · have changed : ¬some current = some value := by simpa using same
        have nonempty' : ((store.properties.erase key).insert key value).size > 0 := nonempty
        simp only [if_neg same, if_neg changed, insertAndWrite, read_writeToFile,
          if_pos nonempty']
        rfl

end HostPersistence
end DeviceSettings.Persistence
