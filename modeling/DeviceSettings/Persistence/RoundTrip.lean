import DeviceSettings.Persistence.HostPersistence

/-!
# Reading a written store back

`writeToFile` accepts every string; `loadFromFile` reads bounded words that blanks
separate. `decode_encode_iff` says for which maps the two agree, and the run
theorem turns it into the exact condition on the persisted strings.
-/

namespace DeviceSettings.Persistence

open DeviceSettings.Std

/-- Strings the reader of the store file gets back unchanged. -/
def Readable (text : String) : Prop :=
  Word scanLimit text.toList ∧ '\x00' ∉ text.toList

instance (text : String) : Decidable (Readable text) :=
  inferInstanceAs (Decidable (_ ∧ _))

theorem Readable.ne {text : String} (readable : Readable text) : text ≠ "" := by
  rintro rfl
  exact absurd readable (by decide)

/-- The map `loadFromFile` makes of a file content. -/
def decode (content : List Char) : Properties := OrderedMap.empty.insertAll (scanRecords content)

theorem cString_of_clean {text : String} (clean : '\x00' ∉ text.toList) :
    cString text.toList = text := by
  have kept : text.toList.takeWhile (fun c => c != '\x00') = text.toList := by
    rw [List.takeWhile_eq_self_iff]
    intro c member
    have other : c ≠ '\x00' := fun same => clean (same ▸ member)
    simpa using other
  rw [cString, kept, String.ofList_toList]

theorem cString_clean (chars : List Char) : '\x00' ∉ (cString chars).toList := by
  rw [cString, String.toList_ofList]
  intro member
  simpa using List.mem_takeWhile_imp member

theorem mem_cString {chars : List Char} {c : Char} (member : c ∈ (cString chars).toList) :
    c ∈ chars := by
  rw [cString, String.toList_ofList] at member
  exact (List.takeWhile_sublist _).subset member

theorem length_cString_le (chars : List Char) : (cString chars).toList.length ≤ chars.length := by
  rw [cString, String.toList_ofList]
  exact (List.takeWhile_sublist _).length_le

theorem encode_append (left right : List (String × String)) :
    encode (left ++ right) = encode left ++ encode right :=
  List.flatMap_append

/-- A record of readable strings is written in full, whatever `unsigned int` holds. -/
theorem dataToWrite_of_readable {key value : String} (readableKey : Readable key)
    (readableValue : Readable value) :
    dataToWrite (key, value) = key.toList ++ '\t' :: (value.toList ++ ['\n']) := by
  have keyBound := readableKey.1.bounded
  have valueBound := readableValue.1.bounded
  have shape : (key ++ "\t" ++ value ++ "\n").toList =
      key.toList ++ '\t' :: (value.toList ++ ['\n']) := by
    simp
  have fits : (key ++ "\t" ++ value ++ "\n").toList.length < 2 ^ 32 := by
    rw [shape]
    simp only [List.length_append, List.length_cons, List.length_nil, scanLimit] at *
    omega
  rw [dataToWrite]
  dsimp only
  rw [Nat.mod_eq_of_lt fits, List.take_length, shape]

/-- One record is one match of the format; its newline is left for the next one. -/
theorem scanPair_record {key value : String} (readableKey : Readable key)
    (readableValue : Readable value) (rest : List Char) :
    scanPair scanLimit (dataToWrite (key, value) ++ rest) = some ((key, value), '\n' :: rest) := by
  have tabFollows : ∀ c ∈ ('\t' :: (value.toList ++ '\n' :: rest)).head?, isspace c = true := by
    simp [isspace]
  have newlineFollows : ∀ c ∈ ('\n' :: rest).head?, isspace c = true := by
    simp [isspace]
  have shape : dataToWrite (key, value) ++ rest =
      key.toList ++ '\t' :: (value.toList ++ '\n' :: rest) := by
    simp [dataToWrite_of_readable readableKey readableValue]
  have second : scanWord scanLimit (skipSpace ('\t' :: (value.toList ++ '\n' :: rest))) =
      some (value.toList, '\n' :: rest) := by
    rw [scanWord_skipSpace, scanWord_blank _ (by decide),
      scanWord_word readableValue.1 newlineFollows]
  rw [shape, scanPair, scanWord_word readableKey.1 tabFollows]
  dsimp only
  rw [second]
  simp only [cString_of_clean readableKey.2, cString_of_clean readableValue.2]

theorem scanPairs_newline (fuel : Nat) (rest : List Char) :
    scanPairs scanLimit fuel ('\n' :: rest) = scanPairs scanLimit fuel rest := by
  have blank : scanWord scanLimit ('\n' :: rest) = scanWord scanLimit rest :=
    scanWord_blank _ (by decide) rest
  cases fuel with
  | zero => rfl
  | succ fuel => simp only [scanPairs, scanPair, blank]

/-- Readable entries are read back in the order in which they were written. -/
theorem scanPairs_encode {entries : List (String × String)}
    (readable : ∀ entry ∈ entries, Readable entry.1 ∧ Readable entry.2) {fuel : Nat}
    (enough : entries.length ≤ fuel) : scanPairs scanLimit fuel (encode entries) = entries := by
  induction entries generalizing fuel with
  | nil =>
      cases fuel with
      | zero => rfl
      | succ fuel => simp [encode, scanPairs, scanPair]
  | cons entry entries ih =>
      obtain ⟨key, value⟩ := entry
      obtain ⟨readableKey, readableValue⟩ := readable (key, value) List.mem_cons_self
      have later := fun other member => readable other (List.mem_cons_of_mem _ member)
      cases fuel with
      | zero => simp at enough
      | succ fuel =>
          have fuelLeft : entries.length ≤ fuel := Nat.le_of_succ_le_succ enough
          rw [encode, List.flatMap_cons, ← encode, scanPairs,
            scanPair_record readableKey readableValue]
          dsimp only
          rw [scanPairs_newline, ih later fuelLeft]

theorem dataToWrite_length_pos {key value : String} (readableKey : Readable key)
    (readableValue : Readable value) : 0 < (dataToWrite (key, value)).length := by
  rw [dataToWrite_of_readable readableKey readableValue]
  simp

/-- `loadFromFile` reads every entry of an encoding of readable strings. -/
theorem scanRecords_encode {entries : List (String × String)}
    (readable : ∀ entry ∈ entries, Readable entry.1 ∧ Readable entry.2) :
    scanRecords (encode entries) = entries := by
  refine scanPairs_encode readable ?_
  induction entries with
  | nil => exact Nat.zero_le _
  | cons entry entries ih =>
      obtain ⟨key, value⟩ := entry
      obtain ⟨readableKey, readableValue⟩ := readable (key, value) List.mem_cons_self
      have positive : 0 < (dataToWrite (key, value)).length :=
        dataToWrite_length_pos readableKey readableValue
      have later := ih fun other member => readable other (List.mem_cons_of_mem _ member)
      rw [encode, List.flatMap_cons, ← encode, List.length_append, List.length_cons]
      omega

/-- What the reader returns is solid, bounded and free of NUL, whatever the file holds. -/
theorem scanned_bounded {fuel : Nat} {content : List Char} {pair : String × String}
    (member : pair ∈ scanPairs scanLimit fuel content) :
    ∀ text, text = pair.1 ∨ text = pair.2 → text ≠ "" → Readable text := by
  have ofWord : ∀ word : List Char, Word scanLimit word → cString word ≠ "" →
      Readable (cString word) := by
    intro word valid nonempty
    refine ⟨⟨fun empty => nonempty (String.toList_eq_nil_iff.mp empty), ?_, ?_⟩,
      cString_clean word⟩
    · exact fun c inside => valid.solid c (mem_cString inside)
    · exact (length_cString_le word).trans valid.bounded
  induction fuel generalizing content with
  | zero => simp [scanPairs] at member
  | succ fuel ih =>
      cases first : scanWord scanLimit content with
      | none => simp [scanPairs, scanPair, first] at member
      | some key =>
          cases second : scanWord scanLimit (skipSpace key.2) with
          | none => simp [scanPairs, scanPair, first, second] at member
          | some value =>
              simp only [scanPairs, scanPair, first, second, List.mem_cons] at member
              rcases member with rfl | later
              · rintro text (rfl | rfl) nonempty
                · exact ofWord key.1 (scanWord_some first).1 nonempty
                · exact ofWord value.1 (scanWord_some second).1 nonempty
              · exact ih later

/-- The store file round trip: a map of non-empty strings survives a write and a
load exactly when the reader can return each of its strings. -/
theorem decode_encode_iff {map : Properties}
    (nonempty : ∀ entry ∈ map.entries, entry.1 ≠ "" ∧ entry.2 ≠ "") :
    decode (encode map.entries) = map ↔
      ∀ entry ∈ map.entries, Readable entry.1 ∧ Readable entry.2 := by
  constructor
  · intro same entry member
    have found : (decode (encode map.entries)).find? entry.1 = some entry.2 := by
      rw [same]
      exact OrderedMap.mem_entries_iff.mp member
    have scanned := scanned_bounded (OrderedMap.mem_of_insertAll_empty found)
    exact ⟨scanned _ (Or.inl rfl) (nonempty entry member).1,
      scanned _ (Or.inr rfl) (nonempty entry member).2⟩
  · intro readable
    rw [decode, scanRecords_encode readable, OrderedMap.insertAll_entries]

/-- What a fresh store object on `filePath` loads. -/
def reload (files : Files String) (filePath : String) : Properties :=
  ((HostPersistence.ofStoreFile filePath).load files).properties

theorem reload_eq (files : Files String) (filePath : String) :
    reload files filePath =
      match files.read filePath with
      | none => .empty
      | some content => decode content := rfl

/-- A binding that a load returned is readable. -/
theorem readable_of_reload_find? {files : Files String} {filePath key value : String}
    (found : (reload files filePath).find? key = some value)
    (nonempty : key ≠ "" ∧ value ≠ "") : Readable key ∧ Readable value := by
  rw [reload_eq] at found
  cases content : files.read filePath with
  | none => simp [content] at found
  | some chars =>
      simp only [content] at found
      have scanned := scanned_bounded (OrderedMap.mem_of_insertAll_empty found)
      exact ⟨scanned key (Or.inl rfl) nonempty.1, scanned value (Or.inr rfl) nonempty.2⟩

/-- A map that equals what was loaded binds readable strings only. -/
theorem readable_of_reload {files : Files String} {filePath : String} {map : Properties}
    (held : reload files filePath = map)
    (nonempty : ∀ entry ∈ map.entries, entry.1 ≠ "" ∧ entry.2 ≠ "") :
    ∀ entry ∈ map.entries, Readable entry.1 ∧ Readable entry.2 := by
  rintro ⟨key, value⟩ member
  have found : (reload files filePath).find? key = some value := by
    rw [held]
    exact OrderedMap.mem_entries_iff.mp member
  exact readable_of_reload_find? found (nonempty _ member)

/-- Make the calls one after another. -/
def persistAll (store : HostPersistence) (files : Files String) :
    List (String × String) → HostPersistence × Files String
  | [] => (store, files)
  | (key, value) :: calls =>
    let after := (store.persistHostProperty files key value).2
    persistAll after.1 after.2 calls

/-- The value of the last call for `key`. -/
def lastValue (calls : List (String × String)) (key : String) : Option String :=
  (calls.reverse.find? fun call => call.1 = key).map Prod.snd

/-- The file holds the encoding of the map in memory; an empty map may lack a file. -/
structure Mirrors (store : HostPersistence) (files : Files String) : Prop where
  written : files.read store.filePath = some (encode store.properties.entries) ∨
    (files.read store.filePath = none ∧ store.properties = .empty)
  blank : store.isInitialized = false → store.properties = .empty

theorem scanRecords_nil : scanRecords [] = [] := rfl

/-- The first access to a mirrored store loads nothing that it does not hold. -/
theorem Mirrors.ensureInitialized_properties {store : HostPersistence} {files : Files String}
    (mirrors : Mirrors store files) :
    (store.ensureInitialized files).properties = store.properties := by
  unfold HostPersistence.ensureInitialized
  cases ready : store.isInitialized with
  | true => rfl
  | false =>
      have empty := mirrors.blank ready
      have absentOrEmpty : files.read store.filePath = none ∨
          files.read store.filePath = some [] := by
        rcases mirrors.written with written | ⟨absent, -⟩
        · rw [written, empty]
          exact Or.inr rfl
        · exact Or.inl absent
      rcases absentOrEmpty with absent | emptyFile
      · simp [HostPersistence.load, loadFromFile, absent]
      · simp [HostPersistence.load, loadFromFile, emptyFile, scanRecords_nil,
          OrderedMap.insertAll]

theorem Mirrors.ensureInitialized {store : HostPersistence} {files : Files String}
    (mirrors : Mirrors store files) : Mirrors (store.ensureInitialized files) files := by
  constructor
  · rw [mirrors.ensureInitialized_properties, HostPersistence.ensureInitialized_filePath]
    exact mirrors.written
  · intro impossible
    rw [HostPersistence.ensureInitialized_isInitialized] at impossible
    exact absurd impossible (by decide)

/-- A call sees the store as its first access leaves it. -/
theorem persistHostProperty_ensured (store : HostPersistence) (files : Files String)
    (key value : String) :
    store.persistHostProperty files key value =
      (store.ensureInitialized files).persistHostProperty files key value := by
  simp only [HostPersistence.persistHostProperty,
    HostPersistence.ensureInitialized_of_ready
      (HostPersistence.ensureInitialized_isInitialized store files)]

/-- One accepted call binds its key in memory and keeps the file in step. -/
theorem Mirrors.persist {store : HostPersistence} {files : Files String}
    (mirrors : Mirrors store files) {key value : String} (accepted : key ≠ "" ∧ value ≠ "") :
    Mirrors (store.persistHostProperty files key value).2.1
        (store.persistHostProperty files key value).2.2 ∧
      (store.persistHostProperty files key value).2.1.properties =
        store.properties.set key value ∧
      (store.persistHostProperty files key value).2.1.filePath = store.filePath := by
  rw [persistHostProperty_ensured]
  have ready := HostPersistence.ensureInitialized_isInitialized store files
  have samePath := HostPersistence.ensureInitialized_filePath store files
  have sameProperties := mirrors.ensureInitialized_properties
  have readBack := HostPersistence.persistHostProperty_read ready files accepted
  have written := mirrors.ensureInitialized.written
  rw [HostPersistence.persistHostProperty_store ready files accepted]
  refine ⟨⟨?_, fun impossible => ?_⟩, ?_, samePath⟩
  · dsimp only
    rw [readBack]
    split_ifs with bound
    · rw [OrderedMap.set_eq_self bound]
      exact written
    · exact Or.inl rfl
  · rw [ready] at impossible
    exact absurd impossible (by decide)
  · rw [sameProperties]

theorem lastValue_cons (call : String × String) (calls : List (String × String)) (key : String) :
    lastValue (call :: calls) key =
      (lastValue calls key).or (if call.1 = key then some call.2 else none) := by
  unfold lastValue
  rw [List.reverse_cons, List.find?_append]
  cases calls.reverse.find? fun call => call.1 = key with
  | none => by_cases same : call.1 = key <;> simp [same]
  | some found => simp

/-- The last value of a key comes from one of the calls. -/
theorem lastValue_accepted {calls : List (String × String)}
    (accepted : ∀ call ∈ calls, call.1 ≠ "" ∧ call.2 ≠ "") {key value : String}
    (last : lastValue calls key = some value) : key ≠ "" ∧ value ≠ "" := by
  obtain ⟨call, found, rfl⟩ := Option.map_eq_some_iff.mp last
  have sameKey : call.1 = key := by simpa using List.find?_some found
  rw [← sameKey]
  exact accepted call (List.mem_reverse.mp (List.mem_of_find?_eq_some found))

/-- The memory and the file after any sequence of accepted calls. -/
theorem Mirrors.persistAll {store : HostPersistence} {files : Files String}
    (mirrors : Mirrors store files) {calls : List (String × String)}
    (accepted : ∀ call ∈ calls, call.1 ≠ "" ∧ call.2 ≠ "") :
    Mirrors (persistAll store files calls).1 (persistAll store files calls).2 ∧
      (Persistence.persistAll store files calls).1.filePath = store.filePath ∧
      ∀ key, (Persistence.persistAll store files calls).1.properties.find? key =
        (lastValue calls key).or (store.properties.find? key) := by
  induction calls generalizing store files with
  | nil => exact ⟨mirrors, rfl, fun key => rfl⟩
  | cons call calls ih =>
      obtain ⟨key, value⟩ := call
      obtain ⟨stepMirrors, stepProperties, stepPath⟩ :=
        mirrors.persist (accepted (key, value) List.mem_cons_self)
      obtain ⟨runMirrors, runPath, runBindings⟩ :=
        ih stepMirrors fun call member => accepted call (List.mem_cons_of_mem _ member)
      refine ⟨runMirrors, runPath.trans stepPath, fun wanted => ?_⟩
      rw [Persistence.persistAll, runBindings, stepProperties, lastValue_cons,
        OrderedMap.find?_set]
      cases lastValue calls wanted with
      | some found => simp
      | none => by_cases same : key = wanted <;> simp [same]

/-- A store object constructed on a missing or empty file is mirrored by it. -/
theorem mirrors_ofStoreFile {files : Files String} {filePath : String}
    (emptyStore : files.read filePath = none ∨ files.read filePath = some []) :
    Mirrors (HostPersistence.ofStoreFile filePath) files := by
  refine ⟨?_, fun _ => rfl⟩
  rcases emptyStore with absent | empty
  · exact Or.inr ⟨absent, rfl⟩
  · exact Or.inl empty

/-- Reloading a mirrored store decodes what was encoded. -/
theorem Mirrors.reload {store : HostPersistence} {files : Files String}
    (mirrors : Mirrors store files) :
    reload files store.filePath = decode (encode store.properties.entries) := by
  rw [reload_eq]
  rcases mirrors.written with written | ⟨absent, empty⟩
  · rw [written]
  · rw [absent, empty]
    rfl

/-- After the calls, a fresh object on the store file holds what the writing
object holds in memory. -/
def RoundTrips (files : Files String) (filePath : String) (calls : List (String × String)) :
    Prop :=
  let written := persistAll (HostPersistence.ofStoreFile filePath) files calls
  reload written.2 filePath = written.1.properties

/-- From an empty store the accepted calls round trip exactly when the reader can
return every key that was persisted and its last value. -/
theorem roundTrips_iff_readable {files : Files String} {filePath : String}
    (emptyStore : files.read filePath = none ∨ files.read filePath = some [])
    {calls : List (String × String)} (accepted : ∀ call ∈ calls, call.1 ≠ "" ∧ call.2 ≠ "") :
    RoundTrips files filePath calls ↔
      ∀ key value, lastValue calls key = some value → Readable key ∧ Readable value := by
  obtain ⟨mirrors, samePath, bindings⟩ :=
    (mirrors_ofStoreFile emptyStore).persistAll accepted
  set written := persistAll (HostPersistence.ofStoreFile filePath) files calls with writtenEq
  have entriesAre : ∀ key value, (key, value) ∈ written.1.properties.entries ↔
      lastValue calls key = some value := fun key value => by
    rw [OrderedMap.mem_entries_iff, bindings]
    simp [HostPersistence.ofStoreFile]
  have nonempty : ∀ entry ∈ written.1.properties.entries, entry.1 ≠ "" ∧ entry.2 ≠ "" := by
    rintro ⟨key, value⟩ member
    exact lastValue_accepted accepted ((entriesAre key value).mp member)
  have reloaded := mirrors.reload
  rw [samePath] at reloaded
  have unfolded : RoundTrips files filePath calls ↔
      reload written.2 filePath = written.1.properties := Iff.rfl
  rw [unfolded, show filePath = (HostPersistence.ofStoreFile filePath).filePath from rfl,
    reloaded, decode_encode_iff nonempty]
  constructor
  · exact fun readable key value last => readable (key, value) ((entriesAre key value).mpr last)
  · rintro readable ⟨key, value⟩ member
    exact readable key value ((entriesAre key value).mp member)

/-- A level persisted as `"5"` and then as `"10"` round trips. -/
theorem roundTrips_iff_readable_levels :
    RoundTrips (fun _ => Slot.absent) "hostData" [("audio.Level", "5"), ("audio.Level", "10")] ↔
      ∀ key value, lastValue [("audio.Level", "5"), ("audio.Level", "10")] key = some value →
        Readable key ∧ Readable value :=
  roundTrips_iff_readable (Or.inl rfl) (by decide)

/-- A value with a blank in it is cut at the blank when it is read back. -/
theorem not_roundTrips_blank :
    ¬∀ (files : Files String) (filePath : String) (calls : List (String × String)),
      (files.read filePath = none ∨ files.read filePath = some []) →
      (∀ call ∈ calls, call.1 ≠ "" ∧ call.2 ≠ "") → RoundTrips files filePath calls := by
  intro always
  have holds := always (fun _ => Slot.absent) "hostData" [("audio.Mode", "AUTO EXPERT")]
    (Or.inl rfl) (by decide)
  revert holds
  unfold RoundTrips
  decide

end DeviceSettings.Persistence
