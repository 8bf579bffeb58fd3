import DeviceSettings.Persistence.LoadedStore
import DeviceSettings.Std.Decimal

/-!
# What the next process finds

A process that starts constructs its store object on the file that the last one has written. A
loaded store is durable when the new object finds what the old one has in memory.
-/

namespace DeviceSettings.Persistence

open DeviceSettings.Std

/-- Numbers are printed in words that the reader gets back. -/
theorem readable_toString_nat {n : Nat} (bounded : n < 10 ^ scanLimit) : Readable (toString n) := by
  have digits : (toString n).toList = Nat.toDigits 10 n := Nat.toList_repr
  refine ⟨?_, by rw [digits]; exact nul_not_mem_toDigits n⟩
  rw [digits]
  constructor
  · exact Nat.toDigits_ne_nil
  · exact fun c member => not_isspace_of_isDigit (isDigit_of_mem_toDigits member)
  · exact (Nat.length_toDigits_le_iff (by decide) (by decide)).mpr bounded

theorem readable_toString_int {n : Int} (lower : -2 ^ 31 ≤ n) (upper : n < 2 ^ 31) :
    Readable (toString n) := by
  have digits : ∀ m : Nat, m ≤ 2 ^ 31 → Readable (toString m) := fun m small =>
    readable_toString_nat (lt_of_le_of_lt small (by decide +kernel))
  rw [Int.toString_eq_repr, Int.repr_eq_if]
  split_ifs with positive
  · exact digits n.toNat (by omega)
  · have length : (Nat.toDigits 10 (-n).toNat).length ≤ 10 :=
      (Nat.length_toDigits_le_iff (by decide) (by decide)).mpr (by omega)
    obtain ⟨⟨-, solid, -⟩, terminated⟩ := digits (-n).toNat (by omega)
    have chars : ("-" ++ (-n).toNat.repr).toList = '-' :: (toString (-n).toNat).toList :=
      String.toList_append
    refine ⟨?_, ?_⟩
    · rw [chars]
      refine ⟨List.cons_ne_nil _ _, ?_, ?_⟩
      · rintro c (_ | ⟨_, member⟩)
        · decide
        · exact solid c member
      · rw [show (toString (-n).toNat).toList = Nat.toDigits 10 (-n).toNat from Nat.toList_repr,
          List.length_cons]
        exact le_trans (Nat.succ_le_succ length) (by decide)
    · rw [chars, List.mem_cons, not_or]
      exact ⟨by decide, terminated⟩

namespace LoadedStore

/-- The store of a new process, behind its first use. -/
def reopened (loaded : LoadedStore) : LoadedStore :=
  ofStore (HostPersistence.ofStoreFile loaded.store.filePath) loaded.files

@[simp] theorem filePath_persist (loaded : LoadedStore) (key value : String) :
    (loaded.persist key value).store.filePath = loaded.store.filePath := by
  by_cases accepted : key ≠ "" ∧ value ≠ ""
  · simp only [persist,
      HostPersistence.persistHostProperty_store loaded.ready loaded.files accepted]
  · have refused : key = "" ∨ value = "" := by tauto
    simp only [persist, HostPersistence.persistHostProperty, if_pos refused,
      HostPersistence.ensureInitialized_filePath]

/-- The first use of a new object is a load. -/
theorem properties_reopened (loaded : LoadedStore) :
    loaded.reopened.store.properties =
      Persistence.reload loaded.files loaded.store.filePath := rfl

/-- The store file holds what is loaded, in words that the reader gets back. -/
structure Durable (loaded : LoadedStore) : Prop where
  written : Persistence.reload loaded.files loaded.store.filePath = loaded.store.properties
  readable : ∀ key value, loaded.find? key = some value → Readable key ∧ Readable value

theorem Durable.find?_reopened {loaded : LoadedStore} (durable : loaded.Durable) (key : String) :
    loaded.reopened.find? key = loaded.find? key := by
  unfold find?
  rw [properties_reopened, durable.written]

/-- A property that the reader gets back keeps the store durable. -/
theorem Durable.persist {loaded : LoadedStore} (durable : loaded.Durable) {key value : String}
    (readable : Readable key ∧ Readable value) : (loaded.persist key value).Durable := by
  have accepted : key ≠ "" ∧ value ≠ "" := ⟨readable.1.ne, readable.2.ne⟩
  have bound := HostPersistence.persistHostProperty_store loaded.ready loaded.files accepted
  have bindings : ∀ other text, (loaded.persist key value).find? other = some text →
      Readable other ∧ Readable text := by
    intro other text found
    rw [loaded.find?_persist accepted] at found
    split_ifs at found with same
    · obtain rfl := Option.some.inj found
      exact same ▸ readable
    · exact durable.readable other text found
  refine ⟨?_, bindings⟩
  rw [filePath_persist, reload_eq]
  have content := HostPersistence.persistHostProperty_read loaded.ready loaded.files accepted
  simp only [LoadedStore.persist, bound, content]
  split_ifs with present
  · rw [OrderedMap.set_eq_self present]
    exact durable.written
  · dsimp only
    have words : ∀ entry ∈ (loaded.store.properties.set key value).entries,
        Readable entry.1 ∧ Readable entry.2 := by
      rintro ⟨other, text⟩ member
      refine bindings other text ?_
      simp only [find?, LoadedStore.persist, bound]
      exact OrderedMap.mem_entries_iff.mp member
    refine (decode_encode_iff fun entry member => ?_).mpr words
    exact ⟨(words entry member).1.ne, (words entry member).2.ne⟩

/-- The store of a new process is durable, unless a word of the file is empty up to its first
NUL. -/
theorem durable_ofStoreFile {files : Files String} {filePath : String}
    (named : ∀ key value, (Persistence.reload files filePath).find? key = some value →
      key ≠ "" ∧ value ≠ "") :
    (ofStore (HostPersistence.ofStoreFile filePath) files).Durable :=
  ⟨rfl, fun key value found => readable_of_reload_find? found (named key value found)⟩

/-- So is that of a device without a store file. -/
theorem durable_of_no_file {files : Files String} {filePath : String}
    (missing : files.read filePath = none) :
    (ofStore (HostPersistence.ofStoreFile filePath) files).Durable := by
  refine durable_ofStoreFile fun key value found => ?_
  simp [Persistence.reload, HostPersistence.ofStoreFile, HostPersistence.load, loadFromFile,
    missing] at found

/-- Another load adds nothing to a durable store. -/
theorem Durable.properties_reload {loaded : LoadedStore} (durable : loaded.Durable) :
    loaded.reload.store.properties = loaded.store.properties := by
  have written := durable.written
  unfold Persistence.reload HostPersistence.ofStoreFile HostPersistence.load at written
  dsimp only [LoadedStore.reload, HostPersistence.load]
  rw [← written]
  exact loadFromFile_idem _ _ _

theorem Durable.reload {loaded : LoadedStore} (durable : loaded.Durable) :
    loaded.reload.Durable := by
  have same := durable.properties_reload
  refine ⟨durable.written.trans same.symm, fun key value found => ?_⟩
  refine durable.readable key value ?_
  unfold find? at found ⊢
  rwa [same] at found

/-- Loading before the first use is loading once more behind it. -/
theorem ofStore_load (store : HostPersistence) (files : Files String) :
    ofStore (store.load files) files = (ofStore store files).reload := by
  simp only [ofStore, LoadedStore.reload, LoadedStore.mk.injEq, and_true]
  cases initialized : store.isInitialized <;>
    simp [HostPersistence.ensureInitialized, HostPersistence.load, initialized]

theorem Durable.reopened {loaded : LoadedStore} (durable : loaded.Durable) :
    loaded.reopened.Durable := by
  refine ⟨rfl, fun key value found => ?_⟩
  rw [durable.find?_reopened] at found
  exact durable.readable key value found

end LoadedStore
end DeviceSettings.Persistence
