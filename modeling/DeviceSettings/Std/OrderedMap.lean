import Mathlib.Data.List.Pairwise
import Mathlib.Order.Basic
import Mathlib.Order.Lattice
import Mathlib.Data.Option.Basic

/-!
# Maps iterated in key order

An `OrderedMap` is the sorted entry list of a finite map, with the order kept as
a field, so two maps with the same bindings are equal. `insert` keeps a binding
that is already there, as `std::map::insert` does; `set` is `erase` then `insert`.
-/

namespace DeviceSettings.Std

/-- Keys of an entry list ascend strictly, so no key occurs twice. -/
def Ascending {κ ν : Type} [LinearOrder κ] (entries : List (κ × ν)) : Prop :=
  entries.Pairwise fun left right => left.1 < right.1

/-- A finite map as its entries in ascending key order. -/
@[ext]
structure OrderedMap (κ ν : Type) [LinearOrder κ] where
  entries : List (κ × ν)
  ascending : Ascending entries

namespace OrderedMap

variable {κ ν : Type} [LinearOrder κ]

instance [DecidableEq ν] : DecidableEq (OrderedMap κ ν) := fun left right =>
  decidable_of_iff (left.entries = right.entries) OrderedMap.ext_iff.symm

/-- The binding of `key` in an entry list. -/
def findEntry (key : κ) : List (κ × ν) → Option ν
  | [] => none
  | (other, value) :: rest => if other = key then some value else findEntry key rest

/-- Sorted insertion that leaves an existing binding of `key` alone. -/
def insertEntry (key : κ) (value : ν) : List (κ × ν) → List (κ × ν)
  | [] => [(key, value)]
  | (other, old) :: rest =>
    if key < other then (key, value) :: (other, old) :: rest
    else if key = other then (other, old) :: rest
    else (other, old) :: insertEntry key value rest

theorem findEntry_eq_some_iff {key : κ} {value : ν} {entries : List (κ × ν)}
    (ascending : Ascending entries) :
    findEntry key entries = some value ↔ (key, value) ∈ entries := by
  induction entries with
  | nil => simp [findEntry]
  | cons entry rest ih =>
    obtain ⟨other, old⟩ := entry
    obtain ⟨above, restAscending⟩ := List.pairwise_cons.mp ascending
    by_cases same : other = key
    · subst same
      have absent : (other, value) ∉ rest := fun member =>
        lt_irrefl other (above _ member)
      simp [findEntry, absent, eq_comm]
    · simp [findEntry, same, ih restAscending, Ne.symm same]

theorem mem_insertEntry {key : κ} {value : ν} {entry : κ × ν} {entries : List (κ × ν)}
    (member : entry ∈ insertEntry key value entries) :
    entry = (key, value) ∨ entry ∈ entries := by
  induction entries with
  | nil => simpa [insertEntry] using member
  | cons head rest ih =>
    obtain ⟨other, old⟩ := head
    simp only [insertEntry] at member
    split_ifs at member with before same
    · simpa using member
    · exact Or.inr member
    · rcases List.mem_cons.mp member with rfl | deeper
      · exact Or.inr List.mem_cons_self
      · exact (ih deeper).imp_right (List.mem_cons_of_mem _)

theorem ascending_insertEntry {key : κ} {value : ν} {entries : List (κ × ν)}
    (ascending : Ascending entries) : Ascending (insertEntry key value entries) := by
  induction entries with
  | nil => simp [insertEntry, Ascending]
  | cons head rest ih =>
    obtain ⟨other, old⟩ := head
    obtain ⟨above, restAscending⟩ := List.pairwise_cons.mp ascending
    simp only [insertEntry]
    split_ifs with before same
    · refine List.pairwise_cons.mpr ⟨fun entry member => ?_, ascending⟩
      rcases List.mem_cons.mp member with rfl | deeper
      · exact before
      · exact before.trans (above _ deeper)
    · exact ascending
    · refine List.pairwise_cons.mpr ⟨fun entry member => ?_, ih restAscending⟩
      rcases mem_insertEntry member with rfl | deeper
      · exact lt_of_le_of_ne (not_lt.mp before) (Ne.symm same)
      · exact above _ deeper

/-- A key below the head of an ascending entry list is bound nowhere in it. -/
theorem findEntry_below {key other : κ} {old : ν} {rest : List (κ × ν)}
    (ascending : Ascending ((other, old) :: rest)) (below : key < other) :
    findEntry key ((other, old) :: rest) = none := by
  by_contra bound
  obtain ⟨found, eq⟩ := Option.ne_none_iff_exists'.mp bound
  rcases List.mem_cons.mp ((findEntry_eq_some_iff ascending).mp eq) with same | member
  · cases same
    exact lt_irrefl _ below
  · exact lt_asymm below ((List.pairwise_cons.mp ascending).1 _ member)

theorem findEntry_insertEntry (key wanted : κ) (value : ν) {entries : List (κ × ν)}
    (ascending : Ascending entries) :
    findEntry wanted (insertEntry key value entries) =
      (findEntry wanted entries).or (if key = wanted then some value else none) := by
  induction entries with
  | nil => simp [insertEntry, findEntry]
  | cons head rest ih =>
      obtain ⟨other, old⟩ := head
      have restAscending := (List.pairwise_cons.mp ascending).2
      by_cases before : key < other
      · rw [insertEntry, if_pos before]
        by_cases sameWanted : key = wanted
        · subst sameWanted
          rw [findEntry_below ascending before]
          simp [findEntry]
        · rw [findEntry, if_neg sameWanted, if_neg sameWanted, Option.or_none]
      · by_cases same : key = other
        · subst same
          rw [insertEntry, if_neg before, if_pos rfl]
          by_cases sameWanted : key = wanted
          · simp [findEntry, sameWanted]
          · rw [if_neg sameWanted, Option.or_none]
        · rw [insertEntry, if_neg before, if_neg same]
          by_cases sameHead : other = wanted
          · simp [findEntry, sameHead]
          · rw [findEntry, if_neg sameHead, findEntry, if_neg sameHead, ih restAscending]

/-- The map without bindings. -/
def empty : OrderedMap κ ν := ⟨[], List.Pairwise.nil⟩

/-- Number of bindings. -/
def size (map : OrderedMap κ ν) : Nat := map.entries.length

/-- The value bound to `key`. -/
def find? (map : OrderedMap κ ν) (key : κ) : Option ν := findEntry key map.entries

/-- Bind `key` unless it is bound already. -/
def insert (map : OrderedMap κ ν) (key : κ) (value : ν) : OrderedMap κ ν :=
  ⟨insertEntry key value map.entries, ascending_insertEntry map.ascending⟩

/-- Drop the binding of `key`. -/
def erase (map : OrderedMap κ ν) (key : κ) : OrderedMap κ ν :=
  ⟨map.entries.filter fun entry => entry.1 ≠ key, map.ascending.filter _⟩

/-- Bind `key` to `value` whatever it was bound to. -/
def set (map : OrderedMap κ ν) (key : κ) (value : ν) : OrderedMap κ ν :=
  (map.erase key).insert key value

/-- Insert the entries of a list one after another; the first of a key stays. -/
def insertAll (map : OrderedMap κ ν) (entries : List (κ × ν)) : OrderedMap κ ν :=
  entries.foldl (fun map entry => map.insert entry.1 entry.2) map

/-- The first entry whose key is above `bound`, or the first of all. -/
def entryAbove (map : OrderedMap κ ν) : Option κ → Option (κ × ν)
  | none => map.entries.head?
  | some bound => map.entries.find? fun entry => bound < entry.1

theorem mem_entries_iff {map : OrderedMap κ ν} {key : κ} {value : ν} :
    (key, value) ∈ map.entries ↔ map.find? key = some value :=
  (findEntry_eq_some_iff map.ascending).symm

/-- Maps with the same bindings are equal: both entry lists are sorted. -/
theorem ext_find? {left right : OrderedMap κ ν}
    (same : ∀ key, left.find? key = right.find? key) : left = right := by
  have nodup : ∀ map : OrderedMap κ ν, map.entries.Nodup := fun map =>
    map.ascending.imp fun before eq => by
      rw [eq] at before
      exact lt_irrefl _ before
  have perm : left.entries.Perm right.entries := by
    rw [List.perm_ext_iff_of_nodup (nodup left) (nodup right)]
    rintro ⟨key, value⟩
    rw [mem_entries_iff, mem_entries_iff, same]
  apply OrderedMap.ext
  exact perm.eq_of_pairwise
    (fun _ _ _ _ before after => absurd before (lt_asymm after)) left.ascending right.ascending

@[simp] theorem find?_empty (key : κ) : (empty : OrderedMap κ ν).find? key = none := rfl

theorem find?_insert (map : OrderedMap κ ν) (key wanted : κ) (value : ν) :
    (map.insert key value).find? wanted =
      (map.find? wanted).or (if key = wanted then some value else none) :=
  findEntry_insertEntry key wanted value map.ascending

theorem find?_erase (map : OrderedMap κ ν) (key wanted : κ) :
    (map.erase key).find? wanted = if wanted = key then none else map.find? wanted := by
  have bindings : ∀ value, (map.erase key).find? wanted = some value ↔
      wanted ≠ key ∧ map.find? wanted = some value := fun value => by
    rw [← mem_entries_iff, ← mem_entries_iff]
    simp [erase, and_comm]
  split_ifs with same
  · exact Option.eq_none_iff_forall_ne_some.mpr fun value found =>
      ((bindings value).mp found).1 same
  · exact Option.ext fun value => by simp [bindings, same]

theorem find?_set (map : OrderedMap κ ν) (key wanted : κ) (value : ν) :
    (map.set key value).find? wanted = if key = wanted then some value else map.find? wanted := by
  rw [set, find?_insert, find?_erase]
  by_cases same : wanted = key
  · simp [same]
  · simp [same, Ne.symm same]

/-- An absent key is bound by `insert` alone. -/
theorem insert_eq_set {map : OrderedMap κ ν} {key : κ} (absent : map.find? key = none)
    (value : ν) : map.insert key value = map.set key value := by
  apply ext_find?
  intro wanted
  rw [find?_insert, find?_set]
  by_cases same : key = wanted
  · subst same
    simp [absent]
  · simp [same]

/-- A binding that is already there is not changed by `set`. -/
theorem set_eq_self {map : OrderedMap κ ν} {key : κ} {value : ν}
    (bound : map.find? key = some value) : map.set key value = map := by
  apply ext_find?
  intro wanted
  rw [find?_set]
  split_ifs with same
  · rw [← same, bound]
  · rfl

theorem find?_insertAll (map : OrderedMap κ ν) (entries : List (κ × ν)) (wanted : κ) :
    (map.insertAll entries).find? wanted = (map.find? wanted).or (findEntry wanted entries) := by
  induction entries generalizing map with
  | nil => simp [insertAll, findEntry]
  | cons entry rest ih =>
    rw [insertAll, List.foldl_cons, ← insertAll, ih, find?_insert]
    by_cases same : entry.1 = wanted <;> simp [findEntry, same]

/-- A map is rebuilt by inserting its own entries. -/
theorem insertAll_entries (map : OrderedMap κ ν) : empty.insertAll map.entries = map := by
  apply ext_find?
  intro key
  rw [find?_insertAll, find?_empty, Option.none_or]
  rfl

/-- Bindings that are there already change nothing. -/
theorem insertAll_entries_self (map : OrderedMap κ ν) : map.insertAll map.entries = map := by
  apply ext_find?
  intro key
  rw [find?_insertAll, ← find?, Option.or_self]

theorem insertAll_idem (map : OrderedMap κ ν) (entries : List (κ × ν)) :
    (map.insertAll entries).insertAll entries = map.insertAll entries := by
  apply ext_find?
  intro key
  simp only [find?_insertAll, Option.or_assoc, Option.or_self]

/-- The map of the first `count` entries. -/
def take (map : OrderedMap κ ν) (count : Nat) : OrderedMap κ ν :=
  ⟨map.entries.take count, map.ascending.take⟩

@[simp] theorem entries_take (map : OrderedMap κ ν) (count : Nat) :
    (map.take count).entries = map.entries.take count := rfl

theorem insertEntry_perm {key : κ} {entries : List (κ × ν)}
    (absent : findEntry key entries = none) (value : ν) :
    (insertEntry key value entries).Perm ((key, value) :: entries) := by
  induction entries with
  | nil => exact List.Perm.refl _
  | cons head rest ih =>
      obtain ⟨other, old⟩ := head
      have apart : other ≠ key := fun same => by simp [findEntry, same] at absent
      have absentRest : findEntry key rest = none := by simpa [findEntry, apart] using absent
      by_cases before : key < other
      · rw [insertEntry, if_pos before]
      · rw [insertEntry, if_neg before, if_neg (Ne.symm apart)]
        exact ((ih absentRest).cons _).trans (List.Perm.swap _ _ _)

/-- A key above all others is bound last. -/
theorem insertEntry_above {key : κ} {entries : List (κ × ν)}
    (above : ∀ entry ∈ entries, entry.1 < key) (value : ν) :
    insertEntry key value entries = entries ++ [(key, value)] := by
  induction entries with
  | nil => rfl
  | cons head rest ih =>
      have below : head.1 < key := above head List.mem_cons_self
      have restAbove := fun entry member => above entry (List.mem_cons_of_mem _ member)
      rw [insertEntry, if_neg (lt_asymm below), if_neg (ne_of_gt below), ih restAbove,
        List.cons_append]

/-- The first entries of an insertion are the old map exactly when the new binding
is the one left out. -/
theorem take_insert_eq_iff {map : OrderedMap κ ν} {key : κ} (absent : map.find? key = none)
    (value : ν) (count : Nat) :
    (map.insert key value).entries.take count = map.entries ↔
      count = map.size ∧ ∀ entry ∈ map.entries, entry.1 < key := by
  have perm : (map.insert key value).entries.Perm ((key, value) :: map.entries) :=
    insertEntry_perm absent value
  constructor
  · intro taken
    have lengths := congrArg List.length taken
    have grown := perm.length_eq
    rw [List.length_take] at lengths
    rw [List.length_cons] at grown
    have exactly : count = map.size := by
      unfold size
      omega
    obtain ⟨last, lastEq⟩ : ∃ last, (map.insert key value).entries.drop count = [last] := by
      apply List.length_eq_one_iff.mp
      rw [List.length_drop, grown, exactly, size]
      omega
    have split : (map.insert key value).entries = map.entries ++ [last] := by
      rw [← taken, ← lastEq, List.take_append_drop]
    have inserted : (key, value) ∈ map.entries ++ [last] := by
      rw [← split]
      exact perm.mem_iff.mpr List.mem_cons_self
    have ascending := (map.insert key value).ascending
    rw [split] at ascending
    have below := (List.pairwise_append.mp ascending).2.2
    refine ⟨exactly, fun entry member => ?_⟩
    rcases List.mem_append.mp inserted with old | new
    · rw [mem_entries_iff, absent] at old
      exact absurd old (by simp)
    · exact below entry member (key, value) new
  · rintro ⟨rfl, above⟩
    have last : (map.insert key value).entries = map.entries ++ [(key, value)] :=
      insertEntry_above above value
    rw [last, size, List.take_left]

/-- Every entry of `insertAll` on the empty map comes from the list. -/
theorem mem_of_insertAll_empty {entries : List (κ × ν)} {key : κ} {value : ν}
    (found : (empty.insertAll entries).find? key = some value) : (key, value) ∈ entries := by
  rw [find?_insertAll, find?_empty, Option.none_or] at found
  induction entries with
  | nil => simp [findEntry] at found
  | cons entry rest ih =>
    by_cases same : entry.1 = key
    · simp only [findEntry, same, if_true, Option.some.injEq] at found
      rw [← same, ← found]
      exact List.mem_cons_self
    · simp only [findEntry, same, if_false] at found
      exact List.mem_cons_of_mem _ (ih found)

/-- The entries whose key is at most `bound`; none before the first key. -/
def upTo (map : OrderedMap κ ν) : Option κ → List (κ × ν)
  | none => []
  | some bound => map.entries.filter fun entry => entry.1 ≤ bound

theorem length_upTo_le (map : OrderedMap κ ν) (bound : Option κ) :
    (map.upTo bound).length ≤ map.size := by
  cases bound with
  | none => exact Nat.zero_le _
  | some bound => exact List.length_filter_le _ _

/-- Entries split at one of them: those before it and those up to it. -/
theorem filter_le_split {before after : List (κ × ν)} {entry : κ × ν}
    (ascending : Ascending (before ++ entry :: after)) :
    (before ++ entry :: after).filter (fun other => other.1 ≤ entry.1) = before ++ [entry] := by
  obtain ⟨-, tail, across⟩ := List.pairwise_append.mp ascending
  have behind : after.filter (fun other => other.1 ≤ entry.1) = [] := by
    rw [List.filter_eq_nil_iff]
    intro other member
    simpa using (List.pairwise_cons.mp tail).1 other member
  have ahead : before.filter (fun other => other.1 ≤ entry.1) = before := by
    rw [List.filter_eq_self]
    intro other member
    simpa using (across other member entry List.mem_cons_self).le
  rw [List.filter_append, ahead, List.filter_cons_of_pos (by simp), behind]

/-- Stepping to the next key adds exactly its entry. -/
theorem upTo_entryAbove {map : OrderedMap κ ν} {bound : Option κ} {entry : κ × ν}
    (above : map.entryAbove bound = some entry) :
    map.upTo (some entry.1) = map.upTo bound ++ [entry] := by
  have ascending := map.ascending
  cases bound with
  | none =>
      obtain ⟨rest, split⟩ : ∃ rest, map.entries = [] ++ entry :: rest :=
        List.head?_eq_some_iff.mp above
      rw [split] at ascending
      rw [upTo, upTo, split]
      exact filter_le_split ascending
  | some bound =>
      obtain ⟨beyond, before, after, split, within⟩ :=
        List.find?_eq_some_iff_append.mp above
      rw [split] at ascending
      have beyondBound : bound < entry.1 := by simpa using beyond
      have behind : (entry :: after).filter (fun other => other.1 ≤ bound) = [] := by
        rw [List.filter_eq_nil_iff]
        intro other member
        have later : entry.1 ≤ other.1 := by
          rcases List.mem_cons.mp member with rfl | deeper
          · exact le_rfl
          · exact ((List.pairwise_cons.mp (List.pairwise_append.mp ascending).2.1).1 _ deeper).le
        simpa using lt_of_lt_of_le beyondBound later
      have ahead : before.filter (fun other => other.1 ≤ bound) = before := by
        rw [List.filter_eq_self]
        intro other member
        simpa using within other member
      rw [upTo, upTo, split, filter_le_split ascending, List.filter_append, ahead, behind,
        List.append_nil]

/-- With no key above it, a bound covers the whole map. -/
theorem upTo_of_entryAbove_none {map : OrderedMap κ ν} {bound : Option κ}
    (last : map.entryAbove bound = none) : map.upTo bound = map.entries := by
  cases bound with
  | none =>
      have empty : map.entries = [] := List.head?_eq_none_iff.mp last
      rw [upTo, empty]
  | some bound =>
      rw [upTo, List.filter_eq_self]
      intro entry member
      simpa using List.find?_eq_none.mp last entry member

theorem size_pos_of_find? {map : OrderedMap κ ν} {key : κ} {value : ν}
    (found : map.find? key = some value) : 0 < map.size :=
  List.length_pos_of_mem (mem_entries_iff.mpr found)

/-- A map with a binding just inserted is not empty. -/
theorem size_insert_pos (map : OrderedMap κ ν) (key : κ) (value : ν) :
    0 < (map.insert key value).size := by
  have bound : (map.insert key value).find? key = (map.find? key).or (some value) := by
    rw [find?_insert, if_pos rfl]
  obtain ⟨found, eq⟩ : ∃ found, (map.find? key).or (some value) = some found := by
    cases map.find? key <;> simp
  exact size_pos_of_find? (bound.trans eq)

end OrderedMap
end DeviceSettings.Std
