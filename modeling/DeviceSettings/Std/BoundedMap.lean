import DeviceSettings.Std.LastWrite
import Mathlib.Data.List.Lemmas

/-!
# Maps with room for a few keys

An association list that takes new keys as long as it has room, and afterwards only changes the
values of the keys that it has. Which keys these are is settled by their first writes: they are
the first different keys of the run. The map answers a look-up of every other key with a default,
so it is the map it stands for exactly when no key behind them is given another value.
-/

namespace DeviceSettings.Std

variable {κ β : Type} [DecidableEq κ]

/-- Change the value of a key that is there, or append it where there is room. -/
def BoundedMap.insert : Nat → List (κ × β) → κ → β → List (κ × β)
  | capacity, [], key, value => if 0 < capacity then [(key, value)] else []
  | capacity, entry :: rest, key, value =>
    if entry.1 = key then (entry.1, value) :: rest
    else entry :: BoundedMap.insert (capacity - 1) rest key value

/-- The value of a key. -/
def BoundedMap.find (entries : List (κ × β)) (key : κ) : Option β :=
  (entries.find? fun entry => entry.1 == key).map Prod.snd

/-- The map behind a list of writes. -/
def BoundedMap.writes (capacity : Nat) (calls : List (κ × β)) : List (κ × β) :=
  calls.foldl (fun entries call => BoundedMap.insert capacity entries call.1 call.2) []

/-- The first different keys. -/
def firstKeys (capacity : Nat) (keys : List κ) : List κ := keys.eraseDups.take capacity

/-- What a call writes under this key. -/
def valueUnder (key : κ) (call : κ × β) : Option β := if call.1 = key then some call.2 else none

/-! ### Keys -/

theorem firstKeys_snoc (capacity : Nat) (keys : List κ) (key : κ) :
    firstKeys capacity (keys ++ [key]) =
      if key ∈ keys then firstKeys capacity keys
      else (keys.eraseDups ++ [key]).take capacity := by
  unfold firstKeys
  rw [List.eraseDups_append, List.cons_removeAll, List.nil_removeAll]
  by_cases seen : key ∈ keys <;> simp [seen, List.eraseDups_cons]

/-- The first keys of a longer list that are in the shorter one are its own. -/
theorem mem_firstKeys_append {capacity : Nat} {earlier later : List κ} {key : κ} :
    key ∈ firstKeys capacity earlier ↔
      key ∈ firstKeys capacity (earlier ++ later) ∧ key ∈ earlier := by
  unfold firstKeys
  rw [List.eraseDups_append, List.take_append, List.mem_append]
  constructor
  · exact fun first => ⟨.inl first, List.mem_eraseDups.mp (List.mem_of_mem_take first)⟩
  · rintro ⟨first | new, seen⟩
    · exact first
    · have fresh := List.mem_eraseDups.mp (List.mem_of_mem_take new)
      simp [List.removeAll, seen] at fresh

namespace BoundedMap

@[simp] theorem find_nil (key : κ) : find ([] : List (κ × β)) key = none := rfl

@[simp] theorem find_cons (entry : κ × β) (rest : List (κ × β)) (key : κ) :
    find (entry :: rest) key = if entry.1 = key then some entry.2 else find rest key := by
  by_cases own : entry.1 = key <;> simp [find, own]

theorem keys_insert (capacity : Nat) (entries : List (κ × β)) (key : κ) (value : β) :
    (insert capacity entries key value).map Prod.fst =
      if key ∈ entries.map Prod.fst ∨ capacity ≤ entries.length then entries.map Prod.fst
      else entries.map Prod.fst ++ [key] := by
  induction entries generalizing capacity with
  | nil =>
      unfold insert
      split_ifs <;> simp_all
  | cons entry rest ih =>
      unfold insert
      by_cases same : entry.1 = key
      · simp [same]
      · rw [if_neg same, List.map_cons, ih]
        have room : capacity - 1 ≤ rest.length ↔ capacity ≤ rest.length + 1 := by omega
        simp only [List.map_cons, List.mem_cons, List.length_cons, room, Ne.symm same, false_or]
        split_ifs <;> rfl

theorem mem_keys_insert {capacity : Nat} {entries : List (κ × β)} {key other : κ} {value : β} :
    other ∈ (insert capacity entries key value).map Prod.fst ↔
      other ∈ entries.map Prod.fst ∨ (other = key ∧ entries.length < capacity) := by
  rw [keys_insert]
  split_ifs with stays
  · refine (or_iff_left_of_imp ?_).symm
    rintro ⟨rfl, room⟩
    exact stays.resolve_right (Nat.not_le.mpr room)
  · have room : entries.length < capacity := by omega
    simp [room]

theorem find_insert (capacity : Nat) (entries : List (κ × β)) (key other : κ) (value : β) :
    find (insert capacity entries key value) other =
      if other = key ∧ other ∈ (insert capacity entries key value).map Prod.fst then some value
      else find entries other := by
  simp only [mem_keys_insert]
  induction entries generalizing capacity with
  | nil =>
      unfold insert
      by_cases room : 0 < capacity <;> by_cases own : key = other <;>
        simp [room, own, eq_comm (a := other)]
  | cons entry rest ih =>
      have room : rest.length < capacity - 1 ↔ rest.length + 1 < capacity := by omega
      by_cases same : entry.1 = key
      · by_cases own : key = other <;> simp [insert, same, own, eq_comm (a := other)]
      · by_cases own : entry.1 = other
        · subst own
          simp [insert, same]
        · simp only [insert, if_neg same, find_cons, if_neg own, ih, room, List.map_cons,
            List.mem_cons, List.length_cons, Ne.symm own, false_or]

/-! ### Runs -/

theorem writes_snoc (capacity : Nat) (calls : List (κ × β)) (call : κ × β) :
    writes capacity (calls ++ [call]) =
      insert capacity (writes capacity calls) call.1 call.2 := by
  rw [writes, List.foldl_append, List.foldl_cons, List.foldl_nil, ← writes]

/-- The keys are the first different ones. -/
theorem keys_writes (capacity : Nat) (calls : List (κ × β)) :
    (writes capacity calls).map Prod.fst = firstKeys capacity (calls.map Prod.fst) := by
  induction calls using List.reverseRecOn with
  | nil => simp [writes, firstKeys]
  | append_singleton calls call ih =>
      have length : (writes capacity calls).length =
          min capacity (calls.map Prod.fst).eraseDups.length := by
        rw [← List.length_map Prod.fst, ih, firstKeys, List.length_take]
      rw [writes_snoc, keys_insert, ih, List.map_append, List.map_singleton, firstKeys_snoc]
      by_cases full : capacity ≤ (calls.map Prod.fst).eraseDups.length
      · rw [if_pos (.inr (by omega)), List.take_append_of_le_length full, ← firstKeys, ite_self]
      · have all : firstKeys capacity (calls.map Prod.fst) = (calls.map Prod.fst).eraseDups :=
          List.take_of_length_le (by omega)
        have room : ¬capacity ≤ (writes capacity calls).length := by omega
        have whole : ((calls.map Prod.fst).eraseDups ++ [call.1]).take capacity =
            (calls.map Prod.fst).eraseDups ++ [call.1] :=
          List.take_of_length_le (by rw [List.length_append, List.length_singleton]; omega)
        rw [all, whole]
        simp only [List.mem_eraseDups, room, or_false]

/-- A look-up finds the last value of one of the first keys. -/
theorem find_writes (capacity : Nat) (calls : List (κ × β)) (key : κ) :
    find (writes capacity calls) key =
      if key ∈ firstKeys capacity (calls.map Prod.fst) then lastOf (valueUnder key) calls
      else none := by
  induction calls using List.reverseRecOn with
  | nil => simp [writes, firstKeys]
  | append_singleton calls call ih =>
      have known := keys_writes capacity (calls ++ [call])
      rw [writes_snoc] at known ⊢
      rw [find_insert, ← known, ih, ← keys_writes, lastOf_snoc]
      by_cases own : key = call.1
      · subst own
        have written : valueUnder call.1 call = some call.2 := if_pos rfl
        rw [written, Option.some_or]
        by_cases held :
            call.1 ∈ (insert capacity (writes capacity calls) call.1 call.2).map Prod.fst
        · rw [if_pos ⟨rfl, held⟩, if_pos held]
        · rw [if_neg fun asked => held asked.2, if_neg held,
            if_neg fun before => held (mem_keys_insert.mpr (.inl before))]
      · have unwritten : valueUnder key call = none := if_neg (Ne.symm own)
        have same : key ∈ (insert capacity (writes capacity calls) call.1 call.2).map Prod.fst ↔
            key ∈ (writes capacity calls).map Prod.fst := by
          rw [mem_keys_insert]
          exact or_iff_left fun fresh => own fresh.1
        rw [unwritten, Option.none_or, if_neg fun asked => own asked.1]
        simp only [same]

/-- What the calls so far have given every key is what a look-up answers with. -/
def Remembers (capacity : Nat) (fallback : β) (calls : List (κ × β)) : Prop :=
  ∀ key, (find (writes capacity calls) key).getD fallback =
    (lastOf (valueUnder key) calls).getD fallback

/-- A key that is never written reads as the default anyway. -/
theorem remembers_of_written {capacity : Nat} {fallback : β} {calls : List (κ × β)}
    (written : ∀ call ∈ calls, (find (writes capacity calls) call.1).getD fallback =
      (lastOf (valueUnder call.1) calls).getD fallback) : Remembers capacity fallback calls := by
  intro key
  by_cases seen : key ∈ calls.map Prod.fst
  · obtain ⟨call, member, rfl⟩ := List.mem_map.mp seen
    exact written call member
  · have unwritten : lastOf (valueUnder key) calls = none := by
      refine lastOf_eq_none fun call member => if_neg ?_
      rintro rfl
      exact seen (List.mem_map_of_mem member)
    rw [find_writes, unwritten, ite_self]

/-- The map answers right all along exactly when only the first keys are given other values than
the default. -/
theorem remembers_iff {capacity : Nat} {fallback : β} {calls : List (κ × β)} :
    (∀ earlier later, calls = earlier ++ later → Remembers capacity fallback earlier) ↔
      ∀ call ∈ calls, call.2 ≠ fallback → call.1 ∈ firstKeys capacity (calls.map Prod.fst) := by
  constructor
  · intro remembers call member given
    obtain ⟨earlier, later, rfl⟩ := List.append_of_mem member
    have known := remembers (earlier ++ [call]) later (by simp) call.1
    have written : valueUnder call.1 call = some call.2 := if_pos rfl
    rw [find_writes, lastOf_snoc, written] at known
    have first : call.1 ∈ firstKeys capacity ((earlier ++ [call]).map Prod.fst) := by
      by_contra behind
      rw [if_neg behind] at known
      exact given known.symm
    rw [List.append_cons, List.map_append]
    exact (mem_firstKeys_append.mp first).1
  · rintro first earlier later rfl key
    rw [find_writes]
    split_ifs with held
    · rfl
    · cases given : lastOf (valueUnder key) earlier with
      | none => rfl
      | some value =>
          obtain ⟨call, member, written⟩ := exists_of_lastOf given
          unfold valueUnder at written
          split_ifs at written with own
          obtain rfl := own
          obtain rfl := Option.some.inj written
          by_contra other
          refine held (mem_firstKeys_append.mpr
            ⟨List.map_append ▸ first call (List.mem_append_left _ member) (Ne.symm other), ?_⟩)
          exact List.mem_map_of_mem member

end BoundedMap
end DeviceSettings.Std
