import Mathlib.Data.List.Nodup
import Mathlib.Logic.Function.Basic

/-!
# Assignments to an array

A list of targets is written into an array one after another. Where no key comes twice, two
lists over the same keys leave the same array exactly when they agree value by value.
-/

namespace DeviceSettings.Std

variable {Key Value Item : Type} [DecidableEq Key]

/-- The array behind the writes. -/
def assignAll (targets : List (Key × Value)) (array : Key → Value) : Key → Value :=
  targets.foldl (fun array target => Function.update array target.1 target.2) array

@[simp] theorem assignAll_nil (array : Key → Value) : assignAll [] array = array := rfl

theorem assignAll_cons (target : Key × Value) (targets : List (Key × Value))
    (array : Key → Value) :
    assignAll (target :: targets) array =
      assignAll targets (Function.update array target.1 target.2) := rfl

/-- A key that is no target keeps its value. -/
theorem assignAll_of_notMem {targets : List (Key × Value)} {key : Key}
    (missed : key ∉ targets.map Prod.fst) (array : Key → Value) :
    assignAll targets array key = array key := by
  induction targets generalizing array with
  | nil => rfl
  | cons target targets ih =>
      simp only [List.map_cons, List.mem_cons, not_or] at missed
      obtain ⟨other, later⟩ := missed
      rw [assignAll_cons, ih later, Function.update_of_ne other]

theorem assignAll_of_mem {targets : List (Key × Value)} (nodup : (targets.map Prod.fst).Nodup)
    {target : Key × Value} (member : target ∈ targets) (array : Key → Value) :
    assignAll targets array target.1 = target.2 := by
  induction targets generalizing array with
  | nil => exact absurd member List.not_mem_nil
  | cons first targets ih =>
      obtain ⟨missed, nodup⟩ := List.nodup_cons.mp nodup
      rw [assignAll_cons]
      rcases List.mem_cons.mp member with rfl | later
      · rw [assignAll_of_notMem missed, Function.update_self]
      · exact ih nodup later _

/-- The array stays as it is exactly when it has all the values. -/
theorem assignAll_eq_self_iff {targets : List (Key × Value)}
    (nodup : (targets.map Prod.fst).Nodup) {array : Key → Value} :
    assignAll targets array = array ↔ ∀ target ∈ targets, array target.1 = target.2 := by
  constructor
  · intro same target member
    rw [← assignAll_of_mem nodup member array, same]
  · intro held
    funext key
    by_cases listed : key ∈ targets.map Prod.fst
    · obtain ⟨target, member, rfl⟩ := List.mem_map.mp listed
      rw [assignAll_of_mem nodup member, held target member]
    · exact assignAll_of_notMem listed array

/-- Over the same keys the arrays are the same exactly when the values are. -/
theorem assignAll_map_eq_iff {items : List Item} {key : Item → Key} {left right : Item → Value}
    (nodup : (items.map key).Nodup) {array : Key → Value} :
    assignAll (items.map fun item => (key item, left item)) array =
        assignAll (items.map fun item => (key item, right item)) array ↔
      ∀ item ∈ items, left item = right item := by
  have keys : ∀ value : Item → Value,
      (items.map fun item => (key item, value item)).map Prod.fst = items.map key := by
    intro value
    rw [List.map_map]
    rfl
  constructor
  · intro same item member
    have leftHeld := assignAll_of_mem (keys left ▸ nodup)
      (List.mem_map_of_mem (f := fun item => (key item, left item)) member) array
    have rightHeld := assignAll_of_mem (keys right ▸ nodup)
      (List.mem_map_of_mem (f := fun item => (key item, right item)) member) array
    exact leftHeld.symm.trans ((congrFun same (key item)).trans rightHeld)
  · intro agree
    rw [List.map_congr_left fun item member => by rw [agree item member]]

end DeviceSettings.Std
