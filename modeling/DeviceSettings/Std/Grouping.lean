import Mathlib.Data.List.Basic
import Mathlib.Data.Vector.Basic

/-!
# Grouping a list by keys

`grouped` takes the elements of a list key by key. With different keys it is a rearrangement of
the elements that have one of them.
-/

namespace DeviceSettings.Std

section Grouping

variable {α κ : Type} [DecidableEq κ] (key : α → κ)

/-- The elements with the first key, then those with the second one, and so on; the elements of a
key keep their order. -/
def grouped (keys : List κ) (elements : List α) : List α :=
  keys.flatMap fun k => elements.filter fun element => key element == k

variable {key} {keys : List κ} {elements : List α}

@[simp] theorem grouped_nil : grouped key [] elements = [] := rfl

theorem grouped_cons (k : κ) :
    grouped key (k :: keys) elements =
      elements.filter (fun element => key element == k) ++ grouped key keys elements :=
  List.flatMap_cons

theorem mem_grouped {element : α} :
    element ∈ grouped key keys elements ↔ element ∈ elements ∧ key element ∈ keys := by
  simp [grouped, and_comm]

/-- The elements of a key that is not among the keys are not there. -/
theorem filter_grouped_of_not_mem {k : κ} (other : k ∉ keys) :
    (grouped key keys elements).filter (fun element => key element == k) = [] := by
  refine List.filter_eq_nil_iff.mpr fun element member same => other ?_
  rw [← beq_iff_eq.mp same]
  exact (mem_grouped.mp member).2

/-- A group is found again. -/
theorem filter_grouped (distinct : keys.Nodup) {k : κ} (listed : k ∈ keys) :
    (grouped key keys elements).filter (fun element => key element == k) =
      elements.filter fun element => key element == k := by
  induction keys with
  | nil => cases listed
  | cons first keys ih =>
      obtain ⟨fresh, distinctRest⟩ := List.nodup_cons.mp distinct
      rw [grouped_cons, List.filter_append, List.filter_filter]
      rcases List.mem_cons.mp listed with rfl | later
      · rw [filter_grouped_of_not_mem fresh, List.append_nil]
        simp
      · have other : first ≠ k := fun same => fresh (same ▸ later)
        rw [ih distinctRest later]
        refine List.append_left_eq_self.mpr (List.filter_eq_nil_iff.mpr fun element _ both => ?_)
        rw [Bool.and_eq_true, beq_iff_eq, beq_iff_eq] at both
        exact other (both.2.symm.trans both.1)

/-- Grouping once more changes nothing. -/
theorem grouped_grouped (distinct : keys.Nodup) :
    grouped key keys (grouped key keys elements) = grouped key keys elements := by
  have same : ∀ ks ⊆ keys, grouped key ks (grouped key keys elements) =
      grouped key ks elements := by
    intro ks
    induction ks with
    | nil => exact fun _ => rfl
    | cons k ks ih =>
        intro subset
        rw [grouped_cons, grouped_cons, filter_grouped distinct (subset List.mem_cons_self),
          ih fun _ member => subset (List.mem_cons_of_mem _ member)]
  exact same keys (List.Subset.refl keys)

/-- Every element with one of the keys is there, as often as it was. -/
theorem grouped_perm (distinct : keys.Nodup) (elements : List α) :
    (grouped key keys elements).Perm
      (elements.filter fun element => keys.contains (key element)) := by
  induction keys with
  | nil => simp
  | cons k keys ih =>
      obtain ⟨fresh, distinctRest⟩ := List.nodup_cons.mp distinct
      rw [grouped_cons]
      refine ((ih distinctRest).append_left _).trans ?_
      have split := List.filter_append_perm (fun element => key element == k)
        (elements.filter fun element => (k :: keys).contains (key element))
      rw [List.filter_filter, List.filter_filter] at split
      refine (List.Perm.of_eq ?_).trans split
      congr 1
      · refine List.filter_congr fun element _ => ?_
        by_cases same : key element = k <;> simp [same]
      · refine List.filter_congr fun element _ => ?_
        by_cases same : key element = k <;> simp [same, fresh]

theorem length_grouped_le (distinct : keys.Nodup) (elements : List α) :
    (grouped key keys elements).length ≤ elements.length := by
  rw [(grouped_perm distinct elements).length_eq]
  exact List.length_filter_le _ _

end Grouping

end DeviceSettings.Std
