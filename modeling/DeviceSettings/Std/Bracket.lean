import Mathlib.Data.List.Induction

/-!
# Well-bracketed notes

An observer is told of changes by a note before and a note behind each. The notes are in order
when they come in pairs that agree, with at most one pair not closed yet.
-/

namespace DeviceSettings.Std

/-- A note before or behind a change. -/
inductive Bracket (α : Type) where
  | opening (change : α)
  | closing (change : α)
  deriving DecidableEq, Repr

namespace Bracket

variable {α : Type}

/-- The notes of whole changes, and of one that is still open. -/
def paired (done : List α) (opened : Option α) : List (Bracket α) :=
  done.flatMap (fun change => [opening change, closing change]) ++ opened.toList.map opening

/-- Openings and closings alternate, and each closing is of the change opened before it. -/
def WellBracketed (notes : List (Bracket α)) : Prop := ∃ done opened, notes = paired done opened

variable [DecidableEq α]

/-- What is open behind one more note, if it is in order. -/
def next (opened : Option α) : Bracket α → Option (Option α)
  | opening change => if opened = none then some (some change) else none
  | closing change => if opened = some change then some none else none

/-- What is open behind the notes, if they are in order. -/
def scan (notes : List (Bracket α)) : Option (Option α) := notes.foldlM next none

@[simp] theorem scan_nil : scan ([] : List (Bracket α)) = some none := rfl

theorem scan_snoc (notes : List (Bracket α)) (note : Bracket α) :
    scan (notes ++ [note]) = (scan notes).bind fun opened => next opened note := by
  unfold scan
  rw [List.foldlM_append]
  cases notes.foldlM next none <;> simp

theorem scan_eq_some_iff {notes : List (Bracket α)} {opened : Option α} :
    scan notes = some opened ↔ ∃ done, notes = paired done opened := by
  constructor
  · induction notes using List.reverseRecOn generalizing opened with
    | nil =>
        intro found
        obtain rfl := Option.some.inj found
        exact ⟨[], rfl⟩
    | append_singleton notes note ih =>
        intro found
        rw [scan_snoc, Option.bind_eq_some_iff] at found
        obtain ⟨before, scanned, taken⟩ := found
        obtain ⟨done, rfl⟩ := ih scanned
        cases note with
        | opening change =>
            simp only [next] at taken
            split_ifs at taken with nothing
            obtain rfl := Option.some.inj taken
            exact ⟨done, by simp [paired, nothing]⟩
        | closing change =>
            simp only [next] at taken
            split_ifs at taken with same
            obtain rfl := Option.some.inj taken
            exact ⟨done ++ [change], by simp [paired, same]⟩
  · rintro ⟨done, rfl⟩
    have whole : scan (paired done none) = some none := by
      induction done using List.reverseRecOn with
      | nil => rfl
      | append_singleton done change ih =>
          have split : paired (done ++ [change]) none =
              paired done none ++ [opening change] ++ [closing change] := by
            simp [paired]
          rw [split, scan_snoc, scan_snoc, ih]
          simp [next]
    cases opened with
    | none => exact whole
    | some change =>
        have split : paired done (some change) = paired done none ++ [opening change] := by
          simp [paired]
        rw [split, scan_snoc, whole]
        rfl

theorem wellBracketed_iff {notes : List (Bracket α)} :
    WellBracketed notes ↔ ∃ opened, scan notes = some opened := by
  simp only [WellBracketed, scan_eq_some_iff]
  exact exists_comm

/-- One more note is in order exactly when it opens with nothing open, or closes what is. -/
theorem wellBracketed_snoc {notes : List (Bracket α)} {opened : Option α} {note : Bracket α}
    (scanned : scan notes = some opened) :
    WellBracketed (notes ++ [note]) ↔ (next opened note).isSome := by
  rw [wellBracketed_iff, scan_snoc, scanned, Option.bind_some, Option.isSome_iff_exists]

/-- Notes that are out of order stay so. -/
theorem not_wellBracketed_append {notes : List (Bracket α)} (outOfOrder : ¬WellBracketed notes)
    (more : List (Bracket α)) : ¬WellBracketed (notes ++ more) := by
  have none : scan notes = none :=
    Option.eq_none_iff_forall_ne_some.mpr fun opened found =>
      outOfOrder (wellBracketed_iff.mpr ⟨opened, found⟩)
  have stays : scan (notes ++ more) = Option.none := by
    induction more using List.reverseRecOn with
    | nil => rwa [List.append_nil]
    | append_singleton more note ih => rw [← List.append_assoc, scan_snoc, ih, Option.bind_none]
  rw [wellBracketed_iff, stays]
  rintro ⟨opened, found⟩
  exact nomatch found

end Bracket
end DeviceSettings.Std
