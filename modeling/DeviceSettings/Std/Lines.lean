import Mathlib.Data.List.Basic

/-!
# Files of lines

What `std::getline` reads until the file ends, and what a loop writes that ends each line
with a newline. The lines that have been read contain no newline, and lines without a newline
are read as they were written.
-/

namespace DeviceSettings.Std

/-- All lines `getline` reads; the last one need not end with a newline. -/
def getlines : List Char → List (List Char)
  | [] => []
  | c :: rest =>
    if c = '\n' then [] :: getlines rest
    else
      match getlines rest with
      | [] => [[c]]
      | line :: lines => (c :: line) :: lines

/-- Each line and a newline. -/
def putlines (lines : List (List Char)) : List Char := lines.flatMap (· ++ ['\n'])

@[simp] theorem getlines_nil : getlines [] = [] := rfl

@[simp] theorem getlines_newline (rest : List Char) :
    getlines ('\n' :: rest) = [] :: getlines rest := by
  simp [getlines]

/-- A line without a newline is read up to the newline behind it. -/
theorem getlines_line {line : List Char} (single : '\n' ∉ line) (rest : List Char) :
    getlines (line ++ '\n' :: rest) = line :: getlines rest := by
  induction line with
  | nil => exact getlines_newline rest
  | cons c line ih =>
      have other : c ≠ '\n' := fun same => single (same ▸ List.mem_cons_self)
      have continued := ih fun member => single (List.mem_cons_of_mem _ member)
      rw [List.cons_append, getlines, if_neg other, continued]

/-- The lines come back. -/
theorem getlines_putlines {lines : List (List Char)} (single : ∀ line ∈ lines, '\n' ∉ line) :
    getlines (putlines lines) = lines := by
  induction lines with
  | nil => rfl
  | cons line lines ih =>
      have continued := ih fun other member => single other (List.mem_cons_of_mem _ member)
      rw [putlines, List.flatMap_cons, List.append_assoc, List.singleton_append,
        getlines_line (single line List.mem_cons_self)]
      exact congrArg (line :: ·) continued

theorem newline_notMem_of_getlines {content line : List Char} (read : line ∈ getlines content) :
    '\n' ∉ line := by
  induction content generalizing line with
  | nil => exact absurd read List.not_mem_nil
  | cons c rest ih =>
      rw [getlines] at read
      split_ifs at read with newline
      · rcases List.mem_cons.mp read with rfl | later
        · exact List.not_mem_nil
        · exact ih later
      · cases lines : getlines rest with
        | nil =>
            rw [lines] at read
            rw [List.mem_singleton.mp read, List.mem_singleton]
            exact fun same => newline same.symm
        | cons first others =>
            rw [lines] at read
            rcases List.mem_cons.mp read with rfl | later
            · intro member
              rcases List.mem_cons.mp member with same | inside
              · exact newline same.symm
              · exact ih (lines ▸ List.mem_cons_self) inside
            · exact ih (lines ▸ List.mem_cons_of_mem _ later)

end DeviceSettings.Std
