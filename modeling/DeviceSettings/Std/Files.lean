import Mathlib.Logic.Function.Basic

/-!
# Files behind path names

A path names a sequence of files: `unlink` takes the name away from the newest
one, which a stream that opened it can still write, and `create` (`fopen` with
mode `"w"`) truncates the named file or starts the next one.
-/

namespace DeviceSettings.Std

/-- The files one path has named so far; `generation` numbers the newest. -/
structure Slot where
  generation : Nat
  linked : Bool
  content : Nat → List Char

namespace Slot

/-- A path that has named no file. -/
def absent : Slot := ⟨0, false, fun _ => []⟩

def unlink (slot : Slot) : Slot := { slot with linked := false }

/-- The generation that `create` opens. -/
def opened (slot : Slot) : Nat :=
  if slot.linked then slot.generation else slot.generation + 1

def create (slot : Slot) : Slot :=
  ⟨slot.opened, true, Function.update slot.content slot.opened []⟩

/-- Write `chars` at offset 0 of a file that was opened earlier. -/
def overwrite (slot : Slot) (file : Nat) (chars : List Char) : Slot :=
  { slot with
    content := Function.update slot.content file
      (chars ++ (slot.content file).drop chars.length) }

/-- Write `chars` behind what the newest file holds. -/
def append (slot : Slot) (chars : List Char) : Slot :=
  { slot with
    content := Function.update slot.content slot.generation
      (slot.content slot.generation ++ chars) }

/-- What a reader that opens the path finds; `none` when nothing is linked. -/
def read (slot : Slot) : Option (List Char) :=
  if slot.linked then some (slot.content slot.generation) else none

@[simp] theorem read_unlink (slot : Slot) : slot.unlink.read = none := rfl

@[simp] theorem read_create (slot : Slot) : slot.create.read = some [] := by
  simp [create, read]

theorem read_append {slot : Slot} {held : List Char} (found : slot.read = some held)
    (chars : List Char) : (slot.append chars).read = some (held ++ chars) := by
  unfold read at found ⊢
  cases linked : slot.linked with
  | false => simp [linked] at found
  | true =>
      simp only [linked, if_true, Option.some.injEq] at found
      simp [append, linked, found]

theorem append_nil (slot : Slot) : slot.append [] = slot := by
  simp [append]

theorem append_append (slot : Slot) (first second : List Char) :
    (slot.append first).append second = slot.append (first ++ second) := by
  simp [append, List.append_assoc]

/-- Into a file just created, a write at offset 0 is an append. -/
theorem overwrite_create (slot : Slot) (chars : List Char) :
    slot.create.overwrite slot.opened chars = slot.create.append chars := by
  simp [create, overwrite, append]

end Slot

/-- A file system: the files behind every path. -/
abbrev Files (Path : Type) := Path → Slot

/-- What a program does to the file system. -/
inductive FileStep (Path : Type) where
  | unlink (path : Path)
  | create (path : Path)
  | append (path : Path) (chars : List Char)
  deriving DecidableEq, Repr

namespace Files

variable {Path : Type} [DecidableEq Path]

/-- Change the files of one path. -/
def modify (files : Files Path) (path : Path) (change : Slot → Slot) : Files Path :=
  Function.update files path (change (files path))

def read (files : Files Path) (path : Path) : Option (List Char) := (files path).read

def step (files : Files Path) : FileStep Path → Files Path
  | .unlink path => files.modify path Slot.unlink
  | .create path => files.modify path Slot.create
  | .append path chars => files.modify path (Slot.append · chars)

/-- Carry out a list of steps. -/
def run (files : Files Path) (steps : List (FileStep Path)) : Files Path :=
  steps.foldl step files

@[simp] theorem modify_same (files : Files Path) (path : Path) (change : Slot → Slot) :
    files.modify path change path = change (files path) := by
  simp [modify]

theorem modify_other (files : Files Path) {path other : Path} (apart : other ≠ path)
    (change : Slot → Slot) : files.modify path change other = files other :=
  Function.update_of_ne apart _ files

@[simp] theorem run_nil (files : Files Path) : files.run [] = files := rfl

@[simp] theorem run_cons (files : Files Path) (step : FileStep Path)
    (steps : List (FileStep Path)) :
    files.run (step :: steps) = (files.step step).run steps := rfl

/-- The path a step works on. -/
def target : FileStep Path → Path
  | .unlink path => path
  | .create path => path
  | .append path _ => path

theorem step_other (files : Files Path) {step : FileStep Path} {path : Path}
    (apart : path ≠ target step) : files.step step path = files path := by
  cases step with
  | unlink => exact modify_other files apart Slot.unlink
  | create => exact modify_other files apart Slot.create
  | append _ chars => exact modify_other files apart (Slot.append · chars)

/-- Steps on other paths leave the files of a path alone. -/
theorem run_other {steps : List (FileStep Path)} {path : Path}
    (apart : ∀ step ∈ steps, path ≠ target step) (files : Files Path) :
    files.run steps path = files path := by
  induction steps generalizing files with
  | nil => rfl
  | cons step steps ih =>
      rw [run_cons, ih (fun other member => apart other (List.mem_cons_of_mem _ member)),
        step_other files (apart step List.mem_cons_self)]

/-- Appending pieces to a linked file leaves their concatenation behind. -/
theorem read_run_appends {files : Files Path} {path : Path} {held : List Char}
    (found : files.read path = some held) (pieces : List (List Char)) :
    (files.run (pieces.map (.append path))).read path = some (held ++ pieces.flatten) := by
  induction pieces generalizing files held with
  | nil => simpa using found
  | cons piece pieces ih =>
      have appended : (files.step (.append path piece)).read path = some (held ++ piece) := by
        simpa [read, step] using Slot.read_append found piece
      rw [List.map_cons, run_cons, ih appended, List.flatten_cons, List.append_assoc]

theorem modify_modify (files : Files Path) (path : Path) (first second : Slot → Slot) :
    (files.modify path first).modify path second = files.modify path (second ∘ first) := by
  simp [modify]

/-- Appending pieces one by one is appending them together. -/
theorem run_appends (files : Files Path) (path : Path) (pieces : List (List Char)) :
    files.run (pieces.map (.append path)) =
      files.modify path (Slot.append · pieces.flatten) := by
  induction pieces generalizing files with
  | nil =>
      simp only [List.map_nil, run_nil, List.flatten_nil, Slot.append_nil]
      exact (Function.update_eq_self path files).symm
  | cons piece pieces ih =>
      rw [List.map_cons, run_cons, ih, List.flatten_cons, step, modify_modify]
      exact congrArg (files.modify path)
        (funext fun slot => Slot.append_append slot piece pieces.flatten)

end Files
end DeviceSettings.Std
