import Mathlib.Logic.Basic

/-!
# Mutexes

A mutex is free or has an owner. The code of a thread says where it is inside a section; that only
the owner is inside is kept by every lock and unlock, so two threads are never inside together.
-/

namespace DeviceSettings.Std

variable {Thread : Type} {mutex : Option Thread} {inside inside' : Thread → Prop} {own : Thread}

/-- Only the owner of the mutex is inside. -/
def Excludes (mutex : Option Thread) (inside : Thread → Prop) : Prop :=
  ∀ thread, inside thread → mutex = some thread

theorem Excludes.unique (excludes : Excludes mutex inside) {first second : Thread}
    (left : inside first) (right : inside second) : first = second :=
  Option.some.inj ((excludes first left).symm.trans (excludes second right))

section Moves

variable (excludes : Excludes mutex inside)
  (others : ∀ thread, thread ≠ own → inside' thread → inside thread)

include excludes others in
/-- A thread that does not go inside keeps the law. -/
theorem Excludes.stay (same : inside' own → inside own) : Excludes mutex inside' := by
  intro thread entered
  apply excludes
  by_cases moved : thread = own
  · subst moved
    exact same entered
  · exact others thread moved entered

include excludes others in
/-- A free mutex is locked by the thread that may go inside. -/
theorem Excludes.lock (free : mutex = none) : Excludes (some own) inside' := by
  intro thread entered
  by_cases moved : thread = own
  · rw [moved]
  · have before := excludes thread (others thread moved entered)
    rw [free] at before
    exact nomatch before

include excludes others in
/-- The thread that unlocks has been inside, and is not any more. -/
theorem Excludes.unlock (was : inside own) (left : ¬inside' own) : Excludes none inside' := by
  intro thread entered
  by_cases moved : thread = own
  · subst moved
    exact absurd entered left
  · exact absurd (excludes.unique (others thread moved entered) was) moved

end Moves
end DeviceSettings.Std
