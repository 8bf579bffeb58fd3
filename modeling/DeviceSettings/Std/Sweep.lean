import Mathlib.Data.List.Basic
import Mathlib.Logic.Function.Basic

/-!
# Sweeping a list

A loop that treats the items of a list one after another, carries a state along
and makes effects visible. What the body does to one item is stated once; the
rules here say what is left behind by the whole loop.
-/

namespace DeviceSettings.Std

variable {State Item Effect Key Value : Type}

/-- Run `body` over the items in order; the effects are collected. -/
def sweep (body : State → Item → State × List Effect) :
    State → List Item → State × List Effect
  | state, [] => (state, [])
  | state, item :: rest =>
    let done := body state item
    let others := sweep body done.1 rest
    (others.1, done.2 ++ others.2)

@[simp] theorem sweep_nil (body : State → Item → State × List Effect) (state : State) :
    sweep body state [] = (state, []) := rfl

theorem sweep_cons (body : State → Item → State × List Effect) (state : State) (item : Item)
    (rest : List Item) :
    sweep body state (item :: rest) =
      ((sweep body (body state item).1 rest).1,
        (body state item).2 ++ (sweep body (body state item).1 rest).2) := rfl

/-- What the body preserves on every item holds behind the loop. -/
theorem sweep_invariant (Holds : State → Prop) {body : State → Item → State × List Effect}
    {items : List Item} {state : State} (initially : Holds state)
    (each : ∀ state, Holds state → ∀ item ∈ items, Holds (body state item).1) :
    Holds (sweep body state items).1 := by
  induction items generalizing state with
  | nil => exact initially
  | cons item rest ih =>
      rw [sweep_cons]
      apply ih
      · exact each state initially item List.mem_cons_self
      · intro state holds other member
        exact each state holds other (List.mem_cons_of_mem item member)

/-- A body that writes one value under the keys of its item: behind the loop the value
stands under every key of some item, and the other keys are as before. -/
theorem sweep_writes (Holds : State → Prop) (view : State → Key → Value)
    (Writes : Item → Key → Prop) [∀ item key, Decidable (Writes item key)] {value : Value}
    {body : State → Item → State × List Effect} {items : List Item} {state : State}
    (initially : Holds state)
    (kept : ∀ state, Holds state → ∀ item ∈ items, Holds (body state item).1)
    (written : ∀ state, Holds state → ∀ item ∈ items, ∀ key,
      view (body state item).1 key = if Writes item key then value else view state key)
    (key : Key) :
    view (sweep body state items).1 key =
      if ∃ item ∈ items, Writes item key then value else view state key := by
  induction items generalizing state with
  | nil => simp
  | cons item rest ih =>
      have first := written state initially item List.mem_cons_self key
      have later := ih (kept state initially item List.mem_cons_self)
        (fun state holds other member => kept state holds other (List.mem_cons_of_mem item member))
        (fun state holds other member =>
          written state holds other (List.mem_cons_of_mem item member))
      rw [sweep_cons, later, first]
      by_cases here : Writes item key
      · simp [here]
      · simp [here]

/-- A loop without effects whose body acts on the view of its own item and on no other: behind
the loop each item's view is as its own turn leaves it. -/
theorem foldl_own (Holds : State → Prop) (view : Item → State → Value)
    (act : Item → Value → Value) (body : State → Item → State) {items : List Item}
    (nodup : items.Nodup) {state : State} (initially : Holds state)
    (kept : ∀ state, Holds state → ∀ item ∈ items, Holds (body state item))
    (own : ∀ state, Holds state → ∀ item ∈ items,
      view item (body state item) = act item (view item state))
    (others : ∀ state, Holds state → ∀ item ∈ items, ∀ other, other ≠ item →
      view other (body state item) = view other state) (item : Item) :
    Holds (items.foldl body state) ∧
      (item ∈ items → view item (items.foldl body state) = act item (view item state)) ∧
      (item ∉ items → view item (items.foldl body state) = view item state) := by
  induction items generalizing state with
  | nil => exact ⟨initially, fun member => absurd member List.not_mem_nil, fun _ => rfl⟩
  | cons first rest ih =>
      obtain ⟨fresh, nodup⟩ := List.nodup_cons.mp nodup
      obtain ⟨holds, inside, outside⟩ := ih nodup (kept state initially first List.mem_cons_self)
        (fun state holds item member => kept state holds item (List.mem_cons_of_mem _ member))
        (fun state holds item member => own state holds item (List.mem_cons_of_mem _ member))
        (fun state holds item member => others state holds item (List.mem_cons_of_mem _ member))
      refine ⟨holds, fun member => ?_, fun absent => ?_⟩
      · by_cases same : item = first
        · subst same
          exact (outside fresh).trans (own state initially item List.mem_cons_self)
        · have later : item ∈ rest := (List.mem_cons.mp member).resolve_left same
          rw [List.foldl_cons, inside later,
            others state initially first List.mem_cons_self item same]
      · have other : item ≠ first := fun same => absent (same ▸ List.mem_cons_self)
        have later : item ∉ rest := fun member => absent (List.mem_cons_of_mem _ member)
        exact (outside later).trans (others state initially first List.mem_cons_self item other)

/-- A loop that updates an array item by item. -/
theorem foldl_update [DecidableEq Item] (act : Item → Value → Value) {items : List Item}
    (nodup : items.Nodup) (array : Item → Value) (item : Item) :
    items.foldl (fun array i => Function.update array i (act i (array i))) array item =
      if item ∈ items then act item (array item) else array item := by
  obtain ⟨-, inside, outside⟩ : True ∧
      (item ∈ items → items.foldl (fun array i => Function.update array i (act i (array i))) array
        item = act item (array item)) ∧
      (item ∉ items → items.foldl (fun array i => Function.update array i (act i (array i))) array
        item = array item) :=
    foldl_own (fun _ => True) (fun item (array : Item → Value) => array item) act _ nodup trivial
      (fun _ _ _ _ => trivial) (fun array _ i _ => Function.update_self i _ array)
      (fun array _ i _ other distinct => Function.update_of_ne distinct _ array) item
  split_ifs with member
  · exact inside member
  · exact outside member

end DeviceSettings.Std
