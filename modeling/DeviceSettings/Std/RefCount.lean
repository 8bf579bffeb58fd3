import DeviceSettings.Std.Machine

/-!
# Reference counts

References are taken and given back as effects of a machine, and a view of its state lists who
holds one. Where every step changes the list by what it takes and gives back, the references taken
and not given back are those of the list, in every state that a run reaches.
-/

namespace DeviceSettings.Std

/-- A reference on an item is taken or given back. -/
inductive RefEvent (Item : Type) where
  | addRef (item : Item)
  | release (item : Item)
  deriving DecidableEq, Repr

namespace RefEvent

variable {Item : Type} [DecidableEq Item] (item : Item)

/-- What an event adds to the references on an item. -/
def change : RefEvent Item → Int
  | .addRef other => if other = item then 1 else 0
  | .release other => if other = item then -1 else 0

/-- The references on an item that are taken and not given back. -/
def balance : List (RefEvent Item) → Int
  | [] => 0
  | event :: events => event.change item + balance events

@[simp] theorem balance_nil : balance item [] = 0 := rfl

@[simp] theorem balance_cons (event : RefEvent Item) (events : List (RefEvent Item)) :
    balance item (event :: events) = event.change item + balance item events := rfl

@[simp] theorem balance_append (earlier later : List (RefEvent Item)) :
    balance item (earlier ++ later) = balance item earlier + balance item later := by
  induction earlier with
  | nil => simp
  | cons event earlier ih => rw [List.cons_append, balance_cons, balance_cons, ih, Int.add_assoc]

/-- A reference on each item of a list. -/
theorem balance_map_addRef (items : List Item) :
    balance item (items.map .addRef) = items.count item := by
  induction items with
  | nil => rfl
  | cons other items ih =>
      rw [List.map_cons, balance_cons, ih, change, List.count_cons]
      by_cases same : other = item
      · rw [if_pos same, if_pos (beq_iff_eq.mpr same)]
        omega
      · rw [if_neg same, if_neg (mt beq_iff_eq.mp same)]
        omega

end RefEvent

/-- References stay with their holders. -/
theorem Machine.Run.balance_eq_count {State Action Effect Item : Type} [DecidableEq Item]
    {machine : Machine State Action Effect} {start state : State}
    {trace : List (Occurrence State Action Effect)} (run : machine.Run start trace state)
    (reference : Effect → Option (RefEvent Item)) (holders : State → List Item)
    (initially : holders start = [])
    (kept : ∀ before action after effects, machine.step before action = some (after, effects) →
      ∀ item, ((holders after).count item : Int) =
        (holders before).count item + RefEvent.balance item (effects.filterMap reference))
    (item : Item) :
    RefEvent.balance item ((effectsOf trace).filterMap reference) =
      (holders state).count item := by
  induction run with
  | nil => simp [effectsOf, initially]
  | snoc _ taken ih =>
      rw [kept _ _ _ _ taken item, ← ih, effectsOf_snoc, List.filterMap_append,
        RefEvent.balance_append]

end DeviceSettings.Std
