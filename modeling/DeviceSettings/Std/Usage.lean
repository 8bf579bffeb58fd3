import DeviceSettings.Std.Machine

/-!
# Orders of use

An interface allows its events in an order: each mode takes some of them, and is followed by
another mode. A machine that shows events to the interface keeps to the order when the mode is a
view of its state.
-/

namespace DeviceSettings.Std

/-- The events that each mode takes, with the mode behind each. -/
structure Usage (Mode Event : Type) where
  next : Mode → Event → Option Mode

namespace Usage

variable {Mode Event : Type} (usage : Usage Mode Event)

/-- The mode behind a list of events, unless one of them is out of order. -/
def follow : Mode → List Event → Option Mode
  | mode, [] => some mode
  | mode, event :: events => (usage.next mode event).bind fun after => follow after events

@[simp] theorem follow_nil (mode : Mode) : usage.follow mode [] = some mode := rfl

theorem follow_cons (mode : Mode) (event : Event) (events : List Event) :
    usage.follow mode (event :: events) =
      (usage.next mode event).bind fun after => usage.follow after events := rfl

theorem follow_append (mode : Mode) (earlier later : List Event) :
    usage.follow mode (earlier ++ later) =
      (usage.follow mode earlier).bind fun middle => usage.follow middle later := by
  induction earlier generalizing mode with
  | nil => rfl
  | cons event earlier ih =>
      rw [List.cons_append, follow_cons, follow_cons, Option.bind_assoc]
      exact congrArg _ (funext ih)

/-- Two stretches that fit together. -/
theorem follow_append_of {mode middle after : Mode} {earlier later : List Event}
    (first : usage.follow mode earlier = some middle)
    (second : usage.follow middle later = some after) :
    usage.follow mode (earlier ++ later) = some after := by
  rw [follow_append, first, Option.bind_some, second]

/-- Events of one kind for the items of a list: `modes` tells the mode behind the first of them. -/
theorem follow_map {Item : Type} (event : Item → Event) (items : List Item)
    (modes : List Item → Mode)
    (taken : ∀ earlier item later, items = earlier ++ item :: later →
      usage.next (modes earlier) (event item) = some (modes (earlier ++ [item]))) :
    usage.follow (modes []) (items.map event) = some (modes items) := by
  induction items using List.reverseRecOn with
  | nil => rfl
  | append_singleton items last ih =>
      rw [List.map_append]
      refine usage.follow_append_of (ih fun earlier item later split => ?_) ?_
      · exact taken earlier item (later ++ [last]) (by simp [split])
      · rw [List.map_singleton, follow_cons, taken items last [] rfl]
        rfl

end Usage

section Runs

variable {State Action Effect Mode Event : Type} {machine : Machine State Action Effect}
  {start state : State} {trace : List (Occurrence State Action Effect)}

/-- A run keeps to the order of an interface where each step goes from the view of its state to
that of the next, with an invariant to rely on. -/
theorem Machine.Run.follow_eq_within (run : machine.Run start trace state)
    (usage : Usage Mode Event) (view : State → Mode) (seen : Effect → Option Event)
    {Holds : State → Prop} (initially : Holds start)
    (kept : ∀ before action after effects, Holds before →
      machine.step before action = some (after, effects) →
        Holds after ∧ usage.follow (view before) (effects.filterMap seen) = some (view after)) :
    Holds state ∧
      usage.follow (view start) ((effectsOf trace).filterMap seen) = some (view state) := by
  induction run with
  | nil => exact ⟨initially, rfl⟩
  | snoc _ taken ih =>
      obtain ⟨holds, follows⟩ := kept _ _ _ _ ih.1 taken
      rw [effectsOf_snoc, List.filterMap_append]
      exact ⟨holds, usage.follow_append_of ih.2 follows⟩

theorem Machine.Run.follow_eq (run : machine.Run start trace state)
    (usage : Usage Mode Event) (view : State → Mode) (seen : Effect → Option Event)
    (kept : ∀ before action after effects, machine.step before action = some (after, effects) →
      usage.follow (view before) (effects.filterMap seen) = some (view after)) :
    usage.follow (view start) ((effectsOf trace).filterMap seen) = some (view state) :=
  (run.follow_eq_within usage view seen trivial
    fun _ _ _ _ _ taken => ⟨trivial, kept _ _ _ _ taken⟩).2

end Runs

end DeviceSettings.Std
