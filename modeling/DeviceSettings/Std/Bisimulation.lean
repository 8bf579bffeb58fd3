import DeviceSettings.Std.Machine

/-!
# States that show the same

Two states are alike when a relation between them is kept by every action, which both take or
both refuse, with the same effects. Whatever list of actions is played, alike states show the same.
-/

namespace DeviceSettings.Std.Machine

variable {State Action Effect : Type} (machine : Machine State Action Effect)

/-- What a list of actions makes visible, if all of them are enabled. -/
def shows (start : State) (actions : List Action) : Option (List Effect) :=
  (machine.play start actions).map fun played => effectsOf played.2

theorem shows_cons (start : State) (action : Action) (actions : List Action) :
    machine.shows start (action :: actions) =
      (machine.step start action).bind fun taken =>
        (machine.shows taken.1 actions).map fun rest => taken.2 ++ rest := by
  unfold shows
  rw [play]
  cases machine.step start action with
  | none => rfl
  | some result =>
      rw [Option.bind_some, Option.map_map, Option.map_map]
      rfl

/-- Both steps are taken, with the same effects and to related states, or none is. -/
def StepsAlike (related : State → State → Prop) (left right : Option (State × List Effect)) :
    Prop :=
  Option.Rel (fun one other => related one.1 other.1 ∧ one.2 = other.2) left right

/-- A relation that every action keeps. -/
def Alike (related : State → State → Prop) : Prop :=
  ∀ one other action, related one other →
    StepsAlike related (machine.step one action) (machine.step other action)

variable {machine}

/-- Related states show the same, whatever is played. -/
theorem Alike.shows_eq {related : State → State → Prop} (alike : machine.Alike related)
    {one other : State} (holds : related one other) (actions : List Action) :
    machine.shows one actions = machine.shows other actions := by
  induction actions generalizing one other with
  | nil => rfl
  | cons action actions ih =>
      rw [shows_cons, shows_cons]
      have both := alike one other action holds
      generalize machine.step one action = left at both ⊢
      generalize machine.step other action = right at both ⊢
      cases both with
      | some both => rw [Option.bind_some, Option.bind_some, ih both.1, both.2]
      | none => rfl

end DeviceSettings.Std.Machine
