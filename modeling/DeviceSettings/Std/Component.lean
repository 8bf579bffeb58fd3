import DeviceSettings.Std.Machine

/-!
# A machine inside another

A system has components that are machines themselves. Where every step of the system is a run of
a component, each run of the system is one of the component.
-/

namespace DeviceSettings.Std

variable {State Action Effect Part PartAction PartEffect : Type}

/-- What a state of the system has of the component, and the steps that the component takes in a
step of the system. -/
structure Component (system : Machine State Action Effect)
    (part : Machine Part PartAction PartEffect) where
  stateOf : State → Part
  stepsOf : Occurrence State Action Effect → List (Occurrence Part PartAction PartEffect)
  runs : ∀ {before action effects after}, system.step before action = some (after, effects) →
    part.Run (stateOf before) (stepsOf ⟨before, action, effects, after⟩) (stateOf after)

namespace Component

variable {system : Machine State Action Effect} {part : Machine Part PartAction PartEffect}
  (component : Component system part)

/-- The steps of the component in a trace of the system. -/
def traceOf (trace : List (Occurrence State Action Effect)) :
    List (Occurrence Part PartAction PartEffect) :=
  trace.flatMap component.stepsOf

theorem run {start state : State} {trace : List (Occurrence State Action Effect)}
    (run : system.Run start trace state) :
    part.Run (component.stateOf start) (component.traceOf trace) (component.stateOf state) := by
  induction run with
  | nil => exact .nil
  | snoc _ taken ih =>
      rw [traceOf, List.flatMap_append, List.flatMap_singleton]
      exact ih.trans (component.runs taken)

/-- What the steps of the component keep is kept by the steps of the system. -/
theorem invariant_of_steps {Holds : Part → Prop}
    {Meets : Occurrence Part PartAction PartEffect → Prop} {start state : State}
    {trace : List (Occurrence State Action Effect)} (run : system.Run start trace state)
    (meets : ∀ step ∈ trace, ∀ made ∈ component.stepsOf step, Meets made)
    (initially : Holds (component.stateOf start))
    (preserved : ∀ before action after effects, Holds before →
      part.step before action = some (after, effects) →
      Meets ⟨before, action, effects, after⟩ → Holds after) :
    Holds (component.stateOf state) := by
  refine (component.run run).invariant_of_steps (fun made member => ?_) initially preserved
  obtain ⟨step, inside, own⟩ := List.mem_flatMap.mp member
  exact meets step inside made own

end Component
end DeviceSettings.Std
