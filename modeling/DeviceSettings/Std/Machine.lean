import Mathlib.Data.List.Basic
import Mathlib.Data.List.Induction

/-!
# Machines and their runs

A machine takes an action when it is enabled and answers with the effects the
outside sees. `Run` is the authority on executions: it carries every occurrence
of the trace, so a law about what happened between two events is a statement
about one list.
-/

namespace DeviceSettings.Std

/-- A list with a new last element is split at that element or before it. -/
theorem snoc_eq_append_cons_iff {α : Type} {events earlier later : List α} {last found : α} :
    events ++ [last] = earlier ++ found :: later ↔
      (later = [] ∧ earlier = events ∧ found = last) ∨
        ∃ front, later = front ++ [last] ∧ events = earlier ++ found :: front := by
  constructor
  · intro split
    rcases List.eq_nil_or_concat later with rfl | ⟨front, final, rfl⟩
    · obtain ⟨rfl, same⟩ := List.append_inj' split rfl
      exact Or.inl ⟨rfl, rfl, (List.cons.inj same).1.symm⟩
    · rw [List.concat_eq_append, ← List.cons_append, ← List.append_assoc] at split
      obtain ⟨rfl, same⟩ := List.append_inj' split rfl
      obtain rfl := (List.cons.inj same).1
      exact Or.inr ⟨front, List.concat_eq_append, rfl⟩
  · rintro (⟨rfl, rfl, rfl⟩ | ⟨front, rfl, rfl⟩)
    · rfl
    · rw [List.append_assoc, List.cons_append]

/-- An event that starts has happened, and none that stops since. -/
def Since {α : Type} (starts stops : α → Prop) (events : List α) : Prop :=
  ∃ earlier start later, events = earlier ++ start :: later ∧ starts start ∧
    ∀ event ∈ later, ¬stops event

theorem not_since_nil {α : Type} {starts stops : α → Prop} : ¬Since starts stops [] := by
  rintro ⟨earlier, start, later, split, -⟩
  simp at split

theorem since_snoc {α : Type} {starts stops : α → Prop} {events : List α} {event : α} :
    Since starts stops (events ++ [event]) ↔
      starts event ∨ (Since starts stops events ∧ ¬stops event) := by
  constructor
  · rintro ⟨earlier, start, later, split, started, going⟩
    rcases snoc_eq_append_cons_iff.mp split with ⟨rfl, rfl, rfl⟩ | ⟨front, rfl, rfl⟩
    · exact .inl started
    · refine .inr ⟨⟨earlier, start, front, rfl, started, fun event member => ?_⟩, ?_⟩
      · exact going event (List.mem_append_left _ member)
      · exact going event (List.mem_append_right _ List.mem_cons_self)
  · rintro (started | ⟨⟨earlier, start, later, rfl, started, going⟩, continues⟩)
    · exact ⟨events, event, [], rfl, started, by simp⟩
    · refine ⟨earlier, start, later ++ [event], by simp, started, fun other member => ?_⟩
      rcases List.mem_append.mp member with before | last
      · exact going other before
      · rw [List.mem_singleton.mp last]
        exact continues

/-- A deterministic partial step with visible effects. -/
structure Machine (State Action Effect : Type) where
  step : State → Action → Option (State × List Effect)

/-- One step of a run together with the states around it. -/
structure Occurrence (State Action Effect : Type) where
  before : State
  action : Action
  effects : List Effect
  after : State

namespace Machine

variable {State Action Effect : Type} {machine : Machine State Action Effect}

/-- Executions from `start`, newest step last. -/
inductive Run (machine : Machine State Action Effect) (start : State) :
    List (Occurrence State Action Effect) → State → Prop where
  | nil : Run machine start [] start
  | snoc {trace before action after effects}
      (prior : Run machine start trace before)
      (taken : machine.step before action = some (after, effects)) :
      Run machine start (trace ++ [⟨before, action, effects, after⟩]) after

/-- What the steps of a trace made visible, in order. -/
def effectsOf (trace : List (Occurrence State Action Effect)) : List Effect :=
  trace.flatMap Occurrence.effects

theorem effectsOf_snoc (trace : List (Occurrence State Action Effect))
    (occurrence : Occurrence State Action Effect) :
    effectsOf (trace ++ [occurrence]) = effectsOf trace ++ occurrence.effects := by
  rw [effectsOf, List.flatMap_append, List.flatMap_singleton]
  rfl

/-- The actions of a trace, in order. -/
def actionsOf (trace : List (Occurrence State Action Effect)) : List Action :=
  trace.map Occurrence.action

@[simp] theorem actionsOf_append (left right : List (Occurrence State Action Effect)) :
    actionsOf (left ++ right) = actionsOf left ++ actionsOf right :=
  List.map_append

@[simp] theorem actionsOf_singleton (occurrence : Occurrence State Action Effect) :
    actionsOf [occurrence] = [occurrence.action] := rfl

namespace Run

/-- What every step preserves holds in every state reached. -/
theorem invariant {Holds : State → Prop} {start state : State}
    {trace : List (Occurrence State Action Effect)}
    (run : machine.Run start trace state) (initially : Holds start)
    (preserved : ∀ before action after effects, Holds before →
      machine.step before action = some (after, effects) → Holds after) :
    Holds state := by
  induction run with
  | nil => exact initially
  | snoc _ taken ih => exact preserved _ _ _ _ ih taken

/-- The invariant rule for runs whose steps all meet a condition: the condition
may be used where a step is shown to preserve the invariant. -/
theorem invariant_of_steps {Holds : State → Prop}
    {Meets : Occurrence State Action Effect → Prop} {start state : State}
    {trace : List (Occurrence State Action Effect)}
    (run : machine.Run start trace state) (meets : ∀ occurrence ∈ trace, Meets occurrence)
    (initially : Holds start)
    (preserved : ∀ before action after effects, Holds before →
      machine.step before action = some (after, effects) →
      Meets ⟨before, action, effects, after⟩ → Holds after) :
    Holds state := by
  induction run with
  | nil => exact initially
  | snoc _ taken ih =>
      refine preserved _ _ _ _ (ih fun occurrence member => meets occurrence ?_) taken
        (meets _ ?_)
      · exact List.mem_append_left _ member
      · exact List.mem_append_right _ List.mem_cons_self

/-- A relation between the trace so far and the state, kept by every step. -/
theorem history {Holds : List (Occurrence State Action Effect) → State → Prop}
    {start state : State} {trace : List (Occurrence State Action Effect)}
    (run : machine.Run start trace state) (initially : Holds [] start)
    (preserved : ∀ trace before action after effects, Holds trace before →
      machine.step before action = some (after, effects) →
      Holds (trace ++ [⟨before, action, effects, after⟩]) after) :
    Holds trace state := by
  induction run with
  | nil => exact initially
  | snoc _ taken ih => exact preserved _ _ _ _ _ ih taken

/-- The run up to one of its steps, and that step. -/
theorem at_occurrence {start state : State}
    {earlier later : List (Occurrence State Action Effect)}
    {occurrence : Occurrence State Action Effect}
    (run : machine.Run start (earlier ++ occurrence :: later) state) :
    machine.Run start earlier occurrence.before ∧
      machine.step occurrence.before occurrence.action =
        some (occurrence.after, occurrence.effects) := by
  generalize split : earlier ++ occurrence :: later = trace at run
  induction run generalizing later with
  | nil => simp at split
  | snoc prior taken ih =>
      rcases snoc_eq_append_cons_iff.mp split.symm with ⟨-, rfl, rfl⟩ | ⟨front, -, same⟩
      · exact ⟨prior, taken⟩
      · exact ih same.symm

theorem step_of_mem {start state : State} {trace : List (Occurrence State Action Effect)}
    (run : machine.Run start trace state) {occurrence : Occurrence State Action Effect}
    (member : occurrence ∈ trace) :
    machine.step occurrence.before occurrence.action =
      some (occurrence.after, occurrence.effects) := by
  obtain ⟨earlier, later, rfl⟩ := List.append_of_mem member
  exact run.at_occurrence.2

/-- The run behind one of its steps. -/
theorem behind_occurrence {start state : State}
    {earlier later : List (Occurrence State Action Effect)}
    {occurrence : Occurrence State Action Effect}
    (run : machine.Run start (earlier ++ occurrence :: later) state) :
    machine.Run occurrence.after later state := by
  generalize split : earlier ++ occurrence :: later = trace at run
  induction run generalizing later with
  | nil => simp at split
  | snoc _ taken ih =>
      rcases snoc_eq_append_cons_iff.mp split.symm with ⟨rfl, rfl, rfl⟩ | ⟨front, rfl, same⟩
      · exact .nil
      · exact .snoc (ih same.symm) taken

/-- A run can be cut anywhere. -/
theorem exists_middle {start state : State}
    {earlier later : List (Occurrence State Action Effect)}
    (run : machine.Run start (earlier ++ later) state) :
    ∃ middle, machine.Run start earlier middle := by
  cases later with
  | nil => exact ⟨state, by simpa using run⟩
  | cons occurrence later => exact ⟨occurrence.before, run.at_occurrence.1⟩

/-- What is kept as long as the machine stays inside a region holds throughout it exactly when
it held at every step into the region. -/
theorem holds_inside_iff {Inside Holds : State → Prop} {start state : State}
    {trace : List (Occurrence State Action Effect)} (run : machine.Run start trace state)
    (outside : ¬Inside start)
    (kept : ∀ before action after effects,
      machine.step before action = some (after, effects) → Inside before → Inside after →
        Holds before → Holds after)
    (entered : ∀ before action after effects,
      machine.step before action = some (after, effects) → ¬Inside before → Inside after →
        (Holds after ↔ Holds before)) :
    (∀ occurrence ∈ trace, Inside occurrence.after → Holds occurrence.after) ↔
      ∀ occurrence ∈ trace, ¬Inside occurrence.before → Inside occurrence.after →
        Holds occurrence.before := by
  constructor
  · intro holds occurrence member before after
    obtain ⟨earlier, later, rfl⟩ := List.append_of_mem member
    exact (entered _ _ _ _ run.at_occurrence.2 before after).mp (holds occurrence member after)
  · intro enters
    suffices both : (∀ occurrence ∈ trace, Inside occurrence.after → Holds occurrence.after) ∧
        (Inside state → Holds state) from both.1
    induction run with
    | nil => exact ⟨by simp, fun inside => absurd inside outside⟩
    | @snoc trace before action after effects prior taken ih =>
        obtain ⟨earlier, here⟩ := ih fun occurrence member =>
          enters occurrence (List.mem_append_left _ member)
        have last : Inside after → Holds after := by
          intro inside
          by_cases was : Inside before
          · exact kept _ _ _ _ taken was inside (here was)
          · exact (entered _ _ _ _ taken was inside).mpr
              (enters _ (List.mem_append_right _ List.mem_cons_self) was inside)
        refine ⟨fun occurrence member => ?_, last⟩
        rcases List.mem_append.mp member with old | new
        · exact earlier occurrence old
        · rw [List.mem_singleton.mp new]
          exact last

/-- Runs compose. -/
theorem trans {start middle finish : State}
    {first second : List (Occurrence State Action Effect)}
    (left : machine.Run start first middle) (right : machine.Run middle second finish) :
    machine.Run start (first ++ second) finish := by
  induction right with
  | nil => simpa using left
  | snoc _ taken ih =>
      rw [← List.append_assoc]
      exact .snoc ih taken

/-- A single step is a run. -/
theorem single {before after : State} {action : Action} {effects : List Effect}
    (taken : machine.step before action = some (after, effects)) :
    machine.Run before [⟨before, action, effects, after⟩] after :=
  Run.snoc .nil taken

/-- Where each taking of an action shows in the effects, and nothing else does, it has been taken as
often as they show it. -/
theorem count_actionsOf [DecidableEq Action] {start state : State}
    {trace : List (Occurrence State Action Effect)} (run : machine.Run start trace state)
    {which : Action} {shown : List Effect → Nat} (nothing : shown [] = 0)
    (append : ∀ earlier later, shown (earlier ++ later) = shown earlier + shown later)
    (shows : ∀ before action after effects, machine.step before action = some (after, effects) →
      shown effects = if action = which then 1 else 0) :
    (actionsOf trace).count which = shown (effectsOf trace) := by
  induction run with
  | nil => exact nothing.symm
  | snoc _ taken ih =>
      rw [actionsOf_append, List.count_append, ih, effectsOf_snoc, append, shows _ _ _ _ taken,
        actionsOf_singleton, List.count_singleton]
      simp only [beq_iff_eq]

end Run

/-- An action that can be taken until a measure is down to zero, and lowers it by one each time,
leads there by itself. -/
theorem exists_run_replicate (Kept : State → Prop) (measure : State → Nat) {action : Action}
    (goesOn : ∀ state, Kept state → measure state ≠ 0 →
      ∃ after effects, machine.step state action = some (after, effects) ∧ Kept after ∧
        measure after + 1 = measure state)
    {state : State} (kept : Kept state) :
    ∃ trace final, machine.Run state trace final ∧
      actionsOf trace = List.replicate (measure state) action ∧ Kept final ∧
        measure final = 0 := by
  induction left : measure state generalizing state with
  | zero => exact ⟨[], state, .nil, rfl, kept, left⟩
  | succ left ih =>
      obtain ⟨after, effects, taken, keptAfter, lowers⟩ := goesOn state kept (by omega)
      obtain ⟨trace, final, run, actions, keptFinal, done⟩ := ih keptAfter (by omega)
      refine ⟨_, final, (Run.single taken).trans run, ?_, keptFinal, done⟩
      rw [actionsOf_append, actions, actionsOf_singleton, List.replicate_succ,
        List.singleton_append]

/-- Take a list of actions; `none` when one of them is not enabled. -/
def play (machine : Machine State Action Effect) :
    State → List Action → Option (State × List (Occurrence State Action Effect))
  | state, [] => some (state, [])
  | state, action :: rest =>
    match machine.step state action with
    | none => none
    | some (after, effects) =>
      (machine.play after rest).map fun result =>
        (result.1, ⟨state, action, effects, after⟩ :: result.2)

theorem play_cons {state final : State} {action : Action} {rest : List Action}
    {trace : List (Occurrence State Action Effect)}
    (played : machine.play state (action :: rest) = some (final, trace)) :
    ∃ after effects steps, machine.step state action = some (after, effects) ∧
      machine.play after rest = some (final, steps) ∧
      trace = ⟨state, action, effects, after⟩ :: steps := by
  cases taken : machine.step state action with
  | none => simp [play, taken] at played
  | some result =>
      obtain ⟨after, effects⟩ := result
      simp only [play, taken, Option.map_eq_some_iff, Prod.mk.injEq] at played
      obtain ⟨⟨reached, steps⟩, continued, rfl, rfl⟩ := played
      exact ⟨after, effects, steps, rfl, continued, rfl⟩

/-- What `play` computes is a run. -/
theorem play_run {state final : State} {actions : List Action}
    {trace : List (Occurrence State Action Effect)}
    (played : machine.play state actions = some (final, trace)) :
    machine.Run state trace final := by
  induction actions generalizing state trace with
  | nil =>
      obtain ⟨rfl, rfl⟩ := Prod.mk.inj (Option.some.inj played)
      exact .nil
  | cons action rest ih =>
      obtain ⟨after, effects, steps, taken, continued, rfl⟩ := play_cons played
      exact (Run.single taken).trans (ih continued)

/-- The trace of a played list has its actions. -/
theorem actionsOf_played {state final : State} {actions : List Action}
    {trace : List (Occurrence State Action Effect)}
    (played : machine.play state actions = some (final, trace)) : actionsOf trace = actions := by
  induction actions generalizing state trace with
  | nil =>
      obtain ⟨rfl, rfl⟩ := Prod.mk.inj (Option.some.inj played)
      rfl
  | cons action rest ih =>
      obtain ⟨after, effects, steps, taken, continued, rfl⟩ := play_cons played
      exact congrArg (action :: ·) (ih continued)

end Machine
end DeviceSettings.Std
