import Mathlib.Data.List.Basic
import Mathlib.Data.Option.Basic
import Mathlib.Tactic.Common

/-!
# One cache slot for many sources

A cache that remembers one value and not where it came from stands before any number of sources.
It is compared, request by request, with a memory of the last request that its own source could
serve. Along a run the cache answers for the right source exactly as long as what is remembered
is also what the source that is asked would say.
-/

namespace DeviceSettings.Std

section Along

variable {σ τ α : Type}

/-- Every action of a run meets a condition in the state before it. -/
def Along (step : σ → α → σ) (Meets : σ → α → Prop) : σ → List α → Prop
  | _, [] => True
  | state, action :: rest => Meets state action ∧ Along step Meets (step state action) rest

/-- Two machines that are kept in step by the actions that meet the condition, where the two
conditions say the same. -/
theorem along_iff_of_related {step : σ → α → σ} {step' : τ → α → τ} {Meets : σ → α → Prop}
    {Meets' : τ → α → Prop} (Related : σ → τ → Prop)
    (agree : ∀ state state' action, Related state state' →
      (Meets state action ↔ Meets' state' action))
    (kept : ∀ state state' action, Related state state' → Meets state action →
      Related (step state action) (step' state' action))
    {start : σ} {start' : τ} (initially : Related start start') (actions : List α) :
    Along step Meets start actions ↔ Along step' Meets' start' actions := by
  induction actions generalizing start start' with
  | nil => exact Iff.rfl
  | cons action rest ih =>
      rw [Along, Along, ← agree start start' action initially]
      exact and_congr_right fun meets => ih (kept start start' action initially meets)

/-- What every step that meets the condition does to a view of the state, the run does to it. -/
theorem view_foldl_of_along {step : σ → α → σ} {Meets : σ → α → Prop} (view : σ → τ)
    (act : τ → α → τ)
    (law : ∀ state action, Meets state action → view (step state action) = act (view state) action)
    {start : σ} {actions : List α} (along : Along step Meets start actions) :
    view (actions.foldl step start) = actions.foldl act (view start) := by
  induction actions generalizing start with
  | nil => rfl
  | cons action rest ih =>
      rw [List.foldl_cons, List.foldl_cons, ih along.2, law start action along.1]

end Along

section Slot

variable {Value : Type} (fits : Value → Bool)

/-- The answer: what is cached where it fits the request, else what the source says, where that
fits. -/
def slotAnswer (cached read : Option Value) : Option Value :=
  (cached.filter fits).or (read.filter fits)

/-- What is cached after a request. -/
def slotAfter (cached read : Option Value) : Option Value :=
  (slotAnswer fits cached read).or cached

/-- What the last request got from its own source, if it got anything. -/
def servedAfter (served read : Option Value) : Option Value := (read.filter fits).or served

theorem slotAnswer_hit {cached read : Option Value} {value : Value} (stored : cached = some value)
    (fit : fits value = true) : slotAnswer fits cached read = some value := by
  rw [slotAnswer, stored, Option.filter_some_pos fit, Option.some_or]

theorem slotAnswer_miss {cached : Option Value} (miss : ∀ value, cached = some value →
    fits value = false) (read : Option Value) : slotAnswer fits cached read = read.filter fits := by
  cases cached with
  | none => rfl
  | some value => rw [slotAnswer, Option.filter_some_neg (miss value rfl), Option.none_or]

/-- The answer is the one of the source that was asked, or there is none. -/
def SlotRight (cached read : Option Value) : Prop :=
  ∀ value, slotAnswer fits cached read = some value → read = some value

/-- What is remembered is what the source says, wherever the request would be given it. -/
def SlotAgrees (served read : Option Value) : Prop :=
  ∀ value, served = some value → fits value = true → read = some value

theorem slotRight_iff (cached read : Option Value) :
    SlotRight fits cached read ↔ SlotAgrees fits cached read := by
  constructor
  · rintro right value rfl fit
    apply right
    simp [slotAnswer, fit]
  · intro agrees value answered
    unfold slotAnswer at answered
    cases hit : cached.filter fits with
    | some found =>
        rw [hit, Option.some_or] at answered
        obtain ⟨stored, fit⟩ := Option.filter_eq_some_iff.mp hit
        exact answered ▸ agrees found stored fit
    | none =>
        rw [hit, Option.none_or] at answered
        exact (Option.filter_eq_some_iff.mp answered).1

/-- A right answer leaves in the cache what the source that was asked has served. -/
theorem slotAfter_of_right {cached read : Option Value} (right : SlotRight fits cached read) :
    slotAfter fits cached read = servedAfter fits cached read := by
  unfold slotAfter servedAfter
  cases hit : cached.filter fits with
  | none => rw [slotAnswer, hit, Option.none_or]
  | some found =>
      obtain ⟨stored, fit⟩ := Option.filter_eq_some_iff.mp hit
      have answered : slotAnswer fits cached read = some found := by
        rw [slotAnswer, hit, Option.some_or]
      have served : read.filter fits = some found :=
        Option.filter_eq_some_iff.mpr ⟨right found answered, fit⟩
      rw [answered, served]

end Slot
end DeviceSettings.Std
