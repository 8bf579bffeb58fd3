import DeviceSettings.FrontPanel.SavedBrightness
import DeviceSettings.Std.Usage

/-!
# How the front panel uses its HAL

`EnsurePlatInit` tries `dsFPInit` twenty times and remembers an accepted try, which
`DeInitialiseHAL` ends with `dsFPTerm`. In between the HAL is told brightness and colours.
-/

namespace DeviceSettings.FrontPanel

open DeviceSettings.Std

/-- The HAL is told brightness and colours behind an accepted `dsFPInit` only, and each of these
is ended once. -/
def halUsage : Usage Bool FpdEffect where
  next
    | false, .dsFPInit taken => some taken
    | true, .dsFPTerm => some false
    | true, .dsSetFPBrightness _ _ _ => some true
    | true, .dsSetFPColor _ _ _ => some true
    | opened, .dsSetFPDMode _ _ => some opened
    | _, _ => none

/-- A try of `dsFPInit`. -/
def FpdEffect.isTry : FpdEffect → Bool
  | .dsFPInit _ => true
  | _ => false

/-- Something that is told of an indicator. -/
def FpdEffect.isTold : FpdEffect → Bool
  | .dsSetFPBrightness _ _ _ | .dsSetFPColor _ _ _ => true
  | _ => false

theorem follow_told {effects : List FpdEffect} (told : ∀ effect ∈ effects, effect.isTold = true) :
    halUsage.follow true effects = some true := by
  induction effects with
  | nil => rfl
  | cons effect effects ih =>
      have first := told effect List.mem_cons_self
      have rest := ih fun other member => told other (List.mem_cons_of_mem _ member)
      cases effect <;> first | exact rest | cases first

theorem countP_isTry_told {effects : List FpdEffect}
    (told : ∀ effect ∈ effects, effect.isTold = true) : effects.countP FpdEffect.isTry = 0 := by
  rw [List.countP_eq_zero]
  intro effect member
  have indicator := told effect member
  cases effect with
  | dsFPInit _ => cases indicator
  | dsFPTerm => cases indicator
  | dsSetFPBrightness _ _ _ => exact Bool.false_ne_true
  | dsSetFPColor _ _ _ => exact Bool.false_ne_true
  | dsSetFPDMode _ _ => cases indicator

theorem count_refused_le (effects : List FpdEffect) :
    effects.count (.dsFPInit false) ≤ effects.countP FpdEffect.isTry := by
  refine List.countP_mono_left fun effect _ refused => ?_
  rw [beq_iff_eq.mp refused]
  rfl

section Tries

variable {σ : Type} (hal : FpdHal σ)

theorem follow_retryInit (tries : Nat) (state : σ) :
    halUsage.follow false (retryInit hal tries state).2.2 =
      some (retryInit hal tries state).1 := by
  induction tries generalizing state with
  | zero => rfl
  | succ tries ih =>
      unfold retryInit
      rcases hal.dsFPInit state with ⟨_ | _, after⟩
      · exact ih after
      · rfl

/-- No more tries than are left, the last of them accepted or none. -/
theorem tries_retryInit (tries : Nat) (state : σ) :
    (retryInit hal tries state).2.2.countP FpdEffect.isTry ≤ tries ∧
      if (retryInit hal tries state).1 = true then
        (retryInit hal tries state).2.2.count (.dsFPInit false) < tries
      else (retryInit hal tries state).2.2 = List.replicate tries (.dsFPInit false) := by
  induction tries generalizing state with
  | zero => exact ⟨le_refl 0, rfl⟩
  | succ tries ih =>
      unfold retryInit
      rcases hal.dsFPInit state with ⟨_ | _, after⟩
      · obtain ⟨few, rest⟩ := ih after
        dsimp only
        refine ⟨by rw [List.countP_cons_of_pos rfl]; omega, ?_⟩
        split_ifs at rest ⊢
        · rw [List.count_cons_self]
          omega
        · rw [rest, List.replicate_succ]
      · refine ⟨?_, ?_⟩
        · simp [FpdEffect.isTry]
        · simp

end Tries

namespace Panel

variable {σ : Type} (hal : FpdHal σ)

/-- What a call asks of the HAL is in order, after twenty tries at the most; and a call whose tries
are all refused fails, with nothing else asked. -/
structure InOrder {α : Type} (before : Panel σ) (called : Called σ α) : Prop where
  follows : halUsage.follow before.isPlatInitialized called.2.2 =
    some called.2.1.isPlatInitialized
  few : called.2.2.countP FpdEffect.isTry ≤ 20
  refused : called.2.2.count (.dsFPInit false) = 20 →
    called.2.2 = List.replicate 20 (.dsFPInit false) ∧ called.1 = .error .general

/-- What is done behind the initialisation only tells the HAL something. -/
structure Tells {α : Type} (called : Called σ α) : Prop where
  still : called.2.1.isPlatInitialized = true
  told : ∀ effect ∈ called.2.2, effect.isTold = true

variable {hal}

theorem inOrder_of_tells {α : Type} {panel : Panel σ} {called : Called σ α}
    (initialized : panel.isPlatInitialized = true) (tells : Tells called) :
    panel.InOrder called := by
  have noTry := countP_isTry_told tells.told
  refine ⟨?_, by omega, fun refused => ?_⟩
  · rw [initialized, tells.still]
    exact follow_told tells.told
  · have bounded := count_refused_le called.2.2
    omega

theorem inOrder_behindPlatInit {α : Type} (panel : Panel σ) {act : Panel σ → Called σ α}
    (tells : ∀ readied : Panel σ, readied.isPlatInitialized = true → Tells (act readied)) :
    panel.InOrder (panel.behindPlatInit hal act) := by
  unfold behindPlatInit ensurePlatInit
  by_cases initialized : panel.isPlatInitialized = true
  · simp only [initialized, if_true, List.nil_append]
    exact inOrder_of_tells initialized (tells panel initialized)
  · have closed : panel.isPlatInitialized = false := by simpa using initialized
    obtain ⟨few, ends⟩ := tries_retryInit hal 20 panel.hal
    have tried := follow_retryInit hal 20 panel.hal
    generalize retryInit hal 20 panel.hal = result at few ends tried ⊢
    obtain ⟨done, state, tries⟩ := result
    cases done with
    | true =>
        have ready : ({ panel with hal := state }.readPersistence hal).isPlatInitialized = true :=
          rfl
        have order := inOrder_of_tells ready (tells _ ready)
        have noTry := countP_isTry_told (tells _ ready).told
        have refusals := count_refused_le
          (act ({ panel with hal := state }.readPersistence hal)).2.2
        simp only [if_neg initialized, if_true] at few ends ⊢
        refine ⟨?_, ?_, fun refused => ?_⟩
        · rw [closed]
          exact halUsage.follow_append_of tried order.follows
        · rw [List.countP_append]
          omega
        · rw [List.count_append] at refused
          omega
    | false =>
        simp only [if_neg initialized, Bool.false_eq_true, if_false] at few ends ⊢
        refine ⟨?_, few, fun _ => ⟨ends, rfl⟩⟩
        rw [closed]
        exact tried

theorem tells_callBrightness {readied : Panel σ} (initialized : readied.isPlatInitialized = true)
    (indicator : Nat) (brightness : UInt32) {finish : Panel σ → Panel σ}
    (still : ∀ told : Panel σ, (finish told).isPlatInitialized = told.isPlatInitialized) :
    Tells (readied.callBrightness hal indicator brightness finish) := by
  rcases readied.callBrightness_cases hal indicator brightness finish with
    ⟨state, called⟩ | ⟨state, called⟩
  · rw [called]
    exact ⟨(still _).trans initialized, by simp [FpdEffect.isTold]⟩
  · rw [called]
    exact ⟨initialized, by simp [FpdEffect.isTold]⟩

theorem tells_nothing {α : Type} {readied : Panel σ}
    (initialized : readied.isPlatInitialized = true) (result : Except CoreError α) :
    Tells (result, readied, []) := ⟨initialized, by simp⟩

theorem inOrder_answered {α : Type} {before : Panel σ} {called : Called σ α}
    (order : before.InOrder called) (answer : α → FpdAnswer) :
    before.InOrder (answered called answer) := by
  refine ⟨order.follows, order.few, fun refused => ?_⟩
  obtain ⟨all, failed⟩ := order.refused refused
  exact ⟨all, by rw [answered, failed]; rfl⟩

theorem inOrder_make (panel : Panel σ) (call : FpdCall) :
    panel.InOrder (panel.make hal call) := by
  cases call with
  | setFPDBrightness indicator brightNess persist =>
      refine inOrder_answered (inOrder_behindPlatInit panel fun readied initialized => ?_) _
      by_cases valid : indicator < hal.indicatorMax ∧ brightNess ≤ hal.brightnessMax
      · rw [if_pos valid]
        refine tells_callBrightness initialized indicator brightNess fun told => ?_
        dsimp only
        split_ifs <;> rfl
      · rw [if_neg valid]
        exact tells_nothing initialized _
  | getFPDBrightness indicator persist =>
      refine inOrder_answered (inOrder_behindPlatInit panel fun readied initialized => ?_) _
      split_ifs <;> exact tells_nothing initialized _
  | setFPDState indicator state =>
      refine inOrder_answered (inOrder_behindPlatInit panel fun readied initialized => ?_) _
      by_cases valid : indicator < hal.indicatorMax
      · rw [if_pos valid]
        cases state with
        | on => exact tells_callBrightness initialized indicator _ fun _ => rfl
        | off => exact tells_callBrightness initialized indicator 0 fun _ => rfl
        | other _ => exact ⟨initialized, by simp⟩
      · rw [if_neg valid]
        exact tells_nothing initialized _
  | getFPDState indicator =>
      refine inOrder_answered (inOrder_behindPlatInit panel fun readied initialized => ?_) _
      split_ifs <;> exact tells_nothing initialized _
  | setFPDColor indicator color =>
      refine inOrder_answered (inOrder_behindPlatInit panel fun readied initialized => ?_) _
      by_cases valid : indicator < hal.indicatorMax ∧ hal.dsFPDColorIsValid color = true
      · rw [if_pos valid]
        rcases hal.dsSetFPColor readied.hal indicator color with ⟨_ | _, state⟩
        · exact ⟨initialized, by simp [FpdEffect.isTold]⟩
        · by_cases power : indicator = hal.indicatorPower
          · simp only [if_pos power]
            exact ⟨initialized, by simp [FpdEffect.isTold]⟩
          · simp only [if_neg power]
            exact ⟨initialized, by simp [FpdEffect.isTold]⟩
      · rw [if_neg valid]
        exact tells_nothing initialized _
  | getFPDColor indicator =>
      refine inOrder_answered (inOrder_behindPlatInit panel fun readied initialized => ?_) _
      split_ifs
      · split
        · exact ⟨initialized, by simp⟩
        · exact tells_nothing initialized _
      · exact tells_nothing initialized _
  | setFPDMode mode =>
      refine inOrder_answered ?_ _
      unfold setFPDMode
      rcases hal.dsSetFPDMode panel.hal mode with ⟨_ | _, state⟩ <;>
        refine ⟨?_, by simp [FpdEffect.isTry], by simp⟩ <;>
        cases panel.isPlatInitialized <;> rfl

/-- What a step asks of the HAL, and what is answered. -/
def StepInOrder (step : FpdStep σ) : Prop :=
  step.before.InOrder ((returnedIn step.effects).getD (.ok .done), step.after,
    effectsIn step.effects)

theorem inOrder_step {before after : Panel σ} {action : FpdAction} {effects : List FpdOutput}
    (taken : (frontPanel hal).step before action = some (after, effects)) :
    StepInOrder ⟨before, action, effects, after⟩ := by
  cases action with
  | initialiseHAL =>
      simp only [frontPanel, step] at taken
      split_ifs at taken with present
      obtain ⟨rfl, rfl⟩ := Prod.mk.inj (Option.some.inj taken)
      refine ⟨?_, by simp [effectsIn], by simp [effectsIn]⟩
      simp [effectsIn, initialiseHAL, present]
  | deInitialiseHAL =>
      simp only [frontPanel, step] at taken
      split_ifs at taken
      obtain ⟨rfl, rfl⟩ := Prod.mk.inj (Option.some.inj taken)
      unfold deInitialiseHAL
      split_ifs with initialized
      · refine ⟨?_, by simp [effectsIn, FpdEffect.isTry], by simp [effectsIn]⟩
        simp only [initialized]
        rfl
      · exact ⟨rfl, by simp [effectsIn], by simp [effectsIn]⟩
  | call call =>
      simp only [frontPanel, step] at taken
      split_ifs at taken
      obtain ⟨rfl, rfl⟩ := Prod.mk.inj (Option.some.inj taken)
      simp only [StepInOrder, returnedIn_outputs, effectsIn_outputs, Option.getD_some]
      exact inOrder_make before call
  | otherProperty key value =>
      simp only [frontPanel, step] at taken
      split_ifs at taken
      obtain ⟨rfl, rfl⟩ := Prod.mk.inj (Option.some.inj taken)
      exact ⟨rfl, by simp [effectsIn], by simp [effectsIn]⟩

end Panel

/-- In every process the HAL is told brightness and colours only between an accepted `dsFPInit`
and its `dsFPTerm`, which come in turns, as `fpd_isPlatInitialized` says; no call makes more than
twenty tries, and one whose twenty tries are refused fails and asks for nothing else. -/
theorem halUsage_run {σ : Type} {hal : FpdHal σ} {state : σ} {store : Persistence.LoadedStore}
    {trace : List (FpdStep σ)} {panel : Panel σ}
    (run : (frontPanel hal).Run (.ofProcess hal state store) trace panel) :
    halUsage.follow false (effectsIn (Machine.effectsOf trace)) =
        some panel.isPlatInitialized ∧
      ∀ step ∈ trace, (effectsIn step.effects).countP FpdEffect.isTry ≤ 20 ∧
        ((effectsIn step.effects).count (.dsFPInit false) = 20 →
          effectsIn step.effects = List.replicate 20 (.dsFPInit false) ∧
            (returnedIn step.effects).getD (.ok .done) = .error .general) := by
  refine ⟨?_, fun step member => ?_⟩
  · exact run.follow_eq halUsage Panel.isPlatInitialized _ fun before action after effects taken =>
      (Panel.inOrder_step taken).follows
  · have order := Panel.inOrder_step (run.step_of_mem member)
    exact ⟨order.few, order.refused⟩

/-- The LED is switched on and the panel destructed. -/
theorem halUsage_run_on :
    let constructed := PlainHal.constructed PlainHal.store
    let on := PlainHal.made constructed.after (.setFPDState 1 .on)
    let left := on.after.deInitialiseHAL PlainHal.hal
    let trace := [constructed, on,
      ⟨on.after, .deInitialiseHAL, left.2.map FpdOutput.effect, left.1⟩]
    halUsage.follow false (effectsIn (Machine.effectsOf trace)) =
        some left.1.isPlatInitialized ∧
      ∀ step ∈ trace, (effectsIn step.effects).countP FpdEffect.isTry ≤ 20 ∧
        ((effectsIn step.effects).count (.dsFPInit false) = 20 →
          effectsIn step.effects = List.replicate 20 (.dsFPInit false) ∧
            (returnedIn step.effects).getD (.ok .done) = .error .general) := by
  intro constructed on left trace
  have run : (frontPanel PlainHal.hal).Run
      (.ofProcess PlainHal.hal () PlainHal.store.reopened) trace left.1 :=
    .snoc (.snoc (.snoc .nil rfl) rfl) rfl
  exact halUsage_run run

end DeviceSettings.FrontPanel
