import DeviceSettings.FrontPanel.Panel
import DeviceSettings.Persistence.Processes

/-!
# The saved brightness of the power LED

A brightness that a client saves is stored and kept in `_dsPowerBrightness`. What the LED is
switched on with is the last one saved, in the same process or in one before it.
-/

namespace DeviceSettings.FrontPanel

open DeviceSettings.Std
open DeviceSettings.Persistence

/-! ### The brightness as a string -/

theorem brightnessOf_toString (brightness : UInt32) :
    brightnessOf (toString brightness.toNat) = brightness := by
  have small : brightness.toNat < 2 ^ 32 := brightness.toNat_lt
  have wraps : ((brightness.toNat : Int).bmod (2 ^ 32)) % 2 ^ 32 = brightness.toNat := by
    have same : ((brightness.toNat : Int).bmod (2 ^ 32)) % 2 ^ 32 = brightness.toNat % 2 ^ 32 :=
      Int.bmod_emod
    rw [same]
    exact Int.emod_eq_of_lt (by omega) (by omega)
  unfold brightnessOf
  rw [atoi_toString (by omega), UInt32.ofInt, wraps, Int.toNat_natCast]
  exact UInt32.ofNat_toNat

theorem readable_brightness (brightness : UInt32) : Readable (toString brightness.toNat) := by
  have small : brightness.toNat < 2 ^ 32 := brightness.toNat_lt
  have wide : 10 ^ 10 ≤ 10 ^ scanLimit := Nat.pow_le_pow_right (by decide) (by decide)
  exact readable_toString_nat (lt_of_lt_of_le (by omega) wide)

section Panels

variable {σ : Type} (hal : FpdHal σ)

@[simp] theorem defaulted_defaulted (brightness : UInt32) :
    defaulted hal (defaulted hal brightness) = defaulted hal brightness := by
  unfold defaulted
  split_ifs with replaced again
  · exact absurd again.2 again.1
  · rfl
  · rfl

/-- What `EnsurePlatInit` makes of the store for the power LED. -/
def startupBrightness (store : LoadedStore) : UInt32 :=
  defaulted hal (brightnessOf
    ((store.find? powerBrightnessKey).getD (toString hal.brightnessDefault.toNat)))

theorem startupBrightness_congr {store other : LoadedStore}
    (same : store.find? powerBrightnessKey = other.find? powerBrightnessKey) :
    startupBrightness hal store = startupBrightness hal other := by
  rw [startupBrightness, same]
  rfl

theorem startupBrightness_persist (store : LoadedStore) (brightness : UInt32) :
    startupBrightness hal (store.persist powerBrightnessKey (toString brightness.toNat)) =
      defaulted hal brightness := by
  have accepted : powerBrightnessKey ≠ "" ∧ toString brightness.toNat ≠ "" :=
    ⟨by decide, toString_nat_ne _⟩
  rw [startupBrightness, store.find?_persist accepted, if_pos rfl, Option.getD_some,
    brightnessOf_toString]

namespace Panel

/-! ### The look-ups of a startup -/

theorem readBrightness_eq (store : LoadedStore) {key : String} (named : key ≠ "") :
    readBrightness hal store key =
      (brightnessOf ((store.find? key).getD (toString hal.brightnessDefault.toNat)),
        if store.find? key = none then store.persist key (toString hal.brightnessDefault.toNat)
        else store) := by
  unfold readBrightness
  rw [store.getProperty_eq named]
  cases found : store.find? key <;> simp

/-- A look-up leaves every brightness as it would have been found. -/
theorem startupBrightness_readBrightness (store : LoadedStore) {key : String}
    (named : key ≠ "") :
    startupBrightness hal (readBrightness hal store key).2 = startupBrightness hal store := by
  rw [readBrightness_eq hal store named]
  dsimp only
  split_ifs with missing
  · by_cases same : key = powerBrightnessKey
    · subst same
      rw [startupBrightness_persist, startupBrightness, missing, Option.getD_none,
        brightnessOf_toString]
    · exact startupBrightness_congr hal (store.find?_persist_of_ne same _)
  · rfl

theorem durable_readBrightness {store : LoadedStore} (durable : store.Durable) {key : String}
    (readable : Readable key) : (readBrightness hal store key).2.Durable := by
  rw [readBrightness_eq hal store readable.ne]
  dsimp only
  split_ifs
  · exact durable.persist ⟨readable, readable_brightness _⟩
  · exact durable

/-! ### What a call leaves behind -/

/-- An initialised panel holds the brightness that a startup would find. -/
def Agrees (panel : Panel σ) : Prop :=
  panel.isPlatInitialized = true →
    defaulted hal panel.dsPowerBrightness = startupBrightness hal panel.store

/-- An initialised panel holds a brightness as a startup reads it. -/
def Fresh (panel : Panel σ) : Prop :=
  panel.isPlatInitialized = true →
    defaulted hal panel.dsPowerBrightness = panel.dsPowerBrightness

/-- What happens to the brightness of the power LED where `saved` is saved, if anything is. -/
structure Writes (before : Panel σ) (saved : Option UInt32) (after : Panel σ) : Prop where
  startup : startupBrightness hal after.store =
    (saved.map (defaulted hal)).getD (startupBrightness hal before.store)
  agrees : before.Agrees hal → after.Agrees hal
  fresh : saved = none → before.Fresh hal → after.Fresh hal
  durable : before.store.Durable → after.store.Durable

variable {hal}

theorem writes_of_same {before after : Panel σ} (store : after.store = before.store)
    (initialized : after.isPlatInitialized = before.isPlatInitialized)
    (brightness : after.dsPowerBrightness = before.dsPowerBrightness) :
    before.Writes hal none after := by
  refine ⟨by rw [store]; rfl, ?_, fun _ => ?_, by rw [store]; exact id⟩
  · unfold Agrees
    rw [store, initialized, brightness]
    exact id
  · unfold Fresh
    rw [initialized, brightness]
    exact id

theorem Writes.refl (panel : Panel σ) : panel.Writes hal none panel := writes_of_same rfl rfl rfl

theorem Writes.trans {before middle after : Panel σ} {saved : Option UInt32}
    (first : before.Writes hal none middle) (second : middle.Writes hal saved after) :
    before.Writes hal saved after where
  startup := by rw [second.startup, first.startup]; rfl
  agrees := second.agrees ∘ first.agrees
  fresh nothing := second.fresh nothing ∘ first.fresh rfl
  durable := second.durable ∘ first.durable

variable (hal)

theorem writes_readPersistence (panel : Panel σ) :
    panel.Writes hal none (panel.readPersistence hal) ∧
      (panel.readPersistence hal).Agrees hal := by
  have found : (panel.readPersistence hal).dsPowerBrightness =
      startupBrightness hal panel.store := by
    simp only [readPersistence, readBrightness_eq hal panel.store
      (show powerBrightnessKey ≠ "" by decide), startupBrightness]
  have kept : startupBrightness hal (panel.readPersistence hal).store =
      startupBrightness hal panel.store := by
    unfold readPersistence
    dsimp only
    rw [startupBrightness_readBrightness hal _ (by decide),
      startupBrightness_readBrightness hal _ (by decide)]
  have agrees : (panel.readPersistence hal).Agrees hal := by
    intro _
    rw [found, kept, startupBrightness, defaulted_defaulted]
  refine ⟨⟨kept, fun _ => agrees, fun _ _ _ => ?_, fun durable => ?_⟩, agrees⟩
  · rw [found, startupBrightness, defaulted_defaulted]
  · exact durable_readBrightness hal (durable_readBrightness hal durable (by decide)) (by decide)

/-- An effect is a try of `dsFPInit`. -/
def IsInit (effect : FpdEffect) : Prop := ∃ taken, effect = .dsFPInit taken

theorem isInit_of_mem_retryInit {tries : Nat} {state : σ} {effect : FpdEffect}
    (member : effect ∈ (retryInit hal tries state).2.2) : IsInit effect := by
  induction tries generalizing state with
  | zero => simp [retryInit] at member
  | succ tries ih =>
      unfold retryInit at member
      split at member
      · exact ⟨true, by simpa using member⟩
      · rcases List.mem_cons.mp member with rfl | later
        · exact ⟨false, rfl⟩
        · exact ih later

/-- The panel that a call works on, with the tries in front of it. -/
structure Readied (before after : Panel σ) (tries : List FpdEffect) : Prop where
  writes : before.Writes hal none after
  initialized : after.isPlatInitialized = true
  inits : ∀ effect ∈ tries, IsInit effect

/-- A call works on an initialised panel, or has tried in vain to get one. -/
theorem behindPlatInit_cases {α : Type} (panel : Panel σ) (act : Panel σ → Called σ α) :
    (∃ readied tries, panel.Readied hal readied tries ∧ panel.behindPlatInit hal act =
        ((act readied).1, (act readied).2.1, tries ++ (act readied).2.2)) ∨
      ∃ failed tries, panel.Writes hal none failed ∧ (∀ effect ∈ tries, IsInit effect) ∧
        panel.behindPlatInit hal act = (.error .general, failed, tries) := by
  unfold behindPlatInit ensurePlatInit
  by_cases initialized : panel.isPlatInitialized = true
  · refine .inl ⟨panel, [], ⟨.refl panel, initialized, by simp⟩, ?_⟩
    simp [initialized]
  · have tried : ∀ effect ∈ (retryInit hal 20 panel.hal).2.2, IsInit effect :=
      fun _ => isInit_of_mem_retryInit hal
    by_cases done : (retryInit hal 20 panel.hal).1 = true
    · refine .inl ⟨{ panel with hal := (retryInit hal 20 panel.hal).2.1 }.readPersistence hal,
        (retryInit hal 20 panel.hal).2.2, ⟨?_, rfl, tried⟩, by simp [initialized, done]⟩
      have tries : panel.Writes hal none
          { panel with hal := (retryInit hal 20 panel.hal).2.1 } := writes_of_same rfl rfl rfl
      exact tries.trans (writes_readPersistence hal _).1
    · exact .inr ⟨{ panel with hal := (retryInit hal 20 panel.hal).2.1 },
        (retryInit hal 20 panel.hal).2.2, writes_of_same rfl rfl rfl, tried,
        by simp [initialized, done]⟩

theorem callBrightness_cases (panel : Panel σ) (indicator : Nat) (brightness : UInt32)
    (finish : Panel σ → Panel σ) :
    (∃ state, panel.callBrightness hal indicator brightness finish =
        (.ok (), finish { panel with hal := state },
          [.dsSetFPBrightness indicator brightness true])) ∨
      ∃ state, panel.callBrightness hal indicator brightness finish =
        (.error .general, { panel with hal := state },
          [.dsSetFPBrightness indicator brightness false]) := by
  unfold callBrightness
  rcases told : hal.dsSetFPBrightness panel.hal indicator brightness with ⟨_ | _, state⟩
  · exact .inr ⟨state, rfl⟩
  · exact .inl ⟨state, rfl⟩

/-- The brightness that a call has saved. -/
def savedBy (call : FpdCall) (result : Except CoreError FpdAnswer) : Option UInt32 :=
  match call, result with
  | .setFPDBrightness indicator brightNess true, .ok _ =>
    if indicator = hal.indicatorPower then some brightNess else none
  | _, _ => none

theorem savedBy_error (call : FpdCall) (error : CoreError) :
    savedBy hal call (.error error) = none := by
  unfold savedBy
  split
  next same => cases same
  · rfl

/-- A call that has saved nothing behind the initialisation leaves what the initialisation has
left. -/
theorem writes_behindPlatInit {α : Type} (panel : Panel σ) (act : Panel σ → Called σ α)
    {answer : α → FpdAnswer} {call : FpdCall}
    (writes : ∀ readied : Panel σ, readied.isPlatInitialized = true →
      readied.Writes hal (savedBy hal call ((act readied).1.map answer)) (act readied).2.1) :
    panel.Writes hal (savedBy hal call ((panel.behindPlatInit hal act).1.map answer))
      (panel.behindPlatInit hal act).2.1 := by
  rcases panel.behindPlatInit_cases hal act with ⟨readied, _, ready, called⟩ |
    ⟨failed, _, failing, -, called⟩
  · rw [called]
    exact ready.writes.trans (writes readied ready.initialized)
  · rw [called, Except.map, savedBy_error]
    exact failing

theorem writes_callBrightness (readied : Panel σ) (indicator : Nat) (brightness : UInt32)
    (finish : Panel σ → Panel σ) {call : FpdCall}
    (finishes : ∀ told : Panel σ, told.Writes hal (savedBy hal call (.ok .done)) (finish told)) :
    let called := readied.callBrightness hal indicator brightness finish
    readied.Writes hal (savedBy hal call (called.1.map fun _ => .done)) called.2.1 := by
  rcases readied.callBrightness_cases hal indicator brightness finish with
    ⟨state, called⟩ | ⟨state, called⟩
  · rw [called]
    have told : readied.Writes hal none { readied with hal := state } := writes_of_same rfl rfl rfl
    exact told.trans (finishes _)
  · rw [called]
    dsimp only
    rw [Except.map, savedBy_error]
    exact writes_of_same rfl rfl rfl

/-- Another property leaves the brightness as it is. -/
theorem writes_persist (panel : Panel σ) {key value : String} (other : key ≠ powerBrightnessKey)
    (readable : Readable key ∧ Readable value) :
    panel.Writes hal none { panel with store := panel.store.persist key value } := by
  have same : startupBrightness hal (panel.store.persist key value) =
      startupBrightness hal panel.store :=
    startupBrightness_congr hal (panel.store.find?_persist_of_ne other value)
  refine ⟨same, fun agrees initialized => ?_, fun _ => id, fun durable => durable.persist readable⟩
  rw [same]
  exact agrees initialized

theorem writes_save (panel : Panel σ) (brightNess : UInt32) :
    panel.Writes hal (some brightNess)
      { panel with
        dsPowerBrightness := brightNess
        store := panel.store.persist powerBrightnessKey (toString brightNess.toNat) } := by
  have found := startupBrightness_persist hal panel.store brightNess
  refine ⟨found, fun _ _ => found.symm, fun nothing => by simp at nothing, fun durable => ?_⟩
  exact durable.persist ⟨by decide, readable_brightness _⟩

theorem readable_colorStr (color : UInt32) : Readable (colorStr hal color) := by
  unfold colorStr
  split_ifs <;> decide

theorem writes_make (panel : Panel σ) (call : FpdCall) :
    panel.Writes hal (savedBy hal call (panel.make hal call).1) (panel.make hal call).2.1 := by
  cases call with
  | setFPDBrightness indicator brightNess persist =>
      refine writes_behindPlatInit hal panel _ fun readied _ => ?_
      by_cases valid : indicator < hal.indicatorMax ∧ brightNess ≤ hal.brightnessMax
      · rw [if_pos valid]
        refine writes_callBrightness hal readied indicator brightNess _ fun told => ?_
        have cached : told.Writes hal none (told.setSettings indicator fun settings =>
            { settings with brightness := brightNess }) := writes_of_same rfl rfl rfl
        dsimp only
        split_ifs with saves
        · obtain ⟨rfl, rfl⟩ := saves
          rw [savedBy, if_pos rfl]
          exact cached.trans (writes_save hal _ brightNess)
        · have nothing : savedBy hal (.setFPDBrightness indicator brightNess persist)
              (.ok .done) = none := by
            cases persist with
            | false => rfl
            | true => exact if_neg fun power => saves ⟨power, rfl⟩
          rw [nothing]
          exact cached
      · rw [if_neg valid, Except.map, savedBy_error]
        exact .refl readied
  | getFPDBrightness indicator persist =>
      refine writes_behindPlatInit hal panel _ fun readied _ => ?_
      split_ifs <;> exact .refl readied
  | setFPDState indicator state =>
      refine writes_behindPlatInit hal panel _ fun readied _ => ?_
      have cached : ∀ told : Panel σ, told.Writes hal none
          (told.setSettings indicator fun settings => { settings with state := state }) :=
        fun told => writes_of_same rfl rfl rfl
      by_cases valid : indicator < hal.indicatorMax
      · rw [if_pos valid]
        cases state with
        | on => exact writes_callBrightness hal readied indicator _ _ cached
        | off => exact writes_callBrightness hal readied indicator 0 _ cached
        | other _ => exact cached readied
      · rw [if_neg valid]
        exact .refl readied
  | getFPDState indicator =>
      refine writes_behindPlatInit hal panel _ fun readied _ => ?_
      split_ifs <;> exact .refl readied
  | setFPDColor indicator color =>
      refine writes_behindPlatInit hal panel _ fun readied _ => ?_
      by_cases valid : indicator < hal.indicatorMax ∧ hal.dsFPDColorIsValid color = true
      · rw [if_pos valid]
        rcases hal.dsSetFPColor readied.hal indicator color with ⟨_ | _, state⟩
        · exact writes_of_same rfl rfl rfl
        · by_cases power : indicator = hal.indicatorPower
          · simp only [if_pos power]
            have cached : readied.Writes hal none
                ({ ({ readied with hal := state } : Panel σ).setSettings indicator fun settings =>
                    { settings with color := maskedColor color } with
                  dsPowerLedColor := maskedColor color }) := writes_of_same rfl rfl rfl
            exact cached.trans (writes_persist hal _ (by decide)
              ⟨by decide, readable_colorStr hal (maskedColor color)⟩)
          · simp only [if_neg power]
            exact writes_of_same rfl rfl rfl
      · rw [if_neg valid]
        exact .refl readied
  | getFPDColor indicator =>
      refine writes_behindPlatInit hal panel _ fun readied _ => ?_
      split_ifs
      · split
        · exact writes_of_same rfl rfl rfl
        · exact .refl readied
      · exact .refl readied
  | setFPDMode mode =>
      simp only [make, answered, setFPDMode]
      rcases hal.dsSetFPDMode panel.hal mode with ⟨_ | _, state⟩
      · exact writes_of_same rfl rfl rfl
      · exact writes_of_same rfl rfl rfl

/-! ### What a call shows -/

/-- The brightness that the HAL is told. -/
def toldBrightness : FpdEffect → Option UInt32
  | .dsSetFPBrightness _ brightness _ => some brightness
  | _ => none

/-- What a call shows as the brightness of the power LED: an indicator is switched on with it, and
a client that asks for the saved one gets it. -/
def shownBy (call : FpdCall) (result : Except CoreError FpdAnswer) (effects : List FpdEffect) :
    List UInt32 :=
  match call, result with
  | .setFPDState _ .on, _ => effects.filterMap toldBrightness
  | .getFPDBrightness _ true, .ok (.brightness value) => [value]
  | _, _ => []

theorem toldBrightness_tries {tries : List FpdEffect} (inits : ∀ effect ∈ tries, IsInit effect) :
    tries.filterMap toldBrightness = [] := by
  rw [List.filterMap_eq_nil_iff]
  intro effect member
  obtain ⟨_, rfl⟩ := inits effect member
  rfl

theorem toldBrightness_callBrightness (panel : Panel σ) (indicator : Nat) (brightness : UInt32)
    (finish : Panel σ → Panel σ) :
    (panel.callBrightness hal indicator brightness finish).2.2.filterMap toldBrightness =
      [brightness] := by
  rcases panel.callBrightness_cases hal indicator brightness finish with
    ⟨_, called⟩ | ⟨_, called⟩ <;> rw [called] <;> rfl

/-- A call shows what the panel holds behind the initialisation. -/
theorem shownBy_make {panel : Panel σ} {call : FpdCall} {brightness : UInt32}
    (shown : brightness ∈ shownBy call (panel.make hal call).1 (panel.make hal call).2.2) :
    ∃ readied tries, panel.Readied hal readied tries ∧
      brightness = readied.dsPowerBrightness := by
  cases call with
  | setFPDState indicator state =>
      cases state with
      | on =>
          simp only [shownBy, make, answered, setFPDState] at shown
          rcases panel.behindPlatInit_cases hal _ with ⟨readied, tries, ready, called⟩ |
            ⟨_, tries, -, inits, called⟩
          · rw [called, List.filterMap_append, toldBrightness_tries ready.inits] at shown
            refine ⟨readied, tries, ready, ?_⟩
            split_ifs at shown
            · rwa [toldBrightness_callBrightness, List.nil_append, List.mem_singleton] at shown
            · simp at shown
          · rw [called, toldBrightness_tries inits] at shown
            simp at shown
      | off => simp [shownBy] at shown
      | other _ => simp [shownBy] at shown
  | getFPDBrightness indicator persist =>
      cases persist with
      | true =>
          simp only [make, answered, getFPDBrightness] at shown
          rcases panel.behindPlatInit_cases hal _ with ⟨readied, tries, ready, called⟩ |
            ⟨_, tries, -, inits, called⟩
          · rw [called] at shown
            refine ⟨readied, tries, ready, ?_⟩
            split_ifs at shown
            · simpa [shownBy, Except.map] using shown
            · simp [shownBy, Except.map] at shown
          · rw [called] at shown
            simp [shownBy, Except.map] at shown
      | false => simp [shownBy] at shown
  | setFPDBrightness _ _ _ => simp [shownBy] at shown
  | getFPDState _ => simp [shownBy] at shown
  | setFPDColor _ _ => simp [shownBy] at shown
  | getFPDColor _ => simp [shownBy] at shown
  | setFPDMode _ => simp [shownBy] at shown

end Panel

/-! ### Steps of a process -/

def effectsIn (outputs : List FpdOutput) : List FpdEffect :=
  outputs.filterMap fun
    | .effect effect => some effect
    | .returned _ => none

def returnedIn (outputs : List FpdOutput) : Option (Except CoreError FpdAnswer) :=
  outputs.findSome? fun
    | .effect _ => none
    | .returned result => some result

theorem effectsIn_outputs (effects : List FpdEffect) (result : Except CoreError FpdAnswer) :
    effectsIn (effects.map .effect ++ [.returned result]) = effects := by
  simp [effectsIn, List.filterMap_map]

theorem returnedIn_outputs (effects : List FpdEffect) (result : Except CoreError FpdAnswer) :
    returnedIn (effects.map .effect ++ [.returned result]) = some result := by
  have quiet : (effects.map FpdOutput.effect).findSome? (fun
      | .effect _ => none
      | .returned result => some result) = (none : Option (Except CoreError FpdAnswer)) := by
    simp
  rw [returnedIn, List.findSome?_append, quiet]
  rfl

/-- The brightness that a step has saved. -/
def savedBrightness (step : FpdStep σ) : Option UInt32 :=
  match step.action with
  | .call call => (returnedIn step.effects).bind (Panel.savedBy hal call)
  | _ => none

/-- What a step shows as the brightness of the power LED. -/
def shownBrightness (step : FpdStep σ) : List UInt32 :=
  match step.action with
  | .call call =>
    (returnedIn step.effects).elim [] fun result =>
      Panel.shownBy call result (effectsIn step.effects)
  | _ => []

/-- What another component persists is read back. -/
def FpdAction.ReadsBack : FpdAction → Prop
  | .otherProperty key value => Readable key ∧ Readable value
  | _ => True

section Steps

variable {hal} {before after : Panel σ} {action : FpdAction} {effects : List FpdOutput}

theorem writes_step (taken : (frontPanel hal).step before action = some (after, effects))
    (readsBack : action.ReadsBack) :
    before.Writes hal (savedBrightness hal ⟨before, action, effects, after⟩) after := by
  cases action with
  | initialiseHAL =>
      simp only [frontPanel, Panel.step] at taken
      split_ifs at taken with exists_
      obtain ⟨rfl, rfl⟩ := Prod.mk.inj (Option.some.inj taken)
      unfold Panel.initialiseHAL
      rw [if_neg exists_]
      exact Panel.writes_of_same rfl rfl rfl
  | deInitialiseHAL =>
      simp only [frontPanel, Panel.step] at taken
      split_ifs at taken
      obtain ⟨rfl, rfl⟩ := Prod.mk.inj (Option.some.inj taken)
      unfold Panel.deInitialiseHAL
      split_ifs with initialized
      · refine ⟨rfl, fun _ impossible => ?_, fun _ _ impossible => ?_, id⟩ <;>
          simp at impossible
      · exact Panel.writes_of_same rfl rfl rfl
  | call call =>
      simp only [frontPanel, Panel.step] at taken
      split_ifs at taken
      obtain ⟨rfl, rfl⟩ := Prod.mk.inj (Option.some.inj taken)
      simp only [savedBrightness, returnedIn_outputs, Option.bind_some]
      exact before.writes_make hal call
  | otherProperty key value =>
      simp only [frontPanel, Panel.step] at taken
      split_ifs at taken with own
      obtain ⟨rfl, rfl⟩ := Prod.mk.inj (Option.some.inj taken)
      refine Panel.writes_persist hal before (fun same => own ?_) readsBack
      simp [panelKeys, same]

/-- What is shown is what a startup would find, and no board's default stands for it as long as
nothing was saved. -/
theorem shown_step (taken : (frontPanel hal).step before action = some (after, effects))
    {brightness : UInt32}
    (shown : brightness ∈ shownBrightness ⟨before, action, effects, after⟩) :
    (before.Agrees hal → defaulted hal brightness = startupBrightness hal before.store) ∧
      (before.Fresh hal → defaulted hal brightness = brightness) := by
  cases action with
  | call call =>
      simp only [frontPanel, Panel.step] at taken
      split_ifs at taken
      obtain ⟨rfl, rfl⟩ := Prod.mk.inj (Option.some.inj taken)
      simp only [shownBrightness, returnedIn_outputs, effectsIn_outputs, Option.elim_some] at shown
      obtain ⟨readied, tries, ready, rfl⟩ := Panel.shownBy_make hal shown
      refine ⟨fun agrees => ?_, fun fresh => ready.writes.fresh rfl fresh ready.initialized⟩
      exact (ready.writes.agrees agrees ready.initialized).trans ready.writes.startup
  | initialiseHAL => simp [shownBrightness] at shown
  | deInitialiseHAL => simp [shownBrightness] at shown
  | otherProperty _ _ => simp [shownBrightness] at shown

end Steps

/-! ### Processes on one store -/

/-- The front panel in the processes of a device. -/
def panelProcess : Process (Panel σ) FpdAction FpdOutput where
  machine := frontPanel hal
  storeOf := Panel.store
  Starts store panel := ∃ state, panel = .ofProcess hal state store
  opens := by
    rintro store _ ⟨state, rfl⟩
    rfl

/-- The brightness that a startup finds. -/
def brightnessRegister : (panelProcess hal).Register UInt32 where
  found := startupBrightness hal
  written step := (savedBrightness hal step).map (defaulted hal)
  Meets step := step.action.ReadsBack
  found_congr same := startupBrightness_congr hal (same powerBrightnessKey)
  step taken readsBack durable :=
    let writes := writes_step taken readsBack
    ⟨writes.durable durable, writes.startup⟩

variable {hal}

/-- The panel holds what was saved as long as it is initialised. -/
theorem agrees_run {state : σ} {store : LoadedStore} {trace : List (FpdStep σ)} {panel : Panel σ}
    (run : (frontPanel hal).Run (.ofProcess hal state store) trace panel)
    (readsBack : ∀ step ∈ trace, step.action.ReadsBack) :
    panel.Agrees hal ∧ (lastOf (savedBrightness hal) trace = none → panel.Fresh hal) := by
  induction run with
  | nil =>
      refine ⟨fun impossible => ?_, fun _ impossible => ?_⟩ <;>
        simp [Panel.ofProcess] at impossible
  | snoc _ taken ih =>
      obtain ⟨agrees, fresh⟩ := ih fun step member => readsBack step (List.mem_append_left _ member)
      have writes := writes_step taken (readsBack _ (List.mem_append_right _ List.mem_cons_self))
      refine ⟨writes.agrees agrees, fun nothing => ?_⟩
      rw [lastOf_snoc, Option.or_eq_none_iff] at nothing
      exact writes.fresh nothing.1 (fresh nothing.2)

/-- The brightness that a step shows, behind a run of its process. -/
theorem shown_within {first store : LoadedStore} {earlier trace : List (FpdStep σ)} {state : σ}
    {before after : Panel σ} {action : FpdAction} {effects : List FpdOutput} {brightness : UInt32}
    (durable : first.Durable) (lives : (panelProcess hal).Lives first earlier store)
    (prior : (frontPanel hal).Run (.ofProcess hal state store.reopened) trace before)
    (readsBack : ∀ other ∈ earlier ++ trace, other.action.ReadsBack)
    (taken : (frontPanel hal).step before action = some (after, effects))
    (shown : brightness ∈ shownBrightness ⟨before, action, effects, after⟩) :
    let last := ((lastOf (savedBrightness hal) (earlier ++ trace)).map (defaulted hal)).getD
      (startupBrightness hal first)
    defaulted hal brightness = last ∧
      (lastOf (savedBrightness hal) trace = none → brightness = last) := by
  obtain ⟨agrees, fresh⟩ := agrees_run prior fun other member =>
    readsBack other (List.mem_append_right _ member)
  obtain ⟨asFound, asHeld⟩ := shown_step taken shown
  have found := (brightnessRegister hal).found_within durable lives ⟨state, rfl⟩ prior readsBack
  have same : defaulted hal brightness =
      ((lastOf (savedBrightness hal) (earlier ++ trace)).map (defaulted hal)).getD
        (startupBrightness hal first) := by
    rw [asFound agrees, ← lastOf_map]
    exact found
  refine ⟨same, fun nothing => ?_⟩
  rw [← asHeld (fresh nothing)]
  exact same

/-- Whatever was done to the LED since, it is switched on with the brightness saved last, in this
process or in one before it, up to the default that a board puts in the place of the maximum; and
with just that one where this process has saved none. -/
theorem shownBrightness_eq {first store : LoadedStore} {earlier trace later : List (FpdStep σ)}
    {step : FpdStep σ} {state : σ} {panel : Panel σ} {brightness : UInt32}
    (durable : first.Durable) (lives : (panelProcess hal).Lives first earlier store)
    (run : (frontPanel hal).Run (.ofProcess hal state store.reopened)
      (trace ++ step :: later) panel)
    (readsBack : ∀ other ∈ earlier ++ trace, other.action.ReadsBack)
    (shown : brightness ∈ shownBrightness step) :
    let last := ((lastOf (savedBrightness hal) (earlier ++ trace)).map (defaulted hal)).getD
      (startupBrightness hal first)
    defaulted hal brightness = last ∧
      (lastOf (savedBrightness hal) trace = none → brightness = last) := by
  obtain ⟨prior, taken⟩ := run.at_occurrence
  exact shown_within durable lives prior readsBack taken shown

end Panels

/-- A HAL that accepts every call. -/
def PlainHal.hal : FpdHal Unit where
  dsFPInit _ := (.ok (), ())
  dsFPTerm _ := ()
  dsSetFPBrightness _ _ _ := (.ok (), ())
  dsGetFPBrightness _ _ := .ok 0
  dsSetFPColor _ _ _ := (.ok (), ())
  dsGetFPColor _ _ := .ok 0
  dsSetFPDMode _ _ := (.ok (), ())
  indicatorPower := 1
  indicatorMax := 5
  brightnessMax := 100
  brightnessDefault := 80
  dsFPDColorIsValid _ := true
  blue := 0x0000FF
  green := 0x00FF00
  red := 0xFF0000
  yellow := 0xFFFFE0
  orange := 0xFF8C00
  labels := by decide

/-- A store file that is not there yet. -/
def PlainHal.store : LoadedStore := .ofStore (.ofStoreFile "/opt/ds/hostData") fun _ => .absent

/-- A process constructs its panel. -/
def PlainHal.constructed (store : LoadedStore) : FpdStep Unit :=
  let panel := Panel.ofProcess hal () store.reopened
  ⟨panel, .initialiseHAL, [], panel.initialiseHAL hal⟩

/-- A call on the panel. -/
def PlainHal.made (panel : Panel Unit) (call : FpdCall) : FpdStep Unit :=
  let called := panel.make hal call
  ⟨panel, .call call, called.2.2.map .effect ++ [.returned called.1], called.2.1⟩

/-- A brightness of 40 is saved; the next process switches the LED off and on again. -/
theorem shownBrightness_eq_restart :
    let constructed := PlainHal.constructed PlainHal.store
    let saving := PlainHal.made constructed.after (.setFPDBrightness 1 40 true)
    let restarted := PlainHal.constructed saving.after.store
    let off := PlainHal.made restarted.after (.setFPDState 1 .off)
    let on := PlainHal.made off.after (.setFPDState 1 .on)
    let last := ((lastOf (savedBrightness PlainHal.hal)
      ([constructed, saving] ++ [restarted, off])).map (defaulted PlainHal.hal)).getD
        (startupBrightness PlainHal.hal PlainHal.store)
    40 ∈ shownBrightness on ∧ defaulted PlainHal.hal 40 = last ∧
      (lastOf (savedBrightness PlainHal.hal) [restarted, off] = none → 40 = last) := by
  intro constructed saving restarted off on last
  have shown : 40 ∈ shownBrightness on := by decide +kernel
  have first : (frontPanel PlainHal.hal).Run (.ofProcess PlainHal.hal () PlainHal.store.reopened)
      [constructed, saving] saving.after := .snoc (.snoc .nil rfl) rfl
  have starts : (panelProcess PlainHal.hal).Starts PlainHal.store.reopened
      (.ofProcess PlainHal.hal () PlainHal.store.reopened) := ⟨(), rfl⟩
  have lives : (panelProcess PlainHal.hal).Lives PlainHal.store [constructed, saving]
      saving.after.store := .snoc .nil starts first
  have second : (frontPanel PlainHal.hal).Run
      (.ofProcess PlainHal.hal () saving.after.store.reopened) ([restarted, off] ++ [on])
      on.after := .snoc (.snoc (.snoc .nil rfl) rfl) rfl
  refine ⟨shown, shownBrightness_eq (LoadedStore.durable_of_no_file rfl) lives second ?_ shown⟩
  simp [constructed, saving, restarted, off, PlainHal.constructed, PlainHal.made,
    FpdAction.ReadsBack]

end DeviceSettings.FrontPanel
