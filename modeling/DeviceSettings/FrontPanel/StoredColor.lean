import DeviceSettings.FrontPanel.SavedBrightness
import DeviceSettings.Std.Bisimulation

/-!
# The stored colour of the power LED

`SetFPDColor` stores the colour of the power LED, and a startup reads it and the brightness of the
text display. Neither is ever told to the HAL or to a client.
-/

namespace DeviceSettings.FrontPanel

open DeviceSettings.Std
open DeviceSettings.Persistence

/-- Stores that bind the same, but for the colour and for the brightness of the text display. -/
def StoresAlike (one other : LoadedStore) : Prop :=
  ∀ key, key ≠ powerColorKey → key ≠ textBrightnessKey → one.find? key = other.find? key

theorem find?_persist_of_refused (store : LoadedStore) {key value : String}
    (refused : key = "" ∨ value = "") (wanted : String) :
    (store.persist key value).find? wanted = store.find? wanted := by
  simp only [LoadedStore.find?, LoadedStore.persist, HostPersistence.persistHostProperty,
    if_pos refused, HostPersistence.ensureInitialized_of_ready store.ready]

theorem StoresAlike.persist {one other : LoadedStore} (alike : StoresAlike one other)
    (key value : String) : StoresAlike (one.persist key value) (other.persist key value) := by
  intro wanted color text
  have same := alike wanted color text
  by_cases accepted : key ≠ "" ∧ value ≠ ""
  · rw [one.find?_persist accepted, other.find?_persist accepted, same]
  · have refused : key = "" ∨ value = "" := by tauto
    rw [find?_persist_of_refused one refused, find?_persist_of_refused other refused, same]

/-- What is persisted for one of the two makes no difference. -/
theorem StoresAlike.persist_ignored {one other : LoadedStore} (alike : StoresAlike one other)
    {key : String} (ignored : key = powerColorKey ∨ key = textBrightnessKey) (value : String) :
    StoresAlike (one.persist key value) other := by
  intro wanted color text
  have different : key ≠ wanted := by
    rintro rfl
    exact ignored.elim color text
  rw [one.find?_persist_of_ne different]
  exact alike wanted color text

theorem StoresAlike.symm {one other : LoadedStore} (alike : StoresAlike one other) :
    StoresAlike other one := fun key color text => (alike key color text).symm

namespace Panel

variable {σ : Type} {hal : FpdHal σ}

/-- Panels that differ at most in the colour of the power LED and in the brightness of the text
display. -/
structure SameButColor (one other : Panel σ) : Prop where
  hal : one.hal = other.hal
  isInitialized : one.isInitialized = other.isInitialized
  isPlatInitialized : one.isPlatInitialized = other.isPlatInitialized
  srvFPDSettings : one.srvFPDSettings = other.srvFPDSettings
  dsPowerBrightness : one.dsPowerBrightness = other.dsPowerBrightness
  store : StoresAlike one.store other.store

/-- Calls with the same result and the same effects. -/
structure CalledAlike {α : Type} (one other : Called σ α) : Prop where
  result : one.1 = other.1
  panel : SameButColor one.2.1 other.2.1
  effects : one.2.2 = other.2.2

variable {one other : Panel σ}

theorem SameButColor.readPersistence (same : SameButColor one other) :
    SameButColor (one.readPersistence hal) (other.readPersistence hal) := by
  have power : one.store.find? powerBrightnessKey = other.store.find? powerBrightnessKey :=
    same.store _ (by decide) (by decide)
  have powerEq : ∀ panel : Panel σ, readBrightness hal panel.store powerBrightnessKey = _ :=
    fun panel => readBrightness_eq hal panel.store (by decide)
  have behindPower : StoresAlike (readBrightness hal one.store powerBrightnessKey).2
      (readBrightness hal other.store powerBrightnessKey).2 := by
    rw [powerEq one, powerEq other, power]
    dsimp only
    split_ifs
    · exact same.store.persist _ _
    · exact same.store
  have behindText : ∀ left right : LoadedStore, StoresAlike left right →
      StoresAlike (readBrightness hal left textBrightnessKey).2 right := by
    intro left right alike
    rw [readBrightness_eq hal left (by decide)]
    dsimp only
    split_ifs
    · exact alike.persist_ignored (.inr rfl) _
    · exact alike
  refine ⟨same.hal, same.isInitialized, rfl, same.srvFPDSettings, ?_, ?_⟩
  · unfold Panel.readPersistence
    dsimp only
    rw [powerEq one, powerEq other, power]
  · exact (behindText _ _ (behindText _ _ behindPower).symm).symm

theorem SameButColor.withHal (same : SameButColor one other) (state : σ) :
    SameButColor { one with hal := state } { other with hal := state } :=
  ⟨rfl, same.isInitialized, same.isPlatInitialized, same.srvFPDSettings, same.dsPowerBrightness,
    same.store⟩

theorem SameButColor.setSettings (same : SameButColor one other) (indicator : Nat)
    (change : FpdSettings → FpdSettings) :
    SameButColor (one.setSettings indicator change) (other.setSettings indicator change) := by
  refine ⟨same.hal, same.isInitialized, same.isPlatInitialized, ?_, same.dsPowerBrightness,
    same.store⟩
  unfold Panel.setSettings
  dsimp only
  rw [same.srvFPDSettings]

variable (hal) in
theorem SameButColor.ensurePlatInit (same : SameButColor one other) :
    (one.ensurePlatInit hal).1 = (other.ensurePlatInit hal).1 ∧
      SameButColor (one.ensurePlatInit hal).2.1 (other.ensurePlatInit hal).2.1 ∧
        (one.ensurePlatInit hal).2.2 = (other.ensurePlatInit hal).2.2 := by
  have initialized := same.isPlatInitialized
  unfold Panel.ensurePlatInit
  by_cases done : other.isPlatInitialized = true
  · rw [if_pos done, if_pos (initialized.trans done)]
    exact ⟨rfl, same, rfl⟩
  · rw [if_neg done, if_neg (initialized ▸ done), same.hal]
    dsimp only
    split_ifs
    · exact ⟨rfl, (same.withHal _).readPersistence, rfl⟩
    · exact ⟨rfl, same.withHal _, rfl⟩

theorem SameButColor.behindPlatInit {α : Type} (same : SameButColor one other)
    {act act' : Panel σ → Called σ α}
    (acts : ∀ left right, SameButColor left right → CalledAlike (act left) (act' right)) :
    CalledAlike (one.behindPlatInit hal act) (other.behindPlatInit hal act') := by
  obtain ⟨done, readied, tries⟩ := same.ensurePlatInit hal
  unfold Panel.behindPlatInit
  dsimp only
  rw [done, tries]
  split_ifs
  · have both := acts _ _ readied
    refine ⟨both.result, both.panel, ?_⟩
    dsimp only
    rw [both.effects]
  · exact ⟨rfl, readied, tries⟩

theorem SameButColor.callBrightness (same : SameButColor one other) (indicator : Nat)
    (brightness : UInt32) {finish finish' : Panel σ → Panel σ}
    (finishes : ∀ left right, SameButColor left right →
      SameButColor (finish left) (finish' right)) :
    CalledAlike (one.callBrightness hal indicator brightness finish)
      (other.callBrightness hal indicator brightness finish') := by
  unfold Panel.callBrightness
  rw [same.hal]
  rcases hal.dsSetFPBrightness other.hal indicator brightness with ⟨_ | _, state⟩
  · exact ⟨rfl, same.withHal state, rfl⟩
  · exact ⟨rfl, finishes _ _ (same.withHal state), rfl⟩

theorem CalledAlike.answered {α : Type} {left right : Called σ α} (both : CalledAlike left right)
    (answer : α → FpdAnswer) :
    CalledAlike (Panel.answered left answer) (Panel.answered right answer) := by
  refine ⟨?_, both.panel, both.effects⟩
  unfold Panel.answered
  rw [both.result]

theorem calledAlike_nothing {α : Type} (same : SameButColor one other)
    (result : Except CoreError α) :
    CalledAlike (result, one, ([] : List FpdEffect)) (result, other, []) := ⟨rfl, same, rfl⟩

variable (hal) in
theorem SameButColor.make (same : SameButColor one other) (call : FpdCall) :
    CalledAlike (one.make hal call) (other.make hal call) := by
  cases call with
  | setFPDBrightness indicator brightNess persist =>
      refine (same.behindPlatInit fun left right alike => ?_).answered _
      by_cases valid : indicator < hal.indicatorMax ∧ brightNess ≤ hal.brightnessMax
      · rw [if_pos valid, if_pos valid]
        refine alike.callBrightness indicator brightNess fun left right alike => ?_
        have cached := alike.setSettings indicator fun settings =>
          { settings with brightness := brightNess }
        dsimp only
        split_ifs
        · exact ⟨cached.hal, cached.isInitialized, cached.isPlatInitialized, cached.srvFPDSettings,
            rfl, cached.store.persist _ _⟩
        · exact cached
      · rw [if_neg valid, if_neg valid]
        exact calledAlike_nothing alike _
  | getFPDBrightness indicator persist =>
      refine (same.behindPlatInit fun left right alike => ?_).answered _
      rw [alike.hal, alike.dsPowerBrightness]
      split_ifs <;> exact calledAlike_nothing alike _
  | setFPDState indicator state =>
      refine (same.behindPlatInit fun left right alike => ?_).answered _
      have cached : ∀ left right : Panel σ, SameButColor left right →
          SameButColor (left.setSettings indicator fun settings => { settings with state := state })
            (right.setSettings indicator fun settings => { settings with state := state }) :=
        fun left right alike => alike.setSettings indicator _
      by_cases valid : indicator < hal.indicatorMax
      · rw [if_pos valid, if_pos valid]
        cases state with
        | on =>
            dsimp only
            rw [alike.dsPowerBrightness]
            exact alike.callBrightness indicator _ cached
        | off => exact alike.callBrightness indicator 0 cached
        | other _ => exact calledAlike_nothing (cached _ _ alike) _
      · rw [if_neg valid, if_neg valid]
        exact calledAlike_nothing alike _
  | getFPDState indicator =>
      refine (same.behindPlatInit fun left right alike => ?_).answered _
      rw [alike.srvFPDSettings]
      split_ifs <;> exact calledAlike_nothing alike _
  | setFPDColor indicator color =>
      refine (same.behindPlatInit fun left right alike => ?_).answered _
      by_cases valid : indicator < hal.indicatorMax ∧ hal.dsFPDColorIsValid color = true
      · rw [if_pos valid, if_pos valid, alike.hal]
        rcases hal.dsSetFPColor right.hal indicator color with ⟨_ | _, state⟩
        · exact ⟨rfl, alike.withHal state, rfl⟩
        · have cached := (alike.withHal state).setSettings indicator fun settings =>
            { settings with color := maskedColor color }
          by_cases power : indicator = hal.indicatorPower
          · simp only [if_pos power]
            exact ⟨rfl, ⟨cached.hal, cached.isInitialized, cached.isPlatInitialized,
              cached.srvFPDSettings, cached.dsPowerBrightness, cached.store.persist _ _⟩, rfl⟩
          · simp only [if_neg power]
            exact ⟨rfl, cached, rfl⟩
      · rw [if_neg valid, if_neg valid]
        exact calledAlike_nothing alike _
  | getFPDColor indicator =>
      refine (same.behindPlatInit fun left right alike => ?_).answered _
      rw [alike.hal, alike.srvFPDSettings]
      split_ifs
      · rcases hal.dsGetFPColor right.hal indicator with _ | halColor
        · exact calledAlike_nothing alike _
        · exact calledAlike_nothing (alike.setSettings indicator _) _
      · exact calledAlike_nothing alike _
  | setFPDMode mode =>
      refine CalledAlike.answered ?_ _
      unfold setFPDMode
      rw [same.hal]
      rcases hal.dsSetFPDMode other.hal mode with ⟨_ | _, state⟩
      · exact ⟨rfl, same.withHal state, rfl⟩
      · exact ⟨rfl, same.withHal state, rfl⟩

/-- Every action keeps the panels alike. -/
theorem alike_sameButColor : (frontPanel hal).Alike SameButColor := by
  intro one other action same
  have initialized := same.isInitialized
  cases action with
  | initialiseHAL =>
      simp only [frontPanel, Panel.step]
      by_cases present : other.isInitialized = true
      · rw [if_pos present, if_pos (initialized.trans present)]
        exact .none
      · rw [if_neg present, if_neg (initialized ▸ present)]
        unfold initialiseHAL
        rw [if_neg present, if_neg (initialized ▸ present)]
        refine .some ⟨⟨same.hal, rfl, same.isPlatInitialized, ?_, same.dsPowerBrightness,
          same.store⟩, rfl⟩
        dsimp only
        rw [same.srvFPDSettings]
  | deInitialiseHAL =>
      simp only [frontPanel, Panel.step]
      by_cases present : other.isInitialized = true
      · rw [if_pos present, if_pos (initialized.trans present)]
        have opened := same.isPlatInitialized
        unfold deInitialiseHAL
        by_cases done : other.isPlatInitialized = true
        · rw [if_pos done, if_pos (opened.trans done), same.hal]
          exact .some ⟨⟨rfl, rfl, rfl, same.srvFPDSettings, same.dsPowerBrightness, same.store⟩,
            rfl⟩
        · rw [if_neg done, if_neg (opened ▸ done)]
          exact .some ⟨⟨same.hal, rfl, opened, same.srvFPDSettings, same.dsPowerBrightness,
            same.store⟩, rfl⟩
      · rw [if_neg present, if_neg (initialized ▸ present)]
        exact .none
  | call call =>
      simp only [frontPanel, Panel.step]
      by_cases present : other.isInitialized = true
      · rw [if_pos present, if_pos (initialized.trans present)]
        have both := same.make hal call
        refine .some ⟨both.panel, ?_⟩
        dsimp only
        rw [both.effects, both.result]
      · rw [if_neg present, if_neg (initialized ▸ present)]
        exact .none
  | otherProperty key value =>
      simp only [frontPanel, Panel.step]
      split_ifs
      · exact .none
      · exact .some ⟨⟨same.hal, initialized, same.isPlatInitialized, same.srvFPDSettings,
          same.dsPowerBrightness, same.store.persist key value⟩, rfl⟩

end Panel

/-- Whatever colour of the power LED and whatever brightness of the text display a process finds
in the store, it asks the same of the HAL and answers the same: the stored colour is lost with the
process that has told it to the HAL. -/
theorem shows_eq_of_storesAlike {σ : Type} (hal : FpdHal σ) (state : σ) {one other : LoadedStore}
    (alike : StoresAlike one other) (actions : List FpdAction) :
    (frontPanel hal).shows (.ofProcess hal state one) actions =
      (frontPanel hal).shows (.ofProcess hal state other) actions := by
  have start : Panel.SameButColor (.ofProcess hal state one) (.ofProcess hal state other) :=
    ⟨rfl, rfl, rfl, rfl, rfl, alike⟩
  exact Panel.alike_sameButColor.shows_eq start actions

/-- A red LED is stored, and the next process shows what it would show without. -/
theorem shows_eq_of_storesAlike_red :
    (frontPanel PlainHal.hal).shows
        (.ofProcess PlainHal.hal () (PlainHal.store.persist powerColorKey "RED"))
        [.initialiseHAL, .call (.setFPDState 1 .on), .call (.getFPDColor 1)] =
      (frontPanel PlainHal.hal).shows (.ofProcess PlainHal.hal () PlainHal.store)
        [.initialiseHAL, .call (.setFPDState 1 .on), .call (.getFPDColor 1)] :=
  shows_eq_of_storesAlike PlainHal.hal ()
    (StoresAlike.persist_ignored (fun _ _ _ => rfl) (.inl rfl) "RED") _

end DeviceSettings.FrontPanel
