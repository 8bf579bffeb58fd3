import DeviceSettings.Audio.ProfileValues

/-!
# The plugin as a profile sees it

A HAL that stores what it is told holds the numbers of a profile, and the store holds their
properties. The operations on profiles do to both what `ProfileValues` says.
-/

namespace DeviceSettings.Audio

open DeviceSettings.Std
open DeviceSettings.Persistence

attribute [local irreducible] atoi

/-! ### The numbers in the HAL -/

/-- The last call about each setting of each handle. -/
abbrev Ms12Held := Int → Ms12Setting → Option DsMs12Call

def Ms12Held.after (memory : Ms12Held) (handle : Int) (call : DsMs12Call) : Ms12Held :=
  fun other setting =>
    if other = handle then (call.about setting).or (memory other setting)
    else memory other setting

/-- The calls that tell the numbers of a profile. -/
def ProfileField.heldCall (numbers : ProfileField → Int) : Ms12Setting → Option DsMs12Call
  | .dialogEnhancement => some (.dsSetDialogEnhancement (numbers .enhancerLevel))
  | .bassEnhancer => some (.dsSetBassEnhancer (numbers .bassBoost))
  | .volumeLeveller =>
    some (.dsSetVolumeLeveller (numbers .volumeMode) (numbers .volumeLevel))
  | .surroundVirtualizer =>
    some (.dsSetSurroundVirtualizer (numbers .virtualizerMode) (numbers .virtualizerBoost))
  | _ => none

/-- The memory in which a handle has these numbers. -/
def Ms12Held.holding (memory : Ms12Held) (handle : Int) (numbers : ProfileField → Int) :
    Ms12Held :=
  fun other setting =>
    if other = handle then (ProfileField.heldCall numbers setting).or (memory other setting)
    else memory other setting

namespace Ms12Held

variable (memory : Ms12Held) (handle : Int) (numbers : ProfileField → Int)

theorem after_all :
    ((((memory.after handle (.dsSetDialogEnhancement (numbers .enhancerLevel))).after handle
      (.dsSetBassEnhancer (numbers .bassBoost))).after handle
      (.dsSetVolumeLeveller (numbers .volumeMode) (numbers .volumeLevel))).after handle
      (.dsSetSurroundVirtualizer (numbers .virtualizerMode) (numbers .virtualizerBoost))) =
      memory.holding handle numbers := by
  funext other setting
  by_cases mine : other = handle
  · cases setting <;> simp [after, holding, mine, DsMs12Call.about, DsMs12Call.setting,
      ProfileField.heldCall]
  · simp [after, holding, mine]

theorem holding_after {call : DsMs12Call} {changed : ProfileField → Int}
    (told : ∀ setting, (call.about setting).or (ProfileField.heldCall numbers setting) =
      ProfileField.heldCall changed setting) :
    (memory.holding handle numbers).after handle call = memory.holding handle changed := by
  funext other setting
  by_cases mine : other = handle
  · simp only [after, holding, mine, if_true]
    rw [← Option.or_assoc, told]
  · simp [after, holding, mine]

theorem holding_inj {left right : ProfileField → Int} :
    memory.holding handle left = memory.holding handle right ↔ left = right := by
  constructor
  · intro same
    have heldSame : ∀ setting, (ProfileField.heldCall left setting).or (memory handle setting) =
        (ProfileField.heldCall right setting).or (memory handle setting) := by
      intro setting
      have here := congrFun (congrFun same handle) setting
      simpa only [holding, if_true] using here
    have dialog := heldSame .dialogEnhancement
    have bass := heldSame .bassEnhancer
    have volume := heldSame .volumeLeveller
    have virtualizer := heldSame .surroundVirtualizer
    simp only [ProfileField.heldCall, Option.some_or, Option.some.injEq,
      DsMs12Call.dsSetDialogEnhancement.injEq, DsMs12Call.dsSetBassEnhancer.injEq,
      DsMs12Call.dsSetVolumeLeveller.injEq, DsMs12Call.dsSetSurroundVirtualizer.injEq]
      at dialog bass volume virtualizer
    funext field
    cases field with
    | enhancerLevel => exact dialog
    | bassBoost => exact bass
    | volumeMode => exact volume.1
    | volumeLevel => exact volume.2
    | virtualizerMode => exact virtualizer.1
    | virtualizerBoost => exact virtualizer.2
  · rintro rfl
    rfl

end Ms12Held

/-! ### The plugin, seen through one profile -/

/-- The plugin is up; what it knows about a profile, and what the HAL has. -/
structure ProfileView {σ : Type} (held : σ → Ms12Held) (profile : String) (defaults : Properties)
    (active : Option String) (memory : Ms12Held) (stored : ProfileField → String)
    (plugin : Plugin σ) : Prop extends plugin.Up where
  memory : held plugin.hal = memory
  defaults : plugin.store.defaultProperties = defaults
  active : plugin.store.properties.find? "audio.MS12Profile" = active
  stored : ∀ field : ProfileField,
    plugin.store.properties.find? (field.key profile) = some (stored field)

section View

variable {σ : Type} {held : σ → Ms12Held} {profile : String} {defaults : Properties}
  {active : Option String} {memory : Ms12Held} {stored : ProfileField → String}
  {plugin : Plugin σ}

/-- A property of the profile is written, or keeps its value where the text is empty. -/
theorem ProfileView.persist
    (view : ProfileView held profile defaults active memory stored plugin) (field : ProfileField)
    (text : String) :
    ((plugin.persistProperty (field.key profile) text).1 = .ok () ↔ text ≠ "") ∧
      ProfileView held profile defaults active memory
        (Function.update stored field (afterWrite (stored field) text))
        (plugin.persistProperty (field.key profile) text).2 := by
  by_cases refused : text = ""
  · subst refused
    rw [Plugin.persistProperty_refused view.toUp, afterWrite, if_pos rfl, Function.update_eq_self]
    exact ⟨by simp, view⟩
  · obtain ⟨answer, up, sameHal, store⟩ :=
      Plugin.persistProperty_of_up view.toUp (And.intro (ProfileField.key_ne field) refused)
    refine ⟨by simp [answer, refused], up, ?_, ?_, ?_, fun other => ?_⟩
    · rw [sameHal, view.memory]
    · rw [store, view.defaults]
    · rw [store, OrderedMap.find?_set, if_neg (ProfileField.key_ne_profile field), view.active]
    · rw [store, OrderedMap.find?_set, afterWrite, if_neg refused]
      by_cases same : field = other
      · subst same
        rw [if_pos rfl, Function.update_self]
      · rw [if_neg fun keys => same (ProfileField.key_injective profile keys), view.stored,
          Function.update_of_ne (Ne.symm same)]

/-- The HAL moves on by itself. -/
theorem ProfileView.withHal
    (view : ProfileView held profile defaults active memory stored plugin) (state : σ) :
    ProfileView held profile defaults active (held state) stored { plugin with hal := state } :=
  ⟨⟨view.initialized, view.ready⟩, rfl, view.defaults, view.active, view.stored⟩

theorem ProfileView.persistPair (values : ProfileValues)
    (view : ProfileView held profile defaults active memory values.stored plugin)
    (mode level : ProfileField) (modeText levelText : String) :
    ProfileView held profile defaults active memory
      (values.writePair mode level modeText levelText).stored
      (plugin.persistProperties
        [(mode.key profile, modeText), (level.key profile, levelText)]).2 := by
  obtain ⟨answer, next⟩ := view.persist mode modeText
  rw [Plugin.persistProperties, ProfileValues.writePair]
  generalize plugin.persistProperty (mode.key profile) modeText = first at answer next
  obtain ⟨outcome, plugin'⟩ := first
  cases outcome with
  | error error =>
      have refused : modeText = "" := by
        by_contra named
        exact absurd (answer.mpr named) (by simp)
      rw [afterWrite, if_pos refused, Function.update_eq_self] at next
      rw [if_pos refused]
      exact next
  | ok _ =>
      have named : modeText ≠ "" := answer.mp rfl
      rw [if_neg named]
      dsimp only
      rw [← Plugin.persistProperty_eq]
      exact (ProfileView.persist next level levelText).2

/-- The properties of the current profile are those of the active one. -/
theorem ProfileView.currentProperty
    (view : ProfileView held profile defaults (some profile) memory stored plugin)
    (property : String) :
    plugin.getCurrentProfileProperty property =
      (generateProfileProperty profile property, plugin) := by
  rw [Plugin.getCurrentProfileProperty_of_ready view.ready, view.active]
  rfl

section Hal

variable {hal : Ms12ProfileHal σ} (stores : hal.toMs12Hal.Stores held)

include stores

theorem tellMs12_eq (handle : Int) (call : DsMs12Call)
    (persist : Plugin σ → Except CoreError Unit × Plugin σ) :
    plugin.tellMs12 hal handle call persist =
      persist { plugin with hal := (hal.call plugin.hal handle call).2 } := by
  have succeeds := stores.succeeds plugin.hal handle call
  unfold Plugin.tellMs12
  generalize hal.call plugin.hal handle call = result at succeeds
  obtain ⟨answer, state⟩ := result
  dsimp only at succeeds
  subst succeeds
  rfl

theorem ProfileView.tell (view : ProfileView held profile defaults active memory stored plugin)
    (handle : Int) (call : DsMs12Call) :
    ProfileView held profile defaults active (memory.after handle call) stored
      { plugin with hal := (hal.call plugin.hal handle call).2 } := by
  have told : held (hal.call plugin.hal handle call).2 = memory.after handle call := by
    funext other setting
    rw [stores.stores, view.memory]
    rfl
  rw [← told]
  exact view.withHal _

theorem ProfileView.applySingle
    (view : ProfileView held profile defaults active memory stored plugin) (handle : Int)
    (setting : Ms12Setting) (call : Int → DsMs12Call) (field : ProfileField) :
    ProfileView held profile defaults active (memory.after handle (call (atoi (stored field))))
      (Function.update stored field (reprinted (stored field)))
      (plugin.applySingle hal handle setting call (field.key profile)) := by
  have found : plugin.store.getProperty plugin.files (field.key profile) =
      (.ok (stored field), plugin.store) := by
    simp [HostPersistence.getProperty, HostPersistence.ensureInitialized_of_ready view.ready,
      ProfileField.key_ne field, view.stored field]
  have next := ((view.tell stores handle (call (atoi (stored field)))).persist field
    (reprinted (stored field))).2
  rw [afterWrite, if_neg (reprinted_ne (stored field))] at next
  rw [Plugin.applySingle, if_neg (by simp [stores.resolves]), found]
  dsimp only
  rw [tellMs12_eq stores]
  exact next

theorem ProfileView.applyPair
    (view : ProfileView held profile defaults active memory stored plugin) (handle : Int)
    (setting : Ms12Setting) (call : Int → Int → DsMs12Call) {mode level : ProfileField}
    (different : mode ≠ level) :
    ProfileView held profile defaults active
      (memory.after handle (call (atoi (stored mode)) (atoi (stored level))))
      (Function.update (Function.update stored mode (reprinted (stored mode))) level
        (reprinted (stored level)))
      (plugin.applyPair hal handle setting call (mode.key profile) (level.key profile)) := by
  have found : ∀ field : ProfileField,
      plugin.store.getProperty plugin.files (field.key profile) =
        (.ok (stored field), plugin.store) := by
    intro field
    simp [HostPersistence.getProperty, HostPersistence.ensureInitialized_of_ready view.ready,
      ProfileField.key_ne field, view.stored field]
  have next := ProfileView.persistPair ⟨fun _ => 0, stored⟩
    (view.tell stores handle (call (atoi (stored mode)) (atoi (stored level)))) mode level
    (reprinted (stored mode)) (reprinted (stored level))
  rw [ProfileValues.writePair, if_neg (reprinted_ne (stored mode))] at next
  simp only [ProfileValues.write_stored, afterWrite, reprinted_ne, if_false,
    Function.update_of_ne different.symm] at next
  rw [Plugin.applyPair, if_neg (by simp [stores.resolves]), found]
  dsimp only
  rw [found]
  dsimp only
  rw [tellMs12_eq stores]
  exact next

/-- Choosing an active profile: its numbers are told and written back. -/
theorem ProfileView.apply
    (view : ProfileView held profile defaults (some profile) memory stored plugin) (handle : Int) :
    ProfileView held profile defaults (some profile)
      (memory.holding handle (ProfileValues.chosen stored).told)
      (ProfileValues.chosen stored).stored
      (plugin.applyMS12ProfileSettingsOverride hal handle) := by
  have applied := (((view.applySingle stores handle .dialogEnhancement .dsSetDialogEnhancement
    .enhancerLevel).applySingle stores handle .bassEnhancer .dsSetBassEnhancer
    .bassBoost).applyPair stores handle .volumeLeveller .dsSetVolumeLeveller
    (show ProfileField.volumeMode ≠ .volumeLevel by decide)).applyPair stores handle
    .surroundVirtualizer .dsSetSurroundVirtualizer
    (show ProfileField.virtualizerMode ≠ .virtualizerBoost by decide)
  have told := Ms12Held.after_all memory handle (ProfileValues.chosen stored).told
  have written : Function.update (Function.update (Function.update (Function.update
      (Function.update (Function.update stored .enhancerLevel (reprinted (stored .enhancerLevel)))
        .bassBoost (reprinted (stored .bassBoost)))
        .volumeMode (reprinted (stored .volumeMode)))
        .volumeLevel (reprinted (stored .volumeLevel)))
        .virtualizerMode (reprinted (stored .virtualizerMode)))
        .virtualizerBoost (reprinted (stored .virtualizerBoost)) =
      (ProfileValues.chosen stored).stored := by
    funext field
    cases field <;> simp
  simp only [ProfileValues.chosen_told] at told
  simp only [Function.update_apply, reduceCtorEq, if_false, told, written] at applied
  simp only [Plugin.applyMS12ProfileSettingsOverride, view.currentProperty]
  exact applied

/-- A profile that can be active is chosen: whatever the HAL makes of the choice itself, the
numbers of the profile come after it. -/
theorem ProfileView.choose
    (view : ProfileView held profile defaults active memory stored plugin) (handle : Int)
    (accepted : (hal.dsSetMS12AudioProfile plugin.hal handle profile).1 = .ok ())
    (named : profile ≠ "") (on : profile ≠ "Off") :
    ProfileView held profile defaults (some profile)
      ((held (hal.dsSetMS12AudioProfile plugin.hal handle profile).2 : Ms12Held).holding handle
        (ProfileValues.chosen stored).told)
      (ProfileValues.chosen stored).stored
      (plugin.setAudioMS12Profile hal handle profile).2 := by
  rw [Plugin.setAudioMS12Profile, Plugin.guardInitialized, if_neg (by simp [view.initialized])]
  generalize hal.dsSetMS12AudioProfile plugin.hal handle profile = result at accepted
  obtain ⟨answer, state⟩ := result
  dsimp only at accepted ⊢
  subst accepted
  dsimp only
  have up : Plugin.Up { plugin with hal := state } := ⟨view.initialized, view.ready⟩
  obtain ⟨answer, up', sameHal, store⟩ := Plugin.persistProperty_of_up up
    (And.intro (show "audio.MS12Profile" ≠ "" by decide) named)
  have current : ProfileView held profile defaults (some profile) (held state) stored
      (Plugin.persistProperty { plugin with hal := state } "audio.MS12Profile" profile).2 := by
    refine ⟨up', congrArg held sameHal, ?_, ?_, fun field => ?_⟩
    · rw [store, view.defaults]
    · rw [store, OrderedMap.find?_set, if_pos rfl]
    · rw [store, OrderedMap.find?_set, if_neg (ProfileField.key_ne_profile field).symm,
        view.stored]
  generalize Plugin.persistProperty { plugin with hal := state } "audio.MS12Profile" profile =
    persisted at answer current
  obtain ⟨outcome, plugin'⟩ := persisted
  dsimp only at answer current
  subst answer
  dsimp only
  rw [if_pos on]
  exact current.apply stores handle

omit stores in
/-- The empty name is refused by the store, so such a profile is never active. -/
theorem ProfileView.choose_nameless
    (view : ProfileView held profile defaults active memory stored plugin) (handle : Int)
    (accepted : (hal.dsSetMS12AudioProfile plugin.hal handle profile).1 = .ok ())
    (nameless : profile = "") :
    (plugin.setAudioMS12Profile hal handle profile).2 =
      { plugin with hal := (hal.dsSetMS12AudioProfile plugin.hal handle profile).2 } := by
  rw [Plugin.setAudioMS12Profile, Plugin.guardInitialized, if_neg (by simp [view.initialized])]
  generalize hal.dsSetMS12AudioProfile plugin.hal handle profile = result at accepted
  obtain ⟨answer, state⟩ := result
  dsimp only at accepted ⊢
  subst accepted nameless
  have up : Plugin.Up { plugin with hal := state } := ⟨view.initialized, view.ready⟩
  dsimp only
  rw [Plugin.persistProperty_refused up]

/-! ### The override of another profile -/

omit stores in
theorem ProfileView.defaultOrZero
    (view : ProfileView held profile defaults active memory stored plugin) {key : String}
    (named : key ≠ "") : plugin.defaultOrZero key = (defaultOr defaults key, plugin) := by
  rw [Plugin.defaultOrZero_of_ready view.ready named, view.defaults]

variable (hal) in
omit stores in
/-- The profile is not active: its property is written, and the HAL is not told. -/
theorem ProfileView.overrideLater
    (view : ProfileView held profile defaults active memory stored plugin) (handle : Int)
    (other : storedValue plugin.store "audio.MS12Profile" "Off" ≠ profile) (field : ProfileField)
    (state : OverrideState) (value : String) :
    let after := (plugin.setAudioMS12SettingsOverride hal handle profile field.settingsName value
      state.text).2
    after.hal = plugin.hal ∧
      ProfileView held profile defaults active memory
        (ProfileValues.overriddenLater (defaultOr defaults) profile state value stored field)
        after := by
  have accepted : overrideProperty profile field.settingsName = some (field.key profile) :=
    ProfileField.overrideProperty_eq_some_iff.mpr ⟨field, rfl, rfl⟩
  have inactive : plugin.setAudioMS12SettingsOverride hal handle profile field.settingsName value
      state.text = plugin.overrideInactive profile field.settingsName value state.text := by
    rw [Plugin.setAudioMS12SettingsOverride, Plugin.guardInitialized,
      if_neg (by simp [view.initialized]),
      Plugin.readProperty_of_ready view.ready (by decide : "audio.MS12Profile" ≠ "")]
    exact if_neg (Ne.symm other)
  have writes : plugin.overrideInactive profile field.settingsName value state.text =
      plugin.persistProperty (field.key profile)
        (state.choose value (defaultOr defaults (field.key profile))) := by
    rw [Plugin.overrideInactive, accepted]
    cases state with
    | add => exact if_pos rfl
    | remove =>
        simp [OverrideState.text, view.defaultOrZero (ProfileField.key_ne field),
          OverrideState.choose]
  rw [inactive, writes]
  exact ⟨Plugin.persistProperty_hal plugin _ _, (view.persist field _).2⟩

/-! ### The override of the active profile -/

variable {base : Ms12Held} {handle : Int} {values : ProfileValues}

/-- A setting with one number. -/
theorem ProfileView.overrideSingle
    (view : ProfileView held profile defaults (some profile) (base.holding handle values.told)
      values.stored plugin)
    {setting : Ms12Setting} {call : Int → DsMs12Call} (field : ProfileField)
    (telling : ∀ number, (base.holding handle values.told).after handle (call number) =
      base.holding handle (Function.update values.told field number))
    {added removed : Plugin σ → String × Plugin σ} {restored : String → String}
    (addedKey : ∀ state, added { plugin with hal := state } =
      (field.key profile, { plugin with hal := state }))
    (removedKey : removed plugin = (generateProfileProperty profile field.property, plugin))
    (restoredKey : restored (generateProfileProperty profile field.property) = field.key profile)
    (state : OverrideState) (value : String) :
    ProfileView held profile defaults (some profile)
      (base.holding handle
        (values.overriddenSingle (defaultOr defaults) profile state value field).told)
      (values.overriddenSingle (defaultOr defaults) profile state value field).stored
      (plugin.overrideSingle hal handle setting call added removed restored value state.text).2 := by
  have named : generateProfileProperty profile field.property ≠ "" := by
    intro empty
    have lengths := ProfileField.length_generateProfileProperty profile field.property
    rw [empty] at lengths
    have none : "".length = 0 := rfl
    omega
  have next : ∀ text, ProfileView held profile defaults (some profile)
      (base.holding handle (Function.update values.told field (atoi text)))
      (Function.update values.stored field (afterWrite (values.stored field) text))
      (Plugin.persistProperty
        { plugin with hal := (hal.call plugin.hal handle (call (atoi text))).2 }
        (field.key profile) text).2 := by
    intro text
    rw [← telling]
    exact ((view.tell stores handle (call (atoi text))).persist field text).2
  rw [Plugin.overrideSingle, if_neg (by simp [stores.resolves])]
  cases state with
  | add =>
      rw [if_pos (show OverrideState.add.text = "ADD" from rfl), tellMs12_eq stores, addedKey]
      exact next value
  | remove =>
      rw [if_neg (show ¬OverrideState.remove.text = "ADD" by decide),
        if_pos (show OverrideState.remove.text = "REMOVE" from rfl), removedKey]
      dsimp only
      rw [view.defaultOrZero named]
      dsimp only
      rw [tellMs12_eq stores, restoredKey]
      exact next _

omit stores in
/-- A mode: the HAL is not told. -/
theorem ProfileView.overrideMode
    (view : ProfileView held profile defaults (some profile) (base.holding handle values.told)
      values.stored plugin)
    (field : ProfileField) (own : field ≠ .bassBoost) (inRange : Int → Bool) (value : String) :
    ProfileView held profile defaults (some profile)
      (base.holding handle (values.overriddenMode value field inRange).told)
      (values.overriddenMode value field inRange).stored
      (plugin.overrideMode inRange field.property value).2 := by
  rw [Plugin.overrideMode, ProfileValues.overriddenMode]
  by_cases accepted : inRange (atoi value) = true
  · have key : generateProfileProperty profile field.property = field.key profile :=
      (if_neg own).symm
    rw [if_pos accepted, if_pos accepted, view.currentProperty, key]
    exact (view.persist field value).2
  · rw [if_neg accepted, if_neg accepted]
    exact view

/-- A level: its mode is told with it. -/
theorem ProfileView.overrideLevel
    (view : ProfileView held profile defaults (some profile) (base.holding handle values.told)
      values.stored plugin)
    {setting : Ms12Setting} {call : Int → Int → DsMs12Call} (mode level : ProfileField)
    (ownMode : mode ≠ .bassBoost) (ownLevel : level ≠ .bassBoost)
    (telling : ∀ modeNumber levelNumber,
      (base.holding handle values.told).after handle (call modeNumber levelNumber) =
        base.holding handle
          (Function.update (Function.update values.told mode modeNumber) level levelNumber))
    (state : OverrideState) (value : String) :
    ProfileView held profile defaults (some profile)
      (base.holding handle
        (values.overriddenLevel (defaultOr defaults) profile state value mode level).told)
      (values.overriddenLevel (defaultOr defaults) profile state value mode level).stored
      (plugin.overrideLevel hal handle setting call mode.property level.property value
        state.text).2 := by
  have modeKey : generateProfileProperty profile mode.property = mode.key profile :=
    (if_neg ownMode).symm
  have levelKey : generateProfileProperty profile level.property = level.key profile :=
    (if_neg ownLevel).symm
  have storedMode : plugin.storedNumber (mode.key profile) =
      (atoi (values.stored mode), plugin) := by
    simp [Plugin.storedNumber, HostPersistence.getProperty, ProfileField.key_ne,
      HostPersistence.ensureInitialized_of_ready view.ready, view.stored mode]
  rw [Plugin.overrideLevel, if_neg (by simp [stores.resolves])]
  simp only [view.currentProperty, modeKey, levelKey]
  cases state with
  | add =>
      have told := view.tell stores handle (call (atoi (values.stored mode)) (atoi value))
      rw [telling] at told
      rw [if_pos (show OverrideState.add.text = "ADD" from rfl), storedMode]
      dsimp only
      rw [tellMs12_eq stores]
      simp only [told.currentProperty, levelKey]
      exact (told.persist level value).2
  | remove =>
      have told := view.tell stores handle (call (atoi (defaultOr defaults (mode.key profile)))
        (atoi (defaultOr defaults (level.key profile))))
      rw [telling] at told
      rw [if_neg (show ¬OverrideState.remove.text = "ADD" by decide),
        if_pos (show OverrideState.remove.text = "REMOVE" from rfl)]
      simp only [view.defaultOrZero (ProfileField.key_ne _)]
      rw [tellMs12_eq stores]
      simp only [ProfileValues.overriddenLevel, ProfileValues.writePair_told]
      exact ProfileView.persistPair ((values.tell mode _).tell level _) told mode level _ _

theorem ProfileView.overrideNow
    (view : ProfileView held profile defaults (some profile) (base.holding handle values.told)
      values.stored plugin) (state : OverrideState) (value : String) (field : ProfileField) :
    ProfileView held profile defaults (some profile)
      (base.holding handle
        (values.overridden (defaultOr defaults) profile state value field).told)
      (values.overridden (defaultOr defaults) profile state value field).stored
      (plugin.setAudioMS12SettingsOverride hal handle profile field.settingsName value
        state.text).2 := by
  have current : storedValue plugin.store "audio.MS12Profile" "Off" = profile := by
    rw [storedValue, view.active, Option.some_or, Option.getD_some]
  have active : plugin.setAudioMS12SettingsOverride hal handle profile field.settingsName value
      state.text = plugin.overrideActive hal handle field.settingsName value state.text := by
    rw [Plugin.setAudioMS12SettingsOverride, Plugin.guardInitialized,
      if_neg (by simp [view.initialized]),
      Plugin.readProperty_of_ready view.ready (by decide : "audio.MS12Profile" ≠ "")]
    exact if_pos current.symm
  have currentProperty : ∀ (state : σ) (property : String),
      Plugin.getCurrentProfileProperty { plugin with hal := state } property =
        (generateProfileProperty profile property, { plugin with hal := state }) :=
    fun state property => (view.withHal state).currentProperty property
  rw [active]
  cases field <;>
    simp only [Plugin.overrideActive, ProfileField.settingsName, String.reduceEq, if_true,
      if_false]
  case enhancerLevel =>
      refine view.overrideSingle stores .enhancerLevel (fun number => ?_)
        (fun state => currentProperty state _) (view.currentProperty _) rfl state value
      apply Ms12Held.holding_after
      intro setting
      cases setting <;> simp [DsMs12Call.about, DsMs12Call.setting, ProfileField.heldCall]
  case bassBoost =>
      refine view.overrideSingle stores .bassBoost (fun number => ?_) (fun state => rfl)
        (view.currentProperty _) rfl state value
      apply Ms12Held.holding_after
      intro setting
      cases setting <;> simp [DsMs12Call.about, DsMs12Call.setting, ProfileField.heldCall]
  case volumeMode => exact view.overrideMode .volumeMode (by decide) _ value
  case volumeLevel =>
      refine view.overrideLevel stores .volumeMode .volumeLevel (by decide) (by decide)
        (fun modeNumber levelNumber => ?_) state value
      apply Ms12Held.holding_after
      intro setting
      cases setting <;> simp [DsMs12Call.about, DsMs12Call.setting, ProfileField.heldCall]
  case virtualizerMode => exact view.overrideMode .virtualizerMode (by decide) _ value
  case virtualizerBoost =>
      refine view.overrideLevel stores .virtualizerMode .virtualizerBoost (by decide) (by decide)
        (fun modeNumber levelNumber => ?_) state value
      apply Ms12Held.holding_after
      intro setting
      cases setting <;> simp [DsMs12Call.about, DsMs12Call.setting, ProfileField.heldCall]

end Hal

end View
end DeviceSettings.Audio
