import DeviceSettings.Audio.ProfileFields

/-!
# Overrides of one MS12 profile and the numbers of another

While a profile is active, overrides of other profiles only write properties. All of these belong
to the other profile but one: the bass boost has a single property, so the next choice of the
active profile applies what was meant for the other one.
-/

namespace DeviceSettings.Audio

open DeviceSettings.Std
open DeviceSettings.Persistence

attribute [local irreducible] atoi

variable {σ : Type}

/-- The calls a HAL got, each with its handle. -/
abbrev CallLog := List (Int × DsMs12Call)

/-- The HAL with a log of the settings it is told, whether it takes them or not. -/
def Ms12ProfileHal.recorded (hal : Ms12ProfileHal σ) : Ms12ProfileHal (σ × CallLog) where
  dsGetAudioPort state := hal.dsGetAudioPort state.1
  dsIsAudioPortEnabled state := hal.dsIsAudioPortEnabled state.1
  dsIsAudioMute state := hal.dsIsAudioMute state.1
  dsEnableAudioPort state handle enable :=
    let result := hal.dsEnableAudioPort state.1 handle enable
    (result.1, result.2, state.2)
  dsSetAudioLevel state handle level :=
    let result := hal.dsSetAudioLevel state.1 handle level
    (result.1, result.2, state.2)
  dsSetAudioDelay state handle delay :=
    let result := hal.dsSetAudioDelay state.1 handle delay
    (result.1, result.2, state.2)
  resolves := hal.resolves
  call state handle call :=
    let result := hal.call state.1 handle call
    (result.1, result.2, state.2 ++ [(handle, call)])
  dsSetMS12AudioProfile state handle profile :=
    let result := hal.dsSetMS12AudioProfile state.1 handle profile
    (result.1, result.2, state.2)

/-- The plugin on that HAL, with nothing recorded yet. -/
abbrev Plugin.recordingFrom (plugin : Plugin σ) (state : σ) : Plugin (σ × CallLog) :=
  ⟨(state, []), plugin.audio, plugin.store, plugin.files⟩

/-- What `SetAudioMS12Profile` applies to the HAL. -/
def Plugin.appliedBy (hal : Ms12ProfileHal σ) (plugin : Plugin σ) (handle : Int)
    (profile : String) : CallLog :=
  ((plugin.recordingFrom plugin.hal).setAudioMS12Profile hal.recorded handle profile).2.hal.2

/-! ### The calls of a profile -/

/-- The number a property holds, where it is stored. -/
def numberAt (store : HostPersistence) (profile : String) (field : ProfileField) : Option Int :=
  (store.properties.find? (field.key profile)).map atoi

section Calls

variable (resolves : Ms12Setting → Bool) (numbers : ProfileField → Option Int)

def singleCalls (setting : Ms12Setting) (call : Int → DsMs12Call) (field : ProfileField) :
    List DsMs12Call :=
  if resolves setting = false then [] else ((numbers field).map call).toList

def pairCalls (setting : Ms12Setting) (call : Int → Int → DsMs12Call)
    (first second : ProfileField) : List DsMs12Call :=
  if resolves setting = false then []
  else ((numbers first).bind fun left => (numbers second).map (call left)).toList

/-- What choosing a profile tells the HAL. -/
def profileCalls : List DsMs12Call :=
  singleCalls resolves numbers .dialogEnhancement .dsSetDialogEnhancement .enhancerLevel ++
  singleCalls resolves numbers .bassEnhancer .dsSetBassEnhancer .bassBoost ++
  pairCalls resolves numbers .volumeLeveller .dsSetVolumeLeveller .volumeMode .volumeLevel ++
  pairCalls resolves numbers .surroundVirtualizer .dsSetSurroundVirtualizer .virtualizerMode
    .virtualizerBoost

end Calls

/-- From one plugin to another only these calls were recorded and these properties written. -/
structure ToldOnly (profile : String) (handle : Int) (calls : List DsMs12Call)
    (fields : List ProfileField) (before after : Plugin (σ × CallLog)) : Prop where
  up : after.Up
  log : after.hal.2 = before.hal.2 ++ calls.map (Prod.mk handle)
  others : ∀ field ∉ fields, numberAt after.store profile field =
    numberAt before.store profile field

namespace ToldOnly

variable {profile : String} {handle : Int} {calls later : List DsMs12Call}
  {fields fields' : List ProfileField} {first second third : Plugin (σ × CallLog)}

theorem refl (fields : List ProfileField) (up : first.Up) :
    ToldOnly profile handle [] fields first first :=
  ⟨up, by simp, fun _ _ => rfl⟩

theorem trans (left : ToldOnly profile handle calls fields first second)
    (right : ToldOnly profile handle later fields' second third) :
    ToldOnly profile handle (calls ++ later) (fields ++ fields') first third := by
  refine ⟨right.up, ?_, fun field other => ?_⟩
  · rw [right.log, left.log, List.map_append, List.append_assoc]
  · rw [List.mem_append, not_or] at other
    rw [right.others field other.2, left.others field other.1]

end ToldOnly

section Apply

variable {hal : Ms12ProfileHal σ} {profile : String} {plugin : Plugin (σ × CallLog)}

theorem toldOnly_persist (up : plugin.Up) (handle : Int) (entries : List (ProfileField × Int)) :
    ToldOnly profile handle [] (entries.map Prod.fst) plugin
      (plugin.persistProperties
        (entries.map fun entry => (entry.1.key profile, toString entry.2))).2 := by
  have accepted : ∀ entry ∈ entries.map fun entry => (entry.1.key profile, toString entry.2),
      entry.1 ≠ "" ∧ entry.2 ≠ "" := by
    intro entry member
    obtain ⟨source, -, rfl⟩ := List.mem_map.mp member
    refine ⟨ProfileField.key_ne source.1, ?_⟩
    rw [Int.toString_eq_repr]
    exact repr_int_ne source.2
  obtain ⟨-, up', sameHal, -, found⟩ := Plugin.persistProperties_of_up accepted up
  refine ⟨up', by rw [sameHal, List.map_nil, List.append_nil], fun field other => ?_⟩
  have unwritten : lastOf (Plugin.binding (field.key profile))
      (entries.map fun entry => (entry.1.key profile, toString entry.2)) = none := by
    apply lastOf_eq_none
    intro entry member
    obtain ⟨source, own, rfl⟩ := List.mem_map.mp member
    apply if_neg
    intro same
    exact other (ProfileField.key_injective profile same ▸ List.mem_map_of_mem own)
  rw [numberAt, found, unwritten, Option.none_or, numberAt]

theorem toldOnly_tellMs12 (up : plugin.Up) (handle : Int) (call : DsMs12Call)
    {persist : Plugin (σ × CallLog) → Except CoreError Unit × Plugin (σ × CallLog)}
    {fields : List ProfileField}
    (kept : ∀ state, ToldOnly profile handle [] fields { plugin with hal := state }
      (persist { plugin with hal := state }).2) :
    ToldOnly profile handle [call] fields plugin
      (plugin.tellMs12 hal.recorded handle call persist).2 := by
  have logged : ∀ state, ToldOnly profile handle [call] [] plugin
      { plugin with hal := (state, plugin.hal.2 ++ [(handle, call)]) } :=
    fun state => ⟨⟨up.initialized, up.ready⟩, rfl, fun _ _ => rfl⟩
  unfold Plugin.tellMs12
  cases told : (hal.call plugin.hal.1 handle call).1 with
  | ok _ =>
      have result : hal.recorded.call plugin.hal handle call =
          (.ok (), (hal.call plugin.hal.1 handle call).2, plugin.hal.2 ++ [(handle, call)]) :=
        congrArg (fun answer => (answer, _)) told
      rw [result]
      exact (logged _).trans (kept _)
  | error error =>
      have result : hal.recorded.call plugin.hal handle call =
          (.error error, (hal.call plugin.hal.1 handle call).2,
            plugin.hal.2 ++ [(handle, call)]) :=
        congrArg (fun answer => (answer, _)) told
      rw [result]
      exact (logged _).trans (ToldOnly.refl fields (up.withHal _))

theorem getProperty_key (up : plugin.Up) (field : ProfileField) :
    plugin.store.getProperty plugin.files (field.key profile) =
      ((plugin.store.properties.find? (field.key profile)).elim
        (.error ⟨"The Item IS NOT FOUND"⟩) .ok, plugin.store) := by
  rw [HostPersistence.getProperty, if_neg (ProfileField.key_ne field),
    HostPersistence.ensureInitialized_of_ready up.ready]
  cases plugin.store.properties.find? (field.key profile) <;> rfl

variable (hal profile) in
theorem toldOnly_applySingle (up : plugin.Up) (handle : Int) (setting : Ms12Setting)
    (call : Int → DsMs12Call) (field : ProfileField) :
    ToldOnly profile handle
      (singleCalls hal.resolves (numberAt plugin.store profile) setting call field) [field] plugin
      (plugin.applySingle hal.recorded handle setting call (field.key profile)) := by
  rw [Plugin.applySingle, singleCalls]
  by_cases missing : hal.resolves setting = false
  · rw [if_pos missing, if_pos (show hal.recorded.resolves setting = false from missing)]
    exact ToldOnly.refl _ up
  · rw [if_neg missing, if_neg (show ¬hal.recorded.resolves setting = false from missing),
      getProperty_key up, numberAt]
    cases stored : plugin.store.properties.find? (field.key profile) with
    | none => exact ToldOnly.refl _ up
    | some value =>
        refine toldOnly_tellMs12 up handle (call (atoi value)) fun state => ?_
        rw [Plugin.persistProperty_eq]
        exact toldOnly_persist (up.withHal state) handle [(field, atoi value)]

variable (hal profile) in
theorem toldOnly_applyPair (up : plugin.Up) (handle : Int) (setting : Ms12Setting)
    (call : Int → Int → DsMs12Call) (first second : ProfileField) :
    ToldOnly profile handle
      (pairCalls hal.resolves (numberAt plugin.store profile) setting call first second)
      [first, second] plugin
      (plugin.applyPair hal.recorded handle setting call (first.key profile)
        (second.key profile)) := by
  rw [Plugin.applyPair, pairCalls]
  by_cases missing : hal.resolves setting = false
  · rw [if_pos missing, if_pos (show hal.recorded.resolves setting = false from missing)]
    exact ToldOnly.refl _ up
  · rw [if_neg missing, if_neg (show ¬hal.recorded.resolves setting = false from missing),
      getProperty_key up, numberAt, numberAt]
    cases stored : plugin.store.properties.find? (first.key profile) with
    | none => exact ToldOnly.refl _ up
    | some left =>
        dsimp only [Option.elim]
        rw [getProperty_key up]
        cases stored' : plugin.store.properties.find? (second.key profile) with
        | none => exact ToldOnly.refl _ up
        | some right =>
            exact toldOnly_tellMs12 up handle (call (atoi left) (atoi right)) fun state =>
              toldOnly_persist (up.withHal state) handle
                [(first, atoi left), (second, atoi right)]

theorem singleCalls_congr {resolves : Ms12Setting → Bool}
    {numbers other : ProfileField → Option Int}
    {field : ProfileField} (same : numbers field = other field) (setting : Ms12Setting)
    (call : Int → DsMs12Call) :
    singleCalls resolves numbers setting call field =
      singleCalls resolves other setting call field := by
  rw [singleCalls, singleCalls, same]

theorem pairCalls_congr {resolves : Ms12Setting → Bool} {numbers other : ProfileField → Option Int}
    {first second : ProfileField} (same : numbers first = other first)
    (same' : numbers second = other second) (setting : Ms12Setting)
    (call : Int → Int → DsMs12Call) :
    pairCalls resolves numbers setting call first second =
      pairCalls resolves other setting call first second := by
  rw [pairCalls, pairCalls, same, same']

/-- Choosing the active profile tells its numbers as they are stored before the choice: what is
written back on the way is not read again. -/
theorem toldOnly_apply (up : plugin.Up)
    (active : plugin.store.properties.find? "audio.MS12Profile" = some profile) (handle : Int) :
    (plugin.applyMS12ProfileSettingsOverride hal.recorded handle).hal.2 =
      plugin.hal.2 ++
        (profileCalls hal.resolves (numberAt plugin.store profile)).map (Prod.mk handle) := by
  have current : ∀ property, plugin.getCurrentProfileProperty property =
      (generateProfileProperty profile property, plugin) := by
    intro property
    rw [Plugin.getCurrentProfileProperty_of_ready up.ready, active]
    rfl
  have dialog := toldOnly_applySingle hal profile up handle .dialogEnhancement
    .dsSetDialogEnhancement .enhancerLevel
  have bass := toldOnly_applySingle hal profile dialog.up handle .bassEnhancer
    .dsSetBassEnhancer .bassBoost
  have upTo := dialog.trans bass
  have volume := toldOnly_applyPair hal profile bass.up handle .volumeLeveller
    .dsSetVolumeLeveller .volumeMode .volumeLevel
  have upTo' := upTo.trans volume
  have virtualizer := toldOnly_applyPair hal profile volume.up handle
    .surroundVirtualizer .dsSetSurroundVirtualizer .virtualizerMode .virtualizerBoost
  have whole := upTo'.trans virtualizer
  rw [singleCalls_congr (dialog.others .bassBoost (by decide)),
    pairCalls_congr (upTo.others .volumeMode (by decide)) (upTo.others .volumeLevel (by decide)),
    pairCalls_congr (upTo'.others .virtualizerMode (by decide))
      (upTo'.others .virtualizerBoost (by decide))] at whole
  simp only [Plugin.applyMS12ProfileSettingsOverride, current]
  exact whole.log

end Apply

section Choice

variable {hal : Ms12ProfileHal σ} {plugin : Plugin σ} {profile : String}

/-- The choice gets as far as the numbers of the profile. -/
structure Chooses (hal : Ms12ProfileHal σ) (plugin : Plugin σ) (handle : Int) (profile : String) :
    Prop where
  accepted : (hal.dsSetMS12AudioProfile plugin.hal handle profile).1 = .ok ()
  named : profile ≠ ""
  on : profile ≠ "Off"

theorem appliedBy_of_chooses (up : plugin.Up) {handle : Int}
    (chooses : Chooses hal plugin handle profile) :
    plugin.appliedBy hal handle profile =
      (profileCalls hal.resolves (numberAt plugin.store profile)).map (Prod.mk handle) := by
  have accepted := chooses.accepted
  generalize moved : (hal.dsSetMS12AudioProfile plugin.hal handle profile).2 = state
  have result : hal.recorded.dsSetMS12AudioProfile (plugin.recordingFrom plugin.hal).hal handle
      profile =
      (.ok (), state, []) := by
    rw [← moved, ← accepted]
    rfl
  have recordingUp : (plugin.recordingFrom state).Up :=
    ⟨up.initialized, up.ready⟩
  obtain ⟨answer, up', sameHal, store⟩ := Plugin.persistProperty_of_up recordingUp
    (And.intro (show "audio.MS12Profile" ≠ "" by decide) chooses.named)
  have numbers : numberAt ((plugin.recordingFrom state).persistProperty
      "audio.MS12Profile" profile).2.store profile = numberAt plugin.store profile := by
    funext field
    rw [numberAt, store, OrderedMap.find?_set, if_neg (ProfileField.key_ne_profile field).symm]
    rfl
  have active : ((plugin.recordingFrom state).persistProperty
      "audio.MS12Profile" profile).2.store.properties.find? "audio.MS12Profile" =
        some profile := by
    rw [store, OrderedMap.find?_set, if_pos rfl]
  rw [Plugin.appliedBy, Plugin.setAudioMS12Profile, Plugin.guardInitialized,
    if_neg (show ¬(plugin.recordingFrom plugin.hal).audio.isInitialized = false by
      simp [up.initialized]), result]
  dsimp only
  generalize (plugin.recordingFrom state).persistProperty
    "audio.MS12Profile" profile = persisted at answer up' sameHal numbers active
  obtain ⟨outcome, plugin'⟩ := persisted
  dsimp only at answer up' sameHal numbers active
  subst answer
  dsimp only
  rw [if_pos chooses.on, toldOnly_apply up' active, sameHal, numbers]
  rfl

theorem appliedBy_of_not (up : plugin.Up) {handle : Int}
    (refused : ¬Chooses hal plugin handle profile) :
    plugin.appliedBy hal handle profile = [] := by
  rw [Plugin.appliedBy, Plugin.setAudioMS12Profile, Plugin.guardInitialized,
    if_neg (show ¬(plugin.recordingFrom plugin.hal).audio.isInitialized = false by
      simp [up.initialized])]
  have result : hal.recorded.dsSetMS12AudioProfile (plugin.recordingFrom plugin.hal).hal handle
      profile =
      ((hal.dsSetMS12AudioProfile plugin.hal handle profile).1,
        (hal.dsSetMS12AudioProfile plugin.hal handle profile).2, []) := rfl
  rw [result]
  cases answer : (hal.dsSetMS12AudioProfile plugin.hal handle profile).1 with
  | error error => rfl
  | ok _ =>
      generalize (hal.dsSetMS12AudioProfile plugin.hal handle profile).2 = state
      have silent := Plugin.persistProperty_hal (plugin.recordingFrom state)
        "audio.MS12Profile" profile
      have recordingUp : (plugin.recordingFrom state).Up :=
        ⟨up.initialized, up.ready⟩
      dsimp only
      by_cases named : profile = ""
      · rw [named, Plugin.persistProperty_refused recordingUp]
      · have off : profile = "Off" := by
          by_contra on
          exact refused ⟨answer, named, on⟩
        generalize (plugin.recordingFrom state).persistProperty
          "audio.MS12Profile" profile = persisted at silent
        obtain ⟨outcome, plugin'⟩ := persisted
        cases outcome with
        | error error => exact congrArg Prod.snd silent
        | ok _ =>
            dsimp only
            rw [if_neg (not_not.mpr off)]
            exact congrArg Prod.snd silent

end Choice

/-! ### Overrides of other profiles -/

/-- A call of `SetAudioMS12SettingsOverride`. -/
structure OverrideCall where
  handle : Int
  profileName : String
  profileSettingsName : String
  profileSettingValue : String
  profileState : String
  deriving DecidableEq, Repr

namespace OverrideCall

def run (hal : Ms12ProfileHal σ) (plugin : Plugin σ) (call : OverrideCall) : Plugin σ :=
  (plugin.setAudioMS12SettingsOverride hal call.handle call.profileName call.profileSettingsName
    call.profileSettingValue call.profileState).2

/-- What the call gives the store to write under a key of an inactive profile. -/
def text (defaults : Properties) (call : OverrideCall) (key : String) : Option String :=
  if call.profileState = "ADD" then some call.profileSettingValue
  else if call.profileState = "REMOVE" then some (defaultOr defaults key)
  else none

/-- The store refuses the empty text. -/
def storable (text : String) : Option String := if text = "" then none else some text

/-- What the call leaves under a key. -/
def written (defaults : Properties) (key : String) (call : OverrideCall) : Option String :=
  if overrideProperty call.profileName call.profileSettingsName = some key then
    (call.text defaults key).bind storable
  else none

section Run

variable {hal : Ms12ProfileHal σ} {plugin : Plugin σ}

theorem persistProperty_spec (up : plugin.Up) {key : String} (named : key ≠ "") (text : String) :
    ((plugin.persistProperty key text).2.Up ∧ (plugin.persistProperty key text).2.hal = plugin.hal ∧
      (plugin.persistProperty key text).2.store.defaultProperties =
        plugin.store.defaultProperties) ∧
      ∀ other, (plugin.persistProperty key text).2.store.properties.find? other =
        (if key = other then storable text else none).or
          (plugin.store.properties.find? other) := by
  by_cases refused : text = ""
  · subst refused
    rw [Plugin.persistProperty_refused up]
    exact ⟨⟨up, rfl, rfl⟩, fun other => by simp [storable]⟩
  · obtain ⟨-, up', sameHal, store⟩ := Plugin.persistProperty_of_up up (And.intro named refused)
    refine ⟨⟨up', sameHal, by rw [store]⟩, fun other => ?_⟩
    rw [store, OrderedMap.find?_set]
    by_cases same : key = other <;> simp [same, storable, refused]

theorem run_of_inactive (up : plugin.Up) {call : OverrideCall}
    (inactive : call.profileName ≠ storedValue plugin.store "audio.MS12Profile" "Off") :
    call.run hal plugin = (plugin.overrideInactive call.profileName call.profileSettingsName
      call.profileSettingValue call.profileState).2 := by
  rw [run, Plugin.setAudioMS12SettingsOverride, Plugin.guardInitialized,
    if_neg (by simp [up.initialized]),
    Plugin.readProperty_of_ready up.ready (by decide : "audio.MS12Profile" ≠ "")]
  exact congrArg Prod.snd (if_neg inactive)

variable (hal) in
/-- One override of a profile that is not active. -/
theorem run_spec (up : plugin.Up) {call : OverrideCall}
    (inactive : call.profileName ≠ storedValue plugin.store "audio.MS12Profile" "Off") :
    ((call.run hal plugin).Up ∧ (call.run hal plugin).hal = plugin.hal ∧
      (call.run hal plugin).store.defaultProperties = plugin.store.defaultProperties) ∧
      ∀ key, (call.run hal plugin).store.properties.find? key =
        (call.written plugin.store.defaultProperties key).or
          (plugin.store.properties.find? key) := by
  rw [run_of_inactive up inactive, Plugin.overrideInactive]
  cases property : overrideProperty call.profileName call.profileSettingsName with
  | none => exact ⟨⟨up, rfl, rfl⟩, fun key => by simp [written, property]⟩
  | some hostProperty =>
      obtain ⟨field, -, key⟩ := ProfileField.overrideProperty_eq_some_iff.mp property
      have named : hostProperty ≠ "" := key ▸ ProfileField.key_ne field
      have defaults := Plugin.defaultOrZero_of_ready up.ready named
      by_cases adds : call.profileState = "ADD"
      · simpa [written, property, text, adds] using persistProperty_spec up named
          call.profileSettingValue
      · by_cases removes : call.profileState = "REMOVE"
        · have writes := persistProperty_spec up named
            (defaultOr plugin.store.defaultProperties hostProperty)
          simp only [if_neg adds, if_pos removes, defaults]
          refine ⟨writes.1, fun other => ?_⟩
          rw [writes.2, written, property]
          by_cases same : hostProperty = other
          · subst same
            simp [text, removes]
          · simp [same]
        · exact ⟨by simpa [adds, removes] using up, fun key => by
            simp [written, property, text, adds, removes]⟩

/-- The property of another profile's number is never written. -/
theorem written_of_other {profile : String} {call : OverrideCall}
    (other : call.profileName ≠ profile) {field : ProfileField} (own : field ≠ .bassBoost)
    (defaults : Properties) : call.written defaults (field.key profile) = none := by
  apply if_neg
  intro accepted
  obtain ⟨theirs, -, same⟩ := ProfileField.overrideProperty_eq_some_iff.mp accepted
  exact own (ProfileField.key_eq_of_ne other same).2

theorem written_activeProfile (defaults : Properties) (call : OverrideCall) :
    call.written defaults "audio.MS12Profile" = none := by
  apply if_neg
  intro accepted
  obtain ⟨field, -, same⟩ := ProfileField.overrideProperty_eq_some_iff.mp accepted
  exact ProfileField.key_ne_profile field same

variable (hal) in
/-- Any number of overrides of other profiles: the HAL is untouched and the profile stays
active; each property has what was written to it last. -/
theorem after_overrides (up : plugin.Up) {calls : List OverrideCall}
    (others : ∀ call ∈ calls,
      call.profileName ≠ storedValue plugin.store "audio.MS12Profile" "Off") :
    let after := calls.foldl (run hal) plugin
    (after.Up ∧ after.hal = plugin.hal) ∧
      ∀ key, after.store.properties.find? key =
        (lastOf (written plugin.store.defaultProperties key) calls).or
          (plugin.store.properties.find? key) := by
  intro after
  have each : ∀ key, ((after.Up ∧ after.hal = plugin.hal ∧
        after.store.defaultProperties = plugin.store.defaultProperties) ∧
      after.store.properties.find? "audio.MS12Profile" =
        plugin.store.properties.find? "audio.MS12Profile") ∧
      after.store.properties.find? key =
        (lastOf (written plugin.store.defaultProperties key) calls).or
          (plugin.store.properties.find? key) := by
    intro key
    refine foldl_register
      (fun state : Plugin σ => (state.Up ∧ state.hal = plugin.hal ∧
        state.store.defaultProperties = plugin.store.defaultProperties) ∧
        state.store.properties.find? "audio.MS12Profile" =
          plugin.store.properties.find? "audio.MS12Profile")
      (fun state => state.store.properties.find? key)
      (written plugin.store.defaultProperties key) ?_ ⟨⟨up, rfl, rfl⟩, rfl⟩
    rintro state call member ⟨⟨stateUp, sameHal, defaults⟩, active⟩
    have inactive : call.profileName ≠ storedValue state.store "audio.MS12Profile" "Off" := by
      rw [storedValue, active, defaults]
      exact others call member
    obtain ⟨⟨nextUp, nextHal, nextDefaults⟩, found⟩ := run_spec hal stateUp inactive
    rw [defaults] at found
    refine ⟨⟨⟨nextUp, nextHal.trans sameHal, nextDefaults.trans defaults⟩, ?_⟩, found key⟩
    rw [found, written_activeProfile, Option.none_or, active]
  exact ⟨⟨(each "").1.1.1, (each "").1.1.2.1⟩, fun key => (each key).2⟩

end Run
end OverrideCall

/-! ### What a choice applies after them -/

section Interference

theorem profileCalls_eq_iff {resolves : Ms12Setting → Bool}
    {numbers other : ProfileField → Option Int}
    (same : ∀ field, field ≠ .bassBoost → numbers field = other field) :
    profileCalls resolves numbers = profileCalls resolves other ↔
      (resolves .bassEnhancer = true → numbers .bassBoost = other .bassBoost) := by
  rw [profileCalls, profileCalls, singleCalls_congr (same .enhancerLevel (by decide)),
    pairCalls_congr (same .volumeMode (by decide)) (same .volumeLevel (by decide)),
    pairCalls_congr (same .virtualizerMode (by decide)) (same .virtualizerBoost (by decide)),
    List.append_left_inj, List.append_left_inj, List.append_right_inj, singleCalls, singleCalls]
  cases resolves .bassEnhancer with
  | false => simp
  | true =>
      cases numbers .bassBoost <;> cases other .bassBoost <;> simp

variable {hal : Ms12ProfileHal σ} {plugin : Plugin σ} {profile : String}

/-- The choice tells the bass boost to the HAL. -/
structure ChoosesBass (hal : Ms12ProfileHal σ) (plugin : Plugin σ) (handle : Int)
    (profile : String) : Prop extends Chooses hal plugin handle profile where
  resolves : hal.resolves .bassEnhancer = true

/-- What a choice of the active profile applies after any overrides of other profiles. -/
theorem overrides_keep_profile_iff (up : plugin.Up)
    (active : storedValue plugin.store "audio.MS12Profile" "Off" = profile)
    {calls : List OverrideCall} (others : ∀ call ∈ calls, call.profileName ≠ profile)
    (handle : Int) :
    Plugin.appliedBy hal (calls.foldl (OverrideCall.run hal) plugin) handle profile =
        plugin.appliedBy hal handle profile ↔
      (ChoosesBass hal plugin handle profile →
        ((lastOf (OverrideCall.written plugin.store.defaultProperties "audio.BassBoost")
          calls).or (plugin.store.properties.find? "audio.BassBoost")).map atoi =
          (plugin.store.properties.find? "audio.BassBoost").map atoi) := by
  have inactive : ∀ call ∈ calls,
      call.profileName ≠ storedValue plugin.store "audio.MS12Profile" "Off" :=
    fun call member => active ▸ others call member
  obtain ⟨⟨afterUp, sameHal⟩, found⟩ := OverrideCall.after_overrides hal up inactive
  generalize calls.foldl (OverrideCall.run hal) plugin = after at afterUp sameHal found
  have chooses_iff : Chooses hal after handle profile ↔ Chooses hal plugin handle profile := by
    constructor <;> rintro ⟨accepted, named, on⟩
    · exact ⟨sameHal ▸ accepted, named, on⟩
    · exact ⟨sameHal ▸ accepted, named, on⟩
  have own : ∀ field, field ≠ .bassBoost →
      numberAt after.store profile field = numberAt plugin.store profile field := by
    intro field own
    have unwritten : lastOf (OverrideCall.written plugin.store.defaultProperties
        (field.key profile)) calls = none :=
      lastOf_eq_none fun call member =>
        OverrideCall.written_of_other (others call member) own plugin.store.defaultProperties
    rw [numberAt, found, unwritten, Option.none_or, numberAt]
  have bass : numberAt after.store profile .bassBoost =
      ((lastOf (OverrideCall.written plugin.store.defaultProperties "audio.BassBoost")
        calls).or (plugin.store.properties.find? "audio.BassBoost")).map atoi :=
    congrArg (Option.map atoi) (found "audio.BassBoost")
  by_cases chooses : Chooses hal plugin handle profile
  · rw [appliedBy_of_chooses afterUp (chooses_iff.mpr chooses), appliedBy_of_chooses up chooses,
      (List.map_injective_iff.mpr (Prod.mk_right_injective handle)).eq_iff,
      profileCalls_eq_iff own, bass]
    exact ⟨fun told choice => told choice.resolves, fun told resolves => told ⟨chooses, resolves⟩⟩
  · rw [appliedBy_of_not afterUp fun later => chooses (chooses_iff.mp later),
      appliedBy_of_not up chooses]
    exact iff_of_true rfl fun choice => absurd choice.toChooses chooses

end Interference

namespace MovieActive

/-- The profile is active, with a bass boost of its own. -/
def start : Plugin (Int → Ms12Setting → Option DsMs12Call) :=
  { Ms12Memory.start with
    store := { Ms12Memory.start.store with
      properties := OrderedMap.empty.insertAll
        [("audio.MS12Profile", "Movie"), ("audio.BassBoost", "10")] } }

theorem up : start.Up := ⟨rfl, rfl⟩

theorem active : storedValue start.store "audio.MS12Profile" "Off" = "Movie" := by decide

/-- Overrides of another profile. -/
def calls : List OverrideCall :=
  [⟨1, "Music", "VolumeLevellerMode", "1", "ADD"⟩, ⟨1, "Music", "BassEnhancer", "50", "ADD"⟩]

theorem others : ∀ call ∈ calls, call.profileName ≠ "Movie" := by decide

end MovieActive

theorem overrides_keep_profile_iff_music :
    Plugin.appliedBy Ms12Memory.profileHal
          (MovieActive.calls.foldl (OverrideCall.run Ms12Memory.profileHal) MovieActive.start) 1
          "Movie" =
        MovieActive.start.appliedBy Ms12Memory.profileHal 1 "Movie" ↔
      (ChoosesBass Ms12Memory.profileHal MovieActive.start 1 "Movie" →
        ((lastOf (OverrideCall.written MovieActive.start.store.defaultProperties
          "audio.BassBoost") MovieActive.calls).or
          (MovieActive.start.store.properties.find? "audio.BassBoost")).map atoi =
          (MovieActive.start.store.properties.find? "audio.BassBoost").map atoi) :=
  overrides_keep_profile_iff MovieActive.up MovieActive.active MovieActive.others 1

/-- The bass boost that is kept for one profile is applied with the other. -/
theorem not_overrides_keep_profile :
    ¬∀ (plugin : Plugin (Int → Ms12Setting → Option DsMs12Call)) (profile other : String)
        (calls : List OverrideCall),
      plugin.Up → storedValue plugin.store "audio.MS12Profile" "Off" = profile →
      other ≠ profile → (∀ call ∈ calls, call.profileName = other) →
      Plugin.appliedBy Ms12Memory.profileHal
          (calls.foldl (OverrideCall.run Ms12Memory.profileHal) plugin) 1 profile =
        plugin.appliedBy Ms12Memory.profileHal 1 profile := by
  intro keep
  have same := keep MovieActive.start "Movie" "Music" MovieActive.calls MovieActive.up
    MovieActive.active (by decide) (by decide)
  exact absurd same (by decide +kernel)

end DeviceSettings.Audio
