import DeviceSettings.Audio.ProfileView

/-!
# Two ways to override a setting of an MS12 profile

An override can be made while another profile is active, and takes effect when its own profile is
chosen, or it can be made once the profile is active. What the two leave behind differs wherever
the code for the active profile departs from what choosing the profile does.
-/

namespace DeviceSettings.Audio

open DeviceSettings.Std
open DeviceSettings.Persistence

attribute [local irreducible] atoi

section View

variable {σ : Type} {held : σ → Ms12Held} {profile : String} {defaults : Properties}
  {active : Option String} {memory : Ms12Held} {stored : ProfileField → String}
  {plugin : Plugin σ}

/-- The same values in the HAL, and the same properties of the profile. -/
structure SameProfile (held : σ → Ms12Held) (profile : String) (left right : Plugin σ) : Prop where
  hal : held left.hal = held right.hal
  stored : ∀ field : ProfileField, left.store.properties.find? (field.key profile) =
    right.store.properties.find? (field.key profile)

theorem sameProfile_iff {left right : Plugin σ} {memory' : Ms12Held}
    {stored' : ProfileField → String} {active' : Option String} {defaults' : Properties}
    (view : ProfileView held profile defaults active memory stored left)
    (view' : ProfileView held profile defaults' active' memory' stored' right) :
    SameProfile held profile left right ↔ memory = memory' ∧ stored = stored' := by
  constructor
  · intro same
    refine ⟨by rw [← view.memory, ← view'.memory, same.hal], funext fun field => ?_⟩
    have here := same.stored field
    rw [view.stored, view'.stored] at here
    exact Option.some.inj here
  · rintro ⟨memories, properties⟩
    refine ⟨by rw [view.memory, view'.memory, memories], fun field => ?_⟩
    rw [view.stored, view'.stored, properties]

section Ways

variable (hal : Ms12ProfileHal σ) (plugin : Plugin σ) (handle : Int) (profile : String)
  (field : ProfileField) (state : OverrideState) (value : String)

/-- The override is made first, and the profile chosen after it. -/
def Plugin.overrideThenChoose : Plugin σ :=
  ((plugin.setAudioMS12SettingsOverride hal handle profile field.settingsName value
    state.text).2.setAudioMS12Profile hal handle profile).2

/-- The profile is chosen first, and the override made on the active profile. -/
def Plugin.chooseThenOverride : Plugin σ :=
  ((plugin.setAudioMS12Profile hal handle profile).2.setAudioMS12SettingsOverride hal handle
    profile field.settingsName value state.text).2

end Ways

section Paths

variable {hal : Ms12ProfileHal σ} (stores : hal.toMs12Hal.Stores held)
  (accepts : hal.AcceptsProfiles) (up : plugin.Up)
  (other : storedValue plugin.store "audio.MS12Profile" "Off" ≠ profile)
  (present : ∀ field : ProfileField,
    plugin.store.properties.find? (field.key profile) = some (stored field))

include stores accepts up other present

/-- A profile that can be active: the two ways against what they do to its numbers. -/
theorem sameProfile_iff_chosen (named : profile ≠ "") (on : profile ≠ "Off") (handle : Int)
    (field : ProfileField) (state : OverrideState) (value : String) :
    SameProfile held profile
        (plugin.overrideThenChoose hal handle profile field state value)
        (plugin.chooseThenOverride hal handle profile field state value) ↔
      ProfileValues.chosen (ProfileValues.overriddenLater
          (defaultOr plugin.store.defaultProperties) profile state value stored field) =
        (ProfileValues.chosen stored).overridden (defaultOr plugin.store.defaultProperties) profile
          state value field := by
  have view : ProfileView held profile plugin.store.defaultProperties
      (plugin.store.properties.find? "audio.MS12Profile") (held plugin.hal) stored plugin :=
    ⟨up, rfl, rfl, rfl, present⟩
  obtain ⟨sameHal, later⟩ := view.overrideLater hal handle other field state value
  have left := later.choose stores handle (accepts _ _ _) named on
  have right := (view.choose stores handle (accepts _ _ _) named on).overrideNow stores state value
    field
  rw [sameHal] at left
  rw [Plugin.overrideThenChoose, Plugin.chooseThenOverride, sameProfile_iff left right,
    Ms12Held.holding_inj, ← ProfileValues.ext_iff]

omit stores in
/-- A profile without a name is never active, so both ways only write its properties. -/
theorem sameProfile_of_nameless (nameless : profile = "") (handle : Int)
    (field : ProfileField) (state : OverrideState) (value : String) :
    SameProfile held profile
      (plugin.overrideThenChoose hal handle profile field state value)
      (plugin.chooseThenOverride hal handle profile field state value) := by
  have view : ProfileView held profile plugin.store.defaultProperties
      (plugin.store.properties.find? "audio.MS12Profile") (held plugin.hal) stored plugin :=
    ⟨up, rfl, rfl, rfl, present⟩
  obtain ⟨sameHal, later⟩ := view.overrideLater hal handle other field state value
  have right := ((view.withHal (hal.dsSetMS12AudioProfile plugin.hal handle
    profile).2).overrideLater hal handle other field state value).2
  have left := later.withHal (hal.dsSetMS12AudioProfile plugin.hal handle profile).2
  rw [Plugin.overrideThenChoose, Plugin.chooseThenOverride,
    later.choose_nameless handle (accepts _ _ _) nameless,
    view.choose_nameless handle (accepts _ _ _) nameless, sameHal]
  exact (sameProfile_iff left right).mpr ⟨rfl, rfl⟩

/-- The two ways agree for a nameless profile, and otherwise under `ProfileValues.Agrees`. -/
theorem override_paths_agree_iff (on : profile ≠ "Off") (handle : Int) (field : ProfileField)
    (state : OverrideState) (value : String) :
    SameProfile held profile
        (plugin.overrideThenChoose hal handle profile field state value)
        (plugin.chooseThenOverride hal handle profile field state value) ↔
      profile = "" ∨ ProfileValues.Agrees stored (defaultOr plugin.store.defaultProperties) profile
        state value field := by
  by_cases nameless : profile = ""
  · exact iff_of_true
      (sameProfile_of_nameless accepts up other present nameless handle field state value)
      (.inl nameless)
  · rw [sameProfile_iff_chosen stores accepts up other present nameless on,
      ProfileValues.agrees_iff, or_iff_right nameless]

end Paths
end View

namespace MovieProfile

/-- All numbers of the profile are zero, and no profile is active. -/
def start : Plugin Ms12Held :=
  { Ms12Memory.start with
    store := { Ms12Memory.start.store with
      properties := OrderedMap.empty.insertAll
        [("audio.Movie.EnhancerLevel", "0"), ("audio.BassBoost", "0"),
          ("audio.Movie.VolumeLeveller.mode", "0"), ("audio.Movie.VolumeLeveller.level", "0"),
          ("audio.Movie.SurroundVirtualizer.mode", "0"),
          ("audio.Movie.SurroundVirtualizer.boost", "0")] } }

theorem up : start.Up := ⟨rfl, rfl⟩

theorem inactive : storedValue start.store "audio.MS12Profile" "Off" ≠ "Movie" := by decide

theorem present (field : ProfileField) :
    start.store.properties.find? (field.key "Movie") = some "0" := by
  cases field <;> decide

end MovieProfile

theorem override_paths_agree_iff_movie :
    SameProfile (fun memory => memory) "Movie"
        (MovieProfile.start.overrideThenChoose Ms12Memory.profileHal 1 "Movie" .enhancerLevel .add
          "5")
        (MovieProfile.start.chooseThenOverride Ms12Memory.profileHal 1 "Movie" .enhancerLevel .add
          "5") ↔
      "Movie" = "" ∨ ProfileValues.Agrees (fun _ => "0")
        (defaultOr MovieProfile.start.store.defaultProperties) "Movie" .add "5" .enhancerLevel :=
  override_paths_agree_iff Ms12Memory.stores Ms12Memory.accepts MovieProfile.up
    MovieProfile.inactive MovieProfile.present (by decide) 1 .enhancerLevel .add "5"

/-- The leveller mode that is set on the active profile does not reach the HAL. -/
theorem not_override_paths_agree :
    ¬∀ (plugin : Plugin Ms12Held) (profile : String) (field : ProfileField)
        (state : OverrideState) (value : String),
      plugin.Up → storedValue plugin.store "audio.MS12Profile" "Off" ≠ profile →
      profile ≠ "Off" →
      (∀ field : ProfileField, plugin.store.properties.find? (field.key profile) ≠ none) →
      SameProfile (fun memory => memory) profile
        (plugin.overrideThenChoose Ms12Memory.profileHal 1 profile field state value)
        (plugin.chooseThenOverride Ms12Memory.profileHal 1 profile field state value) := by
  intro agree
  have same := agree MovieProfile.start "Movie" .volumeMode .add "1" MovieProfile.up
    MovieProfile.inactive (by decide) fun field => by rw [MovieProfile.present]; simp
  rw [sameProfile_iff_chosen Ms12Memory.stores Ms12Memory.accepts MovieProfile.up
    MovieProfile.inactive MovieProfile.present (by decide) (by decide),
    ProfileValues.agrees_iff] at same
  have told : atoi (afterWrite "0" "1") = atoi "0" := same.1
  exact absurd told (by decide +kernel)

end DeviceSettings.Audio
