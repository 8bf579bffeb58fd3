import DeviceSettings.Audio.Ms12Profile

/-!
# The numbers of an MS12 profile

Six numbers make up a profile. Five of them have a property for each profile, the bass boost has
one property for all of them.
-/

namespace DeviceSettings.Audio

open DeviceSettings.Std
open DeviceSettings.Persistence

/-- The numbers, in the order in which a profile is applied. -/
inductive ProfileField where
  | enhancerLevel
  | bassBoost
  | volumeMode
  | volumeLevel
  | virtualizerMode
  | virtualizerBoost
  deriving DecidableEq, Repr

namespace ProfileField

/-- The setting name of `SetAudioMS12SettingsOverride`. -/
def settingsName : ProfileField → String
  | .enhancerLevel => "DialogEnhance"
  | .bassBoost => "BassEnhancer"
  | .volumeMode => "VolumeLevellerMode"
  | .volumeLevel => "VolumeLevellerLevel"
  | .virtualizerMode => "SurroundVirtualizerMode"
  | .virtualizerBoost => "SurroundVirtualizerLevel"

/-- What the property of a profile ends with. -/
def property : ProfileField → String
  | .enhancerLevel => "EnhancerLevel"
  | .bassBoost => "BassBoost"
  | .volumeMode => "VolumeLeveller.mode"
  | .volumeLevel => "VolumeLeveller.level"
  | .virtualizerMode => "SurroundVirtualizer.mode"
  | .virtualizerBoost => "SurroundVirtualizer.boost"

/-- The property that holds the number. -/
def key (profile : String) (field : ProfileField) : String :=
  if field = .bassBoost then "audio.BassBoost" else generateProfileProperty profile field.property

/-- The names that are accepted, and the property behind each. -/
theorem overrideProperty_eq_some_iff {profile name key : String} :
    overrideProperty profile name = some key ↔
      ∃ field : ProfileField, field.settingsName = name ∧ field.key profile = key := by
  constructor
  · intro accepted
    unfold overrideProperty at accepted
    split_ifs at accepted with dialog volume level bass virtualizer boost
    · exact ⟨.enhancerLevel, dialog.symm, Option.some.inj accepted⟩
    · exact ⟨.volumeMode, volume.symm, Option.some.inj accepted⟩
    · exact ⟨.volumeLevel, level.symm, Option.some.inj accepted⟩
    · exact ⟨.bassBoost, bass.symm, Option.some.inj accepted⟩
    · exact ⟨.virtualizerMode, virtualizer.symm, Option.some.inj accepted⟩
    · exact ⟨.virtualizerBoost, boost.symm, Option.some.inj accepted⟩
  · rintro ⟨field, rfl, rfl⟩
    cases field <;> simp [overrideProperty, settingsName, ProfileField.key, property]

/-! ### The properties are different ones -/

theorem length_generateProfileProperty (profile property : String) :
    (generateProfileProperty profile property).length = profile.length + property.length + 7 := by
  have front : "audio.".length = 6 := rfl
  have dot : ".".length = 1 := rfl
  simp only [generateProfileProperty, String.length_append, front, dot]
  omega

/-- No property of a profile is as short as the two global ones. -/
theorem length_key (profile : String) {field : ProfileField} (own : field ≠ .bassBoost) :
    20 ≤ (field.key profile).length := by
  rw [key, if_neg own, length_generateProfileProperty]
  have long : 13 ≤ field.property.length := by
    cases field with
    | bassBoost => exact absurd rfl own
    | _ => decide
  omega

theorem key_ne {profile : String} (field : ProfileField) : field.key profile ≠ "" := by
  intro empty
  by_cases own : field = .bassBoost
  · subst own
    exact absurd empty (by simp [key])
  · have long := length_key profile own
    rw [empty] at long
    exact absurd long (by decide)

theorem key_ne_profile {profile : String} (field : ProfileField) :
    field.key profile ≠ "audio.MS12Profile" := by
  intro same
  by_cases own : field = .bassBoost
  · subst own
    exact absurd same (by simp [key])
  · have long := length_key profile own
    rw [same] at long
    exact absurd long (by decide)

/-- No property of a profile ends another one, so they can be told apart from behind. -/
theorem property_suffix : ∀ field other : ProfileField, field ≠ .bassBoost → other ≠ .bassBoost →
    ('.' :: field.property.toList) <:+ ('.' :: other.property.toList) → field = other := by
  intro field other
  cases field <;> cases other <;> first | exact fun _ _ _ => rfl | decide

theorem eq_of_key_eq {profile otherProfile : String} {field other : ProfileField}
    (own : field ≠ .bassBoost) (otherOwn : other ≠ .bassBoost)
    (same : field.key profile = other.key otherProfile) :
    field = other ∧ profile = otherProfile := by
  rw [key, key, if_neg own, if_neg otherOwn] at same
  have chars : ∀ (name : String) (field : ProfileField),
      (generateProfileProperty name field.property).toList =
        "audio.".toList ++ name.toList ++ '.' :: field.property.toList := by
    intro name field
    rw [generateProfileProperty, String.toList_append, String.toList_append, String.toList_append,
      List.append_assoc]
    rfl
  have lists := congrArg String.toList same
  rw [chars, chars] at lists
  have left : ('.' :: field.property.toList) <:+
      "audio.".toList ++ otherProfile.toList ++ '.' :: other.property.toList := by
    rw [← lists]
    exact List.suffix_append _ _
  have right : ('.' :: other.property.toList) <:+
      "audio.".toList ++ otherProfile.toList ++ '.' :: other.property.toList :=
    List.suffix_append _ _
  have fields : field = other := by
    rcases List.suffix_or_suffix_of_suffix left right with ends | ends
    · exact property_suffix field other own otherOwn ends
    · exact (property_suffix other field otherOwn own ends).symm
  subst fields
  refine ⟨rfl, String.toList_inj.mp ?_⟩
  rw [List.append_left_inj, List.append_right_inj] at lists
  exact lists

theorem key_bassBoost_ne {profile : String} {field : ProfileField} (own : field ≠ .bassBoost) :
    field.key profile ≠ "audio.BassBoost" := by
  intro same
  have long := length_key profile own
  rw [same] at long
  exact absurd long (by decide)

/-- Two profiles share the bass boost and nothing else. -/
theorem key_eq_of_ne {profile otherProfile : String} (different : profile ≠ otherProfile)
    {field other : ProfileField} (same : field.key profile = other.key otherProfile) :
    field = .bassBoost ∧ other = .bassBoost := by
  by_cases own : field = .bassBoost
  · refine ⟨own, ?_⟩
    by_contra otherOwn
    subst own
    exact key_bassBoost_ne otherOwn same.symm
  · exfalso
    by_cases otherOwn : other = .bassBoost
    · subst otherOwn
      exact key_bassBoost_ne own same
    · exact different (eq_of_key_eq own otherOwn same).2

theorem key_injective (profile : String) : Function.Injective (key profile) := by
  intro field other same
  by_cases own : field = .bassBoost
  · by_contra otherOwn
    subst own
    exact key_bassBoost_ne (Ne.symm otherOwn) same.symm
  · by_cases otherOwn : other = .bassBoost
    · subst otherOwn
      exact absurd same (key_bassBoost_ne own)
    · exact (eq_of_key_eq own otherOwn same).1

end ProfileField
end DeviceSettings.Audio
