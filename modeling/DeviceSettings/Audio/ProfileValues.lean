import DeviceSettings.Audio.ProfileFields

/-!
# What an override does to the numbers of a profile

The numbers that the HAL was told and the properties that hold them, apart from the plugin: what
choosing the profile makes of them, what an override makes of them before and after that, and the
exact condition under which the two orders agree.
-/

namespace DeviceSettings.Audio

open DeviceSettings.Std
open DeviceSettings.Persistence

attribute [local irreducible] atoi

/-- The states of an override. -/
inductive OverrideState where
  | add
  | remove
  deriving DecidableEq, Repr

def OverrideState.text : OverrideState → String
  | .add => "ADD"
  | .remove => "REMOVE"

/-- What is written: the value that is added, else the default. -/
def OverrideState.choose (state : OverrideState) (value default : String) : String :=
  match state with
  | .add => value
  | .remove => default

/-! ### The numbers of a profile and their properties -/

/-- What a property holds after a write: an empty text is refused. -/
def afterWrite (old text : String) : String := if text = "" then old else text

/-- A number as it is printed after it was read. -/
def reprinted (text : String) : String := toString (atoi text)

@[simp] theorem atoi_reprinted (text : String) : atoi (reprinted text) = atoi text :=
  atoi_toString_atoi text

@[simp] theorem reprinted_ne (text : String) : reprinted text ≠ "" := by
  rw [reprinted, Int.toString_eq_repr]
  exact repr_int_ne _

theorem reprinted_inj {left right : String} :
    reprinted left = reprinted right ↔ atoi left = atoi right := by
  constructor
  · intro same
    have numbers := congrArg atoi same
    rwa [atoi_reprinted, atoi_reprinted] at numbers
  · exact congrArg toString

/-- What the HAL was told, and what the properties hold. -/
@[ext]
structure ProfileValues where
  told : ProfileField → Int
  stored : ProfileField → String

namespace ProfileValues

/-- Choosing a profile tells its numbers and writes them back as they were understood. -/
def chosen (stored : ProfileField → String) : ProfileValues :=
  ⟨atoi ∘ stored, reprinted ∘ stored⟩

def tell (values : ProfileValues) (field : ProfileField) (number : Int) : ProfileValues :=
  { values with told := Function.update values.told field number }

def write (values : ProfileValues) (field : ProfileField) (text : String) : ProfileValues :=
  { values with
    stored := Function.update values.stored field (afterWrite (values.stored field) text) }

/-- Two properties, of which the second is only written when the first was. -/
def writePair (values : ProfileValues) (mode level : ProfileField) (modeText levelText : String) :
    ProfileValues :=
  if modeText = "" then values else (values.write mode modeText).write level levelText

section Override

variable (defaultOf : String → String) (profile : String) (state : OverrideState) (value : String)

/-- An override of another profile. -/
def overriddenLater (stored : ProfileField → String) (field : ProfileField) :
    ProfileField → String :=
  Function.update stored field
    (afterWrite (stored field) (state.choose value (defaultOf (field.key profile))))

/-- An override of the active profile in a setting with one number. -/
def overriddenSingle (values : ProfileValues) (field : ProfileField) : ProfileValues :=
  let text := state.choose value (defaultOf (generateProfileProperty profile field.property))
  (values.tell field (atoi text)).write field text

/-- The same in the mode of a setting with two numbers. -/
def overriddenMode (values : ProfileValues) (field : ProfileField) (inRange : Int → Bool) :
    ProfileValues :=
  if inRange (atoi value) then values.write field value else values

/-- The same in its level. -/
def overriddenLevel (values : ProfileValues) (mode level : ProfileField) : ProfileValues :=
  match state with
  | .add => ((values.tell mode (atoi (values.stored mode))).tell level (atoi value)).write level value
  | .remove =>
    let modeText := defaultOf (mode.key profile)
    let levelText := defaultOf (level.key profile)
    ((values.tell mode (atoi modeText)).tell level (atoi levelText)).writePair mode level modeText
      levelText

/-- An override of the active profile. -/
def overridden (values : ProfileValues) : ProfileField → ProfileValues
  | .enhancerLevel => values.overriddenSingle defaultOf profile state value .enhancerLevel
  | .bassBoost => values.overriddenSingle defaultOf profile state value .bassBoost
  | .volumeMode => values.overriddenMode value .volumeMode fun mode => mode = 0 ∨ mode = 1
  | .volumeLevel => values.overriddenLevel defaultOf profile state value .volumeMode .volumeLevel
  | .virtualizerMode =>
    values.overriddenMode value .virtualizerMode fun mode => 0 ≤ mode ∧ mode ≤ 2
  | .virtualizerBoost =>
    values.overriddenLevel defaultOf profile state value .virtualizerMode .virtualizerBoost

end Override

/-! ### When the two ways agree -/

/-- A text that was written before the profile was chosen, against one written after. -/
def SingleAgrees (old before after : String) : Prop :=
  atoi (afterWrite old before) = atoi after ∧
    reprinted (afterWrite old before) = afterWrite (reprinted old) after

/-- A mode that was written before the profile was chosen, against one that is written after and
not told. -/
def ModeAgrees (old before after : String) (inRange : Int → Bool) : Prop :=
  atoi (afterWrite old before) = atoi old ∧
    (inRange (atoi after) = true →
      reprinted (afterWrite old before) = afterWrite (reprinted old) after)

/-- A level that was put back before the profile was chosen, against one that is put back after it
together with its mode. -/
def LevelAgrees (oldMode oldLevel modeText levelText : String) : Prop :=
  (atoi oldMode = atoi modeText ∧ atoi (afterWrite oldLevel levelText) = atoi levelText) ∧
    (modeText = "" → atoi (afterWrite oldLevel levelText) = atoi oldLevel) ∧
    (modeText ≠ "" → reprinted oldMode = modeText ∧
      reprinted (afterWrite oldLevel levelText) =
        afterWrite (reprinted oldLevel) levelText)

/-- An override that was made before the profile was chosen, against one that is made after. -/
def Agrees (stored : ProfileField → String) (defaultOf : String → String) (profile : String)
    (state : OverrideState) (value : String) : ProfileField → Prop
  | .enhancerLevel => single .enhancerLevel
  | .bassBoost => single .bassBoost
  | .volumeMode => mode .volumeMode fun mode => mode = 0 ∨ mode = 1
  | .volumeLevel => level .volumeMode .volumeLevel
  | .virtualizerMode => mode .virtualizerMode fun mode => 0 ≤ mode ∧ mode ≤ 2
  | .virtualizerBoost => level .virtualizerMode .virtualizerBoost
where
  single (field : ProfileField) : Prop :=
    SingleAgrees (stored field) (state.choose value (defaultOf (field.key profile)))
      (state.choose value (defaultOf (generateProfileProperty profile field.property)))
  mode (field : ProfileField) (inRange : Int → Bool) : Prop :=
    ModeAgrees (stored field) (state.choose value (defaultOf (field.key profile))) value inRange
  level (mode level : ProfileField) : Prop :=
    match state with
    | .add => SingleAgrees (stored level) value value
    | .remove => LevelAgrees (stored mode) (stored level) (defaultOf (mode.key profile))
        (defaultOf (level.key profile))

section Agreement

variable (stored : ProfileField → String)

@[simp] theorem chosen_told (field : ProfileField) :
    (chosen stored).told field = atoi (stored field) := by
  simp only [chosen, Function.comp_apply]

@[simp] theorem chosen_stored (field : ProfileField) :
    (chosen stored).stored field = reprinted (stored field) := by
  simp only [chosen, Function.comp_apply]

@[simp] theorem tell_told (values : ProfileValues) (field : ProfileField) (number : Int) :
    (values.tell field number).told = Function.update values.told field number := rfl

@[simp] theorem tell_stored (values : ProfileValues) (field : ProfileField) (number : Int) :
    (values.tell field number).stored = values.stored := rfl

@[simp] theorem write_told (values : ProfileValues) (field : ProfileField) (text : String) :
    (values.write field text).told = values.told := rfl

@[simp] theorem write_stored (values : ProfileValues) (field : ProfileField) (text : String) :
    (values.write field text).stored =
      Function.update values.stored field (afterWrite (values.stored field) text) := rfl

@[simp] theorem writePair_told (values : ProfileValues) (mode level : ProfileField)
    (modeText levelText : String) :
    (values.writePair mode level modeText levelText).told = values.told := by
  unfold writePair
  split_ifs <;> rfl

theorem chosen_update (field : ProfileField) (text : String) :
    chosen (Function.update stored field text) =
      ⟨Function.update (chosen stored).told field (atoi text),
        Function.update (chosen stored).stored field (reprinted text)⟩ := by
  simp only [chosen, Function.comp_update]

theorem update_inj {β : Type} {values : ProfileField → β} {field : ProfileField} {left right : β} :
    Function.update values field left = Function.update values field right ↔ left = right :=
  (Function.update_injective values field).eq_iff

theorem update_pair_inj {β : Type} {values : ProfileField → β} {mode level : ProfileField}
    (different : mode ≠ level) {left modeValue right : β} :
    Function.update values level left =
        Function.update (Function.update values mode modeValue) level right ↔
      values mode = modeValue ∧ left = right := by
  constructor
  · intro same
    have atMode := congrFun same mode
    have atLevel := congrFun same level
    rw [Function.update_of_ne different, Function.update_of_ne different,
      Function.update_self] at atMode
    rw [Function.update_self, Function.update_self] at atLevel
    exact ⟨atMode, atLevel⟩
  · rintro ⟨rfl, rfl⟩
    rw [Function.update_eq_self]

theorem single_agrees_iff (field : ProfileField) (before after : String) :
    chosen (Function.update stored field (afterWrite (stored field) before)) =
        ((chosen stored).tell field (atoi after)).write field after ↔
      SingleAgrees (stored field) before after := by
  rw [chosen_update, ProfileValues.ext_iff, SingleAgrees]
  simp only [write_told, write_stored, tell_told, tell_stored, chosen_stored, update_inj]

theorem mode_agrees_iff (field : ProfileField) (before after : String) (inRange : Int → Bool) :
    chosen (Function.update stored field (afterWrite (stored field) before)) =
        (chosen stored).overriddenMode after field inRange ↔
      ModeAgrees (stored field) before after inRange := by
  rw [chosen_update, ProfileValues.ext_iff, overriddenMode, ModeAgrees]
  by_cases accepted : inRange (atoi after) = true
  · rw [if_pos accepted, imp_iff_right accepted]
    simp only [write_told, write_stored, chosen_told, chosen_stored, update_inj,
      Function.update_eq_self_iff]
  · rw [if_neg accepted]
    have vacuous : ∀ {goal : Prop}, inRange (atoi after) = true → goal :=
      fun inside => absurd inside accepted
    simp only [chosen_told, chosen_stored, Function.update_eq_self_iff, reprinted_inj, and_self]
    exact (and_iff_left vacuous).symm

/-- A mode that is told as it is stored changes nothing. -/
theorem tell_own (field : ProfileField) :
    (chosen stored).tell field (atoi ((chosen stored).stored field)) = chosen stored := by
  apply ProfileValues.ext
  · rw [tell_told, chosen_stored, atoi_reprinted, Function.update_eq_self_iff, chosen_told]
  · rfl

theorem level_agrees_iff {mode level : ProfileField} (different : mode ≠ level)
    (modeText levelText : String) :
    chosen (Function.update stored level (afterWrite (stored level) levelText)) =
        (((chosen stored).tell mode (atoi modeText)).tell level (atoi levelText)).writePair mode
          level modeText levelText ↔
      LevelAgrees (stored mode) (stored level) modeText levelText := by
  rw [chosen_update, ProfileValues.ext_iff, writePair, LevelAgrees]
  by_cases refused : modeText = ""
  · rw [if_pos refused, imp_iff_right refused, and_iff_left fun named => absurd refused named]
    simp only [tell_told, tell_stored, update_pair_inj different, chosen_told, chosen_stored,
      Function.update_eq_self_iff, reprinted_inj]
  · rw [if_neg refused, imp_iff_right refused, and_iff_right fun empty => absurd empty refused]
    have modeWritten : afterWrite (reprinted (stored mode)) modeText = modeText :=
      if_neg refused
    simp only [write_told, write_stored, tell_told, tell_stored, chosen_told, chosen_stored,
      Function.update_of_ne different.symm, modeWritten, update_pair_inj different]

theorem overriddenLevel_add (values : ProfileValues) (defaultOf : String → String)
    (profile value : String) (mode level : ProfileField) :
    values.overriddenLevel defaultOf profile .add value mode level =
      ((values.tell mode (atoi (values.stored mode))).tell level (atoi value)).write level value :=
  rfl

variable (defaultOf : String → String) (profile : String) (state : OverrideState) (value : String)

theorem overriddenLevel_agrees_iff {mode level : ProfileField} (different : mode ≠ level) :
    chosen (overriddenLater defaultOf profile state value stored level) =
        (chosen stored).overriddenLevel defaultOf profile state value mode level ↔
      Agrees.level stored defaultOf profile state value mode level := by
  cases state with
  | add =>
      rw [overriddenLevel_add, tell_own]
      exact single_agrees_iff stored level value value
  | remove => exact level_agrees_iff stored different _ _

/-- The two ways leave the same numbers and properties under exactly this condition. -/
theorem agrees_iff (field : ProfileField) :
    chosen (overriddenLater defaultOf profile state value stored field) =
        (chosen stored).overridden defaultOf profile state value field ↔
      Agrees stored defaultOf profile state value field := by
  cases field with
  | enhancerLevel => exact single_agrees_iff stored .enhancerLevel _ _
  | bassBoost => exact single_agrees_iff stored .bassBoost _ _
  | volumeMode =>
      exact mode_agrees_iff stored .volumeMode
        (state.choose value (defaultOf (ProfileField.volumeMode.key profile))) value
        fun mode => mode = 0 ∨ mode = 1
  | volumeLevel =>
      exact overriddenLevel_agrees_iff stored defaultOf profile state value (by decide)
  | virtualizerMode =>
      exact mode_agrees_iff stored .virtualizerMode
        (state.choose value (defaultOf (ProfileField.virtualizerMode.key profile))) value
        fun mode => 0 ≤ mode ∧ mode ≤ 2
  | virtualizerBoost =>
      exact overriddenLevel_agrees_iff stored defaultOf profile state value (by decide)

end Agreement

end ProfileValues

end DeviceSettings.Audio
