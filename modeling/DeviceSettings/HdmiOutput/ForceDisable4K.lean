import DeviceSettings.HdmiOutput.Components
import DeviceSettings.Persistence.RoundTrip
import DeviceSettings.Std.Machine

/-!
# The 4K switch across the two components

While the switch is on, `SetVideoPortResolution` refuses every name of a 2160 mode. It is
`SetDisplayFrameRate` of the other component that still sets one, when the output is at
2160 lines already.
-/

namespace DeviceSettings.HdmiOutput

open DeviceSettings.Std
open DeviceSettings.Persistence
open DeviceSettings.VideoPort

/-- The calls of clients, a restart of the plugin, and a change of the outputs by themselves,
such as a display that is plugged in. -/
inductive OutputAction (σ : Type) where
  | setVideoPortResolution (handle : Int) (resolution : VideoPortResolution)
      (persist forceCompatibility : Bool)
  | setForceDisable4K (handle : Int) (disable : Bool)
  | setDisplayFrameRate (handle : Int) (framerate : String)
  | restart (videoPort videoDevice : Opening) (hal : σ)
  | outputsChange (hal : σ)

/-- Both components over one HAL. -/
def outputMachine {σ : Type} (platform : OutputPlatform σ) :
    Machine (OutputState σ) (OutputAction σ) OutputEffect where
  step state
    | .setVideoPortResolution handle resolution persist forceCompatibility =>
      some (state.setVideoPortResolution platform handle resolution persist forceCompatibility)
    | .setForceDisable4K handle disable => some (state.setForceDisable4K handle disable)
    | .setDisplayFrameRate handle framerate =>
      some (state.setDisplayFrameRate platform handle framerate)
    | .restart videoPort videoDevice hal =>
      some (state.restart platform videoPort videoDevice hal, [])
    | .outputsChange hal => some ({ state with hal := hal }, [])

abbrev OutputStep (σ : Type) := Occurrence (OutputState σ) (OutputAction σ) OutputEffect

/-- A VIC of 3840x2160. -/
def Vic.isUhd : Vic → Bool
  | .vic93_3840_2160_p_24_16_9 | .vic94_3840_2160_p_25_16_9 | .vic95_3840_2160_p_30_16_9
  | .vic96_3840_2160_p_50_16_9 | .vic97_3840_2160_p_60_16_9 => true
  | _ => false

section Period

variable {σ : Type}

/-- A successful `SetForceDisable4K(true)`, or a restart that has loaded it. -/
def SwitchesOn (occurrence : OutputStep σ) : Prop :=
  (∃ handle, occurrence.action = .setForceDisable4K handle true ∧
      .returned (.ok ()) ∈ occurrence.effects) ∨
    (∃ videoPort videoDevice hal, occurrence.action = .restart videoPort videoDevice hal) ∧
      occurrence.after.videoPort.force4KDisabled = true

/-- A successful `SetForceDisable4K(false)`. -/
def SwitchesOff (occurrence : OutputStep σ) : Prop :=
  ∃ handle, occurrence.action = .setForceDisable4K handle false ∧
    .returned (.ok ()) ∈ occurrence.effects

/-- The switch has been set or loaded and not been cleared since. -/
def Disabled (trace : List (OutputStep σ)) : Prop := Since SwitchesOn SwitchesOff trace

/-- A restart that does not find the switch in the store file. -/
def LosesSwitch (platform : OutputPlatform σ) (occurrence : OutputStep σ) : Prop :=
  (∃ videoPort videoDevice hal, occurrence.action = .restart videoPort videoDevice hal) ∧
    (reload occurrence.before.files platform.storeFile).find? OutputState.force4KKey ≠
      some "true"

/-- A restart has lost the switch, and it has not been set or loaded since. -/
def SwitchLost (platform : OutputPlatform σ) (trace : List (OutputStep σ)) : Prop :=
  Since (LosesSwitch platform) SwitchesOn trace

/-- `SetDisplayFrameRate` with a rate of the table, on an output at 2160 lines. -/
def RatesUhd (platform : OutputPlatform σ) (occurrence : OutputStep σ) : Prop :=
  ∃ handle framerate device vic,
    occurrence.action = .setDisplayFrameRate handle framerate ∧ framerate ≠ "" ∧
    findDevice occurrence.before.videoDevice.devices handle = some device ∧
    platform.hal.getVic occurrence.before.hal device = some (some vic) ∧ vic.isUhd = true ∧
    (findByFamilyAndRate .p3840x2160 (atoi framerate % 2 ^ 32).toNat).isSome = true

/-- `SetVideoPortResolution` with the name of a 2160 mode, on an output that is not known to
be disconnected. -/
def NamesUhd (platform : OutputPlatform σ) (occurrence : OutputStep σ) : Prop :=
  ∃ handle resolution persist forceCompatibility device vic,
    occurrence.action =
        .setVideoPortResolution handle resolution persist forceCompatibility ∧
    findDevice occurrence.before.videoPort.devices handle = some device ∧
    platform.hal.getHotPlugDetectState occurrence.before.hal device ≠ some false ∧
    resolutionNameToVic resolution.name = some vic ∧ vic.isUhd = true

end Period

/-! ### The tables -/

theorem isUhd_of_resolutionNameToVic {name : String} {vic : Vic}
    (found : resolutionNameToVic name = some vic) : vic.isUhd = occursIn "2160" name := by
  obtain ⟨entry, first, rfl⟩ := Option.map_eq_some_iff.mp found
  have named : name = entry.name := by simpa using List.find?_some first
  have agree : ∀ entry ∈ kVicTable, entry.vic.isUhd = occursIn "2160" entry.name := by decide
  rw [named]
  exact agree entry (List.mem_of_find?_eq_some first)

theorem family_of_findByVic {vic : Vic} {entry : FrameRateVicEntry}
    (found : findByVic vic = some entry) :
    entry.family = .p3840x2160 ↔ vic.isUhd = true := by
  have same : entry.vic = vic := by simpa using List.find?_some found
  have agree : ∀ entry ∈ kFrameRateTable,
      entry.family = .p3840x2160 ↔ entry.vic.isUhd = true := by decide
  rw [← same]
  exact agree entry (List.mem_of_find?_eq_some found)

/-- A VIC of 2160 lines is in the table. -/
theorem findByVic_of_isUhd {vic : Vic} (large : vic.isUhd = true) :
    ∃ entry, findByVic vic = some entry ∧ entry.family = .p3840x2160 := by
  cases vic <;> first | exact ⟨_, rfl, rfl⟩ | cases large

theorem isUhd_of_findByFamilyAndRate {family : PixelResolution} {rate : Nat}
    {target : FrameRateVicEntry} (found : findByFamilyAndRate family rate = some target) :
    target.vic.isUhd = true ↔ family = .p3840x2160 := by
  have same : target.family = family := by
    have matched := List.find?_some found
    simp only [Bool.and_eq_true, beq_iff_eq] at matched
    exact matched.1
  have agree : ∀ entry ∈ kFrameRateTable,
      entry.vic.isUhd = true ↔ entry.family = .p3840x2160 := by decide
  rw [← same]
  exact agree target (List.mem_of_find?_eq_some found)

/-! ### What a step sets -/

/-- One of the calls asks for 2160 lines. -/
def SetsUhd (effects : List OutputEffect) : Prop :=
  ∃ output vic, .setVic output vic ∈ effects ∧ vic.isUhd = true

@[simp] theorem not_setsUhd_nil : ¬SetsUhd [] := by
  rintro ⟨output, vic, member, -⟩
  cases member

@[simp] theorem not_setsUhd_returned (result : Except CoreError Unit) :
    ¬SetsUhd [.returned result] := by
  rintro ⟨output, vic, member, -⟩
  simp at member

@[simp] theorem setsUhd_setVic (output : Int) (vic : Vic) (result : Except CoreError Unit) :
    SetsUhd [.setVic output vic, .returned result] ↔ vic.isUhd = true := by
  constructor
  · rintro ⟨other, found, member, large⟩
    simp only [List.mem_cons, OutputEffect.setVic.injEq, reduceCtorEq, List.not_mem_nil,
      or_self, or_false] at member
    rwa [← member.2]
  · intro large
    exact ⟨output, vic, List.mem_cons_self, large⟩

section Steps

variable {σ : Type} {platform : OutputPlatform σ} {state : OutputState σ} {handle : Int}

/-- The end of `SetVideoPortResolution`, whatever the HAL and the store answer. -/
theorem setVideoPortResolution_effects {resolution : VideoPortResolution} {device : Int}
    {vic : Vic} (persist forceCompatibility : Bool)
    (found : findDevice state.videoPort.devices handle = some device)
    (named : resolutionNameToVic resolution.name = some vic)
    (connected : platform.hal.getHotPlugDetectState state.hal device ≠ some false)
    (allowed : (state.videoPort.force4KDisabled && occursIn "2160" resolution.name) = false) :
    ∃ result, (state.setVideoPortResolution platform handle resolution persist
      forceCompatibility).2 = [.setVic device vic, .returned result] := by
  simp only [OutputState.setVideoPortResolution, found, named, if_neg connected, allowed,
    Bool.false_eq_true, if_false]
  split_ifs
  · split <;> exact ⟨_, rfl⟩
  · exact ⟨_, rfl⟩
  · exact ⟨_, rfl⟩

/-- The name reaches the HAL unless the switch is on. -/
theorem setsUhd_setVideoPortResolution {resolution : VideoPortResolution}
    {persist forceCompatibility : Bool} :
    SetsUhd (state.setVideoPortResolution platform handle resolution persist
        forceCompatibility).2 ↔
      state.videoPort.force4KDisabled = false ∧
        ∃ device vic, findDevice state.videoPort.devices handle = some device ∧
          platform.hal.getHotPlugDetectState state.hal device ≠ some false ∧
          resolutionNameToVic resolution.name = some vic ∧ vic.isUhd = true := by
  cases found : findDevice state.videoPort.devices handle with
  | none => simp [OutputState.setVideoPortResolution, found]
  | some device =>
      cases named : resolutionNameToVic resolution.name with
      | none => simp [OutputState.setVideoPortResolution, found, named]
      | some vic =>
          by_cases disconnected : platform.hal.getHotPlugDetectState state.hal device = some false
          · simp [OutputState.setVideoPortResolution, found, named, disconnected]
          · have large := isUhd_of_resolutionNameToVic named
            cases allowed : state.videoPort.force4KDisabled && occursIn "2160" resolution.name with
            | true =>
                rw [Bool.and_eq_true] at allowed
                simp [OutputState.setVideoPortResolution, found, named, disconnected, allowed.1,
                  allowed.2]
            | false =>
                obtain ⟨result, effects⟩ := setVideoPortResolution_effects persist
                  forceCompatibility found named disconnected allowed
                rw [effects, setsUhd_setVic]
                constructor
                · intro uhd
                  rw [← large, uhd, Bool.and_true] at allowed
                  exact ⟨allowed, device, vic, rfl, disconnected, rfl, uhd⟩
                · rintro ⟨-, -, other, -, -, same, uhd⟩
                  rwa [Option.some.inj same]

/-- The other component keeps the lines of the output, with no regard to the switch. -/
theorem setsUhd_setDisplayFrameRate {framerate : String} :
    SetsUhd (state.setDisplayFrameRate platform handle framerate).2 ↔
      framerate ≠ "" ∧ ∃ device vic,
        findDevice state.videoDevice.devices handle = some device ∧
        platform.hal.getVic state.hal device = some (some vic) ∧ vic.isUhd = true ∧
        (findByFamilyAndRate .p3840x2160 (atoi framerate % 2 ^ 32).toNat).isSome = true := by
  unfold OutputState.setDisplayFrameRate
  constructor
  · intro sets
    cases found : findDevice state.videoDevice.devices handle with
    | none => simp [found] at sets
    | some device =>
        by_cases empty : framerate = ""
        · simp [found, empty] at sets
        · cases reported : platform.hal.getVic state.hal device with
          | none => simp [found, empty, reported] at sets
          | some value =>
              cases known : findByVic (value.getD (.other 0)) with
              | none => simp [found, empty, reported, known] at sets
              | some current =>
                  cases chosen : findByFamilyAndRate current.family
                      (atoi framerate % 2 ^ 32).toNat with
                  | none =>
                      simp only [found, if_neg empty, reported, known, chosen] at sets
                      exact absurd sets (not_setsUhd_returned _)
                  | some target =>
                      simp only [found, if_neg empty, reported, known, chosen,
                        setsUhd_setVic] at sets
                      have family := (isUhd_of_findByFamilyAndRate chosen).mp sets
                      have uhd := (family_of_findByVic known).mp family
                      rw [family] at chosen
                      cases value with
                      | none => cases uhd
                      | some vic =>
                          exact ⟨empty, device, vic, rfl, reported, uhd, by rw [chosen]; rfl⟩
  · rintro ⟨nonempty, device, vic, found, reported, uhd, offered⟩
    obtain ⟨current, known, family⟩ := findByVic_of_isUhd uhd
    obtain ⟨target, chosen⟩ := Option.isSome_iff_exists.mp offered
    have known' : findByVic ((some vic).getD (.other 0)) = some current := known
    have large := (isUhd_of_findByFamilyAndRate chosen).mpr rfl
    simp only [found, if_neg nonempty, reported, known', family, chosen, setsUhd_setVic, large]

/-- A step asks for 2160 lines by a frame rate, or by a name while the switch is down. -/
theorem setsUhd_iff {before after : OutputState σ} {action : OutputAction σ}
    {effects : List OutputEffect}
    (taken : (outputMachine platform).step before action = some (after, effects)) :
    SetsUhd effects ↔
      RatesUhd platform ⟨before, action, effects, after⟩ ∨
        (before.videoPort.force4KDisabled = false ∧
          NamesUhd platform ⟨before, action, effects, after⟩) := by
  have noRate : (∀ handle framerate, action ≠ .setDisplayFrameRate handle framerate) →
      ¬RatesUhd platform ⟨before, action, effects, after⟩ := by
    rintro other ⟨handle, framerate, device, vic, same, -⟩
    exact other handle framerate same
  have noName : (∀ handle resolution persist forceCompatibility,
        action ≠ .setVideoPortResolution handle resolution persist forceCompatibility) →
      ¬NamesUhd platform ⟨before, action, effects, after⟩ := by
    rintro other ⟨handle, resolution, persist, forceCompatibility, device, vic, same, -⟩
    exact other handle resolution persist forceCompatibility same
  cases action with
  | setVideoPortResolution handle resolution persist forceCompatibility =>
      have issued : _ = effects := congrArg Prod.snd (Option.some.inj taken)
      rw [or_iff_right (noRate (by simp)), ← issued, setsUhd_setVideoPortResolution]
      refine and_congr_right fun _ => ⟨?_, ?_⟩
      · rintro ⟨device, vic, asked⟩
        exact ⟨handle, resolution, persist, forceCompatibility, device, vic, rfl, asked⟩
      · rintro ⟨handle', resolution', persist', forceCompatibility', device, vic, same, asked⟩
        cases same
        exact ⟨device, vic, asked⟩
  | setDisplayFrameRate handle framerate =>
      have issued : _ = effects := congrArg Prod.snd (Option.some.inj taken)
      rw [or_iff_left fun named => noName (by simp) named.2, ← issued,
        setsUhd_setDisplayFrameRate]
      constructor
      · rintro ⟨nonempty, device, vic, asked⟩
        exact ⟨handle, framerate, device, vic, rfl, nonempty, asked⟩
      · rintro ⟨handle', framerate', device, vic, same, nonempty, asked⟩
        cases same
        exact ⟨nonempty, device, vic, asked⟩
  | setForceDisable4K handle disable =>
      have issued : _ = effects := congrArg Prod.snd (Option.some.inj taken)
      have quiet : ¬SetsUhd effects := by
        rw [← issued]
        unfold OutputState.setForceDisable4K
        split <;> exact not_setsUhd_returned _
      exact iff_of_false quiet
        (not_or_intro (noRate (by simp)) fun named => noName (by simp) named.2)
  | restart videoPort videoDevice hal =>
      have issued : [] = effects := congrArg Prod.snd (Option.some.inj taken)
      rw [← issued]
      exact iff_of_false not_setsUhd_nil
        (not_or_intro (noRate (by simp)) fun named => noName (by simp) named.2)
  | outputsChange hal =>
      have issued : [] = effects := congrArg Prod.snd (Option.some.inj taken)
      rw [← issued]
      exact iff_of_false not_setsUhd_nil
        (not_or_intro (noRate (by simp)) fun named => noName (by simp) named.2)

/-! ### The switch along a run -/

theorem setForceDisable4K_flag (state : OutputState σ) (handle : Int) (disable : Bool) :
    (.returned (.ok ()) ∈ (state.setForceDisable4K handle disable).2 ∧
        (state.setForceDisable4K handle disable).1.videoPort.force4KDisabled = disable) ∨
      (.returned (.ok ()) ∉ (state.setForceDisable4K handle disable).2 ∧
        (state.setForceDisable4K handle disable).1.videoPort = state.videoPort) := by
  unfold OutputState.setForceDisable4K
  split
  · exact .inr ⟨by simp, rfl⟩
  · exact .inl ⟨List.mem_singleton_self _, rfl⟩

theorem setVideoPortResolution_flag (platform : OutputPlatform σ) (state : OutputState σ)
    (handle : Int) (resolution : VideoPortResolution) (persist forceCompatibility : Bool) :
    (state.setVideoPortResolution platform handle resolution persist
      forceCompatibility).1.videoPort.force4KDisabled = state.videoPort.force4KDisabled := by
  unfold OutputState.setVideoPortResolution
  split
  · rfl
  · split
    · rfl
    · dsimp only
      split_ifs
      · rfl
      · rfl
      · split <;> rename_i called <;>
          exact congrArg (fun result => result.2.videoPort.force4KDisabled) called.symm
      · rfl
      · rfl

theorem setDisplayFrameRate_videoPort (platform : OutputPlatform σ) (state : OutputState σ)
    (handle : Int) (framerate : String) :
    (state.setDisplayFrameRate platform handle framerate).1.videoPort = state.videoPort := by
  unfold OutputState.setDisplayFrameRate
  split
  · rfl
  · split_ifs
    · rfl
    · dsimp only
      repeat' split
      all_goals rfl

/-- A restart loads the switch from the store file. -/
theorem restart_flag (platform : OutputPlatform σ) (state : OutputState σ)
    (videoPort videoDevice : Opening) (hal : σ) :
    (state.restart platform videoPort videoDevice hal).videoPort.force4KDisabled = true ↔
      (reload state.files platform.storeFile).find? OutputState.force4KKey = some "true" := by
  have named : ¬"HDMI0.resolution" = "" := by decide
  have switch : ¬OutputState.force4KKey = "" := by decide
  have loaded : ((HostPersistence.ofStoreFile platform.storeFile).ensureInitialized
      state.files).properties = reload state.files platform.storeFile := rfl
  simp only [OutputState.restart, OutputState.getPersistenceValue,
    HostPersistence.getPropertyOr, if_neg named, if_neg switch,
    HostPersistence.ensureInitialized_idem, loaded, beq_iff_eq]
  cases (reload state.files platform.storeFile).find? OutputState.force4KKey with
  | none => simp
  | some value => simp

/-- All that a step can do to the switch. -/
inductive FlagStep (platform : OutputPlatform σ) (occurrence : OutputStep σ) : Prop where
  | on (starts : SwitchesOn occurrence) (found : ¬LosesSwitch platform occurrence)
      (flag : occurrence.after.videoPort.force4KDisabled = true)
  | off (starts : ¬SwitchesOn occurrence) (stops : SwitchesOff occurrence)
      (flag : occurrence.after.videoPort.force4KDisabled = false)
  | lost (starts : ¬SwitchesOn occurrence) (loses : LosesSwitch platform occurrence)
      (flag : occurrence.after.videoPort.force4KDisabled = false)
  | keep (starts : ¬SwitchesOn occurrence) (found : ¬LosesSwitch platform occurrence)
      (flag : occurrence.after.videoPort.force4KDisabled =
        occurrence.before.videoPort.force4KDisabled)

theorem flagStep {before after : OutputState σ} {action : OutputAction σ}
    {effects : List OutputEffect}
    (taken : (outputMachine platform).step before action = some (after, effects)) :
    FlagStep platform ⟨before, action, effects, after⟩ := by
  cases action with
  | setVideoPortResolution handle resolution persist forceCompatibility =>
      have same : _ = (after, effects) := Option.some.inj taken
      refine .keep (by simp [SwitchesOn]) (by simp [LosesSwitch]) ?_
      have kept := setVideoPortResolution_flag platform before handle resolution persist
        forceCompatibility
      rwa [same] at kept
  | setForceDisable4K handle disable =>
      have same : _ = (after, effects) := Option.some.inj taken
      have found : ¬LosesSwitch platform
          ⟨before, .setForceDisable4K handle disable, effects, after⟩ := by
        simp [LosesSwitch]
      have result := setForceDisable4K_flag before handle disable
      rw [same] at result
      rcases result with ⟨accepted, flag⟩ | ⟨refused, videoPort⟩
      · cases disable with
        | true => exact .on (.inl ⟨handle, rfl, accepted⟩) found flag
        | false => exact .off (by simp [SwitchesOn]) ⟨handle, rfl, accepted⟩ flag
      · refine .keep ?_ found (congrArg VideoPortImpl.force4KDisabled videoPort)
        rintro (⟨-, -, accepted⟩ | ⟨⟨_, _, _, other⟩, -⟩)
        · exact refused accepted
        · cases other
  | setDisplayFrameRate handle framerate =>
      have same : _ = (after, effects) := Option.some.inj taken
      refine .keep (by simp [SwitchesOn]) (by simp [LosesSwitch]) ?_
      have kept := setDisplayFrameRate_videoPort platform before handle framerate
      rw [same] at kept
      exact congrArg VideoPortImpl.force4KDisabled kept
  | restart videoPort videoDevice hal =>
      obtain ⟨rfl, rfl⟩ : _ = after ∧ _ = effects := Prod.mk.inj (Option.some.inj taken)
      have loaded := restart_flag platform before videoPort videoDevice hal
      cases flag : (before.restart platform videoPort videoDevice hal).videoPort.force4KDisabled
      · refine .lost ?_ ⟨⟨_, _, _, rfl⟩, fun found => ?_⟩ flag
        · rintro (⟨_, other, -⟩ | ⟨-, on⟩)
          · cases other
          · rw [flag] at on
            cases on
        · rw [loaded.mpr found] at flag
          cases flag
      · exact .on (.inr ⟨⟨_, _, _, rfl⟩, flag⟩) (fun lost => lost.2 (loaded.mp flag)) flag
  | outputsChange hal =>
      obtain ⟨rfl, rfl⟩ : _ = after ∧ _ = effects := Prod.mk.inj (Option.some.inj taken)
      exact .keep (by simp [SwitchesOn]) (by simp [LosesSwitch]) rfl

/-- While the switch is on, the flag is down only behind a restart that lost it. -/
def FlagFollows (platform : OutputPlatform σ) (trace : List (OutputStep σ))
    (state : OutputState σ) : Prop :=
  Disabled trace → (state.videoPort.force4KDisabled = false ↔ SwitchLost platform trace)

theorem flagFollows {start state : OutputState σ} {trace : List (OutputStep σ)}
    (run : (outputMachine platform).Run start trace state) :
    FlagFollows platform trace state := by
  refine run.history ?_ ?_
  · intro never
    exact absurd never not_since_nil
  · intro trace before action after effects kept taken disabled
    rw [SwitchLost, since_snoc]
    cases flagStep taken with
    | on starts found flag =>
        rw [flag]
        refine iff_of_false (by simp) ?_
        rintro (loses | ⟨-, going⟩)
        · exact found loses
        · exact going starts
    | off starts stops flag =>
        rcases since_snoc.mp disabled with again | ⟨-, going⟩
        · exact absurd again starts
        · exact absurd stops going
    | lost starts loses flag => exact iff_of_true flag (.inl loses)
    | keep starts found flag =>
        rcases since_snoc.mp disabled with again | ⟨earlier, -⟩
        · exact absurd again starts
        · dsimp only at flag
          rw [or_iff_right found, and_iff_left starts, flag]
          exact kept earlier

end Steps

section Laws

variable {σ : Type}

/-- In every run, no 2160 VIC is set while the switch is on exactly when no frame rate is set
on an output at 2160 lines, and no 2160 mode is named behind a restart that lost the switch. -/
theorem disabled_keeps_below_2160_iff {platform : OutputPlatform σ} {start state : OutputState σ}
    {trace : List (OutputStep σ)} (run : (outputMachine platform).Run start trace state) :
    (∀ earlier occurrence later, trace = earlier ++ occurrence :: later → Disabled earlier →
        ∀ output vic, .setVic output vic ∈ occurrence.effects → vic.isUhd = false) ↔
      ∀ earlier occurrence later, trace = earlier ++ occurrence :: later → Disabled earlier →
        ¬RatesUhd platform occurrence ∧
          (SwitchLost platform earlier → ¬NamesUhd platform occurrence) := by
  have quiet : ∀ effects : List OutputEffect,
      (∀ output vic, .setVic output vic ∈ effects → vic.isUhd = false) ↔ ¬SetsUhd effects := by
    intro effects
    simp only [SetsUhd, not_exists, not_and, Bool.not_eq_true]
  refine forall_congr' fun earlier => forall_congr' fun occurrence => forall_congr' fun later =>
    forall_congr' fun split => forall_congr' fun disabled => ?_
  subst split
  obtain ⟨prior, taken⟩ := run.at_occurrence
  rw [quiet, setsUhd_iff taken, not_or, flagFollows prior disabled, not_and]

/-- The HAL reports the VIC that it has applied. -/
def OutputHal.AppliesAccepted (hal : OutputHal σ) : Prop :=
  ∀ state output vic, (hal.setVic state output vic).1 = true →
    hal.getVic (hal.setVic state output vic).2 output = some (some vic)

namespace VicMemory

/-- One connected output that keeps its VIC. -/
def hal : OutputHal Vic where
  getHotPlugDetectState _ _ := some true
  getVic current _ := some (some current)
  setVic _ _ vic := (true, vic)

theorem appliesAccepted : hal.AppliesAccepted := fun _ _ _ _ => rfl

def platform : OutputPlatform Vic := ⟨hal, false, "/opt/persistent/ds/hostData"⟩

/-- Before the plugin has started on an empty store file. -/
def powered : OutputState Vic where
  hal := .vic16_1920_1080_p_60_16_9
  videoPort := ⟨[], "", false⟩
  videoDevice := ⟨[]⟩
  store := .ofStoreFile "/opt/persistent/ds/hostData"
  files _ := .absent

def started : OutputState Vic :=
  powered.restart platform ⟨some [1], fun _ => true⟩ ⟨some [1], fun _ => true⟩ powered.hal

def large : OutputState Vic × List OutputEffect :=
  started.setVideoPortResolution platform 1 (buildResolutionFromName "2160p") true false

def limited : OutputState Vic × List OutputEffect := large.1.setForceDisable4K 1 true

def rated : OutputState Vic × List OutputEffect :=
  limited.1.setDisplayFrameRate platform 1 "24"

/-- The output is set to 2160p60, 4K is disabled, and the frame rate is changed. -/
def rateChange : List (OutputStep Vic) :=
  [⟨powered, .restart ⟨some [1], fun _ => true⟩ ⟨some [1], fun _ => true⟩ powered.hal, [], started⟩,
    ⟨started, .setVideoPortResolution 1 (buildResolutionFromName "2160p") true false, large.2,
      large.1⟩,
    ⟨large.1, .setForceDisable4K 1 true, limited.2, limited.1⟩,
    ⟨limited.1, .setDisplayFrameRate 1 "24", rated.2, rated.1⟩]

theorem run_rateChange : (outputMachine platform).Run powered rateChange rated.1 :=
  .snoc (.snoc (.snoc (.snoc .nil rfl) rfl) rfl) rfl

end VicMemory

theorem disabled_keeps_below_2160_iff_rateChange :
    (∀ earlier occurrence later, VicMemory.rateChange = earlier ++ occurrence :: later →
        Disabled earlier →
        ∀ output vic, .setVic output vic ∈ occurrence.effects → vic.isUhd = false) ↔
      ∀ earlier occurrence later, VicMemory.rateChange = earlier ++ occurrence :: later →
        Disabled earlier → ¬RatesUhd VicMemory.platform occurrence ∧
          (SwitchLost VicMemory.platform earlier → ¬NamesUhd VicMemory.platform occurrence) :=
  disabled_keeps_below_2160_iff VicMemory.run_rateChange

/-- The frame rate is set at 2160 lines while 4K is disabled. -/
theorem not_disabled_keeps_below_2160 :
    VicMemory.hal.AppliesAccepted ∧
      ¬∀ (trace : List (OutputStep Vic)) (state : OutputState Vic),
        (outputMachine VicMemory.platform).Run VicMemory.powered trace state →
        ∀ earlier occurrence later, trace = earlier ++ occurrence :: later → Disabled earlier →
          ∀ output vic, .setVic output vic ∈ occurrence.effects → vic.isUhd = false := by
  refine ⟨VicMemory.appliesAccepted, fun always => ?_⟩
  have accepted : .returned (.ok ()) ∈ VicMemory.limited.2 := by decide +kernel
  have issued : .setVic 1 .vic93_3840_2160_p_24_16_9 ∈ VicMemory.rated.2 := by decide +kernel
  have disabled : Disabled (VicMemory.rateChange.take 3) :=
    ⟨VicMemory.rateChange.take 2,
      ⟨VicMemory.large.1, .setForceDisable4K 1 true, VicMemory.limited.2, VicMemory.limited.1⟩, [],
      rfl, .inl ⟨1, rfl, accepted⟩, by simp⟩
  exact absurd (always _ _ VicMemory.run_rateChange _ _ [] rfl disabled 1 _ issued) (by decide)

end Laws
end DeviceSettings.HdmiOutput
