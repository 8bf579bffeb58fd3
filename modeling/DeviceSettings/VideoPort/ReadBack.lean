import DeviceSettings.VideoPort.Compatibility
import DeviceSettings.VideoPort.ModeNames

/-!
# A resolution with and without its sink

While the sink is there the HAL's structure is read, and behind it the cached name is taken apart.
The name says less than the structure: most rates are read out of the names of progressive 1080 and
2160 lines only.
-/

namespace DeviceSettings.VideoPort

open DeviceSettings.Std

/-- The rates by the ends of the names. -/
def knownRates : List (String × FrameRate) :=
  [("", .fps60), ("24", .fps24), ("25", .fps25), ("30", .fps30), ("50", .fps50), ("60", .fps60)]

/-- The fields agree with the name `<lines><i|p>[fps]`. -/
structure FieldsNamed (resolution : VideoPortResolution) (mode : ModeName) : Prop where
  named : resolution.name = mode.name
  lines : lineCount resolution.pixelResolution = some mode.scan.lines
  interlaced : resolution.interlaced = mode.scan.interlaced
  /-- Another end is that of another rate. -/
  rate : match knownRates.lookup mode.fps with
    | some frameRate => resolution.frameRate = frameRate
    | none => resolution.frameRate ∉ knownRates.map Prod.snd

/-- The rates that `buildResolutionFromName` gives back for the names of a class. -/
def readBackRates : ScanClass → List FrameRate
  | ⟨.l2160, false⟩ | ⟨.l1080, false⟩ => [.fps24, .fps25, .fps30, .fps50, .fps60]
  | ⟨.l720, false⟩ => [.fps50, .fps60]
  | ⟨.l1080, true⟩ | ⟨.l768, false⟩ | ⟨.l480, _⟩ => [.fps60]
  | ⟨.l576, _⟩ => [.fps50]
  | ⟨.l2160, true⟩ | ⟨.l768, true⟩ | ⟨.l720, true⟩ => []

/-- What a client of the resolution looks at. -/
structure ReadAlike (seen cached : VideoPortResolution) : Prop where
  name : seen.name = cached.name
  pixelResolution : seen.pixelResolution = cached.pixelResolution
  frameRate : seen.frameRate = cached.frameRate
  interlaced : seen.interlaced = cached.interlaced

/-! ### Names taken apart -/

theorem rateInName_mem {rates : List (String × FrameRate)} (resolutionName : String)
    (known : ∀ rate ∈ rates, rate.2 ∈ knownRates.map Prod.snd) :
    rateInName rates resolutionName ∈ knownRates.map Prod.snd := by
  unfold rateInName
  split
  next rate found => exact known rate (List.mem_of_find?_eq_some found)
  next => decide

/-- Only rates with a name of their own come out of a name. -/
theorem buildResolutionFromName_rate (resolutionName : String) :
    (buildResolutionFromName resolutionName).frameRate ∈ knownRates.map Prod.snd := by
  have named : rateInName namedRates resolutionName ∈ knownRates.map Prod.snd :=
    rateInName_mem resolutionName (by decide)
  have of720 : rateInName [("50", .fps50)] resolutionName ∈ knownRates.map Prod.snd :=
    rateInName_mem resolutionName (by decide)
  have fps50 : FrameRate.fps50 ∈ knownRates.map Prod.snd := by decide
  have fps60 : FrameRate.fps60 ∈ knownRates.map Prod.snd := by decide
  unfold buildResolutionFromName
  split_ifs <;> first | exact named | exact of720 | exact fps50 | exact fps60

/-- The name of a mode with such a rate, taken apart. -/
theorem build_known_iff :
    ∀ scan : ScanClass, ∀ rate ∈ knownRates, ∀ pixelResolution ∈ [PixelResolution.p720x480,
        .p720x576, .p1280x720, .p1366x768, .p1920x1080, .p3840x2160, .p4096x2160],
      lineCount pixelResolution = some scan.lines →
      (convertPixelResolution pixelResolution =
            (buildResolutionFromName (scan.base ++ rate.1)).pixelResolution ∧
          rate.2 = (buildResolutionFromName (scan.base ++ rate.1)).frameRate ∧
          scan.interlaced = (buildResolutionFromName (scan.base ++ rate.1)).interlaced ↔
        rate.2 ∈ readBackRates scan ∧ pixelResolution ≠ .p4096x2160) := by
  decide +kernel

theorem readBackRates_known :
    ∀ scan : ScanClass, ∀ rate ∈ readBackRates scan, rate ∈ knownRates.map Prod.snd := by
  decide

theorem mem_of_lookup {ending : String} {frameRate : FrameRate}
    (found : knownRates.lookup ending = some frameRate) : (ending, frameRate) ∈ knownRates := by
  obtain ⟨before, later, split, -⟩ := List.lookup_eq_some_iff.mp found
  rw [split]
  exact List.mem_append_right _ List.mem_cons_self

/-- The HAL's structure of an entry and its name read alike. -/
theorem readAlike_build_iff {room : Nat} {resolution : VideoPortResolution} {mode : ModeName}
    (fields : FieldsNamed resolution mode)
    (whole : (HalName.copy room resolution.name).text = resolution.name)
    (nonempty : resolution.name ≠ "") :
    ReadAlike (fromHal (toHal room resolution)) (buildResolutionFromName resolution.name) ↔
      resolution.frameRate ∈ readBackRates mode.scan ∧
        resolution.pixelResolution ≠ .p4096x2160 := by
  have name : (fromHal (toHal room resolution)).name = resolution.name := by
    simp [fromHal, toHal, whole, nonempty]
  have pixel : (fromHal (toHal room resolution)).pixelResolution =
      convertPixelResolution resolution.pixelResolution := by
    rw [fromHal, toHal]
    cases resolution.pixelResolution <;> rfl
  have known : resolution.pixelResolution ∈ [PixelResolution.p720x480, .p720x576, .p1280x720,
      .p1366x768, .p1920x1080, .p3840x2160, .p4096x2160] := by
    have lines := fields.lines
    revert lines
    cases resolution.pixelResolution <;> cases mode.scan.lines <;> decide
  have rates : (resolution.frameRate ∈ knownRates.map Prod.snd →
        (fromHal (toHal room resolution)).frameRate = resolution.frameRate) ∧
      (resolution.frameRate ∉ knownRates.map Prod.snd →
        (fromHal (toHal room resolution)).frameRate ∉ knownRates.map Prod.snd) := by
    rw [fromHal, toHal]
    cases resolution.frameRate <;> simp [knownRates]
  have parts : ReadAlike (fromHal (toHal room resolution))
        (buildResolutionFromName resolution.name) ↔
      convertPixelResolution resolution.pixelResolution =
          (buildResolutionFromName resolution.name).pixelResolution ∧
        (fromHal (toHal room resolution)).frameRate =
          (buildResolutionFromName resolution.name).frameRate ∧
        mode.scan.interlaced = (buildResolutionFromName resolution.name).interlaced := by
    rw [← pixel, ← fields.interlaced]
    constructor
    · exact fun alike => ⟨alike.pixelResolution, alike.frameRate, alike.interlaced⟩
    · rintro ⟨samePixel, sameRate, sameScan⟩
      exact ⟨name.trans (name_buildResolutionFromName _).symm, samePixel, sameRate, sameScan⟩
  rw [parts]
  have rate := fields.rate
  cases found : knownRates.lookup mode.fps with
  | some frameRate =>
      rw [found] at rate
      have member : (mode.fps, frameRate) ∈ knownRates := mem_of_lookup found
      have isKnown : resolution.frameRate ∈ knownRates.map Prod.snd :=
        rate ▸ List.mem_map_of_mem member
      rw [rates.1 isKnown, rate, fields.named]
      exact build_known_iff mode.scan _ member _ known fields.lines
  | none =>
      rw [found] at rate
      refine iff_of_false ?_ fun readBack => rate ?_
      · rintro ⟨-, same, -⟩
        exact rates.2 rate (same ▸ buildResolutionFromName_rate _)
      · exact readBackRates_known mode.scan _ readBack.1

section Law

variable {σ : Type} {room : Nat} {platform : ResolutionPlatform σ room}

/-- `dsGetResolution` returns the structure last set: what it has under the name of the entry was
set through the plugin, which sends the entry. -/
structure ReturnsSet (platform : ResolutionPlatform σ room) (hal : σ) (handle : Int)
    (entry : VideoPortResolution) : Prop where
  earlier : ∀ current, platform.hal.dsGetResolution hal handle = .ok current →
    current.name.text = entry.name → current = toHal room entry
  taken : ∀ next, platform.hal.dsSetResolution hal handle (toHal room entry) = (.ok (), next) →
    platform.hal.dsGetResolution next handle = .ok (toHal room entry)

variable {config : ResolutionConfig room} {state after : ResolutionState σ} {handle : Int}
  {resolution : VideoPortResolution}

theorem alignHdmi_of_compatible {pixelResolution : PixelResolution} {force : Bool}
    (compatible : isCompatibleResolution pixelResolution
      (platform.getPixelResolutionByName state.dsHDMIResolution) = true) :
    state.alignHdmi platform pixelResolution force = state := if_pos compatible

/-- The HDMI port's cached name is that of the resolution recorded, whichever port the handle
counts for when it is persisted. -/
theorem dsHDMIResolution_recordResolution {dsResolution : HalResolution room} {force : Bool}
    (named : dsResolution.name.text ≠ "")
    (fits : compatibilityClass dsResolution.pixelResolution =
      compatibilityClass (platform.getPixelResolutionByName dsResolution.name.text)) :
    (state.recordResolution platform .hdmi handle dsResolution true force).dsHDMIResolution =
      dsResolution.name.text := by
  have compatible := isCompatibleResolution_iff.mpr fits
  have updated : (state.updateCachedResolutionForPort .hdmi dsResolution.name.text) =
      { state with dsHDMIResolution := dsResolution.name.text } := by
    rw [ResolutionState.updateCachedResolutionForPort, if_neg named]
  simp only [ResolutionState.recordResolution, updated, if_true,
    ResolutionState.persistVideoPortResolution]
  cases platform.persistedPortType handle with
  | component =>
      dsimp only
      rw [persistThen_of_named analogKey_ne named, alignHdmi_of_compatible compatible]
      rfl
  | bb =>
      dsimp only
      rw [persistThen_of_named (by decide) named, alignHdmi_of_compatible compatible]
      rfl
  | rf =>
      dsimp only
      rw [persistThen_of_named (by decide) named, alignHdmi_of_compatible compatible]
      rfl
  | hdmi | internal | svideo | ieee1394 | dvi =>
      dsimp only
      rw [persistThen_of_named (by decide) named, alignAnalog_dsHDMIResolution]

/-- Behind a persisted set the HAL has the entry, and its name is cached. -/
theorem after_persistedSet (configured : platform.Configured config)
    (resolved : platform.resolvePortTypeByHandle handle = some .hdmi)
    (nonempty : resolution.name ≠ "")
    (listed : platform.hdmiResolutions.find? (fun r => r.name == resolution.name) =
      some resolution)
    (known : resolution.pixelResolution ≠ .max)
    (returns : ReturnsSet platform state.hal handle resolution) {force : Bool}
    (set : state.setVideoPortResolution platform handle resolution true force = (.ok (), after)) :
    platform.hal.dsGetResolution after.hal handle = .ok (toHal room resolution) ∧
      after.dsHDMIResolution = resolution.name := by
  have whole : (toHal room resolution).name.text = resolution.name :=
    copy_of_listed configured (List.mem_of_find?_eq_some listed)
  have looked : platform.getPixelResolutionByName resolution.name = resolution.pixelResolution := by
    rw [ResolutionPlatform.getPixelResolutionByName, listed]
  have recorded : ∀ force, ∀ before : ResolutionState σ,
      (before.recordResolution platform .hdmi handle (toHal room resolution) true
        force).dsHDMIResolution = resolution.name := by
    intro force before
    rw [dsHDMIResolution_recordResolution (whole ▸ nonempty), whole]
    rw [whole, looked]
    exact compatibilityClass_convert known
  obtain ⟨portType, same, cases_of⟩ := persistedSet_cases configured nonempty listed set
  obtain rfl : .hdmi = portType := Option.some.inj (resolved.symm.trans same)
  rcases cases_of with ⟨current, reported, sameName, rfl⟩ | ⟨-, hal, called, rfl⟩
  · obtain rfl := returns.earlier current reported (sameName.trans whole)
    exact ⟨by rw [ResolutionState.recordResolution_hal]; exact reported, recorded force state⟩
  · refine ⟨?_, recorded force _⟩
    rw [ResolutionState.recordResolution_hal]
    exact returns.taken hal called

/-- After a persisted set of an entry of the HDMI table, `GetVideoPortResolution` says the same
with the sink and without it, whether or not it has been called in between, exactly when the rate
is one that comes out of the names of the class and the entry is not 4096x2160. -/
theorem readAlike_iff (platform : ResolutionPlatform σ room) (config : ResolutionConfig room)
    (configured : platform.Configured config) (state after : ResolutionState σ) (handle : Int)
    (resolved : platform.resolvePortTypeByHandle handle = some .hdmi)
    (resolution : VideoPortResolution) (mode : ModeName) (fields : FieldsNamed resolution mode)
    (listed : platform.hdmiResolutions.find? (fun r => r.name == resolution.name) =
      some resolution)
    (returns : ReturnsSet platform state.hal handle resolution) (force : Bool)
    (set : state.setVideoPortResolution platform handle resolution true force = (.ok (), after))
    (connected : platform.hal.dsIsDisplayConnected after.hal handle ≠ .ok false)
    (unplugged : σ) (away : platform.hal.dsIsDisplayConnected unplugged handle = .ok false) :
    (∃ seen cached, (after.getVideoPortResolution platform handle).1 = .ok seen ∧
        (({ after with hal := unplugged }).getVideoPortResolution platform handle).1 =
          .ok cached ∧
        (({ (after.getVideoPortResolution platform handle).2 with hal := unplugged }
          ).getVideoPortResolution platform handle).1 = .ok cached ∧
        ReadAlike seen cached) ↔
      resolution.frameRate ∈ readBackRates mode.scan ∧
        resolution.pixelResolution ≠ .p4096x2160 := by
  have nonempty : resolution.name ≠ "" := fields.named ▸ mode.name_ne
  have known : resolution.pixelResolution ≠ .max := by
    intro unknown
    have lines := fields.lines
    rw [unknown] at lines
    cases lines
  have whole : (HalName.copy room resolution.name).text = resolution.name :=
    copy_of_listed configured (List.mem_of_find?_eq_some listed)
  obtain ⟨reported, cachedName⟩ :=
    after_persistedSet configured resolved nonempty listed known returns set
  have name : (fromHal (toHal room resolution)).name = resolution.name := by
    simp [fromHal, toHal, whole, nonempty]
  have seen : after.getVideoPortResolution platform handle =
      (.ok (fromHal (toHal room resolution)),
        { after with dsHDMIResolution := resolution.name }) := by
    simp only [ResolutionState.getVideoPortResolution, resolved, reported, name]
    rw [if_neg (by simp), if_neg (mt gave_iff.mp connected), if_neg nonempty,
      ResolutionState.updateCachedResolutionForPort, if_neg nonempty]
  have cached : ∀ later : ResolutionState σ, later.dsHDMIResolution = resolution.name →
      (({ later with hal := unplugged }).getVideoPortResolution platform handle).1 =
        .ok (buildResolutionFromName resolution.name) := by
    intro later laterName
    simp only [ResolutionState.getVideoPortResolution, resolved, gave_iff.mpr away, if_true]
    rw [if_neg (by simp)]
    simp [ResolutionState.cachedResolution, ResolutionState.getCachedResolutionForPort, laterName,
      nonempty]
  rw [seen, cached after cachedName, cached _ rfl, ← readAlike_build_iff fields whole nonempty]
  constructor
  · rintro ⟨current, name, same, sameName, -, alike⟩
    rw [Except.ok.inj same, Except.ok.inj sameName]
    exact alike
  · exact fun alike => ⟨_, _, rfl, rfl, rfl, alike⟩

end Law

/-! ### A port that can be unplugged -/

namespace UnpluggedHal

/-- Interlaced, at 50 Hz. -/
def interlaced50 : VideoPortResolution :=
  ⟨"1080i50", .p1920x1080, .ratio16x9, .twoD, .fps50, true⟩

def config : ResolutionConfig 31 where
  resolutionsSettings := [buildResolutionFromName "1080p60", interlaced50].map (toHal 31)
  supportedResolutions := [(.hdmi, ["1080p60", "1080i50"].map (.copy 31))]

/-- One HDMI port; the HAL remembers its resolution, and whether a sink is there. -/
def platform : ResolutionPlatform (Bool × HalResolution 31) 31 where
  hal :=
    { dsGetVideoPort := fun type _ => if type = .hdmi then .ok 1 else .error .unknown
      dsIsDisplayConnected := fun hal _ => .ok hal.1
      dsGetForceDisable4KSupport := fun _ _ => .ok false
      dsGetResolution := fun hal _ => .ok hal.2
      dsSetResolution := fun hal _ resolution => (.ok (), hal.1, resolution) }
  cachedVideoPortResolutions := config.cachedVideoPortResolutions
  hdmiResolutions := config.populate .hdmi
  tvProfile := false
  hasOnlyComposite := false

theorem configured : platform.Configured config := ⟨rfl, rfl⟩

def state : ResolutionState (Bool × HalResolution 31) where
  hal := (true, toHal 31 (buildResolutionFromName "720p"))
  dsHDMIResolution := "720p"
  dsCompResolution := "720p"
  dsBBResolution := ""
  dsRFResolution := ""
  store := .ofStoreFile "/opt/persistent/ds/hostData"
  files _ := .absent

/-- Behind a persisted set. -/
def behind (resolution : VideoPortResolution) : ResolutionState (Bool × HalResolution 31) :=
  (state.setVideoPortResolution platform 1 resolution true false).2

/-- No entry is in effect before. -/
theorem returnsSet {entry : VideoPortResolution} (other : entry.name ≠ "720p") :
    ReturnsSet platform state.hal 1 entry where
  earlier current reported named := by
    obtain rfl := Except.ok.inj reported
    exact absurd named.symm other
  taken next called := by
    obtain ⟨-, rfl⟩ := Prod.mk.inj called
    rfl

def mode : ModeName := ⟨⟨.l1080, true⟩, "50", rfl⟩

theorem fieldsNamed : FieldsNamed interlaced50 mode := ⟨rfl, rfl, rfl, rfl⟩

end UnpluggedHal

theorem readAlike_iff_1080i50 :
    (∃ seen cached,
        ((UnpluggedHal.behind UnpluggedHal.interlaced50).getVideoPortResolution
          UnpluggedHal.platform 1).1 = .ok seen ∧
        (({ UnpluggedHal.behind UnpluggedHal.interlaced50 with
            hal := (false, toHal 31 UnpluggedHal.interlaced50) }).getVideoPortResolution
          UnpluggedHal.platform 1).1 = .ok cached ∧
        (({ ((UnpluggedHal.behind UnpluggedHal.interlaced50).getVideoPortResolution
              UnpluggedHal.platform 1).2 with
            hal := (false, toHal 31 UnpluggedHal.interlaced50) }).getVideoPortResolution
          UnpluggedHal.platform 1).1 = .ok cached ∧
        ReadAlike seen cached) ↔
      FrameRate.fps50 ∈ readBackRates ⟨.l1080, true⟩ ∧
        PixelResolution.p1920x1080 ≠ .p4096x2160 :=
  readAlike_iff UnpluggedHal.platform UnpluggedHal.config UnpluggedHal.configured
    UnpluggedHal.state (UnpluggedHal.behind UnpluggedHal.interlaced50) 1 (by decide)
    UnpluggedHal.interlaced50 UnpluggedHal.mode UnpluggedHal.fieldsNamed (by decide)
    (UnpluggedHal.returnsSet (by decide)) false (Prod.ext (by decide +kernel) rfl)
    (by decide +kernel) _ rfl

/-- 1080i50 is read with 50 Hz while the sink is there, and with 60 Hz behind it. -/
theorem not_readAlike_1080i50 :
    ¬∀ (resolution : VideoPortResolution) (mode : ModeName)
      (after : ResolutionState (Bool × HalResolution 31)) (unplugged : HalResolution 31),
      FieldsNamed resolution mode →
      UnpluggedHal.platform.hdmiResolutions.find? (fun r => r.name == resolution.name) =
        some resolution →
      UnpluggedHal.state.setVideoPortResolution UnpluggedHal.platform 1 resolution true false =
        (.ok (), after) →
      ∃ seen cached, (after.getVideoPortResolution UnpluggedHal.platform 1).1 = .ok seen ∧
        (({ after with hal := (false, unplugged) }).getVideoPortResolution
          UnpluggedHal.platform 1).1 = .ok cached ∧ ReadAlike seen cached := by
  intro alike
  obtain ⟨seen, cached, answered, fromCache, same⟩ := alike UnpluggedHal.interlaced50
    UnpluggedHal.mode (UnpluggedHal.behind UnpluggedHal.interlaced50)
    (toHal 31 UnpluggedHal.interlaced50) UnpluggedHal.fieldsNamed (by decide)
    (Prod.ext (by decide +kernel) rfl)
  have first : ((UnpluggedHal.behind UnpluggedHal.interlaced50).getVideoPortResolution
      UnpluggedHal.platform 1).1 = .ok UnpluggedHal.interlaced50 := by decide +kernel
  have second : (({ UnpluggedHal.behind UnpluggedHal.interlaced50 with
      hal := (false, toHal 31 UnpluggedHal.interlaced50) }).getVideoPortResolution
        UnpluggedHal.platform 1).1 = .ok (buildResolutionFromName "1080i50") := by
    decide +kernel
  have rates := same.frameRate
  rw [← Except.ok.inj (first.symm.trans answered), ← Except.ok.inj (second.symm.trans fromCache)]
    at rates
  exact absurd rates (by decide)

end DeviceSettings.VideoPort
