import DeviceSettings.VideoPort.ResolutionTable

/-!
# Compatible resolutions of the HDMI and the component port

`persistVideoPortResolution` looks the pixel resolution of the other port's cached name up in the
HDMI table, and replaces the name when the two do not agree. What agrees is one of three classes.
When the HAL has a resolution of the requested name already, its own structure is persisted, not the
request: the two ports agree only if what it reports is in the class of the table's entry.
-/

namespace DeviceSettings.VideoPort

open DeviceSettings.Std
open DeviceSettings.Persistence

/-- What pixel resolutions are compatible by: 480 lines, 576 lines, high definition; the last one
is for what the table does not know. -/
inductive CompatibilityClass where
  | sd480
  | sd576
  | hd
  | unknown
  deriving DecidableEq, Repr

def compatibilityClass : PixelResolution → CompatibilityClass
  | .p720x480 => .sd480
  | .p720x576 => .sd576
  | .max => .unknown
  | _ => .hd

theorem isCompatibleResolution_iff {left right : PixelResolution} :
    isCompatibleResolution left right = true ↔
      compatibilityClass left = compatibilityClass right := by
  cases left <;> cases right <;> decide

theorem compatibilityClass_unknown_iff {pixelResolution : PixelResolution} :
    compatibilityClass pixelResolution = .unknown ↔ pixelResolution = .max := by
  cases pixelResolution <;> decide

/-- The class in which an alignment leaves the other port: for a pixel resolution that is not known
it falls back on 1080 lines, unless the other port's is not known either. -/
def settledClass (pixelResolution : PixelResolution) (other : CompatibilityClass) :
    CompatibilityClass :=
  if pixelResolution = .max ∧ other ≠ .unknown then .hd else compatibilityClass pixelResolution

theorem settledClass_of_known {pixelResolution : PixelResolution} {other : CompatibilityClass}
    (known : pixelResolution ≠ .max) :
    settledClass pixelResolution other = compatibilityClass pixelResolution :=
  if_neg fun both => known both.1

theorem settledClass_of_compatible {left right : PixelResolution}
    (compatible : isCompatibleResolution left right = true) :
    settledClass left (compatibilityClass right) = compatibilityClass right := by
  have same := isCompatibleResolution_iff.mp compatible
  rw [settledClass, if_neg, same]
  rintro ⟨rfl, unknown⟩
  exact unknown same.symm

theorem compatibilityClass_convert {pixelResolution : PixelResolution}
    (known : pixelResolution ≠ .max) :
    compatibilityClass (convertPixelResolution pixelResolution) =
      compatibilityClass pixelResolution := by
  revert known
  cases pixelResolution <;> decide

section Law

variable {σ : Type} {room : Nat} {platform : ResolutionPlatform σ room}

/-- The HDMI table has the four resolutions by which the ports are aligned. -/
structure ResolutionPlatform.HasStandards (platform : ResolutionPlatform σ room) : Prop where
  p480 : platform.getPixelResolutionByName "480p" = .p720x480
  p576 : platform.getPixelResolutionByName "576p" = .p720x576
  p720 : platform.getPixelResolutionByName "720p" = .p1280x720
  p1080 : platform.getPixelResolutionByName "1080p" = .p1920x1080

/-- What the HAL reports under a name of the table has the pixel resolution that the table has, or
that the conversion makes of it. -/
def ResolutionPlatform.ReportsTable (platform : ResolutionPlatform σ room) (hal : σ)
    (handle : Int) : Prop :=
  ∀ current, platform.hal.dsGetResolution hal handle = .ok current →
    ∀ entry, platform.hdmiResolutions.find? (fun r => r.name == current.name.text) = some entry →
      current.pixelResolution = entry.pixelResolution ∨
        current.pixelResolution = convertPixelResolution entry.pixelResolution

/-- The cached names of the HDMI and the component port are compatible. -/
def ResolutionState.CompatibleCaches (platform : ResolutionPlatform σ room)
    (state : ResolutionState σ) : Prop :=
  isCompatibleResolution (platform.getPixelResolutionByName state.dsHDMIResolution)
    (platform.getPixelResolutionByName state.dsCompResolution) = true

variable {state : ResolutionState σ} {pixelResolution : PixelResolution} {force : Bool}

section Standards

variable (standards : platform.HasStandards) {other : PixelResolution}
include standards

theorem class_compatibleAnalog (apart : ¬isCompatibleResolution pixelResolution other = true) :
    compatibilityClass (platform.getPixelResolutionByName
        (getCompatibleAnalogResolution pixelResolution)) =
      settledClass pixelResolution (compatibilityClass other) := by
  by_cases known : pixelResolution = .max
  · rw [isCompatibleResolution_iff, known] at apart
    rw [known, settledClass, if_pos ⟨rfl, fun unknown => apart unknown.symm⟩]
    simp [getCompatibleAnalogResolution, standards.p1080, compatibilityClass]
  · rw [settledClass_of_known known]
    revert known
    cases pixelResolution <;>
      simp [getCompatibleAnalogResolution, standards.p480, standards.p576, standards.p720,
        standards.p1080, compatibilityClass]

theorem class_compatibleHDMI (apart : ¬isCompatibleResolution pixelResolution other = true) :
    compatibilityClass (platform.getPixelResolutionByName
        (getCompatibleHDMIResolution pixelResolution)) =
      settledClass pixelResolution (compatibilityClass other) := by
  have same : getCompatibleHDMIResolution pixelResolution =
      getCompatibleAnalogResolution pixelResolution := by
    cases pixelResolution <;> rfl
  rw [same]
  exact class_compatibleAnalog standards apart

/-- An HDMI resolution settles the class of the component port. -/
theorem class_alignAnalog :
    compatibilityClass (platform.getPixelResolutionByName
        (state.alignAnalog platform pixelResolution force).dsCompResolution) =
      settledClass pixelResolution
        (compatibilityClass (platform.getPixelResolutionByName state.dsCompResolution)) := by
  unfold ResolutionState.alignAnalog
  split_ifs with compatible
  · exact (settledClass_of_compatible compatible).symm
  · exact class_compatibleAnalog standards compatible
  · exact class_compatibleAnalog standards compatible

/-- And a component resolution that of the HDMI port. -/
theorem class_alignHdmi :
    compatibilityClass (platform.getPixelResolutionByName
        (state.alignHdmi platform pixelResolution force).dsHDMIResolution) =
      settledClass pixelResolution
        (compatibilityClass (platform.getPixelResolutionByName state.dsHDMIResolution)) := by
  unfold ResolutionState.alignHdmi
  split_ifs with compatible
  · exact (settledClass_of_compatible compatible).symm
  · exact class_compatibleHDMI standards compatible
  · exact class_compatibleHDMI standards compatible

end Standards

@[simp] theorem alignAnalog_dsHDMIResolution :
    (state.alignAnalog platform pixelResolution force).dsHDMIResolution =
      state.dsHDMIResolution := by
  unfold ResolutionState.alignAnalog
  dsimp only
  split_ifs <;> rfl

@[simp] theorem alignHdmi_dsCompResolution :
    (state.alignHdmi platform pixelResolution force).dsCompResolution =
      state.dsCompResolution := by
  unfold ResolutionState.alignHdmi
  dsimp only
  split_ifs <;> rfl

/-- A property with a value is persisted, and the function goes on. -/
theorem persistThen_of_named {key value : String} {rest : ResolutionState σ → ResolutionState σ}
    (keyed : key ≠ "") (valued : value ≠ "") :
    state.persistThen key value rest = rest (state.persist key value).2 := by
  have persisted : (state.persist key value).1 = .ok () :=
    (HostPersistence.persistHostProperty_ok_iff state.store state.files key value).mpr
      ⟨keyed, valued⟩
  simp only [ResolutionState.persistThen, persisted]

theorem analogKey_ne : ResolutionState.analogKey platform ≠ "" := by
  unfold ResolutionState.analogKey
  split_ifs <;> decide

/-- The cached name with which a resolution of the port is aligned. -/
def ResolutionState.alignedName (platform : ResolutionPlatform σ room) (state : ResolutionState σ)
    (handle : Int) : String :=
  match platform.persistedPortType handle with
  | .component => state.dsHDMIResolution
  | _ => state.dsCompResolution

/-- Recording a resolution leaves the names compatible exactly when the class of its name is the one
in which its pixel resolution settles the other port. -/
theorem compatibleCaches_recordResolution_iff (standards : platform.HasStandards)
    {portType : DsVideoPortType} {handle : Int} {resolution : HalResolution room}
    (owned : platform.persistedPortType handle ∈ [.hdmi, .internal, .component])
    (named : resolution.name.text ≠ "") :
    (state.recordResolution platform portType handle resolution true force).CompatibleCaches
        platform ↔
      compatibilityClass (platform.getPixelResolutionByName resolution.name.text) =
        settledClass resolution.pixelResolution (compatibilityClass
          (platform.getPixelResolutionByName
            ((state.updateCachedResolutionForPort portType resolution.name.text).alignedName
              platform handle))) := by
  rw [ResolutionState.CompatibleCaches, isCompatibleResolution_iff]
  simp only [ResolutionState.recordResolution, if_true, ResolutionState.persistVideoPortResolution,
    ResolutionState.alignedName]
  simp only [List.mem_cons, List.not_mem_nil, or_false] at owned
  rcases owned with owner | owner | owner
  · rw [owner]
    dsimp only
    rw [persistThen_of_named (by decide) named, alignAnalog_dsHDMIResolution,
      class_alignAnalog standards]
    rfl
  · rw [owner]
    dsimp only
    rw [persistThen_of_named (by decide) named, alignAnalog_dsHDMIResolution,
      class_alignAnalog standards]
    rfl
  · rw [owner]
    dsimp only
    rw [persistThen_of_named analogKey_ne named, alignHdmi_dsCompResolution,
      class_alignHdmi standards]
    exact eq_comm

/-- A platform that is configured finds the table's entry for a name of the table. -/
theorem resolvedResolution_of_listed {config : ResolutionConfig room}
    (configured : platform.Configured config) {request entry : VideoPortResolution}
    (named : request.name ≠ "")
    (listed : platform.hdmiResolutions.find? (fun r => r.name == request.name) = some entry) :
    platform.resolvedResolution request = entry := by
  rw [configured.hdmi] at listed
  rw [ResolutionPlatform.resolvedResolution, if_neg named, configured.cached,
    ResolutionConfig.find?_cachedVideoPortResolutions listed, Option.getD_some]

/-- The names of a configured table fit into the HAL's array. -/
theorem copy_of_listed {config : ResolutionConfig room}
    (configured : platform.Configured config) {entry : VideoPortResolution}
    (listed : entry ∈ platform.hdmiResolutions) :
    (HalName.copy room entry.name).text = entry.name := by
  rw [configured.hdmi, ResolutionConfig.populate] at listed
  split at listed
  · cases listed
  · obtain ⟨cfg, -, rfl⟩ := List.mem_map.mp listed
    exact congrArg HalName.text (HalName.copy_text cfg.name)

/-- What a persisted set records: the resolution that the HAL has under the name already, or the
table's entry once the HAL has taken it. -/
theorem persistedSet_cases {config : ResolutionConfig room}
    (configured : platform.Configured config) {after : ResolutionState σ} {handle : Int}
    {resolution entry : VideoPortResolution} (named : resolution.name ≠ "")
    (found : platform.hdmiResolutions.find? (fun r => r.name == resolution.name) = some entry)
    (set : state.setVideoPortResolution platform handle resolution true force = (.ok (), after)) :
    ∃ portType, platform.resolvePortTypeByHandle handle = some portType ∧
      ((∃ current, platform.hal.dsGetResolution state.hal handle = .ok current ∧
          current.name.text = (toHal room entry).name.text ∧
          after = state.recordResolution platform portType handle current true force) ∨
        (∀ current, platform.hal.dsGetResolution state.hal handle = .ok current →
            current.name.text ≠ (toHal room entry).name.text) ∧
          ∃ hal, platform.hal.dsSetResolution state.hal handle (toHal room entry) = (.ok (), hal) ∧
            after = { state with hal := hal }.recordResolution platform portType handle
              (toHal room entry) true force) := by
  unfold ResolutionState.setVideoPortResolution at set
  rw [resolvedResolution_of_listed configured named found] at set
  dsimp only at set
  split at set
  · cases set
  · next portType resolved =>
    refine ⟨portType, resolved, ?_⟩
    split_ifs at set with away disabled
    · cases set
    · cases set
    · unfold ResolutionState.applyResolution at set
      dsimp only at set
      split at set
      · next current reported =>
        split_ifs at set with same
        · cases set
          exact .inl ⟨current, reported, same.symm, rfl⟩
        · split at set
          · next called =>
            cases set
            refine .inr ⟨fun other answered => ?_, _, called, rfl⟩
            obtain rfl := Except.ok.inj (reported.symm.trans answered)
            exact fun there => same there.symm
          · cases set
      · next failed =>
        split at set
        · next called =>
          cases set
          refine .inr ⟨fun other answered => ?_, _, called, rfl⟩
          rw [failed] at answered
          cases answered
        · cases set

/-- What the HAL reports under the name, if it has a resolution of that name, settles the other port
in the class that the table has for the name. -/
def ResolutionState.ReportsClass (platform : ResolutionPlatform σ room) (state : ResolutionState σ)
    (handle : Int) (name : String) : Prop :=
  ∀ current, platform.hal.dsGetResolution state.hal handle = .ok current →
    current.name.text = name → ∀ portType, platform.resolvePortTypeByHandle handle = some portType →
      compatibilityClass (platform.getPixelResolutionByName name) =
        settledClass current.pixelResolution (compatibilityClass
          (platform.getPixelResolutionByName
            ((state.updateCachedResolutionForPort portType name).alignedName platform handle)))

/-- A HAL that reports the table's resolutions reports their classes. -/
theorem reportsClass_of_reportsTable {handle : Int} {entry : VideoPortResolution}
    (found : platform.hdmiResolutions.find? (fun r => r.name == entry.name) = some entry)
    (known : entry.pixelResolution ≠ .max) (reports : platform.ReportsTable state.hal handle) :
    state.ReportsClass platform handle entry.name := by
  intro current reported same portType _
  have looked : platform.getPixelResolutionByName entry.name = entry.pixelResolution := by
    rw [ResolutionPlatform.getPixelResolutionByName, found]
  have fits : compatibilityClass entry.pixelResolution =
      compatibilityClass current.pixelResolution := by
    rcases reports current reported entry (same ▸ found) with pixel | pixel
    · rw [pixel]
    · rw [pixel, compatibilityClass_convert known]
  have reportedKnown : current.pixelResolution ≠ .max := by
    rw [Ne, ← compatibilityClass_unknown_iff, ← fits, compatibilityClass_unknown_iff]
    exact known
  rw [looked, fits, settledClass_of_known reportedKnown]

/-- After a persisted set of a resolution of the HDMI table the cached names of the HDMI and the
component port are compatible exactly when what the HAL has reported under that name already, if it
has, is in the class of the table's entry; so they are with every HAL that reports the table's
resolutions. -/
theorem compatible_of_persisted (platform : ResolutionPlatform σ room)
    (config : ResolutionConfig room) (configured : platform.Configured config)
    (standards : platform.HasStandards) (state after : ResolutionState σ) (handle : Int)
    (owned : platform.persistedPortType handle ∈ [.hdmi, .internal, .component])
    (resolution : VideoPortResolution) (listed : resolution ∈ platform.hdmiResolutions)
    (named : resolution.name ≠ "")
    (matching : ∀ entry ∈ platform.hdmiResolutions, entry.name = resolution.name →
      entry.pixelResolution ≠ .max) (force : Bool)
    (set : state.setVideoPortResolution platform handle resolution true force = (.ok (), after)) :
    (after.CompatibleCaches platform ↔ state.ReportsClass platform handle resolution.name) ∧
      (platform.ReportsTable state.hal handle → after.CompatibleCaches platform) := by
  obtain ⟨entry, found⟩ := Option.isSome_iff_exists.mp
    (List.find?_isSome (p := fun r : VideoPortResolution => r.name == resolution.name).mpr
      ⟨resolution, listed, beq_self_eq_true _⟩)
  have inTable := List.mem_of_find?_eq_some found
  have entryName : entry.name = resolution.name := by
    have same := List.find?_some found
    exact beq_iff_eq.mp same
  have whole : (toHal room entry).name.text = resolution.name := by
    rw [toHal, copy_of_listed configured inTable, entryName]
  have known := matching entry inTable entryName
  have exact_ : after.CompatibleCaches platform ↔
      state.ReportsClass platform handle resolution.name := by
    obtain ⟨portType, resolved, recorded⟩ := persistedSet_cases configured named found set
    rcases recorded with ⟨current, reported, same, recorded⟩ | ⟨fresh, hal, -, recorded⟩
    -- the HAL has the name already: its own structure is recorded
    · rw [whole] at same
      rw [recorded, compatibleCaches_recordResolution_iff standards owned (same ▸ named), same]
      refine ⟨fun settled other answered _ type found => ?_, fun reports => ?_⟩
      · obtain rfl := Except.ok.inj (reported.symm.trans answered)
        obtain rfl := Option.some.inj (resolved.symm.trans found)
        exact settled
      · exact reports current reported same portType resolved
    -- the HAL has taken the table's entry
    · have converted : (toHal room entry).pixelResolution ≠ .max := by
        rw [Ne, ← compatibilityClass_unknown_iff, toHal, compatibilityClass_convert known,
          compatibilityClass_unknown_iff]
        exact known
      rw [recorded, compatibleCaches_recordResolution_iff standards owned (whole ▸ named), whole,
        settledClass_of_known converted, toHal, compatibilityClass_convert known,
        ResolutionPlatform.getPixelResolutionByName, found]
      refine iff_of_true rfl fun current reported same => ?_
      exact absurd (same.trans whole.symm) (fresh current reported)
  refine ⟨exact_, fun reports => exact_.mpr ?_⟩
  rw [← entryName] at found ⊢
  exact reportsClass_of_reportsTable found known reports

/-- A HAL that returns what the plugin has set for an entry reports the table's resolution. -/
theorem reportsTable_of_toHal {config : ResolutionConfig room}
    (configured : platform.Configured config) {hal : σ} {handle : Int}
    {entry : VideoPortResolution}
    (found : platform.hdmiResolutions.find? (fun r => r.name == entry.name) = some entry)
    (returned : platform.hal.dsGetResolution hal handle = .ok (toHal room entry)) :
    platform.ReportsTable hal handle := by
  intro current reported other named
  rw [returned] at reported
  obtain rfl := Except.ok.inj reported
  have whole : (toHal room entry).name.text = entry.name :=
    copy_of_listed configured (List.mem_of_find?_eq_some found)
  rw [whole, found] at named
  obtain rfl := Option.some.inj named
  exact .inr rfl

end Law

/-! ### A television's HAL -/

namespace TableHal

def entry (name : String) : HalResolution 31 := toHal 31 (buildResolutionFromName name)

/-- HDMI and component support the four standard resolutions, HDMI 2160p60 as well. -/
def config : ResolutionConfig 31 where
  resolutionsSettings := ["480p", "576p", "720p", "1080p", "2160p60"].map entry
  supportedResolutions :=
    [(.component, ["480p", "576p", "720p", "1080p"].map (.copy 31)),
      (.hdmi, ["480p", "576p", "720p", "1080p", "2160p60"].map (.copy 31))]

/-- The HAL remembers the resolutions set on its two ports. -/
def platform : ResolutionPlatform (Int → HalResolution 31) 31 where
  hal :=
    { dsGetVideoPort := fun type _ =>
        if type = .hdmi then .ok 1 else if type = .component then .ok 2 else .error .unknown
      dsIsDisplayConnected := fun _ _ => .ok true
      dsGetForceDisable4KSupport := fun _ _ => .ok false
      dsGetResolution := fun memory handle => .ok (memory handle)
      dsSetResolution := fun memory handle resolution =>
        (.ok (), Function.update memory handle resolution) }
  cachedVideoPortResolutions := config.cachedVideoPortResolutions
  hdmiResolutions := config.populate .hdmi
  tvProfile := true
  hasOnlyComposite := false

theorem configured : platform.Configured config := ⟨rfl, rfl⟩

theorem hasStandards : platform.HasStandards := by
  constructor <;> decide

/-- 720p on both ports. -/
def state : ResolutionState (Int → HalResolution 31) where
  hal _ := entry "720p"
  dsHDMIResolution := "720p"
  dsCompResolution := "720p"
  dsBBResolution := ""
  dsRFResolution := ""
  store := .ofStoreFile "/opt/persistent/ds/hostData"
  files _ := .absent

/-- This resolution set on the HDMI port. -/
def after (name : String) : ResolutionState (Int → HalResolution 31) :=
  (state.setVideoPortResolution platform 1 (buildResolutionFromName name) true false).2

end TableHal

/-- 720p, which the HAL has already, and 480p, which it has not. -/
theorem compatible_of_persisted_720p_480p :
    ((TableHal.after "720p").CompatibleCaches TableHal.platform ↔
        TableHal.state.ReportsClass TableHal.platform 1 "720p") ∧
      (TableHal.after "720p").CompatibleCaches TableHal.platform ∧
      ((TableHal.after "480p").CompatibleCaches TableHal.platform ↔
        TableHal.state.ReportsClass TableHal.platform 1 "480p") ∧
      (TableHal.after "480p").CompatibleCaches TableHal.platform := by
  have reports : TableHal.platform.ReportsTable TableHal.state.hal 1 :=
    reportsTable_of_toHal TableHal.configured
      (show _ = some (buildResolutionFromName "720p") by decide) rfl
  obtain ⟨exact720, holds720⟩ := compatible_of_persisted TableHal.platform TableHal.config
    TableHal.configured TableHal.hasStandards TableHal.state (TableHal.after "720p") 1 (by decide)
    (buildResolutionFromName "720p") (by decide) (by decide) (by decide) false
    (Prod.ext (by decide +kernel) rfl)
  obtain ⟨exact480, holds480⟩ := compatible_of_persisted TableHal.platform TableHal.config
    TableHal.configured TableHal.hasStandards TableHal.state (TableHal.after "480p") 1 (by decide)
    (buildResolutionFromName "480p") (by decide) (by decide) (by decide) false
    (Prod.ext (by decide +kernel) rfl)
  exact ⟨exact720, holds720 reports, exact480, holds480 reports⟩

/-! ### A HAL that fills in the name only -/

namespace NameOnlyHal

/-- The name of the resolution in a structure that was cleared before. -/
def reported : HalResolution 31 :=
  ⟨.copy 31 "1080p", .p720x480, .ratio4x3, .other 0, .unknown, false⟩

def platform : ResolutionPlatform Unit 31 where
  hal :=
    { dsGetVideoPort := TableHal.platform.hal.dsGetVideoPort
      dsIsDisplayConnected := fun _ _ => .ok true
      dsGetForceDisable4KSupport := fun _ _ => .ok false
      dsGetResolution := fun _ _ => .ok reported
      dsSetResolution := fun _ _ _ => (.ok (), ()) }
  cachedVideoPortResolutions := TableHal.config.cachedVideoPortResolutions
  hdmiResolutions := TableHal.config.populate .hdmi
  tvProfile := true
  hasOnlyComposite := false

theorem configured : platform.Configured TableHal.config := ⟨rfl, rfl⟩

theorem hasStandards : platform.HasStandards := by
  constructor <;> decide

def state : ResolutionState Unit where
  hal := ()
  dsHDMIResolution := "720p"
  dsCompResolution := "720p"
  dsBBResolution := ""
  dsRFResolution := ""
  store := .ofStoreFile "/opt/persistent/ds/hostData"
  files _ := .absent

/-- 1080p set on the HDMI port, whose resolution it is already. -/
def after : ResolutionState Unit :=
  (state.setVideoPortResolution platform 1 (buildResolutionFromName "1080p") true false).2

/-- The cleared structure stands for 480 lines, which the component port takes over. -/
theorem after_names : (after.dsHDMIResolution, after.dsCompResolution) = ("1080p", "480p") := by
  decide +kernel

end NameOnlyHal

/-- The ports are left in two classes when the HAL's structure under the requested name is persisted
in the place of the request. -/
theorem not_compatible_nameOnly :
    ¬∀ (platform : ResolutionPlatform Unit 31) (config : ResolutionConfig 31),
      platform.Configured config → platform.HasStandards →
      ∀ (state after : ResolutionState Unit) (handle : Int),
      platform.persistedPortType handle ∈ [.hdmi, .internal, .component] →
      ∀ resolution ∈ platform.hdmiResolutions, resolution.name ≠ "" →
      (∀ entry ∈ platform.hdmiResolutions, entry.name = resolution.name →
        entry.pixelResolution ≠ .max) → ∀ force : Bool,
      state.setVideoPortResolution platform handle resolution true force = (.ok (), after) →
      after.CompatibleCaches platform := by
  intro always
  have compatible := always NameOnlyHal.platform TableHal.config NameOnlyHal.configured
    NameOnlyHal.hasStandards NameOnlyHal.state NameOnlyHal.after 1 (by decide)
    (buildResolutionFromName "1080p") (by decide) (by decide) (by decide) false
    (Prod.ext (by decide +kernel) rfl)
  obtain ⟨hdmi, component⟩ := Prod.mk.inj NameOnlyHal.after_names
  rw [ResolutionState.CompatibleCaches, hdmi, component] at compatible
  revert compatible
  decide

end DeviceSettings.VideoPort
