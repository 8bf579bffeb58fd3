import DeviceSettings.VideoPort.Resolution

/-!
# The platform's resolution tables

The HAL library configures one list of resolutions and the names that each port type supports of
it. The list of a type and the cache over all types are taken from it, and agree on the names that
they share.
-/

namespace DeviceSettings.VideoPort

open DeviceSettings.Std

/-- The configuration of the HAL library: the settings of all resolutions and the names that the
configured port types support. -/
structure ResolutionConfig (room : Nat) where
  resolutionsSettings : List (HalResolution room)
  supportedResolutions : List (DsVideoPortType × List (HalName room))

/-- The port types in the order of their numbers. -/
def portTypes : List DsVideoPortType :=
  [.rf, .bb, .svideo, .ieee1394, .dvi, .component, .hdmi, .internal]

namespace ResolutionConfig

variable {room : Nat} (config : ResolutionConfig room)

/-- A setting as the plugin has it: the fields are cast one by one. -/
def resCfg (cfg : HalResolution room) : VideoPortResolution :=
  ⟨cfg.name.text, cfg.pixelResolution, cfg.aspectRatio, cfg.stereoScopicMode, cfg.frameRate,
    cfg.interlaced⟩

/-- `PopulateVideoPortResolutionConfig(videoPortType, resolutions)`. -/
def populate (videoPortType : DsVideoPortType) : List VideoPortResolution :=
  match config.supportedResolutions.find? fun typeConfig => typeConfig.1 == videoPortType with
  | none => []
  | some typeConfig =>
    (config.resolutionsSettings.filter fun cfg => typeConfig.2.contains cfg.name).map resCfg

/-- The names seen before are passed over. -/
def insertUnseen (cached : List VideoPortResolution) (r : VideoPortResolution) :
    List VideoPortResolution :=
  if cached.any fun seen => seen.name == r.name then cached else cached ++ [r]

/-- `_cachedVideoPortResolutions`, once it is filled. -/
def cachedVideoPortResolutions : List VideoPortResolution :=
  (portTypes.flatMap config.populate).foldl insertUnseen []

/-- The setting that is found under the name. -/
def setting (name : String) : Option VideoPortResolution :=
  (config.resolutionsSettings.find? fun cfg => cfg.name.text == name).map resCfg

variable {config} {name : String}

/-- Under a name that occurs before nothing is added. -/
theorem find?_insertUnseen (cached rest : List VideoPortResolution) :
    (rest.foldl insertUnseen cached).find? (fun r => r.name == name) =
      (cached ++ rest).find? fun r => r.name == name := by
  induction rest generalizing cached with
  | nil => rw [List.foldl_nil, List.append_nil]
  | cons r rest ih =>
      rw [List.foldl_cons, ih, insertUnseen]
      split_ifs with seen
      · obtain ⟨first, member, same⟩ := List.any_eq_true.mp seen
        rw [List.find?_append, List.find?_append, List.find?_cons]
        by_cases named : r.name = name
        · have found : (cached.find? fun r => r.name == name).isSome = true :=
            List.find?_isSome.mpr ⟨first, member, by rw [← named]; exact same⟩
          obtain ⟨entry, found⟩ := Option.isSome_iff_exists.mp found
          rw [found, Option.some_or, Option.some_or]
        · rw [beq_false_of_ne named]
      · rw [List.append_assoc, List.singleton_append]

/-- A type's list has the setting of each name it supports. -/
theorem find?_populate (videoPortType : DsVideoPortType) :
    (config.populate videoPortType).find? (fun r => r.name == name) = none ∨
      (config.populate videoPortType).find? (fun r => r.name == name) = config.setting name := by
  unfold populate setting
  cases config.supportedResolutions.find? fun typeConfig => typeConfig.1 == videoPortType with
  | none => exact .inl rfl
  | some typeConfig =>
      dsimp only
      rw [List.find?_map, List.find?_filter]
      by_cases supported : ∃ known ∈ typeConfig.2, known.text = name
      · -- the filter does not stop a setting of this name
        obtain ⟨known, member, rfl⟩ := supported
        have same : (fun cfg : HalResolution room =>
            decide (typeConfig.2.contains cfg.name = true ∧
              ((fun r => r.name == known.text) ∘ resCfg) cfg = true)) =
            fun cfg => cfg.name.text == known.text := by
          funext cfg
          by_cases named : cfg.name.text = known.text
          · simp [resCfg, HalName.ext named, member]
          · simp [resCfg, named]
        rw [same]
        exact .inr rfl
      · refine .inl (Option.map_eq_none_iff.mpr (List.find?_eq_none.mpr fun cfg _ => ?_))
        intro found
        simp only [decide_eq_true_eq, List.contains_iff_mem, Function.comp_apply, beq_iff_eq,
          resCfg] at found
        exact supported ⟨cfg.name, found.1, found.2⟩

/-- The cache has the entry of every type's list. -/
theorem find?_cachedVideoPortResolutions {videoPortType : DsVideoPortType}
    {entry : VideoPortResolution}
    (listed : (config.populate videoPortType).find? (fun r => r.name == name) = some entry) :
    config.cachedVideoPortResolutions.find? (fun r => r.name == name) = some entry := by
  have agreed : ∀ type, (config.populate type).find? (fun r => r.name == name) = none ∨
      (config.populate type).find? (fun r => r.name == name) = some entry := by
    have isSetting : some entry = config.setting name := by
      have populated : (config.populate videoPortType).find? (fun r => r.name == name) = none ∨
          (config.populate videoPortType).find? (fun r => r.name == name) = config.setting name :=
        find?_populate videoPortType
      rcases populated with none | found
      · rw [listed] at none
        cases none
      · rw [← listed, found]
    intro type
    rw [isSetting]
    exact find?_populate type
  rw [cachedVideoPortResolutions, find?_insertUnseen, List.nil_append, List.find?_flatMap]
  have known : videoPortType ∈ portTypes := by cases videoPortType <;> decide
  revert known
  generalize portTypes = types
  intro known
  induction types with
  | nil => cases known
  | cons type rest ih =>
      rw [List.findSome?_cons]
      rcases agreed type with none | found
      · rw [none]
        refine ih ((List.mem_cons.mp known).resolve_left ?_)
        rintro rfl
        rw [listed] at none
        cases none
      · rw [found]

end ResolutionConfig

/-- The platform's tables are those of the configuration. -/
structure ResolutionPlatform.Configured {σ : Type} {room : Nat}
    (platform : ResolutionPlatform σ room) (config : ResolutionConfig room) : Prop where
  cached : platform.cachedVideoPortResolutions = config.cachedVideoPortResolutions
  hdmi : platform.hdmiResolutions = config.populate .hdmi

end DeviceSettings.VideoPort
