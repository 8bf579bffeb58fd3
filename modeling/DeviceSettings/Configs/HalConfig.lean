import DeviceSettings.VideoPort.ResolutionTable

/-!
# The configuration tables of the HAL

`DeviceSettingsHALConfig.cpp` loads the tables that the HAL library exports, each with the symbol
of its size, and copies them into the structures of the plugin interface. An enumeration stands for
its number, which the casts keep.
-/

namespace DeviceSettings.Configs

open DeviceSettings.VideoPort

/-! ### The entries of the tables -/

/-- `dsFPDColorConfig_t`, and `FPDColorConfig` with the same fields. -/
structure FPDColorConfig where
  id : Int
  color : Nat
  deriving DecidableEq, Repr

/-- `FPDIndicatorConfig`. -/
structure FPDIndicatorConfig where
  id : Int
  maxBrightness : Int
  maxCycleRate : Int
  minBrightness : Int
  levels : Int
  colorMode : Int
  deriving DecidableEq, Repr

/-- `dsFPDIndicatorConfig_t`. -/
structure DsFPDIndicatorConfig extends FPDIndicatorConfig where
  /-- `supportedColors != nullptr`. -/
  hasSupportedColors : Bool

/-- `dsFPDTextDisplayConfig_t`. -/
structure DsFPDTextDisplayConfig where
  id : Int
  name : Option String
  maxBrightness : Int
  maxCycleRate : Int
  supportedCharacters : Option String
  columns : Int
  rows : Int
  maxHorizontalIterations : Int
  maxVerticalIterations : Int
  levels : Int
  colorMode : Int
  /-- `supportedColors != nullptr`. -/
  hasSupportedColors : Bool

/-- `FPDTextDisplayConfig`. -/
structure FPDTextDisplayConfig where
  id : Int
  name : String
  maxBrightness : Int
  maxCycleRate : Int
  supportedCharacters : String
  columns : Int
  rows : Int
  maxHorizontalIterations : Int
  maxVerticalIterations : Int
  levels : Int
  colorMode : Int
  deriving DecidableEq, Repr

inductive FPDColorTarget where
  | indicator
  | textDisplay
  deriving DecidableEq, Repr

structure FPDColorBinding where
  targetType : FPDColorTarget
  targetId : Int
  colorId : Int
  deriving DecidableEq, Repr

/-- `dsAudioTypeConfig_t`; the lists are the arrays, where they are not NULL. -/
structure DsAudioTypeConfig where
  typeId : Int
  name : Option String
  compressions : Option (List Int)
  numSupportedCompressions : Nat
  encodings : Option (List Int)
  numSupportedEncodings : Nat
  stereoModes : Option (List Int)
  numSupportedStereoModes : Nat

structure AudioTypeConfigInfo where
  typeId : Int
  name : String
  supportedCompressionMask : Nat
  supportedEncodingMask : Nat
  supportedStereoModeMask : Nat
  deriving DecidableEq, Repr

/-- The type and the index of a port. -/
structure PortId where
  type : Int
  index : Int
  deriving DecidableEq, Repr

/-- `dsAudioPortConfig_t`; of `connectedVOPs` only the first port is read. -/
structure DsAudioPortConfig where
  id : PortId
  connectedVOPs : Option PortId

structure AudioPortConfigInfo where
  audioPortType : Int
  audioPortIndex : Int
  connectedVideoPortType : Int
  connectedVideoPortIndex : Int
  deriving DecidableEq, Repr

/-- `dsVideoPortTypeConfig_t`. -/
structure DsVideoPortTypeConfig (room : Nat) where
  typeId : DsVideoPortType
  name : Option String
  dtcpSupported : Bool
  hdcpSupported : Bool
  restrictedResollution : Int
  supportedResolutions : Option (List (HalResolution room))
  numSupportedResolutions : Nat

structure VideoPortTypeConfig where
  typeId : DsVideoPortType
  name : String
  dtcpSupported : Bool
  hdcpSupported : Bool
  restrictedResolution : Int
  supportedResolutionNames : String
  deriving DecidableEq, Repr

/-- `dsVideoPortPortConfig_t`. -/
structure DsVideoPortPortConfig where
  id : PortId
  connectedAOP : PortId
  defaultResolution : Option String

structure VideoPortPortConfig where
  videoPortType : Int
  videoPortIndex : Int
  connectedAudioPortType : Int
  connectedAudioPortIndex : Int
  defaultResolution : String
  deriving DecidableEq, Repr

/-- `dsVideoConfig_t`. -/
structure DsVideoConfig where
  numSupportedDFCs : Nat
  supportedDFCs : Option (List Int)
  defaultDFC : Int

structure VideoDeviceConfigInfo where
  numSupportedDFCs : Nat
  supportedDFCsMask : Nat
  defaultDFC : Int
  deriving DecidableEq, Repr

/-! ### Loading -/

/-- The symbol of a table and the symbol of its size, where `dlsym` finds them. -/
structure HalTable (α : Type) where
  entries : Option (List α)
  size : Option Int

/-- The entries that the loops go through, where both symbols are found. -/
def HalTable.load {α : Type} (table : HalTable α) : Option (List α) := do
  let entries ← table.entries
  let size ← table.size
  return entries.take size.toNat

/-- The configuration symbols of the HAL library. -/
structure HalLibrary (room : Nat) where
  kFPDIndicatorColors : HalTable FPDColorConfig
  kIndicators : HalTable DsFPDIndicatorConfig
  kFPDTextDisplays : HalTable DsFPDTextDisplayConfig
  kAudioConfigs : HalTable DsAudioTypeConfig
  kAudioPorts : HalTable DsAudioPortConfig
  kVideoPortConfigs : HalTable (DsVideoPortTypeConfig room)
  kVideoPortPorts : HalTable DsVideoPortPortConfig
  kResolutionsSettings : HalTable (HalResolution room)
  kVideoDeviceConfigs : HalTable DsVideoConfig

/-- `fpdConfigs_t`. -/
structure FpdConfigs where
  pKFPDIndicatorColors : List FPDColorConfig
  pKIndicators : List DsFPDIndicatorConfig
  pKTextDisplays : List DsFPDTextDisplayConfig

/-- `audioConfigs_t`. -/
structure AudioConfigs where
  pKConfigs : List DsAudioTypeConfig
  pKPorts : List DsAudioPortConfig

/-- `videoPortConfigs_t`. -/
structure VideoPortConfigs (room : Nat) where
  pKConfigs : List (DsVideoPortTypeConfig room)
  pKPorts : List DsVideoPortPortConfig
  pKResolutionsSettings : List (HalResolution room)

section Loading

variable {room : Nat} (library : Option (HalLibrary room))

/-- `LoadFrontPanelConfigFromHAL`; the library is `none` where `dlopen` fails. -/
def loadFrontPanelConfigFromHAL : Option FpdConfigs := do
  let symbols ← library
  let pKFPDIndicatorColors ← symbols.kFPDIndicatorColors.load
  let pKIndicators ← symbols.kIndicators.load
  let pKTextDisplays ← symbols.kFPDTextDisplays.load
  return ⟨pKFPDIndicatorColors, pKIndicators, pKTextDisplays⟩

/-- `LoadAudioConfigFromHAL`. -/
def loadAudioConfigFromHAL : Option AudioConfigs := do
  let symbols ← library
  let pKConfigs ← symbols.kAudioConfigs.load
  let pKPorts ← symbols.kAudioPorts.load
  return ⟨pKConfigs, pKPorts⟩

/-- `LoadVideoPortConfigFromHAL`. -/
def loadVideoPortConfigFromHAL : Option (VideoPortConfigs room) := do
  let symbols ← library
  let pKConfigs ← symbols.kVideoPortConfigs.load
  let pKPorts ← symbols.kVideoPortPorts.load
  let pKResolutionsSettings ← symbols.kResolutionsSettings.load
  return ⟨pKConfigs, pKPorts, pKResolutionsSettings⟩

/-- `LoadVideoDeviceConfigFromHAL`. -/
def loadVideoDeviceConfigFromHAL : Option (List DsVideoConfig) := do
  let symbols ← library
  symbols.kVideoDeviceConfigs.load

end Loading

/-! ### Masks -/

/-- `ToEnumMask(values, count)`: the values are compared as `uint32_t`. -/
def toEnumMask (values : List Int) : Nat :=
  values.foldl (fun mask (value : Int) =>
    if value % 2 ^ 32 < 32 then mask ||| 1 <<< (value % 2 ^ 32).toNat else mask) 0

/-- `ToVideoZoomMask(values, count)`: the values are compared as `int32_t`. -/
def toVideoZoomMask (values : List Int) : Nat :=
  values.foldl (fun mask (value : Int) =>
    if 0 ≤ value ∧ value < 32 then mask ||| 1 <<< value.toNat else mask) 0

/-- The mask of an array with its count, and 0 for NULL. -/
def maskOf (mask : List Int → Nat) (values : Option (List Int)) (count : Nat) : Nat :=
  match values with
  | some array => mask (array.take count)
  | none => 0

/-- The two masks are the same for the values of an `int32_t`. -/
theorem toEnumMask_eq {values : List Int}
    (narrow : ∀ value ∈ values, -2 ^ 31 ≤ value ∧ value < 2 ^ 31) :
    toEnumMask values = toVideoZoomMask values := by
  unfold toEnumMask toVideoZoomMask
  refine List.foldl_ext _ _ 0 fun mask value member => ?_
  obtain ⟨low, high⟩ := narrow value member
  by_cases negative : value < 0
  · rw [if_neg (by omega), if_neg (by omega)]
  · have same : value % 2 ^ 32 = value := by omega
    rw [same]
    refine if_congr ⟨fun small => ⟨by omega, small⟩, fun small => small.2⟩ rfl rfl

/-! ### Copies of the entries -/

/-- `kDefaultSupportedCharacters`. -/
def defaultSupportedCharacters : String := "ABCEDFG"

/-- `textDisplayCfg`. -/
def textDisplayCfg (cfg : DsFPDTextDisplayConfig) : FPDTextDisplayConfig where
  id := cfg.id
  name := cfg.name.getD ""
  maxBrightness := cfg.maxBrightness
  maxCycleRate := cfg.maxCycleRate
  supportedCharacters := cfg.supportedCharacters.getD defaultSupportedCharacters
  columns := cfg.columns
  rows := cfg.rows
  maxHorizontalIterations := cfg.maxHorizontalIterations
  maxVerticalIterations := cfg.maxVerticalIterations
  levels := cfg.levels
  colorMode := cfg.colorMode

/-- The bindings of an indicator or a text display: one for each colour, where it has colours. -/
def bindings (colors : List FPDColorConfig) (targetType : FPDColorTarget) (targetId : Int)
    (hasSupportedColors : Bool) : List FPDColorBinding :=
  if hasSupportedColors then colors.map fun color => ⟨targetType, targetId, color.id⟩ else []

/-- `typeCfg` of `PopulateAudioConfig`. -/
def audioTypeCfg (cfg : DsAudioTypeConfig) : AudioTypeConfigInfo where
  typeId := cfg.typeId
  name := cfg.name.getD ""
  supportedCompressionMask := maskOf toEnumMask cfg.compressions cfg.numSupportedCompressions
  supportedEncodingMask := maskOf toEnumMask cfg.encodings cfg.numSupportedEncodings
  supportedStereoModeMask := maskOf toEnumMask cfg.stereoModes cfg.numSupportedStereoModes

/-- `portCfg` of `PopulateAudioConfig`. -/
def audioPortCfg (cfg : DsAudioPortConfig) : AudioPortConfigInfo where
  audioPortType := cfg.id.type
  audioPortIndex := cfg.id.index
  connectedVideoPortType := (cfg.connectedVOPs.map PortId.type).getD (-1)
  connectedVideoPortIndex := (cfg.connectedVOPs.map PortId.index).getD (-1)

/-- The names that a video port type supports. -/
def supportedNames {room : Nat} (cfg : DsVideoPortTypeConfig room) : List (HalName room) :=
  ((cfg.supportedResolutions.getD []).take cfg.numSupportedResolutions).map HalResolution.name

/-- `typeCfg` of `PopulateVideoPortConfig`. -/
def videoPortTypeCfg {room : Nat} (cfg : DsVideoPortTypeConfig room) : VideoPortTypeConfig where
  typeId := cfg.typeId
  name := cfg.name.getD ""
  dtcpSupported := cfg.dtcpSupported
  hdcpSupported := cfg.hdcpSupported
  restrictedResolution := cfg.restrictedResollution
  supportedResolutionNames := ",".intercalate ((supportedNames cfg).map HalName.text)

/-- `portCfg` of `PopulateVideoPortConfig`. -/
def videoPortCfg (cfg : DsVideoPortPortConfig) : VideoPortPortConfig where
  videoPortType := cfg.id.type
  videoPortIndex := cfg.id.index
  connectedAudioPortType := cfg.connectedAOP.type
  connectedAudioPortIndex := cfg.connectedAOP.index
  defaultResolution := cfg.defaultResolution.getD ""

/-- `videoCfg`. -/
def videoCfg (cfg : DsVideoConfig) : VideoDeviceConfigInfo where
  numSupportedDFCs := cfg.numSupportedDFCs % 2 ^ 32
  supportedDFCsMask := maskOf toVideoZoomMask cfg.supportedDFCs cfg.numSupportedDFCs
  defaultDFC := cfg.defaultDFC

/-! ### What the library's tables populate -/

/-- The four vectors of `PopulateFPDConfig`. -/
structure FPDVectors where
  colors : List FPDColorConfig
  indicators : List FPDIndicatorConfig
  textDisplays : List FPDTextDisplayConfig
  colorBindings : List FPDColorBinding

section Populating

variable {room : Nat} (library : Option (HalLibrary room))

/-- `PopulateFPDConfig`: the vectors are cleared before anything is added. -/
def populateFPDConfig : FPDVectors :=
  match loadFrontPanelConfigFromHAL library with
  | none => ⟨[], [], [], []⟩
  | some halConfig =>
    let colors := halConfig.pKFPDIndicatorColors
    { colors := colors
      indicators := halConfig.pKIndicators.map DsFPDIndicatorConfig.toFPDIndicatorConfig
      textDisplays := halConfig.pKTextDisplays.map textDisplayCfg
      colorBindings :=
        (halConfig.pKIndicators.flatMap fun cfg =>
          bindings colors .indicator cfg.id cfg.hasSupportedColors) ++
        halConfig.pKTextDisplays.flatMap fun cfg =>
          bindings colors .textDisplay cfg.id cfg.hasSupportedColors }

/-- `PopulateAudioConfig(audioTypes, audioPorts)`. -/
def populateAudioConfig : List AudioTypeConfigInfo × List AudioPortConfigInfo :=
  match loadAudioConfigFromHAL library with
  | none => ([], [])
  | some halConfig => (halConfig.pKConfigs.map audioTypeCfg, halConfig.pKPorts.map audioPortCfg)

/-- `PopulateVideoPortConfig(videoPortTypes, videoPorts)`. -/
def populateVideoPortConfig : List VideoPortTypeConfig × List VideoPortPortConfig :=
  match loadVideoPortConfigFromHAL library with
  | none => ([], [])
  | some halConfig =>
    (halConfig.pKConfigs.map videoPortTypeCfg, halConfig.pKPorts.map videoPortCfg)

/-- The tables as `PopulateVideoPortResolutionConfig` reads them. -/
def VideoPortConfigs.resolutionConfig (halConfig : VideoPortConfigs room) :
    ResolutionConfig room where
  resolutionsSettings := halConfig.pKResolutionsSettings
  supportedResolutions := halConfig.pKConfigs.map fun cfg => (cfg.typeId, supportedNames cfg)

/-- `PopulateVideoPortResolutionConfig(videoPortType, resolutions)`. -/
def populateVideoPortResolutionConfig (videoPortType : DsVideoPortType) :
    List VideoPortResolution :=
  match loadVideoPortConfigFromHAL library with
  | none => []
  | some halConfig => halConfig.resolutionConfig.populate videoPortType

/-- `PopulateVideoDeviceConfig(videoDeviceConfigs)`. -/
def populateVideoDeviceConfig : List VideoDeviceConfigInfo :=
  match loadVideoDeviceConfigFromHAL library with
  | none => []
  | some halConfig => halConfig.map videoCfg

end Populating
end DeviceSettings.Configs
