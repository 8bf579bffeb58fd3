import DeviceSettings.Controller.Fallback
import DeviceSettings.HdmiOutput.Resolutions
import DeviceSettings.Persistence.RoundTrip

/-!
# Resolution names between the controller, the store and the AIDL port

The controller and the legacy port write some modes with a frame rate that `kVicTable` leaves out,
or the other way round. The AIDL port then refuses the name, or passes over it.
-/

namespace DeviceSettings.Controller

open DeviceSettings.Std
open DeviceSettings.Persistence
open DeviceSettings.HdmiOutput
open DeviceSettings.VideoPort

/-- `isResInEdid(name)` over the names of the EDID. -/
def isResInEdid (edidSupportedNames : List String) (name : String) : Bool :=
  name != "" && edidSupportedNames.contains name

/-- The names that the AIDL port understands. -/
def vicNames : List String := kVicTable.map VicResolutionEntry.name

/-- Names that the controller generates and `kVicTable` spells otherwise. -/
def misspelled : List String := ["2160p60", "1080p60", "1080i25", "576p"]

/-- All names that `SetResolution` tries, the persisted one first. -/
def triedNames (isEUPlatform : Bool) (name : String) : List String :=
  name :: fallbackNames isEUPlatform name

theorem resolutionNameToVic_isSome {name : String} :
    (resolutionNameToVic name).isSome = true ↔ name ∈ vicNames := by
  rw [resolutionNameToVic, Option.isSome_map, List.find?_isSome, vicNames, List.mem_map]
  refine exists_congr fun entry => and_congr Iff.rfl ?_
  rw [beq_iff_eq, eq_comm]

/-- `SetResolution` picks the first of the names tried that the EDID has. -/
theorem selectResolution_eq_set_iff {isEUPlatform : Bool} {offered : String → Bool}
    {name picked : String} :
    selectResolution isEUPlatform offered name = .set picked ↔
      (triedNames isEUPlatform name).find? offered = some picked := by
  rw [triedNames, List.find?_cons]
  cases direct : offered name with
  | true =>
      simp [selectResolution, direct]
  | false =>
      rw [selectResolution_fallback isEUPlatform direct]
      cases (fallbackNames isEUPlatform name).find? offered with
      | some fallback => simp
      | none =>
          dsimp only
          split_ifs <;> simp

/-- Of the names on the ladder the AIDL port understands all but the misspelled ones. -/
theorem ladder_understood (isEUPlatform : Bool) :
    ∀ name ∈ ladder isEUPlatform, name ≠ "" → (name ∈ vicNames ↔ name ∉ misspelled) := by
  cases isEUPlatform <;> decide

section Setting

variable {σ : Type} {platform : OutputPlatform σ} {state : OutputState σ} {handle device : Int}

/-- A connected output, 4K not disabled, whose HAL applies every VIC. -/
structure ReadyOutput (platform : OutputPlatform σ) (state : OutputState σ)
    (handle device : Int) : Prop where
  opened : findDevice state.videoPort.devices handle = some device
  connected : platform.hal.getHotPlugDetectState state.hal device = some true
  allowed : state.videoPort.force4KDisabled = false
  applies : ∀ hal output vic, (platform.hal.setVic hal output vic).1 = true

/-- On such an output a name succeeds when the table has it. -/
theorem setVideoPortResolution_ok_iff (ready : ReadyOutput platform state handle device)
    {resolution : VideoPortResolution} {persist forceCompatibility : Bool} :
    .returned (.ok ()) ∈ (state.setVideoPortResolution platform handle resolution persist
        forceCompatibility).2 ↔ resolution.name ∈ vicNames := by
  rw [← resolutionNameToVic_isSome]
  unfold OutputState.setVideoPortResolution
  rw [ready.opened]
  cases named : resolutionNameToVic resolution.name with
  | none => simp
  | some vic =>
      simp only [ready.connected, ready.allowed, ready.applies, Option.some.injEq,
        Bool.true_eq_false, if_false, Bool.false_and, if_true, Bool.false_eq_true]
      split_ifs
      · split <;> simp
      · simp

/-- What `SetResolution` picks for the output is set on it. -/
def PicksUnderstood (platform : OutputPlatform σ) (state : OutputState σ) (handle : Int)
    (isEUPlatform : Bool) (edidSupportedNames : List String) (name : String) : Prop :=
  ∀ resolution : VideoPortResolution,
    selectResolution isEUPlatform (isResInEdid edidSupportedNames) name = .set resolution.name →
    .returned (.ok ()) ∈
      (state.setVideoPortResolution platform handle resolution false false).2

/-- The persisted name is one of the table if the EDID has it. Else the first of the fallbacks
that the EDID has is spelled as in the table. -/
structure OffersUnderstood (isEUPlatform : Bool) (edidSupportedNames : List String)
    (name : String) : Prop where
  direct : isResInEdid edidSupportedNames name = true → name ∈ vicNames
  fallback : isResInEdid edidSupportedNames name = false → ∀ fbResn,
    (fallbackNames isEUPlatform name).find? (isResInEdid edidSupportedNames) = some fbResn →
      fbResn ∉ misspelled

/-- A fallback that the EDID has is in the table unless it is misspelled. -/
theorem fallback_understood {isEUPlatform : Bool} {edidSupportedNames : List String}
    {name fbResn : String}
    (found : (fallbackNames isEUPlatform name).find? (isResInEdid edidSupportedNames) =
      some fbResn) : fbResn ∈ vicNames ↔ fbResn ∉ misspelled := by
  have offered := List.find?_some found
  simp only [isResInEdid, Bool.and_eq_true, bne_iff_ne] at offered
  exact ladder_understood isEUPlatform fbResn
    (mem_ladder_of_fallback (List.mem_of_find?_eq_some found)) offered.1

theorem offersUnderstood_iff {isEUPlatform : Bool} {edidSupportedNames : List String}
    {name : String} :
    OffersUnderstood isEUPlatform edidSupportedNames name ↔
      ∀ picked, (triedNames isEUPlatform name).find? (isResInEdid edidSupportedNames) =
          some picked → picked ∈ vicNames := by
  constructor
  · intro offers picked found
    rw [triedNames, List.find?_cons] at found
    split at found
    next direct =>
      obtain rfl := Option.some.inj found
      exact offers.direct direct
    next absent => exact (fallback_understood found).mpr (offers.fallback absent picked found)
  · intro understood
    refine ⟨fun direct => understood name ?_, fun absent fbResn found => ?_⟩
    · rw [triedNames, List.find?_cons, direct]
    · refine (fallback_understood found).mp (understood fbResn ?_)
      rw [triedNames, List.find?_cons, absent]
      exact found

theorem picksUnderstood_iff (ready : ReadyOutput platform state handle device)
    {isEUPlatform : Bool} {edidSupportedNames : List String} {name : String} :
    PicksUnderstood platform state handle isEUPlatform edidSupportedNames name ↔
      OffersUnderstood isEUPlatform edidSupportedNames name := by
  rw [offersUnderstood_iff]
  constructor
  · intro understood picked found
    have sets := understood (buildResolutionFromName picked)
      (selectResolution_eq_set_iff.mpr (by rw [name_buildResolutionFromName]; exact found))
    rw [setVideoPortResolution_ok_iff ready, name_buildResolutionFromName] at sets
    exact sets
  · intro understood resolution picks
    exact (setVideoPortResolution_ok_iff ready).mpr
      (understood resolution.name (selectResolution_eq_set_iff.mp picks))

end Setting

section Stored

variable {σ : Type} {platform : OutputPlatform σ} {state : OutputState σ} {handle device : Int}

/-- A name of the table comes back from its VIC. -/
theorem name_of_row :
    ∀ name ∈ vicNames, ((resolutionNameToVic name).bind vicToResolution).map
      VideoPortResolution.name = some name := by
  decide

theorem name_of_vicToResolution {vic : Vic} {resolution : VideoPortResolution}
    (found : vicToResolution vic = some resolution) : resolution.name ∈ vicNames := by
  obtain ⟨entry, first, rfl⟩ := Option.map_eq_some_iff.mp found
  exact List.mem_map_of_mem (List.mem_of_find?_eq_some first)

/-- Whatever the output says, the name is one of the table. -/
theorem name_of_currentResolution {resolution : VideoPortResolution}
    (answered : state.currentResolution platform device = .ok resolution) :
    resolution.name ∈ vicNames := by
  unfold OutputState.currentResolution at answered
  split at answered
  · exact nomatch answered
  next value _ =>
    obtain rfl := Except.ok.inj answered
    cases found : vicToResolution (value.getD (.other 0)) with
    | none => decide
    | some resolution => exact name_of_vicToResolution found

/-- What the output reports is named like this. -/
def Reports (platform : OutputPlatform σ) (state : OutputState σ) (handle : Int)
    (name : String) : Prop :=
  ∃ resolution, state.getVideoPortResolution platform handle = .ok resolution ∧
    resolution.name = name

/-- Without a display the persisted name is reported when the table has it. -/
theorem reports_persisted_iff (opened : findDevice state.videoPort.devices handle = some device)
    (disconnected : platform.hal.getHotPlugDetectState state.hal device = some false) :
    Reports platform state handle state.videoPort.persistedResolution ↔
      state.videoPort.persistedResolution ∈ vicNames := by
  simp only [Reports, OutputState.getVideoPortResolution, opened, if_pos disconnected,
    OutputState.persistedEntry]
  constructor
  · rintro ⟨resolution, answered, same⟩
    rw [← same]
    split at answered
    next persisted found =>
      obtain rfl := Except.ok.inj answered
      obtain ⟨vic, -, mapped⟩ := Option.bind_eq_some_iff.mp found
      exact name_of_vicToResolution mapped
    next => exact name_of_currentResolution answered
  · intro known
    obtain ⟨resolution, found, same⟩ := Option.map_eq_some_iff.mp (name_of_row _ known)
    exact ⟨resolution, by rw [found], same⟩

/-- A restart loads the resolution from the store file. -/
theorem restart_persistedResolution {videoPort videoDevice : Opening} {hal : σ} {name : String}
    (stored : (reload state.files platform.storeFile).find? "HDMI0.resolution" = some name) :
    (state.restart platform videoPort videoDevice hal).videoPort.persistedResolution = name := by
  have named : ¬"HDMI0.resolution" = "" := by decide
  have switch : ¬OutputState.force4KKey = "" := by decide
  have loaded : ((HostPersistence.ofStoreFile platform.storeFile).ensureInitialized
      state.files).properties = reload state.files platform.storeFile := rfl
  simp only [OutputState.restart, OutputState.getPersistenceValue,
    HostPersistence.getPropertyOr, if_neg named, if_neg switch,
    HostPersistence.ensureInitialized_idem, loaded, stored]
  cases (reload state.files platform.storeFile).find? OutputState.force4KKey with
  | none => rfl
  | some value => rfl

theorem reports_stored_iff {videoPort videoDevice : Opening} {hal : σ} {name : String}
    (opened : findDevice videoPort.devices handle = some device)
    (disconnected : platform.hal.getHotPlugDetectState hal device = some false)
    (stored : (reload state.files platform.storeFile).find? "HDMI0.resolution" = some name) :
    Reports platform (state.restart platform videoPort videoDevice hal) handle name ↔
      name ∈ vicNames := by
  have found : findDevice (state.restart platform videoPort videoDevice hal).videoPort.devices
      handle = some device := by
    rw [OutputState.videoPort_devices_restart]
    exact opened
  have absent : platform.hal.getHotPlugDetectState
      (state.restart platform videoPort videoDevice hal).hal device = some false := by
    rw [OutputState.hal_restart]
    exact disconnected
  have reports := reports_persisted_iff found absent
  rw [restart_persistedResolution stored] at reports
  exact reports

end Stored

/-- A name that `SetResolution` picks for a connected output is set on it if and only if it is
the persisted one and in the table, or a fallback and not misspelled. The stored name is
reported for a disconnected output if and only if it is in the table. -/
theorem names_understood_iff {σ : Type} (platform : OutputPlatform σ) (state : OutputState σ)
    (handle device : Int) :
    (ReadyOutput platform state handle device →
      ∀ (isEUPlatform : Bool) (edidSupportedNames : List String) (name : String),
        PicksUnderstood platform state handle isEUPlatform edidSupportedNames name ↔
          OffersUnderstood isEUPlatform edidSupportedNames name) ∧
    ∀ (videoPort videoDevice : Opening) (hal : σ) (name : String),
      findDevice videoPort.devices handle = some device →
      platform.hal.getHotPlugDetectState hal device = some false →
      (reload state.files platform.storeFile).find? "HDMI0.resolution" = some name →
      (Reports platform (state.restart platform videoPort videoDevice hal) handle name ↔
        name ∈ vicNames) := by
  constructor
  · intro ready isEUPlatform edidSupportedNames name
    exact picksUnderstood_iff ready
  · intro videoPort videoDevice hal name opened disconnected stored
    exact reports_stored_iff opened disconnected stored

namespace LegacyNames

/-- One output that is connected in state `true`, and has 1080p60 set. -/
def platform : OutputPlatform Bool where
  hal :=
    { getHotPlugDetectState := fun connected _ => some connected
      getVic := fun _ _ => some (some .vic16_1920_1080_p_60_16_9)
      setVic := fun connected _ _ => (true, connected) }
  tvProfile := false
  storeFile := "/opt/persistent/ds/hostData"

def opening : Opening := ⟨some [1], fun _ => true⟩

/-- The store file of a device whose legacy port had this resolution. -/
def upgraded (name : String) : OutputState Bool where
  hal := true
  videoPort := ⟨opening.devices, "2160p", false⟩
  videoDevice := ⟨opening.devices⟩
  store := .ofStoreFile platform.storeFile
  files := fun _ => Slot.absent.create.append ("HDMI0.resolution " ++ name ++ "\n").toList

theorem ready (name : String) : ReadyOutput platform (upgraded name) 1 1 :=
  ⟨rfl, rfl, rfl, fun _ _ _ => rfl⟩

theorem stored_1080p60 : (reload (upgraded "1080p60").files platform.storeFile).find?
    "HDMI0.resolution" = some "1080p60" := by
  decide +kernel

end LegacyNames

theorem names_understood_iff_1080p60 :
    (PicksUnderstood LegacyNames.platform (LegacyNames.upgraded "1080p60") 1 false
        ["720p", "480p"] "1080p60" ↔ OffersUnderstood false ["720p", "480p"] "1080p60") ∧
      (Reports LegacyNames.platform ((LegacyNames.upgraded "1080p60").restart
        LegacyNames.platform LegacyNames.opening LegacyNames.opening false) 1 "1080p60" ↔
          "1080p60" ∈ vicNames) :=
  have settled := names_understood_iff LegacyNames.platform (LegacyNames.upgraded "1080p60") 1 1
  ⟨settled.1 (LegacyNames.ready _) _ _ _,
    settled.2 _ LegacyNames.opening false "1080p60" rfl rfl LegacyNames.stored_1080p60⟩

/-- 1080p60 is refused as a fallback from 2160p, and the stored 1080p60 is not reported. -/
theorem name_1080p60_not_understood :
    ¬PicksUnderstood LegacyNames.platform (LegacyNames.upgraded "1080p60") 1 false
        ["1080p60", "720p"] "2160p" ∧
      ¬Reports LegacyNames.platform ((LegacyNames.upgraded "1080p60").restart
        LegacyNames.platform LegacyNames.opening LegacyNames.opening false) 1 "1080p60" := by
  constructor
  · intro understood
    have offers := (picksUnderstood_iff (LegacyNames.ready "1080p60")).mp understood
    exact absurd (offers.fallback (by decide) "1080p60" (by decide)) (by decide)
  · intro reports
    have known : "1080p60" ∈ vicNames :=
      (reports_stored_iff rfl rfl LegacyNames.stored_1080p60).mp reports
    exact absurd known (by decide)

end DeviceSettings.Controller
