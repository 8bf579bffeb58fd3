import DeviceSettings.Audio.StereoStartup
import DeviceSettings.Audio.Volume
import DeviceSettings.Persistence.LoadedStore
import DeviceSettings.VideoDevice.Settings
import DeviceSettings.VideoPort.ColorDepth

/-!
# What a failed setter leaves behind

Five of the setters below change nothing but the HAL when they fail. `DisableHDR` and
`SetStereoAuto` persist the request all the same, and `SetAudioDucking` keeps the ducking flag
it has set.
-/

namespace DeviceSettings

open DeviceSettings.Std
open DeviceSettings.Persistence
open DeviceSettings.VideoPort
open DeviceSettings.VideoDevice
open DeviceSettings.Audio

/-- When the call fails, what it leaves behind is as required. -/
def LeavesNoTrace {State : Type} (called : Except CoreError Unit × State)
    (kept : State → Prop) : Prop :=
  called.1 ≠ .ok () → kept called.2

section Calls

variable {State : Type} {kept : State → Prop} {after : State}

/-- A call that succeeds has nothing to leave as it was. -/
theorem LeavesNoTrace.ok : LeavesNoTrace (.ok (), after) kept :=
  fun fails => absurd rfl fails

theorem LeavesNoTrace.of_kept {result : Except CoreError Unit} (unchanged : kept after) :
    LeavesNoTrace (result, after) kept :=
  fun _ => unchanged

theorem leavesNoTrace_error_iff {error : CoreError} :
    LeavesNoTrace (.error error, after) kept ↔ kept after :=
  ⟨fun leaves => leaves (nomatch ·), fun unchanged => .of_kept unchanged⟩

end Calls

variable {σ : Type}

/-! ### The resolution, the color depth and the 4K switch -/

/-- The map and the cached resolutions are as before. -/
structure ResolutionsKept (before after : ResolutionState σ) : Prop where
  map : after.store.map after.files = before.store.map before.files
  dsHDMIResolution : after.dsHDMIResolution = before.dsHDMIResolution
  dsCompResolution : after.dsCompResolution = before.dsCompResolution
  dsBBResolution : after.dsBBResolution = before.dsBBResolution
  dsRFResolution : after.dsRFResolution = before.dsRFResolution

theorem ResolutionsKept.of_hal (state : ResolutionState σ) (hal : σ) :
    ResolutionsKept state { state with hal := hal } :=
  ⟨rfl, rfl, rfl, rfl, rfl⟩

theorem ResolutionsKept.refl (state : ResolutionState σ) : ResolutionsKept state state :=
  .of_hal state state.hal

section Resolution

variable {room : Nat} (platform : ResolutionPlatform σ room) (colorDepth : ColorDepthHal σ)
  (bits : ColorDepthBits) (state : ResolutionState σ) (handle : Int)

theorem applyResolution_leavesNoTrace (portType : DsVideoPortType)
    (dsResolution : HalResolution room) (persist forceCompatibility : Bool) :
    LeavesNoTrace
      (state.applyResolution platform portType handle dsResolution persist forceCompatibility)
      (ResolutionsKept state) := by
  unfold ResolutionState.applyResolution
  obtain ⟨answer, hal⟩ := platform.hal.dsSetResolution state.hal handle dsResolution
  cases answer with
  | error error =>
      dsimp only
      split
      · split_ifs
        · exact .ok
        · exact .of_kept (.of_hal state hal)
      · exact .of_kept (.of_hal state hal)
  | ok _ =>
      dsimp only
      split
      · split_ifs <;> exact .ok
      · exact .ok

theorem setVideoPortResolution_leavesNoTrace (resolution : VideoPortResolution)
    (persist forceCompatibility : Bool) :
    LeavesNoTrace
      (state.setVideoPortResolution platform handle resolution persist forceCompatibility)
      (ResolutionsKept state) := by
  unfold ResolutionState.setVideoPortResolution
  dsimp only
  split
  · exact .of_kept (.refl state)
  · split_ifs
    · exact .of_kept (.refl state)
    · exact .of_kept (.refl state)
    · exact applyResolution_leavesNoTrace platform state handle _ _ persist forceCompatibility

theorem setPreferredColorDepth_leavesNoTrace (depth : UInt32) (persist : Bool) :
    LeavesNoTrace (state.setPreferredColorDepth colorDepth bits handle depth persist)
      (ResolutionsKept state) := by
  unfold ResolutionState.setPreferredColorDepth
  dsimp only
  split_ifs with unconnected same
  · exact .of_kept (.refl state)
  · exact .ok
  · exact .ok
  · split
    · exact .ok
    · exact .of_kept (.of_hal state _)
  · split
    · exact .ok
    · exact .of_kept (.of_hal state _)

theorem setForceDisable4K_leavesNoTrace (disable : Bool) :
    LeavesNoTrace (state.setForceDisable4K colorDepth handle disable)
      (ResolutionsKept state) := by
  unfold ResolutionState.setForceDisable4K
  split
  · exact .ok
  · exact .of_kept (.of_hal state _)

end Resolution

/-! ### Zoom and HDR -/

/-- The map, the zoom and the HDR flag are as before. -/
structure VideoDeviceKept (before after : VideoDeviceState σ) : Prop where
  map : after.store.map after.files = before.store.map before.files
  srvDfc : after.srvDfc = before.srvDfc
  forceDisableHdr : after.forceDisableHdr = before.forceDisableHdr

section VideoDevice

variable (device : VideoDeviceHal σ) (state : VideoDeviceState σ) (handle : Int)

theorem VideoDeviceKept.of_hal (hal : σ) : VideoDeviceKept state { state with hal := hal } :=
  ⟨rfl, rfl, rfl⟩

theorem applyDfc_leavesNoTrace (dsZoom : DsVideoZoom) :
    LeavesNoTrace (state.applyDfc device handle dsZoom) (VideoDeviceKept state) := by
  unfold VideoDeviceState.applyDfc
  split
  · exact .of_kept (.of_hal state state.hal)
  · split
    · exact .ok
    · exact .of_kept (.of_hal state _)

/-- The zoom mode of the HDMI input is the HAL's. -/
theorem setVideoDeviceDFC_leavesNoTrace (zoomSetting : VideoDeviceZoom) :
    LeavesNoTrace (state.setVideoDeviceDFC device handle zoomSetting)
      (VideoDeviceKept state) := by
  have applied := applyDfc_leavesNoTrace device state handle (convertVideoDeviceZoom zoomSetting)
  unfold VideoDeviceState.setVideoDeviceDFC
  dsimp only
  split_ifs
  · intro fails
    have kept := applied fails
    exact ⟨kept.map, kept.srvDfc, kept.forceDisableHdr⟩
  · exact applied

/-- Flag and property say already what is asked for. -/
structure HdrSettled (state : VideoDeviceState σ) (disable : Bool) : Prop where
  flag : state.forceDisableHdr = disable
  stored : (state.store.map state.files).find? forceHDRDisabledKey =
    some (if disable then "true" else "false")

theorem videoDeviceKept_disableHDR_iff (disable : Bool) :
    VideoDeviceKept state (state.disableHDR device handle disable).2 ↔
      HdrSettled state disable := by
  have accepted : forceHDRDisabledKey ≠ "" ∧ (if disable then "true" else "false") ≠ "" := by
    cases disable <;> decide
  have bound : ((state.disableHDR device handle disable).2.store.map
      (state.disableHDR device handle disable).2.files = state.store.map state.files) ↔ _ :=
    HostPersistence.map_persistHostProperty_eq_iff accepted
  constructor
  · rintro ⟨map, -, flag⟩
    exact ⟨flag.symm, bound.mp map⟩
  · rintro ⟨flag, stored⟩
    exact ⟨bound.mpr stored, rfl, flag.symm⟩

/-- `dsForceDisableHDRSupport` is there and fails. -/
def HdrFails (device : VideoDeviceHal σ) (state : VideoDeviceState σ) (handle : Int)
    (disable : Bool) : Prop :=
  ∃ error, (state.callDisableHDR device handle disable).1 = .error error

theorem disableHDR_leavesNoTrace_iff (disable : Bool) :
    LeavesNoTrace (state.disableHDR device handle disable) (VideoDeviceKept state) ↔
      (HdrFails device state handle disable → HdrSettled state disable) := by
  have kept := videoDeviceKept_disableHDR_iff device state handle disable
  have result : (state.disableHDR device handle disable).1 ≠ .ok () ↔
      HdrFails device state handle disable := by
    unfold VideoDeviceState.disableHDR HdrFails
    cases called : (state.callDisableHDR device handle disable).1 <;> simp [called]
  unfold LeavesNoTrace
  rw [result, kept]

end VideoDevice

/-! ### Stereo modes and ducking -/

/-- The map and what `dAudioImpl` keeps of its ports are as before. -/
structure AudioKept (before after : Plugin σ) : Prop where
  map : after.store.map after.files = before.store.map before.files
  audio : after.audio = before.audio

/-- So are the configured modes and the auto flags. -/
structure StereoKept (before after : StereoPlugin σ) : Prop where
  plugin : AudioKept before.plugin after.plugin
  globals : after.globals = before.globals

section Stereo

variable (hal : StereoAutoHal σ) (state : StereoPlugin σ) (handle : Int)

theorem StereoKept.of_hal (halState : σ) : StereoKept state { state with plugin.hal := halState } :=
  ⟨⟨rfl, rfl⟩, rfl⟩

theorem StereoKept.refl : StereoKept state state := .of_hal state state.plugin.hal

theorem setStereoMode_leavesNoTrace (mode : AudioStereoMode) (persist : Bool) :
    LeavesNoTrace (state.setStereoMode hal.toStereoHal handle mode persist)
      (StereoKept state) := by
  unfold StereoPlugin.setStereoMode
  dsimp only
  split_ifs
  · exact .of_kept (.refl state)
  · exact .of_kept (.refl state)
  · split
    · exact .of_kept (.of_hal state _)
    · exact .ok
  · split
    · exact .of_kept (.of_hal state _)
    · exact .ok

/-- The port is one that the HAL is asked for, and the HAL refuses. -/
structure AutoFails (hal : StereoAutoHal σ) (state : StereoPlugin σ) (handle autoMode : Int) :
    Prop where
  initialized : state.plugin.audio.isInitialized = true
  asked : state.plugin.getAudioPortType hal.toAudioHal handle = .hdmiArc ∨
    state.plugin.getAudioPortType hal.toAudioHal handle = .spdif
  refused : ∃ error, (hal.dsSetStereoAuto state.plugin.hal handle autoMode).1 = .error error

/-- The auto flag of the port is in the store already. -/
def AutoStored (hal : StereoAutoHal σ) (state : StereoPlugin σ) (handle autoMode : Int) : Prop :=
  ∀ key, audioModeAutoKey (state.plugin.getAudioPortType hal.toAudioHal handle) = some key →
    (state.plugin.store.map state.plugin.files).find? key = some (autoString autoMode)

theorem hal_persistStereoAuto (portType : DsAudioPortType) (autoMode : Int) :
    (state.persistStereoAuto portType autoMode).plugin.hal = state.plugin.hal := by
  unfold StereoPlugin.persistStereoAuto
  cases audioModeAutoKey portType <;> rfl

/-- Persisting leaves all but the map as it was. -/
theorem stereoKept_persistStereoAuto_iff (portType : DsAudioPortType) (autoMode : Int) :
    StereoKept state (state.persistStereoAuto portType autoMode) ↔
      ∀ key, audioModeAutoKey portType = some key →
        (state.plugin.store.map state.plugin.files).find? key = some (autoString autoMode) := by
  cases named : audioModeAutoKey portType with
  | none =>
      simp only [StereoPlugin.persistStereoAuto, named, reduceCtorEq, false_implies, implies_true,
        iff_true]
      exact .refl state
  | some key =>
      have accepted : key ≠ "" ∧ autoString autoMode ≠ "" := by
        constructor
        · cases portType <;> cases named <;> decide
        · unfold autoString
          split_ifs <;> decide
      have bound : ((state.persistStereoAuto portType autoMode).plugin.store.map
          (state.persistStereoAuto portType autoMode).plugin.files =
            state.plugin.store.map state.plugin.files) ↔
          (state.plugin.store.map state.plugin.files).find? key = some (autoString autoMode) := by
        simp only [StereoPlugin.persistStereoAuto, named]
        exact HostPersistence.map_persistHostProperty_eq_iff accepted
      simp only [Option.some.injEq, forall_eq']
      rw [← bound]
      constructor
      · exact fun kept => kept.plugin.map
      · intro map
        refine ⟨⟨map, ?_⟩, ?_⟩ <;> simp only [StereoPlugin.persistStereoAuto, named]

/-- The HAL is asked after the map is written, and its own state is not what is compared. -/
theorem stereoKept_withHal_iff (next : StereoPlugin σ) (halState : σ) :
    StereoKept state { next with plugin.hal := halState } ↔ StereoKept state next :=
  ⟨fun kept => ⟨⟨kept.plugin.map, kept.plugin.audio⟩, kept.globals⟩,
    fun kept => ⟨⟨kept.plugin.map, kept.plugin.audio⟩, kept.globals⟩⟩

/-- What the call has done by the time it asks the HAL. -/
theorem stereoKept_persisted_iff (autoMode : Int) (persist : Bool) :
    StereoKept state (if persist = true then
        state.persistStereoAuto (state.plugin.getAudioPortType hal.toAudioHal handle) autoMode
      else state) ↔
      (persist = true → AutoStored hal state handle autoMode) := by
  cases persist with
  | false => exact iff_of_true (.refl state) fun persisted => absurd persisted Bool.false_ne_true
  | true =>
      rw [if_pos rfl, stereoKept_persistStereoAuto_iff]
      exact ⟨fun stored _ => stored, fun stored => stored rfl⟩

theorem setStereoAuto_leavesNoTrace_iff (autoMode : Int) (persist : Bool) :
    LeavesNoTrace (state.setStereoAuto hal handle autoMode persist) (StereoKept state) ↔
      (AutoFails hal state handle autoMode → persist = true →
        AutoStored hal state handle autoMode) := by
  by_cases initialized : state.plugin.audio.isInitialized = true
  swap
  · have unready : state.plugin.audio.isInitialized = false := Bool.eq_false_iff.mpr initialized
    refine iff_of_true ?_ fun fails => absurd fails.initialized initialized
    unfold StereoPlugin.setStereoAuto
    rw [if_pos unready]
    exact .of_kept (.refl state)
  have ready : ¬state.plugin.audio.isInitialized = false := by simp [initialized]
  unfold StereoPlugin.setStereoAuto
  rw [if_neg ready]
  generalize written : (if persist = true then
    state.persistStereoAuto (state.plugin.getAudioPortType hal.toAudioHal handle) autoMode
      else state) = next
  have sameHal : next.plugin.hal = state.plugin.hal := by
    rw [← written]
    split_ifs
    · exact hal_persistStereoAuto state _ autoMode
    · rfl
  have kept := stereoKept_persisted_iff hal state handle autoMode persist
  rw [written] at kept
  dsimp only
  rw [written]
  by_cases asked : state.plugin.getAudioPortType hal.toAudioHal handle = .hdmiArc ∨
      state.plugin.getAudioPortType hal.toAudioHal handle = .spdif
  · rw [if_pos asked, sameHal]
    cases called : hal.dsSetStereoAuto state.plugin.hal handle autoMode with
    | mk answer halState =>
      cases answer with
      | error error =>
          have fails : AutoFails hal state handle autoMode :=
            ⟨initialized, asked, error, by rw [called]⟩
          dsimp only
          rw [leavesNoTrace_error_iff, stereoKept_withHal_iff, kept]
          exact ⟨fun stored _ => stored, fun stored => stored fails⟩
      | ok _ =>
          refine iff_of_true .ok fun fails => ?_
          obtain ⟨error, refused⟩ := fails.refused
          rw [called] at refused
          cases refused
  · rw [if_neg asked]
    exact iff_of_true .ok fun fails => absurd fails.asked asked

end Stereo

section Ducking

variable (hal : VolumeHal σ) (state : VolumePlugin σ) (handle : Int)

/-- So are the level, the mute state and the thread that persists levels. -/
structure VolumeKept (before after : VolumePlugin σ) : Prop where
  plugin : AudioKept before.plugin after.plugin
  muteStatus : after.muteStatus = before.muteStatus
  lastVolumeLevel : after.lastVolumeLevel = before.lastVolumeLevel
  persistThreadAlive : after.persistThreadAlive = before.persistThreadAlive

/-- The volume is to be changed, and the HAL refuses. -/
structure DuckingFails (hal : VolumeHal σ) (state : VolumePlugin σ) (handle : Int)
    (duckingType : AudioDuckingType) (duckingAction : AudioDuckingAction) (level : UInt8) :
    Prop where
  initialized : state.plugin.audio.isInitialized = true
  unmuted : state.muteStatus = false
  enabled : hal.dsIsAudioPortEnabled state.plugin.hal handle = .ok true
  changes : duckingVolume state.lastVolumeLevel duckingType duckingAction level ≠
    state.plugin.audio.volumeDuckingLevel
  refused : ∃ error, (hal.dsSetAudioLevel state.plugin.hal handle
    (duckingVolume state.lastVolumeLevel duckingType duckingAction level)).1 = .error error

theorem setAudioDucking_leavesNoTrace_iff (duckingType : AudioDuckingType)
    (duckingAction : AudioDuckingAction) (level : UInt8) :
    LeavesNoTrace (state.setAudioDucking hal handle duckingType duckingAction level)
        (VolumeKept state) ↔
      (DuckingFails hal state handle duckingType duckingAction level →
        state.plugin.audio.isDuckingInProgress = (duckingAction == .start)) := by
  unfold VolumePlugin.setAudioDucking
  by_cases initialized : state.plugin.audio.isInitialized = true
  swap
  · have unready : state.plugin.audio.isInitialized = false := Bool.eq_false_iff.mpr initialized
    rw [if_pos unready]
    exact iff_of_true (.of_kept ⟨⟨rfl, rfl⟩, rfl, rfl, rfl⟩)
      fun fails => absurd fails.initialized initialized
  have ready : ¬state.plugin.audio.isInitialized = false := by simp [initialized]
  rw [if_neg ready]
  dsimp only
  by_cases ignored : (state.muteStatus ||
      !gave (hal.dsIsAudioPortEnabled state.plugin.hal handle) true) = true
  · rw [if_pos ignored]
    refine iff_of_true .ok fun fails => ?_
    have enabled := gave_iff.mpr fails.enabled
    simp [fails.unmuted, enabled] at ignored
  rw [if_neg ignored]
  by_cases changes : duckingVolume state.lastVolumeLevel duckingType duckingAction level ≠
      state.plugin.audio.volumeDuckingLevel
  swap
  · rw [if_neg changes]
    exact iff_of_true .ok fun fails => absurd fails.changes changes
  rw [if_pos changes]
  cases called : hal.dsSetAudioLevel state.plugin.hal handle
      (duckingVolume state.lastVolumeLevel duckingType duckingAction level) with
  | mk answer halState =>
    cases answer with
    | ok _ =>
        refine iff_of_true .ok fun fails => ?_
        obtain ⟨error, refused⟩ := fails.refused
        rw [called] at refused
        cases refused
    | error error =>
        have heard : state.muteStatus = false ∧
            gave (hal.dsIsAudioPortEnabled state.plugin.hal handle) true = true := by
          simpa using ignored
        have fails : DuckingFails hal state handle duckingType duckingAction level :=
          ⟨initialized, heard.1, gave_iff.mp heard.2, changes, error, by rw [called]⟩
        dsimp only
        rw [leavesNoTrace_error_iff]
        constructor
        · intro kept _
          exact (congrArg AudioImpl.isDuckingInProgress kept.plugin.audio).symm
        · intro flag
          refine ⟨⟨rfl, ?_⟩, rfl, rfl, rfl⟩
          simp only [← flag fails]

end Ducking

/-- The setters other than `DisableHDR`, `SetStereoAuto` and `SetAudioDucking` leave no trace
when they fail. These three leave none if and only if, where the HAL refuses, the state has the
requested setting already. -/
theorem failed_setters_leave_no_trace_iff {σ : Type} {room : Nat}
    (platform : ResolutionPlatform σ room) (colorDepth : ColorDepthHal σ)
    (bits : ColorDepthBits) (device : VideoDeviceHal σ) (stereo : StereoAutoHal σ)
    (volume : VolumeHal σ) (handle : Int) :
    (∀ (state : ResolutionState σ) (resolution : VideoPortResolution)
        (persist forceCompatibility : Bool),
      LeavesNoTrace
        (state.setVideoPortResolution platform handle resolution persist forceCompatibility)
        (ResolutionsKept state)) ∧
    (∀ (state : ResolutionState σ) (depth : UInt32) (persist : Bool),
      LeavesNoTrace (state.setPreferredColorDepth colorDepth bits handle depth persist)
        (ResolutionsKept state)) ∧
    (∀ (state : ResolutionState σ) (disable : Bool),
      LeavesNoTrace (state.setForceDisable4K colorDepth handle disable)
        (ResolutionsKept state)) ∧
    (∀ (state : VideoDeviceState σ) (zoomSetting : VideoDeviceZoom),
      LeavesNoTrace (state.setVideoDeviceDFC device handle zoomSetting)
        (VideoDeviceKept state)) ∧
    (∀ (state : VideoDeviceState σ) (disable : Bool),
      LeavesNoTrace (state.disableHDR device handle disable) (VideoDeviceKept state) ↔
        (HdrFails device state handle disable → HdrSettled state disable)) ∧
    (∀ (state : StereoPlugin σ) (mode : AudioStereoMode) (persist : Bool),
      LeavesNoTrace (state.setStereoMode stereo.toStereoHal handle mode persist)
        (StereoKept state)) ∧
    (∀ (state : StereoPlugin σ) (autoMode : Int) (persist : Bool),
      LeavesNoTrace (state.setStereoAuto stereo handle autoMode persist) (StereoKept state) ↔
        (AutoFails stereo state handle autoMode → persist = true →
          AutoStored stereo state handle autoMode)) ∧
    ∀ (state : VolumePlugin σ) (duckingType : AudioDuckingType)
        (duckingAction : AudioDuckingAction) (level : UInt8),
      LeavesNoTrace (state.setAudioDucking volume handle duckingType duckingAction level)
          (VolumeKept state) ↔
        (DuckingFails volume state handle duckingType duckingAction level →
          state.plugin.audio.isDuckingInProgress = (duckingAction == .start)) :=
  ⟨fun state => setVideoPortResolution_leavesNoTrace platform state handle,
    fun state => setPreferredColorDepth_leavesNoTrace colorDepth bits state handle,
    fun state => setForceDisable4K_leavesNoTrace colorDepth state handle,
    fun state => setVideoDeviceDFC_leavesNoTrace device state handle,
    fun state => disableHDR_leavesNoTrace_iff device state handle,
    fun state => setStereoMode_leavesNoTrace stereo state handle,
    fun state => setStereoAuto_leavesNoTrace_iff stereo state handle,
    fun state => setAudioDucking_leavesNoTrace_iff volume state handle⟩

namespace RefusingHal

/-- A port for HDMI ARC, enabled, whose HAL refuses every setting. -/
def audio : AudioHal Unit where
  dsGetAudioPort _ type _ := if type = .hdmiArc then .ok 1 else .error .operationNotSupported
  dsIsAudioPortEnabled _ _ := .ok true
  dsIsAudioMute _ _ := .ok false
  dsEnableAudioPort _ _ _ := (.error .general, ())
  dsSetAudioLevel _ _ _ := (.error .general, ())
  dsSetAudioDelay _ _ _ := (.error .general, ())

def stereo : StereoAutoHal Unit where
  toAudioHal := audio
  dsGetStereoMode _ _ := .ok .stereo
  dsSetStereoMode _ _ _ := (.error .general, ())
  dsSetStereoAuto _ _ _ := (.error .general, ())

def volume : VolumeHal Unit where
  toAudioHal := audio
  dsGetAudioLevel _ _ := .ok 50
  dsSetAudioMute _ _ _ := (.error .general, ())

def device : VideoDeviceHal Unit where
  dsSetDFC _ _ _ := (.error .general, ())
  dsHdmiInSelectZoomMode _ _ := ()
  dsForceDisableHDRSupport := some fun _ _ _ => (.error .general, ())
  tvProfile := false

def store : HostPersistence := .ofStoreFile "/opt/persistent/ds/hostData"

def plugin : Plugin Unit where
  hal := ()
  audio := ⟨true, false, 0, ⟨50, 50, 50, 50⟩, fun _ => true⟩
  store := store
  files _ := .absent

def stereoState : StereoPlugin Unit where
  plugin := plugin
  globals := ⟨.stereo, .stereo, .stereo, .surround, false, false, false, true⟩

def volumeState : VolumePlugin Unit where
  plugin := plugin
  muteStatus := false
  lastVolumeLevel := 50
  persistThreadAlive := false

def deviceState : VideoDeviceState Unit where
  hal := ()
  srvDfc := .full
  forceDisableHdr := false
  store := store
  files _ := .absent

end RefusingHal

/-- After a refused `DisableHDR(true)`, `SetStereoAuto(1)` and start of ducking, the HDR flag, the
stored auto flag and the ducking flag are those of the calls. -/
theorem failed_setters_leave_traces :
    ¬LeavesNoTrace (RefusingHal.deviceState.disableHDR RefusingHal.device 0 true)
        (VideoDeviceKept RefusingHal.deviceState) ∧
      ¬LeavesNoTrace (RefusingHal.stereoState.setStereoAuto RefusingHal.stereo 1 1 true)
        (StereoKept RefusingHal.stereoState) ∧
      ¬LeavesNoTrace
        (RefusingHal.volumeState.setAudioDucking RefusingHal.volume 1 .absolute .start 20)
        (VolumeKept RefusingHal.volumeState) := by
  refine ⟨fun leaves => ?_, fun leaves => ?_, fun leaves => ?_⟩
  · have settled := (disableHDR_leavesNoTrace_iff _ _ _ _).mp leaves ⟨.general, rfl⟩
    cases settled.flag
  · have stored := (setStereoAuto_leavesNoTrace_iff _ _ _ _ _).mp leaves
      ⟨rfl, .inl rfl, .general, rfl⟩ rfl _ rfl
    cases stored
  · have fails : DuckingFails RefusingHal.volume RefusingHal.volumeState 1 .absolute .start 20 :=
      ⟨rfl, rfl, rfl, by decide +kernel, .general, rfl⟩
    have flag := (setAudioDucking_leavesNoTrace_iff _ _ _ _ _ _).mp leaves fails
    cases flag

end DeviceSettings
