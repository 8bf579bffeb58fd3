import DeviceSettings.Audio.PortValues

/-!
# The speaker

What the volume calls do to the speaker, on a HAL that stores what it is given. The calls on
other ports reach it through the values that `dAudioImpl` keeps once for all ports.
-/

namespace DeviceSettings.Audio

open DeviceSettings.Std
open DeviceSettings.Persistence

/-- The speaker: its values in the HAL, and what `dAudioImpl` keeps for it or for all ports. -/
structure Speaker where
  level : AudioLevel
  muted : Bool
  enabled : Bool
  lastVolumeLevel : AudioLevel
  ducking : Bool
  duckingLevel : Int
  cachedLevel : AudioLevel
  muteStatus : Bool

namespace Speaker

/-- The level that unmuting and enabling bring back. -/
def restoredLevel (speaker : Speaker) : AudioLevel :=
  if speaker.ducking then speaker.duckingLevel else speaker.cachedLevel

/-- A call on the speaker. -/
def own (persistThreadAlive : Bool) (speaker : Speaker) : VolumeCall → Speaker
  | .setAudioLevel _ level =>
    { speaker with
      level := if speaker.ducking then speaker.duckingLevel else level
      lastVolumeLevel := level
      cachedLevel := if persistThreadAlive then level else speaker.cachedLevel }
  | .getAudioLevel _ => { speaker with lastVolumeLevel := speaker.level }
  | .setAudioMute _ mute =>
    { speaker with
      level := if mute then speaker.level else speaker.restoredLevel
      muted := mute
      muteStatus := mute }
  | .enableAudioPort _ enable =>
    { speaker with
      level := if enable && !speaker.muted then speaker.restoredLevel else speaker.level
      enabled := enable }
  | .setAudioDucking _ duckingType duckingAction level =>
    let volume := duckingVolume speaker.lastVolumeLevel duckingType duckingAction level
    { speaker with
      level :=
        if speaker.muteStatus || !speaker.enabled || volume = speaker.duckingLevel then
          speaker.level
        else volume
      ducking := duckingAction == .start
      duckingLevel := volume }

/-- A call on another port, whose level is `portLevel`. -/
def other (portLevel : AudioLevel) (speaker : Speaker) : VolumeCall → Speaker
  | .setAudioLevel _ level => { speaker with lastVolumeLevel := level }
  | .getAudioLevel _ => { speaker with lastVolumeLevel := portLevel }
  | .setAudioMute _ mute => { speaker with muteStatus := mute }
  | .enableAudioPort _ _ => speaker
  | .setAudioDucking _ duckingType duckingAction level =>
    { speaker with
      ducking := duckingAction == .start
      duckingLevel := duckingVolume speaker.lastVolumeLevel duckingType duckingAction level }

end Speaker

section View

variable {σ : Type} {hal : VolumeHal σ} {values : σ → PortValues}

/-- The speaker with this handle, as the plugin and its HAL hold it. -/
def speakerView (values : σ → PortValues) (handle : Int) (state : VolumePlugin σ) : Speaker where
  level := (values state.plugin.hal).level handle
  muted := (values state.plugin.hal).muted handle
  enabled := (values state.plugin.hal).enabled handle
  lastVolumeLevel := state.lastVolumeLevel
  ducking := state.plugin.audio.isDuckingInProgress
  duckingLevel := state.plugin.audio.volumeDuckingLevel
  cachedLevel := state.plugin.audio.audioLevelCache.speaker
  muteStatus := state.muteStatus

variable (stores : hal.Stores values) {speaker : Int}
  (port : ∀ state, hal.dsGetAudioPort state .speaker 0 = .ok speaker)

include stores port in
theorem getAudioPortType_eq_speaker_iff (plugin : Plugin σ) (handle : Int) :
    plugin.getAudioPortType hal.toAudioHal handle = .speaker ↔ handle = speaker := by
  constructor
  · intro found
    have held := Plugin.port_of_getAudioPortType found (by decide)
    rw [port] at held
    exact (Except.ok.inj held).symm
  · rintro rfl
    exact stores.ports.getAudioPortType (by decide) (port plugin.hal)

@[simp] theorem speakerView_persist (handle : Int) (state : VolumePlugin σ) (key : Option String)
    (value : String) :
    speakerView values handle (state.persist key value) = speakerView values handle state := by
  cases key <;> rfl

/-! ### The calls -/

section Calls

variable {state : VolumePlugin σ} (initialized : state.plugin.audio.isInitialized = true)

include stores port in
/-- What `SetAudioLevel` sets in the HAL: the ducking level on a speaker that is ducked, where
it may stand already. -/
theorem exists_applyAudioLevel (state : VolumePlugin σ) (handle : Int) (level : AudioLevel) :
    ∃ next, state.applyAudioLevel hal (state.plugin.getAudioPortType hal.toAudioHal handle) handle
        level = (.ok (), next) ∧
      values next = { values state.plugin.hal with
        level := Function.update (values state.plugin.hal).level handle
          (if handle = speaker ∧ state.plugin.audio.isDuckingInProgress = true then
            (state.plugin.audio.volumeDuckingLevel : AudioLevel)
          else level) } := by
  unfold VolumePlugin.applyAudioLevel
  rw [stores.getsLevel]
  simp only [getAudioPortType_eq_speaker_iff stores port]
  by_cases own : handle = speaker
  · by_cases ducking : state.plugin.audio.isDuckingInProgress = true
    · simp only [own, ducking, true_and, if_true]
      by_cases there : (values state.plugin.hal).level speaker =
          (state.plugin.audio.volumeDuckingLevel : AudioLevel)
      · rw [if_neg (not_not.mpr there)]
        refine ⟨_, rfl, ?_⟩
        rw [← there, Function.update_eq_self]
      · rw [if_pos there]
        exact exists_setsLevel stores.volume _ _ _
    · simp only [own, ducking, Bool.false_eq_true, false_and, and_false, if_true, if_false]
      exact exists_setsLevel stores.volume _ _ _
  · simp only [own, false_and, if_false]
    exact exists_setsLevel stores.volume _ _ _

include stores port initialized in
theorem speakerView_setAudioLevel (handle : Int) (level : AudioLevel) :
    SameService state (state.setAudioLevel hal handle level).2 ∧
      speakerView values speaker (state.setAudioLevel hal handle level).2 =
        if handle = speaker then
          (speakerView values speaker state).own state.persistThreadAlive
            (.setAudioLevel handle level)
        else (speakerView values speaker state).other ((values state.plugin.hal).level handle)
          (.setAudioLevel handle level) := by
  have ready : ¬state.plugin.audio.isInitialized = false := by simp [initialized]
  obtain ⟨next, applied, after⟩ := exists_applyAudioLevel stores port state handle level
  unfold VolumePlugin.setAudioLevel
  rw [if_neg ready]
  dsimp only
  rw [applied]
  dsimp only
  cases alive : state.persistThreadAlive with
  | true =>
      rw [if_pos rfl]
      refine ⟨⟨rfl, alive.symm⟩, ?_⟩
      simp only [speakerView, AudioLevelCache.store_speaker,
        getAudioPortType_eq_speaker_iff stores port, after]
      by_cases own : handle = speaker
      · subst own
        simp only [Speaker.own, true_and, Function.update_self, if_true]
      · simp only [Speaker.other, Function.update_of_ne (Ne.symm own), if_neg own]
  | false =>
      rw [if_neg (by decide)]
      refine ⟨⟨(sameService_persist _ _ _).initialized,
        (sameService_persist _ _ _).alive.trans alive.symm⟩, ?_⟩
      rw [speakerView_persist]
      simp only [speakerView, after]
      by_cases own : handle = speaker
      · subst own
        simp only [Speaker.own, true_and, Function.update_self, if_true, Bool.false_eq_true,
          if_false]
      · simp only [Speaker.other, Function.update_of_ne (Ne.symm own), if_neg own]

include stores initialized in
theorem speakerView_getAudioLevel (handle : Int) :
    SameService state (state.getAudioLevel hal handle).2 ∧
      speakerView values speaker (state.getAudioLevel hal handle).2 =
        if handle = speaker then
          (speakerView values speaker state).own state.persistThreadAlive (.getAudioLevel handle)
        else (speakerView values speaker state).other ((values state.plugin.hal).level handle)
          (.getAudioLevel handle) := by
  have ready : ¬state.plugin.audio.isInitialized = false := by simp [initialized]
  simp only [VolumePlugin.getAudioLevel, if_neg ready, stores.getsLevel]
  refine ⟨⟨rfl, rfl⟩, ?_⟩
  split_ifs with same
  · subst same
    rfl
  · rfl

include stores in
theorem speakerView_applyAudioMute (speaker : Int) (state : VolumePlugin σ) (handle : Int)
    (mute : Bool) :
    SameService state (state.applyAudioMute hal handle mute).2 ∧
      speakerView values speaker (state.applyAudioMute hal handle mute).2 =
        { speakerView values speaker state with
          muted := if handle = speaker then mute else (speakerView values speaker state).muted
          muteStatus := mute } := by
  obtain ⟨next, key, applied, after⟩ := exists_applyAudioMute stores.volume state handle mute
  rw [applied]
  refine ⟨⟨(sameService_persist _ _ _).initialized, (sameService_persist _ _ _).alive⟩, ?_⟩
  rw [speakerView_persist]
  by_cases own : handle = speaker
  · subst own
    simp only [speakerView, after, Function.update_self, if_true]
  · simp only [speakerView, after, Function.update_of_ne (Ne.symm own), if_neg own]

include stores port initialized in
theorem speakerView_setAudioMute (handle : Int) (mute : Bool) :
    SameService state (state.setAudioMute hal handle mute).2 ∧
      speakerView values speaker (state.setAudioMute hal handle mute).2 =
        if handle = speaker then
          (speakerView values speaker state).own state.persistThreadAlive
            (.setAudioMute handle mute)
        else (speakerView values speaker state).other ((values state.plugin.hal).level handle)
          (.setAudioMute handle mute) := by
  have ready : ¬state.plugin.audio.isInitialized = false := by simp [initialized]
  unfold VolumePlugin.setAudioMute
  rw [if_neg ready]
  simp only [getAudioPortType_eq_speaker_iff stores port]
  by_cases restores : mute = false ∧ handle = speaker
  · obtain ⟨rfl, rfl⟩ := restores
    obtain ⟨next, restored, after⟩ :=
      exists_setAudioDuckingAudioLevel stores.volume state.plugin handle
    rw [if_pos ⟨rfl, rfl⟩, restored, if_pos rfl]
    obtain ⟨same, view⟩ := speakerView_applyAudioMute stores handle
      { state with plugin.hal := next } handle false
    refine ⟨⟨same.initialized, same.alive⟩, ?_⟩
    dsimp only
    rw [view]
    simp only [speakerView, after, Function.update_self, Speaker.own, Speaker.restoredLevel,
      Bool.false_eq_true, if_false, if_true]
    rfl
  · obtain ⟨same, view⟩ := speakerView_applyAudioMute stores speaker state handle mute
    rw [if_neg restores, view]
    refine ⟨same, ?_⟩
    by_cases own : handle = speaker
    · have muting : mute = true := by
        cases mute
        · exact absurd ⟨rfl, own⟩ restores
        · rfl
      simp only [if_pos own, muting, Speaker.own, if_true]
    · simp only [if_neg own, Speaker.other]

theorem speakerView_tableOnly (handle : Int) (state : VolumePlugin σ) {plugin : Plugin σ}
    (table : TableOnly values state.plugin plugin) :
    SameService state { state with plugin := plugin } ∧
      speakerView values handle { state with plugin := plugin } =
        speakerView values handle state := by
  obtain ⟨enabled, audio⟩ := table.audio
  refine ⟨⟨?_, rfl⟩, ?_⟩
  · dsimp only
    rw [audio]
  · simp only [speakerView, table.hal, audio]

include stores port initialized in
theorem speakerView_enableAudioPort (handle : Int) (enable : Bool) :
    SameService state (state.enableAudioPort hal handle enable).2 ∧
      speakerView values speaker (state.enableAudioPort hal handle enable).2 =
        if handle = speaker then
          (speakerView values speaker state).own state.persistThreadAlive
            (.enableAudioPort handle enable)
        else (speakerView values speaker state).other ((values state.plugin.hal).level handle)
          (.enableAudioPort handle enable) := by
  obtain ⟨prepared, restored, afterPrepare, afterRestore, table⟩ :=
    exists_enableAudioPort stores.volume initialized handle fun state =>
      have enables := stores.enables state handle enable
      ⟨enables.1, (congrArg (fun held : PortValues => held.enabled handle) enables.2).trans
        (Function.update_self _ _ _)⟩
  have afterEnable := (stores.enables prepared handle enable).2
  obtain ⟨same, view⟩ :=
    speakerView_tableOnly speaker { state with plugin.hal := restored } table
  unfold VolumePlugin.enableAudioPort
  dsimp only
  refine ⟨⟨same.initialized, same.alive⟩, view.trans ?_⟩
  have mutedNow : (values restored).muted = (values state.plugin.hal).muted := by
    rw [afterRestore, afterEnable, afterPrepare]
  have enabledNow : (values restored).enabled =
      Function.update (values state.plugin.hal).enabled handle enable := by
    rw [afterRestore, afterEnable, afterPrepare]
  by_cases own : handle = speaker
  · subst own
    have type : state.plugin.getAudioPortType hal.toAudioHal handle = .speaker :=
      (getAudioPortType_eq_speaker_iff stores port _ _).mpr rfl
    have levelNow : (values restored).level handle =
        if (enable && !(values state.plugin.hal).muted handle) = true then
          (speakerView values handle state).restoredLevel
        else (values state.plugin.hal).level handle := by
      rw [afterRestore, type, restoredLevel_speaker, afterEnable, afterPrepare, type]
      unfold preparedLevel
      by_cases restores : (enable && !(values state.plugin.hal).muted handle) = true
      · rw [if_pos ⟨rfl, restores⟩, if_pos restores]
        exact Function.update_self _ _ _
      · rw [if_neg fun both => restores both.2, if_neg restores]
    simp only [speakerView, levelNow, mutedNow, enabledNow, Function.update_self, Speaker.own,
      if_true]
    rfl
  · have levelNow : (values restored).level speaker = (values state.plugin.hal).level speaker := by
      rw [afterRestore]
      dsimp only
      rw [restoredLevel_of_ne (Ne.symm own), afterEnable, afterPrepare]
      exact preparedLevel_of_ne (Ne.symm own) _ _ _
    simp only [speakerView, levelNow, mutedNow, enabledNow, own, Speaker.other,
      Function.update_of_ne (Ne.symm own), if_false]

include stores initialized in
theorem speakerView_setAudioDucking (handle : Int) (duckingType : AudioDuckingType)
    (duckingAction : AudioDuckingAction) (level : UInt8) :
    SameService state
        (state.setAudioDucking hal handle duckingType duckingAction level).2 ∧
      speakerView values speaker
          (state.setAudioDucking hal handle duckingType duckingAction level).2 =
        if handle = speaker then
          (speakerView values speaker state).own state.persistThreadAlive
            (.setAudioDucking handle duckingType duckingAction level)
        else (speakerView values speaker state).other ((values state.plugin.hal).level handle)
          (.setAudioDucking handle duckingType duckingAction level) := by
  have ready : ¬state.plugin.audio.isInitialized = false := by simp [initialized]
  have enabled : gave (hal.dsIsAudioPortEnabled state.plugin.hal handle) true =
      (values state.plugin.hal).enabled handle := by
    rw [stores.getsEnabled]
    simp [gave]
  unfold VolumePlugin.setAudioDucking
  rw [if_neg ready]
  dsimp only
  rw [enabled]
  by_cases quiet : (state.muteStatus || !(values state.plugin.hal).enabled handle) = true
  · rw [if_pos quiet]
    refine ⟨⟨rfl, rfl⟩, ?_⟩
    split_ifs with same
    · subst same
      simp only [Speaker.own, speakerView, quiet, Bool.true_or, if_true]
    · rfl
  · rw [if_neg quiet]
    by_cases stays : duckingVolume state.lastVolumeLevel duckingType duckingAction level =
        state.plugin.audio.volumeDuckingLevel
    · rw [if_neg (not_not.mpr stays)]
      refine ⟨⟨rfl, rfl⟩, ?_⟩
      split_ifs with same
      · simp only [Speaker.own, speakerView, stays, decide_true, Bool.or_true, if_true]
      · simp only [Speaker.other, speakerView, stays]
    · obtain ⟨next, set, after⟩ := exists_setsLevel stores.volume state.plugin.hal handle
        (duckingVolume state.lastVolumeLevel duckingType duckingAction level : Int)
      rw [if_pos stays, set]
      refine ⟨⟨rfl, rfl⟩, ?_⟩
      split_ifs with same
      · subst same
        rw [Bool.not_eq_true] at quiet
        simp only [Speaker.own, speakerView, after, Function.update_self, quiet, stays,
          decide_false, Bool.or_false, Bool.false_eq_true, if_false]
      · simp only [Speaker.other, speakerView, after,
          Function.update_of_ne (Ne.symm same)]

include stores port initialized in
/-- The plugin over its HAL does to the speaker what the calls say. -/
theorem speakerView_perform (call : VolumeCall) :
    SameService state (state.perform hal call) ∧
      speakerView values speaker (state.perform hal call) =
        if call.handle = speaker then
          (speakerView values speaker state).own state.persistThreadAlive call
        else (speakerView values speaker state).other
          ((values state.plugin.hal).level call.handle) call := by
  cases call with
  | setAudioLevel handle level => exact speakerView_setAudioLevel stores port initialized _ _
  | getAudioLevel handle => exact speakerView_getAudioLevel stores initialized _
  | setAudioMute handle mute => exact speakerView_setAudioMute stores port initialized _ _
  | enableAudioPort handle enable =>
      exact speakerView_enableAudioPort stores port initialized _ _
  | setAudioDucking handle duckingType duckingAction level =>
      exact speakerView_setAudioDucking stores initialized _ _ _ _

include stores port initialized in
theorem speakerView_perform_own {call : VolumeCall} (own : call.handle = speaker) :
    speakerView values speaker (state.perform hal call) =
      (speakerView values speaker state).own state.persistThreadAlive call :=
  (speakerView_perform stores port initialized call).2.trans (if_pos own)

include stores port initialized in
theorem speakerView_perform_other {call : VolumeCall} (other : call.handle ≠ speaker) :
    speakerView values speaker (state.perform hal call) =
      (speakerView values speaker state).other ((values state.plugin.hal).level call.handle) call :=
  (speakerView_perform stores port initialized call).2.trans (if_neg other)

end Calls
end View
end DeviceSettings.Audio
