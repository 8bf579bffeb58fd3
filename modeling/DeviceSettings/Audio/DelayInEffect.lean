import DeviceSettings.Audio.PortSettingsRestart

/-!
# The delay in effect

`GetAudioDelay` reports the stored delay. `SetAudioDelay` stores every delay but passes it on only
where the table of `EnableAudioPort` has the port, and that table begins empty whatever the HAL has
enabled.
-/

namespace DeviceSettings.Audio

open DeviceSettings.Std
open DeviceSettings.Persistence

/-- The calls that the delay of a port depends on. -/
inductive DelayCall where
  | setAudioDelay (handle : Int) (audioDelay : UInt32)
  | enableAudioPort (handle : Int) (enable : Bool)
  deriving DecidableEq

namespace DelayCall

/-- The port a call is for. -/
def handle : DelayCall → Int
  | .setAudioDelay handle _ | .enableAudioPort handle _ => handle

/-- The call enables or disables the port with this handle. -/
def enables (handle : Int) : DelayCall → Bool
  | .setAudioDelay _ _ => false
  | .enableAudioPort other _ => other = handle

/-- The delay a call asks for on the port with this handle. -/
def delayFor (handle : Int) : DelayCall → Option UInt32
  | .setAudioDelay other audioDelay => if other = handle then some audioDelay else none
  | .enableAudioPort _ _ => none

/-- What a call leaves behind. -/
def run {σ : Type} (hal : PortSettingsHal σ) (state : VolumePlugin σ) :
    DelayCall → VolumePlugin σ
  | .setAudioDelay handle audioDelay => (state.setAudioDelay hal handle audioDelay).2
  | .enableAudioPort handle enable => (state.enableAudioPort hal.toVolumeHal handle enable).2

end DelayCall

/-! ### One port -/

/-- A port: its delay in the HAL, the delay that is reported, whether the HAL has it enabled, and
whether `_audioPortEnabled` has it. -/
structure DelayPort where
  delay : Nat
  reported : Nat
  enabled : Bool
  tracked : Bool

namespace DelayPort

/-- A call on the port. -/
def own (port : DelayPort) : DelayCall → DelayPort
  | .setAudioDelay _ audioDelay =>
    { port with
      delay := if port.tracked then audioDelay.toNat else port.delay
      reported := audioDelay.toNat }
  | .enableAudioPort _ enable =>
    { port with
      delay := if enable then port.reported else port.delay
      enabled := enable
      tracked := enable }

/-- What a call does to the port with this handle. -/
def perform (handle : Int) (port : DelayPort) (call : DelayCall) : DelayPort :=
  if call.handle = handle then port.own call else port

/-- The delay in effect is the reported one. -/
def Agrees (port : DelayPort) : Prop := port.enabled = true → port.delay = port.reported

/-- The table knows what the HAL has enabled, and the delays are the same. -/
structure Consistent (port : DelayPort) : Prop where
  tracked : port.tracked = port.enabled
  agrees : port.Agrees

variable {handle : Int}

theorem consistent_own {port : DelayPort} (consistent : port.Consistent) (call : DelayCall) :
    (port.own call).Consistent := by
  cases call with
  | setAudioDelay other audioDelay =>
      exact ⟨consistent.tracked, fun enabled => if_pos (consistent.tracked.trans enabled)⟩
  | enableAudioPort other enable => exact ⟨rfl, fun enabled => if_pos enabled⟩

theorem consistent_foldl {port : DelayPort} (consistent : port.Consistent)
    (calls : List DelayCall) : (calls.foldl (perform handle) port).Consistent := by
  refine List.foldlRecOn calls (perform handle) consistent fun port consistent call _ => ?_
  unfold perform
  split_ifs
  · exact consistent_own consistent call
  · exact consistent

/-- Enabling or disabling a port makes it consistent, whatever it was before. -/
theorem consistent_enableAudioPort (port : DelayPort) (other : Int) (enable : Bool) :
    (port.own (.enableAudioPort other enable)).Consistent :=
  ⟨rfl, fun enabled => if_pos enabled⟩

/-- The calls before the port is enabled or disabled for the first time. -/
def beforeEnabling (handle : Int) (calls : List DelayCall) : List DelayCall :=
  calls.takeWhile fun call => !call.enables handle

/-- The delays agree behind every prefix of the calls. -/
def AgreesThroughout (handle : Int) (port : DelayPort) (calls : List DelayCall) : Prop :=
  ∀ earlier, earlier <+: calls → (earlier.foldl (perform handle) port).Agrees

theorem agreesThroughout_nil (port : DelayPort) :
    AgreesThroughout handle port [] ↔ port.Agrees := by
  simp [AgreesThroughout]

theorem agreesThroughout_cons (port : DelayPort) (call : DelayCall) (calls : List DelayCall) :
    AgreesThroughout handle port (call :: calls) ↔
      port.Agrees ∧ AgreesThroughout handle (port.perform handle call) calls := by
  unfold AgreesThroughout
  constructor
  · intro agree
    refine ⟨agree [] List.nil_prefix, fun earlier within => ?_⟩
    exact agree (call :: earlier) ((List.prefix_cons_inj call).mpr within)
  · rintro ⟨first, rest⟩ earlier within
    rcases List.prefix_cons_iff.mp within with rfl | ⟨later, rfl, inside⟩
    · exact first
    · exact rest later inside

theorem agreesThroughout_of_consistent {port : DelayPort} (consistent : port.Consistent)
    (calls : List DelayCall) : AgreesThroughout handle port calls :=
  fun earlier _ => (consistent_foldl consistent earlier).agrees

/-- A port that was enabled behind the table's back agrees throughout exactly when it does at
first, and is asked for no other delay until it is enabled or disabled. -/
theorem agreesThroughout_iff_of_enabled {port : DelayPort} (enabled : port.enabled = true)
    (untracked : port.tracked = false) (calls : List DelayCall) :
    AgreesThroughout handle port calls ↔
      port.delay = port.reported ∧ ∀ call ∈ beforeEnabling handle calls, ∀ audioDelay,
        call.delayFor handle = some audioDelay → audioDelay.toNat = port.reported := by
  induction calls generalizing port with
  | nil => simp [agreesThroughout_nil, Agrees, enabled, beforeEnabling]
  | cons call calls ih =>
      have agrees : port.Agrees ↔ port.delay = port.reported := by simp [Agrees, enabled]
      rw [agreesThroughout_cons, agrees, perform]
      by_cases own : call.handle = handle
      · rw [if_pos own]
        cases call with
        | enableAudioPort other enable =>
            have enables : (DelayCall.enableAudioPort other enable).enables handle = true :=
              decide_eq_true own
            have rest : AgreesThroughout handle _ calls :=
              agreesThroughout_of_consistent (consistent_enableAudioPort port other enable) calls
            simp [rest, beforeEnabling, enables]
        | setAudioDelay other audioDelay =>
            have asked : (DelayCall.setAudioDelay other audioDelay).delayFor handle =
                some audioDelay := if_pos own
            have stored : port.own (.setAudioDelay other audioDelay) =
                { port with reported := audioDelay.toNat } := by
              simp [DelayPort.own, untracked]
            rw [stored, @ih { port with reported := audioDelay.toNat } enabled untracked]
            simp only [beforeEnabling, DelayCall.enables, List.takeWhile_cons, Bool.not_false,
              if_true, List.forall_mem_cons, asked, Option.some.injEq, forall_eq']
            constructor
            · rintro ⟨agreed, same, rest⟩
              have reported : audioDelay.toNat = port.reported := same.symm.trans agreed
              rw [reported] at rest
              exact ⟨agreed, reported, rest⟩
            · rintro ⟨agreed, reported, rest⟩
              rw [reported]
              exact ⟨agreed, agreed, rest⟩
      · rw [if_neg own, ih enabled untracked]
        cases call with
        | enableAudioPort other enable =>
            have other : ¬other = handle := own
            simp [beforeEnabling, DelayCall.enables, DelayCall.delayFor, other]
        | setAudioDelay other audioDelay =>
            have other : ¬other = handle := own
            simp [beforeEnabling, DelayCall.enables, DelayCall.delayFor, other]

/-- A port that the table does not have at first. -/
theorem agreesThroughout_iff {port : DelayPort} (untracked : port.tracked = false)
    (calls : List DelayCall) :
    AgreesThroughout handle port calls ↔
      (port.enabled = true →
        port.delay = port.reported ∧ ∀ call ∈ beforeEnabling handle calls, ∀ audioDelay,
          call.delayFor handle = some audioDelay → audioDelay.toNat = port.reported) := by
  cases enabled : port.enabled with
  | true =>
      rw [agreesThroughout_iff_of_enabled enabled untracked]
      simp
  | false =>
      have consistent : port.Consistent :=
        ⟨untracked.trans enabled.symm, fun on => absurd (enabled.symm.trans on) (by decide)⟩
      simp [agreesThroughout_of_consistent consistent calls]

end DelayPort

/-! ### The plugin over its HAL -/

/-- Every call succeeds and is stored under its handle, the enabled state of a port too. -/
structure PortSettingsHal.StoresEnabled {σ : Type} (hal : PortSettingsHal σ)
    (held : σ → Int → PortSettings) (enabled : σ → Int → Bool) : Prop
    extends hal.Stores held where
  reports : ∀ state handle, hal.dsIsAudioPortEnabled state handle = .ok (enabled state handle)
  enables : ∀ state handle enable, (hal.dsEnableAudioPort state handle enable).1 = .ok () ∧
    held (hal.dsEnableAudioPort state handle enable).2 = held state ∧
    enabled (hal.dsEnableAudioPort state handle enable).2 =
      Function.update (enabled state) handle enable
  gains : ∀ state handle gain, enabled (hal.dsSetAudioGain state handle gain).2 = enabled state
  levels : ∀ state handle level, enabled (hal.dsSetAudioLevel state handle level).2 = enabled state
  delays : ∀ state handle delay, enabled (hal.dsSetAudioDelay state handle delay).2 = enabled state

section Refinement

variable {σ : Type} {hal : PortSettingsHal σ} {held : σ → Int → PortSettings}
  {enabled : σ → Int → Bool} (stores : hal.StoresEnabled held enabled)

/-- The delay `GetAudioDelay` reads from the store. -/
def reportedDelay (store : HostPersistence) (portType : DsAudioPortType) : Nat :=
  (stoul (storedText store audioDelayKey "0" portType)).getD 0 % 2 ^ 32

/-- A port as the plugin, its store and its HAL hold it. -/
def delayView (held : σ → Int → PortSettings) (enabled : σ → Int → Bool)
    (portType : DsAudioPortType) (handle : Int) (state : VolumePlugin σ) : DelayPort where
  delay := (held state.plugin.hal handle).delay
  reported := reportedDelay state.plugin.store portType
  enabled := enabled state.plugin.hal handle
  tracked := state.plugin.audio.audioPortEnabled portType

theorem getAudioDelayInternal_of_up {plugin : Plugin σ} (up : plugin.Up)
    (portType : DsAudioPortType) :
    plugin.getAudioDelayInternal portType = (reportedDelay plugin.store portType, plugin) := by
  unfold Plugin.getAudioDelayInternal reportedDelay storedText
  cases keyed : audioDelayKey portType with
  | none => rfl
  | some key =>
      dsimp only
      rw [Plugin.readProperty_of_ready up.ready (audioDelayKey_ne portType key keyed)]

/-- A stored delay is read back for its own port. -/
theorem reportedDelay_set (store : HostPersistence) {portType written : DsAudioPortType}
    (kept : (audioDelayKey portType).isSome) {key : String}
    (found : audioDelayKey written = some key) (audioDelay : UInt32) :
    reportedDelay
        { store with properties := store.properties.set key (toString audioDelay.toNat) } portType =
      if written = portType then audioDelay.toNat else reportedDelay store portType := by
  obtain ⟨own, keyed⟩ := Option.isSome_iff_exists.mp kept
  have same : key = own ↔ written = portType := by
    constructor
    · rintro rfl
      exact (PortSetting.key_injective (show PortSetting.delay.key written = some key from found)
        (show PortSetting.delay.key portType = some key from keyed)).2
    · rintro rfl
      exact Option.some.inj (found.symm.trans keyed)
  have narrow : audioDelay.toNat < 2 ^ 32 := audioDelay.toNat_lt
  have read : stoul (toString audioDelay.toNat) = some audioDelay.toNat :=
    stoul_toString (by omega)
  unfold reportedDelay storedText
  rw [keyed]
  dsimp only
  rw [OrderedMap.find?_set]
  by_cases equal : written = portType
  · rw [if_pos (same.mpr equal), if_pos equal, Option.some_or, Option.getD_some, read,
      Option.getD_some, Nat.mod_eq_of_lt narrow]
  · rw [if_neg fun keys => equal (same.mp keys), if_neg equal]

/-- What persisting a delay leaves of a port. -/
theorem delayView_persist (held : σ → Int → PortSettings) (enabled : σ → Int → Bool)
    (state : VolumePlugin σ) (up : state.plugin.Up)
    {portType : DsAudioPortType} (kept : (audioDelayKey portType).isSome) (handle : Int)
    (written : DsAudioPortType) (audioDelay : UInt32) :
    delayView held enabled portType handle
        (state.persist (audioDelayKey written) (toString audioDelay.toNat)) =
      if written = portType then
        { delayView held enabled portType handle state with reported := audioDelay.toNat }
      else delayView held enabled portType handle state := by
  set after := state.persist (audioDelayKey written) (toString audioDelay.toNat) with persisted
  cases found : audioDelayKey written with
  | none =>
      have other : written ≠ portType := by
        rintro rfl
        rw [found] at kept
        exact absurd kept (by decide)
      have unchanged : after = state := by
        rw [persisted, found]
        rfl
      rw [unchanged, if_neg other]
  | some key =>
      have stored : after.plugin.store =
          { state.plugin.store with
            properties := state.plugin.store.properties.set key (toString audioDelay.toNat) } := by
        rw [persisted, found]
        exact HostPersistence.persistHostProperty_store up.ready _
          ⟨audioDelayKey_ne written key found, toString_nat_ne _⟩
      have unit : after.plugin.hal = state.plugin.hal ∧
          after.plugin.audio = state.plugin.audio := by
        rw [persisted, found]
        exact ⟨rfl, rfl⟩
      unfold delayView
      rw [stored, unit.1, unit.2, reportedDelay_set _ kept found]
      split_ifs <;> rfl

include stores in
/-- `SetAudioDelay` reaches the HAL where the table has the port. -/
theorem exists_applyAudioDelay (state : VolumePlugin σ) (portType : DsAudioPortType)
    (handle : Int) (audioDelay : UInt32) :
    ∃ next, (state.applyAudioDelay hal portType handle audioDelay).2 =
        { state with plugin.hal := next } ∧
      enabled next = enabled state.plugin.hal ∧
      held next =
        if portType ≠ .max ∧ state.plugin.audio.audioPortEnabled portType = true then
          Function.update (held state.plugin.hal) handle
            { held state.plugin.hal handle with delay := audioDelay.toNat }
        else held state.plugin.hal := by
  obtain ⟨succeeds, after⟩ := stores.setsDelay state.plugin.hal handle audioDelay.toNat
  unfold VolumePlugin.applyAudioDelay
  rw [show hal.dsSetAudioDelay state.plugin.hal handle audioDelay.toNat = (.ok (), _) from
    Prod.ext succeeds rfl]
  split_ifs with passes
  · exact ⟨_, rfl, stores.delays _ _ _, after⟩
  · exact ⟨state.plugin.hal, rfl, rfl, rfl⟩

section Port

variable {portType : DsAudioPortType} (kept : (audioDelayKey portType).isSome) {handle : Int}
  {start : σ} (port : hal.dsGetAudioPort start portType 0 = .ok handle)
  {state : VolumePlugin σ} (up : state.plugin.Up)

include kept in
theorem mem_portTypes_of_delayKey : portType ∈ portTypes := by
  obtain ⟨key, keyed⟩ := Option.isSome_iff_exists.mp kept
  exact PortSetting.mem_portTypes (show PortSetting.delay.key portType = some key from keyed)

include stores kept port up in
theorem delayView_setAudioDelay (other : Int) (audioDelay : UInt32) :
    delayView held enabled portType handle (state.setAudioDelay hal other audioDelay).2 =
      (delayView held enabled portType handle state).perform handle
        (.setAudioDelay other audioDelay) := by
  have listed := mem_portTypes_of_delayKey kept
  have known : portType ≠ .max := by
    rintro rfl
    exact absurd listed (by decide)
  have found := stores.ports.getAudioPortType_eq_iff state.plugin listed port other
  obtain ⟨next, applied, sameEnabled, after⟩ := exists_applyAudioDelay stores state
    (state.plugin.getAudioPortType hal.toAudioHal other) other audioDelay
  have view := delayView_persist held enabled
    { state with plugin.hal := next } (up.withHal next) kept handle
    (state.plugin.getAudioPortType hal.toAudioHal other) audioDelay
  unfold VolumePlugin.setAudioDelay
  rw [if_neg (by simp [stores.resolved])]
  dsimp only
  rw [applied]
  refine view.trans ?_
  unfold DelayPort.perform
  by_cases own : other = handle
  · rw [if_pos (found.mpr own), if_pos (show (DelayCall.setAudioDelay other audioDelay).handle =
      handle from own)]
    have delay : (held next handle).delay =
        if state.plugin.audio.audioPortEnabled portType then audioDelay.toNat
        else (held state.plugin.hal handle).delay := by
      rw [after, found.mpr own, own]
      by_cases tracked : state.plugin.audio.audioPortEnabled portType = true
      · rw [if_pos ⟨known, tracked⟩, if_pos tracked, Function.update_self]
      · rw [if_neg fun both => tracked both.2, if_neg tracked]
    unfold delayView
    rw [sameEnabled, delay]
    rfl
  · rw [if_neg fun same => own (found.mp same), if_neg (show ¬(DelayCall.setAudioDelay other
      audioDelay).handle = handle from own)]
    have delay : (held next handle).delay = (held state.plugin.hal handle).delay := by
      rw [after]
      split_ifs
      · rw [Function.update_of_ne (Ne.symm own)]
      · rfl
    unfold delayView
    rw [sameEnabled, delay]

include stores in
/-- The level that is set first changes neither the delays nor what is enabled. -/
theorem exists_prepared (plugin : Plugin σ) (found : DsAudioPortType) (other : Int)
    (enable : Bool) :
    ∃ prepared, plugin.prepareSpeaker hal.toAudioHal found other enable =
        (.ok (), { plugin with hal := prepared }) ∧
      held prepared = held plugin.hal ∧ enabled prepared = enabled plugin.hal := by
  unfold Plugin.prepareSpeaker Plugin.setAudioDuckingAudioLevel
  dsimp only
  generalize (if plugin.audio.isDuckingInProgress = true then
    (plugin.audio.volumeDuckingLevel : AudioLevel)
    else plugin.audio.audioLevelCache.speaker) = volume
  obtain ⟨succeeds, after⟩ := stores.setsLevel plugin.hal other volume
  rw [show hal.dsSetAudioLevel plugin.hal other volume = (.ok (), _) from Prod.ext succeeds rfl]
  split_ifs
  · exact ⟨_, rfl, after, stores.levels _ _ _⟩
  · exact ⟨_, rfl, rfl, rfl⟩
  · exact ⟨_, rfl, rfl, rfl⟩

include stores in
theorem exists_restored (plugin : Plugin σ) (found : DsAudioPortType) (other : Int)
    (enable : Bool) :
    ∃ restored, plugin.restoreAudioLevel hal.toAudioHal found other enable =
        { plugin with hal := restored } ∧
      held restored = held plugin.hal ∧ enabled restored = enabled plugin.hal := by
  unfold Plugin.restoreAudioLevel
  split_ifs
  · cases plugin.audio.audioLevelCache.restored found with
    | none => exact ⟨plugin.hal, rfl, rfl, rfl⟩
    | some level =>
        exact ⟨_, rfl, (stores.setsLevel _ _ _).2, stores.levels _ _ _⟩
  · exact ⟨plugin.hal, rfl, rfl, rfl⟩

include stores in
/-- What enabling or disabling a port comes down to. -/
theorem exists_enabled {plugin : Plugin σ} (up : plugin.Up) (other : Int) (enable : Bool) :
    ∃ next, (plugin.enableAudioPort hal.toAudioHal other enable).2 =
        { plugin with hal := next }.trackAudioPort hal.toAudioHal
          (plugin.getAudioPortType hal.toAudioHal other) other enable ∧
      held next = held plugin.hal ∧
      enabled next = Function.update (enabled plugin.hal) other enable := by
  obtain ⟨prepared, preparing, heldPrepared, enabledPrepared⟩ :=
    exists_prepared stores plugin (plugin.getAudioPortType hal.toAudioHal other) other enable
  obtain ⟨succeeds, heldEnabled, enabledEnabled⟩ := stores.enables prepared other enable
  obtain ⟨restored, restoring, heldRestored, enabledRestored⟩ := exists_restored stores
    { plugin with hal := (hal.dsEnableAudioPort prepared other enable).2 }
    (plugin.getAudioPortType hal.toAudioHal other) other enable
  have enabledNow : enabled restored = Function.update (enabled plugin.hal) other enable := by
    rw [enabledRestored, enabledEnabled, enabledPrepared]
  have reported : hal.dsIsAudioPortEnabled restored other = .ok enable := by
    rw [stores.reports, enabledNow, Function.update_self]
  exact ⟨restored,
    Plugin.enableAudioPort_eq_track up.initialized preparing succeeds restoring reported,
    heldRestored.trans (heldEnabled.trans heldPrepared), enabledNow⟩

theorem trackAudioPort_of_up {plugin : Plugin σ} (up : plugin.Up) (found : DsAudioPortType)
    (other : Int) (enable : Bool) :
    plugin.trackAudioPort hal.toAudioHal found other enable =
      if found = .max then plugin
      else
        { plugin with
          audio.audioPortEnabled := Function.update plugin.audio.audioPortEnabled found enable
          hal :=
            if enable then
              (hal.dsSetAudioDelay plugin.hal other (reportedDelay plugin.store found)).2
            else plugin.hal } := by
  have tracked : Plugin.Up { plugin with
      audio.audioPortEnabled := Function.update plugin.audio.audioPortEnabled found enable } :=
    ⟨up.initialized, up.ready⟩
  unfold Plugin.trackAudioPort
  dsimp only
  rw [getAudioDelayInternal_of_up tracked]
  cases enable <;> rfl

include stores up in
theorem up_delayCall (call : DelayCall) : (call.run hal state).plugin.Up := by
  cases call with
  | setAudioDelay handle audioDelay =>
      exact (propertyWritten_setAudioDelay stores.toStores up handle audioDelay).up
  | enableAudioPort handle enable =>
      obtain ⟨next, enabling, -, -⟩ := exists_enabled stores up handle enable
      unfold DelayCall.run VolumePlugin.enableAudioPort
      dsimp only
      rw [enabling, trackAudioPort_of_up (up.withHal next)]
      split_ifs
      · exact up.withHal next
      · exact ⟨up.initialized, up.ready⟩
      · exact ⟨up.initialized, up.ready⟩

include stores up in
theorem up_delayCalls (calls : List DelayCall) :
    (calls.foldl (DelayCall.run hal) state).plugin.Up :=
  List.foldlRecOn (motive := fun state : VolumePlugin σ => state.plugin.Up) calls _ up
    fun _ up call _ => up_delayCall stores up call

include stores in
theorem delay_if_enabled (state : σ) (handle other : Int) (enable : Bool) (delay : Nat) :
    let next := if enable then (hal.dsSetAudioDelay state other delay).2 else state
    enabled next = enabled state ∧
      (held next handle).delay =
        if other = handle ∧ enable = true then delay else (held state handle).delay := by
  intro next
  cases enable with
  | false => exact ⟨rfl, (if_neg fun both => absurd both.2 (by decide)).symm⟩
  | true =>
      refine ⟨stores.delays _ _ _, ?_⟩
      simp only [next, if_true, (stores.setsDelay state other delay).2, and_true]
      by_cases own : other = handle
      · rw [if_pos own, own, Function.update_self]
      · rw [if_neg own, Function.update_of_ne (Ne.symm own)]

include stores kept port up in
theorem delayView_enableAudioPort (other : Int) (enable : Bool) :
    delayView held enabled portType handle (state.enableAudioPort hal.toVolumeHal other enable).2 =
      (delayView held enabled portType handle state).perform handle
        (.enableAudioPort other enable) := by
  have listed := mem_portTypes_of_delayKey kept
  have known : portType ≠ .max := by
    rintro rfl
    exact absurd listed (by decide)
  have found := stores.ports.getAudioPortType_eq_iff state.plugin listed port other
  obtain ⟨next, enabling, sameHeld, enabledNow⟩ := exists_enabled stores up other enable
  unfold VolumePlugin.enableAudioPort
  dsimp only
  rw [enabling, trackAudioPort_of_up (up.withHal next)]
  obtain ⟨sameEnabled, delay⟩ := delay_if_enabled stores next handle other enable
    (reportedDelay state.plugin.store (state.plugin.getAudioPortType hal.toAudioHal other))
  unfold DelayPort.perform
  by_cases own : other = handle
  · subst own
    rw [found.mpr rfl] at delay sameEnabled ⊢
    rw [if_neg known, if_pos (show (DelayCall.enableAudioPort other enable).handle = other from
      rfl)]
    unfold delayView
    dsimp only at delay ⊢
    rw [sameEnabled, delay, enabledNow, sameHeld, Function.update_self, Function.update_self]
    simp only [DelayPort.own, true_and]
  · have different : ¬portType = state.plugin.getAudioPortType hal.toAudioHal other :=
      fun same => own (found.mp same.symm)
    rw [if_neg (show ¬(DelayCall.enableAudioPort other enable).handle = handle from own)]
    by_cases unlisted : state.plugin.getAudioPortType hal.toAudioHal other = .max
    · rw [if_pos unlisted]
      unfold delayView
      rw [sameHeld, enabledNow, Function.update_of_ne (Ne.symm own)]
    · rw [if_neg unlisted]
      unfold delayView
      dsimp only at delay ⊢
      rw [sameEnabled, delay, enabledNow, sameHeld, if_neg fun both => own both.1,
        Function.update_of_ne (Ne.symm own), Function.update_of_ne different]

include stores kept port up in
/-- The plugin over its HAL does to a port what the calls say. -/
theorem delayView_run (call : DelayCall) :
    delayView held enabled portType handle (call.run hal state) =
      (delayView held enabled portType handle state).perform handle call := by
  cases call with
  | setAudioDelay other audioDelay => exact delayView_setAudioDelay stores kept port up _ _
  | enableAudioPort other enable => exact delayView_enableAudioPort stores kept port up _ _

include stores kept port up in
theorem delayView_calls (calls : List DelayCall) :
    delayView held enabled portType handle (calls.foldl (DelayCall.run hal) state) =
      calls.foldl (DelayPort.perform handle) (delayView held enabled portType handle state) := by
  induction calls generalizing state with
  | nil => rfl
  | cons call calls ih =>
      rw [List.foldl_cons, List.foldl_cons, ih (up_delayCall stores up call),
        delayView_run stores kept port up]

end Port

/-- Every port with a stored delay that the HAL reports as enabled has the delay that
`GetAudioDelay` returns. -/
def DelaysInEffect (hal : PortSettingsHal σ) (held : σ → Int → PortSettings)
    (state : VolumePlugin σ) : Prop :=
  ∀ portType, (audioDelayKey portType).isSome → ∀ handle,
    hal.dsGetAudioPort state.plugin.hal portType 0 = .ok handle →
      hal.dsIsAudioPortEnabled state.plugin.hal handle = .ok true →
        (state.getAudioDelay hal handle).1 = .ok (held state.plugin.hal handle).delay

include stores in
theorem delaysInEffect_iff {state : VolumePlugin σ} (up : state.plugin.Up) :
    DelaysInEffect hal held state ↔
      ∀ portType, (audioDelayKey portType).isSome → ∀ handle,
        hal.dsGetAudioPort state.plugin.hal portType 0 = .ok handle →
          (delayView held enabled portType handle state).Agrees := by
  refine forall₂_congr fun portType kept => forall₂_congr fun handle port => ?_
  have type : state.plugin.getAudioPortType hal.toAudioHal handle = portType :=
    (stores.ports.getAudioPortType_eq_iff state.plugin (mem_portTypes_of_delayKey kept) port
      handle).mpr rfl
  unfold VolumePlugin.getAudioDelay
  dsimp only
  rw [type, getAudioDelayInternal_of_up up, stores.reports, Except.ok.injEq, Except.ok.injEq]
  exact imp_congr_right fun _ => eq_comm

include stores in
/-- What startup leaves of the ports: the table stays as it was, and so does what the HAL has
enabled. -/
theorem delayView_restart (first fresh : VolumePlugin σ) {portType : DsAudioPortType}
    {handle : Int} {state : σ} (port : hal.dsGetAudioPort state portType 0 = .ok handle) :
    let store := (first.reopened fresh).plugin.store
    delayView held enabled portType handle (first.restart hal fresh) =
      { delay :=
          if portType ∈ delayPorts then
            (atoi (storedText store audioDelayKey "0" portType) % 2 ^ 32).toNat
          else (held fresh.plugin.hal handle).delay
        reported := reportedDelay store portType
        enabled := enabled fresh.plugin.hal handle
        tracked := fresh.plugin.audio.audioPortEnabled portType } := by
  intro store
  have untouched : (first.restart hal fresh).plugin.store.isInitialized = true ∧
      enabled (first.restart hal fresh).plugin.hal = enabled fresh.plugin.hal ∧
      (first.restart hal fresh).plugin.audio.audioPortEnabled =
        fresh.plugin.audio.audioPortEnabled :=
    audioConfigInit_keeps
      (fun state => state.plugin.store.isInitialized = true ∧
        enabled state.plugin.hal = enabled fresh.plugin.hal ∧
        state.plugin.audio.audioPortEnabled = fresh.plugin.audio.audioPortEnabled)
      (fun _ holds => holds.1)
      (fun _ _ _ _ holds => ⟨holds.1, (stores.gains _ _ _).trans holds.2.1, holds.2.2⟩)
      (fun _ _ _ _ holds => ⟨holds.1, (stores.levels _ _ _).trans holds.2.1, holds.2.2⟩)
      (fun _ _ _ _ holds => ⟨holds.1, (stores.delays _ _ _).trans holds.2.1, holds.2.2⟩)
      ⟨(up_reopened first fresh).ready, rfl, rfl⟩
  have same : (first.restart hal fresh).plugin.store = store :=
    (up_restart stores.toStores first fresh).store
  unfold delayView
  rw [held_restart stores.toStores fresh port first, same, untouched.2.1, untouched.2.2]
  rfl

/-- What keeps the reported delay in effect on a port that the HAL has enabled when the plugin
starts: startup and `GetAudioDelay` read the stored text alike, and no other delay is asked for
before the port is enabled or disabled through the plugin. -/
structure DelayStands (store : HostPersistence) (portType : DsAudioPortType) (handle : Int)
    (initial : Nat) (calls : List DelayCall) : Prop where
  startup :
    (if portType ∈ delayPorts then
      (atoi (storedText store audioDelayKey "0" portType) % 2 ^ 32).toNat
    else initial) = reportedDelay store portType
  asked : ∀ call ∈ DelayPort.beforeEnabling handle calls, ∀ audioDelay,
    call.delayFor handle = some audioDelay → audioDelay.toNat = reportedDelay store portType

include stores in
theorem delays_in_effect_iff (first fresh : VolumePlugin σ)
    (untracked : fresh.plugin.audio.audioPortEnabled = fun _ => false) (calls : List DelayCall) :
    (∀ earlier, earlier <+: calls →
      DelaysInEffect hal held
        (earlier.foldl (DelayCall.run hal) (first.restart hal fresh))) ↔
      ∀ portType, (audioDelayKey portType).isSome → ∀ handle,
        hal.dsGetAudioPort fresh.plugin.hal portType 0 = .ok handle →
          hal.dsIsAudioPortEnabled fresh.plugin.hal handle = .ok true →
            DelayStands (first.reopened fresh).plugin.store portType handle
              (held fresh.plugin.hal handle).delay calls := by
  have up : (first.restart hal fresh).plugin.Up := (up_restart stores.toStores first fresh).up
  have onPort : ∀ portType, (audioDelayKey portType).isSome → ∀ handle,
      hal.dsGetAudioPort fresh.plugin.hal portType 0 = .ok handle →
        (DelayPort.AgreesThroughout handle
            (delayView held enabled portType handle (first.restart hal fresh)) calls ↔
          (hal.dsIsAudioPortEnabled fresh.plugin.hal handle = .ok true →
            DelayStands (first.reopened fresh).plugin.store portType handle
              (held fresh.plugin.hal handle).delay calls)) := by
    intro portType kept handle port
    have view := delayView_restart stores first fresh port
    rw [view, DelayPort.agreesThroughout_iff (congrFun untracked portType), stores.reports,
      Except.ok.injEq]
    exact imp_congr_right fun _ => ⟨fun both => ⟨both.1, both.2⟩, fun stands =>
      ⟨stands.startup, stands.asked⟩⟩
  constructor
  · intro inEffect portType kept handle port
    refine (onPort portType kept handle port).mp fun earlier within => ?_
    rw [← delayView_calls stores kept port up earlier]
    have holds := inEffect earlier within
    refine (delaysInEffect_iff stores (up_delayCalls stores up earlier)).mp holds portType kept
      handle ?_
    rw [stores.ports.fixed _ fresh.plugin.hal]
    exact port
  · intro stands earlier within
    refine (delaysInEffect_iff stores (up_delayCalls stores up earlier)).mpr
      fun portType kept handle port => ?_
    rw [stores.ports.fixed _ fresh.plugin.hal] at port
    rw [delayView_calls stores kept port up earlier]
    exact (onPort portType kept handle port).mpr (stands portType kept handle port) earlier within

end Refinement

namespace EnabledAtStart

/-- Settings and enabled state by handle; every call succeeds. -/
def hal : PortSettingsHal ((Int → PortSettings) × (Int → Bool)) where
  dsGetAudioPort _ type _ :=
    match type with
    | .hdmi => .ok 1
    | .spdif => .ok 2
    | _ => .error .operationNotSupported
  dsIsAudioPortEnabled memory handle := .ok (memory.2 handle)
  dsIsAudioMute memory handle := .ok (memory.1 handle).muted
  dsEnableAudioPort memory handle enable :=
    (.ok (), (memory.1, Function.update memory.2 handle enable))
  dsSetAudioLevel memory _ _ := (.ok (), memory)
  dsSetAudioDelay memory handle delay :=
    (.ok (), (Function.update memory.1 handle { memory.1 handle with delay := delay }, memory.2))
  dsGetAudioLevel _ _ := .ok 0
  dsSetAudioMute memory handle mute :=
    (.ok (), (Function.update memory.1 handle { memory.1 handle with muted := mute }, memory.2))
  resolves _ := true
  dsSetAudioGain memory handle gain :=
    (.ok (), (Function.update memory.1 handle { memory.1 handle with gain := gain }, memory.2))
  dsAudioOutIsConnected _ _ := .ok true

theorem stores : hal.StoresEnabled Prod.fst Prod.snd where
  ports := {
    fixed _ _ := rfl
    narrow := by
      intro memory type handle port
      cases type <;> cases port <;> decide
    distinct := by
      intro memory type other handle port same
      cases type <;> cases port <;> cases other <;> cases same <;> rfl }
  resolved _ := rfl
  getsMute _ _ := rfl
  setsGain _ _ _ := ⟨rfl, rfl⟩
  setsMute _ _ _ := ⟨rfl, rfl⟩
  setsDelay _ _ _ := ⟨rfl, rfl⟩
  setsLevel _ _ _ := ⟨rfl, rfl⟩
  reports _ _ := rfl
  enables _ _ _ := ⟨rfl, rfl, rfl⟩
  gains _ _ _ := rfl
  levels _ _ _ := rfl
  delays _ _ _ := rfl

/-- A process that has started nothing yet, on a HAL that comes up with its ports enabled. -/
def first : VolumePlugin ((Int → PortSettings) × (Int → Bool)) where
  plugin := {
    hal := (fun _ => ⟨0, false, 0⟩, fun _ => true)
    audio := ⟨false, false, 0, ⟨0, 0, 0, 0⟩, fun _ => false⟩
    store := .ofStoreFile "/opt/persistent/ds/hostData"
    files := fun _ => .absent }
  muteStatus := false
  lastVolumeLevel := 0
  persistThreadAlive := true

end EnabledAtStart

theorem delays_in_effect_iff_enabled_at_start :
    (∀ earlier, earlier <+: [.enableAudioPort 1 true, .setAudioDelay 1 100] →
      DelaysInEffect EnabledAtStart.hal Prod.fst
        (earlier.foldl (DelayCall.run EnabledAtStart.hal)
          (EnabledAtStart.first.restart EnabledAtStart.hal EnabledAtStart.first))) ↔
      ∀ portType, (audioDelayKey portType).isSome → ∀ handle,
        EnabledAtStart.hal.dsGetAudioPort EnabledAtStart.first.plugin.hal portType 0 =
            .ok handle →
          EnabledAtStart.hal.dsIsAudioPortEnabled EnabledAtStart.first.plugin.hal handle =
              .ok true →
            DelayStands (EnabledAtStart.first.reopened EnabledAtStart.first).plugin.store portType
              handle (EnabledAtStart.first.plugin.hal.1 handle).delay
              [.enableAudioPort 1 true, .setAudioDelay 1 100] :=
  delays_in_effect_iff EnabledAtStart.stores EnabledAtStart.first EnabledAtStart.first rfl _

/-- The HDMI port is enabled before the plugin starts: a delay of 100 is stored and reported, and
the HAL keeps the delay of startup. -/
theorem not_delays_in_effect :
    ¬∀ (first fresh : VolumePlugin ((Int → PortSettings) × (Int → Bool)))
      (calls : List DelayCall), (fresh.plugin.audio.audioPortEnabled = fun _ => false) →
        DelaysInEffect EnabledAtStart.hal Prod.fst
          (calls.foldl (DelayCall.run EnabledAtStart.hal)
            (first.restart EnabledAtStart.hal fresh)) := by
  intro inEffect
  have up := (up_restart EnabledAtStart.stores.toStores EnabledAtStart.first
    EnabledAtStart.first).up
  have port : EnabledAtStart.hal.dsGetAudioPort EnabledAtStart.first.plugin.hal .hdmi 0 = .ok 1 :=
    rfl
  have agrees := (delaysInEffect_iff EnabledAtStart.stores
    (up_delayCalls EnabledAtStart.stores up [.setAudioDelay 1 100])).mp
      (inEffect EnabledAtStart.first EnabledAtStart.first [.setAudioDelay 1 100] rfl)
      .hdmi rfl 1 rfl
  rw [delayView_calls EnabledAtStart.stores rfl port up,
    delayView_restart EnabledAtStart.stores EnabledAtStart.first EnabledAtStart.first port]
    at agrees
  have same := agrees rfl
  exact absurd same (by decide)

end DeviceSettings.Audio
