import DeviceSettings.Audio.PortSettingsStartup
import DeviceSettings.Std.LastWrite
import Mathlib.Data.Rat.Floor
import Mathlib.Tactic.FieldSimp

/-!
# Gain, mute and delay over a restart

Three setters, two getters and the startup code have a list of ports each. A call is known in
the store by the one property it writes, and a setting after the restart by what the startup
code makes of that property, if it reads it at all.
-/

namespace DeviceSettings.Audio

open DeviceSettings.Std
open DeviceSettings.Persistence

/-! ### Gains as text -/

/-- The millionths that `std::to_string` prints. -/
def millionths (level : AudioLevel) : Nat :=
  let scaled : AudioLevel := (if level < 0 then -level else level) * 10 ^ 6
  let whole : Nat := scaled.floor.toNat
  let rest : AudioLevel := scaled - (whole : AudioLevel)
  if 1 / 2 < rest ∨ (rest = 1 / 2 ∧ whole % 2 = 1) then whole + 1 else whole

theorem toList_levelString (level : AudioLevel) :
    (levelString level).toList =
      signDigits (decide (level < 0)) ++ fixedDigits 6 (millionths level) := by
  have digits : ∀ n : Nat, (toString n).toList = Nat.toDigits 10 n := fun n => Nat.toList_repr
  have width : ∀ n : Nat, (toString n).length = (Nat.toDigits 10 n).length := fun n => by
    rw [← digits, String.length_toList]
  unfold levelString
  dsimp only
  rw [String.toList_append, String.toList_append, String.toList_append, String.toList_append,
    String.toList_ofList, digits, digits, width]
  by_cases negative : level < 0
  · simp [negative, signDigits, fixedDigits, fractionDigits, millionths]
  · simp [negative, signDigits, fixedDigits, fractionDigits, millionths]

theorem levelString_ne (level : AudioLevel) : levelString level ≠ "" := by
  intro empty
  have chars := toList_levelString level
  rw [empty] at chars
  simp [fixedDigits] at chars

theorem atof_levelString (level : AudioLevel) :
    atof (levelString level) =
      (if level < 0 then -1 else 1) * ((millionths level : ℚ) / 10 ^ 6) := by
  rw [← String.ofList_toList (s := levelString level), toList_levelString,
    atof_fixedDigits (by decide)]
  simp

section Whole

variable {level : AudioLevel} {count : Int} (whole : level = count / 10 ^ 6)

include whole in
theorem lt_zero_iff_of_whole : level < 0 ↔ count < 0 := by
  have positive : (0 : ℚ) < 10 ^ 6 := by norm_num
  rw [whole, div_lt_iff₀ positive, zero_mul]
  exact Int.cast_lt_zero

include whole in
/-- Whole millionths are printed as they are. -/
theorem millionths_of_whole : millionths level = count.natAbs := by
  have scaled : (if level < 0 then -level else level) * 10 ^ 6 = ((count.natAbs : ℤ) : ℚ) := by
    have product : level * 10 ^ 6 = count := by
      rw [whole]
      exact div_mul_cancel₀ _ (by norm_num)
    by_cases negative : count < 0
    · rw [if_pos ((lt_zero_iff_of_whole whole).mpr negative), neg_mul, product,
        Int.ofNat_natAbs_of_nonpos negative.le, Int.cast_neg]
    · rw [if_neg fun below => negative ((lt_zero_iff_of_whole whole).mp below), product,
        Int.natAbs_of_nonneg (Int.not_lt.mp negative)]
  unfold millionths
  dsimp only
  rw [scaled, Rat.floor_intCast, Int.toNat_natCast, Int.cast_natCast, sub_self]
  norm_num

end Whole

/-- Exactly the gains of whole millionths are read back. -/
theorem atof_levelString_eq_iff (level : AudioLevel) :
    atof (levelString level) = level ↔ ∃ count : Int, level = count / 10 ^ 6 := by
  rw [atof_levelString]
  constructor
  · intro same
    refine ⟨(if level < 0 then -1 else 1) * millionths level, same.symm.trans ?_⟩
    rw [Int.cast_mul, Int.cast_natCast, mul_div_assoc, apply_ite Int.cast, Int.cast_neg,
      Int.cast_one]
  · rintro ⟨count, whole⟩
    have negative := lt_zero_iff_of_whole whole
    have cast : (count.natAbs : ℚ) = ((count.natAbs : ℤ) : ℚ) := (Int.cast_natCast _).symm
    rw [millionths_of_whole whole, cast, ← mul_div_assoc]
    refine Eq.trans ?_ whole.symm
    congr 1
    split_ifs with below
    · rw [Int.ofNat_natAbs_of_nonpos (negative.mp below).le, Int.cast_neg, neg_one_mul, neg_neg]
    · rw [Int.natAbs_of_nonneg (Int.not_lt.mp fun less => below (negative.mpr less)), one_mul]

/-! ### The properties -/

/-- The settings with a property for each port. -/
inductive PortSetting where
  | gain
  | mute
  | delay
  deriving DecidableEq, Repr

/-- The property of a setting. -/
def PortSetting.key : PortSetting → DsAudioPortType → Option String
  | .gain => audioGainKey
  | .mute => audioMuteKey
  | .delay => audioDelayKey

theorem PortSetting.key_injective {setting other : PortSetting} {portType same : DsAudioPortType}
    {key : String} (keyed : setting.key portType = some key) (found : other.key same = some key) :
    setting = other ∧ portType = same := by
  have distinct : ∀ setting ∈ [PortSetting.gain, .mute, .delay],
      ∀ portType ∈ .max :: .idLr :: portTypes,
        ∀ other ∈ [PortSetting.gain, .mute, .delay], ∀ same ∈ .max :: .idLr :: portTypes,
          setting.key portType ≠ none → setting.key portType = other.key same →
            setting = other ∧ portType = same := by
    decide +kernel
  have settings : ∀ setting : PortSetting, setting ∈ [PortSetting.gain, .mute, .delay] := by
    intro setting
    cases setting <;> decide
  have ports : ∀ portType, portType ∈ DsAudioPortType.max :: .idLr :: portTypes := by
    intro portType
    cases portType <;> decide
  exact distinct setting (settings _) portType (ports _) other (settings _) same (ports _)
    (by simp [keyed]) (keyed.trans found.symm)

theorem PortSetting.key_ne {setting : PortSetting} {portType : DsAudioPortType} {key : String}
    (keyed : setting.key portType = some key) : key ≠ "" := by
  rintro rfl
  cases setting <;> cases portType <;>
    simp [PortSetting.key, audioGainKey, audioMuteKey, audioDelayKey] at keyed

/-- A port whose setting is kept is one that the look-up by handle can find. -/
theorem PortSetting.mem_portTypes {setting : PortSetting} {portType : DsAudioPortType}
    {key : String} (keyed : setting.key portType = some key) : portType ∈ portTypes := by
  cases portType with
  | idLr | max =>
      cases setting <;> simp [PortSetting.key, audioGainKey, audioMuteKey, audioDelayKey] at keyed
  | hdmi | spdif | speaker | hdmiArc | headphone => decide

namespace PortCall

/-- The setting that a call changes. -/
def setting : PortCall → PortSetting
  | .setAudioGain _ _ => .gain
  | .setAudioMute _ _ => .mute
  | .setAudioDelay _ _ => .delay

/-- The port that a call is for. -/
def handle : PortCall → Int
  | .setAudioGain handle _ | .setAudioMute handle _ | .setAudioDelay handle _ => handle

/-- What a call persists. -/
def text : PortCall → String
  | .setAudioGain _ gainLevel => levelString gainLevel
  | .setAudioMute _ mute => if mute then "TRUE" else "FALSE"
  | .setAudioDelay _ audioDelay => toString audioDelay.toNat

/-- What a call persists for a setting of the port with this handle. -/
def written (setting : PortSetting) (handle : Int) (call : PortCall) : Option String :=
  if call.setting = setting ∧ call.handle = handle then some call.text else none

/-- The gain a call asks for on the port with this handle. -/
def gainFor (handle : Int) : PortCall → Option AudioLevel
  | .setAudioGain other gainLevel => if other = handle then some gainLevel else none
  | _ => none

/-- The mute state a call asks for on the port with this handle. -/
def muteFor (handle : Int) : PortCall → Option Bool
  | .setAudioMute other mute => if other = handle then some mute else none
  | _ => none

/-- The delay a call asks for on the port with this handle. -/
def delayFor (handle : Int) : PortCall → Option UInt32
  | .setAudioDelay other audioDelay => if other = handle then some audioDelay else none
  | _ => none

theorem written_gain (handle : Int) (call : PortCall) :
    written .gain handle call = (gainFor handle call).map levelString := by
  cases call <;> simp [written, gainFor, setting, PortCall.handle, text, apply_ite]

theorem written_mute (handle : Int) (call : PortCall) :
    written .mute handle call =
      (muteFor handle call).map fun mute => if mute then "TRUE" else "FALSE" := by
  cases call with
  | setAudioGain | setAudioDelay => simp [written, muteFor, setting]
  | setAudioMute other mute =>
      by_cases own : other = handle <;>
        simp [written, muteFor, setting, PortCall.handle, text, own]

theorem written_delay (handle : Int) (call : PortCall) :
    written .delay handle call =
      (delayFor handle call).map fun audioDelay => toString audioDelay.toNat := by
  cases call <;> simp [written, delayFor, setting, PortCall.handle, text, apply_ite]

end PortCall

/-! ### Runs -/

section Calls

variable {σ : Type}

/-- One text was persisted under a property, where there is one. -/
structure PropertyWritten (key : Option String) (text : String) (before after : VolumePlugin σ) :
    Prop where
  up : after.plugin.Up
  found : ∀ wanted, after.plugin.store.properties.find? wanted =
    if key = some wanted then some text else before.plugin.store.properties.find? wanted

theorem propertyWritten_persist (before state : VolumePlugin σ) (up : state.plugin.Up)
    (store : state.plugin.store = before.plugin.store) {key : Option String}
    (named : ∀ own, key = some own → own ≠ "") {text : String} (nonempty : text ≠ "") :
    PropertyWritten key text before (state.persist key text) := by
  unfold VolumePlugin.persist
  cases key with
  | none => exact ⟨up, fun wanted => by rw [store, if_neg (by simp)]⟩
  | some own =>
      dsimp only
      rw [HostPersistence.persistHostProperty_store up.ready _ ⟨named own rfl, nonempty⟩]
      refine ⟨⟨up.initialized, up.ready⟩, fun wanted => ?_⟩
      simp only [OrderedMap.find?_set, Option.some.injEq, store]

variable {hal : PortSettingsHal σ} {held : σ → Int → PortSettings} (stores : hal.Stores held)

include stores in
theorem propertyWritten_setAudioGain {state : VolumePlugin σ} (up : state.plugin.Up) (handle : Int)
    (gainLevel : AudioLevel) :
    PropertyWritten (audioGainKey (state.plugin.getAudioPortType hal.toAudioHal handle))
      (levelString gainLevel) state (state.setAudioGain hal handle gainLevel).2 := by
  unfold VolumePlugin.setAudioGain
  rw [if_neg (by simp [up.initialized]), if_neg (by simp [stores.resolved])]
  have succeeds := (stores.setsGain state.plugin.hal handle gainLevel).1
  cases set : hal.dsSetAudioGain state.plugin.hal handle gainLevel with
  | mk answer halState =>
      rw [set] at succeeds
      dsimp only at succeeds
      subst succeeds
      dsimp only
      rw [stores.ports.getAudioPortType_fixed { state.plugin with hal := halState } state.plugin]
      exact propertyWritten_persist state { state with plugin.hal := halState }
        (up.withHal halState) rfl
        (fun own keyed => audioGainKey_ne _ own keyed) (levelString_ne gainLevel)

include stores in
theorem propertyWritten_applyAudioMute (before state : VolumePlugin σ) (up : state.plugin.Up)
    (store : state.plugin.store = before.plugin.store) (handle : Int) (mute : Bool) :
    PropertyWritten (audioMuteKey (before.plugin.getAudioPortType hal.toAudioHal handle))
      (if mute then "TRUE" else "FALSE") before
      (state.applyAudioMute hal.toVolumeHal handle mute).2 := by
  unfold VolumePlugin.applyAudioMute
  have succeeds := (stores.setsMute state.plugin.hal handle mute).1
  cases set : hal.dsSetAudioMute state.plugin.hal handle mute with
  | mk answer halState =>
      rw [set] at succeeds
      dsimp only at succeeds
      subst succeeds
      dsimp only
      rw [stores.ports.getAudioPortType_fixed { state.plugin with hal := halState } before.plugin]
      have nonempty : (if mute then "TRUE" else "FALSE") ≠ "" := by cases mute <;> simp
      exact propertyWritten_persist before { state with plugin.hal := halState, muteStatus := mute }
        (up.withHal halState) store
        (fun own keyed => PortSetting.key_ne (show PortSetting.mute.key _ = some own from keyed))
        nonempty

include stores in
theorem propertyWritten_setAudioMute {state : VolumePlugin σ} (up : state.plugin.Up) (handle : Int)
    (mute : Bool) :
    PropertyWritten (audioMuteKey (state.plugin.getAudioPortType hal.toAudioHal handle))
      (if mute then "TRUE" else "FALSE") state
      (state.setAudioMute hal.toVolumeHal handle mute).2 := by
  have ready : ¬state.plugin.audio.isInitialized = false := by simp [up.initialized]
  unfold VolumePlugin.setAudioMute
  rw [if_neg ready]
  dsimp only
  by_cases unmuted : mute = false ∧
      state.plugin.getAudioPortType hal.toAudioHal handle = .speaker
  · -- The speaker's level is set first.
    rw [if_pos unmuted]
    unfold Plugin.setAudioDuckingAudioLevel
    dsimp only
    generalize (if state.plugin.audio.isDuckingInProgress = true then
      (state.plugin.audio.volumeDuckingLevel : AudioLevel)
      else state.plugin.audio.audioLevelCache.speaker) = volume
    have succeeds := (stores.setsLevel state.plugin.hal handle volume).1
    cases set : hal.dsSetAudioLevel state.plugin.hal handle volume with
    | mk answer halState =>
        rw [set] at succeeds
        dsimp only at succeeds
        subst succeeds
        exact propertyWritten_applyAudioMute stores state { state with plugin.hal := halState }
          (up.withHal halState) rfl handle mute
  · rw [if_neg unmuted]
    exact propertyWritten_applyAudioMute stores state state up rfl handle mute

include stores in
theorem propertyWritten_setAudioDelay {state : VolumePlugin σ} (up : state.plugin.Up) (handle : Int)
    (audioDelay : UInt32) :
    PropertyWritten (audioDelayKey (state.plugin.getAudioPortType hal.toAudioHal handle))
      (toString audioDelay.toNat) state (state.setAudioDelay hal handle audioDelay).2 := by
  unfold VolumePlugin.setAudioDelay VolumePlugin.applyAudioDelay
  rw [if_neg (by simp [stores.resolved])]
  dsimp only
  have written : ∀ after : VolumePlugin σ, after.plugin.Up →
      after.plugin.store = state.plugin.store →
        PropertyWritten (audioDelayKey (state.plugin.getAudioPortType hal.toAudioHal handle))
          (toString audioDelay.toNat) state
          (after.persist (audioDelayKey (state.plugin.getAudioPortType hal.toAudioHal handle))
            (toString audioDelay.toNat)) := fun after up store =>
    propertyWritten_persist state after up store (fun own keyed => audioDelayKey_ne _ own keyed)
      (toString_nat_ne _)
  split_ifs
  · split
    · exact written _ (up.withHal _) rfl
    · exact written _ (up.withHal _) rfl
  · exact written _ up rfl

include stores in
/-- What one call persists. -/
theorem propertyWritten_run {state : VolumePlugin σ} (up : state.plugin.Up) (call : PortCall) :
    PropertyWritten (call.setting.key (state.plugin.getAudioPortType hal.toAudioHal call.handle))
      call.text state (call.run hal state) := by
  cases call with
  | setAudioGain handle gainLevel => exact propertyWritten_setAudioGain stores up handle gainLevel
  | setAudioMute handle mute => exact propertyWritten_setAudioMute stores up handle mute
  | setAudioDelay handle audioDelay =>
      exact propertyWritten_setAudioDelay stores up handle audioDelay

section Port

variable {setting : PortSetting} {portType : DsAudioPortType} {key : String} {handle : Int}
  {state : σ} (keyed : setting.key portType = some key)
  (port : hal.dsGetAudioPort state portType 0 = .ok handle)

include stores keyed port in
/-- What a call leaves in the property of a setting of a port. -/
theorem find?_run {before : VolumePlugin σ} (up : before.plugin.Up) (call : PortCall) :
    (call.run hal before).plugin.store.properties.find? key =
      (call.written setting handle).or (before.plugin.store.properties.find? key) := by
  have own : call.setting.key (before.plugin.getAudioPortType hal.toAudioHal call.handle) =
      some key ↔ call.setting = setting ∧ call.handle = handle := by
    rw [← stores.ports.getAudioPortType_eq_iff before.plugin (PortSetting.mem_portTypes keyed) port]
    constructor
    · exact fun found => PortSetting.key_injective found keyed
    · rintro ⟨same, found⟩
      rw [same, found, keyed]
  rw [(propertyWritten_run stores up call).found]
  simp only [own, PortCall.written]
  split_ifs <;> rfl

include stores keyed port in
/-- After a run the property has what was persisted last. -/
theorem find?_after_calls {start : VolumePlugin σ} (up : start.plugin.Up) (calls : List PortCall) :
    (calls.foldl (PortCall.run hal) start).plugin.store.properties.find? key =
      (lastOf (PortCall.written setting handle) calls).or
        (start.plugin.store.properties.find? key) :=
  (foldl_register (fun state : VolumePlugin σ => state.plugin.Up)
    (fun state => state.plugin.store.properties.find? key) _
    (fun _ call _ up =>
      ⟨(propertyWritten_run stores up call).up, find?_run stores keyed port up call⟩)
    up).2

end Port

include stores in
theorem up_after_calls_of_ports {start : VolumePlugin σ} (up : start.plugin.Up)
    (calls : List PortCall) : (calls.foldl (PortCall.run hal) start).plugin.Up :=
  List.foldlRecOn (motive := fun state : VolumePlugin σ => state.plugin.Up) calls _ up
    fun _ up call _ => (propertyWritten_run stores up call).up

/-! ### Restarts -/

/-- The objects of a new process on the store of `state`, where `InitialiseHAL` has loaded the
store and set up the HAL; everything else is `fresh`. -/
def VolumePlugin.reopened (state fresh : VolumePlugin σ) : VolumePlugin σ :=
  { fresh with
    plugin :=
      { hal := fresh.plugin.hal
        audio := { fresh.plugin.audio with isInitialized := true }
        store := state.plugin.store.ensureInitialized state.plugin.files
        files := state.plugin.files } }

/-- A restart on the same store. -/
def VolumePlugin.restart (hal : PortSettingsHal σ) (state fresh : VolumePlugin σ) :
    VolumePlugin σ :=
  (state.reopened fresh).audioConfigInit hal

theorem up_reopened (state fresh : VolumePlugin σ) : (state.reopened fresh).plugin.Up :=
  ⟨rfl, state.plugin.store.ensureInitialized_isInitialized state.plugin.files⟩

include stores in
theorem up_restart (state fresh : VolumePlugin σ) :
    SameStore (state.reopened fresh) (state.restart hal fresh) :=
  (portView_audioConfigInit stores (up_reopened state fresh) .hdmi).1

section Restart

variable (start fresh : VolumePlugin σ) (up : start.plugin.Up) (calls : List PortCall)
  {portType : DsAudioPortType} {handle : Int} {state : σ}
  (port : hal.dsGetAudioPort state portType 0 = .ok handle)

include stores port in
/-- What the HAL of the new process has for a port. -/
theorem held_restart (before : VolumePlugin σ) :
    held (before.restart hal fresh).plugin.hal handle =
      startupSettings (before.restart hal fresh).plugin.store portType
        (held fresh.plugin.hal handle) := by
  obtain ⟨same, view⟩ := portView_audioConfigInit stores (up_reopened before fresh) portType
  have fixed := stores.ports.fixed state
  simp only [portView, ← fixed, port, Option.map_some, Option.some.injEq] at view
  exact view.trans (by rw [← same.store]; rfl)

include stores up port in
/-- The new process finds in the store what was persisted last. -/
theorem find?_restart {setting : PortSetting} {key : String}
    (keyed : setting.key portType = some key) :
    ((calls.foldl (PortCall.run hal) start).restart hal fresh).plugin.store.properties.find? key =
      (lastOf (PortCall.written setting handle) calls).or
        (start.plugin.store.properties.find? key) := by
  have ran := up_after_calls_of_ports stores up calls
  rw [(up_restart stores _ fresh).store, ← find?_after_calls stores keyed port up calls]
  exact congrArg (fun store : HostPersistence => store.properties.find? key)
    (HostPersistence.ensureInitialized_of_ready ran.ready _)

include stores up port in
theorem gain_restart {gainLevel : AudioLevel} (kept : (audioGainKey portType).isSome)
    (last : lastOf (PortCall.gainFor handle) calls = some gainLevel) :
    (held ((calls.foldl (PortCall.run hal) start).restart hal fresh).plugin.hal handle).gain =
      atof (levelString gainLevel) := by
  obtain ⟨key, keyed⟩ := Option.isSome_iff_exists.mp kept
  have found := find?_restart stores start fresh up calls port
    (show PortSetting.gain.key portType = some key from keyed)
  have written : lastOf (PortCall.written .gain handle) calls = some (levelString gainLevel) := by
    rw [lastOf_congr fun call _ => PortCall.written_gain handle call, lastOf_map, last,
      Option.map_some]
  have listed : portType ∈ gainPorts := by
    cases portType <;> first | decide | simp [audioGainKey] at keyed
  rw [held_restart stores fresh port]
  simp only [startupSettings, if_pos listed, storedText, keyed, found, written, Option.some_or,
    Option.getD_some]

include stores up port in
theorem mute_restart {mute : Bool} (kept : (audioMuteKey portType).isSome)
    (last : lastOf (PortCall.muteFor handle) calls = some mute) :
    let after := (calls.foldl (PortCall.run hal) start).restart hal fresh
    (held after.plugin.hal handle).muted = (held fresh.plugin.hal handle).muted ∧
      (after.isAudioMuted hal handle).1 =
        .ok (mute || (held fresh.plugin.hal handle).muted) := by
  intro after
  obtain ⟨key, keyed⟩ := Option.isSome_iff_exists.mp kept
  have setting : PortSetting.mute.key portType = some key := keyed
  have found := find?_restart stores start fresh up calls port setting
  have written : lastOf (PortCall.written .mute handle) calls =
      some (if mute then "TRUE" else "FALSE") := by
    rw [lastOf_congr fun call _ => PortCall.written_mute handle call, lastOf_map, last,
      Option.map_some]
  have muted : (held after.plugin.hal handle).muted = (held fresh.plugin.hal handle).muted := by
    rw [held_restart stores fresh port]
    rfl
  refine ⟨muted, ?_⟩
  have up' : after.plugin.Up := (up_restart stores _ fresh).up
  have type : after.plugin.getAudioPortType hal.toAudioHal handle = portType :=
    (stores.ports.getAudioPortType_eq_iff after.plugin (PortSetting.mem_portTypes setting) port
      handle).mpr rfl
  rw [written, Option.some_or] at found
  unfold VolumePlugin.isAudioMuted
  rw [if_neg (by simp [up'.initialized])]
  simp only [stores.getsMute, muted, type, keyed, HostPersistence.getProperty,
    HostPersistence.ensureInitialized_of_ready up'.ready, if_neg (PortSetting.key_ne setting),
    after, found]
  cases mute <;> simp

include stores up port in
theorem delay_restart {audioDelay : UInt32} (kept : (audioDelayKey portType).isSome)
    (last : lastOf (PortCall.delayFor handle) calls = some audioDelay) :
    let after := (calls.foldl (PortCall.run hal) start).restart hal fresh
    (held after.plugin.hal handle).delay =
        (if portType = .spdif then (held fresh.plugin.hal handle).delay else audioDelay.toNat) ∧
      (after.getAudioDelay hal handle).1 = .ok audioDelay.toNat := by
  intro after
  obtain ⟨key, keyed⟩ := Option.isSome_iff_exists.mp kept
  have setting : PortSetting.delay.key portType = some key := keyed
  have found := find?_restart stores start fresh up calls port setting
  have written : lastOf (PortCall.written .delay handle) calls =
      some (toString audioDelay.toNat) := by
    rw [lastOf_congr fun call _ => PortCall.written_delay handle call, lastOf_map, last,
      Option.map_some]
  have narrow : audioDelay.toNat < 2 ^ 32 := audioDelay.toNat_lt
  have up' : after.plugin.Up := (up_restart stores _ fresh).up
  rw [written, Option.some_or] at found
  constructor
  · have listed : portType ∈ delayPorts ↔ portType ≠ .spdif := by
      cases portType <;> first | decide | simp [audioDelayKey] at keyed
    have read : (atoi (toString audioDelay.toNat) % 2 ^ 32).toNat = audioDelay.toNat := by
      have same : (audioDelay.toNat : Int).bmod (2 ^ 32) % 2 ^ 32 = audioDelay.toNat % 2 ^ 32 :=
        Int.bmod_emod
      rw [atoi_toString (by omega), same]
      omega
    rw [held_restart stores fresh port]
    simp only [startupSettings, listed, ite_not, storedText, keyed, found, Option.some_or,
      Option.getD_some, read]
  · have type : after.plugin.getAudioPortType hal.toAudioHal handle = portType :=
      (stores.ports.getAudioPortType_eq_iff after.plugin (PortSetting.mem_portTypes setting) port
        handle).mpr rfl
    have read : stoul (toString audioDelay.toNat) = some audioDelay.toNat :=
      stoul_toString (by omega)
    simp only [VolumePlugin.getAudioDelay, Plugin.getAudioDelayInternal, type, keyed,
      Plugin.readProperty_of_ready up'.ready (PortSetting.key_ne setting), after, found,
      Option.some_or, Option.getD_some, read]
    rw [Nat.mod_eq_of_lt narrow]

end Restart

/-- After the restart a port has the arguments of the last calls on it, in the HAL and in what the
getters report. -/
structure PortKept (hal : PortSettingsHal σ) (held : σ → Int → PortSettings)
    (calls : List PortCall) (after : VolumePlugin σ) (portType : DsAudioPortType) (handle : Int) :
    Prop where
  gain : (audioGainKey portType).isSome → ∀ gainLevel,
    lastOf (PortCall.gainFor handle) calls = some gainLevel →
      (held after.plugin.hal handle).gain = gainLevel
  mute : (audioMuteKey portType).isSome → ∀ mute,
    lastOf (PortCall.muteFor handle) calls = some mute →
      (held after.plugin.hal handle).muted = mute ∧
        (after.isAudioMuted hal handle).1 = .ok mute
  delay : (audioDelayKey portType).isSome → ∀ audioDelay,
    lastOf (PortCall.delayFor handle) calls = some audioDelay →
      (held after.plugin.hal handle).delay = audioDelay.toNat ∧
        (after.getAudioDelay hal handle).1 = .ok audioDelay.toNat

/-- Every port that can be named is kept. -/
def PortsKept (hal : PortSettingsHal σ) (held : σ → Int → PortSettings) (calls : List PortCall)
    (after : VolumePlugin σ) : Prop :=
  ∀ portType handle, hal.dsGetAudioPort after.plugin.hal portType 0 = .ok handle →
    PortKept hal held calls after portType handle

/-- What the last calls on a port must be for a restart to keep them; `settings` is what the HAL
of the new process begins with. -/
structure Restorable (settings : PortSettings) (portType : DsAudioPortType) (handle : Int)
    (calls : List PortCall) : Prop where
  gain : (audioGainKey portType).isSome → ∀ gainLevel,
    lastOf (PortCall.gainFor handle) calls = some gainLevel →
      ∃ count : Int, gainLevel = count / 10 ^ 6
  mute : (audioMuteKey portType).isSome → ∀ mute,
    lastOf (PortCall.muteFor handle) calls = some mute → settings.muted = mute
  delay : portType = .spdif → ∀ audioDelay,
    lastOf (PortCall.delayFor handle) calls = some audioDelay →
      settings.delay = audioDelay.toNat

section Survival

variable (start fresh : VolumePlugin σ) (up : start.plugin.Up) (calls : List PortCall)
  {portType : DsAudioPortType} {handle : Int} {state : σ}
  (port : hal.dsGetAudioPort state portType 0 = .ok handle)

include stores up port in
theorem portKept_iff :
    PortKept hal held calls ((calls.foldl (PortCall.run hal) start).restart hal fresh)
        portType handle ↔
      Restorable (held fresh.plugin.hal handle) portType handle calls := by
  constructor
  · intro kept
    refine ⟨fun keyed gainLevel last => ?_, fun keyed mute last => ?_,
      fun spdif audioDelay last => ?_⟩
    · have read := gain_restart stores start fresh up calls port keyed last
      exact (atof_levelString_eq_iff gainLevel).mp (read.symm.trans (kept.gain keyed _ last))
    · have own := mute_restart stores start fresh up calls port keyed last
      exact own.1.symm.trans (kept.mute keyed _ last).1
    · have keyed : (audioDelayKey portType).isSome := by
        rw [spdif]
        rfl
      have own := delay_restart stores start fresh up calls port keyed last
      dsimp only at own
      rw [if_pos spdif] at own
      exact own.1.symm.trans (kept.delay keyed _ last).1
  · intro restorable
    refine ⟨fun keyed gainLevel last => ?_, fun keyed mute last => ?_,
      fun keyed audioDelay last => ?_⟩
    · rw [gain_restart stores start fresh up calls port keyed last]
      exact (atof_levelString_eq_iff gainLevel).mpr (restorable.gain keyed _ last)
    · have own := mute_restart stores start fresh up calls port keyed last
      have same := restorable.mute keyed _ last
      dsimp only at own
      rw [same, Bool.or_self] at own
      exact own
    · have own := delay_restart stores start fresh up calls port keyed last
      refine ⟨own.1.trans ?_, own.2⟩
      split_ifs with spdif
      · exact restorable.delay spdif _ last
      · rfl

end Survival

include stores in
/-- From a started process on, any run of calls and a restart. -/
theorem portsKept_restart_iff (first fresh : VolumePlugin σ) (calls : List PortCall) :
    PortsKept hal held calls
        ((calls.foldl (PortCall.run hal) (first.restart hal first)).restart hal fresh) ↔
      ∀ portType handle, hal.dsGetAudioPort fresh.plugin.hal portType 0 = .ok handle →
        Restorable (held fresh.plugin.hal handle) portType handle calls := by
  have up : (first.restart hal first).plugin.Up := (up_restart stores first first).up
  unfold PortsKept
  rw [stores.ports.fixed _ fresh.plugin.hal]
  exact forall₂_congr fun portType handle => forall_congr' fun port =>
    portKept_iff stores _ fresh up calls port

end Calls

namespace StoredSettings

/-- The settings by handle; every call succeeds. -/
def hal : PortSettingsHal (Int → PortSettings) where
  dsGetAudioPort _ type _ :=
    match type with
    | .hdmi => .ok 1
    | .spdif => .ok 2
    | .speaker => .ok 3
    | _ => .error .operationNotSupported
  dsIsAudioPortEnabled _ _ := .ok true
  dsIsAudioMute memory handle := .ok (memory handle).muted
  dsEnableAudioPort memory _ _ := (.ok (), memory)
  dsSetAudioLevel memory _ _ := (.ok (), memory)
  dsSetAudioDelay memory handle delay :=
    (.ok (), Function.update memory handle { memory handle with delay := delay })
  dsGetAudioLevel _ _ := .ok 0
  dsSetAudioMute memory handle mute :=
    (.ok (), Function.update memory handle { memory handle with muted := mute })
  resolves _ := true
  dsSetAudioGain memory handle gain :=
    (.ok (), Function.update memory handle { memory handle with gain := gain })
  dsAudioOutIsConnected _ _ := .ok true

theorem stores : hal.Stores id where
  ports := {
    fixed _ _ := rfl
    narrow := by
      intro memory type handle port
      cases type <;> cases port <;> decide
    distinct := by
      intro memory type other handle port same
      cases type <;> cases port <;> cases other <;> cases same <;> rfl }
  resolved _ := rfl
  getsMute _ _ := rfl
  setsGain _ _ _ := ⟨rfl, rfl⟩
  setsMute _ _ _ := ⟨rfl, rfl⟩
  setsDelay _ _ _ := ⟨rfl, rfl⟩
  setsLevel _ _ _ := ⟨rfl, rfl⟩

/-- A process that has started nothing yet, on a HAL that begins with all ports audible. -/
def first : VolumePlugin (Int → PortSettings) where
  plugin := {
    hal := fun _ => ⟨0, false, 0⟩
    audio := ⟨false, false, 0, ⟨0, 0, 0, 0⟩, fun _ => false⟩
    store := .ofStoreFile "/opt/persistent/ds/hostData"
    files := fun _ => .absent }
  muteStatus := false
  lastVolumeLevel := 0
  persistThreadAlive := true

end StoredSettings

theorem portsKept_restart_iff_unmuted :
    PortsKept StoredSettings.hal id
        [.setAudioGain 3 (-5 / 2), .setAudioMute 1 true, .setAudioMute 1 false,
          .setAudioDelay 1 4294967295]
        (([.setAudioGain 3 (-5 / 2), .setAudioMute 1 true, .setAudioMute 1 false,
          .setAudioDelay 1 4294967295].foldl (PortCall.run StoredSettings.hal)
            (StoredSettings.first.restart StoredSettings.hal StoredSettings.first)).restart
              StoredSettings.hal StoredSettings.first) ↔
      ∀ portType handle,
        StoredSettings.hal.dsGetAudioPort StoredSettings.first.plugin.hal portType 0 = .ok handle →
          Restorable (id StoredSettings.first.plugin.hal handle) portType handle
            [.setAudioGain 3 (-5 / 2), .setAudioMute 1 true, .setAudioMute 1 false,
              .setAudioDelay 1 4294967295] :=
  portsKept_restart_iff StoredSettings.stores StoredSettings.first StoredSettings.first _

/-- A port that was muted last plays again after the restart. -/
theorem not_portsKept_restart :
    ¬∀ (first fresh : VolumePlugin (Int → PortSettings)) (calls : List PortCall),
      PortsKept StoredSettings.hal id calls
        ((calls.foldl (PortCall.run StoredSettings.hal)
          (first.restart StoredSettings.hal first)).restart StoredSettings.hal fresh) := by
  intro kept
  have hdmi := kept StoredSettings.first StoredSettings.first [.setAudioMute 1 true] .hdmi 1 rfl
  have up := (up_restart StoredSettings.stores StoredSettings.first StoredSettings.first).up
  have port : StoredSettings.hal.dsGetAudioPort StoredSettings.first.plugin.hal .hdmi 0 = .ok 1 :=
    rfl
  have audible := mute_restart StoredSettings.stores _ StoredSettings.first up
    [.setAudioMute 1 true] port (show (audioMuteKey .hdmi).isSome from rfl)
    (show lastOf (PortCall.muteFor 1) [.setAudioMute 1 true] = some true from rfl)
  have promised := (hdmi.mute rfl true rfl).1
  have silent : (StoredSettings.first.plugin.hal 1).muted = true := audible.1.symm.trans promised
  exact absurd silent (by decide)

end DeviceSettings.Audio
