import DeviceSettings.Audio.Speaker
import Mathlib.Data.Rat.Floor

/-!
# Ducking the speaker

`SetAudioDucking` takes the level to duck from, and the one to return to, out of
`g_LastVolumeLevel`, which every `SetAudioLevel` and `GetAudioLevel` on any port overwrites. It
leaves the HAL alone when the volume equals the ducking level it remembers, whatever the HAL
has been set to since.
-/

namespace DeviceSettings.Audio

open DeviceSettings.Std

/-- The level of the most recent `SetAudioLevel` on the port. -/
def userLevel (handle : Int) (calls : List VolumeCall) : Option AudioLevel :=
  calls.foldl (fun user call =>
    match call with
    | .setAudioLevel port level => if port = handle then some level else user
    | _ => user) none

/-- A call that neither mutes nor enables a port. -/
def VolumeCall.IsLevelCall : VolumeCall → Prop
  | .setAudioLevel _ _ | .getAudioLevel _ | .setAudioDucking _ _ _ _ => True
  | _ => False

/-- `SetAudioLevel` or `SetAudioDucking` on the port. -/
def VolumeCall.SetsOrDucks (handle : Int) : VolumeCall → Prop
  | .setAudioLevel port _ | .setAudioDucking port _ _ _ => port = handle
  | _ => False

/-- `SetAudioDucking(STOP)` on the port. -/
def VolumeCall.IsStop (handle : Int) (call : VolumeCall) : Prop :=
  ∃ duckingType level, call = .setAudioDucking handle duckingType .stop level

/-- What a STOP needs of the speaker to bring the user's level back: the level it goes by is
the user's, or it leaves the HAL alone and the HAL has the user's level. -/
def Speaker.Restores (user : AudioLevel) (speaker : Speaker) : Prop :=
  if truncate speaker.lastVolumeLevel = speaker.duckingLevel then speaker.level = user
  else (truncate speaker.lastVolumeLevel : AudioLevel) = user

section Runs

variable {σ : Type} {hal : VolumeHal σ} {values : σ → PortValues} (stores : hal.Stores values)
  {speaker : Int} (port : ∀ state, hal.dsGetAudioPort state .speaker 0 = .ok speaker)

/-- The speaker is in use: the plugin is initialised, and the port enabled and not muted. -/
structure InUse (values : σ → PortValues) (speaker : Int) (state : VolumePlugin σ) : Prop where
  initialized : state.plugin.audio.isInitialized = true
  enabled : (speakerView values speaker state).enabled = true
  unmuted : (speakerView values speaker state).muteStatus = false

include stores port in
theorem InUse.perform {state : VolumePlugin σ} (inUse : InUse values speaker state)
    {call : VolumeCall} (levelCall : call.IsLevelCall) :
    InUse values speaker (state.perform hal call) := by
  obtain ⟨same, view⟩ := speakerView_perform stores port inUse.initialized call
  have kept : (speakerView values speaker (state.perform hal call)).enabled =
        (speakerView values speaker state).enabled ∧
      (speakerView values speaker (state.perform hal call)).muteStatus =
        (speakerView values speaker state).muteStatus := by
    rw [view]
    split_ifs <;> cases call <;> first | exact ⟨rfl, rfl⟩ | exact absurd levelCall id
  exact ⟨same.initialized.trans inUse.initialized, kept.1.trans inUse.enabled,
    kept.2.trans inUse.unmuted⟩

include stores port in
/-- Level calls keep the speaker in use. -/
theorem InUse.foldl {start : VolumePlugin σ} (inUse : InUse values speaker start)
    {calls : List VolumeCall} (levelCalls : ∀ call ∈ calls, call.IsLevelCall) :
    InUse values speaker (calls.foldl (VolumePlugin.perform hal) start) := by
  induction calls generalizing start with
  | nil => exact inUse
  | cons call rest ih =>
      exact ih (inUse.perform stores port (levelCalls call List.mem_cons_self))
        fun later member => levelCalls later (List.mem_cons_of_mem _ member)

include stores port in
/-- A ducking call on the speaker in use sets the HAL unless the volume is remembered. -/
theorem InUse.level_setAudioDucking {state : VolumePlugin σ}
    (inUse : InUse values speaker state) (duckingType : AudioDuckingType)
    (duckingAction : AudioDuckingAction) (level : UInt8) :
    (speakerView values speaker
        (state.perform hal (.setAudioDucking speaker duckingType duckingAction level))).level =
      if duckingVolume state.lastVolumeLevel duckingType duckingAction level =
          (speakerView values speaker state).duckingLevel then
        (speakerView values speaker state).level
      else (duckingVolume state.lastVolumeLevel duckingType duckingAction level : Int) := by
  have own : (VolumeCall.setAudioDucking speaker duckingType duckingAction level).handle =
      speaker := rfl
  rw [speakerView_perform_own stores port inUse.initialized own]
  simp only [Speaker.own, inUse.unmuted, inUse.enabled, Bool.not_true, Bool.or_self,
    Bool.false_or, decide_eq_true_eq]
  rfl

theorem VolumeCall.SetsOrDucks.isLevelCall {handle : Int} {call : VolumeCall}
    (sets : call.SetsOrDucks handle) : call.IsLevelCall := by
  cases call <;> trivial

include stores port in
/-- While the speaker is only set and ducked, the last volume level is the user's. -/
theorem InUse.lastVolumeLevel_foldl {start : VolumePlugin σ}
    (inUse : InUse values speaker start) {calls : List VolumeCall}
    (speakerCalls : ∀ call ∈ calls, call.SetsOrDucks speaker) :
    (calls.foldl (VolumePlugin.perform hal) start).lastVolumeLevel =
      (userLevel speaker calls).getD start.lastVolumeLevel := by
  induction calls using List.reverseRecOn with
  | nil => rfl
  | append_singleton calls call ih =>
      have earlier : ∀ call ∈ calls, call.SetsOrDucks speaker := fun call member =>
        speakerCalls call (List.mem_append_left _ member)
      have here := speakerCalls call (List.mem_append_right _ List.mem_cons_self)
      have reached := inUse.foldl stores port fun call member => (earlier call member).isLevelCall
      rw [List.foldl_append, List.foldl_cons, List.foldl_nil]
      cases call with
      | setAudioLevel handle level =>
          have own : handle = speaker := here
          have last := congrArg Speaker.lastVolumeLevel
            (speakerView_perform_own stores port reached.initialized
              (show (VolumeCall.setAudioLevel handle level).handle = speaker from own))
          refine last.trans ?_
          simp [userLevel, own, Speaker.own]
      | setAudioDucking handle duckingType duckingAction level =>
          have last := congrArg Speaker.lastVolumeLevel
            (speakerView_perform_own stores port reached.initialized
              (show (VolumeCall.setAudioDucking handle duckingType duckingAction level).handle =
                speaker from here))
          have kept : userLevel speaker
              (calls ++ [.setAudioDucking handle duckingType duckingAction level]) =
                userLevel speaker calls := by
            simp [userLevel]
          rw [kept, ← ih earlier]
          exact last
      | getAudioLevel handle => exact absurd here id
      | setAudioMute handle mute => exact absurd here id
      | enableAudioPort handle enable => exact absurd here id

include stores port in
/-- While the speaker is only set and ducked, the HAL is at the level ducking remembers or at
the user's. -/
theorem InUse.level_foldl {start : VolumePlugin σ} (inUse : InUse values speaker start)
    {calls : List VolumeCall} (speakerCalls : ∀ call ∈ calls, call.SetsOrDucks speaker)
    {user : AudioLevel} (isUser : userLevel speaker calls = some user) :
    (speakerView values speaker (calls.foldl (VolumePlugin.perform hal) start)).level =
        (speakerView values speaker
          (calls.foldl (VolumePlugin.perform hal) start)).duckingLevel ∨
      (speakerView values speaker (calls.foldl (VolumePlugin.perform hal) start)).level = user := by
  induction calls using List.reverseRecOn generalizing user with
  | nil => simp [userLevel] at isUser
  | append_singleton calls call ih =>
      have earlier : ∀ call ∈ calls, call.SetsOrDucks speaker := fun call member =>
        speakerCalls call (List.mem_append_left _ member)
      have here := speakerCalls call (List.mem_append_right _ List.mem_cons_self)
      have reached := inUse.foldl stores port fun call member => (earlier call member).isLevelCall
      rw [List.foldl_append, List.foldl_cons, List.foldl_nil]
      cases call with
      | setAudioLevel handle level =>
          obtain rfl : handle = speaker := here
          have set : level = user := by simpa [userLevel] using isUser
          rw [speakerView_perform_own stores port reached.initialized rfl]
          simp only [Speaker.own, set]
          split_ifs
          · exact .inl rfl
          · exact .inr rfl
      | setAudioDucking handle duckingType duckingAction level =>
          obtain rfl : handle = speaker := here
          have kept : userLevel handle calls = some user := by simpa [userLevel] using isUser
          rw [speakerView_perform_own stores port reached.initialized rfl]
          simp only [Speaker.own, reached.unmuted, reached.enabled, Bool.not_true, Bool.or_self,
            Bool.false_or, decide_eq_true_eq]
          split_ifs with remembered
          · rw [remembered]
            exact ih earlier kept
          · exact .inl rfl
      | getAudioLevel handle => exact absurd here id
      | setAudioMute handle mute => exact absurd here id
      | enableAudioPort handle enable => exact absurd here id

end Runs

/-! ### Integer levels -/

theorem truncate_of_nonneg {level : AudioLevel} (nonneg : 0 ≤ level) :
    truncate level = ⌊level⌋ := by
  rw [truncate, Int.tdiv_eq_ediv_of_nonneg (Rat.num_nonneg.mpr nonneg), ← Rat.floor_def']

theorem truncate_natCast (level : Nat) : truncate level = level := by
  simp [truncate]

theorem truncate_intCast (level : Int) : truncate level = level := by
  simp [truncate]

/-- A STOP behind calls on the speaker alone finds what it needs; it takes another port or a
`GetAudioLevel` to mislead it. -/
theorem InUse.restores_of_speakerCalls {σ : Type} {hal : VolumeHal σ} {values : σ → PortValues}
    (stores : hal.Stores values) {speaker : Int}
    (port : ∀ state, hal.dsGetAudioPort state .speaker 0 = .ok speaker)
    {start : VolumePlugin σ} (inUse : InUse values speaker start) {calls : List VolumeCall}
    (speakerCalls : ∀ call ∈ calls, call.SetsOrDucks speaker) {user : Int}
    (isUser : userLevel speaker calls = some (user : AudioLevel)) :
    (speakerView values speaker (calls.foldl (VolumePlugin.perform hal) start)).Restores user := by
  have last : (speakerView values speaker
      (calls.foldl (VolumePlugin.perform hal) start)).lastVolumeLevel = user := by
    have held := inUse.lastVolumeLevel_foldl stores port speakerCalls
    rw [isUser] at held
    exact held
  have level := inUse.level_foldl stores port speakerCalls isUser
  rw [Speaker.Restores, last, truncate_intCast]
  split_ifs with remembered
  · rw [← remembered, or_self] at level
    exact level
  · rfl

/-- The level the speaker is ducked to from the user's. -/
def duckedTarget (user : Nat) (duckingType : AudioDuckingType) (level : UInt8) : Nat :=
  match duckingType with
  | .absolute => min level.toNat user
  | .relative => user * level.toNat / 100

theorem duckingVolume_start (user : Nat) (duckingType : AudioDuckingType) (level : UInt8) :
    duckingVolume user duckingType .start level = duckedTarget user duckingType level := by
  cases duckingType with
  | absolute =>
      simp only [duckingVolume, duckedTarget, truncate_natCast, gt_iff_lt, Nat.cast_lt]
      split_ifs with above
      · rw [Nat.min_eq_right above.le]
      · rw [Nat.min_eq_left (Nat.le_of_not_lt above)]
  | relative =>
      have nonneg : (0 : AudioLevel) ≤ ((user * level.toNat : Nat) : AudioLevel) / (100 : Nat) := by
        positivity
      have same : (user : AudioLevel) * level.toNat / 100 =
          ((user * level.toNat : Nat) : AudioLevel) / (100 : Nat) := by
        push_cast
        rfl
      simp only [duckingVolume, duckedTarget]
      rw [same, truncate_of_nonneg nonneg, Rat.floor_natCast_div_natCast]
      rfl

section Laws

variable {σ : Type}

/-- In every run of level calls, each STOP brings the speaker back to the user's level exactly
when the speaker before it allows that. -/
theorem stop_restores_iff {hal : VolumeHal σ} {values : σ → PortValues}
    (stores : hal.Stores values) {speaker : Int}
    (port : ∀ state, hal.dsGetAudioPort state .speaker 0 = .ok speaker)
    {start : VolumePlugin σ} (inUse : InUse values speaker start) {calls : List VolumeCall}
    (levelCalls : ∀ call ∈ calls, call.IsLevelCall) :
    (∀ earlier stop later user, calls = earlier ++ stop :: later → stop.IsStop speaker →
        userLevel speaker earlier = some user →
        (values ((earlier ++ [stop]).foldl (VolumePlugin.perform hal) start).plugin.hal).level
          speaker = user) ↔
      ∀ earlier stop later user, calls = earlier ++ stop :: later → stop.IsStop speaker →
        userLevel speaker earlier = some user →
        (speakerView values speaker
          (earlier.foldl (VolumePlugin.perform hal) start)).Restores user := by
  refine forall_congr' fun earlier => forall_congr' fun stop => forall_congr' fun later =>
    forall_congr' fun user => forall_congr' fun split => forall_congr' fun isStop =>
    forall_congr' fun isUser => ?_
  obtain ⟨duckingType, level, rfl⟩ := isStop
  have earlierCalls : ∀ call ∈ earlier, call.IsLevelCall := fun call member =>
    levelCalls call (split ▸ List.mem_append_left _ member)
  have reached := inUse.foldl stores port earlierCalls
  have after := reached.level_setAudioDucking stores port duckingType .stop level
  rw [List.foldl_append, List.foldl_cons, List.foldl_nil]
  refine (Eq.congr_left after).trans ?_
  by_cases remembered : truncate (speakerView values speaker
      (earlier.foldl (VolumePlugin.perform hal) start)).lastVolumeLevel =
      (speakerView values speaker (earlier.foldl (VolumePlugin.perform hal) start)).duckingLevel
  · rw [Speaker.Restores, if_pos remembered]
    exact Eq.congr_left (if_pos remembered)
  · rw [Speaker.Restores, if_neg remembered]
    exact Eq.congr_left (if_neg remembered)

/-- In every state that the user's calls on the speaker reach, a START takes effect without
raising the volume exactly when the target is not remembered while the HAL is elsewhere, and a
relative level does not go beyond the user's. -/
theorem start_takesEffect_iff {hal : VolumeHal σ} {values : σ → PortValues}
    (stores : hal.Stores values) {speaker : Int}
    (port : ∀ state, hal.dsGetAudioPort state .speaker 0 = .ok speaker)
    {start : VolumePlugin σ} (inUse : InUse values speaker start) {calls : List VolumeCall}
    (speakerCalls : ∀ call ∈ calls, call.SetsOrDucks speaker) {user : Nat}
    (isUser : (userLevel speaker calls).getD start.lastVolumeLevel = user)
    (duckingType : AudioDuckingType) (level : UInt8) :
    ((values ((calls ++ [VolumeCall.setAudioDucking speaker duckingType .start level]).foldl
          (VolumePlugin.perform hal) start).plugin.hal).level speaker =
          duckedTarget user duckingType level ∧
        duckedTarget user duckingType level ≤ user) ↔
      ((calls.foldl (VolumePlugin.perform hal) start).plugin.audio.volumeDuckingLevel =
            duckedTarget user duckingType level →
          (values (calls.foldl (VolumePlugin.perform hal) start).plugin.hal).level speaker =
            duckedTarget user duckingType level) ∧
        (duckingType = .relative → user * level.toNat < 100 * (user + 1)) := by
  have reached := inUse.foldl stores port fun call member => (speakerCalls call member).isLevelCall
  have after := reached.level_setAudioDucking stores port duckingType .start level
  have last := inUse.lastVolumeLevel_foldl stores port speakerCalls
  rw [last, isUser, duckingVolume_start] at after
  have bounded : duckedTarget user duckingType level ≤ user ↔
      (duckingType = .relative → user * level.toNat < 100 * (user + 1)) := by
    cases duckingType with
    | absolute => exact iff_of_true (Nat.min_le_right _ _) (by simp)
    | relative =>
        simp only [duckedTarget, forall_const]
        omega
  rw [List.foldl_append, List.foldl_cons, List.foldl_nil, bounded]
  refine and_congr_left fun _ => (Eq.congr_left after).trans ?_
  by_cases remembered :
      (calls.foldl (VolumePlugin.perform hal) start).plugin.audio.volumeDuckingLevel =
        duckedTarget user duckingType level
  · refine (Eq.congr_left (if_pos remembered.symm)).trans ?_
    exact ⟨fun there _ => there, fun there => there remembered⟩
  · refine iff_of_true ((if_neg fun same => remembered same.symm).trans ?_)
      fun same => absurd same remembered
    exact Int.cast_natCast _

end Laws

namespace PortMemory

/-- HDMI and a speaker; every call on them succeeds and is stored. -/
def hal : VolumeHal PortValues where
  dsGetAudioPort _ type _ :=
    match type with
    | .hdmi => .ok 1
    | .speaker => .ok 2
    | _ => .error .operationNotSupported
  dsIsAudioPortEnabled memory handle := .ok (memory.enabled handle)
  dsIsAudioMute memory handle := .ok (memory.muted handle)
  dsEnableAudioPort memory handle enable :=
    (.ok (), { memory with enabled := Function.update memory.enabled handle enable })
  dsSetAudioLevel memory handle level :=
    (.ok (), { memory with level := Function.update memory.level handle level })
  dsSetAudioDelay memory _ _ := (.ok (), memory)
  dsGetAudioLevel memory handle := .ok (memory.level handle)
  dsSetAudioMute memory handle mute :=
    (.ok (), { memory with muted := Function.update memory.muted handle mute })

theorem stores : hal.Stores fun memory => memory where
  ports := {
    fixed _ _ := rfl
    narrow := by
      intro memory type handle port
      cases type <;> cases port <;> decide
    distinct := by
      intro memory type other handle port same
      cases type <;> cases port <;> cases other <;> cases same <;> rfl }
  getsLevel _ _ := rfl
  getsMute _ _ := rfl
  getsEnabled _ _ := rfl
  setsLevel _ _ _ := ⟨rfl, rfl⟩
  setsMute _ _ _ := ⟨rfl, rfl⟩
  enables _ _ _ := ⟨rfl, rfl⟩
  delays _ _ _ := rfl

/-- Both ports enabled and at 40, nothing set yet. -/
def booted : VolumePlugin PortValues where
  plugin := {
    hal := ⟨fun _ => 40, fun _ => false, fun _ => true⟩
    audio := ⟨true, false, 0, ⟨40, 40, 40, 40⟩, fun _ => true⟩
    store := .ofStoreFile "/opt/persistent/ds/hostData"
    files := fun _ => .absent }
  muteStatus := false
  lastVolumeLevel := 0
  persistThreadAlive := true

theorem inUse : InUse (fun memory => memory) 2 booted := ⟨rfl, rfl, rfl⟩

end PortMemory

theorem stop_restores_iff_hdmi :
    (∀ earlier stop later user,
        [VolumeCall.setAudioLevel 2 50, .setAudioDucking 2 .absolute .start 20,
          .setAudioLevel 1 80, .setAudioDucking 2 .absolute .stop 0] = earlier ++ stop :: later →
        stop.IsStop 2 → userLevel 2 earlier = some user →
        ((earlier ++ [stop]).foldl (VolumePlugin.perform PortMemory.hal)
          PortMemory.booted).plugin.hal.level 2 = user) ↔
      ∀ earlier stop later user,
        [VolumeCall.setAudioLevel 2 50, .setAudioDucking 2 .absolute .start 20,
          .setAudioLevel 1 80, .setAudioDucking 2 .absolute .stop 0] = earlier ++ stop :: later →
        stop.IsStop 2 → userLevel 2 earlier = some user →
        (speakerView (fun memory => memory) 2
          (earlier.foldl (VolumePlugin.perform PortMemory.hal) PortMemory.booted)).Restores user :=
  stop_restores_iff PortMemory.stores (fun _ => rfl) PortMemory.inUse
    (by simp [VolumeCall.IsLevelCall])

/-- The level of another port is what the speaker returns to. -/
theorem not_stop_restores :
    ¬∀ calls : List VolumeCall, (∀ call ∈ calls, call.IsLevelCall) →
      ∀ earlier stop later user, calls = earlier ++ stop :: later → stop.IsStop 2 →
        userLevel 2 earlier = some user →
        ((earlier ++ [stop]).foldl (VolumePlugin.perform PortMemory.hal)
          PortMemory.booted).plugin.hal.level 2 = user := by
  intro restores
  have speaker := restores
    [.setAudioLevel 2 50, .setAudioDucking 2 .absolute .start 20, .setAudioLevel 1 80,
      .setAudioDucking 2 .absolute .stop 0] (by simp [VolumeCall.IsLevelCall])
    [.setAudioLevel 2 50, .setAudioDucking 2 .absolute .start 20, .setAudioLevel 1 80]
    (.setAudioDucking 2 .absolute .stop 0) [] 50 rfl ⟨.absolute, 0, rfl⟩ rfl
  exact absurd speaker (by decide +kernel)

theorem start_takesEffect_iff_quarter :
    ((([VolumeCall.setAudioLevel 2 50] ++ [VolumeCall.setAudioDucking 2 .relative .start 25]).foldl
          (VolumePlugin.perform PortMemory.hal) PortMemory.booted).plugin.hal.level 2 =
          duckedTarget 50 .relative 25 ∧
        duckedTarget 50 .relative 25 ≤ 50) ↔
      (([VolumeCall.setAudioLevel 2 50].foldl (VolumePlugin.perform PortMemory.hal)
            PortMemory.booted).plugin.audio.volumeDuckingLevel = duckedTarget 50 .relative 25 →
          ([VolumeCall.setAudioLevel 2 50].foldl (VolumePlugin.perform PortMemory.hal)
            PortMemory.booted).plugin.hal.level 2 = duckedTarget 50 .relative 25) ∧
        (AudioDuckingType.relative = .relative →
          50 * UInt8.toNat 25 < 100 * (50 + 1)) :=
  start_takesEffect_iff PortMemory.stores (fun _ => rfl) PortMemory.inUse
    (by simp [VolumeCall.SetsOrDucks] :
      ∀ call ∈ [VolumeCall.setAudioLevel 2 50], call.SetsOrDucks 2)
    (by rfl : (userLevel 2 [VolumeCall.setAudioLevel 2 50]).getD
      PortMemory.booted.lastVolumeLevel = (50 : Nat))
    .relative 25

/-- The target is what the last STOP went back to, and the level set since stays. -/
theorem not_start_takesEffect :
    ¬∀ (calls : List VolumeCall) (user : Nat) (duckingType : AudioDuckingType) (level : UInt8),
      (∀ call ∈ calls, call.SetsOrDucks 2) →
      (userLevel 2 calls).getD PortMemory.booted.lastVolumeLevel = user →
      ((calls ++ [VolumeCall.setAudioDucking 2 duckingType .start level]).foldl
          (VolumePlugin.perform PortMemory.hal) PortMemory.booted).plugin.hal.level 2 =
          duckedTarget user duckingType level ∧
        duckedTarget user duckingType level ≤ user := by
  intro takesEffect
  have ducked := takesEffect
    [.setAudioLevel 2 50, .setAudioDucking 2 .absolute .start 20,
      .setAudioDucking 2 .absolute .stop 0, .setAudioLevel 2 70] 70 .absolute 50
    (by simp [VolumeCall.SetsOrDucks]) (by rfl)
  exact absurd ducked.1 (by decide +kernel)

end DeviceSettings.Audio
