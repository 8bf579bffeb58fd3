import DeviceSettings.Audio.Ducking

/-!
# Ducking and the mute of other ports

The HAL keeps a mute flag for each port, while `SetAudioDucking` goes by the one `_muteStatus`
that `SetAudioMute` on any port writes. A run is compared with what is left of it when the
calls on ports other than the speaker are deleted.
-/

namespace DeviceSettings.Audio

open DeviceSettings.Std

namespace VolumeCall

/-- A call that mutes or enables any port, or sets or ducks the port itself. -/
def MutesEnablesOrIsOn (handle : Int) : VolumeCall → Prop
  | .setAudioMute _ _ | .enableAudioPort _ _ => True
  | .setAudioLevel port _ | .setAudioDucking port _ _ _ => port = handle
  | .getAudioLevel _ => False

def IsDucking : VolumeCall → Prop
  | .setAudioDucking _ _ _ _ => True
  | _ => False

/-- The mute state requested on the port, `requested` ahead of the call. -/
def muteRequest (handle : Int) (requested : Bool) : VolumeCall → Bool
  | .setAudioMute port mute => if port = handle then mute else requested
  | _ => requested

end VolumeCall

/-- The mute state last requested on the port, `requested` ahead of the calls. -/
def lastMute (handle : Int) (requested : Bool) (calls : List VolumeCall) : Bool :=
  calls.foldl (VolumeCall.muteRequest handle) requested

theorem lastMute_snoc (handle : Int) (requested : Bool) (calls : List VolumeCall)
    (call : VolumeCall) :
    lastMute handle requested (calls ++ [call]) =
      call.muteRequest handle (lastMute handle requested calls) := by
  rw [lastMute, List.foldl_append]
  rfl

namespace Speaker

/-- The speaker as it would be if `_muteStatus` were this. -/
def withStatus (status : Bool) (speaker : Speaker) : Speaker :=
  { speaker with muteStatus := status }

/-- What a ducking call needs of the speaker to do what it would do if the other ports had
never been muted: `_muteStatus` agrees with `ownStatus`, or does not matter, because the port
is disabled, the volume is remembered or the HAL is at it already. A START on an enabled and
unmuted speaker also has to find the HAL at the volume or to set it. -/
def DucksAlone (ownStatus : Bool) (duckingType : AudioDuckingType)
    (duckingAction : AudioDuckingAction) (level : UInt8) (speaker : Speaker) : Prop :=
  let volume := duckingVolume speaker.lastVolumeLevel duckingType duckingAction level
  (speaker.muteStatus = ownStatus ∨ speaker.enabled = false ∨ volume = speaker.duckingLevel ∨
      speaker.level = volume) ∧
    (duckingAction = .start → speaker.enabled = true → speaker.muted = false →
      speaker.level = volume ∨ (speaker.muteStatus = false ∧ volume ≠ speaker.duckingLevel))

/-- Ducked to the target, at once or when the speaker is next unmuted or enabled. -/
structure DuckedTo (target : Int) (speaker : Speaker) : Prop where
  ducking : speaker.ducking = true
  duckingLevel : speaker.duckingLevel = target
  applied : speaker.enabled = true → speaker.muted = false → speaker.level = target

theorem DuckedTo.restoredLevel {target : Int} {speaker : Speaker}
    (ducked : speaker.DuckedTo target) : speaker.restoredLevel = target := by
  rw [Speaker.restoredLevel, if_pos ducked.ducking, ducked.duckingLevel]

/-- Only another ducking call ends it. -/
theorem DuckedTo.own {target : Int} {speaker : Speaker} (ducked : speaker.DuckedTo target)
    (alive : Bool) {call : VolumeCall} (ducks : ¬call.IsDucking)
    (gets : ∀ handle, call ≠ .getAudioLevel handle) :
    (speaker.own alive call).DuckedTo target := by
  cases call with
  | setAudioLevel handle level =>
      refine ⟨ducked.ducking, ducked.duckingLevel, fun _ _ => ?_⟩
      simp only [Speaker.own, ducked.ducking, ducked.duckingLevel, if_true]
  | getAudioLevel handle => exact absurd rfl (gets handle)
  | setAudioMute handle mute =>
      refine ⟨ducked.ducking, ducked.duckingLevel, fun _ unmuted => ?_⟩
      have unmuting : mute = false := unmuted
      subst unmuting
      exact ducked.restoredLevel
  | enableAudioPort handle enable =>
      refine ⟨ducked.ducking, ducked.duckingLevel, fun enabled unmuted => ?_⟩
      have enabling : enable = true := enabled
      have unmutedBefore : speaker.muted = false := unmuted
      simp only [Speaker.own, enabling, unmutedBefore, Bool.not_false, Bool.and_self, if_true]
      exact ducked.restoredLevel
  | setAudioDucking handle duckingType duckingAction level => exact absurd trivial ducks

theorem DuckedTo.other {target : Int} {speaker : Speaker} (ducked : speaker.DuckedTo target)
    (portLevel : AudioLevel) {call : VolumeCall} (ducks : ¬call.IsDucking) :
    (speaker.other portLevel call).DuckedTo target := by
  cases call with
  | setAudioDucking handle duckingType duckingAction level => exact absurd trivial ducks
  | _ => exact ⟨ducked.ducking, ducked.duckingLevel, ducked.applied⟩

/-- A call on the speaker that is no ducking does the same whatever `_muteStatus` is. -/
theorem own_withStatus {speaker : Speaker} (status alive : Bool) {call : VolumeCall}
    (ducks : ¬call.IsDucking) :
    (speaker.withStatus status).own alive call =
      (speaker.own alive call).withStatus (call.muteRequest call.handle status) := by
  cases call with
  | setAudioMute handle mute =>
      simp only [Speaker.own, withStatus, VolumeCall.muteRequest, VolumeCall.handle, if_true]
      rfl
  | setAudioDucking handle duckingType duckingAction level => exact absurd trivial ducks
  | _ => rfl

/-- A ducking call on the speaker differs at most in the level it leaves. -/
theorem own_setAudioDucking_withStatus_iff {speaker : Speaker} (status alive : Bool)
    (handle : Int) (duckingType : AudioDuckingType) (duckingAction : AudioDuckingAction)
    (level : UInt8) :
    (speaker.withStatus status).own alive
          (.setAudioDucking handle duckingType duckingAction level) =
        (speaker.own alive (.setAudioDucking handle duckingType duckingAction level)).withStatus
          status ↔
      ((speaker.withStatus status).own alive
          (.setAudioDucking handle duckingType duckingAction level)).level =
        (speaker.own alive (.setAudioDucking handle duckingType duckingAction level)).level := by
  constructor
  · intro same
    rw [same]
    rfl
  · intro same
    simp only [Speaker.own, withStatus, Speaker.mk.injEq, and_true] at same ⊢
    exact same

theorem ducksAlone_iff {speaker : Speaker} (status alive : Bool) (handle : Int)
    (duckingType : AudioDuckingType) (duckingAction : AudioDuckingAction) (level : UInt8) :
    speaker.DucksAlone status duckingType duckingAction level ↔
      ((speaker.withStatus status).own alive
          (.setAudioDucking handle duckingType duckingAction level)).level =
        (speaker.own alive (.setAudioDucking handle duckingType duckingAction level)).level ∧
      (duckingAction = .start → speaker.enabled = true → speaker.muted = false →
        (speaker.own alive (.setAudioDucking handle duckingType duckingAction level)).level =
          duckingVolume speaker.lastVolumeLevel duckingType duckingAction level) := by
  simp only [DucksAlone, Speaker.own, withStatus]
  by_cases remembered :
      duckingVolume speaker.lastVolumeLevel duckingType duckingAction level = speaker.duckingLevel
  · simp [remembered]
  · by_cases enabled : speaker.enabled = true
    · cases status <;> by_cases muted : speaker.muteStatus = true <;>
        simp [remembered, enabled, muted]
      exact fun _ => eq_comm
    · simp [remembered, enabled]

end Speaker

section Runs

variable {σ : Type} {hal : VolumeHal σ} {values : σ → PortValues} (stores : hal.Stores values)
  {speaker : Int} (port : ∀ state, hal.dsGetAudioPort state .speaker 0 = .ok speaker)
  {start : VolumePlugin σ} (initialized : start.plugin.audio.isInitialized = true)

include stores port in
/-- No call changes the service. -/
theorem sameService_foldl {start : VolumePlugin σ}
    (initialized : start.plugin.audio.isInitialized = true) (calls : List VolumeCall) :
    SameService start (calls.foldl (VolumePlugin.perform hal) start) := by
  induction calls using List.reverseRecOn with
  | nil => exact ⟨rfl, rfl⟩
  | append_singleton calls call ih =>
      rw [List.foldl_append, List.foldl_cons, List.foldl_nil]
      have step := (speakerView_perform stores port (ih.initialized.trans initialized) call).1
      exact ⟨step.initialized.trans ih.initialized, step.alive.trans ih.alive⟩

/-- The speaker after the calls. -/
def speakerAfter (hal : VolumeHal σ) (values : σ → PortValues) (speaker : Int)
    (start : VolumePlugin σ) (calls : List VolumeCall) : Speaker :=
  speakerView values speaker (calls.foldl (VolumePlugin.perform hal) start)

include stores port initialized in
theorem speakerAfter_own (calls : List VolumeCall) {call : VolumeCall}
    (own : call.handle = speaker) :
    speakerAfter hal values speaker start (calls ++ [call]) =
      (speakerAfter hal values speaker start calls).own start.persistThreadAlive call := by
  have same := sameService_foldl stores port initialized calls
  rw [speakerAfter, List.foldl_append, List.foldl_cons, List.foldl_nil,
    speakerView_perform_own stores port (same.initialized.trans initialized) own, same.alive]
  rfl

include stores port initialized in
theorem speakerAfter_other (calls : List VolumeCall) {call : VolumeCall}
    (other : call.handle ≠ speaker) :
    ∃ portLevel, speakerAfter hal values speaker start (calls ++ [call]) =
      (speakerAfter hal values speaker start calls).other portLevel call := by
  have same := sameService_foldl stores port initialized calls
  rw [speakerAfter, List.foldl_append, List.foldl_cons, List.foldl_nil,
    speakerView_perform_other stores port (same.initialized.trans initialized) other]
  exact ⟨_, rfl⟩

include stores port initialized in
/-- The HAL mutes the speaker as last requested. -/
theorem muted_speakerAfter (calls : List VolumeCall) :
    (speakerAfter hal values speaker start calls).muted =
      lastMute speaker ((values start.plugin.hal).muted speaker) calls := by
  induction calls using List.reverseRecOn with
  | nil => rfl
  | append_singleton calls call ih =>
      rw [lastMute_snoc, ← ih]
      by_cases own : call.handle = speaker
      · rw [speakerAfter_own stores port initialized _ own]
        cases call with
        | setAudioMute handle mute => exact (if_pos own).symm
        | _ => rfl
      · obtain ⟨portLevel, after⟩ := speakerAfter_other stores port initialized calls own
        rw [after]
        cases call with
        | setAudioMute handle mute => exact (if_neg own).symm
        | _ => rfl

/-- Every ducking call of the run finds the speaker so that the other ports do not matter. -/
def DucksAloneIn (hal : VolumeHal σ) (values : σ → PortValues) (speaker : Int)
    (start : VolumePlugin σ) (calls : List VolumeCall) : Prop :=
  ∀ earlier duckingType duckingAction level,
    earlier ++ [.setAudioDucking speaker duckingType duckingAction level] <+: calls →
    (speakerAfter hal values speaker start earlier).DucksAlone
      (lastMute speaker start.muteStatus earlier) duckingType duckingAction level

theorem ducksAloneIn_snoc_iff {calls : List VolumeCall} {call : VolumeCall} :
    DucksAloneIn hal values speaker start (calls ++ [call]) ↔
      DucksAloneIn hal values speaker start calls ∧
        ∀ duckingType duckingAction level,
          call = .setAudioDucking speaker duckingType duckingAction level →
          (speakerAfter hal values speaker start calls).DucksAlone
            (lastMute speaker start.muteStatus calls) duckingType duckingAction level := by
  constructor
  · intro alone
    refine ⟨fun earlier duckingType duckingAction level within => ?_,
      fun duckingType duckingAction level last => ?_⟩
    · exact alone _ _ _ _ (within.trans (List.prefix_append _ _))
    · subst last
      exact alone _ _ _ _ (List.prefix_refl _)
  · rintro ⟨alone, last⟩ earlier duckingType duckingAction level within
    rcases List.prefix_concat_iff.mp within with whole | before
    · obtain ⟨rfl, same⟩ := List.append_inj' whole rfl
      exact last _ _ _ (List.cons.inj same).1.symm
    · exact alone _ _ _ _ before

/-- The calls on the port. -/
def callsOn (handle : Int) (calls : List VolumeCall) : List VolumeCall :=
  calls.filter fun call => call.handle = handle

include stores port initialized in
/-- The run without the other ports leaves the speaker as the run does, but for
`_muteStatus`. -/
theorem speakerAfter_callsOn {calls : List VolumeCall}
    (allowed : ∀ call ∈ calls, call.MutesEnablesOrIsOn speaker)
    (alone : DucksAloneIn hal values speaker start calls) :
    speakerAfter hal values speaker start (callsOn speaker calls) =
      (speakerAfter hal values speaker start calls).withStatus
        (lastMute speaker start.muteStatus calls) := by
  induction calls using List.reverseRecOn with
  | nil => rfl
  | append_singleton calls call ih =>
      obtain ⟨aloneBefore, aloneLast⟩ := ducksAloneIn_snoc_iff.mp alone
      have agree := ih (fun call member => allowed call (List.mem_append_left _ member)) aloneBefore
      rw [lastMute_snoc, callsOn, List.filter_append, ← callsOn]
      by_cases own : call.handle = speaker
      · have kept : [call].filter (fun call => call.handle = speaker) = [call] := by simp [own]
        rw [kept, speakerAfter_own stores port initialized _ own,
          speakerAfter_own stores port initialized _ own, agree]
        by_cases ducks : call.IsDucking
        · cases call with
          | setAudioDucking handle duckingType duckingAction level =>
              obtain rfl : handle = speaker := own
              exact (Speaker.own_setAudioDucking_withStatus_iff _ _ _ _ _ _).mpr
                ((Speaker.ducksAlone_iff _ _ handle _ _ _).mp (aloneLast _ _ _ rfl)).1
          | _ => exact absurd ducks id
        · rw [Speaker.own_withStatus _ _ ducks, own]
      · have deleted : [call].filter (fun call => call.handle = speaker) = [] := by simp [own]
        obtain ⟨portLevel, after⟩ := speakerAfter_other stores port initialized calls own
        rw [deleted, List.append_nil, agree, after]
        have only := allowed call (List.mem_append_right _ List.mem_cons_self)
        cases call with
        | setAudioMute handle mute =>
            have elsewhere : handle ≠ speaker := own
            simp only [VolumeCall.muteRequest, if_neg elsewhere]
            rfl
        | enableAudioPort handle enable => rfl
        | setAudioLevel handle level => exact absurd only own
        | getAudioLevel handle => exact absurd only id
        | setAudioDucking handle duckingType duckingAction level => exact absurd only own

include stores port initialized in
/-- Ducked by a START, the speaker stays ducked until the next ducking call. -/
theorem duckedTo_speakerAfter {calls earlier later : List VolumeCall}
    (allowed : ∀ call ∈ calls, call.MutesEnablesOrIsOn speaker)
    (alone : DucksAloneIn hal values speaker start calls) {duckingType : AudioDuckingType}
    {level : UInt8}
    (split : calls = earlier ++ .setAudioDucking speaker duckingType .start level :: later)
    (last : ∀ call ∈ later, ¬call.IsDucking) :
    (speakerAfter hal values speaker start calls).DuckedTo
      (duckingVolume (speakerAfter hal values speaker start earlier).lastVolumeLevel
        duckingType .start level) := by
  subst split
  induction later using List.reverseRecOn with
  | nil =>
      have here := alone earlier duckingType .start level (List.prefix_refl _)
      rw [speakerAfter_own stores port initialized _ rfl]
      exact ⟨rfl, rfl, ((Speaker.ducksAlone_iff _ _ speaker _ _ _).mp here).2 rfl⟩
  | append_singleton later call ih =>
      rw [← List.cons_append, ← List.append_assoc] at allowed alone ⊢
      have ducked := ih (fun call member => last call (List.mem_append_left _ member))
        (fun call member => allowed call (List.mem_append_left _ member))
        (ducksAloneIn_snoc_iff.mp alone).1
      have ducks := last call (List.mem_append_right _ List.mem_cons_self)
      have only := allowed call (List.mem_append_right _ List.mem_cons_self)
      by_cases own : call.handle = speaker
      · rw [speakerAfter_own stores port initialized _ own]
        refine ducked.own _ ducks fun handle same => ?_
        subst same
        exact only
      · obtain ⟨portLevel, after⟩ := speakerAfter_other stores port initialized _ own
        rw [after]
        exact ducked.other _ ducks

/-- Ducking does not feel the other ports after this run: the HAL level of the speaker is the
target of the START that ducks it, whenever the port is enabled and unmuted on its own request,
and it is what the calls on the speaker alone leave. -/
structure IgnoresOtherPorts (hal : VolumeHal σ) (values : σ → PortValues) (speaker : Int)
    (start : VolumePlugin σ) (calls : List VolumeCall) : Prop where
  ducked : ∀ earlier duckingType level later,
    calls = earlier ++ .setAudioDucking speaker duckingType .start level :: later →
    (∀ call ∈ later, ¬call.IsDucking) →
    (speakerAfter hal values speaker start calls).enabled = true →
    lastMute speaker ((values start.plugin.hal).muted speaker) calls = false →
    (speakerAfter hal values speaker start calls).level =
      duckingVolume (earlier.foldl (VolumePlugin.perform hal) start).lastVolumeLevel
        duckingType .start level
  alone : (speakerAfter hal values speaker start (callsOn speaker calls)).level =
    (speakerAfter hal values speaker start calls).level

include stores port initialized in
theorem ignoresOtherPorts_of_ducksAloneIn {calls : List VolumeCall}
    (allowed : ∀ call ∈ calls, call.MutesEnablesOrIsOn speaker)
    (alone : DucksAloneIn hal values speaker start calls) :
    IgnoresOtherPorts hal values speaker start calls where
  ducked := by
    intro earlier duckingType level later split last enabled unmuted
    have ducked := duckedTo_speakerAfter stores port initialized allowed alone split last
    rw [← muted_speakerAfter stores port initialized] at unmuted
    exact ducked.applied enabled unmuted
  alone := by
    rw [speakerAfter_callsOn stores port initialized allowed alone]
    rfl

include stores port initialized in
/-- A ducking call that leaves the speaker as it should found it fit for that. -/
theorem ducksAlone_of_ignoresOtherPorts {calls : List VolumeCall}
    (allowed : ∀ call ∈ calls, call.MutesEnablesOrIsOn speaker)
    (alone : DucksAloneIn hal values speaker start calls) {duckingType : AudioDuckingType}
    {duckingAction : AudioDuckingAction} {level : UInt8}
    (ignores : IgnoresOtherPorts hal values speaker start
      (calls ++ [.setAudioDucking speaker duckingType duckingAction level])) :
    (speakerAfter hal values speaker start calls).DucksAlone
      (lastMute speaker start.muteStatus calls) duckingType duckingAction level := by
  have agree := speakerAfter_callsOn stores port initialized allowed alone
  have kept : callsOn speaker
      (calls ++ [.setAudioDucking speaker duckingType duckingAction level]) =
        callsOn speaker calls ++ [.setAudioDucking speaker duckingType duckingAction level] := by
    simp [callsOn, VolumeCall.handle]
  have after := speakerAfter_own stores port initialized calls
    (rfl : (VolumeCall.setAudioDucking speaker duckingType duckingAction level).handle = speaker)
  refine (Speaker.ducksAlone_iff _ start.persistThreadAlive speaker _ _ _).mpr ⟨?_, ?_⟩
  · have same := ignores.alone
    rw [kept, speakerAfter_own stores port initialized _ rfl, after, agree] at same
    exact same
  · rintro rfl enabled unmuted
    have ducked := ignores.ducked calls duckingType level [] rfl (by simp)
    rw [← muted_speakerAfter stores port initialized, after] at ducked
    exact ducked enabled unmuted

end Runs

/-- All along a run of mutes, enables and calls on the speaker, ducking does not feel the other
ports exactly when every ducking call finds the speaker so. -/
theorem ignoresOtherPorts_iff {σ : Type} {hal : VolumeHal σ} {values : σ → PortValues}
    (stores : hal.Stores values) {speaker : Int}
    (port : ∀ state, hal.dsGetAudioPort state .speaker 0 = .ok speaker)
    {start : VolumePlugin σ} (initialized : start.plugin.audio.isInitialized = true)
    {calls : List VolumeCall} (allowed : ∀ call ∈ calls, call.MutesEnablesOrIsOn speaker) :
    (∀ earlier, earlier <+: calls → IgnoresOtherPorts hal values speaker start earlier) ↔
      ∀ earlier duckingType duckingAction level,
        earlier ++ [.setAudioDucking speaker duckingType duckingAction level] <+: calls →
        (speakerAfter hal values speaker start earlier).DucksAlone
          (lastMute speaker start.muteStatus earlier) duckingType duckingAction level := by
  constructor
  · intro ignores
    change DucksAloneIn hal values speaker start calls
    induction calls using List.reverseRecOn with
    | nil =>
        intro earlier duckingType duckingAction level within
        simp at within
    | append_singleton calls call ih =>
        have allowedBefore : ∀ call ∈ calls, call.MutesEnablesOrIsOn speaker :=
          fun call member => allowed call (List.mem_append_left _ member)
        have alone := ih allowedBefore fun earlier within =>
          ignores earlier (within.trans (List.prefix_append _ _))
        refine ducksAloneIn_snoc_iff.mpr ⟨alone, ?_⟩
        rintro duckingType duckingAction level rfl
        exact ducksAlone_of_ignoresOtherPorts stores port initialized allowedBefore alone
          (ignores _ (List.prefix_refl _))
  · intro alone earlier within
    exact ignoresOtherPorts_of_ducksAloneIn stores port initialized
      (fun call member => allowed call (within.subset member))
      fun before duckingType duckingAction level inside => alone _ _ _ _ (inside.trans within)

theorem ignoresOtherPorts_iff_hdmi :
    (∀ earlier, earlier <+: [VolumeCall.setAudioLevel 2 50, .setAudioDucking 2 .absolute .start 20,
          .setAudioMute 1 true, .enableAudioPort 2 true] →
        IgnoresOtherPorts PortMemory.hal (fun memory => memory) 2 PortMemory.booted earlier) ↔
      ∀ earlier duckingType duckingAction level,
        earlier ++ [.setAudioDucking 2 duckingType duckingAction level] <+:
          [VolumeCall.setAudioLevel 2 50, .setAudioDucking 2 .absolute .start 20,
            .setAudioMute 1 true, .enableAudioPort 2 true] →
        (speakerAfter PortMemory.hal (fun memory => memory) 2 PortMemory.booted earlier).DucksAlone
          (lastMute 2 PortMemory.booted.muteStatus earlier) duckingType duckingAction level :=
  ignoresOtherPorts_iff PortMemory.stores (fun _ => rfl) PortMemory.inUse.initialized
    (by simp [VolumeCall.MutesEnablesOrIsOn])

/-- With HDMI muted the START leaves the speaker at the user's level. -/
theorem not_ignoresOtherPorts :
    ¬∀ calls : List VolumeCall, (∀ call ∈ calls, call.MutesEnablesOrIsOn 2) →
      IgnoresOtherPorts PortMemory.hal (fun memory => memory) 2 PortMemory.booted calls := by
  intro ignores
  have ducked := (ignores
    [.setAudioLevel 2 50, .setAudioMute 1 true, .setAudioDucking 2 .absolute .start 20]
    (by simp [VolumeCall.MutesEnablesOrIsOn])).ducked
    [.setAudioLevel 2 50, .setAudioMute 1 true] .absolute 20 [] rfl (by simp) rfl rfl
  exact absurd ducked (by decide +kernel)

end DeviceSettings.Audio
