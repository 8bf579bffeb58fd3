import DeviceSettings.Std.Announcement
import DeviceSettings.Std.Machine
import DeviceSettings.VideoPort.ForceDisable4K

/-!
# Announcements of the legacy classes

`dVideoPortImpl` and `dVideoDeviceImpl` call the callbacks of their bundles before and after the
HAL call that changes the mode. Whether the call was there and what it has answered is looked at
too late, or not at all.
-/

namespace DeviceSettings.VideoPort

open DeviceSettings.Std

/-- `ResolutionChange`. -/
structure ResolutionChange where
  width : Nat
  height : Nat
  deriving DecidableEq, Repr

/-- The switch by which a resolution is announced. -/
def resolutionChange : PixelResolution → ResolutionChange
  | .p720x480 => ⟨720, 480⟩
  | .p720x576 => ⟨720, 576⟩
  | .p1280x720 => ⟨1280, 720⟩
  | .p1366x768 => ⟨1366, 768⟩
  | .p1920x1080 => ⟨1920, 1080⟩
  | .p3840x2160 => ⟨3840, 2160⟩
  | .p4096x2160 => ⟨4096, 2160⟩
  | .max => ⟨1280, 720⟩

/-- What the clients of both classes are told. -/
inductive Announcement where
  | resolution (change : ResolutionChange)
  | frameRate (framerate : String)
  deriving DecidableEq, Repr

/-- What the legacy HAL is asked for. -/
inductive LegacyMode (room : Nat) where
  | resolution (handle : Int) (resolution : HalResolution room)
  | frameRate (handle : Int) (framerate : HalName 31)
  deriving DecidableEq

abbrev LegacyEvent (room : Nat) := ChangeEvent Announcement (LegacyMode room)

/-- The call has succeeded. -/
def succeeded {ε α : Type} : Except ε α → Bool
  | .ok _ => true
  | .error _ => false

section Setters

variable {σ : Type} {room : Nat}

/-- `VideoPortPreResolutionChange(resolution)`. -/
def videoPortPreResolutionChange (resolution : HalResolution room) : LegacyEvent room :=
  .preChange (.resolution (resolutionChange resolution.pixelResolution))

/-- `VideoPortPostResolutionChange(resolution)`. -/
def videoPortPostResolutionChange (resolution : HalResolution room) : LegacyEvent room :=
  .postChange (.resolution (resolutionChange resolution.pixelResolution))

/-- What `SetVideoPortResolution` comes to call `dsSetResolution` with, past its checks. -/
def ResolutionState.requestedResolution (platform : ResolutionPlatform σ room)
    (state : ResolutionState σ) (handle : Int) (resolution : VideoPortResolution) :
    Option (HalResolution room) :=
  let resolution := platform.resolvedResolution resolution
  match platform.resolvePortTypeByHandle handle with
  | none => none
  | some _ =>
    if gave (platform.hal.dsIsDisplayConnected state.hal handle) false then none
    else if gave (platform.hal.dsGetForceDisable4KSupport state.hal handle) true &&
        occursIn "2160" resolution.name then none
    else
      let dsResolution := toHal room resolution
      match platform.hal.dsGetResolution state.hal handle with
      | .ok platformResolution =>
        if dsResolution.name.text = platformResolution.name.text then none else some dsResolution
      | .error _ => some dsResolution

/-- The callbacks of `SetVideoPortResolution(handle, resolution, ..)` around its HAL call. -/
def ResolutionState.resolutionEvents (platform : ResolutionPlatform σ room)
    (state : ResolutionState σ) (handle : Int) (resolution : VideoPortResolution) :
    List (LegacyEvent room) :=
  match state.requestedResolution platform handle resolution with
  | none => []
  | some dsResolution =>
    let eError := (platform.hal.dsSetResolution state.hal handle dsResolution).1
    [videoPortPreResolutionChange dsResolution,
      .requested (.resolution handle dsResolution) (succeeded eError),
      videoPortPostResolutionChange dsResolution]

/-- The legacy classes: the port's platform, and `dsSetDisplayframerate` if the HAL library has
it. -/
structure LegacyPlatform (σ : Type) (room : Nat) where
  ports : ResolutionPlatform σ room
  dsSetDisplayframerate : Option (σ → Int → HalName 31 → Except DsError Unit × σ)

/-- The callbacks of `dVideoDeviceImpl::SetDisplayFrameRate(handle, framerate)` around its HAL
call, and the HAL behind it. Without the HAL function `result` is still `dsERR_NONE`. -/
def LegacyPlatform.setDisplayFrameRate (platform : LegacyPlatform σ room) (hal : σ) (handle : Int)
    (framerate : String) : Except CoreError Unit × σ × List (LegacyEvent room) :=
  if framerate = "" then (.error .badRequest, hal, [])
  else
    let pre : LegacyEvent room := .preChange (.frameRate framerate)
    let post : LegacyEvent room := .postChange (.frameRate framerate)
    match platform.dsSetDisplayframerate with
    | none => (.error .general, hal, [pre, post])
    | some func =>
      let dsFramerate := HalName.copy 31 framerate
      let called := func hal handle dsFramerate
      let request : LegacyEvent room :=
        .requested (.frameRate handle dsFramerate) (succeeded called.1)
      match called.1 with
      | .ok _ => (.ok (), called.2, [pre, request, post])
      | .error .invalidParam => (.error .general, called.2, [pre, request])
      | .error _ => (.error .general, called.2, [pre, request, post])

/-- The announcement is of this mode. -/
def LegacyMode.Named : Announcement → LegacyMode room → Prop
  | .resolution change, .resolution _ dsResolution =>
    change = resolutionChange dsResolution.pixelResolution
  | .frameRate framerate, .frameRate _ dsFramerate => framerate = dsFramerate.text
  | _, _ => False

/-- The calls of clients, and a change of the HAL by itself. -/
inductive LegacyAction (σ : Type) where
  | setVideoPortResolution (handle : Int) (resolution : VideoPortResolution)
      (persist forceCompatibility : Bool)
  | setDisplayFrameRate (handle : Int) (framerate : String)
  | halChanges (hal : σ)

/-- Both classes over one HAL. -/
def legacyMachine (platform : LegacyPlatform σ room) :
    Machine (ResolutionState σ) (LegacyAction σ) (LegacyEvent room) where
  step state
    | .setVideoPortResolution handle resolution persist forceCompatibility =>
      some ((state.setVideoPortResolution platform.ports handle resolution persist
        forceCompatibility).2, state.resolutionEvents platform.ports handle resolution)
    | .setDisplayFrameRate handle framerate =>
      let called := platform.setDisplayFrameRate state.hal handle framerate
      some ({ state with hal := called.2.1 }, called.2.2)
    | .halChanges hal => some ({ state with hal := hal }, [])

abbrev LegacyStep (σ : Type) (room : Nat) :=
  Occurrence (ResolutionState σ) (LegacyAction σ) (LegacyEvent room)

/-- The HAL goes along with what the callbacks announce: it sets the resolution it is asked for;
it has a function for the frame rate, and either sets it in full or calls it invalid. -/
def LegacyPlatform.GoesAlong (platform : LegacyPlatform σ room) (occurrence : LegacyStep σ room) :
    Prop :=
  match occurrence.action with
  | .setVideoPortResolution handle resolution _ _ =>
    ∀ dsResolution,
      occurrence.before.requestedResolution platform.ports handle resolution = some dsResolution →
      (platform.ports.hal.dsSetResolution occurrence.before.hal handle dsResolution).1 = .ok ()
  | .setDisplayFrameRate handle framerate =>
    framerate = "" ∨ ∃ func, platform.dsSetDisplayframerate = some func ∧
      ((func occurrence.before.hal handle (.copy 31 framerate)).1 = .error .invalidParam ∨
        (func occurrence.before.hal handle (.copy 31 framerate)).1 = .ok () ∧
          strncpy framerate 31 = framerate)
  | .halChanges _ => True

end Setters

section Steps

variable {σ : Type} {room : Nat} {platform : LegacyPlatform σ room}
  {InEffect : LegacyMode room → Prop}

section Requests

variable {ports : ResolutionPlatform σ room} {state : ResolutionState σ} {handle : Int}
  {resolution : VideoPortResolution} {dsResolution : HalResolution room}

theorem requestedResolution_eq_some_iff :
    state.requestedResolution ports handle resolution = some dsResolution ↔
      ports.resolvePortTypeByHandle handle ≠ none ∧
        ports.hal.dsIsDisplayConnected state.hal handle ≠ .ok false ∧
        ¬(ports.hal.dsGetForceDisable4KSupport state.hal handle = .ok true ∧
          occursIn "2160" resolution.name = true) ∧
        ¬AlreadyNamed ports state.hal handle resolution.name ∧
        dsResolution = toHal room (ports.resolvedResolution resolution) := by
  unfold ResolutionState.requestedResolution
  dsimp only
  rw [ResolutionPlatform.resolvedResolution_name]
  cases resolved : ports.resolvePortTypeByHandle handle with
  | none => simp
  | some portType =>
      dsimp only
      split_ifs with disconnected refused
      · simp [gave_iff.mp disconnected]
      · rw [Bool.and_eq_true, gave_iff] at refused
        simp [refused.1, refused.2]
      · rw [gave_iff] at disconnected
        rw [Bool.and_eq_true, gave_iff] at refused
        have name : (toHal room (ports.resolvedResolution resolution)).name =
            .copy room resolution.name := by
          rw [toHal, ResolutionPlatform.resolvedResolution_name]
        cases reported : ports.hal.dsGetResolution state.hal handle with
        | error error =>
            dsimp only
            rw [Option.some.injEq, eq_comm]
            simp [AlreadyNamed, reported, disconnected, refused]
        | ok current =>
            have already : AlreadyNamed ports state.hal handle resolution.name ↔
                (toHal room (ports.resolvedResolution resolution)).name.text =
                  current.name.text := by
              rw [name]
              simp [AlreadyNamed, reported, HalName.ext_iff, eq_comm]
            dsimp only
            rw [already]
            split_ifs with same
            · simp [same]
            · rw [Option.some.injEq, eq_comm]
              simp [same, disconnected, refused]

/-- The request is the call that a recording HAL writes down. -/
theorem mem_setCalls_iff_requestedResolution {persist forceCompatibility : Bool}
    {call : Int × HalResolution room} :
    call ∈ state.setCalls ports handle resolution persist forceCompatibility ↔
      ∃ dsResolution, state.requestedResolution ports handle resolution = some dsResolution ∧
        call = (handle, dsResolution) := by
  simp only [mem_setCalls, requestedResolution_eq_some_iff]
  constructor
  · rintro ⟨resolved, connected, allowed, fresh, rfl⟩
    exact ⟨_, ⟨resolved, connected, allowed, fresh, rfl⟩, rfl⟩
  · rintro ⟨dsResolution, ⟨resolved, connected, allowed, fresh, rfl⟩, rfl⟩
    exact ⟨resolved, connected, allowed, fresh, rfl⟩

end Requests

theorem succeeded_iff {ε : Type} {answer : Except ε Unit} :
    succeeded answer = true ↔ answer = .ok () := by
  cases answer <;> simp [succeeded]

theorem told_resolutionEvents_iff {ports : ResolutionPlatform σ room} {state : ResolutionState σ}
    {handle : Int} {resolution : VideoPortResolution} :
    ChangeEvent.Told LegacyMode.Named InEffect (state.resolutionEvents ports handle resolution) ↔
      ∀ dsResolution, state.requestedResolution ports handle resolution = some dsResolution →
        (ports.hal.dsSetResolution state.hal handle dsResolution).1 = .ok () := by
  unfold ResolutionState.resolutionEvents
  cases asked : state.requestedResolution ports handle resolution with
  | none => exact iff_of_true ChangeEvent.told_nil nofun
  | some dsResolution =>
      refine ChangeEvent.told_change_iff.trans ?_
      rw [succeeded_iff]
      constructor
      · rintro ⟨accepted, -⟩ other same
        obtain rfl := Option.some.inj same
        exact accepted
      · exact fun accepts => ⟨accepts dsResolution rfl, rfl⟩

theorem told_setDisplayFrameRate_iff {hal : σ} {handle : Int} {framerate : String} :
    ChangeEvent.Told LegacyMode.Named InEffect
        (platform.setDisplayFrameRate hal handle framerate).2.2 ↔
      framerate = "" ∨ ∃ func, platform.dsSetDisplayframerate = some func ∧
        ((func hal handle (.copy 31 framerate)).1 = .error .invalidParam ∨
          (func hal handle (.copy 31 framerate)).1 = .ok () ∧
            strncpy framerate 31 = framerate) := by
  unfold LegacyPlatform.setDisplayFrameRate
  split_ifs with empty
  · exact iff_of_true ChangeEvent.told_nil (.inl empty)
  · rw [or_iff_right empty]
    cases found : platform.dsSetDisplayframerate with
    | none => exact iff_of_false ChangeEvent.not_told_unasked (by simp)
    | some func =>
        simp only [Option.some.injEq, exists_eq_left']
        cases answer : (func hal handle (.copy 31 framerate)).1 with
        | ok _ =>
            refine ChangeEvent.told_change_iff.trans ?_
            simp [succeeded, LegacyMode.Named, HalName.copy, eq_comm]
        | error error =>
            cases error with
            | invalidParam =>
                refine iff_of_true (ChangeEvent.told_request_iff.mpr ?_) (.inl rfl)
                intro accepted
                cases accepted
            | general | invalidState | operationNotSupported | unknown =>
                refine iff_of_false (fun told => ?_) (by simp)
                have accepted := (ChangeEvent.told_change_iff.mp told).1
                cases accepted

/-- A step of the legacy classes is told right exactly when the HAL goes along. -/
theorem legacy_told_iff {before after : ResolutionState σ} {action : LegacyAction σ}
    {events : List (LegacyEvent room)}
    (taken : (legacyMachine platform).step before action = some (after, events)) :
    ChangeEvent.Told LegacyMode.Named InEffect events ↔
      platform.GoesAlong ⟨before, action, events, after⟩ := by
  cases action with
  | setVideoPortResolution handle resolution persist forceCompatibility =>
      cases taken
      exact told_resolutionEvents_iff
  | setDisplayFrameRate handle framerate =>
      cases taken
      exact told_setDisplayFrameRate_iff
  | halChanges hal =>
      cases taken
      exact iff_of_true ChangeEvent.told_nil trivial

end Steps
end DeviceSettings.VideoPort
