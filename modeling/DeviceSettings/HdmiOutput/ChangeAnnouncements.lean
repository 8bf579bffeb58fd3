import DeviceSettings.HdmiOutput.Resolutions
import DeviceSettings.VideoPort.ChangeAnnouncements

/-!
# Announcements of both backends

Of the AIDL classes only `SetDisplayFrameRate` announces what it changes; a change of the HAL by
itself is announced by both. Together with the legacy classes: where clients are told right.
-/

namespace DeviceSettings.HdmiOutput

open DeviceSettings.Std
open DeviceSettings.VideoPort

/-- A VIC on an output. -/
structure OutputVic where
  output : Int
  vic : Vic
  deriving DecidableEq, Repr

abbrev OutputEvent := ChangeEvent Announcement OutputVic

/-- The switch of `dVideoPortAIDLImpl::OnFrameRateChanged`. -/
def frameChange : PixelResolution → ResolutionChange
  | .p720x480 => ⟨720, 480⟩
  | .p720x576 => ⟨720, 576⟩
  | .p1280x720 => ⟨1280, 720⟩
  | .p1920x1080 => ⟨1920, 1080⟩
  | .p3840x2160 => ⟨3840, 2160⟩
  | _ => ⟨1920, 1080⟩

namespace OutputState

variable {σ : Type} (platform : OutputPlatform σ)

/-- The VIC for which `SetVideoPortResolution` comes to call `setProperty`, past its checks. -/
def requestedVic (state : OutputState σ) (handle : Int) (resolution : VideoPortResolution) :
    Option OutputVic :=
  match findDevice state.videoPort.devices handle with
  | none => none
  | some device =>
    match resolutionNameToVic resolution.name with
    | none => none
    | some vic =>
      if platform.hal.getHotPlugDetectState state.hal device = some false then none
      else if state.videoPort.force4KDisabled && occursIn "2160" resolution.name then none
      else some ⟨device, vic⟩

/-- What clients see of `SetVideoPortResolution`: it calls no callback. -/
def resolutionEvents (state : OutputState σ) (handle : Int) (resolution : VideoPortResolution) :
    List OutputEvent :=
  match state.requestedVic platform handle resolution with
  | none => []
  | some request =>
    [.requested request (platform.hal.setVic state.hal request.output request.vic).1]

/-- The callbacks of `dVideoDeviceAIDLImpl::SetDisplayFrameRate(handle, framerate)`. -/
def frameRateEvents (state : OutputState σ) (handle : Int) (framerate : String) :
    List OutputEvent :=
  match findDevice state.videoDevice.devices handle with
  | none => []
  | some device =>
    if framerate = "" then []
    else
      let requestedRate := (atoi framerate % 2 ^ 32).toNat
      let pre : OutputEvent := .preChange (.frameRate framerate)
      match platform.hal.getVic state.hal device with
      | none => [pre]
      | some value =>
        match findByVic (value.getD (.other 0)) with
        | none => [pre]
        | some current =>
          match findByFamilyAndRate current.family requestedRate with
          | none => [pre]
          | some target =>
            if (platform.hal.setVic state.hal device target.vic).1 then
              [pre, .requested ⟨device, target.vic⟩ true, .postChange (.frameRate framerate)]
            else [pre, .requested ⟨device, target.vic⟩ false]

/-- `dVideoDeviceAIDLImpl::GetCurrentDisplayFrameRate(handle, framerate)`. -/
def getCurrentDisplayFrameRate (state : OutputState σ) (handle : Int) :
    Except CoreError String :=
  match findDevice state.videoDevice.devices handle with
  | none => .error .unavailable
  | some device =>
    match platform.hal.getVic state.hal device with
    | none => .error .general
    | some value =>
      match findByVic (value.getD (.other 0)) with
      | some entry => .ok (toString entry.frameRateHz)
      | none => .ok "60"

/-- What both `OnFrameRateChanged` announce. -/
def onFrameRateChanged (state : OutputState σ) (output : Int) : List Announcement :=
  (match state.getCurrentDisplayFrameRate platform output with
    | .ok framerate => [.frameRate framerate]
    | .error _ => []) ++
  match state.getVideoPortResolution platform output with
  | .ok resolution => [.resolution (frameChange resolution.pixelResolution)]
  | .error _ => []

end OutputState

/-- The calls of clients, a change of the VIC that the HAL makes by itself and then reports, and
any other change of the HAL. -/
inductive ChangeAction (σ : Type) where
  | setVideoPortResolution (handle : Int) (resolution : VideoPortResolution)
      (persist forceCompatibility : Bool)
  | setDisplayFrameRate (handle : Int) (framerate : String)
  | vicChanges (changed : OutputVic) (hal : σ)
  | halChanges (hal : σ)

section Machines

variable {σ : Type} (platform : OutputPlatform σ)

/-- Both AIDL classes over one HAL. -/
def changeMachine : Machine (OutputState σ) (ChangeAction σ) OutputEvent where
  step state
    | .setVideoPortResolution handle resolution persist forceCompatibility =>
      some ((state.setVideoPortResolution platform handle resolution persist
        forceCompatibility).1, state.resolutionEvents platform handle resolution)
    | .setDisplayFrameRate handle framerate =>
      some ((state.setDisplayFrameRate platform handle framerate).1,
        state.frameRateEvents platform handle framerate)
    | .vicChanges changed hal =>
      if platform.hal.getVic hal changed.output = some (some changed.vic) then
        let state := { state with hal := hal }
        some (state, .made changed ::
          (state.onFrameRateChanged platform changed.output).map .postChange)
      else none
    | .halChanges hal => some ({ state with hal := hal }, [])

abbrev ChangeStep (σ : Type) := Occurrence (OutputState σ) (ChangeAction σ) OutputEvent

/-- The announcement is of this VIC, by the tables. -/
def OutputVic.Named : Announcement → OutputVic → Prop
  | .frameRate framerate, request =>
    ∃ entry, findByVic request.vic = some entry ∧
      (atoi framerate % 2 ^ 32).toNat = entry.frameRateHz
  | .resolution change, request =>
    ∃ entry ∈ kVicTable, entry.vic = request.vic ∧ change = frameChange entry.pixelResolution

/-- No resolution is set that is not in effect already, and a VIC to which an output changes by
itself is in the tables of the classes that have opened the output, the persisted resolution of
an output without display having its size. -/
def OutputPlatform.NothingUntold (inEffect : σ → OutputVic → Prop) (occurrence : ChangeStep σ) :
    Prop :=
  let state := occurrence.before
  match occurrence.action with
  | .setVideoPortResolution handle resolution _ _ =>
    ∀ request, state.requestedVic platform handle resolution = some request →
      (platform.hal.setVic state.hal request.output request.vic).1 = true →
        inEffect state.hal request
  | .setDisplayFrameRate _ _ => True
  | .vicChanges changed hal =>
    (changed.output ∈ state.videoDevice.devices → findByVic changed.vic ≠ none) ∧
      (changed.output ∈ state.videoPort.devices →
        ∃ entry ∈ kVicTable, entry.vic = changed.vic ∧
          (platform.hal.getHotPlugDetectState hal changed.output = some false →
            ∀ persisted, state.persistedEntry = some persisted →
              frameChange persisted.pixelResolution = frameChange entry.pixelResolution))
  | .halChanges _ => True

end Machines

/-! ### The tables -/

/-- A rate that the table has is announced by its digits. -/
theorem rate_of_digits :
    ∀ entry ∈ kFrameRateTable, (atoi (toString entry.frameRateHz) % 2 ^ 32).toNat =
      entry.frameRateHz := by
  decide

/-- A VIC has one rate. -/
theorem rate_of_row :
    ∀ entry ∈ kFrameRateTable,
      (findByVic entry.vic).map FrameRateVicEntry.frameRateHz = some entry.frameRateHz := by
  decide

/-- A VIC has one size. -/
theorem size_of_row :
    ∀ entry ∈ kVicTable, ∀ other ∈ kVicTable, other.vic = entry.vic →
      other.pixelResolution = entry.pixelResolution := by
  decide

theorem findDevice_eq_some_iff {devices : List Int} {handle device : Int} :
    findDevice devices handle = some device ↔ handle ∈ devices ∧ device = handle := by
  unfold findDevice
  constructor
  · intro found
    have same : device = handle := by simpa using List.find?_some found
    exact ⟨same ▸ List.mem_of_find?_eq_some found, same⟩
  · rintro ⟨member, rfl⟩
    cases found : devices.find? fun id => id == device with
    | none => exact absurd (List.find?_eq_none.mp found device member) (by simp)
    | some other => rw [show other = device by simpa using List.find?_some found]

theorem findDevice_eq_none_iff {devices : List Int} {handle : Int} :
    findDevice devices handle = none ↔ handle ∉ devices := by
  unfold findDevice
  rw [List.find?_eq_none]
  constructor
  · exact fun none member => none handle member (by simp)
  · rintro absent id member same
    exact absent (by rwa [← show id = handle by simpa using same])

/-! ### The setters -/

section Setters

variable {σ : Type} {platform : OutputPlatform σ} {state : OutputState σ} {handle : Int}
  {InEffect : OutputVic → Prop}

/-- The request is the call of `setProperty` that the model of the state shows. -/
theorem setVic_mem_iff_requestedVic {resolution : VideoPortResolution}
    {persist forceCompatibility : Bool} {request : OutputVic} :
    .setVic request.output request.vic ∈ (state.setVideoPortResolution platform handle resolution
        persist forceCompatibility).2 ↔
      state.requestedVic platform handle resolution = some request := by
  obtain ⟨output, vic⟩ := request
  unfold OutputState.setVideoPortResolution OutputState.requestedVic
  cases device : findDevice state.videoPort.devices handle with
  | none => simp
  | some opened =>
      cases named : resolutionNameToVic resolution.name with
      | none => simp
      | some found =>
          dsimp only
          split_ifs with disconnected disabled accepted kept
          · simp
          · simp
          · split <;> simp [eq_comm]
          · simp [eq_comm]
          · simp [eq_comm]

theorem setVic_mem_iff_requested {framerate : String} {request : OutputVic} :
    .setVic request.output request.vic ∈
        (state.setDisplayFrameRate platform handle framerate).2 ↔
      ∃ accepted, .requested request accepted ∈
        state.frameRateEvents platform handle framerate := by
  obtain ⟨output, vic⟩ := request
  unfold OutputState.setDisplayFrameRate OutputState.frameRateEvents
  cases device : findDevice state.videoDevice.devices handle with
  | none => simp
  | some opened =>
      dsimp only
      split_ifs with empty
      · simp
      · cases value : platform.hal.getVic state.hal opened with
        | none => simp
        | some reported =>
            cases row : findByVic (reported.getD (.other 0)) with
            | none => simp [row]
            | some current =>
                cases target : findByFamilyAndRate current.family
                    (atoi framerate % 2 ^ 32).toNat with
                | none =>
                    simp only [row, target]
                    simp
                | some entry =>
                    simp only [row, target]
                    split_ifs <;> simp [eq_comm]

theorem told_resolutionEvents_iff {resolution : VideoPortResolution} :
    ChangeEvent.Told OutputVic.Named InEffect
        (state.resolutionEvents platform handle resolution) ↔
      ∀ request, state.requestedVic platform handle resolution = some request →
        (platform.hal.setVic state.hal request.output request.vic).1 = true →
          InEffect request := by
  unfold OutputState.resolutionEvents
  cases asked : state.requestedVic platform handle resolution with
  | none => exact iff_of_true ChangeEvent.told_nil nofun
  | some request =>
      refine ChangeEvent.told_silent_iff.trans ⟨?_, fun same => same request rfl⟩
      rintro same other found
      obtain rfl := Option.some.inj found
      exact same

/-- `SetDisplayFrameRate` tells its clients right whatever the HAL does. -/
theorem told_frameRateEvents {framerate : String} :
    ChangeEvent.Told OutputVic.Named InEffect
      (state.frameRateEvents platform handle framerate) := by
  unfold OutputState.frameRateEvents
  split
  · exact ChangeEvent.told_nil
  split_ifs with empty
  · exact ChangeEvent.told_nil
  dsimp only
  split
  · exact ChangeEvent.told_preChange
  split
  · exact ChangeEvent.told_preChange
  split
  · exact ChangeEvent.told_preChange
  next current _ target found =>
    split_ifs with accepted
    · obtain ⟨entry, row, rate⟩ :=
        Option.map_eq_some_iff.mp (rate_of_row target (List.mem_of_find?_eq_some found))
      have asked := List.find?_some found
      rw [Bool.and_eq_true] at asked
      refine ChangeEvent.told_change_iff.mpr ⟨rfl, entry, row, ?_⟩
      rw [rate]
      exact (eq_of_beq asked.2).symm
    · exact ChangeEvent.told_request_iff.mpr nofun

/-- A row that a VIC was found in. -/
theorem mem_of_findByVic {vic : Vic} {entry : FrameRateVicEntry}
    (found : findByVic vic = some entry) : entry ∈ kFrameRateTable ∧ entry.vic = vic :=
  ⟨List.mem_of_find?_eq_some found, by simpa using List.find?_some found⟩

/-- The frame rate announced for a VIC names it when the table has the VIC. -/
theorem named_frameRate_iff {output : Int} {vic : Vic}
    (reported : platform.hal.getVic state.hal output = some (some vic)) :
    (∀ framerate, state.getCurrentDisplayFrameRate platform output = .ok framerate →
        OutputVic.Named (.frameRate framerate) ⟨output, vic⟩) ↔
      (output ∈ state.videoDevice.devices → findByVic vic ≠ none) := by
  unfold OutputState.getCurrentDisplayFrameRate
  cases device : findDevice state.videoDevice.devices output with
  | none => simp [findDevice_eq_none_iff.mp device]
  | some opened =>
      obtain ⟨member, rfl⟩ := findDevice_eq_some_iff.mp device
      simp only [reported, member, Option.getD_some, forall_const]
      cases found : findByVic vic with
      | none => simp [OutputVic.Named, found]
      | some entry =>
          refine iff_of_true ?_ (by simp)
          rintro framerate same
          obtain rfl := Except.ok.inj same
          exact ⟨entry, found, rate_of_digits entry (mem_of_findByVic found).1⟩

/-- A VIC of the table is read back with its size. -/
theorem pixelResolution_of_row {entry : VicResolutionEntry} (row : entry ∈ kVicTable) :
    ((vicToResolution entry.vic).getD defaultResolution).pixelResolution =
      entry.pixelResolution := by
  unfold vicToResolution
  cases found : kVicTable.find? fun other => other.vic == entry.vic with
  | none => exact absurd (List.find?_eq_none.mp found entry row) (by simp)
  | some other =>
      exact size_of_row entry row other (List.mem_of_find?_eq_some found)
        (by simpa using List.find?_some found)

/-- The output answers with the size of a VIC that the table has. -/
theorem named_currentResolution_iff {device : Int} {vic : Vic}
    (reported : platform.hal.getVic state.hal device = some (some vic)) :
    (∀ resolution, state.currentResolution platform device = .ok resolution →
        OutputVic.Named (.resolution (frameChange resolution.pixelResolution)) ⟨device, vic⟩) ↔
      ∃ entry ∈ kVicTable, entry.vic = vic := by
  simp only [OutputState.currentResolution, reported, Option.getD_some]
  constructor
  · intro named
    obtain ⟨entry, row, same, -⟩ := named _ rfl
    exact ⟨entry, row, same⟩
  · rintro ⟨entry, row, rfl⟩ resolution same
    obtain rfl := Except.ok.inj same
    exact ⟨entry, row, rfl, by rw [pixelResolution_of_row row]⟩

/-- The resolution announced for a VIC names it when the table has the VIC, and when the persisted
resolution that is shown without a display has its size. -/
theorem named_resolution_iff {output : Int} {vic : Vic}
    (reported : platform.hal.getVic state.hal output = some (some vic)) :
    (∀ resolution, state.getVideoPortResolution platform output = .ok resolution →
        OutputVic.Named (.resolution (frameChange resolution.pixelResolution)) ⟨output, vic⟩) ↔
      (output ∈ state.videoPort.devices → ∃ entry ∈ kVicTable, entry.vic = vic ∧
        (platform.hal.getHotPlugDetectState state.hal output = some false →
          ∀ persisted, state.persistedEntry = some persisted →
            frameChange persisted.pixelResolution = frameChange entry.pixelResolution)) := by
  unfold OutputState.getVideoPortResolution
  cases device : findDevice state.videoPort.devices output with
  | none => simp [findDevice_eq_none_iff.mp device]
  | some opened =>
      obtain ⟨member, rfl⟩ := findDevice_eq_some_iff.mp device
      simp only [member, forall_const]
      split_ifs with disconnected
      · cases shown : state.persistedEntry with
        | none =>
            simpa [disconnected] using named_currentResolution_iff reported
        | some persisted =>
            simp [OutputVic.Named, disconnected]
      · simpa [disconnected] using named_currentResolution_iff reported

theorem told_vicChanges_iff {changed : OutputVic}
    (reported : platform.hal.getVic state.hal changed.output = some (some changed.vic)) :
    ChangeEvent.Told OutputVic.Named InEffect (.made changed ::
        (state.onFrameRateChanged platform changed.output).map .postChange) ↔
      (changed.output ∈ state.videoDevice.devices → findByVic changed.vic ≠ none) ∧
        (changed.output ∈ state.videoPort.devices →
          ∃ entry ∈ kVicTable, entry.vic = changed.vic ∧
            (platform.hal.getHotPlugDetectState state.hal changed.output = some false →
              ∀ persisted, state.persistedEntry = some persisted →
                frameChange persisted.pixelResolution = frameChange entry.pixelResolution)) := by
  rw [ChangeEvent.told_made_iff, ← named_frameRate_iff reported, ← named_resolution_iff reported,
    OutputState.onFrameRateChanged, List.forall_mem_append]
  refine and_congr ?_ ?_
  · cases state.getCurrentDisplayFrameRate platform changed.output <;> simp
  · cases state.getVideoPortResolution platform changed.output <;> simp

end Setters

/-- A step of the AIDL classes is told right exactly when it leaves nothing untold. -/
theorem output_told_iff {σ : Type} {platform : OutputPlatform σ}
    {inEffect : σ → OutputVic → Prop} {before after : OutputState σ} {action : ChangeAction σ}
    {events : List OutputEvent}
    (taken : (changeMachine platform).step before action = some (after, events)) :
    ChangeEvent.Told OutputVic.Named (inEffect before.hal) events ↔
      platform.NothingUntold inEffect ⟨before, action, events, after⟩ := by
  cases action with
  | setVideoPortResolution handle resolution persist forceCompatibility =>
      cases taken
      exact told_resolutionEvents_iff
  | setDisplayFrameRate handle framerate =>
      cases taken
      exact iff_of_true told_frameRateEvents trivial
  | vicChanges changed hal =>
      simp only [changeMachine] at taken
      split_ifs at taken with reported
      cases taken
      exact told_vicChanges_iff reported
  | halChanges hal =>
      cases taken
      exact iff_of_true ChangeEvent.told_nil trivial

/-- On both backends clients are told right in a run exactly when, on the legacy classes, the HAL
goes along with what is announced and, on the AIDL classes, nothing is left untold. -/
theorem changes_told_iff {σ τ : Type} {room : Nat} {legacy : LegacyPlatform σ room}
    {platform : OutputPlatform τ} (legacyInEffect : σ → LegacyMode room → Prop)
    (inEffect : τ → OutputVic → Prop) {legacyStart legacyState : ResolutionState σ}
    {legacyTrace : List (LegacyStep σ room)} {start state : OutputState τ}
    {trace : List (ChangeStep τ)}
    (legacyRun : (legacyMachine legacy).Run legacyStart legacyTrace legacyState)
    (run : (changeMachine platform).Run start trace state) :
    ((∀ occurrence ∈ legacyTrace, ChangeEvent.Told LegacyMode.Named
          (legacyInEffect occurrence.before.hal) occurrence.effects) ∧
        ∀ occurrence ∈ trace, ChangeEvent.Told OutputVic.Named
          (inEffect occurrence.before.hal) occurrence.effects) ↔
      (∀ occurrence ∈ legacyTrace, legacy.GoesAlong occurrence) ∧
        ∀ occurrence ∈ trace, platform.NothingUntold inEffect occurrence := by
  refine and_congr ?_ ?_
  · refine forall₂_congr fun occurrence member => ?_
    obtain ⟨earlier, later, rfl⟩ := List.append_of_mem member
    exact legacy_told_iff legacyRun.at_occurrence.2
  · refine forall₂_congr fun occurrence member => ?_
    obtain ⟨earlier, later, rfl⟩ := List.append_of_mem member
    exact output_told_iff run.at_occurrence.2

/-! ### Two changes -/

namespace Changes

/-- One legacy port at 1080p60; `accepts` is how `dsSetResolution` answers. -/
def legacy (accepts : Bool) : LegacyPlatform (HalResolution 31) 31 where
  ports :=
    { hal :=
        { dsGetVideoPort := fun type _ =>
            if type = .hdmi then .ok 1 else .error .operationNotSupported
          dsIsDisplayConnected := fun _ _ => .ok true
          dsGetForceDisable4KSupport := fun _ _ => .ok false
          dsGetResolution := fun current _ => .ok current
          dsSetResolution := fun current _ resolution =>
            if accepts then (.ok (), resolution) else (.error .general, current) }
      cachedVideoPortResolutions := []
      hdmiResolutions := []
      tvProfile := false
      hasOnlyComposite := false }
  dsSetDisplayframerate := none

def legacyState : ResolutionState (HalResolution 31) where
  hal := toHal 31 (buildResolutionFromName "1080p60")
  dsHDMIResolution := ""
  dsCompResolution := ""
  dsBBResolution := ""
  dsRFResolution := ""
  store := .ofStoreFile "/opt/persistent/ds/hostData"
  files _ := .absent

def legacyEvents (accepts : Bool) : List (LegacyEvent 31) :=
  legacyState.resolutionEvents (legacy accepts).ports 1 (buildResolutionFromName "720p")

def legacyAfter (accepts : Bool) : ResolutionState (HalResolution 31) :=
  (legacyState.setVideoPortResolution (legacy accepts).ports 1 (buildResolutionFromName "720p")
    false false).2

/-- The port is asked for 720p. -/
def legacyStep (accepts : Bool) : LegacyStep (HalResolution 31) 31 :=
  ⟨legacyState, .setVideoPortResolution 1 (buildResolutionFromName "720p") false false,
    legacyEvents accepts, legacyAfter accepts⟩

theorem legacy_run (accepts : Bool) : (legacyMachine (legacy accepts)).Run legacyState
    [legacyStep accepts] (legacyAfter accepts) := by
  have taken : (legacyMachine (legacy accepts)).step legacyState
      (.setVideoPortResolution 1 (buildResolutionFromName "720p") false false) =
      some (legacyAfter accepts, legacyEvents accepts) := rfl
  exact .single taken

/-- One connected output that keeps its VIC. -/
def outputs : OutputPlatform Vic where
  hal :=
    { getHotPlugDetectState := fun _ _ => some true
      getVic := fun current _ => some (some current)
      setVic := fun _ _ vic => (true, vic) }
  tvProfile := false
  storeFile := "/opt/persistent/ds/hostData"

def outputState : OutputState Vic where
  hal := .vic16_1920_1080_p_60_16_9
  videoPort := ⟨[1], "1080p", false⟩
  videoDevice := ⟨[1]⟩
  store := .ofStoreFile "/opt/persistent/ds/hostData"
  files _ := .absent

/-- The output is asked for this resolution. -/
def outputStep (name : String) : ChangeStep Vic where
  before := outputState
  action := .setVideoPortResolution 1 (buildResolutionFromName name) false false
  effects := outputState.resolutionEvents outputs 1 (buildResolutionFromName name)
  after := (outputState.setVideoPortResolution outputs 1 (buildResolutionFromName name) false
    false).1

theorem output_run (name : String) :
    (changeMachine outputs).Run outputState [outputStep name] (outputStep name).after :=
  .single rfl

/-- The VIC is in effect. -/
def inEffect (current : Vic) (request : OutputVic) : Prop := request.vic = current

/-- The legacy classes over a HAL that takes every mode. -/
def accepting : LegacyPlatform (HalResolution 31) 31 :=
  { legacy true with dsSetDisplayframerate := some fun current _ _ => (.ok (), current) }

/-- Two resolutions and a rate are set, and one that the HAL has by then. -/
def legacyActions : List (LegacyAction (HalResolution 31)) :=
  [.setVideoPortResolution 1 (buildResolutionFromName "720p") false false,
    .setDisplayFrameRate 1 "1920x1080px50",
    .halChanges (toHal 31 (buildResolutionFromName "1080p60")),
    .setVideoPortResolution 1 (buildResolutionFromName "1080p60") true false,
    .setVideoPortResolution 1 (buildResolutionFromName "480p") false true]

/-- The rate is set, then the resolution that the output has by it; the HAL changes to 60 Hz, and
the resolution that it has by then is set. -/
def outputActions : List (ChangeAction Vic) :=
  [.setDisplayFrameRate 1 "50",
    .setVideoPortResolution 1 (buildResolutionFromName "1080p50") false false,
    .vicChanges ⟨1, .vic16_1920_1080_p_60_16_9⟩ .vic16_1920_1080_p_60_16_9,
    .setVideoPortResolution 1 (buildResolutionFromName "1080p") true false]

/-- A resolution that the output has is asked for. -/
theorem inEffect_of_requested {state : OutputState Vic} {name : String}
    (asked : state.requestedVic outputs 1 (buildResolutionFromName name) =
      some ⟨1, state.hal⟩) : ∀ request,
      state.requestedVic outputs 1 (buildResolutionFromName name) = some request →
      (outputs.hal.setVic state.hal request.output request.vic).1 = true →
        inEffect state.hal request := by
  intro request same _
  rw [asked, Option.some.injEq] at same
  exact same ▸ rfl

end Changes

theorem changes_told_iff_accepted :
    ∃ legacyState legacyTrace state trace,
      (legacyMachine Changes.accepting).play Changes.legacyState Changes.legacyActions =
          some (legacyState, legacyTrace) ∧
        Machine.actionsOf legacyTrace = Changes.legacyActions ∧
        (changeMachine Changes.outputs).play Changes.outputState Changes.outputActions =
          some (state, trace) ∧
        Machine.actionsOf trace = Changes.outputActions ∧
        (((∀ occurrence ∈ legacyTrace, ChangeEvent.Told LegacyMode.Named (fun _ => False)
              occurrence.effects) ∧
            ∀ occurrence ∈ trace, ChangeEvent.Told OutputVic.Named
              (Changes.inEffect occurrence.before.hal) occurrence.effects) ↔
          (∀ occurrence ∈ legacyTrace, Changes.accepting.GoesAlong occurrence) ∧
            ∀ occurrence ∈ trace, Changes.outputs.NothingUntold Changes.inEffect occurrence) ∧
        (∀ occurrence ∈ legacyTrace, ChangeEvent.Told LegacyMode.Named (fun _ => False)
          occurrence.effects) ∧
        ∀ occurrence ∈ trace, ChangeEvent.Told OutputVic.Named
          (Changes.inEffect occurrence.before.hal) occurrence.effects := by
  have legacyPlayed : (legacyMachine Changes.accepting).play Changes.legacyState
      Changes.legacyActions = some (_, [_, _, _, _, _]) := rfl
  have played : (changeMachine Changes.outputs).play Changes.outputState Changes.outputActions =
      some (_, [_, _, _, _]) := rfl
  have exact_ := changes_told_iff (fun _ _ => False) Changes.inEffect
    (Machine.play_run legacyPlayed) (Machine.play_run played)
  refine ⟨_, _, _, _, legacyPlayed, Machine.actionsOf_played legacyPlayed, played,
    Machine.actionsOf_played played, exact_, exact_.mpr ⟨?_, ?_⟩⟩
  · simp only [List.forall_mem_cons, List.not_mem_nil, false_implies, implies_true, and_true]
    exact ⟨fun _ _ => rfl, .inr ⟨_, rfl, .inr ⟨rfl, by decide⟩⟩, trivial, fun _ _ => rfl,
      fun _ _ => rfl⟩
  · simp only [List.forall_mem_cons, List.not_mem_nil, false_implies, implies_true, and_true]
    have row : (⟨.vic16_1920_1080_p_60_16_9, "1080p", .p1920x1080⟩ : VicResolutionEntry) ∈
        kVicTable := by simp [kVicTable]
    exact ⟨trivial, Changes.inEffect_of_requested (by decide +kernel),
      ⟨fun _ => by decide, fun _ => ⟨_, row, rfl, fun away => nomatch away⟩⟩,
      Changes.inEffect_of_requested (by decide +kernel)⟩

/-- The legacy port announces 720p though the HAL has refused it, and the AIDL port changes to 720p
without a word. -/
theorem refused_announced_accepted_untold :
    (legacyMachine (Changes.legacy false)).Run Changes.legacyState [Changes.legacyStep false]
        (Changes.legacyAfter false) ∧
      ¬ChangeEvent.Told LegacyMode.Named (fun _ => False) (Changes.legacyStep false).effects ∧
      (changeMachine Changes.outputs).Run Changes.outputState [Changes.outputStep "720p"]
        (Changes.outputStep "720p").after ∧
      ¬ChangeEvent.Told OutputVic.Named (Changes.inEffect Changes.outputState.hal)
        (Changes.outputStep "720p").effects := by
  refine ⟨Changes.legacy_run false, fun told => ?_, Changes.output_run "720p", fun told => ?_⟩
  · have asked : Changes.legacyState.requestedResolution (Changes.legacy false).ports 1
        (buildResolutionFromName "720p") = some (toHal 31 (buildResolutionFromName "720p")) := by
      decide +kernel
    have accepted := VideoPort.told_resolutionEvents_iff.mp told _ asked
    exact nomatch accepted
  · have asked : Changes.outputState.requestedVic Changes.outputs 1
        (buildResolutionFromName "720p") = some ⟨1, .vic4_1280_720_p_60_16_9⟩ := by
      decide +kernel
    have same := told_resolutionEvents_iff.mp told _ asked rfl
    exact nomatch same

end DeviceSettings.HdmiOutput
