import DeviceSettings.Controller.FallbackOrder
import DeviceSettings.VideoPort.ChangeAnnouncements

/-!
# What a fallback sends to the HAL

`SetResolution` replaces the name of the resolution it has read and leaves its other fields. They
are put right by the platform's table if it has the new name; the conversion for the HAL then loses
1366x768 and 4096x2160.
-/

namespace DeviceSettings.Controller

open DeviceSettings.Std
open DeviceSettings.VideoPort

/-- The pixel resolution has the lines of the name, if it is one of a mode. -/
def LinesNamed (resolution : VideoPortResolution) : Prop :=
  ∀ mode : ModeName, mode.name = resolution.name →
    lineCount resolution.pixelResolution = some mode.scan.lines

section Code

variable {σ : Type} {room : Nat} (platform : HdmiPlatform σ room)

/-- The callbacks of `SetResolution(handle, portType)` around its HAL call; `none` where its
behaviour is undefined. -/
def setResolutionEvents (sink : Sink room) (state : ResolutionState σ) (handle : Int)
    (portType : DsVideoPortType) : Option (List (LegacyEvent room)) :=
  if handle = 0 then some []
  else
    match state.getVideoPortResolution platform.ports handle with
    | (.error _, _) => some []
    | (.ok presolution, state) =>
      match chooseResolution platform sink portType presolution.name with
      | .undefined => none
      | .keep => some []
      | .set name =>
        some (state.resolutionEvents platform.ports handle { presolution with name := name })

/-- The event is about a resolution with these lines. -/
def Carries (lines : LineCount) : LegacyEvent room → Prop
  | .preChange (.resolution change) | .postChange (.resolution change) =>
    ∃ pixelResolution, lineCount pixelResolution = some lines ∧
      change = resolutionChange pixelResolution
  | .requested (.resolution _ dsResolution) _ =>
    lineCount dsResolution.pixelResolution = some lines
  | _ => True

/-- All events are about resolutions with the lines of the name that is set. -/
def SendsNamed (events : List (LegacyEvent room)) : Prop :=
  ∀ handle dsResolution accepted,
    .requested (.resolution handle dsResolution) accepted ∈ events →
    ∀ mode : ModeName, mode.name = dsResolution.name.text →
      ∀ event ∈ events, Carries mode.scan.lines event

/-- `SetResolution` comes to call `dsSetResolution` with this name. -/
structure Sends (sink : Sink room) (hal : σ) (handle : Int) (name picked : String) : Prop where
  handled : handle ≠ 0
  ready : sink.ready = true
  first : (triedNames platform.isEUPlatform name).find? sink.isResInEdid = some picked
  resolved : platform.ports.resolvePortTypeByHandle handle ≠ none
  connected : platform.ports.hal.dsIsDisplayConnected hal handle ≠ .ok false
  allowed : ¬(platform.ports.hal.dsGetForceDisable4KSupport hal handle = .ok true ∧
    occursIn "2160" picked = true)
  fresh : ¬AlreadyNamed platform.ports hal handle picked

/-- The fields sent with the name of the mode: those of the table, which the HAL's conversion must
know, or else those of the resolution that was read. -/
def FieldsFit (cachedVideoPortResolutions : List VideoPortResolution)
    (presolution : VideoPortResolution) (mode : ModeName) : Prop :=
  match cachedVideoPortResolutions.find? fun cached => cached.name == mode.name with
  | some cached => mode.scan.lines ≠ .l768 ∧ cached.pixelResolution ≠ .p4096x2160
  | none =>
    (lineCount presolution.pixelResolution = some mode.scan.lines ∧
        presolution.pixelResolution ∉ [.p1366x768, .p4096x2160]) ∨
      (mode.scan.lines = .l1080 ∧
        presolution.pixelResolution ∈ [.p1366x768, .p4096x2160, .max])

end Code

section Law

variable {σ : Type} {room : Nat} {platform : HdmiPlatform σ room} {sink : Sink room}
  {state : ResolutionState σ} {handle : Int} {presolution : VideoPortResolution}

theorem lineCount_convertPixelResolution {pixelResolution : PixelResolution} {lines : LineCount} :
    lineCount (convertPixelResolution pixelResolution) = some lines ↔
      (lineCount pixelResolution = some lines ∧ pixelResolution ∉ [.p1366x768, .p4096x2160]) ∨
        (lines = .l1080 ∧ pixelResolution ∈ [.p1366x768, .p4096x2160, .max]) := by
  cases pixelResolution <;> cases lines <;> decide


theorem sendsNamed_nil : SendsNamed ([] : List (LegacyEvent room)) :=
  fun _ _ _ member => absurd member List.not_mem_nil

/-- The three events of a call agree. -/
theorem sendsNamed_resolutionEvents_iff {resolution : VideoPortResolution} :
    SendsNamed (state.resolutionEvents platform.ports handle resolution) ↔
      ∀ dsResolution, state.requestedResolution platform.ports handle resolution =
          some dsResolution →
        ∀ mode : ModeName, mode.name = dsResolution.name.text →
          lineCount dsResolution.pixelResolution = some mode.scan.lines := by
  unfold ResolutionState.resolutionEvents
  cases asked : state.requestedResolution platform.ports handle resolution with
  | none => exact iff_of_true sendsNamed_nil (by simp)
  | some dsResolution =>
      dsimp only
      constructor
      · intro sends other same mode named
        obtain rfl := Option.some.inj same
        exact sends handle dsResolution _ (List.mem_cons_of_mem _ List.mem_cons_self) mode named _
          (List.mem_cons_of_mem _ List.mem_cons_self)
      · intro agrees called other accepted member mode named event among
        obtain ⟨⟨-, rfl⟩, -⟩ : (called = handle ∧ other = dsResolution) ∧ _ := by
          simpa [videoPortPreResolutionChange, videoPortPostResolutionChange] using member
        have lines := agrees other rfl mode named
        simp only [List.mem_cons, List.not_mem_nil, or_false] at among
        rcases among with rfl | rfl | rfl
        · exact ⟨_, lines, rfl⟩
        · exact lines
        · exact ⟨_, lines, rfl⟩

theorem chooseResolution_hdmi_iff {name picked : String} :
    chooseResolution platform sink .hdmi name = .set picked ↔
      sink.ready = true ∧
        (triedNames platform.isEUPlatform name).find? sink.isResInEdid = some picked := by
  rw [chooseResolution, if_pos rfl]
  split_ifs with ready
  · rw [selectResolution_eq_set_iff, and_iff_right ready]
  · simp [ready]

theorem Sends.offered {hal : σ} {name picked : String}
    (sends : Sends platform sink hal handle name picked) : picked ∈ sink.edidNames :=
  isResInEdid_iff.mp (List.find?_some sends.first)

/-- The call of `dsSetResolution` that a choice leads to. -/
theorem sends_iff {name : String} (request : VideoPortResolution) (nonzero : handle ≠ 0) :
    Sends platform sink state.hal handle name request.name ↔
      chooseResolution platform sink .hdmi name = .set request.name ∧
        state.requestedResolution platform.ports handle request =
          some (toHal room (platform.ports.resolvedResolution request)) := by
  rw [chooseResolution_hdmi_iff, requestedResolution_eq_some_iff]
  constructor
  · intro sends
    exact ⟨⟨sends.ready, sends.first⟩, sends.resolved, sends.connected, sends.allowed, sends.fresh,
      rfl⟩
  · rintro ⟨⟨ready, first⟩, resolved, connected, allowed, fresh, -⟩
    exact ⟨nonzero, ready, first, resolved, connected, allowed, fresh⟩

/-- The fields fit exactly when the HAL's structure has the lines of the mode. -/
theorem fieldsFit_iff (table : ∀ cached ∈ platform.ports.cachedVideoPortResolutions,
    LinesNamed cached) {mode : ModeName} :
    FieldsFit platform.ports.cachedVideoPortResolutions presolution mode ↔
      lineCount (toHal room (platform.ports.resolvedResolution
        { presolution with name := mode.name })).pixelResolution = some mode.scan.lines := by
  rw [toHal, ResolutionPlatform.resolvedResolution, if_neg mode.name_ne,
    lineCount_convertPixelResolution, FieldsFit]
  dsimp only
  cases found : platform.ports.cachedVideoPortResolutions.find? fun cached =>
      cached.name == mode.name with
  | none => rfl
  | some cached =>
      have same := List.find?_some found
      have named : mode.name = cached.name := (beq_iff_eq.mp same).symm
      have lines := table cached (List.mem_of_find?_eq_some found) mode named
      dsimp only [Option.getD_some]
      revert lines
      cases cached.pixelResolution <;> cases mode.scan.lines <;> decide

/-- Every call of `dsSetResolution` by `SetResolution` and its announcements have the lines of the
name that is set, exactly when the fields that go with the name fit it. -/
theorem sendsNamed_iff (platform : HdmiPlatform σ room) (sink : Sink room)
    (state : ResolutionState σ) (handle : Int) (presolution : VideoPortResolution)
    (read : (state.getVideoPortResolution platform.ports handle).1 = .ok presolution)
    (table : ∀ cached ∈ platform.ports.cachedVideoPortResolutions, LinesNamed cached) :
    (∀ events, setResolutionEvents platform sink state handle .hdmi = some events →
        SendsNamed events) ↔
      ∀ mode : ModeName, Sends platform sink state.hal handle presolution.name mode.name →
        FieldsFit platform.ports.cachedVideoPortResolutions presolution mode := by
  by_cases zero : handle = 0
  · refine iff_of_true (fun events called => ?_) fun mode sends => absurd zero sends.handled
    rw [setResolutionEvents, if_pos zero] at called
    obtain rfl := Option.some.inj called
    exact sendsNamed_nil
  have sameHal : (state.getVideoPortResolution platform.ports handle).2.hal = state.hal :=
    ResolutionState.getVideoPortResolution_hal state handle
  rw [setResolutionEvents, if_neg zero, ← sameHal]
  revert read
  obtain ⟨answer, after⟩ := state.getVideoPortResolution platform.ports handle
  rintro rfl
  simp only [fieldsFit_iff table]
  constructor
  · intro sendsNamed mode sends
    obtain ⟨chosen, requested⟩ :=
      (sends_iff { presolution with name := mode.name } zero).mp sends
    have agrees := sendsNamed_resolutionEvents_iff.mp (sendsNamed _ (by rw [chosen]))
    refine agrees _ requested mode ?_
    simp [toHal, name_of_edid sends.offered]
  · intro fits events called
    cases chosen : chooseResolution platform sink .hdmi presolution.name with
    | undefined => simp [chosen] at called
    | keep =>
        rw [chosen] at called
        obtain rfl := Option.some.inj called
        exact sendsNamed_nil
    | set picked =>
        rw [chosen] at called
        obtain rfl := Option.some.inj called
        refine sendsNamed_resolutionEvents_iff.mpr fun dsResolution requested mode named => ?_
        have same := (requestedResolution_eq_some_iff.mp requested).2.2.2.2
        rw [same] at requested
        have sends := (sends_iff { presolution with name := picked } zero).mpr
          ⟨chosen, requested⟩
        have isPicked : mode.name = picked := by
          rw [named, same]
          simp [toHal, name_of_edid sends.offered]
        subst isPicked
        rw [same]
        exact fits mode sends

end Law

theorem sendsNamed_iff_2160p60 :
    (∀ events, setResolutionEvents ResolutionMemory.platform
          (ResolutionMemory.television ["1080p60"]) ResolutionMemory.chosen 1 .hdmi = some events →
        SendsNamed events) ↔
      ∀ mode : ModeName, Sends ResolutionMemory.platform (ResolutionMemory.television ["1080p60"])
          ResolutionMemory.chosen.hal 1 "2160p60" mode.name →
        FieldsFit [] (buildResolutionFromName "2160p60") mode :=
  sendsNamed_iff ResolutionMemory.platform _ ResolutionMemory.chosen 1
    (buildResolutionFromName "2160p60") (by decide +kernel) (by simp [ResolutionMemory.platform])

theorem linesNamed_2160p60 : LinesNamed (buildResolutionFromName "2160p60") := by
  intro mode named
  have class_eq : mode.scan = ⟨.l2160, false⟩ :=
    scan_of_name (show mode.name = ModeName.name ⟨⟨.l2160, false⟩, "60", by decide⟩ from named)
  rw [class_eq]
  rfl

/-- 2160p60 falls back to 1080p60, and the HAL is given 3840x2160 under that name. -/
theorem sends_2160_as_1080p60 :
    ¬∀ (sink : Sink 31) (state : ResolutionState ResolutionMemory)
      (presolution : VideoPortResolution),
      (state.getVideoPortResolution ResolutionMemory.platform.ports 1).1 = .ok presolution →
      LinesNamed presolution →
      ∀ events, setResolutionEvents ResolutionMemory.platform sink state 1 .hdmi = some events →
        SendsNamed events := by
  intro named
  have lines : lineCount .p3840x2160 = some .l1080 := named
    (ResolutionMemory.television ["1080p60"]) ResolutionMemory.chosen
    (buildResolutionFromName "2160p60") (by decide +kernel) linesNamed_2160p60 _ rfl 1
    (toHal 31 { buildResolutionFromName "2160p60" with name := "1080p60" }) true
    (by decide +kernel) ⟨⟨.l1080, false⟩, "60", by decide⟩ (by decide)
    (.requested (.resolution 1
      (toHal 31 { buildResolutionFromName "2160p60" with name := "1080p60" })) true)
    (by decide +kernel)
  exact absurd lines (by decide)

end DeviceSettings.Controller
