import DeviceSettings.VideoPort.Resolution

/-!
# The 4K switch of the HAL

`SetVideoPortResolution` refuses 4K by the text of the name, while the HAL is given name and
pixel resolution side by side. The calls it makes are those a recording HAL writes down.
-/

namespace DeviceSettings.VideoPort

open DeviceSettings.Std
open DeviceSettings.Persistence

/-- The calls of `dsSetResolution`, oldest first. -/
abbrev SetCalls (room : Nat) := List (Int × HalResolution room)

section Recording

variable {σ : Type} {room : Nat}

/-- The same HAL; it also writes down what `dsSetResolution` is called with. -/
def ResolutionHal.recording (hal : ResolutionHal σ room) :
    ResolutionHal (σ × SetCalls room) room where
  dsGetVideoPort := hal.dsGetVideoPort
  dsIsDisplayConnected state := hal.dsIsDisplayConnected state.1
  dsGetForceDisable4KSupport state := hal.dsGetForceDisable4KSupport state.1
  dsGetResolution state := hal.dsGetResolution state.1
  dsSetResolution state handle resolution :=
    let called := hal.dsSetResolution state.1 handle resolution
    (called.1, (called.2, state.2 ++ [(handle, resolution)]))

def ResolutionPlatform.recording (platform : ResolutionPlatform σ room) :
    ResolutionPlatform (σ × SetCalls room) room where
  hal := platform.hal.recording
  cachedVideoPortResolutions := platform.cachedVideoPortResolutions
  hdmiResolutions := platform.hdmiResolutions
  tvProfile := platform.tvProfile
  hasOnlyComposite := platform.hasOnlyComposite

/-- The state with nothing written down. -/
def ResolutionState.recording (room : Nat) (state : ResolutionState σ) :
    ResolutionState (σ × SetCalls room) where
  hal := (state.hal, [])
  dsHDMIResolution := state.dsHDMIResolution
  dsCompResolution := state.dsCompResolution
  dsBBResolution := state.dsBBResolution
  dsRFResolution := state.dsRFResolution
  store := state.store
  files := state.files

/-- What one call of `SetVideoPortResolution` calls `dsSetResolution` with. -/
def ResolutionState.setCalls (platform : ResolutionPlatform σ room) (state : ResolutionState σ)
    (handle : Int) (resolution : VideoPortResolution) (persist forceCompatibility : Bool) :
    SetCalls room :=
  ((state.recording room).setVideoPortResolution platform.recording handle resolution persist
    forceCompatibility).2.hal.2

/-- The structure asks for 2160 lines, by its pixel resolution or by its name. -/
def HalResolution.IsUhd (resolution : HalResolution room) : Prop :=
  resolution.pixelResolution = .p3840x2160 ∨ resolution.pixelResolution = .p4096x2160 ∨
    occursIn "2160" resolution.name.text = true

/-- The HAL has a resolution of the requested name in effect. -/
def AlreadyNamed (platform : ResolutionPlatform σ room) (hal : σ) (handle : Int)
    (name : String) : Prop :=
  ∃ current, platform.hal.dsGetResolution hal handle = .ok current ∧
    current.name = HalName.copy room name

end Recording

section Calls

variable {σ : Type} {room : Nat} {platform : ResolutionPlatform σ room}
  {state : ResolutionState σ} {handle : Int}

theorem convertPixelResolution_ne_p4096x2160 (pixelResolution : PixelResolution) :
    convertPixelResolution pixelResolution ≠ .p4096x2160 := by
  cases pixelResolution <;> decide

theorem convertPixelResolution_eq_p3840x2160 {pixelResolution : PixelResolution} :
    convertPixelResolution pixelResolution = .p3840x2160 ↔ pixelResolution = .p3840x2160 := by
  cases pixelResolution <;> decide

/-- A request whose name does not say 2160 reaches the HAL as 2160 lines by its pixel
resolution only; 4096x2160 is lost in the conversion. -/
theorem isUhd_toHal {request : VideoPortResolution}
    (unnamed : occursIn "2160" request.name = false) :
    (toHal room request).IsUhd ↔ request.pixelResolution = .p3840x2160 := by
  have name : occursIn "2160" (toHal room request).name.text ≠ true := by
    intro found
    rw [occursIn_of_strncpy found] at unnamed
    cases unnamed
  constructor
  · rintro (large | larger | named)
    · exact convertPixelResolution_eq_p3840x2160.mp large
    · exact absurd larger (convertPixelResolution_ne_p4096x2160 _)
    · exact absurd named name
  · intro large
    exact .inl (convertPixelResolution_eq_p3840x2160.mpr large)

/-- The HAL has a resolution of the requested name: it is left alone. -/
theorem ResolutionState.applyResolution_hal_of_alreadyNamed (portType : DsVideoPortType)
    {request : VideoPortResolution} (persist forceCompatibility : Bool)
    (named : AlreadyNamed platform state.hal handle request.name) :
    (state.applyResolution platform portType handle (toHal room request) persist
      forceCompatibility).2.hal = state.hal := by
  obtain ⟨current, reported, same⟩ := named
  have text : (toHal room request).name.text = current.name.text := congrArg HalName.text same.symm
  simp only [applyResolution, reported, if_pos text, recordResolution_hal]

/-- Otherwise it is called with the request. -/
theorem ResolutionState.applyResolution_hal (portType : DsVideoPortType)
    {request : VideoPortResolution} (persist forceCompatibility : Bool)
    (other : ¬AlreadyNamed platform state.hal handle request.name) :
    (state.applyResolution platform portType handle (toHal room request) persist
      forceCompatibility).2.hal =
      (platform.hal.dsSetResolution state.hal handle (toHal room request)).2 := by
  cases called : platform.hal.dsSetResolution state.hal handle (toHal room request) with
  | mk answer next =>
      cases reported : platform.hal.dsGetResolution state.hal handle with
      | error error => cases answer <;> simp [applyResolution, called, reported]
      | ok current =>
          have text : (toHal room request).name.text ≠ current.name.text := fun same =>
            other ⟨current, reported, HalName.ext same.symm⟩
          cases answer <;> simp [applyResolution, called, reported, text]

/-- The calls of one `SetVideoPortResolution`: one with the resolved request, or none. -/
theorem mem_setCalls {request : VideoPortResolution} {persist forceCompatibility : Bool}
    {call : Int × HalResolution room} :
    call ∈ state.setCalls platform handle request persist forceCompatibility ↔
      platform.resolvePortTypeByHandle handle ≠ none ∧
        platform.hal.dsIsDisplayConnected state.hal handle ≠ .ok false ∧
        ¬(platform.hal.dsGetForceDisable4KSupport state.hal handle = .ok true ∧
          occursIn "2160" request.name = true) ∧
        ¬AlreadyNamed platform state.hal handle request.name ∧
        call = (handle, toHal room (platform.resolvedResolution request)) := by
  have resolves : platform.recording.resolvePortTypeByHandle handle =
      platform.resolvePortTypeByHandle handle := rfl
  have looks : platform.recording.resolvedResolution request =
      platform.resolvedResolution request := rfl
  have named : AlreadyNamed platform.recording (state.recording room).hal handle
      (platform.resolvedResolution request).name ↔
      AlreadyNamed platform state.hal handle request.name := by
    rw [ResolutionPlatform.resolvedResolution_name]
    exact Iff.rfl
  unfold ResolutionState.setCalls ResolutionState.setVideoPortResolution
  rw [resolves, looks]
  dsimp only
  rw [ResolutionPlatform.resolvedResolution_name]
  cases resolved : platform.resolvePortTypeByHandle handle with
  | none => simp [ResolutionState.recording]
  | some portType =>
      dsimp only
      split_ifs with disconnected refused
      · have off : platform.hal.dsIsDisplayConnected state.hal handle = .ok false :=
          gave_iff.mp disconnected
        simp [ResolutionState.recording, off]
      · rw [Bool.and_eq_true, gave_iff] at refused
        have off : platform.hal.dsGetForceDisable4KSupport state.hal handle = .ok true ∧
            occursIn "2160" request.name = true := refused
        simp [ResolutionState.recording, off.1, off.2]
      · have on : platform.hal.dsIsDisplayConnected state.hal handle ≠ .ok false :=
          fun off => disconnected (gave_iff.mpr off)
        have allowed : ¬(platform.hal.dsGetForceDisable4KSupport state.hal handle = .ok true ∧
            occursIn "2160" request.name = true) := by
          rintro ⟨disabled, uhd⟩
          exact refused (by rw [Bool.and_eq_true, gave_iff]; exact ⟨disabled, uhd⟩)
        by_cases already : AlreadyNamed platform state.hal handle request.name
        · rw [ResolutionState.applyResolution_hal_of_alreadyNamed _ _ _ (named.mpr already)]
          simp [ResolutionState.recording, already]
        · rw [ResolutionState.applyResolution_hal _ _ _ (fun held => already (named.mp held))]
          simp [ResolutionState.recording, ResolutionPlatform.recording,
            ResolutionHal.recording, on, allowed, already]

end Calls

section Laws

variable {σ : Type} {room : Nat}

/-- While the HAL reports 4K as disabled, a call asks it for 2160 lines exactly when the
request gets past the name and its resolved fields ask for 3840x2160. -/
theorem setVideoPortResolution_keeps_below_2160_iff (platform : ResolutionPlatform σ room)
    (state : ResolutionState σ) (handle : Int) (request : VideoPortResolution)
    (persist forceCompatibility : Bool)
    (disabled : platform.hal.dsGetForceDisable4KSupport state.hal handle = .ok true) :
    (∀ call ∈ state.setCalls platform handle request persist forceCompatibility,
        ¬call.2.IsUhd) ↔
      platform.resolvePortTypeByHandle handle = none ∨
        platform.hal.dsIsDisplayConnected state.hal handle = .ok false ∨
        occursIn "2160" request.name = true ∨
        AlreadyNamed platform state.hal handle request.name ∨
        (platform.resolvedResolution request).pixelResolution ≠ .p3840x2160 := by
  have uhd : occursIn "2160" request.name = false →
      ((toHal room (platform.resolvedResolution request)).IsUhd ↔
        (platform.resolvedResolution request).pixelResolution = .p3840x2160) := by
    intro unnamed
    exact isUhd_toHal (by rwa [ResolutionPlatform.resolvedResolution_name])
  constructor
  · intro kept
    by_contra escapes
    push Not at escapes
    obtain ⟨resolved, connected, unnamed, fresh, large⟩ := escapes
    have unnamed : occursIn "2160" request.name = false := Bool.eq_false_iff.mpr unnamed
    have called : (handle, toHal room (platform.resolvedResolution request)) ∈
        state.setCalls platform handle request persist forceCompatibility :=
      mem_setCalls.mpr ⟨resolved, connected, by simp [unnamed], fresh, rfl⟩
    exact kept _ called ((uhd unnamed).mpr large)
  · intro stopped call called large
    obtain ⟨resolved, connected, allowed, fresh, rfl⟩ := mem_setCalls.mp called
    have unnamed : occursIn "2160" request.name = false :=
      Bool.eq_false_iff.mpr fun found => allowed ⟨disabled, found⟩
    rcases stopped with gone | off | found | already | small
    · exact resolved gone
    · exact connected off
    · rw [unnamed] at found
      cases found
    · exact fresh already
    · exact small ((uhd unnamed).mp large)

/-- An HDMI port at 1080p60 whose HAL reports 4K as disabled. -/
def limitedHal : ResolutionHal (HalResolution 31) 31 where
  dsGetVideoPort type _ := if type = .hdmi then .ok 1 else .error .operationNotSupported
  dsIsDisplayConnected _ _ := .ok true
  dsGetForceDisable4KSupport _ _ := .ok true
  dsGetResolution current _ := .ok current
  dsSetResolution _ _ resolution := (.ok (), resolution)

def limitedPlatform : ResolutionPlatform (HalResolution 31) 31 :=
  ⟨limitedHal, [buildResolutionFromName "1080p60"], [], false, false⟩

def limitedState : ResolutionState (HalResolution 31) where
  hal := toHal 31 (buildResolutionFromName "1080p60")
  dsHDMIResolution := "1080p60"
  dsCompResolution := ""
  dsBBResolution := ""
  dsRFResolution := ""
  store := .ofStoreFile "/opt/persistent/ds/hostData"
  files _ := .absent

/-- 3840x2160 by its fields, under a name that no look-up knows. -/
def unnamedUhd (name : String) : VideoPortResolution :=
  ⟨name, .p3840x2160, .ratio16x9, .twoD, .fps60, false⟩

theorem setVideoPortResolution_keeps_below_2160_iff_hd :
    (∀ call ∈ limitedState.setCalls limitedPlatform 1 (buildResolutionFromName "720p") true false,
        ¬call.2.IsUhd) ↔
      limitedPlatform.resolvePortTypeByHandle 1 = none ∨
        limitedPlatform.hal.dsIsDisplayConnected limitedState.hal 1 = .ok false ∨
        occursIn "2160" "720p" = true ∨
        AlreadyNamed limitedPlatform limitedState.hal 1 "720p" ∨
        (limitedPlatform.resolvedResolution
          (buildResolutionFromName "720p")).pixelResolution ≠ .p3840x2160 :=
  setVideoPortResolution_keeps_below_2160_iff limitedPlatform limitedState 1
    (buildResolutionFromName "720p") true false rfl

/-- An empty name asks for 3840x2160 while 4K is disabled. -/
theorem not_setVideoPortResolution_keeps_below_2160 :
    ¬∀ (request : VideoPortResolution) (persist forceCompatibility : Bool),
      limitedPlatform.hal.dsGetForceDisable4KSupport limitedState.hal 1 = .ok true →
      ∀ call ∈ limitedState.setCalls limitedPlatform 1 request persist forceCompatibility,
        ¬call.2.IsUhd := by
  intro kept
  have called : (1, toHal 31 (unnamedUhd "")) ∈
      limitedState.setCalls limitedPlatform 1 (unnamedUhd "") false false := by
    decide +kernel
  exact kept (unnamedUhd "") false false rfl _ called (.inl rfl)

end Laws
end DeviceSettings.VideoPort
