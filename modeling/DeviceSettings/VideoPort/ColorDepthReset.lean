import DeviceSettings.Persistence.LoadedStore
import DeviceSettings.Std.Decimal
import DeviceSettings.VideoPort.ColorDepth

/-!
# The preferred color depth behind a reset of the HDMI port

The setter persists what was requested and gives the HAL what the sink can do. When the port comes
up again the same choice is made from the persisted request, so it changes nothing more.
-/

namespace DeviceSettings.VideoPort

open DeviceSettings.Std
open DeviceSettings.Persistence

/-- The color depth calls of the HAL with the ports that are configured. -/
structure ColorDepthPlatform (σ : Type) where
  hal : ColorDepthHal σ
  bits : ColorDepthBits
  dsGetVideoPort : DsVideoPortType → Int → Except DsError Int
  videoPorts : List (VideoPortType × Int)

/-- `DisplayColorDepth`: the bits, and `UNKNOWN`. -/
def ColorDepthBits.depths (bits : ColorDepthBits) : List UInt32 :=
  [0, bits.depth8, bits.depth10, bits.depth12, bits.auto]

/-- The bit for the automatic choice is none of the others. -/
structure ColorDepthBits.AutoApart (bits : ColorDepthBits) : Prop where
  depth8 : bits.auto &&& bits.depth8 = 0
  depth10 : bits.auto &&& bits.depth10 = 0
  depth12 : bits.auto &&& bits.depth12 = 0

section Code

variable {σ : Type} (platform : ColorDepthPlatform σ)

/-- The loop of `dsGetDefaultPortHandle`, which hands its variable from port to port. -/
def ColorDepthPlatform.defaultPortHandleFrom :
    List (VideoPortType × Int) → Int → Int
  | [], handle => handle
  | port :: ports, handle =>
    let type := convertVideoPortType port.1
    match platform.dsGetVideoPort type port.2 with
    | .ok found =>
      if type = .hdmi ∨ type = .internal then found
      else defaultPortHandleFrom ports found
    | .error _ =>
      if type = .hdmi ∨ type = .internal then 0 else defaultPortHandleFrom ports handle

/-- `dsGetDefaultPortHandle()`. -/
def ColorDepthPlatform.dsGetDefaultPortHandle : Int :=
  platform.defaultPortHandleFrom platform.videoPorts 0

/-- `static_cast<DisplayColorDepth>(colorDepthValue)`. -/
def colorDepthOfInt (colorDepthValue : Int) : UInt32 := (Int32.ofInt colorDepthValue).toUInt32

/-- What `getPersistentColorDepth` makes of the stored string. -/
def colorDepthOfString (bits : ColorDepthBits) (colorDepthStr : String) : UInt32 :=
  match stoi colorDepthStr with
  | some colorDepthValue => colorDepthOfInt colorDepthValue
  | none => bits.auto

/-- `getPersistentColorDepth()`. -/
def ResolutionState.getPersistentColorDepth (bits : ColorDepthBits) (state : ResolutionState σ) :
    UInt32 × ResolutionState σ :=
  let read := state.store.getPropertyOr state.files "HDMI0.colorDepth"
    (colorDepthString bits.auto)
  let state := { state with store := read.2 }
  match read.1 with
  | .ok colorDepthStr => (colorDepthOfString bits colorDepthStr, state)
  | .error _ => (bits.auto, state)

/-- The handle that `ApplyPreferredColorDepthAfterHdmiReset(preferredHandle)` goes by. -/
def ColorDepthPlatform.targetHandle (preferredHandle : Int) : Int :=
  if preferredHandle = 0 then platform.dsGetDefaultPortHandle else preferredHandle

/-- `ApplyPreferredColorDepthAfterHdmiReset(preferredHandle)`. -/
def ResolutionState.applyPreferredColorDepthAfterHdmiReset (state : ResolutionState σ)
    (preferredHandle : Int) : ResolutionState σ :=
  let targetHandle := platform.targetHandle preferredHandle
  if targetHandle = 0 then state
  else if platform.hal.dsIsDisplayConnected state.hal targetHandle ≠ .ok true then state
  else
    let persisted := state.getPersistentColorDepth platform.bits
    let state := persisted.2
    if platform.hal.dsGetPreferredColorDepth state.hal targetHandle = .ok persisted.1 then state
    else
      let toSet := getBestSupportedColorDepth platform.bits
        (platform.hal.dsColorDepthCapabilities state.hal targetHandle) persisted.1
      { state with hal := (platform.hal.dsSetPreferredColorDepth state.hal targetHandle toSet).2 }

end Code

section Recording

variable {σ τ : Type}

/-- The same HAL, with the depths it is given written down. -/
def ColorDepthHal.recording (hal : ColorDepthHal σ) :
    ColorDepthHal (σ × List (Int × UInt32)) where
  dsIsDisplayConnected state := hal.dsIsDisplayConnected state.1
  dsGetPreferredColorDepth state := hal.dsGetPreferredColorDepth state.1
  dsColorDepthCapabilities state := hal.dsColorDepthCapabilities state.1
  dsSetPreferredColorDepth state handle colorDepth :=
    let called := hal.dsSetPreferredColorDepth state.1 handle colorDepth
    (called.1, called.2, state.2 ++ [(handle, colorDepth)])
  dsSetForceDisable4KSupport state handle disable :=
    let called := hal.dsSetForceDisable4KSupport state.1 handle disable
    (called.1, called.2, state.2)

def ColorDepthPlatform.recording (platform : ColorDepthPlatform σ) :
    ColorDepthPlatform (σ × List (Int × UInt32)) where
  hal := platform.hal.recording
  bits := platform.bits
  dsGetVideoPort := platform.dsGetVideoPort
  videoPorts := platform.videoPorts

/-- The plugin's part of a state over another HAL state. -/
def ResolutionState.overHal (state : ResolutionState σ) (hal : τ) : ResolutionState τ where
  hal := hal
  dsHDMIResolution := state.dsHDMIResolution
  dsCompResolution := state.dsCompResolution
  dsBBResolution := state.dsBBResolution
  dsRFResolution := state.dsRFResolution
  store := state.store
  files := state.files

/-- The depth is 8 bit, or one of the sink's capability mask. -/
def NamedDepth (bits : ColorDepthBits) (capabilities : Except DsError UInt32) (depth : UInt32) :
    Prop :=
  depth = bits.depth8 ∨ ∃ mask, capabilities = .ok mask ∧ mask &&& depth ≠ 0

end Recording

/-! ### What is negotiated -/

theorem and_of_or_and {mask auto depth : UInt32} (apart : auto &&& depth = 0) :
    (mask ||| auto) &&& depth = mask &&& depth := by
  have distributes : (mask ||| auto) &&& depth = (mask &&& depth) ||| (auto &&& depth) := by
    rw [← UInt32.toBitVec_inj]
    exact BitVec.and_or_distrib_right
  rw [distributes, apart, UInt32.or_zero]

/-- What is set for a depth is 8 bit or named by the mask. -/
theorem namedDepth_best {bits : ColorDepthBits} (apart : bits.AutoApart) {depth : UInt32}
    (value : depth ∈ bits.depths) (capabilities : Except DsError UInt32) :
    NamedDepth bits capabilities (getBestSupportedColorDepth bits capabilities depth) := by
  cases capabilities with
  | error error => exact .inl rfl
  | ok mask =>
      have unmasked : ∀ other, bits.auto &&& other = 0 → (mask ||| bits.auto) &&& other ≠ 0 →
          ∃ named, (.ok mask : Except DsError UInt32) = .ok named ∧ named &&& other ≠ 0 :=
        fun other apart bit => ⟨mask, rfl, by rwa [and_of_or_and apart] at bit⟩
      simp only [getBestSupportedColorDepth]
      split_ifs with requested twelve ten eight
      · obtain ⟨bit, other⟩ := requested
        refine .inr (unmasked depth ?_ bit)
        simp only [ColorDepthBits.depths, List.mem_cons, List.not_mem_nil, or_false] at value
        rcases value with rfl | rfl | rfl | rfl | rfl
        exacts [UInt32.and_zero, apart.depth8, apart.depth10, apart.depth12, absurd rfl other]
      · exact .inr (unmasked _ apart.depth12 twelve)
      · exact .inr (unmasked _ apart.depth10 ten)
      · exact .inl rfl
      · exact .inl rfl

/-- A printed depth is read back. -/
theorem colorDepthOfString_colorDepthString (bits : ColorDepthBits) (depth : UInt32) :
    colorDepthOfString bits (colorDepthString depth) = depth := by
  have read : stoi (toString depth.toInt32.toInt) = some depth.toInt32.toInt :=
    stoi_toString_int depth.toInt32.le_toInt depth.toInt32.toInt_lt
  unfold colorDepthOfString colorDepthString
  rw [read]
  simp [colorDepthOfInt]

section Persisted

variable {σ : Type} (bits : ColorDepthBits) (state : ResolutionState σ)

/-- The depth that the store stands for. -/
def ResolutionState.persistedDepth : UInt32 :=
  colorDepthOfString bits (((state.store.map state.files).find? "HDMI0.colorDepth").getD
    (colorDepthString bits.auto))

theorem getPersistentColorDepth_eq :
    state.getPersistentColorDepth bits =
      (state.persistedDepth bits,
        { state with store := state.store.ensureInitialized state.files }) := by
  have keyed : ¬"HDMI0.colorDepth" = "" := by decide
  simp only [ResolutionState.getPersistentColorDepth, HostPersistence.getPropertyOr,
    if_neg keyed]
  rfl

end Persisted

/-! ### Reconciling -/

/-- The preferred depth is stored for each port and reported; setting it succeeds and does not
change the capabilities of the sink. -/
structure ColorDepthHal.KeepsDepth {σ : Type} (hal : ColorDepthHal σ)
    (preferred : σ → Int → UInt32) : Prop where
  gets : ∀ state handle, hal.dsGetPreferredColorDepth state handle = .ok (preferred state handle)
  sets : ∀ state handle depth, (hal.dsSetPreferredColorDepth state handle depth).1 = .ok ()
  stores : ∀ state handle depth,
    preferred (hal.dsSetPreferredColorDepth state handle depth).2 =
      Function.update (preferred state) handle depth
  capabilities : ∀ state handle depth,
    hal.dsColorDepthCapabilities (hal.dsSetPreferredColorDepth state handle depth).2 =
      hal.dsColorDepthCapabilities state

section Law

variable {σ : Type} {platform : ColorDepthPlatform σ} {preferred : σ → Int → UInt32}

/-- The depth that the sink gets for the persisted one. -/
def ColorDepthPlatform.negotiated (platform : ColorDepthPlatform σ) (state : ResolutionState σ)
    (handle : Int) : UInt32 :=
  getBestSupportedColorDepth platform.bits
    (platform.hal.dsColorDepthCapabilities state.hal handle) (state.persistedDepth platform.bits)

/-- The port has the persisted depth, or the one that the sink gets for it. -/
def Settled (platform : ColorDepthPlatform σ) (preferred : σ → Int → UInt32)
    (state : ResolutionState σ) (handle : Int) : Prop :=
  preferred state.hal handle = state.persistedDepth platform.bits ∨
    preferred state.hal handle = platform.negotiated state handle

/-- What reconciling does: nothing, or it sets the negotiated depth, where another one is
preferred than the persisted one. -/
theorem apply_cases (keeps : platform.hal.KeepsDepth preferred) (state : ResolutionState σ)
    (preferredHandle : Int) :
    let handle := platform.targetHandle preferredHandle
    let after := state.applyPreferredColorDepthAfterHdmiReset platform preferredHandle
    (after = state ∧
        (handle = 0 ∨ platform.hal.dsIsDisplayConnected state.hal handle ≠ .ok true)) ∨
      (after = { state with store := state.store.ensureInitialized state.files } ∧
        preferred state.hal handle = state.persistedDepth platform.bits) ∨
      (after = { state with
          store := state.store.ensureInitialized state.files
          hal := (platform.hal.dsSetPreferredColorDepth state.hal handle
            (platform.negotiated state handle)).2 } ∧
        preferred state.hal handle ≠ state.persistedDepth platform.bits) := by
  intro handle after
  have unfolded : after = state.applyPreferredColorDepthAfterHdmiReset platform preferredHandle :=
    rfl
  unfold ResolutionState.applyPreferredColorDepthAfterHdmiReset at unfolded
  simp only [getPersistentColorDepth_eq, keeps.gets, Except.ok.injEq] at unfolded
  split_ifs at unfolded with zero away same
  · exact .inl ⟨unfolded, .inl zero⟩
  · exact .inl ⟨unfolded, .inr away⟩
  · exact .inr (.inl ⟨unfolded, same⟩)
  · exact .inr (.inr ⟨unfolded, same⟩)

/-- Loading the store leaves the persisted depth as it is. -/
@[simp] theorem persistedDepth_loaded (bits : ColorDepthBits) (state : ResolutionState σ)
    (hal : σ) :
    { state with store := state.store.ensureInitialized state.files, hal := hal }.persistedDepth
      bits = state.persistedDepth bits := by
  simp [ResolutionState.persistedDepth, HostPersistence.map, LoadedStore.ofStore]

section Keeps

variable (keeps : platform.hal.KeepsDepth preferred) {state : ResolutionState σ}
  {preferredHandle : Int}
include keeps

/-- A negotiated depth that is set leaves the port settled. -/
theorem settled_set (state : ResolutionState σ) (handle : Int) :
    Settled platform preferred { state with
      store := state.store.ensureInitialized state.files
      hal := (platform.hal.dsSetPreferredColorDepth state.hal handle
        (platform.negotiated state handle)).2 } handle := by
  refine .inr ?_
  dsimp only
  rw [keeps.stores, Function.update_self, ColorDepthPlatform.negotiated,
    ColorDepthPlatform.negotiated, persistedDepth_loaded]
  dsimp only
  rw [keeps.capabilities]

/-- Reconciling a settled port changes no preferred depth, and leaves it settled. -/
theorem apply_of_settled
    (settled : Settled platform preferred state (platform.targetHandle preferredHandle)) :
    preferred (state.applyPreferredColorDepthAfterHdmiReset platform preferredHandle).hal =
        preferred state.hal ∧
      Settled platform preferred
        (state.applyPreferredColorDepthAfterHdmiReset platform preferredHandle)
        (platform.targetHandle preferredHandle) := by
  rcases apply_cases keeps state preferredHandle with ⟨same, -⟩ | ⟨loaded, has⟩ | ⟨set, lacks⟩
  · rw [same]
    exact ⟨rfl, settled⟩
  · rw [loaded]
    refine ⟨rfl, .inl ?_⟩
    rw [persistedDepth_loaded platform.bits state state.hal]
    exact has
  · rw [set]
    refine ⟨?_, settled_set keeps state _⟩
    dsimp only
    rw [keeps.stores, ← settled.resolve_left lacks, Function.update_eq_self]

/-- Reconciling a port once more changes nothing. -/
theorem apply_apply (state : ResolutionState σ) (preferredHandle : Int) :
    let once := state.applyPreferredColorDepthAfterHdmiReset platform preferredHandle
    let twice := once.applyPreferredColorDepthAfterHdmiReset platform preferredHandle
    preferred twice.hal = preferred once.hal ∧ twice.overHal () = once.overHal () := by
  intro once twice
  have sameStore : ∀ other : ResolutionState σ,
      other.store = state.store.ensureInitialized state.files → other.files = state.files →
      (other.applyPreferredColorDepthAfterHdmiReset platform preferredHandle).overHal () =
        other.overHal () := by
    intro other store files
    have loaded : other.store.ensureInitialized other.files = other.store := by
      rw [store, files, HostPersistence.ensureInitialized_idem]
    rcases apply_cases keeps other preferredHandle with ⟨same, -⟩ | ⟨same, -⟩ | ⟨same, -⟩
    · rw [same]
    · rw [same, loaded]
    · rw [same]
      simp only [ResolutionState.overHal, loaded]
  rcases apply_cases keeps state preferredHandle with ⟨same, -⟩ | ⟨same, has⟩ | ⟨same, -⟩
  · -- the first call has done nothing, so the second one does not either
    have idle : once = state := same
    have again : twice = once := by
      show once.applyPreferredColorDepthAfterHdmiReset platform preferredHandle = once
      rw [idle]
      exact same
    rw [again]
    exact ⟨rfl, rfl⟩
  · have settled : Settled platform preferred once (platform.targetHandle preferredHandle) := by
      refine .inl ?_
      rw [show once = _ from same, persistedDepth_loaded platform.bits state state.hal]
      exact has
    exact ⟨(apply_of_settled keeps settled).1,
      sameStore once (by rw [show once = _ from same]) (by rw [show once = _ from same])⟩
  · have settled : Settled platform preferred once (platform.targetHandle preferredHandle) := by
      rw [show once = _ from same]
      exact settled_set keeps state _
    exact ⟨(apply_of_settled keeps settled).1,
      sameStore once (by rw [show once = _ from same]) (by rw [show once = _ from same])⟩

/-- Any number of calls for a settled port. -/
theorem apply_run_of_settled {handle : Int} (calls : List Int)
    (same : ∀ call ∈ calls, platform.targetHandle call = handle)
    (settled : Settled platform preferred state handle) :
    preferred (calls.foldl (fun state call =>
      state.applyPreferredColorDepthAfterHdmiReset platform call) state).hal =
        preferred state.hal := by
  induction calls generalizing state with
  | nil => rfl
  | cons call calls ih =>
      have target := same call List.mem_cons_self
      obtain ⟨kept, still⟩ := apply_of_settled keeps (target ▸ settled)
      rw [List.foldl_cons, ih (fun call member => same call (List.mem_cons_of_mem _ member))
        (target ▸ still), kept]

end Keeps

/-- A persisted depth is the one that is read. -/
theorem persistedDepth_persist (bits : ColorDepthBits) (state : ResolutionState σ)
    (depth : UInt32) :
    (state.persist "HDMI0.colorDepth" (colorDepthString depth)).2.persistedDepth bits = depth := by
  have valued : colorDepthString depth ≠ "" := repr_int_ne _
  have accepted : "HDMI0.colorDepth" ≠ "" ∧ colorDepthString depth ≠ "" := ⟨by decide, valued⟩
  have stored :
      (state.store.persistHostProperty state.files "HDMI0.colorDepth"
          (colorDepthString depth)).2.1.map
        (state.store.persistHostProperty state.files "HDMI0.colorDepth"
          (colorDepthString depth)).2.2 =
        (state.store.map state.files).set "HDMI0.colorDepth" (colorDepthString depth) :=
    HostPersistence.map_persistHostProperty accepted
  simp only [ResolutionState.persistedDepth, ResolutionState.persist, stored,
    OrderedMap.find?_set, if_true, Option.getD_some, colorDepthOfString_colorDepthString]

/-- The setter leaves the port settled. -/
theorem settled_of_set (keeps : platform.hal.KeepsDepth preferred)
    {state after : ResolutionState σ} {handle : Int} {depth : UInt32}
    (set : state.setPreferredColorDepth platform.hal platform.bits handle depth true =
      (.ok (), after)) :
    Settled platform preferred after handle := by
  unfold ResolutionState.setPreferredColorDepth at set
  simp only [keeps.gets, Except.ok.injEq, if_true] at set
  split_ifs at set with away same
  · cases set
  · cases set
    refine .inl ?_
    rw [persistedDepth_persist]
    exact same
  · have accepts := keeps.sets state.hal handle (getBestSupportedColorDepth platform.bits
      (platform.hal.dsColorDepthCapabilities state.hal handle) depth)
    split at set
    · next called =>
      cases set
      refine .inr ?_
      have next := congrArg Prod.snd called
      dsimp only at next
      rw [ColorDepthPlatform.negotiated, persistedDepth_persist]
      dsimp only [ResolutionState.persist]
      rw [← next, keeps.stores, Function.update_self, keeps.capabilities]
    · cases set

/-- The setter leaves the HAL alone or gives it the negotiated depth. -/
theorem setPreferredColorDepth_hal (hal : ColorDepthHal σ) (bits : ColorDepthBits)
    (state : ResolutionState σ) (handle : Int) (depth : UInt32) (persist : Bool) :
    (state.setPreferredColorDepth hal bits handle depth persist).2.hal = state.hal ∨
      (state.setPreferredColorDepth hal bits handle depth persist).2.hal =
        (hal.dsSetPreferredColorDepth state.hal handle (getBestSupportedColorDepth bits
          (hal.dsColorDepthCapabilities state.hal handle) depth)).2 := by
  unfold ResolutionState.setPreferredColorDepth
  dsimp only
  split
  · exact .inl rfl
  · split
    · cases persist <;> exact .inl rfl
    · split
      · next called =>
        rw [called]
        cases persist <;> exact .inr rfl
      · next called =>
        rw [called]
        exact .inr rfl

/-- And so does reconciling. -/
theorem applyPreferredColorDepth_hal (platform : ColorDepthPlatform σ)
    (state : ResolutionState σ) (preferredHandle : Int) :
    let handle := platform.targetHandle preferredHandle
    let after := state.applyPreferredColorDepthAfterHdmiReset platform preferredHandle
    after.hal = state.hal ∨
      after.hal = (platform.hal.dsSetPreferredColorDepth state.hal handle
        (platform.negotiated state handle)).2 := by
  unfold ResolutionState.applyPreferredColorDepthAfterHdmiReset
  simp only [getPersistentColorDepth_eq]
  split_ifs
  · exact .inl rfl
  · exact .inl rfl
  · exact .inl rfl
  · exact .inr rfl

/-- What the setter gives the HAL. -/
theorem named_of_setPreferredColorDepth (apart : platform.bits.AutoApart)
    (state : ResolutionState σ) (handle : Int) {depth : UInt32} (persist : Bool)
    (value : depth ∈ platform.bits.depths) :
    ∀ call ∈ ((state.overHal (state.hal, [])).setPreferredColorDepth platform.hal.recording
        platform.bits handle depth persist).2.hal.2,
      NamedDepth platform.bits (platform.hal.dsColorDepthCapabilities state.hal call.1) call.2 := by
  intro call member
  rcases setPreferredColorDepth_hal platform.hal.recording platform.bits
    (state.overHal (state.hal, [])) handle depth persist with kept | set
  · rw [kept] at member
    cases member
  · rw [set] at member
    obtain rfl := List.mem_singleton.mp member
    exact namedDepth_best apart value _

/-- What reconciling gives the HAL. -/
theorem named_of_apply (apart : platform.bits.AutoApart) (state : ResolutionState σ)
    (preferredHandle : Int) (value : state.persistedDepth platform.bits ∈ platform.bits.depths) :
    ∀ call ∈ ((state.overHal (state.hal, [])).applyPreferredColorDepthAfterHdmiReset
        platform.recording preferredHandle).hal.2,
      NamedDepth platform.bits (platform.hal.dsColorDepthCapabilities state.hal call.1) call.2 := by
  intro call member
  rcases applyPreferredColorDepth_hal platform.recording (state.overHal (state.hal, []))
    preferredHandle with kept | set
  · rw [kept] at member
    cases member
  · rw [set] at member
    obtain rfl := List.mem_singleton.mp member
    exact namedDepth_best apart value _

/-- The stored string is absent, printed from a depth, or none that `std::stoi` reads. -/
def StoredDepth (bits : ColorDepthBits) (stored : Option String) : Prop :=
  stored = none ∨ (∃ depth ∈ bits.depths, stored = some (colorDepthString depth)) ∨
    ∃ text, stored = some text ∧ stoi text = none

theorem persistedDepth_mem {bits : ColorDepthBits} {state : ResolutionState σ}
    (stored : StoredDepth bits ((state.store.map state.files).find? "HDMI0.colorDepth")) :
    state.persistedDepth bits ∈ bits.depths := by
  have auto : bits.auto ∈ bits.depths := by simp [ColorDepthBits.depths]
  unfold ResolutionState.persistedDepth
  rcases stored with absent | ⟨depth, value, printed⟩ | ⟨text, there, throws⟩
  · rw [absent, Option.getD_none, colorDepthOfString_colorDepthString]
    exact auto
  · rw [printed, Option.getD_some, colorDepthOfString_colorDepthString]
    exact value
  · rw [there, Option.getD_some]
    unfold colorDepthOfString
    rw [throws]
    exact auto

/-- After a persisted set of any depth, reconciling the default port any number of times leaves the
preferred depth as it is. Reconciling twice has the effect of reconciling once. What either gives
the HAL is 8 bit or named by the sink's mask. -/
theorem colorDepth_stable (platform : ColorDepthPlatform σ) (preferred : σ → Int → UInt32)
    (keeps : platform.hal.KeepsDepth preferred) (apart : platform.bits.AutoApart) :
    (∀ (state after : ResolutionState σ) (depth : UInt32) (calls : List Int),
      state.setPreferredColorDepth platform.hal platform.bits platform.dsGetDefaultPortHandle depth
          true = (.ok (), after) →
      (∀ call ∈ calls, call = 0 ∨ call = platform.dsGetDefaultPortHandle) →
      preferred (calls.foldl (fun state call =>
        state.applyPreferredColorDepthAfterHdmiReset platform call) after).hal =
          preferred after.hal) ∧
      (∀ (state : ResolutionState σ) (preferredHandle : Int),
        let once := state.applyPreferredColorDepthAfterHdmiReset platform preferredHandle
        let twice := once.applyPreferredColorDepthAfterHdmiReset platform preferredHandle
        preferred twice.hal = preferred once.hal ∧ twice.overHal () = once.overHal ()) ∧
      (∀ (state : ResolutionState σ) (handle : Int) (depth : UInt32) (persist : Bool),
        depth ∈ platform.bits.depths →
        ∀ call ∈ ((state.overHal (state.hal, [])).setPreferredColorDepth platform.hal.recording
            platform.bits handle depth persist).2.hal.2,
          NamedDepth platform.bits (platform.hal.dsColorDepthCapabilities state.hal call.1)
            call.2) ∧
      ∀ (state : ResolutionState σ) (preferredHandle : Int),
        StoredDepth platform.bits ((state.store.map state.files).find? "HDMI0.colorDepth") →
        ∀ call ∈ ((state.overHal (state.hal, [])).applyPreferredColorDepthAfterHdmiReset
            platform.recording preferredHandle).hal.2,
          NamedDepth platform.bits (platform.hal.dsColorDepthCapabilities state.hal call.1)
            call.2 := by
  refine ⟨?_, apply_apply keeps, ?_, ?_⟩
  · intro state after depth calls set default
    refine apply_run_of_settled keeps calls (fun call member => ?_) (settled_of_set keeps set)
    rcases default call member with rfl | rfl
    · rw [ColorDepthPlatform.targetHandle, if_pos rfl]
    · rw [ColorDepthPlatform.targetHandle]
      split_ifs <;> rfl
  · intro state handle depth persist value
    exact named_of_setPreferredColorDepth apart state handle persist value
  · intro state preferredHandle stored
    exact named_of_apply apart state preferredHandle (persistedDepth_mem stored)

end Law

/-! ### A sink with 8 and 10 bit -/

namespace TenBitSink

/-- The HAL remembers the preferred depths. -/
def platform : ColorDepthPlatform (Int → UInt32) where
  hal :=
    { dsIsDisplayConnected := fun _ _ => .ok true
      dsGetPreferredColorDepth := fun memory handle => .ok (memory handle)
      dsColorDepthCapabilities := fun _ _ => .ok 3
      dsSetPreferredColorDepth := fun memory handle depth =>
        (.ok (), Function.update memory handle depth)
      dsSetForceDisable4KSupport := fun memory _ _ => (.ok (), memory) }
  bits := ⟨1, 2, 4, 8⟩
  dsGetVideoPort type _ := if type = .hdmi then .ok 1 else .error .unknown
  videoPorts := [(.component, 0), (.hdmi, 0)]

theorem keepsDepth : platform.hal.KeepsDepth fun memory => memory where
  gets _ _ := rfl
  sets _ _ _ := rfl
  stores _ _ _ := rfl
  capabilities _ _ _ := rfl

theorem autoApart : platform.bits.AutoApart := ⟨by decide, by decide, by decide⟩

def state : ResolutionState (Int → UInt32) where
  hal _ := 1
  dsHDMIResolution := "1080p"
  dsCompResolution := "1080p"
  dsBBResolution := ""
  dsRFResolution := ""
  store := .ofStoreFile "/opt/persistent/ds/hostData"
  files _ := .absent

/-- 12 bit is asked for. -/
def asked : ResolutionState (Int → UInt32) :=
  (state.setPreferredColorDepth platform.hal platform.bits 1 4 true).2

/-- The calls of the HAL that asking for 12 bit comes to. -/
def askedCalls : List (Int × UInt32) :=
  ((state.overHal (state.hal, [])).setPreferredColorDepth platform.hal.recording platform.bits 1 4
    true).2.hal.2

/-- And those of a reset with nothing stored. -/
def resetCalls : List (Int × UInt32) :=
  ((state.overHal (state.hal, [])).applyPreferredColorDepthAfterHdmiReset platform.recording
    1).hal.2

end TenBitSink

theorem colorDepth_stable_12bit :
    ([0, 1, 0].foldl (fun state call =>
      state.applyPreferredColorDepthAfterHdmiReset TenBitSink.platform call)
        TenBitSink.asked).hal = TenBitSink.asked.hal ∧
      (let once := TenBitSink.state.applyPreferredColorDepthAfterHdmiReset TenBitSink.platform 1
        let twice := once.applyPreferredColorDepthAfterHdmiReset TenBitSink.platform 1
        once.hal 1 = 2 ∧ twice.hal = once.hal ∧ twice.overHal () = once.overHal ()) ∧
      (TenBitSink.askedCalls = [(1, 2)] ∧ ∀ call ∈ TenBitSink.askedCalls,
        NamedDepth TenBitSink.platform.bits (.ok 3) call.2) ∧
      TenBitSink.resetCalls = [(1, 2)] ∧ ∀ call ∈ TenBitSink.resetCalls,
        NamedDepth TenBitSink.platform.bits (.ok 3) call.2 := by
  obtain ⟨stable, idempotent, set, reset⟩ := colorDepth_stable TenBitSink.platform
    (fun memory => memory) TenBitSink.keepsDepth TenBitSink.autoApart
  refine ⟨stable TenBitSink.state TenBitSink.asked 4 [0, 1, 0] (Prod.ext rfl rfl) (by decide),
    ⟨by decide +kernel, idempotent TenBitSink.state 1⟩,
    ⟨by decide +kernel, set TenBitSink.state 1 4 true (by decide)⟩,
    by decide +kernel, reset TenBitSink.state 1 (.inl ?_)⟩
  decide +kernel

end DeviceSettings.VideoPort
