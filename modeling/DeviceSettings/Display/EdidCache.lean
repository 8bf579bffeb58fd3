import DeviceSettings.Display.Edid

/-!
# Whose EDID is answered

The caches for the EDID and for its bytes belong to the process and not to a display. A call on one
display fills them, and until some display is unplugged calls on all displays are answered from
them.
-/

namespace DeviceSettings.Display

open DeviceSettings.Std
open DeviceSettings.VideoPort

/-- What can happen, one after the other. `sinks` is a change of what the HAL sees on its ports. -/
inductive DisplayAction (σ : Type) where
  | getDisplayEdid (handle : Int)
  | getDisplayEdidBytes (handle : Int) (hasBuffer : Bool) (edidLength : UInt16)
  | sinks (hal : σ)
  | connected (handle : Int)
  | disconnected (handle : Int)

section Answers

variable {σ : Type} {room limit : Nat} (platform : DisplayPlatform σ room limit)

namespace DisplayState

def step (state : DisplayState σ room limit) : DisplayAction σ → DisplayState σ room limit
  | .getDisplayEdid handle => (state.getDisplayEdid platform handle).2
  | .getDisplayEdidBytes handle hasBuffer edidLength =>
    (state.getDisplayEdidBytes platform handle hasBuffer edidLength).2
  | .sinks hal => { state with hal := hal }
  | .connected _ => state
  | .disconnected _ => state.disconnected

end DisplayState

/-- The EDID of the sink behind a handle, filtered for that display. -/
def DisplayPlatform.ownEdid (hal : σ) (handle : Int) : Option DisplayEdid :=
  match platform.dsGetEDID hal handle with
  | .ok halEdid => some (displayEdid (platform.filterEDIDResolution handle halEdid))
  | .error _ => none

/-- The EDID bytes of the sink behind a handle. -/
def DisplayPlatform.ownBytes (hal : σ) (handle : Int) : Option (List UInt8) :=
  match platform.dsGetEDIDBytes hal handle with
  | .ok bytes => some bytes
  | .error _ => none

/-- A call that succeeds answers for the display it is made on. -/
def RightAnswer (state : DisplayState σ room limit) : DisplayAction σ → Prop
  | .getDisplayEdid handle => ∀ answer, (state.getDisplayEdid platform handle).1 = .ok answer →
      platform.ownEdid state.hal handle = some answer
  | .getDisplayEdidBytes handle hasBuffer edidLength => ∀ bytes,
      (state.getDisplayEdidBytes platform handle hasBuffer edidLength).1 = .ok bytes →
        platform.ownBytes state.hal handle = some bytes
  | _ => True

/-! ### The last request that its own sink could serve -/

/-- The sinks, and what the last call of each kind since the last unplugging got, counting only
calls that the sink of their own handle can serve. -/
structure Served (σ : Type) where
  hal : σ
  edid : Option DisplayEdid
  bytes : Option (List UInt8)

/-- These bytes can be given to a request. -/
def fitsBuffer (hasBuffer : Bool) (edidLength : UInt16) (bytes : List UInt8) : Bool :=
  hasBuffer && platform.resolvesBytes && decide (0 < bytes.length) &&
    decide (bytes.length ≤ edidLength.toNat) && decide (bytes.length ≤ 1024)

def Served.step (served : Served σ) : DisplayAction σ → Served σ
  | .getDisplayEdid handle =>
    { served with
      edid := servedAfter (fun _ => true) served.edid (platform.ownEdid served.hal handle) }
  | .getDisplayEdidBytes handle hasBuffer edidLength =>
    { served with
      bytes := servedAfter (fitsBuffer platform hasBuffer edidLength) served.bytes
        (platform.ownBytes served.hal handle) }
  | .sinks hal => { served with hal := hal }
  | .connected _ => served
  | .disconnected _ => { served with edid := none, bytes := none }

/-- The sink that is asked now says what the last such call got, wherever that fits the call. -/
def AgreesWithServed (served : Served σ) : DisplayAction σ → Prop
  | .getDisplayEdid handle =>
    SlotAgrees (fun _ => true) served.edid (platform.ownEdid served.hal handle)
  | .getDisplayEdidBytes handle hasBuffer edidLength =>
    SlotAgrees (fitsBuffer platform hasBuffer edidLength) served.bytes
      (platform.ownBytes served.hal handle)
  | _ => True

/-! ### The static variables as two slots -/

namespace DisplayState

variable {platform}

def edidSlot (state : DisplayState σ room limit) : Option DisplayEdid :=
  if state.isEdidCached then some (displayEdid state.edidStructCache) else none

def bytesSlot (state : DisplayState σ room limit) : Option (List UInt8) :=
  if state.isEdidBytesCached then some (state.edidBytesCache.take state.edidBytesCacheLength)
  else none

/-- A byte cache that is marked as filled holds what a call has accepted. -/
def BytesAccepted (platform : DisplayPlatform σ room limit) (state : DisplayState σ room limit) :
    Prop :=
  state.isEdidBytesCached = true → platform.resolvesBytes = true ∧
    0 < state.edidBytesCacheLength ∧ state.edidBytesCacheLength ≤ 1024 ∧
    state.edidBytesCacheLength ≤ state.edidBytesCache.length

/-- An answer of the interface. -/
def answered {Value : Type} (value : Option Value) : Except CoreError Value :=
  value.elim (.error .general) .ok

theorem answered_eq_ok {Value : Type} {value : Option Value} {answer : Value} :
    answered value = .ok answer ↔ value = some answer := by
  cases value <;> simp [answered]

variable (platform) in
theorem getDisplayEdid_spec (state : DisplayState σ room limit) (handle : Int) :
    (state.getDisplayEdid platform handle).1 =
        answered (slotAnswer (fun _ => true) state.edidSlot (platform.ownEdid state.hal handle)) ∧
      (state.getDisplayEdid platform handle).2.edidSlot =
        slotAfter (fun _ => true) state.edidSlot (platform.ownEdid state.hal handle) := by
  unfold getDisplayEdid DisplayPlatform.ownEdid
  by_cases cached : state.isEdidCached = true
  · simp [cached, edidSlot, slotAfter, slotAnswer, answered, Option.filter_some]
  · cases read : platform.dsGetEDID state.hal handle <;>
      simp [cached, edidSlot, slotAfter, slotAnswer, answered, Option.filter_some]

variable (platform) in
/-- The other cache and the sinks stay as they are. -/
theorem getDisplayEdid_frame (state : DisplayState σ room limit) (handle : Int) :
    (state.getDisplayEdid platform handle).2.hal = state.hal ∧
      (state.getDisplayEdid platform handle).2.bytesSlot = state.bytesSlot ∧
      (BytesAccepted platform state →
        BytesAccepted platform (state.getDisplayEdid platform handle).2) := by
  unfold getDisplayEdid
  split_ifs
  · exact ⟨rfl, rfl, id⟩
  · split
    · exact ⟨rfl, rfl, id⟩
    · exact ⟨rfl, rfl, id⟩

variable (platform) in
theorem getDisplayEdidBytes_frame (state : DisplayState σ room limit) (handle : Int)
    (hasBuffer : Bool) (edidLength : UInt16) :
    (state.getDisplayEdidBytes platform handle hasBuffer edidLength).2.hal = state.hal ∧
      (state.getDisplayEdidBytes platform handle hasBuffer edidLength).2.edidSlot =
        state.edidSlot := by
  unfold getDisplayEdidBytes
  split_ifs
  · exact ⟨rfl, rfl⟩
  · exact ⟨rfl, rfl⟩
  · exact ⟨rfl, rfl⟩
  · split
    · exact ⟨rfl, rfl⟩
    · split_ifs <;> exact ⟨rfl, rfl⟩

/-- The cache after a read that was accepted. -/
def withBytes (state : DisplayState σ room limit) (bytes : List UInt8) :
    DisplayState σ room limit :=
  { state with
    edidBytesCache := bytes ++ state.edidBytesCache.drop bytes.length
    edidBytesCacheLength := bytes.length
    isEdidBytesCached := true }

@[simp] theorem bytesSlot_withBytes (state : DisplayState σ room limit) (bytes : List UInt8) :
    (state.withBytes bytes).bytesSlot = some bytes := by
  simp [bytesSlot, withBytes]

/-- A request that the cache does not serve: what the HAL gives, where it fits. -/
theorem getDisplayEdidBytes_of_miss {state : DisplayState σ room limit} {edidLength : UInt16}
    (miss : ¬(state.isEdidBytesCached = true ∧ 0 < state.edidBytesCacheLength ∧
      state.edidBytesCacheLength ≤ edidLength.toNat)) (handle : Int) (hasBuffer : Bool) :
    state.getDisplayEdidBytes platform handle hasBuffer edidLength =
      match (platform.ownBytes state.hal handle).filter
          (fitsBuffer platform hasBuffer edidLength) with
      | none => (.error .general, state)
      | some bytes => (.ok bytes, state.withBytes bytes) := by
  unfold getDisplayEdidBytes DisplayPlatform.ownBytes
  rw [if_neg miss]
  by_cases noRequest : hasBuffer = false ∨ edidLength = 0
  · rw [if_pos noRequest]
    cases platform.dsGetEDIDBytes state.hal handle with
    | error error => rfl
    | ok bytes =>
        have unfit : fitsBuffer platform hasBuffer edidLength bytes = false := by
          rcases noRequest with noBuffer | noRoom
          · simp [fitsBuffer, noBuffer]
          · subst noRoom
            simp only [fitsBuffer, UInt16.toNat_zero, Bool.and_eq_false_iff,
              decide_eq_false_iff_not]
            omega
        rw [Option.filter_some_neg unfit]
  · rw [if_neg noRequest]
    have buffer : hasBuffer = true := by
      by_contra none
      exact noRequest (.inl (Bool.eq_false_iff.mpr none))
    cases resolves : platform.resolvesBytes <;>
      cases platform.dsGetEDIDBytes state.hal handle with
      | error error => simp
      | ok bytes =>
          by_cases fit : 0 < bytes.length ∧ bytes.length ≤ edidLength.toNat ∧ bytes.length ≤ 1024
          · simp [Option.filter_some, fitsBuffer, resolves, buffer, fit, withBytes]
          · simp [Option.filter_some, fitsBuffer, resolves, buffer, fit, and_assoc]

/-- A request that the cache serves. -/
theorem getDisplayEdidBytes_of_hit {state : DisplayState σ room limit} {edidLength : UInt16}
    (hit : state.isEdidBytesCached = true ∧ 0 < state.edidBytesCacheLength ∧
      state.edidBytesCacheLength ≤ edidLength.toNat) (handle : Int) :
    state.getDisplayEdidBytes platform handle true edidLength =
      (.ok (state.edidBytesCache.take state.edidBytesCacheLength), state) := by
  have room : ¬(true = false ∨ edidLength = 0) := by
    rintro (absurd | rfl)
    · cases absurd
    · have positive := hit.2.1
      have bounded := hit.2.2
      rw [UInt16.toNat_zero] at bounded
      omega
  rw [getDisplayEdidBytes, if_neg room, if_pos hit]

theorem getDisplayEdidBytes_spec {state : DisplayState σ room limit}
    (accepted : BytesAccepted platform state) (handle : Int) (hasBuffer : Bool)
    (edidLength : UInt16) :
    let fits := fitsBuffer platform hasBuffer edidLength
    let own := platform.ownBytes state.hal handle
    let result := state.getDisplayEdidBytes platform handle hasBuffer edidLength
    (result.1 = answered (slotAnswer fits state.bytesSlot own) ∧
      result.2.bytesSlot = slotAfter fits state.bytesSlot own) ∧
      BytesAccepted platform result.2 := by
  intro fits own result
  by_cases hit : state.isEdidBytesCached = true ∧ 0 < state.edidBytesCacheLength ∧
      state.edidBytesCacheLength ≤ edidLength.toNat
  · cases hasBuffer with
    | false =>
        have unfit : ∀ bytes, fits bytes = false := fun bytes => rfl
        have nothing : slotAnswer fits state.bytesSlot own = none := by
          rw [slotAnswer_miss fits fun bytes _ => unfit bytes, Option.filter_eq_none_iff]
          exact fun bytes _ => by simp [unfit]
        have refused : result = (.error .general, state) := if_pos (.inl rfl)
        rw [slotAfter, nothing, refused]
        exact ⟨⟨rfl, rfl⟩, accepted⟩
    | true =>
        obtain ⟨resolves, positive, small, inside⟩ := accepted hit.1
        have length : (state.edidBytesCache.take state.edidBytesCacheLength).length =
            state.edidBytesCacheLength := List.length_take_of_le inside
        have stored : state.bytesSlot =
            some (state.edidBytesCache.take state.edidBytesCacheLength) := if_pos hit.1
        have fit : fits (state.edidBytesCache.take state.edidBytesCacheLength) = true := by
          simp [fits, fitsBuffer, resolves, length, hit.2.1, hit.2.2, small]
        have served : result =
            (.ok (state.edidBytesCache.take state.edidBytesCacheLength), state) :=
          getDisplayEdidBytes_of_hit hit handle
        rw [slotAfter, slotAnswer_hit fits stored fit, served]
        exact ⟨⟨rfl, stored⟩, accepted⟩
  · have miss : ∀ bytes, state.bytesSlot = some bytes → fits bytes = false := by
      intro bytes stored
      obtain ⟨cached, same⟩ := Option.ite_none_right_eq_some.mp stored
      obtain ⟨resolves, positive, small, inside⟩ := accepted cached
      have length : bytes.length = state.edidBytesCacheLength := by
        rw [← Option.some.inj same]
        exact List.length_take_of_le inside
      have tooLong : ¬state.edidBytesCacheLength ≤ edidLength.toNat :=
        fun bounded => hit ⟨cached, positive, bounded⟩
      simp [fits, fitsBuffer, length, tooLong]
    have read : result = _ := getDisplayEdidBytes_of_miss hit handle hasBuffer
    rw [slotAfter, slotAnswer_miss fits miss, read]
    cases given : own.filter fits with
    | none => exact ⟨⟨rfl, rfl⟩, accepted⟩
    | some bytes =>
        obtain ⟨-, fit⟩ := Option.filter_eq_some_iff.mp given
        refine ⟨⟨rfl, bytesSlot_withBytes state bytes⟩, fun _ => ?_⟩
        simp only [fits, fitsBuffer, Bool.and_eq_true, decide_eq_true_eq] at fit
        obtain ⟨⟨⟨⟨-, resolves⟩, positive⟩, -⟩, small⟩ := fit
        refine ⟨resolves, positive, small, ?_⟩
        simp [withBytes]

end DisplayState

/-! ### Runs -/

/-- The two slots hold what the last servable calls got. -/
structure Holds (state : DisplayState σ room limit) (served : Served σ) : Prop where
  hal : state.hal = served.hal
  edid : state.edidSlot = served.edid
  bytes : state.bytesSlot = served.bytes
  accepted : DisplayState.BytesAccepted platform state

theorem rightAnswer_iff {state : DisplayState σ room limit} {served : Served σ}
    (holds : Holds platform state served) (action : DisplayAction σ) :
    RightAnswer platform state action ↔ AgreesWithServed platform served action := by
  cases action with
  | getDisplayEdid handle =>
      rw [AgreesWithServed, ← holds.hal, ← holds.edid, ← slotRight_iff, RightAnswer,
        (DisplayState.getDisplayEdid_spec platform state handle).1]
      simp only [DisplayState.answered_eq_ok]
      rfl
  | getDisplayEdidBytes handle hasBuffer edidLength =>
      rw [AgreesWithServed, ← holds.hal, ← holds.bytes, ← slotRight_iff, RightAnswer,
        (DisplayState.getDisplayEdidBytes_spec holds.accepted handle hasBuffer edidLength).1.1]
      simp only [DisplayState.answered_eq_ok]
      rfl
  | _ => exact Iff.rfl

/-- A step that answers right, if it answers, keeps the slots as the history says. -/
theorem holds_step {state : DisplayState σ room limit} {served : Served σ}
    (holds : Holds platform state served) (action : DisplayAction σ)
    (right : RightAnswer platform state action) :
    Holds platform (state.step platform action) (served.step platform action) := by
  cases action with
  | getDisplayEdid handle =>
      obtain ⟨answer, slot⟩ := DisplayState.getDisplayEdid_spec platform state handle
      obtain ⟨sameHal, sameBytes, accepted⟩ :=
        DisplayState.getDisplayEdid_frame platform state handle
      have slotRight :
          SlotRight (fun _ => true) state.edidSlot (platform.ownEdid state.hal handle) := by
        intro value given
        exact right value (answer.trans (DisplayState.answered_eq_ok.mpr given))
      refine ⟨sameHal.trans holds.hal, ?_, sameBytes.trans holds.bytes, accepted holds.accepted⟩
      exact slot.trans ((slotAfter_of_right _ slotRight).trans (by rw [holds.edid, holds.hal]; rfl))
  | getDisplayEdidBytes handle hasBuffer edidLength =>
      obtain ⟨⟨answer, slot⟩, accepted⟩ :=
        DisplayState.getDisplayEdidBytes_spec holds.accepted handle
        hasBuffer edidLength
      obtain ⟨sameHal, sameEdid⟩ := DisplayState.getDisplayEdidBytes_frame platform state handle
        hasBuffer edidLength
      have slotRight : SlotRight (fitsBuffer platform hasBuffer edidLength) state.bytesSlot
          (platform.ownBytes state.hal handle) := by
        intro value given
        exact right value (answer.trans (DisplayState.answered_eq_ok.mpr given))
      refine ⟨sameHal.trans holds.hal, sameEdid.trans holds.edid, ?_, accepted⟩
      refine slot.trans ((slotAfter_of_right _ slotRight).trans ?_)
      rw [holds.bytes, holds.hal]
      rfl
  | sinks hal => exact ⟨rfl, holds.edid, holds.bytes, holds.accepted⟩
  | connected handle => exact holds
  | disconnected handle => exact ⟨holds.hal, rfl, rfl, fun cached => absurd cached (by simp [
      DisplayState.step, DisplayState.disconnected])⟩

/-- The static variables at the start of the process. -/
structure NothingCached (state : DisplayState σ room limit) : Prop where
  edid : state.isEdidCached = false
  bytes : state.isEdidBytesCached = false

/-- Every call of a run answers for its own display exactly if every call, at its time, would get
from its own display what the last servable call since the last unplugging has got. -/
theorem display_answers_right_iff {start : DisplayState σ room limit}
    (nothing : NothingCached start) (actions : List (DisplayAction σ)) :
    Along (DisplayState.step platform) (RightAnswer platform) start actions ↔
      Along (Served.step platform) (AgreesWithServed platform) ⟨start.hal, none, none⟩ actions := by
  have initially : Holds platform start ⟨start.hal, none, none⟩ := by
    refine ⟨rfl, ?_, ?_, ?_⟩
    · simp [DisplayState.edidSlot, nothing.edid]
    · simp [DisplayState.bytesSlot, nothing.bytes]
    · intro cached
      rw [nothing.bytes] at cached
      cases cached
  exact along_iff_of_related (Holds platform)
    (fun _ _ action holds => rightAnswer_iff platform holds action)
    (fun _ _ action holds right => holds_step platform holds action right) initially actions

end Answers

namespace TwoDisplays

/-- The sink of every display has the handle of the display as its product code. -/
def platform : DisplayPlatform Unit 31 0 where
  dsGetEDID _ handle := .ok ⟨handle, 0, 2024, 1, true, false, 1, 0, 0, 0, 0, #v[], "TV"⟩
  dsGetEDIDBytes _ handle := .ok [handle.toNat.toUInt8]
  resolvesBytes := true
  dsGetDisplay _ _ := .ok 0
  videoPorts := []
  hdmiResolutions := []

/-- The start of the process: all static variables are zero. -/
def start : DisplayState Unit 31 0 :=
  ⟨(), false, ⟨0, 0, 0, 0, false, false, 0, 0, 0, 0, 0, #v[], ""⟩, false, List.replicate 1024 0, 0⟩

theorem nothing : NothingCached start := ⟨rfl, rfl⟩

end TwoDisplays

theorem display_answers_right_iff_two :
    Along (DisplayState.step TwoDisplays.platform) (RightAnswer TwoDisplays.platform)
        TwoDisplays.start [.getDisplayEdid 1, .disconnected 1, .getDisplayEdid 2] ↔
      Along (Served.step TwoDisplays.platform) (AgreesWithServed TwoDisplays.platform)
        ⟨(), none, none⟩ [.getDisplayEdid 1, .disconnected 1, .getDisplayEdid 2] :=
  display_answers_right_iff TwoDisplays.platform TwoDisplays.nothing _

/-- The second display is answered with the EDID of the first, though no sink has changed. -/
theorem not_display_answers_right :
    ¬∀ (start : DisplayState Unit 31 0) (actions : List (DisplayAction Unit)),
      NothingCached start → (∀ action ∈ actions, ∀ hal, action ≠ .sinks hal) →
      Along (DisplayState.step TwoDisplays.platform) (RightAnswer TwoDisplays.platform) start
        actions := by
  intro right
  have answers := right TwoDisplays.start [.getDisplayEdid 1, .getDisplayEdid 2]
    TwoDisplays.nothing (by simp)
  have second := answers.2.1 _ rfl
  have codes := congrArg (Option.map DisplayEdid.productCode) second
  exact absurd codes (by decide)

end DeviceSettings.Display
