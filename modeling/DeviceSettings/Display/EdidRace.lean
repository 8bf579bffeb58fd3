import DeviceSettings.Display.Edid
import DeviceSettings.Std.Machine

/-!
# Reading the EDID while the display is unplugged

`GetDisplayEdid` on one display from any number of threads, and the events of the HAL. The calls
take `dsDisplayLock` behind their test of `isEdidCached`; the callback for DISCONNECTED clears the
flag without it, so a call that has read the EDID before can still mark it as cached after.
-/

namespace DeviceSettings.Display

open DeviceSettings.Std

/-- An EDID with the number of DISCONNECTED events that came before the HAL was read for it. -/
structure ReadEdid (room limit : Nat) where
  edid : DsDisplayEdid room limit
  readIn : Nat

/-- What is known of a call from its beginning: the DISCONNECTED events before it, and whether a
CONNECTED event was before it. -/
structure CallStart where
  begunIn : Nat
  afterConnect : Bool
  deriving DecidableEq, Repr

/-- `GetDisplayEdid`, step by step. -/
inductive EdidPhase (room limit : Nat) where
  | idle
  | testing (start : CallStart)
  | copying (start : CallStart)
  | locking (start : CallStart)
  | reading (start : CallStart)
  | storing (start : CallStart) (read : ReadEdid room limit)
  | returning (start : CallStart) (read : ReadEdid room limit)
  | failing

/-- What the threads share, with the events so far, and each thread's place in the code. -/
structure EdidState (σ : Type) (room limit : Nat) where
  hal : σ
  isEdidCached : Bool
  edidStructCache : ReadEdid room limit
  locked : Bool
  callers : Nat → EdidPhase room limit
  disconnects : Nat
  connected : Bool

/-- A call begins, a call goes on, or something happens to the display. -/
inductive EdidAction (σ : Type) where
  | getDisplayEdid (caller : Nat)
  | caller (caller : Nat)
  | sink (hal : σ)
  | connected
  | disconnected

/-- A call returns an EDID. -/
structure Returned (room limit : Nat) where
  start : CallStart
  read : ReadEdid room limit

namespace EdidState

variable {σ : Type} {room limit : Nat} (platform : DisplayPlatform σ room limit) (handle : Int)

def become (state : EdidState σ room limit) (caller : Nat) (phase : EdidPhase room limit) :
    EdidState σ room limit :=
  { state with callers := Function.update state.callers caller phase }

/-- The next step of a call; the EDID is filtered where it is read, under the lock. -/
def callerStep (state : EdidState σ room limit) (caller : Nat) :
    Option (EdidState σ room limit × List (Returned room limit)) :=
  match state.callers caller with
  | .idle => none
  | .testing start =>
    some (state.become caller (if state.isEdidCached then .copying start else .locking start), [])
  | .copying start => some (state.become caller .idle, [⟨start, state.edidStructCache⟩])
  | .locking start =>
    if state.locked then none
    else some ({ state with locked := true }.become caller (.reading start), [])
  | .reading start =>
    match platform.dsGetEDID state.hal handle with
    | .error _ => some (state.become caller .failing, [])
    | .ok halEdid =>
      some (state.become caller (.storing start
        ⟨platform.filterEDIDResolution handle halEdid, state.disconnects⟩), [])
  | .storing start read =>
    some ({ state with edidStructCache := read, isEdidCached := true }.become caller
      (.returning start read), [])
  | .returning start read =>
    some ({ state with locked := false }.become caller .idle, [⟨start, read⟩])
  | .failing => some ({ state with locked := false }.become caller .idle, [])

def step (state : EdidState σ room limit) :
    EdidAction σ → Option (EdidState σ room limit × List (Returned room limit))
  | .getDisplayEdid caller =>
    match state.callers caller with
    | .idle => some (state.become caller (.testing ⟨state.disconnects, state.connected⟩), [])
    | _ => none
  | .caller caller => state.callerStep platform handle caller
  | .sink hal => some ({ state with hal := hal }, [])
  | .connected => some ({ state with connected := true }, [])
  | .disconnected =>
    some ({ state with isEdidCached := false, disconnects := state.disconnects + 1 }, [])

end EdidState

section Races

variable {σ : Type} {room limit : Nat} (platform : DisplayPlatform σ room limit) (handle : Int)

/-- The calls on one display and its events. -/
def edidReads : Machine (EdidState σ room limit) (EdidAction σ) (Returned room limit) where
  step := EdidState.step platform handle

/-- A step of a run. -/
abbrev EdidStep (σ : Type) (room limit : Nat) :=
  Occurrence (EdidState σ room limit) (EdidAction σ) (Returned room limit)

/-- A call that began after a CONNECTED event returns nothing that was read before the most recent
DISCONNECTED event before it. -/
def ReturnsFresh (occurrence : EdidStep σ room limit) : Prop :=
  ∀ returned ∈ occurrence.effects, returned.start.afterConnect = true →
    returned.start.begunIn ≤ returned.read.readIn

/-- No call is between its HAL read and its store when DISCONNECTED is delivered. -/
def NoReadInFlight (occurrence : EdidStep σ room limit) : Prop :=
  occurrence.action = .disconnected →
    ∀ caller start read, occurrence.before.callers caller ≠ .storing start read

variable {platform handle}

/-- What holds of a phase of a call, given the shared variables. -/
def EdidPhase.Fresh (disconnects : Nat) (cached : ReadEdid room limit) :
    EdidPhase room limit → Prop
  | .idle | .failing => True
  | .testing start | .locking start | .reading start => start.begunIn ≤ disconnects
  | .copying start => start.begunIn ≤ cached.readIn ∧ start.begunIn ≤ disconnects
  | .storing start read => start.begunIn ≤ read.readIn ∧ read.readIn = disconnects
  | .returning start read => start.begunIn ≤ read.readIn

/-- A valid cache was read after the last DISCONNECTED, and so was what is about to be stored. -/
structure CacheFresh (state : EdidState σ room limit) : Prop where
  cached : state.isEdidCached = true → state.edidStructCache.readIn = state.disconnects
  bounded : state.edidStructCache.readIn ≤ state.disconnects
  phases : ∀ caller, (state.callers caller).Fresh state.disconnects state.edidStructCache

/-- A call moves on, and the others stay where they are. -/
theorem CacheFresh.become {state : EdidState σ room limit} (fresh : CacheFresh state)
    (caller : Nat) {phase : EdidPhase room limit}
    (own : phase.Fresh state.disconnects state.edidStructCache) :
    CacheFresh (state.become caller phase) := by
  refine ⟨fresh.cached, fresh.bounded, fun other => ?_⟩
  by_cases same : other = caller
  · subst same
    simpa [EdidState.become] using own
  · simpa [EdidState.become, same] using fresh.phases other

/-- The lock changes hands. -/
theorem CacheFresh.withLock {state : EdidState σ room limit} (fresh : CacheFresh state)
    (locked : Bool) : CacheFresh { state with locked := locked } :=
  ⟨fresh.cached, fresh.bounded, fresh.phases⟩

/-- The store of a call: calls that are about to copy get something newer. -/
theorem CacheFresh.store {state : EdidState σ room limit} (fresh : CacheFresh state)
    {read : ReadEdid room limit} (now : read.readIn = state.disconnects) :
    CacheFresh { state with edidStructCache := read, isEdidCached := true } := by
  refine ⟨fun _ => now, now.le, fun caller => ?_⟩
  have phase := fresh.phases caller
  show EdidPhase.Fresh state.disconnects read (state.callers caller)
  cases place : state.callers caller <;> rw [place] at phase
  case copying start => exact ⟨now ▸ phase.2, phase.2⟩
  all_goals exact phase

/-- The callback for DISCONNECTED, with no read in flight. -/
theorem CacheFresh.disconnect {state : EdidState σ room limit} (fresh : CacheFresh state)
    (noRead : ∀ caller start read, state.callers caller ≠ .storing start read) :
    CacheFresh { state with isEdidCached := false, disconnects := state.disconnects + 1 } := by
  refine ⟨fun cached => absurd cached Bool.false_ne_true, fresh.bounded.trans (Nat.le_succ _),
    fun caller => ?_⟩
  have phase := fresh.phases caller
  show EdidPhase.Fresh (state.disconnects + 1) state.edidStructCache (state.callers caller)
  cases place : state.callers caller <;> rw [place] at phase
  case storing start read => exact absurd place (noRead caller start read)
  case copying start => exact ⟨phase.1, phase.2.trans (Nat.le_succ _)⟩
  case testing start => exact Nat.le_succ_of_le phase
  case locking start => exact Nat.le_succ_of_le phase
  case reading start => exact Nat.le_succ_of_le phase
  all_goals exact phase

theorem cacheFresh_callerStep {before after : EdidState σ room limit} {caller : Nat}
    {effects : List (Returned room limit)} (fresh : CacheFresh before)
    (taken : before.callerStep platform handle caller = some (after, effects)) :
    CacheFresh after ∧ ∀ returned ∈ effects, returned.start.begunIn ≤ returned.read.readIn := by
  have phase := fresh.phases caller
  unfold EdidState.callerStep at taken
  split at taken <;> rename_i place <;> rw [place] at phase
  · cases taken
  · obtain ⟨rfl, rfl⟩ := Prod.mk.inj (Option.some.inj taken)
    refine ⟨fresh.become caller ?_, by simp⟩
    split_ifs with cached
    · exact ⟨(fresh.cached cached).symm ▸ phase, phase⟩
    · exact phase
  · obtain ⟨rfl, rfl⟩ := Prod.mk.inj (Option.some.inj taken)
    exact ⟨fresh.become caller trivial, by simpa using phase.1⟩
  · split_ifs at taken
    obtain ⟨rfl, rfl⟩ := Prod.mk.inj (Option.some.inj taken)
    exact ⟨(fresh.withLock true).become caller phase, by simp⟩
  · split at taken
    · obtain ⟨rfl, rfl⟩ := Prod.mk.inj (Option.some.inj taken)
      exact ⟨fresh.become caller trivial, by simp⟩
    · obtain ⟨rfl, rfl⟩ := Prod.mk.inj (Option.some.inj taken)
      exact ⟨fresh.become caller ⟨phase, rfl⟩, by simp⟩
  · obtain ⟨rfl, rfl⟩ := Prod.mk.inj (Option.some.inj taken)
    exact ⟨(fresh.store phase.2).become caller phase.1, by simp⟩
  · obtain ⟨rfl, rfl⟩ := Prod.mk.inj (Option.some.inj taken)
    exact ⟨(fresh.withLock false).become caller trivial, by simpa [EdidPhase.Fresh] using phase⟩
  · obtain ⟨rfl, rfl⟩ := Prod.mk.inj (Option.some.inj taken)
    exact ⟨(fresh.withLock false).become caller trivial, by simp⟩

theorem cacheFresh_step {before after : EdidState σ room limit} {action : EdidAction σ}
    {effects : List (Returned room limit)} (fresh : CacheFresh before)
    (taken : (edidReads platform handle).step before action = some (after, effects))
    (noRead : NoReadInFlight (⟨before, action, effects, after⟩ : EdidStep σ room limit)) :
    CacheFresh after ∧ ∀ returned ∈ effects, returned.start.begunIn ≤ returned.read.readIn := by
  cases action with
  | getDisplayEdid caller =>
      simp only [edidReads, EdidState.step] at taken
      split at taken <;> cases taken
      exact ⟨fresh.become caller (le_refl before.disconnects), by simp⟩
  | caller caller => exact cacheFresh_callerStep fresh taken
  | sink hal =>
      cases taken
      exact ⟨⟨fresh.cached, fresh.bounded, fresh.phases⟩, by simp⟩
  | connected =>
      cases taken
      exact ⟨⟨fresh.cached, fresh.bounded, fresh.phases⟩, by simp⟩
  | disconnected =>
      cases taken
      exact ⟨fresh.disconnect (noRead rfl), by simp⟩

/-- The start of the process: nothing is cached, and no call has begun. -/
structure Unread (state : EdidState σ room limit) : Prop where
  cached : state.isEdidCached = false
  readIn : state.edidStructCache.readIn ≤ state.disconnects
  callers : ∀ caller, state.callers caller = .idle

theorem Unread.cacheFresh {state : EdidState σ room limit} (unread : Unread state) :
    CacheFresh state := by
  refine ⟨fun cached => ?_, unread.readIn, fun caller => ?_⟩
  · rw [unread.cached] at cached
    cases cached
  · rw [unread.callers]
    trivial

/-- Any number of calls, in any interleaving with the events: where DISCONNECTED never meets a read
in flight, no call returns what was read before the display was unplugged. -/
theorem no_stale_edid_of_no_read_in_flight {start state : EdidState σ room limit}
    (unread : Unread start) {trace : List (EdidStep σ room limit)}
    (run : (edidReads platform handle).Run start trace state)
    (noRead : ∀ occurrence ∈ trace, NoReadInFlight occurrence) :
    ∀ occurrence ∈ trace, ReturnsFresh occurrence := by
  have kept : ∀ occurrence ∈ trace, CacheFresh occurrence.before := by
    intro occurrence member
    obtain ⟨earlier, later, rfl⟩ := List.append_of_mem member
    have soFar : ∀ other ∈ earlier, NoReadInFlight other :=
      fun other before => noRead other (List.mem_append_left _ before)
    refine run.at_occurrence.1.invariant_of_steps soFar unread.cacheFresh ?_
    intro before action after effects fresh taken meets
    exact (cacheFresh_step fresh taken meets).1
  intro occurrence member returned given _
  obtain ⟨earlier, later, rfl⟩ := List.append_of_mem member
  exact (cacheFresh_step (kept occurrence member) run.at_occurrence.2
    (noRead occurrence member)).2 returned given

/-- What a call stored while the display was unplugged is what a later call gets. -/
def finishAndAsk (σ : Type) (caller : Nat) : List (EdidAction σ) :=
  [.disconnected, .caller caller, .caller caller, .connected, .getDisplayEdid caller,
    .caller caller, .caller caller]

/-- The condition is sharp: a DISCONNECTED that meets a read in flight has a continuation that
returns a stale EDID. -/
theorem stale_of_read_in_flight {before : EdidState σ room limit} {caller : Nat}
    {start : CallStart} {read : ReadEdid room limit} (fresh : CacheFresh before)
    (place : before.callers caller = .storing start read) :
    ∃ trace final, (edidReads platform handle).Run before trace final ∧
      Machine.actionsOf trace = finishAndAsk σ caller ∧
      ∃ occurrence ∈ trace, ¬ReturnsFresh occurrence := by
  have now : read.readIn = before.disconnects := by
    have phase := fresh.phases caller
    rw [place] at phase
    exact phase.2
  obtain ⟨final, trace, played, stale⟩ : ∃ final trace,
      (edidReads platform handle).play before (finishAndAsk σ caller) = some (final, trace) ∧
        ∃ occurrence ∈ trace, occurrence.effects =
          [⟨⟨before.disconnects + 1, true⟩, read⟩] := by
    simp [Machine.play, finishAndAsk, edidReads, EdidState.step, EdidState.callerStep,
      EdidState.become, place]
  obtain ⟨occurrence, member, effects⟩ := stale
  refine ⟨trace, final, Machine.play_run played, Machine.actionsOf_played played, occurrence,
    member, fun returnsFresh => ?_⟩
  have bound := returnsFresh ⟨⟨before.disconnects + 1, true⟩, read⟩ (by simp [effects]) rfl
  simp only [now] at bound
  omega

end Races

/-! ### A replug -/

namespace Replug

/-- One HDMI display; its sink shows in the product code. -/
def platform : DisplayPlatform Int 31 0 where
  dsGetEDID sink _ := .ok ⟨sink, 0, 2024, 1, true, false, 1, 0, 0, 0, 0, .emptyWithCapacity 0, "TV"⟩
  dsGetEDIDBytes _ _ := .error .general
  resolvesBytes := false
  dsGetDisplay _ _ := .ok 1
  videoPorts := [(.hdmi, 0)]
  hdmiResolutions := []

/-- The start of the process with sink 1. -/
def start : EdidState Int 31 0 where
  hal := 1
  isEdidCached := false
  edidStructCache := ⟨⟨0, 0, 0, 0, false, false, 0, 0, 0, 0, 0, .emptyWithCapacity 0, ""⟩, 0⟩
  locked := false
  callers _ := .idle
  disconnects := 0
  connected := false

theorem unread : Unread start := ⟨rfl, le_refl 0, fun _ => rfl⟩

/-- A whole call, a replug, and the call for the connect. -/
def betweenCalls : List (EdidAction Int) :=
  [.getDisplayEdid 0, .caller 0, .caller 0, .caller 0, .caller 0, .caller 0, .sink 2,
    .disconnected, .connected, .getDisplayEdid 1, .caller 1, .caller 1]

/-- The same with the replug between the HAL read and the store. -/
def duringCall : List (EdidAction Int) :=
  [.getDisplayEdid 0, .caller 0, .caller 0, .caller 0, .sink 2, .disconnected, .caller 0,
    .caller 0, .connected, .getDisplayEdid 1, .caller 1, .caller 1]

end Replug

theorem no_stale_edid_of_no_read_in_flight_replug : ∃ trace : List (EdidStep Int 31 0),
    Machine.actionsOf trace = Replug.betweenCalls ∧
      ∀ occurrence ∈ trace, ReturnsFresh occurrence := by
  obtain ⟨trace, final, played, idle⟩ : ∃ trace final,
      (edidReads Replug.platform 1).play Replug.start Replug.betweenCalls =
        some (final, trace) ∧ ∀ occurrence ∈ trace, occurrence.action = .disconnected →
          occurrence.before.callers = Function.update (fun _ => .idle) 0 .idle := by
    refine ⟨_, _, rfl, ?_⟩
    simp [Replug.start, EdidState.become]
  refine ⟨trace, Machine.actionsOf_played played, no_stale_edid_of_no_read_in_flight
    Replug.unread (Machine.play_run played) fun occurrence member act caller begun read => ?_⟩
  rw [idle occurrence member act, Function.update_apply]
  split <;> simp

/-- The call that began behind the connect gets the EDID of the first sink. -/
theorem not_no_stale_edid :
    ¬∀ (start state : EdidState Int 31 0) (trace : List (EdidStep Int 31 0)), Unread start →
      (edidReads Replug.platform 1).Run start trace state →
      ∀ occurrence ∈ trace, ReturnsFresh occurrence := by
  intro fresh
  obtain ⟨trace, final, played, occurrence, member, stale⟩ : ∃ trace final,
      (edidReads Replug.platform 1).play Replug.start Replug.duringCall =
        some (final, trace) ∧ ∃ occurrence ∈ trace, ¬ReturnsFresh occurrence := by
    refine ⟨_, _, rfl, _, List.mem_of_getElem? (show _[11]? = some _ from rfl), ?_⟩
    intro returnsFresh
    exact absurd (returnsFresh _ List.mem_cons_self rfl) (by decide)
  exact stale (fresh _ _ _ Replug.unread (Machine.play_run played) occurrence member)

end DeviceSettings.Display
