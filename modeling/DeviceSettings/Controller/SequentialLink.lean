import DeviceSettings.Controller.Threads
import Mathlib.Data.List.Basic
import Mathlib.Data.List.Induction

/-!
# The link as a list of events

With every event handled before the next one comes, the controller is a function of the
events delivered so far. `Authenticated` is what the link really is after them, `Served`
what the two flags of the controller say; `stale_iff` tells when they part.
-/

namespace DeviceSettings.Controller

open DeviceSettings.Std

/-- An HDCP pass with neither a disconnect nor a failure behind it. -/
def Authenticated (events : List ControllerAction) : Prop :=
  ∃ earlier later, events = earlier ++ .hdcpStatus .authenticated :: later ∧
    .hotPlug .disconnected ∉ later ∧ .hdcpStatus .authenticationFailure ∉ later

/-- The flags `_tuneReady` and `_hdcpAuthenticated` between two events. -/
structure Served where
  tuned : Bool
  flag : Bool
  deriving DecidableEq, Repr

/-- What handling one event does to the flags: a disconnect clears the HDCP flag only
once TuneReady has come. -/
def Served.handle (served : Served) : ControllerAction → Served
  | .hdcpStatus .authenticated => { served with flag := true }
  | .hdcpStatus .authenticationFailure => { served with flag := false }
  | .hotPlug .disconnected => { served with flag := served.flag && !served.tuned }
  | .tuneReady => { served with tuned := true }
  | _ => served

/-- The flags after a list of events, from a start with TuneReady set or not. -/
def serve (tuneReady : Bool) (events : List ControllerAction) : Served :=
  events.foldl Served.handle ⟨tuneReady, false⟩

@[simp] theorem serve_nil (tuneReady : Bool) : serve tuneReady [] = ⟨tuneReady, false⟩ := rfl

@[simp] theorem serve_snoc (tuneReady : Bool) (events : List ControllerAction)
    (event : ControllerAction) :
    serve tuneReady (events ++ [event]) = (serve tuneReady events).handle event := by
  simp [serve]

@[simp] theorem not_authenticated_nil : ¬Authenticated [] := by
  rintro ⟨earlier, later, split, -⟩
  simp at split

theorem authenticated_snoc_pass (events : List ControllerAction) :
    Authenticated (events ++ [.hdcpStatus .authenticated]) :=
  ⟨events, [], rfl, List.not_mem_nil, List.not_mem_nil⟩

/-- Any other event keeps the link authenticated unless it ends it. -/
theorem authenticated_snoc {events : List ControllerAction} {event : ControllerAction}
    (notPass : event ≠ .hdcpStatus .authenticated) :
    Authenticated (events ++ [event]) ↔ Authenticated events ∧
      event ≠ .hotPlug .disconnected ∧ event ≠ .hdcpStatus .authenticationFailure := by
  constructor
  · rintro ⟨earlier, later, split, noDisconnect, noFailure⟩
    rcases snoc_eq_append_cons_iff.mp split with ⟨-, -, same⟩ | ⟨front, rfl, rfl⟩
    · exact absurd same.symm notPass
    · simp only [List.mem_append, List.mem_singleton, not_or] at noDisconnect noFailure
      exact ⟨⟨earlier, front, rfl, noDisconnect.1, noFailure.1⟩,
        Ne.symm noDisconnect.2, Ne.symm noFailure.2⟩
  · rintro ⟨⟨earlier, later, rfl, noDisconnect, noFailure⟩, notDisconnect, notFailure⟩
    refine ⟨earlier, later ++ [event], by simp, ?_, ?_⟩
    · simp [noDisconnect, Ne.symm notDisconnect]
    · simp [noFailure, Ne.symm notFailure]

theorem Served.handle_tuned (served : Served) (event : ControllerAction) :
    (served.handle event).tuned = true ↔ served.tuned = true ∨ event = .tuneReady := by
  cases event with
  | hotPlug event => cases event <;> simp [handle]
  | hdcpStatus status => cases status <;> simp [handle]
  | _ => simp [handle]

theorem serve_tuned (tuneReady : Bool) (events : List ControllerAction) :
    (serve tuneReady events).tuned = true ↔ tuneReady = true ∨ .tuneReady ∈ events := by
  induction events using List.reverseRecOn with
  | nil => simp
  | append_singleton events event ih =>
      rw [serve_snoc, Served.handle_tuned, ih, List.mem_append, List.mem_singleton, or_assoc]
      exact or_congr_right (or_congr_right eq_comm)

/-- Events that leave the flag as it is. -/
theorem Served.handle_flag {served : Served} {event : ControllerAction}
    (notPass : event ≠ .hdcpStatus .authenticated)
    (notFailure : event ≠ .hdcpStatus .authenticationFailure)
    (notCleared : event = .hotPlug .disconnected → served.tuned = false) :
    (served.handle event).flag = served.flag := by
  cases event with
  | hotPlug event =>
      cases event with
      | connected => rfl
      | disconnected => simp [handle, notCleared rfl]
  | hdcpStatus status =>
      cases status with
      | authenticated => exact absurd rfl notPass
      | authenticationFailure => exact absurd rfl notFailure
      | _ => rfl
  | _ => rfl

/-- The flag is set on every authenticated link. -/
theorem flag_of_authenticated (tuneReady : Bool) {events : List ControllerAction}
    (authenticated : Authenticated events) : (serve tuneReady events).flag = true := by
  induction events using List.reverseRecOn with
  | nil => exact absurd authenticated not_authenticated_nil
  | append_singleton events event ih =>
      by_cases pass : event = .hdcpStatus .authenticated
      · subst pass
        simp [Served.handle]
      · obtain ⟨before, notDisconnect, notFailure⟩ :=
          (authenticated_snoc pass).mp authenticated
        rw [serve_snoc, Served.handle_flag pass notFailure fun same => absurd same notDisconnect]
        exact ih before

/-- The flag says authenticated, the link is not. -/
def Stale (tuneReady : Bool) (events : List ControllerAction) : Prop :=
  (serve tuneReady events).flag = true ∧ ¬Authenticated events

theorem stale_snoc_pass (tuneReady : Bool) (events : List ControllerAction) :
    ¬Stale tuneReady (events ++ [.hdcpStatus .authenticated]) :=
  fun stale => stale.2 (authenticated_snoc_pass events)

theorem stale_snoc_failure (tuneReady : Bool) (events : List ControllerAction) :
    ¬Stale tuneReady (events ++ [.hdcpStatus .authenticationFailure]) := by
  rintro ⟨flag, -⟩
  simp [Served.handle] at flag

/-- A disconnect leaves a stale flag when TuneReady has not come. -/
theorem stale_snoc_disconnected (tuneReady : Bool) (events : List ControllerAction) :
    Stale tuneReady (events ++ [.hotPlug .disconnected]) ↔
      (serve tuneReady events).flag = true ∧ (serve tuneReady events).tuned = false := by
  have ended : ¬Authenticated (events ++ [.hotPlug .disconnected]) := by
    rw [authenticated_snoc (by simp)]
    simp
  simp [Stale, ended, Served.handle]

theorem stale_snoc_other {tuneReady : Bool} {events : List ControllerAction}
    {event : ControllerAction} (notPass : event ≠ .hdcpStatus .authenticated)
    (notFailure : event ≠ .hdcpStatus .authenticationFailure)
    (notDisconnect : event ≠ .hotPlug .disconnected) :
    Stale tuneReady (events ++ [event]) ↔ Stale tuneReady events := by
  unfold Stale
  rw [serve_snoc, Served.handle_flag notPass notFailure fun same => absurd same notDisconnect,
    authenticated_snoc notPass]
  tauto

/-- A disconnect that ended an authenticated link with no HDCP result after it. -/
def Ended (events : List ControllerAction) : Prop :=
  ∃ earlier later, events = earlier ++ .hotPlug .disconnected :: later ∧
    Authenticated earlier ∧ .hdcpStatus .authenticated ∉ later ∧
    .hdcpStatus .authenticationFailure ∉ later

theorem ended_snoc {events : List ControllerAction} {event : ControllerAction} :
    Ended (events ++ [event]) ↔
      (event = .hotPlug .disconnected ∧ Authenticated events) ∨
        (Ended events ∧ event ≠ .hdcpStatus .authenticated ∧
          event ≠ .hdcpStatus .authenticationFailure) := by
  constructor
  · rintro ⟨earlier, later, split, authenticated, noPass, noFailure⟩
    rcases snoc_eq_append_cons_iff.mp split with ⟨rfl, rfl, same⟩ | ⟨front, rfl, rfl⟩
    · exact Or.inl ⟨same.symm, authenticated⟩
    · simp only [List.mem_append, List.mem_singleton, not_or] at noPass noFailure
      exact Or.inr ⟨⟨earlier, front, rfl, authenticated, noPass.1, noFailure.1⟩,
        Ne.symm noPass.2, Ne.symm noFailure.2⟩
  · rintro (⟨rfl, authenticated⟩ | ⟨⟨earlier, later, rfl, authenticated, noPass, noFailure⟩,
      notPass, notFailure⟩)
    · exact ⟨events, [], rfl, authenticated, List.not_mem_nil, List.not_mem_nil⟩
    · refine ⟨earlier, later ++ [event], by simp, authenticated, ?_, ?_⟩
      · simp [noPass, Ne.symm notPass]
      · simp [noFailure, Ne.symm notFailure]

/-- Before TuneReady the flag is stale exactly when a disconnect has ended the link. -/
theorem stale_iff_ended {events : List ControllerAction} (untuned : .tuneReady ∉ events) :
    Stale false events ↔ Ended events := by
  induction events using List.reverseRecOn with
  | nil => simp [Stale, Ended]
  | append_singleton events event ih =>
      simp only [List.mem_append, List.mem_singleton, not_or] at untuned
      have before := ih untuned.1
      have notTuned : (serve false events).tuned = false := by
        rw [← Bool.not_eq_true, serve_tuned]
        simp [untuned.1]
      by_cases pass : event = .hdcpStatus .authenticated
      · subst pass
        simp [stale_snoc_pass, ended_snoc]
      by_cases failure : event = .hdcpStatus .authenticationFailure
      · subst failure
        simp [stale_snoc_failure, ended_snoc]
      by_cases disconnect : event = .hotPlug .disconnected
      · subst disconnect
        rw [stale_snoc_disconnected, ended_snoc, ← before]
        have flagged : Authenticated events → (serve false events).flag = true :=
          flag_of_authenticated false
        simp only [notTuned, and_true, Stale]
        tauto
      · rw [stale_snoc_other pass failure disconnect, before, ended_snoc]
        tauto

/-- With TuneReady set from the start every disconnect clears the flag. -/
theorem not_stale_of_tuned (events : List ControllerAction) : ¬Stale true events := by
  induction events using List.reverseRecOn with
  | nil => simp [Stale]
  | append_singleton events event ih =>
      by_cases pass : event = .hdcpStatus .authenticated
      · subst pass
        exact stale_snoc_pass true events
      by_cases failure : event = .hdcpStatus .authenticationFailure
      · subst failure
        exact stale_snoc_failure true events
      by_cases disconnect : event = .hotPlug .disconnected
      · subst disconnect
        rw [stale_snoc_disconnected]
        have tuned : (serve true events).tuned = true := (serve_tuned true events).mpr (Or.inl rfl)
        simp [tuned]
      · rwa [stale_snoc_other pass failure disconnect]

/-- Behind TuneReady a flag stays stale until the next HDCP result or disconnect. -/
theorem stale_behind_tuneReady (earlier later : List ControllerAction) :
    Stale false (earlier ++ .tuneReady :: later) ↔
      Stale false earlier ∧ .hdcpStatus .authenticated ∉ later ∧
        .hdcpStatus .authenticationFailure ∉ later ∧ .hotPlug .disconnected ∉ later := by
  induction later using List.reverseRecOn with
  | nil => simp [stale_snoc_other]
  | append_singleton later event ih =>
      have regroup : earlier ++ .tuneReady :: (later ++ [event]) =
          (earlier ++ .tuneReady :: later) ++ [event] := by
        simp
      have tuned : (serve false (earlier ++ .tuneReady :: later)).tuned = true :=
        (serve_tuned _ _).mpr (Or.inr (by simp))
      rw [regroup]
      by_cases pass : event = .hdcpStatus .authenticated
      · subst pass
        exact iff_of_false (stale_snoc_pass _ _) (by simp)
      by_cases failure : event = .hdcpStatus .authenticationFailure
      · subst failure
        exact iff_of_false (stale_snoc_failure _ _) (by simp)
      by_cases disconnect : event = .hotPlug .disconnected
      · subst disconnect
        refine iff_of_false (fun stale => ?_) (by simp)
        rw [stale_snoc_disconnected, tuned] at stale
        exact absurd stale.2 (by simp)
      · rw [stale_snoc_other pass failure disconnect, ih]
        simp [Ne.symm pass, Ne.symm failure, Ne.symm disconnect]

/-- When a flag that TuneReady lets act is stale. -/
theorem tuned_stale_iff {tuneReady : Bool} {events : List ControllerAction} :
    (serve tuneReady events).tuned = true ∧ Stale tuneReady events ↔
      tuneReady = false ∧ ∃ earlier later, events = earlier ++ .tuneReady :: later ∧
        .tuneReady ∉ earlier ∧ Ended earlier ∧ .hdcpStatus .authenticated ∉ later ∧
        .hdcpStatus .authenticationFailure ∉ later ∧ .hotPlug .disconnected ∉ later := by
  cases tuneReady with
  | true => simp [not_stale_of_tuned]
  | false =>
      constructor
      · rintro ⟨tuned, stale⟩
        have comes : .tuneReady ∈ events := by simpa using (serve_tuned _ _).mp tuned
        obtain ⟨earlier, later, rfl, first⟩ := List.eq_append_cons_of_mem comes
        obtain ⟨before, noPass, noFailure, noDisconnect⟩ :=
          (stale_behind_tuneReady earlier later).mp stale
        exact ⟨rfl, earlier, later, rfl, first, (stale_iff_ended first).mp before, noPass,
          noFailure, noDisconnect⟩
      · rintro ⟨-, earlier, later, rfl, first, ended, noPass, noFailure, noDisconnect⟩
        refine ⟨(serve_tuned _ _).mpr (Or.inr (by simp)), ?_⟩
        exact (stale_behind_tuneReady earlier later).mpr
          ⟨(stale_iff_ended first).mpr ended, noPass, noFailure, noDisconnect⟩

/-- The events after which the resolution is set for a CONNECTED event. -/
def SetsResolution (tuneReady : Bool) (events called : List ControllerAction) : Prop :=
  called <+: events ∧ ∃ earlier, called = earlier ++ [.hotPlug .connected] ∧
    (serve tuneReady earlier).tuned = true ∧ (serve tuneReady earlier).flag = true

theorem setsResolution_snoc {tuneReady : Bool} {events called : List ControllerAction}
    {event : ControllerAction} :
    SetsResolution tuneReady (events ++ [event]) called ↔
      SetsResolution tuneReady events called ∨
        (called = events ++ [event] ∧ event = .hotPlug .connected ∧
          (serve tuneReady events).tuned = true ∧ (serve tuneReady events).flag = true) := by
  unfold SetsResolution
  rw [List.prefix_concat_iff, or_and_right, or_comm]
  refine or_congr_right (and_congr_right fun same => ?_)
  subst same
  constructor
  · rintro ⟨earlier, split, tuned, flag⟩
    obtain ⟨rfl, sameEvent⟩ := List.append_inj' split rfl
    exact ⟨(List.cons.inj sameEvent).1, tuned, flag⟩
  · rintro ⟨rfl, tuned, flag⟩
    exact ⟨events, rfl, tuned, flag⟩

/-- A disconnect ends the authenticated link before TuneReady; then TuneReady and a
connect come with no HDCP result, and no disconnect behind TuneReady, in between. -/
def StaleConnect (tuneReady : Bool) (events : List ControllerAction) : Prop :=
  tuneReady = false ∧ ∃ earlier between rest,
    events = earlier ++ .tuneReady :: between ++ .hotPlug .connected :: rest ∧
    .tuneReady ∉ earlier ∧ Ended earlier ∧ .hdcpStatus .authenticated ∉ between ∧
    .hdcpStatus .authenticationFailure ∉ between ∧ .hotPlug .disconnected ∉ between

/-- The resolution is only set on authenticated links unless a connect finds a stale flag. -/
theorem setsResolution_authenticated_iff {tuneReady : Bool} {events : List ControllerAction} :
    (∀ called, SetsResolution tuneReady events called → Authenticated called) ↔
      ¬StaleConnect tuneReady events := by
  constructor
  · rintro safe ⟨untuned, earlier, between, rest, rfl, first, ended, noResult⟩
    obtain ⟨tuned, flag, broken⟩ :=
      tuned_stale_iff.mpr ⟨untuned, earlier, between, rfl, first, ended, noResult⟩
    have called := safe (earlier ++ .tuneReady :: between ++ [.hotPlug .connected])
      ⟨⟨rest, by simp⟩, _, rfl, tuned, flag⟩
    exact broken ((authenticated_snoc (by simp)).mp called).1
  · rintro none called ⟨⟨rest, rfl⟩, earlier, rfl, tuned, flag⟩
    by_contra broken
    rw [authenticated_snoc (by simp)] at broken
    have stale : Stale tuneReady earlier :=
      ⟨flag, fun authenticated => broken (by simp [authenticated])⟩
    obtain ⟨untuned, before, between, rfl, first, ended, noResult⟩ :=
      tuned_stale_iff.mp ⟨tuned, stale⟩
    exact none ⟨untuned, before, between, rest, by simp, first, ended, noResult⟩

end DeviceSettings.Controller
