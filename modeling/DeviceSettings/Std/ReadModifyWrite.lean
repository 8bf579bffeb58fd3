import DeviceSettings.Std.LastWrite
import DeviceSettings.Std.Machine
import Mathlib.Logic.Function.Basic

/-!
# Reading, and rewriting what was read

Callers share a content. Each reads it in one step and replaces it in a later one by its update
of what it has read, so an update in between is lost. `builtOn` says for a schedule which
updates the content has in it: what the schedule does to the versions of the content is the same
for all contents.
-/

namespace DeviceSettings.Std

variable {Update Snapshot Content Key : Type}

/-- A content, and what each pending caller has read for its update. -/
structure Rewriting (Update Snapshot Content : Type) where
  content : Content
  pending : Nat → Option (Update × Snapshot)

inductive RewriteAction (Update : Type) where
  | read (caller : Nat) (update : Update)
  | rewrite (caller : Nat)

namespace Rewriting

/-- No call is pending. -/
def fresh (content : Content) : Rewriting Update Snapshot Content := ⟨content, fun _ => none⟩

def read (view : Content → Snapshot) (state : Rewriting Update Snapshot Content) (caller : Nat)
    (update : Update) : Rewriting Update Snapshot Content :=
  { state with
    pending := Function.update state.pending caller (some (update, view state.content)) }

def rewrite (state : Rewriting Update Snapshot Content) (caller : Nat) (content : Content) :
    Rewriting Update Snapshot Content :=
  ⟨content, Function.update state.pending caller none⟩

section Calls

variable (view : Content → Snapshot) (state : Rewriting Update Snapshot Content)
  {caller other : Nat} (update : Update) (content : Content)

@[simp] theorem content_read : (state.read view caller update).content = state.content := rfl

@[simp] theorem pending_read_self :
    (state.read view caller update).pending caller = some (update, view state.content) :=
  Function.update_self ..

@[simp] theorem pending_read_of_ne (different : other ≠ caller) :
    (state.read view caller update).pending other = state.pending other :=
  Function.update_of_ne different ..

@[simp] theorem content_rewrite : (state.rewrite caller content).content = content := rfl

@[simp] theorem pending_rewrite_self : (state.rewrite caller content).pending caller = none :=
  Function.update_self ..

@[simp] theorem pending_rewrite_of_ne (different : other ≠ caller) :
    (state.rewrite caller content).pending other = state.pending other :=
  Function.update_of_ne different ..

end Calls
end Rewriting

/-- A caller reads when it is not pending, and its rewrite makes its update visible. -/
def rewriteMachine (view : Content → Snapshot) (write : Update → Snapshot → Content) :
    Machine (Rewriting Update Snapshot Content) (RewriteAction Update) Update where
  step state
    | .read caller update =>
      match state.pending caller with
      | some _ => none
      | none => some (state.read view caller update, [])
    | .rewrite caller =>
      match state.pending caller with
      | none => none
      | some (update, snapshot) => some (state.rewrite caller (write update snapshot), [update])

abbrev RewriteStep (Update Snapshot Content : Type) :=
  Occurrence (Rewriting Update Snapshot Content) (RewriteAction Update) Update

/-! ### Versions -/

/-- A version is the list of the updates that it has in it. -/
abbrev Versions (Update : Type) := Rewriting Update (List Update) (List Update)

def Versions.take (versions : Versions Update) : RewriteAction Update → Versions Update
  | .read caller update => versions.read id caller update
  | .rewrite caller =>
    match versions.pending caller with
    | none => versions
    | some (update, version) => versions.rewrite caller (version ++ [update])

def versionsOf (actions : List (RewriteAction Update)) : Versions Update :=
  actions.foldl Versions.take (.fresh [])

/-- The updates that the content has in it behind these actions. -/
def builtOn (actions : List (RewriteAction Update)) : List Update := (versionsOf actions).content

theorem versionsOf_snoc (actions : List (RewriteAction Update)) (action : RewriteAction Update) :
    versionsOf (actions ++ [action]) = (versionsOf actions).take action := by
  simp [versionsOf]

/-- The updates of the calls that have read. -/
def begun (actions : List (RewriteAction Update)) : List Update :=
  actions.filterMap fun
    | .read _ update => some update
    | .rewrite _ => none

@[simp] theorem begun_snoc_read (actions : List (RewriteAction Update)) (caller : Nat)
    (update : Update) : begun (actions ++ [.read caller update]) = begun actions ++ [update] := by
  simp [begun]

@[simp] theorem begun_snoc_rewrite (actions : List (RewriteAction Update)) (caller : Nat) :
    begun (actions ++ [.rewrite caller]) = begun actions := by
  simp [begun]

/-- The versions have no other updates in them than these. -/
structure MadeOf (updates : List Update) (versions : Versions Update) : Prop where
  content : ∀ update ∈ versions.content, update ∈ updates
  pending : ∀ caller update version, versions.pending caller = some (update, version) →
    ∀ each ∈ version ++ [update], each ∈ updates

theorem madeOf_versionsOf (actions : List (RewriteAction Update)) :
    MadeOf (begun actions) (versionsOf actions) := by
  induction actions using List.reverseRecOn with
  | nil =>
      constructor
      · intro update member
        exact absurd member List.not_mem_nil
      · intro caller update version pending
        cases pending
  | append_singleton actions action ih =>
      rw [versionsOf_snoc]
      cases action with
      | read caller update =>
          rw [begun_snoc_read]
          refine ⟨fun each member => List.mem_append_left _ (ih.content each member), ?_⟩
          intro other own version pending each member
          by_cases same : other = caller
          · subst same
            rw [Versions.take, Rewriting.pending_read_self] at pending
            obtain ⟨rfl, rfl⟩ := Prod.mk.inj (Option.some.inj pending)
            rcases List.mem_append.mp member with read | last
            · exact List.mem_append_left _ (ih.content each read)
            · exact List.mem_append_right _ last
          · rw [Versions.take, Rewriting.pending_read_of_ne id _ _ same] at pending
            exact List.mem_append_left _ (ih.pending other own version pending each member)
      | rewrite caller =>
          rw [begun_snoc_rewrite]
          cases held : (versionsOf actions).pending caller with
          | none =>
              simp only [Versions.take, held]
              exact ih
          | some called =>
              simp only [Versions.take, held]
              refine ⟨ih.pending caller _ _ held, ?_⟩
              intro other own version pending
              by_cases same : other = caller
              · subst same
                rw [Rewriting.pending_rewrite_self] at pending
                cases pending
              · rw [Rewriting.pending_rewrite_of_ne _ _ same] at pending
                exact ih.pending other own version pending

theorem begun_of_mem_builtOn {actions : List (RewriteAction Update)} {update : Update}
    (member : update ∈ builtOn actions) : update ∈ begun actions :=
  (madeOf_versionsOf actions).content update member

section Contents

variable (view : Content → Snapshot) (write : Update → Snapshot → Content) (initial : Content)

/-- The content of a version. -/
def contentOf (version : List Update) : Content :=
  version.foldl (fun content update => write update (view content)) initial

theorem contentOf_snoc (version : List Update) (update : Update) :
    contentOf view write initial (version ++ [update]) =
      write update (view (contentOf view write initial version)) := by
  simp [contentOf]

/-- The state that holds the contents of these versions. -/
def stateOf (versions : Versions Update) : Rewriting Update Snapshot Content where
  content := contentOf view write initial versions.content
  pending caller := (versions.pending caller).map fun called =>
    (called.1, view (contentOf view write initial called.2))

variable {view write initial}

/-- A step goes from the state of the versions to that of the next versions. -/
theorem stateOf_take {versions : Versions Update} {action : RewriteAction Update}
    {after : Rewriting Update Snapshot Content} {effects : List Update}
    (taken : (rewriteMachine view write).step (stateOf view write initial versions) action =
      some (after, effects)) :
    after = stateOf view write initial (versions.take action) := by
  cases action with
  | read caller update =>
      have unread : versions.pending caller = none := by
        cases pending : versions.pending caller with
        | none => rfl
        | some called => simp [rewriteMachine, stateOf, pending] at taken
      simp only [rewriteMachine, stateOf, unread, Option.map_none] at taken
      obtain ⟨rfl, -⟩ := Prod.mk.inj (Option.some.inj taken)
      simp only [Rewriting.read, stateOf, Versions.take, id, Rewriting.mk.injEq, true_and]
      funext other
      by_cases same : other = caller
      · subst same
        simp
      · simp [same]
  | rewrite caller =>
      cases pending : versions.pending caller with
      | none => simp [rewriteMachine, stateOf, pending] at taken
      | some called =>
          simp only [rewriteMachine, stateOf, pending, Option.map_some] at taken
          obtain ⟨rfl, -⟩ := Prod.mk.inj (Option.some.inj taken)
          simp only [Rewriting.rewrite, stateOf, Versions.take, pending, contentOf_snoc,
            Rewriting.mk.injEq, true_and]
          funext other
          by_cases same : other = caller
          · subst same
            simp
          · simp [same]

/-- Every run carries its versions along. -/
theorem state_of_run {trace : List (RewriteStep Update Snapshot Content)}
    {state : Rewriting Update Snapshot Content}
    (run : (rewriteMachine view write).Run (.fresh initial) trace state) :
    state = stateOf view write initial (versionsOf (Machine.actionsOf trace)) := by
  induction run with
  | nil => rfl
  | @snoc trace before action after effects prior taken ih =>
      rw [Machine.actionsOf_append, Machine.actionsOf_singleton, versionsOf_snoc]
      subst ih
      exact stateOf_take taken

/-- A call that has read has rewritten, or it is pending. -/
theorem rewritten_or_pending {trace : List (RewriteStep Update Snapshot Content)}
    {start state : Rewriting Update Snapshot Content}
    (run : (rewriteMachine view write).Run start trace state) {update : Update}
    (member : update ∈ begun (Machine.actionsOf trace)) :
    update ∈ Machine.effectsOf trace ∨
      ∃ caller snapshot, state.pending caller = some (update, snapshot) := by
  induction run with
  | nil => exact absurd member List.not_mem_nil
  | @snoc trace before action after effects prior taken ih =>
      rw [Machine.actionsOf_append, Machine.actionsOf_singleton] at member
      have split : Machine.effectsOf (trace ++ [⟨before, action, effects, after⟩]) =
          Machine.effectsOf trace ++ effects := Machine.effectsOf_snoc _ _
      rw [split, List.mem_append]
      cases action with
      | read caller read =>
          rw [begun_snoc_read] at member
          simp only [rewriteMachine] at taken
          split at taken
          · cases taken
          next unread =>
            obtain ⟨rfl, rfl⟩ := Prod.mk.inj (Option.some.inj taken)
            rcases List.mem_append.mp member with earlier | last
            · rcases ih earlier with done | ⟨other, snapshot, pending⟩
              · exact .inl (.inl done)
              · refine .inr ⟨other, snapshot, ?_⟩
                have different : other ≠ caller := by
                  rintro rfl
                  rw [unread] at pending
                  cases pending
                rw [Rewriting.pending_read_of_ne view _ _ different]
                exact pending
            · obtain rfl := List.mem_singleton.mp last
              exact .inr ⟨caller, _, Rewriting.pending_read_self view before update⟩
      | rewrite caller =>
          rw [begun_snoc_rewrite] at member
          simp only [rewriteMachine] at taken
          split at taken
          · cases taken
          next own snapshot held =>
            obtain ⟨rfl, rfl⟩ := Prod.mk.inj (Option.some.inj taken)
            rcases ih member with done | ⟨other, read, pending⟩
            · exact .inl (.inl done)
            · by_cases same : other = caller
              · subst same
                rw [held] at pending
                obtain ⟨rfl, rfl⟩ := Prod.mk.inj (Option.some.inj pending)
                exact .inl (.inr (List.mem_singleton_self _))
              · refine .inr ⟨other, read, ?_⟩
                rw [Rewriting.pending_rewrite_of_ne _ _ same]
                exact pending

end Contents

/-! ### Updates by key -/

section Keys

variable [DecidableEq Key] (key : Update → Key)

/-- The updates on a key. -/
def onKey (chosen : Key) (update : Update) : Option Update :=
  if key update = chosen then some update else none

theorem onKey_eq_some {chosen : Key} {update found : Update}
    (picked : onKey key chosen update = some found) : key found = chosen := by
  unfold onKey at picked
  split_ifs at picked with same
  obtain rfl := Option.some.inj picked
  exact same

/-- The last update on the key. -/
def lastOn (chosen : Key) (updates : List Update) : Option Update :=
  lastOf (onKey key chosen) updates

theorem key_of_lastOn {chosen : Key} {updates : List Update} {last : Update}
    (found : lastOn key chosen updates = some last) : key last = chosen := by
  obtain ⟨each, -, picked⟩ := List.mem_filterMap.mp (List.mem_of_getLast? found)
  exact onKey_eq_some key picked

/-- There is a last one of the updates on a key. -/
theorem lastOn_of_mem {update : Update} {updates : List Update} (member : update ∈ updates) :
    ∃ last, lastOn key (key update) updates = some last := by
  have picked : update ∈ updates.filterMap (onKey key (key update)) :=
    List.mem_filterMap.mpr ⟨update, member, by simp [onKey]⟩
  exact ⟨_, List.getLast?_eq_some_getLast (List.ne_nil_of_mem picked)⟩

theorem lastOn_snoc_same (updates : List Update) (update : Update) :
    lastOn key (key update) (updates ++ [update]) = some update := by
  simp [lastOn, lastOf_snoc, onKey]

theorem lastOn_snoc_other {chosen : Key} {update : Update} (other : key update ≠ chosen)
    (updates : List Update) :
    lastOn key chosen (updates ++ [update]) = lastOn key chosen updates := by
  simp [lastOn, lastOf_snoc, onKey, other]

/-- The caller has read, and no update on another key than its own has been rewritten since. -/
def Undisturbed (own : Key) (caller : Nat)
    (trace : List (RewriteStep Update Snapshot Content)) : Prop :=
  Since (fun occurrence => ∃ update, occurrence.action = .read caller update)
    (fun occurrence => ∃ update ∈ occurrence.effects, key update ≠ own) trace

/-- Every rewrite of the trace is undisturbed. -/
def Serial (trace : List (RewriteStep Update Snapshot Content)) : Prop :=
  ∀ earlier occurrence later, trace = earlier ++ occurrence :: later →
    ∀ caller, occurrence.action = .rewrite caller →
      ∀ update ∈ occurrence.effects, Undisturbed key (key update) caller earlier

variable {key}

omit [DecidableEq Key] in
theorem Serial.of_snoc {trace : List (RewriteStep Update Snapshot Content)}
    {last : RewriteStep Update Snapshot Content} (serial : Serial key (trace ++ [last])) :
    Serial key trace := by
  rintro earlier occurrence later rfl
  exact serial earlier occurrence (later ++ [last]) (by simp)

/-- The versions follow the rewrites key by key: the content has in it the last update on each
key, and so does what an undisturbed caller has read, its own key apart. -/
structure Follows (key : Update → Key) (trace : List (RewriteStep Update Snapshot Content))
    (versions : Versions Update) : Prop where
  content : ∀ chosen, lastOn key chosen versions.content =
    lastOn key chosen (Machine.effectsOf trace)
  pending : ∀ caller update version, versions.pending caller = some (update, version) →
    Undisturbed key (key update) caller trace → ∀ chosen, chosen ≠ key update →
      lastOn key chosen version = lastOn key chosen versions.content

theorem Follows.read {trace : List (RewriteStep Update Snapshot Content)}
    {versions : Versions Update} (follows : Follows key trace versions)
    {before after : Rewriting Update Snapshot Content} (caller : Nat) (update : Update) :
    Follows key (trace ++ [⟨before, .read caller update, [], after⟩])
      (versions.read id caller update) := by
  constructor
  · intro chosen
    simpa [Machine.effectsOf] using follows.content chosen
  · intro other own version pending undisturbed chosen foreign
    by_cases same : other = caller
    · subst same
      rw [Rewriting.pending_read_self] at pending
      obtain ⟨rfl, rfl⟩ := Prod.mk.inj (Option.some.inj pending)
      rfl
    · rw [Rewriting.pending_read_of_ne id _ _ same] at pending
      refine follows.pending other own version pending ?_ chosen foreign
      rcases since_snoc.mp undisturbed with ⟨_, reads⟩ | ⟨since, -⟩
      · exact absurd (RewriteAction.read.inj reads).1.symm same
      · exact since

theorem Follows.rewrite {trace : List (RewriteStep Update Snapshot Content)}
    {versions : Versions Update} (follows : Follows key trace versions)
    {before after : Rewriting Update Snapshot Content} {caller : Nat} {update : Update}
    {version : List Update} (pending : versions.pending caller = some (update, version))
    (undisturbed : Undisturbed key (key update) caller trace) :
    Follows key (trace ++ [⟨before, .rewrite caller, [update], after⟩])
      (versions.rewrite caller (version ++ [update])) := by
  have agree := follows.pending caller update version pending undisturbed
  constructor
  · intro chosen
    have effects : Machine.effectsOf (trace ++ [⟨before, .rewrite caller, [update], after⟩]) =
        Machine.effectsOf trace ++ [update] := Machine.effectsOf_snoc _ _
    rw [effects]
    by_cases same : key update = chosen
    · subst same
      rw [Rewriting.content_rewrite, lastOn_snoc_same, lastOn_snoc_same]
    · rw [Rewriting.content_rewrite, lastOn_snoc_other key same, lastOn_snoc_other key same,
        agree chosen (Ne.symm same), follows.content]
  · intro other own read held still chosen foreign
    by_cases same : other = caller
    · subst same
      rw [Rewriting.pending_rewrite_self] at held
      cases held
    · rw [Rewriting.pending_rewrite_of_ne _ _ same] at held
      rcases since_snoc.mp still with ⟨_, reads⟩ | ⟨since, keeps⟩
      · cases reads
      · have ownKey : key update = key own := by
          by_contra differs
          exact keeps ⟨update, List.mem_singleton_self _, differs⟩
        have before := follows.pending other own read held since chosen foreign
        rw [ownKey] at agree
        have elsewhere : key update ≠ chosen := ownKey ▸ Ne.symm foreign
        rw [Rewriting.content_rewrite, lastOn_snoc_other key elsewhere, agree chosen foreign,
          before]

/-- Without a rewrite of another key between the steps of a call, the content has in it the
last update on each key. -/
theorem lastOn_builtOn {view : Content → Snapshot} {write : Update → Snapshot → Content}
    {initial : Content} {trace : List (RewriteStep Update Snapshot Content)}
    {state : Rewriting Update Snapshot Content}
    (run : (rewriteMachine view write).Run (.fresh initial) trace state)
    (serial : Serial key trace) (chosen : Key) :
    lastOn key chosen (builtOn (Machine.actionsOf trace)) =
      lastOn key chosen (Machine.effectsOf trace) := by
  suffices follows : Follows key trace (versionsOf (Machine.actionsOf trace)) from
    follows.content chosen
  induction run with
  | nil => exact ⟨fun _ => rfl, fun _ _ _ pending => nomatch pending⟩
  | @snoc trace before action after effects prior taken ih =>
      have follows := ih serial.of_snoc
      obtain rfl := state_of_run prior
      have last := serial trace _ [] rfl
      rw [Machine.actionsOf_append, Machine.actionsOf_singleton, versionsOf_snoc]
      cases action with
      | read caller update =>
          obtain rfl : effects = [] := by
            simp only [rewriteMachine] at taken
            split at taken
            · cases taken
            · exact (Prod.mk.inj (Option.some.inj taken)).2.symm
          exact follows.read caller update
      | rewrite caller =>
          cases pending : (versionsOf (Machine.actionsOf trace)).pending caller with
          | none => simp [rewriteMachine, stateOf, pending] at taken
          | some called =>
              simp only [rewriteMachine, stateOf, pending, Option.map_some] at taken
              obtain ⟨-, rfl⟩ := Prod.mk.inj (Option.some.inj taken)
              simp only [Versions.take, pending]
              exact follows.rewrite pending (last caller rfl _ (List.mem_singleton_self _))

end Keys
end DeviceSettings.Std
