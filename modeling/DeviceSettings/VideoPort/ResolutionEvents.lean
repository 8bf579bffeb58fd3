import DeviceSettings.Std.Bracket
import DeviceSettings.VideoPort.ChangeAnnouncements

/-!
# Resolution changes as clients see them

`DeviceSettingsVideoPortImpl` delivers the pre-change event on the thread of the call, and hands
the post-change event to the worker pool as a job. The next call does not wait for the job.
-/

namespace DeviceSettings.VideoPort

open DeviceSettings.Std

section Model

variable {Client : Type} [DecidableEq Client]

/-- The thread of `SetVideoPortResolution`. -/
inductive SetterPhase (Client : Type) where
  | idle
  /-- In the loop of `dispatchVideoPortEvent`, with the clients it has not called yet. -/
  | preChanging (change : ResolutionChange) (remaining : List Client)

/-- A `VideoPortNotificationJob`: submitted, or in the loop of `Dispatch`. -/
structure PostTask (Client : Type) where
  params : ResolutionChange
  remaining : Option (List Client)

/-- The registered clients, the caller and the jobs in the order of their submission. -/
structure EventState (Client : Type) where
  videoPortNotifications : List Client
  setter : SetterPhase Client
  tasks : List (PostTask Client)

/-- `SetVideoPortResolution` with a resolution that the HAL is then set to, the steps of its
thread, the steps of the workers, which take jobs in any order, and `Register` and `Unregister`. -/
inductive EventAction (Client : Type) where
  | setVideoPortResolution (pixelResolution : PixelResolution)
  | preChange
  | postChange
  | startTask (index : Nat)
  | dispatch (index : Nat)
  | register (client : Client)
  | unregister (client : Client)

/-- A client is called with an event. -/
structure Delivery (Client : Type) where
  client : Client
  note : Bracket ResolutionChange

namespace EventState

/-- A section under `_callbackLock` and each call of a client are a step. `dsSetResolution` has no
step of its own: it shows nothing to clients. -/
def step (state : EventState Client) :
    EventAction Client → Option (EventState Client × List (Delivery Client))
  | .setVideoPortResolution pixelResolution =>
    match state.setter with
    | .idle =>
      let change := resolutionChange pixelResolution
      some ({ state with setter := .preChanging change state.videoPortNotifications }, [])
    | _ => none
  | .preChange =>
    match state.setter with
    | .preChanging change (client :: rest) =>
      some ({ state with setter := .preChanging change rest }, [⟨client, .opening change⟩])
    | _ => none
  | .postChange =>
    match state.setter with
    | .preChanging change [] =>
      some ({ state with setter := .idle, tasks := state.tasks ++ [⟨change, none⟩] }, [])
    | _ => none
  | .startTask index =>
    match state.tasks[index]? with
    | some ⟨params, none⟩ =>
      some ({ state with
        tasks := state.tasks.set index ⟨params, some state.videoPortNotifications⟩ }, [])
    | _ => none
  | .dispatch index =>
    match state.tasks[index]? with
    | some ⟨params, some (client :: rest)⟩ =>
      some ({ state with tasks := state.tasks.set index ⟨params, some rest⟩ },
        [⟨client, .closing params⟩])
    | _ => none
  | .register client =>
    if client ∈ state.videoPortNotifications then some (state, [])
    else
      some ({ state with videoPortNotifications := state.videoPortNotifications ++ [client] }, [])
  | .unregister client =>
    some ({ state with
      videoPortNotifications := state.videoPortNotifications.erase client }, [])

/-- No call and no job is under way. -/
def quiet (clients : List Client) : EventState Client := ⟨clients, .idle, []⟩

end EventState

/-- The setter's thread and the worker pool. -/
def resolutionEvents (Client : Type) [DecidableEq Client] :
    Machine (EventState Client) (EventAction Client) (Delivery Client) where
  step := EventState.step

abbrev EventStep (Client : Type) :=
  Occurrence (EventState Client) (EventAction Client) (Delivery Client)

/-- The notes among the deliveries that are the client's. -/
def seen (client : Client) (deliveries : List (Delivery Client)) :
    List (Bracket ResolutionChange) :=
  deliveries.filterMap fun delivery =>
    if delivery.client = client then some delivery.note else none

/-- What a client has seen in a trace, oldest first. -/
def observed (client : Client) (trace : List (EventStep Client)) :
    List (Bracket ResolutionChange) :=
  seen client (Machine.effectsOf trace)

/-- The client is registered at the start and never taken off. -/
structure RegisteredThroughout (client : Client) (start : EventState Client)
    (trace : List (EventStep Client)) : Prop where
  registered : client ∈ start.videoPortNotifications
  kept : ∀ occurrence ∈ trace, occurrence.action ≠ .unregister client

/-- The job has not called the client yet, or not made its list. -/
def PostTask.Owes (client : Client) (task : PostTask Client) : Prop :=
  ∀ remaining, task.remaining = some remaining → client ∈ remaining

/-- When a pre-change event gets to the client, all jobs submitted before have called it. -/
def PreFindsNoneOwed (client : Client) (occurrence : EventStep Client) : Prop :=
  ∀ change, (⟨client, .opening change⟩ : Delivery Client) ∈ occurrence.effects →
    ∀ task ∈ occurrence.before.tasks, ¬task.Owes client

instance (client : Client) (task : PostTask Client) : Decidable (task.Owes client) :=
  match task with
  | ⟨_, none⟩ => isTrue nofun
  | ⟨_, some remaining⟩ =>
    decidable_of_iff (client ∈ remaining) (by simp [PostTask.Owes])

end Model

/-! ### What is owed to a client -/

section Owed

variable {Client : Type} [DecidableEq Client] {client : Client}

/-- The change of which the setter has told the client, and not submitted the job yet. -/
def SetterPhase.owed (client : Client) : SetterPhase Client → List ResolutionChange
  | .idle => []
  | .preChanging change remaining => if client ∈ remaining then [] else [change]

/-- The changes whose post-change event is still to come. -/
def EventState.owed (client : Client) (state : EventState Client) : List ResolutionChange :=
  (state.tasks.filter fun task => task.Owes client).map PostTask.params ++
    state.setter.owed client

/-- The lists that the loops go through. -/
structure EventState.Distinct (state : EventState Client) : Prop where
  notifications : state.videoPortNotifications.Nodup
  setter : ∀ change remaining, state.setter = .preChanging change remaining → remaining.Nodup
  tasks : ∀ task ∈ state.tasks, ∀ remaining, task.remaining = some remaining → remaining.Nodup

/-- The element at an index, and what `set` does to the list. -/
theorem set_split {α : Type} {items : List α} {index : Nat} {item : α}
    (found : items[index]? = some item) :
    ∃ before behind, items = before ++ item :: behind ∧
      ∀ other, items.set index other = before ++ other :: behind := by
  obtain ⟨inside, rfl⟩ := List.getElem?_eq_some_iff.mp found
  refine ⟨items.take index, items.drop (index + 1), by simp, fun other => ?_⟩
  rw [List.set_eq_take_append_cons_drop, if_pos inside]

/-- The tasks' part of what is owed does not change with a task that owes the same. -/
theorem owedTasks_set {tasks : List (PostTask Client)} {index : Nat} {task other : PostTask Client}
    (found : tasks[index]? = some task) (same : other.params = task.params)
    (owes : other.Owes client ↔ task.Owes client) :
    ((tasks.set index other).filter fun task => task.Owes client).map PostTask.params =
      (tasks.filter fun task => task.Owes client).map PostTask.params := by
  obtain ⟨before, behind, rfl, set⟩ := set_split found
  rw [set, List.filter_append, List.filter_append, List.map_append, List.map_append,
    List.filter_cons, List.filter_cons]
  by_cases owed : task.Owes client
  · simp [owed, owes.mpr owed, same]
  · simp [owed, mt owes.mp owed]

/-- What a step does to what the client has seen and is owed. -/
inductive OwedStep (client : Client) (before : EventState Client) :
    List (Bracket ResolutionChange) → EventState Client → Prop where
  | silent {after} (same : after.owed client = before.owed client) :
      OwedStep client before [] after
  | opens {after} (change : ResolutionChange)
      (owes : after.owed client = before.owed client ++ [change])
      (free : before.owed client = [] ↔ ∀ task ∈ before.tasks, ¬task.Owes client) :
      OwedStep client before [.opening change] after
  | closes {after} (change : ResolutionChange) (earlier later : List ResolutionChange)
      (was : before.owed client = earlier ++ change :: later)
      (owes : after.owed client = earlier ++ later) :
      OwedStep client before [.closing change] after

section Steps

variable {before after : EventState Client} {action : EventAction Client}
  {deliveries : List (Delivery Client)}

theorem owed_preChange {change : ResolutionChange} {called : Client} {rest : List Client}
    (distinct : before.Distinct) (phase : before.setter = .preChanging change (called :: rest)) :
    OwedStep client before (seen client [⟨called, .opening change⟩])
      { before with setter := .preChanging change rest } := by
  have nodup := List.nodup_cons.mp (distinct.setter _ _ phase)
  by_cases same : called = client
  · subst same
    have sees : seen called [(⟨called, .opening change⟩ : Delivery Client)] =
        [.opening change] := by
      simp [seen]
    rw [sees]
    refine .opens change ?_ ?_
    · simp [EventState.owed, phase, SetterPhase.owed, nodup.1]
    · simp [EventState.owed, phase, SetterPhase.owed]
  · have sees : seen client [(⟨called, .opening change⟩ : Delivery Client)] = [] := by
      simp [seen, same]
    rw [sees]
    refine .silent ?_
    simp [EventState.owed, phase, SetterPhase.owed, Ne.symm same]

theorem owed_startTask {index : Nat} {params : ResolutionChange}
    (registered : client ∈ before.videoPortNotifications)
    (found : before.tasks[index]? = some ⟨params, none⟩) :
    OwedStep client before [] { before with
      tasks := before.tasks.set index ⟨params, some before.videoPortNotifications⟩ } := by
  refine .silent (congrArg (· ++ before.setter.owed client) (owedTasks_set found rfl ?_))
  simp [PostTask.Owes, registered]

theorem owed_dispatch {index : Nat} {params : ResolutionChange} {called : Client}
    {rest : List Client} (distinct : before.Distinct)
    (found : before.tasks[index]? = some ⟨params, some (called :: rest)⟩) :
    OwedStep client before (seen client [⟨called, .closing params⟩])
      { before with tasks := before.tasks.set index ⟨params, some rest⟩ } := by
  have nodup := List.nodup_cons.mp
    (distinct.tasks _ (List.mem_of_getElem? found) _ rfl)
  by_cases same : called = client
  · subst same
    have sees : seen called [(⟨called, .closing params⟩ : Delivery Client)] =
        [.closing params] := by
      simp [seen]
    rw [sees]
    obtain ⟨earlier, later, split, set⟩ := set_split found
    refine .closes params ((earlier.filter fun task => task.Owes called).map PostTask.params)
      ((later.filter fun task => task.Owes called).map PostTask.params ++
        before.setter.owed called) ?_ ?_
    · rw [EventState.owed, split]
      simp [PostTask.Owes]
    · rw [EventState.owed, set]
      simp [PostTask.Owes, nodup.1]
  · have sees : seen client [(⟨called, .closing params⟩ : Delivery Client)] = [] := by
      simp [seen, same]
    rw [sees]
    refine .silent (congrArg (· ++ before.setter.owed client) (owedTasks_set found rfl ?_))
    simp [PostTask.Owes, Ne.symm same]

/-- What a step does for a registered client. -/
theorem owedStep_of_step (distinct : before.Distinct)
    (registered : client ∈ before.videoPortNotifications)
    (taken : (resolutionEvents Client).step before action = some (after, deliveries)) :
    OwedStep client before (seen client deliveries) after := by
  simp only [resolutionEvents, EventState.step] at taken
  cases action with
  | setVideoPortResolution pixelResolution =>
      dsimp only at taken
      split at taken <;> cases taken
      next phase =>
        refine .silent ?_
        simp [EventState.owed, phase, SetterPhase.owed, registered]
  | preChange =>
      dsimp only at taken
      split at taken <;> cases taken
      next phase => exact owed_preChange distinct phase
  | postChange =>
      dsimp only at taken
      split at taken <;> cases taken
      next change phase =>
        refine .silent ?_
        simp [EventState.owed, phase, SetterPhase.owed, PostTask.Owes]
  | startTask index =>
      dsimp only at taken
      split at taken <;> cases taken
      next found => exact owed_startTask registered found
  | dispatch index =>
      dsimp only at taken
      split at taken <;> cases taken
      next found => exact owed_dispatch distinct found
  | register other =>
      dsimp only at taken
      split_ifs at taken <;> cases taken <;> exact .silent rfl
  | unregister other =>
      cases taken
      exact .silent rfl

/-- The lists keep having each client once. -/
theorem distinct_step (distinct : before.Distinct)
    (taken : (resolutionEvents Client).step before action = some (after, deliveries)) :
    after.Distinct := by
  obtain ⟨notifications, setter, tasks⟩ := distinct
  have changed : ∀ {index : Nat} {task : PostTask Client},
      (∀ remaining, task.remaining = some remaining → remaining.Nodup) →
      ∀ other ∈ before.tasks.set index task,
        ∀ remaining, other.remaining = some remaining → remaining.Nodup := by
    intro index task nodup other member
    rcases List.mem_or_eq_of_mem_set member with old | rfl
    · exact tasks other old
    · exact nodup
  simp only [resolutionEvents, EventState.step] at taken
  cases action with
  | setVideoPortResolution pixelResolution =>
      dsimp only at taken
      split at taken <;> cases taken
      refine ⟨notifications, ?_, tasks⟩
      rintro change remaining same
      obtain ⟨-, rfl⟩ := SetterPhase.preChanging.inj same
      exact notifications
  | preChange =>
      dsimp only at taken
      split at taken <;> cases taken
      next phase =>
        refine ⟨notifications, ?_, tasks⟩
        rintro change remaining same
        obtain ⟨-, rfl⟩ := SetterPhase.preChanging.inj same
        exact (List.nodup_cons.mp (setter _ _ phase)).2
  | postChange =>
      dsimp only at taken
      split at taken <;> cases taken
      refine ⟨notifications, nofun, fun task member => ?_⟩
      rcases List.mem_append.mp member with old | new
      · exact tasks task old
      · rw [List.mem_singleton.mp new]
        exact nofun
  | startTask index =>
      dsimp only at taken
      split at taken <;> cases taken
      refine ⟨notifications, setter, changed ?_⟩
      rintro remaining same
      obtain rfl := Option.some.inj same
      exact notifications
  | dispatch index =>
      dsimp only at taken
      split at taken <;> cases taken
      next found =>
        refine ⟨notifications, setter, changed ?_⟩
        rintro remaining same
        obtain rfl := Option.some.inj same
        exact (List.nodup_cons.mp (tasks _ (List.mem_of_getElem? found) _ rfl)).2
  | register other =>
      dsimp only at taken
      split_ifs at taken with known <;> cases taken
      · exact ⟨notifications, setter, tasks⟩
      · refine ⟨?_, setter, tasks⟩
        refine List.nodup_append.mpr ⟨notifications, by simp, ?_⟩
        rintro called member item new rfl
        exact known (List.mem_singleton.mp new ▸ member)
  | unregister other =>
      cases taken
      exact ⟨notifications.erase other, setter, tasks⟩

/-- A client stays registered as long as it is not taken off. -/
theorem registered_step (registered : client ∈ before.videoPortNotifications)
    (kept : action ≠ .unregister client)
    (taken : (resolutionEvents Client).step before action = some (after, deliveries)) :
    client ∈ after.videoPortNotifications := by
  simp only [resolutionEvents, EventState.step] at taken
  cases action with
  | setVideoPortResolution | preChange | postChange | startTask | dispatch =>
      dsimp only at taken
      split at taken <;> cases taken
      exact registered
  | register other =>
      dsimp only at taken
      split_ifs at taken <;> cases taken
      · exact registered
      · exact List.mem_append_left _ registered
  | unregister other =>
      cases taken
      exact (List.mem_erase_of_ne fun same => kept (congrArg _ same.symm)).mpr registered

/-- Only a note that opens can find something owed. -/
theorem preFindsNoneOwed_of_seen
    (noOpening : ∀ change, .opening change ∉ seen client deliveries) :
    PreFindsNoneOwed client ⟨before, action, deliveries, after⟩ := by
  intro change member
  refine absurd (List.mem_filterMap.mpr ⟨_, member, ?_⟩) (noOpening change)
  rw [if_pos rfl]

theorem preFindsNoneOwed_iff {change : ResolutionChange}
    (sees : seen client deliveries = [.opening change]) :
    PreFindsNoneOwed client ⟨before, action, deliveries, after⟩ ↔
      ∀ task ∈ before.tasks, ¬task.Owes client := by
  constructor
  · intro meets
    have member : .opening change ∈ seen client deliveries := by simp [sees]
    obtain ⟨⟨called, note⟩, delivered, same⟩ := List.mem_filterMap.mp member
    split_ifs at same with own
    obtain rfl := Option.some.inj same
    obtain rfl := own
    exact meets change delivered
  · exact fun free _ _ => free

end Steps
end Owed

/-! ### Runs -/

section Runs

variable {Client : Type} [DecidableEq Client] {client : Client} {start state : EventState Client}
  {trace : List (EventStep Client)}

theorem observed_snoc (trace : List (EventStep Client)) (occurrence : EventStep Client) :
    observed client (trace ++ [occurrence]) =
      observed client trace ++ seen client occurrence.effects := by
  simp [observed, seen, Machine.effectsOf]

omit [DecidableEq Client] in
theorem RegisteredThroughout.earlier {more : List (EventStep Client)}
    (throughout : RegisteredThroughout client start (trace ++ more)) :
    RegisteredThroughout client start trace :=
  ⟨throughout.registered, fun occurrence member =>
    throughout.kept occurrence (List.mem_append_left _ member)⟩

theorem registered_run (run : (resolutionEvents Client).Run start trace state)
    (distinct : start.Distinct) (throughout : RegisteredThroughout client start trace) :
    state.Distinct ∧ client ∈ state.videoPortNotifications := by
  induction run with
  | nil => exact ⟨distinct, throughout.registered⟩
  | snoc _ taken ih =>
      obtain ⟨distinct, registered⟩ := ih throughout.earlier
      refine ⟨distinct_step distinct taken, registered_step registered ?_ taken⟩
      exact throughout.kept _ (List.mem_append_right _ List.mem_cons_self)

/-- What the client is owed is what it has seen opened, as long as the notes are in order; one
more note is in order exactly when it does not open while something is owed. -/
theorem order_step {before after : EventState Client} (occurrence : EventStep Client)
    {notes : List (Bracket ResolutionChange)} {opened : Option ResolutionChange}
    (scanned : Bracket.scan notes = some opened) (owed : before.owed client = opened.toList)
    (moved : OwedStep client before (seen client occurrence.effects) after)
    (here : occurrence.before = before) :
    (PreFindsNoneOwed client occurrence ∧
        ∃ opened, Bracket.scan (notes ++ seen client occurrence.effects) = some opened ∧
          after.owed client = opened.toList) ∨
      (¬PreFindsNoneOwed client occurrence ∧
        ¬Bracket.WellBracketed (notes ++ seen client occurrence.effects)) := by
  obtain ⟨_, action, deliveries, _⟩ := occurrence
  subst here
  dsimp only at moved ⊢
  generalize sees : seen client deliveries = noted at moved
  cases moved with
  | silent same =>
      refine .inl ⟨preFindsNoneOwed_of_seen (by simp [sees]), opened, ?_, same.trans owed⟩
      rwa [List.append_nil]
  | opens change owes free =>
      rw [preFindsNoneOwed_iff sees, ← free, owed, Option.toList_eq_nil_iff,
        Bracket.wellBracketed_snoc scanned]
      cases opened with
      | none =>
          refine .inl ⟨rfl, some change, ?_, ?_⟩
          · rw [Bracket.scan_snoc, scanned]
            rfl
          · rw [owes, owed]
            rfl
      | some other => exact .inr ⟨nofun, by simp [Bracket.next]⟩
  | closes change earlier later was owes =>
      -- What is owed is at most one change, so this is the one that is open.
      obtain ⟨rfl, rfl, rfl⟩ : earlier = [] ∧ opened = some change ∧ later = [] := by
        rw [owed] at was
        cases opened with
        | none => simp at was
        | some other =>
            obtain ⟨none, same, last⟩ : earlier = [] ∧ change = other ∧ later = [] := by
              simpa [List.singleton_eq_append_iff, and_assoc] using was
            exact ⟨none, congrArg _ same.symm, last⟩
      refine .inl ⟨preFindsNoneOwed_of_seen (by simp [sees]), none, ?_, owes⟩
      rw [Bracket.scan_snoc, scanned]
      simp [Bracket.next]

/-- Either all pre-change events have found nothing owed and what is open is owed, or the notes are
out of order. -/
theorem order_run (run : (resolutionEvents Client).Run start trace state)
    (distinct : start.Distinct) (nothing : start.owed client = [])
    (throughout : RegisteredThroughout client start trace) :
    ((∀ occurrence ∈ trace, PreFindsNoneOwed client occurrence) ∧
        ∃ opened, Bracket.scan (observed client trace) = some opened ∧
          state.owed client = opened.toList) ∨
      ((¬∀ occurrence ∈ trace, PreFindsNoneOwed client occurrence) ∧
        ¬Bracket.WellBracketed (observed client trace)) := by
  induction run with
  | nil => exact .inl ⟨by simp, none, rfl, nothing⟩
  | @snoc trace before action after effects prior taken ih =>
      rw [observed_snoc]
      rcases ih throughout.earlier with ⟨meets, opened, scanned, owed⟩ | ⟨fails, outOfOrder⟩
      · obtain ⟨distinct, registered⟩ := registered_run prior distinct throughout.earlier
        have moved := owedStep_of_step distinct registered taken
        rcases order_step ⟨before, action, effects, after⟩ scanned owed moved rfl with
          ⟨finds, more⟩ | ⟨finds, outOfOrder⟩
        · refine .inl ⟨fun occurrence member => ?_, more⟩
          rcases List.mem_append.mp member with old | new
          · exact meets occurrence old
          · rw [List.mem_singleton.mp new]
            exact finds
        · refine .inr ⟨fun all => finds (all _ ?_), outOfOrder⟩
          exact List.mem_append_right _ List.mem_cons_self
      · refine .inr ⟨fun all => fails fun occurrence member => ?_,
          Bracket.not_wellBracketed_append outOfOrder _⟩
        exact all occurrence (List.mem_append_left _ member)

/-- A client that is registered throughout sees the events well-bracketed exactly when every
pre-change event finds all jobs submitted before done with the client. -/
theorem wellBracketed_observed_iff {clients : List Client} (distinct : clients.Nodup)
    (run : (resolutionEvents Client).Run (.quiet clients) trace state)
    (throughout : RegisteredThroughout client (.quiet clients) trace) :
    Bracket.WellBracketed (observed client trace) ↔
      ∀ occurrence ∈ trace, PreFindsNoneOwed client occurrence := by
  have lists : EventState.Distinct (.quiet clients) := ⟨distinct, nofun, nofun⟩
  rcases order_run run lists rfl throughout with ⟨meets, opened, scanned, -⟩ | ⟨fails, outOfOrder⟩
  · exact iff_of_true (Bracket.wellBracketed_iff.mpr ⟨opened, scanned⟩) meets
  · exact iff_of_false outOfOrder fails

end Runs

/-- A change to 720p whose job runs before the change to 1080p begins. -/
def jobBetween : List (EventAction Nat) :=
  [.setVideoPortResolution .p1280x720, .preChange, .postChange, .startTask 0, .dispatch 0,
    .setVideoPortResolution .p1920x1080, .preChange, .postChange]

theorem wellBracketed_observed_iff_jobBetween :
    ∃ (trace : List (EventStep Nat)) (state : EventState Nat),
      Machine.actionsOf trace = jobBetween ∧
      (resolutionEvents Nat).Run (.quiet [7]) trace state ∧
      (Bracket.WellBracketed (observed 7 trace) ↔
        ∀ occurrence ∈ trace, PreFindsNoneOwed 7 occurrence) := by
  have played : (resolutionEvents Nat).play (.quiet [7]) jobBetween = some (_, _) := rfl
  have run := Machine.play_run played
  have actions := Machine.actionsOf_played played
  refine ⟨_, _, actions, run, wellBracketed_observed_iff (by decide) run ⟨by decide, ?_⟩⟩
  intro occurrence member unregisters
  have unregistered : EventAction.unregister 7 ∈ jobBetween := by
    rw [← actions, ← unregisters]
    exact List.mem_map_of_mem member
  simp [jobBetween] at unregistered

/-- The change to 1080p comes before the job of the change to 720p. -/
def jobBehind : List (EventAction Nat) :=
  [.setVideoPortResolution .p1280x720, .preChange, .postChange,
    .setVideoPortResolution .p1920x1080, .preChange, .postChange, .startTask 0, .dispatch 0,
    .startTask 1, .dispatch 1]

/-- The client is told of two changes before it hears that the first is done. -/
theorem preChange_twice : ∃ (trace : List (EventStep Nat)) (state : EventState Nat),
    (resolutionEvents Nat).Run (.quiet [7]) trace state ∧
      Machine.actionsOf trace = jobBehind ∧
      observed 7 trace = [.opening ⟨1280, 720⟩, .opening ⟨1920, 1080⟩, .closing ⟨1280, 720⟩,
        .closing ⟨1920, 1080⟩] ∧
      ¬Bracket.WellBracketed (observed 7 trace) := by
  have played : (resolutionEvents Nat).play (.quiet [7]) jobBehind = some (_, _) := rfl
  refine ⟨_, _, Machine.play_run played, rfl, rfl, ?_⟩
  rw [Bracket.wellBracketed_iff]
  rintro ⟨opened, scanned⟩
  exact nomatch scanned

end DeviceSettings.VideoPort
