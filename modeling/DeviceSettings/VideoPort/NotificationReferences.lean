import DeviceSettings.Std.RefCount
import DeviceSettings.VideoPort.Notifications

/-!
# What is held on the clients

The list, the loops and the destructor of `DeviceSettingsVideoPortImpl` hold the references that
it has taken and not given back, and each loop calls its clients once. A loop and the destructor
need a number of steps that is known when they begin, whatever is taken in between.
-/

namespace DeviceSettings.VideoPort

open DeviceSettings.Std

/-! ### What the component holds -/

section References

variable {Client : Type}

def NotificationEffect.reference : NotificationEffect Client → Option (RefEvent Client)
  | .addRef client => some (.addRef client)
  | .release _ client => some (.release client)
  | _ => none

/-- Where the references are held: the list, the loops and the destructor. -/
def NotificationState.holders (state : NotificationState Client) : List Client :=
  clientsOf state.videoPortNotifications ++
    state.loops.flatMap (fun loop => clientsOf loop.unreleased) ++
    clientsOf (state.destructor.getD [])

/-- The copy of the list takes a reference on each client. -/
theorem reference_map_addRef (clients : List Client) :
    (clients.map NotificationEffect.addRef).filterMap NotificationEffect.reference =
      clients.map .addRef := by
  rw [List.filterMap_map, ← List.filterMap_eq_map]
  rfl

variable [DecidableEq Client]

/-- The references on a client that the component has taken and not released. -/
def heldOn (client : Client) (trace : List (NotificationStep Client)) : Int :=
  RefEvent.balance client
    ((Machine.effectsOf trace).filterMap NotificationEffect.reference)

/-- A loop that goes on changes its own part of what is held. -/
theorem count_loops_set {loops : List (NotificationLoop Client)} {index : Nat}
    {loop : NotificationLoop Client} (found : loops[index]? = some loop)
    (other : NotificationLoop Client) (client : Client) :
    ((loops.set index other).flatMap fun loop => clientsOf loop.unreleased).count client +
        (clientsOf loop.unreleased).count client =
      (loops.flatMap fun loop => clientsOf loop.unreleased).count client +
        (clientsOf other.unreleased).count client := by
  obtain ⟨earlier, later, rfl, set⟩ := set_split found
  rw [set]
  simp only [List.flatMap_append, List.flatMap_cons, List.count_append]
  omega

theorem count_release (releaser : Releaser) (released client : Client) (items : List Client) :
    ((released :: items).count client : Int) + RefEvent.balance client
        ([NotificationEffect.release releaser released].filterMap
          NotificationEffect.reference) = items.count client := by
  simp only [NotificationEffect.reference, List.filterMap_cons, List.filterMap_nil,
    RefEvent.balance_cons, RefEvent.balance_nil, RefEvent.change, List.count_cons, beq_iff_eq]
  split_ifs <;> omega

/-- Every step changes what is held by the references that it takes and gives back. -/
theorem holders_of_move {before after : NotificationState Client}
    {action : NotificationAction Client} {effects : List (NotificationEffect Client)}
    (move : NotificationMove before action effects after) (client : Client) :
    (after.holders.count client : Int) = before.holders.count client +
      RefEvent.balance client (effects.filterMap NotificationEffect.reference) := by
  unfold NotificationState.holders
  cases move with
  | registered clientName other unlisted =>
      simp only [clientsOf_append, clientsOf_cons, clientsOf_nil, List.count_append,
        NotificationEffect.reference, List.filterMap_cons, List.filterMap_nil,
        RefEvent.balance_cons, RefEvent.balance_nil, RefEvent.change, List.count_cons,
        List.count_nil, beq_iff_eq]
      split_ifs <;> omega
  | unregistered other listed =>
      have taken := count_release .unregister other client
        ((clientsOf before.videoPortNotifications).erase other)
      rw [← (List.perm_cons_erase listed).count_eq] at taken
      simp only [clientsOf_eraseP, List.count_append]
      simp only [NotificationEffect.reference, List.filterMap_cons, List.filterMap_nil] at taken ⊢
      omega
  | refused action outside => simp [NotificationEffect.reference, List.filterMap_cons]
  | submitted resolution => simp
  | begun action outside notification jobs =>
      rw [reference_map_addRef, RefEvent.balance_map_addRef]
      simp only [List.flatMap_append, List.flatMap_singleton, List.count_append]
      omega
  | called index notification notifications rest entry found =>
      have same := count_loops_set found ⟨notification, notifications, entry :: rest, true⟩ client
      simp only [List.count_append, NotificationEffect.reference, List.filterMap_cons,
        List.filterMap_nil, RefEvent.balance_nil]
      dsimp only at same
      omega
  | released index notification notifications rest entry found =>
      have less := count_loops_set found ⟨notification, notifications, rest, false⟩ client
      have taken := count_release (.loop index) entry.2 client (clientsOf rest)
      dsimp only [clientsOf_cons] at less
      simp only [List.count_append]
      omega
  | takenOver alive =>
      simp only [alive, Option.getD_none, Option.getD_some, clientsOf_nil, List.count_append,
        List.count_nil, List.filterMap_nil, RefEvent.balance_nil]
      omega
  | destructed rest entry found =>
      have taken := count_release .destructor entry.2 client (clientsOf rest)
      simp only [found, Option.getD_some, clientsOf_cons, List.count_append]
      omega

end References

/-! ### No client twice -/

section Distinct

variable {Client : Type}

/-- The lists that the component has, and those that its loops have copied. -/
structure NotificationState.Distinct (state : NotificationState Client) : Prop where
  notifications : (clientsOf state.videoPortNotifications).Nodup
  loops : ∀ loop ∈ state.loops, (clientsOf loop.notifications).Nodup
  destructor : (clientsOf (state.destructor.getD [])).Nodup

/-- A loop that goes on keeps its copy of the list. -/
theorem nodup_loops_set {loops : List (NotificationLoop Client)} {index : Nat}
    {loop other : NotificationLoop Client} (found : loops[index]? = some loop)
    (distinct : ∀ loop ∈ loops, (clientsOf loop.notifications).Nodup)
    (copied : other.notifications = loop.notifications) :
    ∀ loop ∈ loops.set index other, (clientsOf loop.notifications).Nodup := by
  intro which member
  rcases List.mem_or_eq_of_mem_set member with old | rfl
  · exact distinct which old
  · rw [copied]
    exact distinct loop (List.mem_of_getElem? found)

theorem distinct_of_move [DecidableEq Client] {before after : NotificationState Client}
    {action : NotificationAction Client} {effects : List (NotificationEffect Client)}
    (distinct : before.Distinct) (move : NotificationMove before action effects after) :
    after.Distinct := by
  obtain ⟨notifications, loops, destructor⟩ := distinct
  cases move with
  | registered clientName other unlisted =>
      refine ⟨?_, loops, destructor⟩
      rw [clientsOf_append, List.nodup_append]
      refine ⟨notifications, by simp, fun client listed added new same => ?_⟩
      rw [clientsOf_cons, clientsOf_nil, List.mem_singleton] at new
      subst same
      rw [new] at listed
      exact unlisted listed
  | unregistered other listed =>
      refine ⟨?_, loops, destructor⟩
      rw [clientsOf_eraseP]
      exact notifications.erase other
  | refused action outside => exact ⟨notifications, loops, destructor⟩
  | submitted resolution => exact ⟨notifications, loops, destructor⟩
  | begun action outside notification jobs =>
      refine ⟨notifications, fun loop member => ?_, destructor⟩
      rcases List.mem_append.mp member with old | new
      · exact loops loop old
      · rw [List.mem_singleton.mp new]
        exact notifications
  | called index notification copy rest entry found =>
      exact ⟨notifications, nodup_loops_set found loops rfl, destructor⟩
  | released index notification copy rest entry found =>
      exact ⟨notifications, nodup_loops_set found loops rfl, destructor⟩
  | takenOver alive => exact ⟨List.nodup_nil, loops, notifications⟩
  | destructed rest entry found =>
      rw [found] at destructor
      exact ⟨notifications, loops, (List.nodup_cons.mp destructor).2⟩

end Distinct

/-! ### What the loops and the destructor have done -/

section Done

variable {Client : Type}

/-- The clients that a loop has called, in order. -/
def callsOf (index : Nat) (effects : List (NotificationEffect Client)) : List Client :=
  effects.filterMap fun
    | .callback loop _ client => if loop = index then some client else none
    | _ => none

/-- The clients that were released there, in order. -/
def releasesOf (releaser : Releaser) (effects : List (NotificationEffect Client)) : List Client :=
  effects.filterMap fun
    | .release other client => if other = releaser then some client else none
    | _ => none

/-- What a loop has called and released is its copy of the list up to where it is. -/
structure LoopDone (index : Nat) (loop : NotificationLoop Client)
    (effects : List (NotificationEffect Client)) : Prop where
  called : callsOf index effects ++ clientsOf loop.uncalled = clientsOf loop.notifications
  released :
    releasesOf (.loop index) effects ++ clientsOf loop.unreleased = clientsOf loop.notifications

/-- Every loop up to where it is; loops that have not begun have done nothing. -/
structure LoopsDone (effects : List (NotificationEffect Client))
    (state : NotificationState Client) : Prop where
  begun : ∀ index loop, state.loops[index]? = some loop → LoopDone index loop effects
  unbegun : ∀ index, state.loops[index]? = none →
    callsOf index effects = [] ∧ releasesOf (.loop index) effects = []

@[simp] theorem callsOf_append (index : Nat) (earlier later : List (NotificationEffect Client)) :
    callsOf index (earlier ++ later) = callsOf index earlier ++ callsOf index later :=
  List.filterMap_append

@[simp] theorem releasesOf_append (releaser : Releaser)
    (earlier later : List (NotificationEffect Client)) :
    releasesOf releaser (earlier ++ later) =
      releasesOf releaser earlier ++ releasesOf releaser later :=
  List.filterMap_append

theorem callsOf_map_addRef (index : Nat) (clients : List Client) :
    callsOf index (clients.map .addRef) = [] := by
  rw [callsOf, List.filterMap_map]
  exact List.filterMap_eq_nil_iff.mpr fun _ _ => rfl

theorem releasesOf_map_addRef (releaser : Releaser) (clients : List Client) :
    releasesOf releaser (clients.map .addRef) = [] := by
  rw [releasesOf, List.filterMap_map]
  exact List.filterMap_eq_nil_iff.mpr fun _ _ => rfl

/-- The effects are not of this loop. -/
def QuietFor (index : Nat) (effects : List (NotificationEffect Client)) : Prop :=
  callsOf index effects = [] ∧ releasesOf (.loop index) effects = []

theorem LoopDone.quiet {index : Nat} {loop : NotificationLoop Client}
    {effects more : List (NotificationEffect Client)} (done : LoopDone index loop effects)
    (quiet : QuietFor index more) : LoopDone index loop (effects ++ more) := by
  constructor
  · rw [callsOf_append, quiet.1, List.append_nil]
    exact done.called
  · rw [releasesOf_append, quiet.2, List.append_nil]
    exact done.released

/-- A step that is not of a loop. -/
theorem LoopsDone.quiet {before after : NotificationState Client}
    {effects more : List (NotificationEffect Client)} (done : LoopsDone effects before)
    (same : after.loops = before.loops) (quiet : ∀ index, QuietFor index more) :
    LoopsDone (effects ++ more) after := by
  constructor
  · intro index loop found
    rw [same] at found
    exact (done.begun index loop found).quiet (quiet index)
  · intro index none
    rw [same] at none
    obtain ⟨calls, releases⟩ := done.unbegun index none
    rw [callsOf_append, releasesOf_append, calls, releases, (quiet index).1, (quiet index).2]
    exact ⟨rfl, rfl⟩

/-- A step of one loop. -/
theorem LoopsDone.set {before after : NotificationState Client}
    {effects more : List (NotificationEffect Client)} (done : LoopsDone effects before)
    {index : Nat} {loop other : NotificationLoop Client}
    (found : before.loops[index]? = some loop) (set : after.loops = before.loops.set index other)
    (here : LoopDone index loop effects → LoopDone index other (effects ++ more))
    (quiet : ∀ elsewhere, elsewhere ≠ index → QuietFor elsewhere more) :
    LoopsDone (effects ++ more) after := by
  obtain ⟨inside, -⟩ := List.getElem?_eq_some_iff.mp found
  constructor
  · intro which reached there
    rw [set, List.getElem?_set] at there
    by_cases same : index = which
    · subst same
      rw [if_pos rfl, if_pos inside] at there
      obtain rfl := Option.some.inj there
      exact here (done.begun index loop found)
    · rw [if_neg same] at there
      exact (done.begun which reached there).quiet (quiet which (Ne.symm same))
  · intro which none
    have beyond : before.loops.length ≤ which := by
      simpa [set] using none
    have apart : which ≠ index := by omega
    obtain ⟨calls, releases⟩ := done.unbegun which (List.getElem?_eq_none beyond)
    rw [callsOf_append, releasesOf_append, calls, releases, (quiet which apart).1,
      (quiet which apart).2]
    exact ⟨rfl, rfl⟩

/-- A loop begins with nothing done. -/
theorem LoopsDone.begin {before after : NotificationState Client}
    {effects more : List (NotificationEffect Client)} (done : LoopsDone effects before)
    (notification : VideoPortNotification) (copy : List (Registration Client))
    (begun : after.loops = before.loops ++ [⟨notification, copy, copy, false⟩])
    (quiet : ∀ index, QuietFor index more) : LoopsDone (effects ++ more) after := by
  constructor
  · intro index loop found
    rw [begun, List.getElem?_append] at found
    split_ifs at found with inside
    · exact (done.begun index loop found).quiet (quiet index)
    · have unbegun : before.loops[index]? = none := List.getElem?_eq_none (by omega)
      obtain rfl := List.mem_singleton.mp (List.mem_of_getElem? found)
      obtain ⟨calls, releases⟩ := done.unbegun index unbegun
      refine LoopDone.quiet ⟨?_, ?_⟩ (quiet index)
      · rw [calls]
        rfl
      · rw [releases]
        rfl
  · intro index none
    rw [begun, List.getElem?_eq_none_iff, List.length_append] at none
    obtain ⟨calls, releases⟩ := done.unbegun index (List.getElem?_eq_none (by omega))
    rw [callsOf_append, releasesOf_append, calls, releases, (quiet index).1, (quiet index).2]
    exact ⟨rfl, rfl⟩

/-- The steps that a loop has taken are its calls and its releases. -/
theorem loopSteps_of_move [DecidableEq Client] {before after : NotificationState Client}
    {action : NotificationAction Client} {effects : List (NotificationEffect Client)}
    (move : NotificationMove before action effects after) (index : Nat) :
    (callsOf index effects).length + (releasesOf (.loop index) effects).length =
      if action = .loop index then 1 else 0 := by
  cases move with
  | registered | unregistered | submitted | takenOver => rfl
  | refused action outside => exact (if_neg (outside.ne_loop index)).symm
  | begun action outside notification jobs =>
      rw [callsOf_map_addRef, releasesOf_map_addRef, if_neg (outside.ne_loop index)]
      rfl
  | called which notification notifications rest entry found =>
      simp only [callsOf, releasesOf, List.filterMap_cons, List.filterMap_nil,
        NotificationAction.loop.injEq]
      split_ifs <;> rfl
  | released which notification notifications rest entry found =>
      simp only [callsOf, releasesOf, List.filterMap_cons, List.filterMap_nil,
        NotificationAction.loop.injEq, Releaser.loop.injEq]
      split_ifs <;> rfl
  | destructed rest entry found => simp [callsOf, releasesOf]

/-- And those of the destructor its releases. -/
theorem destructorSteps_of_move [DecidableEq Client] {before after : NotificationState Client}
    {action : NotificationAction Client} {effects : List (NotificationEffect Client)}
    (move : NotificationMove before action effects after) :
    (releasesOf .destructor effects).length = if action = .destructor then 1 else 0 := by
  cases move with
  | registered | unregistered | submitted | called | takenOver | destructed => rfl
  | refused action outside => exact (if_neg outside.ne_destructor).symm
  | begun action outside notification jobs =>
      rw [releasesOf_map_addRef, if_neg outside.ne_destructor]
      rfl
  | released which notification notifications rest entry found => simp [releasesOf]

theorem loopsDone_of_move [DecidableEq Client] {before after : NotificationState Client}
    {action : NotificationAction Client} {effects more : List (NotificationEffect Client)}
    (done : LoopsDone effects before) (move : NotificationMove before action more after) :
    LoopsDone (effects ++ more) after := by
  cases move with
  | registered clientName client unlisted => exact done.quiet rfl fun _ => ⟨rfl, rfl⟩
  | unregistered client listed => exact done.quiet rfl fun _ => ⟨rfl, rfl⟩
  | refused action outside => exact done.quiet rfl fun _ => ⟨rfl, rfl⟩
  | submitted resolution => exact done.quiet rfl fun _ => ⟨rfl, rfl⟩
  | begun action outside notification jobs =>
      exact done.begin notification _ rfl fun index =>
        ⟨callsOf_map_addRef index _, releasesOf_map_addRef _ _⟩
  | called index notification notifications rest entry found =>
      refine done.set found rfl (fun here => ⟨?_, ?_⟩) fun elsewhere apart => ⟨?_, rfl⟩
      · have called := here.called
        simp only [NotificationLoop.uncalled] at called ⊢
        simpa [callsOf] using called
      · have released := here.released
        simpa [releasesOf] using released
      · simp [callsOf, Ne.symm apart]
  | released index notification notifications rest entry found =>
      refine done.set found rfl (fun here => ⟨?_, ?_⟩) fun elsewhere apart => ⟨rfl, ?_⟩
      · have called := here.called
        simp only [NotificationLoop.uncalled] at called ⊢
        simpa [callsOf] using called
      · have released := here.released
        simpa [releasesOf] using released
      · simp [releasesOf, Ne.symm apart]
  | takenOver alive => exact done.quiet rfl fun _ => ⟨rfl, rfl⟩
  | destructed rest entry found => exact done.quiet rfl fun _ => ⟨rfl, by simp [releasesOf]⟩

/-- What the destructor has released is the list that it took over, up to where it is. -/
structure DestructorDone (trace : List (NotificationStep Client))
    (state : NotificationState Client) : Prop where
  alive : state.destructor = none →
    releasesOf .destructor (Machine.effectsOf trace) = [] ∧
      ∀ occurrence ∈ trace, occurrence.action ≠ .destroy
  begun : ∀ unreleased, state.destructor = some unreleased →
    ∀ occurrence ∈ trace, occurrence.action = .destroy →
      releasesOf .destructor (Machine.effectsOf trace) ++ clientsOf unreleased =
        clientsOf occurrence.before.videoPortNotifications

/-- A step that is not of the destructor. -/
theorem DestructorDone.quiet {trace : List (NotificationStep Client)}
    {before after : NotificationState Client} {action : NotificationAction Client}
    {effects : List (NotificationEffect Client)} (done : DestructorDone trace before)
    (same : after.destructor = before.destructor) (stays : action ≠ .destroy)
    (quiet : releasesOf .destructor effects = []) :
    DestructorDone (trace ++ [⟨before, action, effects, after⟩]) after := by
  constructor
  · intro alive
    obtain ⟨nothing, never⟩ := done.alive (same.symm.trans alive)
    rw [Machine.effectsOf_snoc, releasesOf_append, nothing, quiet]
    refine ⟨rfl, fun occurrence member => ?_⟩
    rcases List.mem_append.mp member with old | new
    · exact never occurrence old
    · rw [List.mem_singleton.mp new]
      exact stays
  · intro unreleased found occurrence member destroys
    rcases List.mem_append.mp member with old | new
    · rw [Machine.effectsOf_snoc, releasesOf_append, quiet, List.append_nil]
      exact done.begun unreleased (same.symm.trans found) occurrence old destroys
    · rw [List.mem_singleton.mp new] at destroys
      exact absurd destroys stays

theorem destructorDone_of_move [DecidableEq Client] {trace : List (NotificationStep Client)}
    {before after : NotificationState Client} {action : NotificationAction Client}
    {effects : List (NotificationEffect Client)} (done : DestructorDone trace before)
    (move : NotificationMove before action effects after) :
    DestructorDone (trace ++ [⟨before, action, effects, after⟩]) after := by
  cases move with
  | registered | unregistered | submitted | called => exact done.quiet rfl (by simp) rfl
  | refused action outside => exact done.quiet rfl outside.ne_destroy rfl
  | begun action outside notification jobs =>
      exact done.quiet rfl outside.ne_destroy (releasesOf_map_addRef _ _)
  | released index notification notifications rest entry found =>
      exact done.quiet rfl (by simp) (by simp [releasesOf])
  | takenOver alive =>
      obtain ⟨nothing, never⟩ := done.alive alive
      refine ⟨fun none => absurd none (by simp), ?_⟩
      intro unreleased found occurrence member destroys
      rcases List.mem_append.mp member with old | new
      · exact absurd destroys (never occurrence old)
      · obtain rfl := Option.some.inj found
        rw [List.mem_singleton.mp new, Machine.effectsOf_snoc, releasesOf_append, nothing]
        rfl
  | destructed rest entry found =>
      refine ⟨fun none => absurd none (by simp), ?_⟩
      intro unreleased next occurrence member destroys
      rcases List.mem_append.mp member with old | new
      · obtain rfl := Option.some.inj next
        rw [← done.begun _ found occurrence old destroys, Machine.effectsOf_snoc, releasesOf_append]
        simp [releasesOf]
      · rw [List.mem_singleton.mp new] at destroys
        cases destroys

end Done

/-! ### Going on -/

section Progress

variable {Client : Type} [DecidableEq Client]

/-- The loop's next step calls its first client that it has not called, or releases the first that
it has not released. -/
def NotificationState.LoopAdvances (state : NotificationState Client) (index : Nat)
    (loop : NotificationLoop Client) : Prop :=
  ∃ after next effect,
    (notificationMachine Client).step state (.loop index) = some (after, [effect]) ∧
      after.loops[index]? = some next ∧ next.notifications = loop.notifications ∧
      next.remaining + 1 = loop.remaining ∧
      if loop.called then
        ∃ client ∈ (clientsOf loop.unreleased).head?, effect = .release (.loop index) client
      else
        ∃ client ∈ (clientsOf loop.uncalled).head?,
          effect = .callback index loop.notification client

/-- The destructor's next step releases the first client that it has not released. -/
def NotificationState.DestructorAdvances (state : NotificationState Client)
    (unreleased : List (Registration Client)) : Prop :=
  ∃ after, ∃ client ∈ (clientsOf unreleased).head?,
    (notificationMachine Client).step state .destructor =
        some (after, [.release .destructor client]) ∧
      after.destructor = some unreleased.tail

omit [DecidableEq Client] in
theorem NotificationLoop.remaining_eq_zero_iff {loop : NotificationLoop Client} :
    loop.remaining = 0 ↔ loop.unreleased = [] := by
  unfold NotificationLoop.remaining NotificationLoop.uncalled
  rw [Nat.add_eq_zero_iff, List.length_eq_zero_iff, List.length_eq_zero_iff]
  refine and_iff_right_of_imp fun none => ?_
  rw [none]
  split_ifs <;> rfl

/-- A loop that has not released all its clients has a next step. -/
theorem loop_advances {state : NotificationState Client} {index : Nat}
    {loop : NotificationLoop Client} (found : state.loops[index]? = some loop)
    (more : loop.unreleased ≠ []) : state.LoopAdvances index loop := by
  obtain ⟨notification, notifications, unreleased, called⟩ := loop
  obtain ⟨entry, rest, rfl⟩ := List.exists_cons_of_ne_nil more
  obtain ⟨inside, -⟩ := List.getElem?_eq_some_iff.mp found
  unfold NotificationState.LoopAdvances
  simp only [notificationMachine, NotificationState.step, NotificationState.loopStep, found]
  cases called
  · refine ⟨_, ⟨notification, notifications, entry :: rest, true⟩, _, rfl,
      List.getElem?_set_self inside, rfl, ?_, entry.2, rfl, rfl⟩
    simp only [NotificationLoop.remaining, NotificationLoop.uncalled, if_true, List.tail_cons,
      List.length_cons, Bool.false_eq_true, if_false]
    omega
  · refine ⟨_, ⟨notification, notifications, rest, false⟩, _, rfl,
      List.getElem?_set_self inside, rfl, ?_, entry.2, rfl, rfl⟩
    simp only [NotificationLoop.remaining, NotificationLoop.uncalled, if_true, List.tail_cons,
      List.length_cons, Bool.false_eq_true, if_false]
    omega

/-- A loop stays what it is of. -/
theorem loop_of_move {before after : NotificationState Client}
    {action : NotificationAction Client} {effects : List (NotificationEffect Client)}
    (move : NotificationMove before action effects after) {index : Nat}
    {loop : NotificationLoop Client} (found : before.loops[index]? = some loop) :
    ∃ next, after.loops[index]? = some next ∧ next.notification = loop.notification ∧
      next.notifications = loop.notifications := by
  cases move with
  | registered | unregistered | refused | submitted | takenOver | destructed =>
      exact ⟨loop, found, rfl, rfl⟩
  | begun action outside notification jobs =>
      obtain ⟨inside, -⟩ := List.getElem?_eq_some_iff.mp found
      exact ⟨loop, (List.getElem?_append_left inside).trans found, rfl, rfl⟩
  | called which notification notifications rest entry there
  | released which notification notifications rest entry there =>
      by_cases same : which = index
      · subst same
        obtain ⟨inside, -⟩ := List.getElem?_eq_some_iff.mp found
        obtain rfl := Option.some.inj (there.symm.trans found)
        exact ⟨_, List.getElem?_set_self inside, rfl, rfl⟩
      · exact ⟨loop, (List.getElem?_set_ne same).trans found, rfl, rfl⟩

theorem destructor_advances {state : NotificationState Client}
    {unreleased : List (Registration Client)} (found : state.destructor = some unreleased)
    (more : unreleased ≠ []) : state.DestructorAdvances unreleased := by
  obtain ⟨entry, rest, rfl⟩ := List.exists_cons_of_ne_nil more
  unfold NotificationState.DestructorAdvances
  simp only [notificationMachine, NotificationState.step, found]
  exact ⟨_, entry.2, rfl, rfl, rfl⟩

/-- A loop that is stepped alone comes to its end. -/
theorem loop_ends {state : NotificationState Client} {index : Nat}
    {loop : NotificationLoop Client} (found : state.loops[index]? = some loop) :
    ∃ rest final ended, (notificationMachine Client).Run state rest final ∧
      Machine.actionsOf rest = List.replicate loop.remaining (.loop index) ∧
      final.loops[index]? = some ended ∧ ended.notifications = loop.notifications ∧
      ended.remaining = 0 := by
  let measure := fun state : NotificationState Client =>
    (state.loops[index]?.map NotificationLoop.remaining).getD 0
  have measured : ∀ {state loop}, state.loops[index]? = some loop →
      measure state = loop.remaining := fun found => by
    simp only [measure, found, Option.map_some, Option.getD_some]
  obtain ⟨rest, final, run, actions, ⟨ended, there, copied⟩, done⟩ :=
    (notificationMachine Client).exists_run_replicate
      (fun state => ∃ reached, state.loops[index]? = some reached ∧
        reached.notifications = loop.notifications)
      measure
      (fun state ⟨reached, there, copied⟩ more => by
        rw [measured there] at more ⊢
        obtain ⟨after, next, effect, taken, behind, same, lowers, -⟩ :=
          loop_advances there (mt NotificationLoop.remaining_eq_zero_iff.mpr more)
        exact ⟨after, [effect], taken, ⟨next, behind, same.trans copied⟩,
          by rw [measured behind, lowers]⟩)
      ⟨loop, found, rfl⟩
  rw [measured found] at actions
  exact ⟨rest, final, ended, run, actions, there, copied, measured there ▸ done⟩

/-- And so does the destructor. -/
theorem destructor_ends {state : NotificationState Client}
    {unreleased : List (Registration Client)} (found : state.destructor = some unreleased) :
    ∃ rest final, (notificationMachine Client).Run state rest final ∧
      Machine.actionsOf rest = List.replicate unreleased.length .destructor ∧
      final.destructor = some [] := by
  let measure := fun state : NotificationState Client => (state.destructor.getD []).length
  have measured : ∀ {state unreleased}, state.destructor = some unreleased →
      measure state = unreleased.length := fun found => by
    simp only [measure, found, Option.getD_some]
  obtain ⟨rest, final, run, actions, ⟨left, there⟩, done⟩ :=
    (notificationMachine Client).exists_run_replicate
      (fun state => ∃ left, state.destructor = some left) measure
      (fun state ⟨left, there⟩ more => by
        rw [measured there] at more ⊢
        obtain ⟨after, client, -, taken, behind⟩ :=
          destructor_advances there fun none => more (none ▸ rfl)
        refine ⟨after, _, taken, ⟨_, behind⟩, ?_⟩
        rw [measured behind, List.length_tail]
        omega)
      ⟨unreleased, found⟩
  rw [measured found] at actions
  rw [measured there, List.length_eq_zero_iff] at done
  exact ⟨rest, final, run, actions, done ▸ there⟩

end Progress

/-! ### Runs -/

section Runs

variable {Client : Type} [DecidableEq Client]

/-- What the component has done and holds, in any state that it reaches, and what its loops and its
destructor still do. -/
structure NotificationsBalanced (trace : List (NotificationStep Client))
    (state : NotificationState Client) : Prop where
  distinct : (clientsOf state.videoPortNotifications).Nodup
  references : ∀ client, heldOn client trace =
    (if client ∈ clientsOf state.videoPortNotifications then 1 else 0) +
      state.loops.countP (fun loop => client ∈ clientsOf loop.unreleased) +
      (if client ∈ clientsOf (state.destructor.getD []) then 1 else 0)
  once : ∀ index loop, state.loops[index]? = some loop →
    (clientsOf loop.notifications).Nodup ∧ LoopDone index loop (Machine.effectsOf trace)
  /-- A dispatch has its loop, with the list as it was. -/
  dispatches : ∀ occurrence ∈ trace, ∀ notification,
    occurrence.before.dispatched occurrence.action = some notification →
      ∃ loop, state.loops[occurrence.before.loops.length]? = some loop ∧
        loop.notification = notification ∧
        loop.notifications = occurrence.before.videoPortNotifications
  goesOn : ∀ index loop, state.loops[index]? = some loop → loop.unreleased ≠ [] →
    state.LoopAdvances index loop
  /-- Whatever was taken in between, a loop ends with two steps for each client of its copy. -/
  steps : ∀ index loop, state.loops[index]? = some loop →
    (Machine.actionsOf trace).count (.loop index) + loop.remaining =
      2 * loop.notifications.length
  ended : ∀ index loop, state.loops[index]? = some loop → loop.remaining = 0 →
    callsOf index (Machine.effectsOf trace) = clientsOf loop.notifications ∧
      releasesOf (.loop index) (Machine.effectsOf trace) = clientsOf loop.notifications
  ends : ∀ index loop, state.loops[index]? = some loop →
    ∃ rest final, (notificationMachine Client).Run state rest final ∧
      Machine.actionsOf rest = List.replicate loop.remaining (.loop index) ∧
      callsOf index (Machine.effectsOf (trace ++ rest)) = clientsOf loop.notifications ∧
      releasesOf (.loop index) (Machine.effectsOf (trace ++ rest)) = clientsOf loop.notifications
  referenced : ∀ earlier occurrence later, trace = earlier ++ occurrence :: later →
    ∀ index notification client, .callback index notification client ∈ occurrence.effects →
      0 < heldOn client earlier
  destroys : ∀ occurrence ∈ trace, occurrence.action = .destroy →
    ∃ unreleased, state.destructor = some unreleased ∧
      releasesOf .destructor (Machine.effectsOf trace) ++ clientsOf unreleased =
        clientsOf occurrence.before.videoPortNotifications ∧
      (Machine.actionsOf trace).count .destructor + unreleased.length =
        occurrence.before.videoPortNotifications.length
  destructorGoesOn : ∀ unreleased, state.destructor = some unreleased → unreleased ≠ [] →
    state.DestructorAdvances unreleased
  destructorEnds : ∀ occurrence ∈ trace, occurrence.action = .destroy →
    ∃ rest final, (notificationMachine Client).Run state rest final ∧
      (∀ action ∈ Machine.actionsOf rest, action = .destructor) ∧
      releasesOf .destructor (Machine.effectsOf (trace ++ rest)) =
        clientsOf occurrence.before.videoPortNotifications

variable {trace : List (NotificationStep Client)} {state : NotificationState Client}
  (run : (notificationMachine Client).Run .initial trace state)

include run in
theorem distinct_run : state.Distinct :=
  run.invariant ⟨List.nodup_nil, by simp [NotificationState.initial], List.nodup_nil⟩
    fun _ _ _ _ distinct taken => distinct_of_move distinct (move_of_step taken)

include run in
theorem loopsDone_run : LoopsDone (Machine.effectsOf trace) state := by
  induction run with
  | nil =>
      refine ⟨fun index loop found => ?_, fun _ _ => ⟨rfl, rfl⟩⟩
      simp [NotificationState.initial] at found
  | snoc _ taken ih =>
      rw [Machine.effectsOf_snoc]
      exact loopsDone_of_move ih (move_of_step taken)

include run in
theorem destructorDone_run : DestructorDone trace state :=
  run.history ⟨fun _ => ⟨rfl, by simp⟩, fun _ found => absurd found (by
    simp [NotificationState.initial])⟩
    fun _ _ _ _ _ done taken => destructorDone_of_move done (move_of_step taken)

include run in
/-- What is held on a client is what the list, the loops and the destructor hold. -/
theorem heldOn_run (client : Client) : heldOn client trace = state.holders.count client :=
  run.balance_eq_count NotificationEffect.reference NotificationState.holders rfl
    (fun _ _ _ _ taken => holders_of_move (move_of_step taken)) client

/-- Loops that have no client twice hold it once each. -/
theorem count_loops {loops : List (NotificationLoop Client)}
    (distinct : ∀ loop ∈ loops, (clientsOf loop.unreleased).Nodup) (client : Client) :
    (loops.flatMap fun loop => clientsOf loop.unreleased).count client =
      loops.countP fun loop => client ∈ clientsOf loop.unreleased := by
  induction loops with
  | nil => rfl
  | cons loop loops ih =>
      rw [List.flatMap_cons, List.count_append, List.countP_cons,
        ih fun other member => distinct other (List.mem_cons_of_mem _ member),
        (distinct loop List.mem_cons_self).count, add_comm]
      by_cases holds : client ∈ clientsOf loop.unreleased <;> simp [holds]

/-- A client is called by a loop that holds it. -/
theorem mem_holders_of_callback {before after : NotificationState Client}
    {action : NotificationAction Client} {effects : List (NotificationEffect Client)}
    (move : NotificationMove before action effects after) {index : Nat}
    {notification : VideoPortNotification} {client : Client}
    (calls : .callback index notification client ∈ effects) : client ∈ before.holders := by
  cases move with
  | called _ _ notifications rest entry found =>
      obtain ⟨rfl, rfl, rfl⟩ := by simpa using calls
      refine List.mem_append_left _ (List.mem_append_right _ (List.mem_flatMap.mpr ?_))
      exact ⟨_, List.mem_of_getElem? found, List.mem_cons_self⟩
  | registered | unregistered | refused | submitted | begun | released | takenOver | destructed =>
      simp at calls

include run in
/-- The loops hold each client once. -/
theorem nodup_unreleased_run : ∀ loop ∈ state.loops, (clientsOf loop.unreleased).Nodup := by
  intro loop member
  obtain ⟨index, found⟩ := List.mem_iff_getElem?.mp member
  have copied := (distinct_run run).loops loop member
  rw [← ((loopsDone_run run).begun index loop found).released] at copied
  exact (List.nodup_append.mp copied).2.1

include run in
/-- A loop has taken two steps for each client of its copy, as far as it has come. -/
theorem steps_run {index : Nat} {loop : NotificationLoop Client}
    (found : state.loops[index]? = some loop) :
    (Machine.actionsOf trace).count (.loop index) + loop.remaining =
      2 * loop.notifications.length := by
  have taken : (Machine.actionsOf trace).count (.loop index) =
      (callsOf index (Machine.effectsOf trace)).length +
        (releasesOf (.loop index) (Machine.effectsOf trace)).length :=
    run.count_actionsOf rfl
      (fun earlier later => by
        rw [callsOf_append, releasesOf_append, List.length_append, List.length_append]
        omega)
      fun _ _ _ _ taken => loopSteps_of_move (move_of_step taken) index
  have done := (loopsDone_run run).begun index loop found
  have called := congrArg List.length done.called
  have released := congrArg List.length done.released
  simp only [List.length_append, clientsOf, List.length_map] at called released
  rw [taken, NotificationLoop.remaining]
  omega

include run in
theorem destructorSteps_run : (Machine.actionsOf trace).count .destructor =
    (releasesOf .destructor (Machine.effectsOf trace)).length :=
  run.count_actionsOf rfl
    (fun earlier later => by rw [releasesOf_append, List.length_append])
    fun _ _ _ _ taken => destructorSteps_of_move (move_of_step taken)

include run in
/-- A loop that has come to its end has called each client of its copy, and released it. -/
theorem ended_run {index : Nat} {loop : NotificationLoop Client}
    (found : state.loops[index]? = some loop) (ended : loop.remaining = 0) :
    callsOf index (Machine.effectsOf trace) = clientsOf loop.notifications ∧
      releasesOf (.loop index) (Machine.effectsOf trace) = clientsOf loop.notifications := by
  have done := (loopsDone_run run).begun index loop found
  have called := done.called
  have released := done.released
  rw [NotificationLoop.remaining, Nat.add_eq_zero_iff, List.length_eq_zero_iff,
    List.length_eq_zero_iff] at ended
  rw [ended.1, clientsOf_nil, List.append_nil] at called
  rw [ended.2, clientsOf_nil, List.append_nil] at released
  exact ⟨called, released⟩

/-- A loop stays over any run. -/
theorem loop_run {start : NotificationState Client}
    (run : (notificationMachine Client).Run start trace state) {index : Nat}
    {loop : NotificationLoop Client} (found : start.loops[index]? = some loop) :
    ∃ next, state.loops[index]? = some next ∧ next.notification = loop.notification ∧
      next.notifications = loop.notifications := by
  induction run with
  | nil => exact ⟨loop, found, rfl, rfl⟩
  | snoc _ taken ih =>
      obtain ⟨reached, there, same, copied⟩ := ih
      obtain ⟨next, behind, same', copied'⟩ := loop_of_move (move_of_step taken) there
      exact ⟨next, behind, same'.trans same, copied'.trans copied⟩

include run in
/-- Behind its beginning the destructor has released the clients of the list, up to where it is. -/
theorem destroyed_run {occurrence : NotificationStep Client} (member : occurrence ∈ trace)
    (destroys : occurrence.action = .destroy) :
    ∃ unreleased, state.destructor = some unreleased ∧
      releasesOf .destructor (Machine.effectsOf trace) ++ clientsOf unreleased =
        clientsOf occurrence.before.videoPortNotifications := by
  have done := destructorDone_run run
  cases unreleased : state.destructor with
  | none => exact absurd destroys ((done.alive unreleased).2 occurrence member)
  | some list => exact ⟨list, rfl, done.begun list unreleased occurrence member destroys⟩

include run in
/-- Any number of clients, events and jobs, in any interleaving. -/
theorem notifications_balanced : NotificationsBalanced trace state where
  distinct := (distinct_run run).notifications
  references client := by
    rw [heldOn_run run, NotificationState.holders, List.count_append, List.count_append,
      (distinct_run run).notifications.count, count_loops (nodup_unreleased_run run),
      (distinct_run run).destructor.count]
    push_cast
    rfl
  once index loop found :=
    ⟨(distinct_run run).loops loop (List.mem_of_getElem? found),
      (loopsDone_run run).begun index loop found⟩
  dispatches occurrence member notification dispatched := by
    obtain ⟨earlier, later, rfl⟩ := List.append_of_mem member
    have begun := loops_of_dispatched run.at_occurrence.2 dispatched
    have there : occurrence.after.loops[occurrence.before.loops.length]? =
        some ⟨notification, occurrence.before.videoPortNotifications,
          occurrence.before.videoPortNotifications, false⟩ := by
      rw [begun, List.getElem?_append_right le_rfl, Nat.sub_self]
      rfl
    exact loop_run run.behind_occurrence there
  goesOn _ _ found more := loop_advances found more
  steps _ _ found := steps_run run found
  ended _ _ found ended := ended_run run found ended
  ends index loop found := by
    obtain ⟨rest, final, ended, going, actions, there, copied, done⟩ := loop_ends found
    refine ⟨rest, final, going, actions, ?_⟩
    rw [← copied]
    exact ended_run (run.trans going) there done
  referenced earlier occurrence later split index notification client calls := by
    subst split
    obtain ⟨prior, taken⟩ := run.at_occurrence
    rw [heldOn_run prior]
    exact Int.natCast_pos.mpr
      (List.count_pos_iff.mpr (mem_holders_of_callback (move_of_step taken) calls))
  destroys occurrence member destroys := by
    obtain ⟨unreleased, there, done⟩ := destroyed_run run member destroys
    refine ⟨unreleased, there, done, ?_⟩
    have counted := congrArg List.length done
    simp only [List.length_append, clientsOf, List.length_map] at counted
    rw [destructorSteps_run run, counted]
  destructorGoesOn _ found more := destructor_advances found more
  destructorEnds occurrence member destroys := by
    obtain ⟨unreleased, there, -⟩ := destroyed_run run member destroys
    obtain ⟨rest, final, going, actions, done⟩ := destructor_ends there
    refine ⟨rest, final, going, fun action taken => ?_, ?_⟩
    · rw [actions] at taken
      exact List.eq_of_mem_replicate taken
    · obtain ⟨left, found, released⟩ :=
        destroyed_run (run.trans going) (List.mem_append_left _ member) destroys
      obtain rfl : [] = left := Option.some.inj (done.symm.trans found)
      rwa [clientsOf_nil, List.append_nil] at released

end Runs

/-- A client that is taken off while a loop calls it, one that is registered twice, a job, and the
destructor. -/
def comingAndGoing : List (NotificationAction Nat) :=
  [.register "first" 7, .register "second" 8, .register "again" 7,
    .halEvent (.onHDCPStatusChange 2), .loop 0, .unregister 7, .unregister 7,
    .halEvent (.onResolutionPostChange ⟨1280, 720⟩), .loop 0, .dispatch 0, .loop 1, .loop 0,
    .destroy, .loop 0, .destructor, .loop 1]

theorem notifications_balanced_comingAndGoing :
    ∃ (trace : List (NotificationStep Nat)) (state : NotificationState Nat),
      Machine.actionsOf trace = comingAndGoing ∧
      callsOf 0 (Machine.effectsOf trace) = [7, 8] ∧
      callsOf 1 (Machine.effectsOf trace) = [8] ∧
      releasesOf (.loop 0) (Machine.effectsOf trace) = [7, 8] ∧
      releasesOf (.loop 1) (Machine.effectsOf trace) = [8] ∧
      releasesOf .unregister (Machine.effectsOf trace) = [7] ∧
      releasesOf .destructor (Machine.effectsOf trace) = [8] ∧
      (∀ client, heldOn client trace = 0) ∧ NotificationsBalanced trace state := by
  have played : (notificationMachine Nat).play .initial comingAndGoing = some (_, _) := rfl
  have balanced := notifications_balanced (Machine.play_run played)
  exact ⟨_, _, Machine.actionsOf_played played, rfl, rfl, rfl, rfl, rfl, rfl,
    fun client => balanced.references client, balanced⟩

end DeviceSettings.VideoPort
