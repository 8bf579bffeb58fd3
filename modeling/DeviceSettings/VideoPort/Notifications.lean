import DeviceSettings.VideoPort.ResolutionEvents

/-!
# References on the clients

`DeviceSettingsVideoPortImpl` holds a reference on each client of its list, and one more for each
dispatch that has the client in its copy of the list. The clients are called without
`_callbackLock`, while others come and go.
-/

namespace DeviceSettings.VideoPort

open DeviceSettings.Std

/-- The events of `VideoPort::INotification`; an enumeration stands for its number. -/
inductive VideoPortNotification where
  | onResolutionPreChange (resolution : ResolutionChange)
  | onResolutionPostChange (resolution : ResolutionChange)
  | onHDCPStatusChange (hdcpStatus : Int)
  | onVideoFormatUpdate (videoFormatHDR : Int)
  deriving DecidableEq, Repr

section Model

variable {Client : Type}

/-- A client with the name it has given. -/
abbrev Registration (Client : Type) := String × Client

def clientsOf (entries : List (Registration Client)) : List Client := entries.map Prod.snd

@[simp] theorem clientsOf_nil : clientsOf ([] : List (Registration Client)) = [] := rfl

@[simp] theorem clientsOf_cons (entry : Registration Client)
    (entries : List (Registration Client)) :
    clientsOf (entry :: entries) = entry.2 :: clientsOf entries := rfl

@[simp] theorem clientsOf_append (left right : List (Registration Client)) :
    clientsOf (left ++ right) = clientsOf left ++ clientsOf right := List.map_append

/-- The loop of `Dispatch` or `dispatchVideoPortEvent`: its copy of the list, the entries that it
has not released yet, and whether it has called the first of these. -/
structure NotificationLoop (Client : Type) where
  notification : VideoPortNotification
  notifications : List (Registration Client)
  unreleased : List (Registration Client)
  called : Bool

/-- The entries that the loop has not called yet. -/
def NotificationLoop.uncalled (loop : NotificationLoop Client) : List (Registration Client) :=
  if loop.called then loop.unreleased.tail else loop.unreleased

/-- The steps that the loop has to take yet. -/
def NotificationLoop.remaining (loop : NotificationLoop Client) : Nat :=
  loop.uncalled.length + loop.unreleased.length

/-- The list, the jobs that no worker has taken, and the loops in the order in which they began.
The destructor has the list that it took over, as far as it has not released it. -/
structure NotificationState (Client : Type) where
  videoPortNotifications : List (Registration Client)
  jobs : List ResolutionChange
  loops : List (NotificationLoop Client)
  destructor : Option (List (Registration Client))

/-- `Register` and `Unregister`, an event of the HAL, a worker that takes a job, the next step of a
loop, the destructor and its next step. -/
inductive NotificationAction (Client : Type) where
  | register (clientName : String) (notification : Client)
  | unregister (notification : Client)
  | halEvent (notification : VideoPortNotification)
  | dispatch (job : Nat)
  | loop (index : Nat)
  | destroy
  | destructor
  deriving DecidableEq

/-- The actions of others than the loops and the destructor. -/
def NotificationAction.FromOutside : NotificationAction Client → Prop
  | .register _ _ | .unregister _ | .halEvent _ | .dispatch _ => True
  | .loop _ | .destroy | .destructor => False

namespace NotificationAction.FromOutside

variable {action : NotificationAction Client} (outside : action.FromOutside)
include outside

theorem ne_loop (index : Nat) : action ≠ .loop index := by
  rintro rfl
  exact outside

theorem ne_destroy : action ≠ .destroy := by
  rintro rfl
  exact outside

theorem ne_destructor : action ≠ .destructor := by
  rintro rfl
  exact outside

end NotificationAction.FromOutside

/-- The code that gives a reference back. -/
inductive Releaser where
  | unregister
  | loop (index : Nat)
  | destructor
  deriving DecidableEq, Repr

inductive NotificationEffect (Client : Type) where
  | addRef (client : Client)
  | release (releaser : Releaser) (client : Client)
  | callback (loop : Nat) (notification : VideoPortNotification) (client : Client)
  | answer (status : Except CoreError Unit)

namespace NotificationState

/-- Before the first `Register`. -/
def initial : NotificationState Client := ⟨[], [], [], none⟩

/-- The section under `_callbackLock` with which a loop begins. -/
def beginLoop (state : NotificationState Client) (notification : VideoPortNotification) :
    NotificationState Client × List (NotificationEffect Client) :=
  ({ state with
      loops := state.loops ++
        [⟨notification, state.videoPortNotifications, state.videoPortNotifications, false⟩] },
    (clientsOf state.videoPortNotifications).map .addRef)

variable [DecidableEq Client]

/-- `Register(list, clientName, notification)`. -/
def register (state : NotificationState Client) (clientName : String) (notification : Client) :
    NotificationState Client × List (NotificationEffect Client) :=
  match state.videoPortNotifications.find? fun entry => entry.2 == notification with
  | none =>
    ({ state with
        videoPortNotifications := state.videoPortNotifications ++ [(clientName, notification)] },
      [.addRef notification, .answer (.ok ())])
  | some _ => (state, [.answer (.error .general)])

/-- `Unregister(list, notification)`. -/
def unregister (state : NotificationState Client) (notification : Client) :
    NotificationState Client × List (NotificationEffect Client) :=
  match state.videoPortNotifications.find? fun entry => entry.2 == notification with
  | some entry =>
    ({ state with
        videoPortNotifications :=
          state.videoPortNotifications.eraseP fun entry => entry.2 == notification },
      [.release .unregister entry.2, .answer (.ok ())])
  | none => (state, [.answer (.error .general)])

/-- An event of the HAL: the post-change event is a job, the others are dispatched at once. -/
def halEvent (state : NotificationState Client) :
    VideoPortNotification → NotificationState Client × List (NotificationEffect Client)
  | .onResolutionPostChange resolution =>
    ({ state with jobs := state.jobs ++ [resolution] }, [])
  | notification => state.beginLoop notification

/-- The next step of a loop: it calls a client, and then releases it. -/
def loopStep (state : NotificationState Client) (index : Nat) :
    Option (NotificationState Client × List (NotificationEffect Client)) :=
  match state.loops[index]? with
  | some ⟨notification, notifications, entry :: rest, false⟩ =>
    some ({ state with
        loops := state.loops.set index ⟨notification, notifications, entry :: rest, true⟩ },
      [.callback index notification entry.2])
  | some ⟨notification, notifications, entry :: rest, true⟩ =>
    some ({ state with
        loops := state.loops.set index ⟨notification, notifications, rest, false⟩ },
      [.release (.loop index) entry.2])
  | _ => none

/-- The sections under `_callbackLock`, the calls of clients and the releases behind them are each
a step. Behind the beginning of the destructor nothing new enters the component. -/
def step (state : NotificationState Client) (action : NotificationAction Client) :
    Option (NotificationState Client × List (NotificationEffect Client)) :=
  match action, state.destructor with
  | .register clientName notification, none => some (state.register clientName notification)
  | .unregister notification, none => some (state.unregister notification)
  | .halEvent notification, none => some (state.halEvent notification)
  | .dispatch job, none =>
    match state.jobs[job]? with
    | some resolution =>
      some ({ state with jobs := state.jobs.eraseIdx job }.beginLoop
        (.onResolutionPostChange resolution))
    | none => none
  | .loop index, _ => state.loopStep index
  | .destroy, none =>
    some ({ state with
      videoPortNotifications := [], destructor := some state.videoPortNotifications }, [])
  | .destructor, some (entry :: rest) =>
    some ({ state with destructor := some rest }, [.release .destructor entry.2])
  | _, _ => none

end NotificationState

variable [DecidableEq Client]

/-- The event with which the clients are called that an action dispatches. -/
def NotificationState.dispatched (state : NotificationState Client) :
    NotificationAction Client → Option VideoPortNotification
  | .halEvent (.onResolutionPostChange _) => none
  | .halEvent notification => some notification
  | .dispatch job => state.jobs[job]?.map .onResolutionPostChange
  | _ => none

/-- The component with its clients, the threads of the HAL and the worker pool. -/
def notificationMachine (Client : Type) [DecidableEq Client] :
    Machine (NotificationState Client) (NotificationAction Client) (NotificationEffect Client) where
  step := NotificationState.step

abbrev NotificationStep (Client : Type) :=
  Occurrence (NotificationState Client) (NotificationAction Client) (NotificationEffect Client)

/-- What a step of the machine can do. -/
inductive NotificationMove (before : NotificationState Client) :
    NotificationAction Client → List (NotificationEffect Client) → NotificationState Client → Prop
  | registered (clientName : String) (client : Client)
      (unlisted : client ∉ clientsOf before.videoPortNotifications) :
      NotificationMove before (.register clientName client) [.addRef client, .answer (.ok ())]
        { before with
          videoPortNotifications := before.videoPortNotifications ++ [(clientName, client)] }
  | unregistered (client : Client) (listed : client ∈ clientsOf before.videoPortNotifications) :
      NotificationMove before (.unregister client)
        [.release .unregister client, .answer (.ok ())]
        { before with
          videoPortNotifications :=
            before.videoPortNotifications.eraseP fun entry => entry.2 == client }
  | refused (action : NotificationAction Client) (outside : action.FromOutside) :
      NotificationMove before action [.answer (.error .general)] before
  | submitted (resolution : ResolutionChange) :
      NotificationMove before (.halEvent (.onResolutionPostChange resolution)) []
        { before with jobs := before.jobs ++ [resolution] }
  | begun (action : NotificationAction Client) (outside : action.FromOutside)
      (notification : VideoPortNotification) (jobs : List ResolutionChange) :
      NotificationMove before action
        ((clientsOf before.videoPortNotifications).map .addRef)
        { before with
          jobs := jobs
          loops := before.loops ++ [⟨notification, before.videoPortNotifications,
            before.videoPortNotifications, false⟩] }
  | called (index : Nat) (notification : VideoPortNotification)
      (notifications rest : List (Registration Client)) (entry : Registration Client)
      (found : before.loops[index]? = some ⟨notification, notifications, entry :: rest, false⟩) :
      NotificationMove before (.loop index) [.callback index notification entry.2]
        { before with
          loops := before.loops.set index ⟨notification, notifications, entry :: rest, true⟩ }
  | released (index : Nat) (notification : VideoPortNotification)
      (notifications rest : List (Registration Client)) (entry : Registration Client)
      (found : before.loops[index]? = some ⟨notification, notifications, entry :: rest, true⟩) :
      NotificationMove before (.loop index) [.release (.loop index) entry.2]
        { before with
          loops := before.loops.set index ⟨notification, notifications, rest, false⟩ }
  | takenOver (alive : before.destructor = none) :
      NotificationMove before .destroy []
        { before with
          videoPortNotifications := [], destructor := some before.videoPortNotifications }
  | destructed (rest : List (Registration Client)) (entry : Registration Client)
      (found : before.destructor = some (entry :: rest)) :
      NotificationMove before .destructor [.release .destructor entry.2]
        { before with destructor := some rest }

theorem find?_client_eq_none {entries : List (Registration Client)} {client : Client} :
    (entries.find? fun entry => entry.2 == client) = none ↔ client ∉ clientsOf entries := by
  rw [List.find?_eq_none, clientsOf, List.mem_map]
  constructor
  · rintro others ⟨entry, member, same⟩
    exact others entry member (beq_iff_eq.mpr same)
  · intro unlisted entry member same
    exact unlisted ⟨entry, member, beq_iff_eq.mp same⟩

theorem listed_of_find? {entries : List (Registration Client)} {client : Client}
    {entry : Registration Client}
    (found : (entries.find? fun entry => entry.2 == client) = some entry) :
    client ∈ clientsOf entries ∧ entry.2 = client := by
  have same : entry.2 = client := by simpa using List.find?_some found
  exact ⟨same ▸ List.mem_map_of_mem (List.mem_of_find?_eq_some found), same⟩

theorem clientsOf_eraseP (entries : List (Registration Client)) (client : Client) :
    clientsOf (entries.eraseP fun entry => entry.2 == client) =
      (clientsOf entries).erase client := by
  rw [List.erase_eq_eraseP', clientsOf, clientsOf, List.eraseP_map]
  rfl

/-- Without the names the list is the one of `resolutionEvents`. -/
theorem eventState_register (events : EventState Client) (state : NotificationState Client)
    (same : events.videoPortNotifications = clientsOf state.videoPortNotifications)
    (clientName : String) (client : Client) :
    events.step (.register client) = some ({ events with
      videoPortNotifications :=
        clientsOf (state.register clientName client).1.videoPortNotifications }, []) := by
  simp only [EventState.step, NotificationState.register, same]
  cases found : state.videoPortNotifications.find? fun entry => entry.2 == client with
  | none =>
      rw [if_neg (find?_client_eq_none.mp found), clientsOf_append]
      rfl
  | some entry => rw [if_pos (listed_of_find? found).1, ← same]

theorem eventState_unregister (events : EventState Client) (state : NotificationState Client)
    (same : events.videoPortNotifications = clientsOf state.videoPortNotifications)
    (client : Client) :
    events.step (.unregister client) = some ({ events with
      videoPortNotifications :=
        clientsOf (state.unregister client).1.videoPortNotifications }, []) := by
  simp only [EventState.step, NotificationState.unregister, same]
  cases found : state.videoPortNotifications.find? fun entry => entry.2 == client with
  | none => rw [List.erase_of_not_mem (find?_client_eq_none.mp found)]
  | some entry => rw [clientsOf_eraseP]

theorem move_of_register (state : NotificationState Client) (clientName : String)
    (client : Client) :
    NotificationMove state (.register clientName client) (state.register clientName client).2
      (state.register clientName client).1 := by
  unfold NotificationState.register
  cases found : state.videoPortNotifications.find? fun entry => entry.2 == client with
  | none => exact .registered clientName client (find?_client_eq_none.mp found)
  | some entry => exact .refused _ trivial

theorem move_of_unregister (state : NotificationState Client) (client : Client) :
    NotificationMove state (.unregister client) (state.unregister client).2
      (state.unregister client).1 := by
  unfold NotificationState.unregister
  cases found : state.videoPortNotifications.find? fun entry => entry.2 == client with
  | none => exact .refused _ trivial
  | some entry =>
      obtain ⟨listed, same⟩ := listed_of_find? found
      dsimp only
      rw [same]
      exact .unregistered client listed

theorem move_of_halEvent (state : NotificationState Client)
    (notification : VideoPortNotification) :
    NotificationMove state (.halEvent notification) (state.halEvent notification).2
      (state.halEvent notification).1 := by
  cases notification with
  | onResolutionPostChange resolution => exact .submitted resolution
  | onResolutionPreChange | onHDCPStatusChange | onVideoFormatUpdate =>
      exact .begun (.halEvent _) trivial _ state.jobs

theorem move_of_loopStep {before after : NotificationState Client} {index : Nat}
    {effects : List (NotificationEffect Client)}
    (taken : before.loopStep index = some (after, effects)) :
    NotificationMove before (.loop index) effects after := by
  unfold NotificationState.loopStep at taken
  split at taken
  next found =>
    cases taken
    exact .called index _ _ _ _ found
  next found =>
    cases taken
    exact .released index _ _ _ _ found
  next => cases taken

theorem move_of_step {before after : NotificationState Client}
    {action : NotificationAction Client} {effects : List (NotificationEffect Client)}
    (taken : (notificationMachine Client).step before action = some (after, effects)) :
    NotificationMove before action effects after := by
  simp only [notificationMachine, NotificationState.step] at taken
  split at taken
  next clientName client _ =>
    have move := move_of_register before clientName client
    rwa [Option.some.inj taken] at move
  next client _ =>
    have move := move_of_unregister before client
    rwa [Option.some.inj taken] at move
  next notification _ =>
    have move := move_of_halEvent before notification
    rwa [Option.some.inj taken] at move
  · split at taken <;> cases taken
    exact .begun (.dispatch _) trivial _ _
  · exact move_of_loopStep taken
  next alive =>
    cases taken
    exact .takenOver alive
  next found =>
    cases taken
    exact .destructed _ _ found
  · cases taken

/-- A dispatch begins a loop over the list as it is. -/
theorem loops_of_dispatched {before after : NotificationState Client}
    {action : NotificationAction Client} {effects : List (NotificationEffect Client)}
    (taken : (notificationMachine Client).step before action = some (after, effects))
    {notification : VideoPortNotification}
    (dispatched : before.dispatched action = some notification) :
    after.loops = before.loops ++ [⟨notification, before.videoPortNotifications,
      before.videoPortNotifications, false⟩] := by
  simp only [notificationMachine, NotificationState.step] at taken
  split at taken
  next => cases dispatched
  next => cases dispatched
  next event _ =>
    obtain ⟨rfl, -⟩ := Prod.mk.inj (Option.some.inj taken)
    cases event <;> cases dispatched <;> rfl
  next job _ =>
    split at taken
    next resolution found =>
      simp only [NotificationState.dispatched, found, Option.map_some] at dispatched
      cases dispatched
      cases taken
      rfl
    next => cases taken
  next => cases dispatched
  next => cases dispatched
  next => cases dispatched
  next => cases taken

end Model

end DeviceSettings.VideoPort
