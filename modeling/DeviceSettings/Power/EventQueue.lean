import DeviceSettings.Power.Listener
import DeviceSettings.Std.Mutex

/-!
# The queue of power events

`onPowerModeChanged` pushes under `_pwrEventQueueMutexLock` and signals under
`_pwrEventMutexLock`; `PwrEventHandlingThreadFunc` looks at the queue under both, waits under the
second and takes events out under the first, which it drops around every handler. Each lock,
unlock, read, push, pop and signal is a step.
-/

namespace DeviceSettings.Power

open DeviceSettings.Std

/-- The threads that use the queue: any number of callers of `onPowerModeChanged`, the thread
that handles events, and the one that runs `Deinit`. -/
inductive QueueThread where
  | producer (caller : Nat)
  | consumer
  | deinit
  deriving DecidableEq, Repr

/-- `onPowerModeChanged`. -/
inductive ProducerPhase where
  | idle
  | lockingQueue (event : PowerEvent)
  | pushing (event : PowerEvent)
  | unlockingQueue
  | lockingEvent
  | signalling
  | unlockingEvent
  deriving DecidableEq, Repr

/-- `PwrEventHandlingThreadFunc`. -/
inductive ConsumerPhase where
  | lockingEvent
  | lockingQueue
  | reading
  | unlockingQueue (queueEmpty : Bool)
  | testing (queueEmpty : Bool)
  /-- Blocked in `pthread_cond_wait`. -/
  | waiting
  /-- Woken, and not yet out of `pthread_cond_wait`. -/
  | reacquiring
  | lockingDrain
  | draining
  | popped (pwrEvent : PowerEvent)
  | handling (pwrEvent : PowerEvent)
  | exited
  deriving DecidableEq, Repr

/-- `Deinit` up to `pthread_join`. -/
inductive DeinitPhase where
  | notCalled
  | lockingEvent
  | stopping
  | signalling
  | unlockingEvent
  | joining
  deriving DecidableEq, Repr

/-- The queue, both mutexes, the flag and where the threads are. -/
structure QueueState where
  pwrEventQueue : List PowerEvent
  queueMutex : Option QueueThread
  eventMutex : Option QueueThread
  stopThread : Bool
  producer : Nat → ProducerPhase
  consumer : ConsumerPhase
  deinit : DeinitPhase

/-- A call begins, a thread makes its next step, or the wait ends without a signal. -/
inductive QueueAction where
  | onPowerModeChanged (caller : Nat) (event : PowerEvent)
  | producer (caller : Nat)
  | consumer
  | wakeUp
  | callDeinit
  | deinit
  deriving DecidableEq, Repr

/-- What the steps show: an event was pushed, or passed to `HandlePwrEventData`. -/
inductive QueueEffect where
  | enqueued (event : PowerEvent)
  | handled (event : PowerEvent)
  deriving DecidableEq, Repr

namespace QueueState

/-- Nobody has called, and the handling thread has just been created. -/
def initial : QueueState := ⟨[], none, none, false, fun _ => .idle, .lockingEvent, .notCalled⟩

/-- `pthread_cond_signal(&_pwrEventMutexCond)`: without a waiting thread it does nothing. -/
def condSignal (state : QueueState) : QueueState :=
  { state with consumer := if state.consumer = .waiting then .reacquiring else state.consumer }

def moveProducer (state : QueueState) (caller : Nat) (phase : ProducerPhase) : QueueState :=
  { state with producer := Function.update state.producer caller phase }

/-- The next step of a call of `onPowerModeChanged`. -/
def producerStep (state : QueueState) (caller : Nat) : Option (QueueState × List QueueEffect) :=
  match state.producer caller with
  | .idle => none
  | .lockingQueue event =>
    if state.queueMutex = none then
      some ({ state.moveProducer caller (.pushing event) with
        queueMutex := some (.producer caller) }, [])
    else none
  | .pushing event =>
    some ({ state.moveProducer caller .unlockingQueue with
      pwrEventQueue := state.pwrEventQueue ++ [event] }, [.enqueued event])
  | .unlockingQueue =>
    some ({ state.moveProducer caller .lockingEvent with queueMutex := none }, [])
  | .lockingEvent =>
    if state.eventMutex = none then
      some ({ state.moveProducer caller .signalling with
        eventMutex := some (.producer caller) }, [])
    else none
  | .signalling => some ((state.moveProducer caller .unlockingEvent).condSignal, [])
  | .unlockingEvent =>
    some ({ state.moveProducer caller .idle with eventMutex := none }, [])

/-- The next step of the handling thread. The two tests of `_stopThread` in a row are one step:
the flag is set under the mutex that the thread has. -/
def consumerStep (state : QueueState) : Option (QueueState × List QueueEffect) :=
  match state.consumer with
  | .lockingEvent | .reacquiring =>
    if state.eventMutex = none then
      some ({ state with eventMutex := some .consumer, consumer := .lockingQueue }, [])
    else none
  | .lockingQueue =>
    if state.queueMutex = none then
      some ({ state with queueMutex := some .consumer, consumer := .reading }, [])
    else none
  | .reading =>
    some ({ state with consumer := .unlockingQueue state.pwrEventQueue.isEmpty }, [])
  | .unlockingQueue queueEmpty =>
    some ({ state with queueMutex := none, consumer := .testing queueEmpty }, [])
  | .testing queueEmpty =>
    let next : ConsumerPhase :=
      if state.stopThread then .exited else if queueEmpty then .waiting else .lockingDrain
    some ({ state with eventMutex := none, consumer := next }, [])
  | .waiting => none
  | .lockingDrain =>
    if state.queueMutex = none then
      some ({ state with queueMutex := some .consumer, consumer := .draining }, [])
    else none
  | .draining =>
    match state.pwrEventQueue with
    | [] => some ({ state with queueMutex := none, consumer := .lockingEvent }, [])
    | pwrEvent :: rest =>
      some ({ state with pwrEventQueue := rest, consumer := .popped pwrEvent }, [])
  | .popped pwrEvent =>
    some ({ state with queueMutex := none, consumer := .handling pwrEvent }, [])
  | .handling pwrEvent =>
    some ({ state with consumer := .lockingDrain }, [.handled pwrEvent])
  | .exited => none

/-- The next step of `Deinit`. -/
def deinitStep (state : QueueState) : Option (QueueState × List QueueEffect) :=
  match state.deinit with
  | .notCalled => none
  | .lockingEvent =>
    if state.eventMutex = none then
      some ({ state with eventMutex := some .deinit, deinit := .stopping }, [])
    else none
  | .stopping => some ({ state with stopThread := true, deinit := .signalling }, [])
  | .signalling => some ({ state with deinit := .unlockingEvent }.condSignal, [])
  | .unlockingEvent => some ({ state with eventMutex := none, deinit := .joining }, [])
  | .joining => none

def step (state : QueueState) : QueueAction → Option (QueueState × List QueueEffect)
  | .onPowerModeChanged caller event =>
    if state.producer caller = .idle then
      some (state.moveProducer caller (.lockingQueue event), [])
    else none
  | .producer caller => state.producerStep caller
  | .consumer => state.consumerStep
  | .wakeUp =>
    if state.consumer = .waiting then some ({ state with consumer := .reacquiring }, []) else none
  | .callDeinit =>
    if state.deinit = .notCalled then some ({ state with deinit := .lockingEvent }, []) else none
  | .deinit => state.deinitStep

end QueueState

/-- The queue and its threads. -/
def powerEventQueue : Machine QueueState QueueAction QueueEffect where
  step := QueueState.step

abbrev QueueStep := Occurrence QueueState QueueAction QueueEffect

/-- The events of a trace that were pushed. -/
def enqueuedEvents (trace : List QueueStep) : List PowerEvent :=
  (Machine.effectsOf trace).filterMap fun
    | .enqueued event => some event
    | .handled _ => none

/-- The events of a trace that were passed to `HandlePwrEventData`. -/
def handledEvents (trace : List QueueStep) : List PowerEvent :=
  (Machine.effectsOf trace).filterMap fun
    | .enqueued _ => none
    | .handled event => some event

end DeviceSettings.Power
