import DeviceSettings.Power.EventQueue

/-!
# Power events are handled in order

Where the threads are decides which mutexes they have, and what the handling thread has seen of
the queue while it had `_pwrEventMutexLock` stays true until somebody owes a signal.
-/

namespace DeviceSettings.Power

open DeviceSettings.Std

/-! ### Who has a mutex -/

def ProducerPhase.hasQueue : ProducerPhase → Bool
  | .pushing _ | .unlockingQueue => true
  | _ => false

def ProducerPhase.hasEvent : ProducerPhase → Bool
  | .signalling | .unlockingEvent => true
  | _ => false

/-- The call has pushed and not yet signalled. -/
def ProducerPhase.owesSignal : ProducerPhase → Bool
  | .unlockingQueue | .lockingEvent | .signalling => true
  | _ => false

def ConsumerPhase.hasQueue : ConsumerPhase → Bool
  | .reading | .unlockingQueue _ | .draining | .popped _ => true
  | _ => false

def ConsumerPhase.hasEvent : ConsumerPhase → Bool
  | .lockingQueue | .reading | .unlockingQueue _ | .testing _ => true
  | _ => false

/-- The thread has found the queue empty and goes on to wait, or waits. -/
def ConsumerPhase.foundEmpty : ConsumerPhase → Bool
  | .unlockingQueue queueEmpty | .testing queueEmpty => queueEmpty
  | .waiting => true
  | _ => false

/-- The event that was taken out of the queue and not yet passed on. -/
def ConsumerPhase.inHand : ConsumerPhase → List PowerEvent
  | .popped pwrEvent | .handling pwrEvent => [pwrEvent]
  | _ => []

def DeinitPhase.hasEvent : DeinitPhase → Bool
  | .stopping | .signalling | .unlockingEvent => true
  | _ => false

namespace QueueState

/-- The threads inside a section under `_pwrEventQueueMutexLock`. -/
def HasQueue (state : QueueState) : QueueThread → Prop
  | .producer caller => (state.producer caller).hasQueue = true
  | .consumer => state.consumer.hasQueue = true
  | .deinit => False

/-- The threads inside a section under `_pwrEventMutexLock`. -/
def HasEvent (state : QueueState) : QueueThread → Prop
  | .producer caller => (state.producer caller).hasEvent = true
  | .consumer => state.consumer.hasEvent = true
  | .deinit => state.deinit.hasEvent = true

/-- What was pushed and not yet passed on, oldest first. -/
def pending (state : QueueState) : List PowerEvent :=
  state.consumer.inHand ++ state.pwrEventQueue

/-- Both mutexes exclude, and an empty queue that was seen stays empty unless a signal is on its
way. -/
structure Sound (state : QueueState) : Prop where
  queue : Excludes state.queueMutex state.HasQueue
  event : Excludes state.eventMutex state.HasEvent
  signal : state.consumer.foundEmpty = true → state.pwrEventQueue ≠ [] →
    ∃ caller, (state.producer caller).owesSignal = true

theorem sound_initial : initial.Sound where
  queue thread inside := by cases thread <;> simp [initial, HasQueue, ProducerPhase.hasQueue,
    ConsumerPhase.hasQueue] at inside
  event thread inside := by cases thread <;> simp [initial, HasEvent, ProducerPhase.hasEvent,
    ConsumerPhase.hasEvent, DeinitPhase.hasEvent] at inside
  signal seen := by simp [initial, ConsumerPhase.foundEmpty] at seen

end QueueState

/-- What a step shows of the events that are pushed. -/
def QueueEffect.enqueued? : QueueEffect → Option PowerEvent
  | .enqueued event => some event
  | .handled _ => none

def QueueEffect.handled? : QueueEffect → Option PowerEvent
  | .enqueued _ => none
  | .handled event => some event

/-- What one step keeps: the mutexes and the signal, and the events in their order. -/
structure QueueKept (before : QueueState) (effects : List QueueEffect) (after : QueueState) :
    Prop where
  sound : after.Sound
  events : before.pending ++ effects.filterMap QueueEffect.enqueued? =
    effects.filterMap QueueEffect.handled? ++ after.pending

section Producers

variable {state : QueueState} (sound : state.Sound) {caller : Nat}

theorem hasQueue_moveProducer (phase : ProducerPhase) :
    ∀ thread, thread ≠ .producer caller →
      (state.moveProducer caller phase).HasQueue thread → state.HasQueue thread := by
  rintro (other | _ | _) different inside
  · have moved : other ≠ caller := fun same => different (congrArg _ same)
    simpa [QueueState.HasQueue, QueueState.moveProducer, Function.update_of_ne moved] using inside
  · exact inside
  · exact inside

theorem hasEvent_moveProducer (phase : ProducerPhase) :
    ∀ thread, thread ≠ .producer caller →
      (state.moveProducer caller phase).HasEvent thread → state.HasEvent thread := by
  rintro (other | _ | _) different inside
  · have moved : other ≠ caller := fun same => different (congrArg _ same)
    simpa [QueueState.HasEvent, QueueState.moveProducer, Function.update_of_ne moved] using inside
  · exact inside
  · exact inside

@[simp] theorem producer_moveProducer (phase : ProducerPhase) :
    (state.moveProducer caller phase).producer caller = phase :=
  Function.update_self _ _ _

/-- A call that keeps owing what it owes takes no signal away. -/
theorem owesSignal_moveProducer {phase : ProducerPhase}
    (owing : (state.producer caller).owesSignal = true → phase.owesSignal = true)
    (owed : ∃ other, (state.producer other).owesSignal = true) :
    ∃ other, ((state.moveProducer caller phase).producer other).owesSignal = true := by
  obtain ⟨other, owes⟩ := owed
  by_cases same : other = caller
  · subst same
    exact ⟨other, by rw [producer_moveProducer]; exact owing owes⟩
  · exact ⟨other, by simpa [QueueState.moveProducer, Function.update_of_ne same] using owes⟩

include sound in
/-- A step of a call that leaves the handling thread and the queue alone. -/
theorem signal_moveProducer (phase : ProducerPhase)
    (owing : (state.producer caller).owesSignal = true → phase.owesSignal = true)
    (seen : state.consumer.foundEmpty = true) (filled : state.pwrEventQueue ≠ []) :
    ∃ other, ((state.moveProducer caller phase).producer other).owesSignal = true :=
  owesSignal_moveProducer owing (sound.signal seen filled)

include sound in
/-- While the handling thread has not let go of the mutex since it looked, nobody signals. -/
theorem signal_condSignal (signalling : state.producer caller = .signalling) :
    state.condSignal.consumer.foundEmpty = false := by
  have inside : state.HasEvent (.producer caller) := by
    rw [QueueState.HasEvent, signalling]
    rfl
  have alone : ¬state.HasEvent .consumer := fun other =>
    nomatch sound.event.unique inside other
  cases phase : state.consumer <;>
    simp_all [QueueState.condSignal, QueueState.HasEvent, ConsumerPhase.hasEvent,
      ConsumerPhase.foundEmpty]

@[simp] theorem producer_condSignal : state.condSignal.producer = state.producer := rfl

theorem pending_condSignal : state.condSignal.pending = state.pending := by
  cases phase : state.consumer <;>
    simp [QueueState.condSignal, QueueState.pending, phase, ConsumerPhase.inHand]

theorem hasQueue_condSignal (thread : QueueThread) :
    state.condSignal.HasQueue thread ↔ state.HasQueue thread := by
  cases thread with
  | producer caller => rfl
  | deinit => rfl
  | consumer =>
      cases phase : state.consumer <;>
        simp [QueueState.condSignal, QueueState.HasQueue, phase, ConsumerPhase.hasQueue]

theorem hasEvent_condSignal (thread : QueueThread) :
    state.condSignal.HasEvent thread ↔ state.HasEvent thread := by
  cases thread with
  | producer caller => rfl
  | deinit => rfl
  | consumer =>
      cases phase : state.consumer <;>
        simp [QueueState.condSignal, QueueState.HasEvent, phase, ConsumerPhase.hasEvent]

include sound in
theorem kept_producerStep {after : QueueState} {effects : List QueueEffect}
    (taken : state.producerStep caller = some (after, effects)) :
    QueueKept state effects after := by
  unfold QueueState.producerStep at taken
  cases phase : state.producer caller with
  | idle => simp [phase] at taken
  | lockingQueue event =>
      simp only [phase] at taken
      split_ifs at taken with free
      cases taken
      refine ⟨⟨?_, ?_, ?_⟩, by simp [QueueState.pending, QueueState.moveProducer]⟩
      · exact sound.queue.lock (hasQueue_moveProducer _) free
      · apply sound.event.stay (hasEvent_moveProducer _)
        simp [QueueState.HasEvent, ProducerPhase.hasEvent]
      · exact signal_moveProducer sound _ (by simp [phase, ProducerPhase.owesSignal])
  | pushing event =>
      simp only [phase] at taken
      cases taken
      refine ⟨⟨?_, ?_, ?_⟩, by simp [QueueState.pending, QueueState.moveProducer,
        QueueEffect.enqueued?, QueueEffect.handled?]⟩
      · apply sound.queue.stay (hasQueue_moveProducer _)
        simp [QueueState.HasQueue, phase, ProducerPhase.hasQueue]
      · apply sound.event.stay (hasEvent_moveProducer _)
        simp [QueueState.HasEvent, ProducerPhase.hasEvent]
      · exact fun _ _ => ⟨caller, by simp [ProducerPhase.owesSignal]⟩
  | unlockingQueue =>
      simp only [phase] at taken
      cases taken
      refine ⟨⟨?_, ?_, ?_⟩, by simp [QueueState.pending, QueueState.moveProducer]⟩
      · apply sound.queue.unlock (hasQueue_moveProducer _)
        · simp [QueueState.HasQueue, phase, ProducerPhase.hasQueue]
        · simp [QueueState.HasQueue, ProducerPhase.hasQueue]
      · apply sound.event.stay (hasEvent_moveProducer _)
        simp [QueueState.HasEvent, ProducerPhase.hasEvent]
      · exact signal_moveProducer sound _ (by simp [ProducerPhase.owesSignal])
  | lockingEvent =>
      simp only [phase] at taken
      split_ifs at taken with free
      cases taken
      refine ⟨⟨?_, ?_, ?_⟩, by simp [QueueState.pending, QueueState.moveProducer]⟩
      · apply sound.queue.stay (hasQueue_moveProducer _)
        simp [QueueState.HasQueue, ProducerPhase.hasQueue]
      · exact sound.event.lock (hasEvent_moveProducer _) free
      · exact signal_moveProducer sound _ (by simp [ProducerPhase.owesSignal])
  | signalling =>
      simp only [phase] at taken
      cases taken
      have unseen : state.condSignal.consumer.foundEmpty = false := signal_condSignal sound phase
      refine ⟨⟨?_, ?_, fun found => ?_⟩, ?_⟩
      · apply sound.queue.stay fun thread different inside =>
          hasQueue_moveProducer _ thread different ((hasQueue_condSignal thread).mp inside)
        simp [QueueState.HasQueue, ProducerPhase.hasQueue]
      · apply sound.event.stay fun thread different inside =>
          hasEvent_moveProducer _ thread different ((hasEvent_condSignal thread).mp inside)
        simp [QueueState.HasEvent, phase, ProducerPhase.hasEvent]
      · exact nomatch unseen.symm.trans found
      · rw [pending_condSignal]
        simp [QueueState.pending, QueueState.moveProducer]
  | unlockingEvent =>
      simp only [phase] at taken
      cases taken
      refine ⟨⟨?_, ?_, ?_⟩, by simp [QueueState.pending, QueueState.moveProducer]⟩
      · apply sound.queue.stay (hasQueue_moveProducer _)
        simp [QueueState.HasQueue, ProducerPhase.hasQueue]
      · apply sound.event.unlock (hasEvent_moveProducer _)
        · simp [QueueState.HasEvent, phase, ProducerPhase.hasEvent]
        · simp [QueueState.HasEvent, ProducerPhase.hasEvent]
      · exact signal_moveProducer sound _ (by simp [phase, ProducerPhase.owesSignal])

end Producers

section Consumer

variable {state : QueueState} (sound : state.Sound)

/-- The other threads are where they were. -/
theorem hasQueue_moveConsumer {after : QueueState} (producer : after.producer = state.producer) :
    ∀ thread, thread ≠ .consumer → after.HasQueue thread → state.HasQueue thread := by
  rintro (caller | _ | _) different inside
  · rwa [QueueState.HasQueue, producer] at inside
  · exact absurd rfl different
  · exact inside

theorem hasEvent_moveConsumer {after : QueueState} (producer : after.producer = state.producer)
    (deinit : after.deinit = state.deinit) :
    ∀ thread, thread ≠ .consumer → after.HasEvent thread → state.HasEvent thread := by
  rintro (caller | _ | _) different inside
  · rwa [QueueState.HasEvent, producer] at inside
  · exact absurd rfl different
  · rwa [QueueState.HasEvent, deinit] at inside

include sound in
theorem kept_consumerStep {after : QueueState} {effects : List QueueEffect}
    (taken : state.consumerStep = some (after, effects)) : QueueKept state effects after := by
  unfold QueueState.consumerStep at taken
  cases phase : state.consumer with
  | waiting | exited => simp [phase] at taken
  | lockingEvent | reacquiring =>
      simp only [phase] at taken
      split_ifs at taken with free
      cases taken
      refine ⟨⟨?_, ?_, fun seen => nomatch seen⟩, by
        simp [QueueState.pending, phase, ConsumerPhase.inHand]⟩
      · refine sound.queue.stay (hasQueue_moveConsumer rfl) ?_
        simp [QueueState.HasQueue, ConsumerPhase.hasQueue]
      · exact sound.event.lock (hasEvent_moveConsumer rfl rfl) free
  | lockingQueue =>
      simp only [phase] at taken
      split_ifs at taken with free
      cases taken
      refine ⟨⟨?_, ?_, fun seen => nomatch seen⟩, by
        simp [QueueState.pending, phase, ConsumerPhase.inHand]⟩
      · exact sound.queue.lock (hasQueue_moveConsumer rfl) free
      · refine sound.event.stay (hasEvent_moveConsumer rfl rfl) ?_
        simp [QueueState.HasEvent, phase, ConsumerPhase.hasEvent]
  | reading =>
      simp only [phase] at taken
      cases taken
      refine ⟨⟨?_, ?_, fun seen filled => ?_⟩, by
        simp [QueueState.pending, phase, ConsumerPhase.inHand]⟩
      · refine sound.queue.stay (hasQueue_moveConsumer rfl) ?_
        simp [QueueState.HasQueue, phase, ConsumerPhase.hasQueue]
      · refine sound.event.stay (hasEvent_moveConsumer rfl rfl) ?_
        simp [QueueState.HasEvent, phase, ConsumerPhase.hasEvent]
      · exact absurd (List.isEmpty_iff.mp seen) filled
  | unlockingQueue queueEmpty =>
      simp only [phase] at taken
      cases taken
      refine ⟨⟨?_, ?_, fun seen => sound.signal (by rw [phase]; exact seen)⟩, by
        simp [QueueState.pending, phase, ConsumerPhase.inHand]⟩
      · refine sound.queue.unlock (hasQueue_moveConsumer rfl) ?_ ?_
        · simp [QueueState.HasQueue, phase, ConsumerPhase.hasQueue]
        · simp [QueueState.HasQueue, ConsumerPhase.hasQueue]
      · refine sound.event.stay (hasEvent_moveConsumer rfl rfl) ?_
        simp [QueueState.HasEvent, phase, ConsumerPhase.hasEvent]
  | testing queueEmpty =>
      simp only [phase] at taken
      cases taken
      -- Behind the test the thread is outside both sections, wherever it goes.
      refine ⟨⟨?_, ?_, fun seen => sound.signal ?_⟩, ?_⟩
      · refine sound.queue.stay (hasQueue_moveConsumer rfl) ?_
        intro inside
        dsimp only [QueueState.HasQueue] at inside
        split_ifs at inside <;> exact nomatch inside
      · refine sound.event.unlock (hasEvent_moveConsumer rfl rfl) ?_ ?_
        · simp [QueueState.HasEvent, phase, ConsumerPhase.hasEvent]
        · intro inside
          dsimp only [QueueState.HasEvent] at inside
          split_ifs at inside <;> exact nomatch inside
      · dsimp only at seen
        split_ifs at seen with stopped empty
        · exact nomatch seen
        · rw [phase]
          exact empty
        · exact nomatch seen
      · dsimp only [QueueState.pending]
        rw [phase]
        split_ifs <;> simp [ConsumerPhase.inHand]
  | lockingDrain =>
      simp only [phase] at taken
      split_ifs at taken with free
      cases taken
      refine ⟨⟨?_, ?_, fun seen => nomatch seen⟩, by
        simp [QueueState.pending, phase, ConsumerPhase.inHand]⟩
      · exact sound.queue.lock (hasQueue_moveConsumer rfl) free
      · refine sound.event.stay (hasEvent_moveConsumer rfl rfl) ?_
        simp [QueueState.HasEvent, ConsumerPhase.hasEvent]
  | draining =>
      simp only [phase] at taken
      split at taken
      · rename_i empty
        cases taken
        refine ⟨⟨?_, ?_, fun seen => nomatch seen⟩, by
          simp [QueueState.pending, phase, ConsumerPhase.inHand]⟩
        · refine sound.queue.unlock (hasQueue_moveConsumer rfl) ?_ ?_
          · simp [QueueState.HasQueue, phase, ConsumerPhase.hasQueue]
          · simp [QueueState.HasQueue, ConsumerPhase.hasQueue]
        · refine sound.event.stay (hasEvent_moveConsumer rfl rfl) ?_
          simp [QueueState.HasEvent, ConsumerPhase.hasEvent]
      · rename_i pwrEvent rest filled
        cases taken
        refine ⟨⟨?_, ?_, fun seen => nomatch seen⟩, by
          simp [QueueState.pending, phase, ConsumerPhase.inHand, filled]⟩
        · refine sound.queue.stay (hasQueue_moveConsumer rfl) ?_
          simp [QueueState.HasQueue, phase, ConsumerPhase.hasQueue]
        · refine sound.event.stay (hasEvent_moveConsumer rfl rfl) ?_
          simp [QueueState.HasEvent, ConsumerPhase.hasEvent]
  | popped pwrEvent =>
      simp only [phase] at taken
      cases taken
      refine ⟨⟨?_, ?_, fun seen => nomatch seen⟩, by
        simp [QueueState.pending, phase, ConsumerPhase.inHand]⟩
      · refine sound.queue.unlock (hasQueue_moveConsumer rfl) ?_ ?_
        · simp [QueueState.HasQueue, phase, ConsumerPhase.hasQueue]
        · simp [QueueState.HasQueue, ConsumerPhase.hasQueue]
      · refine sound.event.stay (hasEvent_moveConsumer rfl rfl) ?_
        simp [QueueState.HasEvent, ConsumerPhase.hasEvent]
  | handling pwrEvent =>
      simp only [phase] at taken
      cases taken
      refine ⟨⟨?_, ?_, fun seen => nomatch seen⟩, by
        simp [QueueState.pending, phase, ConsumerPhase.inHand, QueueEffect.enqueued?,
          QueueEffect.handled?]⟩
      · refine sound.queue.stay (hasQueue_moveConsumer rfl) ?_
        simp [QueueState.HasQueue, ConsumerPhase.hasQueue]
      · refine sound.event.stay (hasEvent_moveConsumer rfl rfl) ?_
        simp [QueueState.HasEvent, ConsumerPhase.hasEvent]

end Consumer

section Deinit

variable {state : QueueState} (sound : state.Sound)

theorem hasQueue_moveDeinit {after : QueueState} (producer : after.producer = state.producer)
    (consumer : after.consumer = state.consumer) :
    ∀ thread, after.HasQueue thread → state.HasQueue thread := by
  rintro (caller | _ | _) inside
  · rwa [QueueState.HasQueue, producer] at inside
  · rwa [QueueState.HasQueue, consumer] at inside
  · exact inside

theorem hasEvent_moveDeinit {after : QueueState} (producer : after.producer = state.producer)
    (consumer : after.consumer = state.consumer) :
    ∀ thread, thread ≠ .deinit → after.HasEvent thread → state.HasEvent thread := by
  rintro (caller | _ | _) different inside
  · rwa [QueueState.HasEvent, producer] at inside
  · rwa [QueueState.HasEvent, consumer] at inside
  · exact absurd rfl different

include sound in
theorem kept_deinitStep {after : QueueState} {effects : List QueueEffect}
    (taken : state.deinitStep = some (after, effects)) : QueueKept state effects after := by
  unfold QueueState.deinitStep at taken
  cases phase : state.deinit with
  | notCalled | joining => simp [phase] at taken
  | lockingEvent =>
      simp only [phase] at taken
      split_ifs at taken with free
      cases taken
      refine ⟨⟨?_, ?_, sound.signal⟩, by simp [QueueState.pending]⟩
      · exact fun thread inside => sound.queue thread (hasQueue_moveDeinit rfl rfl thread inside)
      · exact sound.event.lock (hasEvent_moveDeinit rfl rfl) free
  | stopping =>
      simp only [phase] at taken
      cases taken
      refine ⟨⟨?_, ?_, sound.signal⟩, by simp [QueueState.pending]⟩
      · exact fun thread inside => sound.queue thread (hasQueue_moveDeinit rfl rfl thread inside)
      · refine sound.event.stay (hasEvent_moveDeinit rfl rfl) ?_
        simp [QueueState.HasEvent, phase, DeinitPhase.hasEvent]
  | signalling =>
      simp only [phase] at taken
      cases taken
      refine ⟨⟨?_, ?_, fun seen filled => sound.signal ?_ filled⟩, ?_⟩
      · exact fun thread inside => sound.queue thread
          (hasQueue_moveDeinit (by rfl) (by rfl) thread ((hasQueue_condSignal thread).mp inside))
      · refine sound.event.stay (fun thread different inside =>
          hasEvent_moveDeinit (by rfl) (by rfl) thread different
            ((hasEvent_condSignal thread).mp inside)) ?_
        simp [QueueState.HasEvent, phase, DeinitPhase.hasEvent]
      · -- A thread that waits is woken and has nothing to see.
        dsimp only [QueueState.condSignal] at seen
        split_ifs at seen
        · exact nomatch seen
        · exact seen
      · rw [pending_condSignal]
        simp [QueueState.pending]
  | unlockingEvent =>
      simp only [phase] at taken
      cases taken
      refine ⟨⟨?_, ?_, sound.signal⟩, by simp [QueueState.pending]⟩
      · exact fun thread inside => sound.queue thread (hasQueue_moveDeinit rfl rfl thread inside)
      · refine sound.event.unlock (hasEvent_moveDeinit rfl rfl) ?_ ?_
        · simp [QueueState.HasEvent, phase, DeinitPhase.hasEvent]
        · simp [QueueState.HasEvent, DeinitPhase.hasEvent]

end Deinit

/-- What every step keeps. -/
theorem kept_step {before after : QueueState} {action : QueueAction} {effects : List QueueEffect}
    (sound : before.Sound) (taken : powerEventQueue.step before action = some (after, effects)) :
    QueueKept before effects after := by
  simp only [powerEventQueue, QueueState.step] at taken
  cases action with
  | onPowerModeChanged caller event =>
      dsimp only at taken
      split_ifs at taken with idle
      cases taken
      refine ⟨⟨?_, ?_, ?_⟩, by simp [QueueState.pending, QueueState.moveProducer]⟩
      · refine sound.queue.stay (hasQueue_moveProducer _) ?_
        simp [QueueState.HasQueue, ProducerPhase.hasQueue]
      · refine sound.event.stay (hasEvent_moveProducer _) ?_
        simp [QueueState.HasEvent, ProducerPhase.hasEvent]
      · exact signal_moveProducer sound _ (by simp [idle, ProducerPhase.owesSignal])
  | producer caller => exact kept_producerStep sound taken
  | consumer => exact kept_consumerStep sound taken
  | wakeUp =>
      dsimp only at taken
      split_ifs at taken with waiting
      cases taken
      refine ⟨⟨?_, ?_, fun seen => nomatch seen⟩, by
        simp [QueueState.pending, waiting, ConsumerPhase.inHand]⟩
      · refine sound.queue.stay (hasQueue_moveConsumer rfl) ?_
        simp [QueueState.HasQueue, ConsumerPhase.hasQueue]
      · refine sound.event.stay (hasEvent_moveConsumer rfl rfl) ?_
        simp [QueueState.HasEvent, ConsumerPhase.hasEvent]
  | callDeinit =>
      dsimp only at taken
      split_ifs at taken with notCalled
      cases taken
      refine ⟨⟨?_, ?_, sound.signal⟩, by simp [QueueState.pending]⟩
      · exact fun thread inside => sound.queue thread (hasQueue_moveDeinit rfl rfl thread inside)
      · refine sound.event.stay (hasEvent_moveDeinit rfl rfl) ?_
        simp [QueueState.HasEvent, DeinitPhase.hasEvent]
  | deinit => exact kept_deinitStep sound taken

/-! ### Runs -/

theorem enqueuedEvents_snoc (trace : List QueueStep) (occurrence : QueueStep) :
    enqueuedEvents (trace ++ [occurrence]) =
      enqueuedEvents trace ++ occurrence.effects.filterMap QueueEffect.enqueued? := by
  simp [enqueuedEvents, Machine.effectsOf]
  rfl

theorem handledEvents_snoc (trace : List QueueStep) (occurrence : QueueStep) :
    handledEvents (trace ++ [occurrence]) =
      handledEvents trace ++ occurrence.effects.filterMap QueueEffect.handled? := by
  simp [handledEvents, Machine.effectsOf]
  rfl

/-- Behind every run the events pushed are those passed on and those pending, in order. -/
theorem sound_run {trace : List QueueStep} {state : QueueState}
    (run : powerEventQueue.Run .initial trace state) :
    state.Sound ∧ enqueuedEvents trace = handledEvents trace ++ state.pending := by
  induction run with
  | nil => exact ⟨QueueState.sound_initial, rfl⟩
  | snoc prior taken ih =>
      obtain ⟨sound, events⟩ := ih
      have kept := kept_step sound taken
      refine ⟨kept.sound, ?_⟩
      rw [enqueuedEvents_snoc, handledEvents_snoc, events, List.append_assoc, kept.events,
        List.append_assoc]

/-- What was passed on is a prefix of what was pushed, what is missing is still pending, and a
waiting thread with events to handle is about to be woken. This holds up to the end of the
handling thread, so until `Deinit` sets the flag and beyond. -/
theorem events_in_order_no_lost_wakeup {trace : List QueueStep} {state : QueueState}
    (run : powerEventQueue.Run .initial trace state) :
    handledEvents trace <+: enqueuedEvents trace ∧
      enqueuedEvents trace = handledEvents trace ++ state.pending ∧
      (state.consumer = .waiting → state.pwrEventQueue ≠ [] →
        ∃ caller, (state.producer caller).owesSignal = true) := by
  obtain ⟨sound, events⟩ := sound_run run
  refine ⟨⟨state.pending, events.symm⟩, events, fun waiting filled => ?_⟩
  apply sound.signal _ filled
  rw [waiting]
  rfl

/-- The handling thread finds the queue empty; an event is pushed before it waits, and its signal
wakes it. -/
def pushBeforeWait : List QueueAction :=
  [.consumer, .consumer, .consumer, .consumer, .onPowerModeChanged 0 ⟨.standby, .on⟩,
    .producer 0, .producer 0, .consumer, .producer 0, .producer 0, .producer 0, .producer 0,
    .consumer, .consumer, .consumer, .consumer, .consumer, .consumer, .consumer, .consumer,
    .consumer]

theorem events_in_order_no_lost_wakeup_push : ∃ (trace : List QueueStep) (state : QueueState),
    Machine.actionsOf trace = pushBeforeWait ∧ handledEvents trace = [⟨.standby, .on⟩] ∧
      handledEvents trace <+: enqueuedEvents trace ∧
      enqueuedEvents trace = handledEvents trace ++ state.pending ∧
      (state.consumer = .waiting → state.pwrEventQueue ≠ [] →
        ∃ caller, (state.producer caller).owesSignal = true) := by
  have played : powerEventQueue.play .initial pushBeforeWait = some (_, _) := rfl
  exact ⟨_, _, rfl, rfl, events_in_order_no_lost_wakeup (Machine.play_run played)⟩

end DeviceSettings.Power
