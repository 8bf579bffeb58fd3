import DeviceSettings.Backend.ServiceManagerCheck
import DeviceSettings.Std.Machine

/-!
# The choice of a backend

`VideoPort` and `VideoDevice` ask `HalFactoryUtility` whether the AIDL service of the HDMI output
is there, and take the legacy HAL where it is not. What was found out about a service is kept for
the rest of the process.

This is the class as `HalFactoryUtility.cpp` defines it. The library is not built with that file: it
is not in the `CMakeLists.txt` of the plugin, it has the class in an anonymous namespace, and
`VideoPort.cpp` and `VideoDevice.cpp` include a `hal/HalFactoryUtility.h` that is not there.
-/

namespace DeviceSettings.Backend

open DeviceSettings.Std

inductive BackendType where
  | unknown
  | legacy
  | aidl
  deriving DecidableEq, Repr

/-- The components with two backends. -/
inductive HdmiComponent where
  | videoPort
  | videoDevice
  deriving DecidableEq, Repr

def serviceManagerName : String := "manager"

/-- The binder driver as the process finds it, and `mBackendType`. -/
structure HalFactory (σ : Type) where
  driver : σ
  backendType : String → Option BackendType

namespace HalFactory

variable {σ : Type} (driver : BinderDriver σ)

/-- The names that the services are searched through: not that of the manager. -/
def discovered (services : List String) : List String :=
  services.filter (· ≠ serviceManagerName)

def setBackend (factory : HalFactory σ) (name : String) (backend : BackendType) : HalFactory σ :=
  { factory with backendType := Function.update factory.backendType name (some backend) }

/-- `isAidlServiceAvailable(expectedServiceName)` where nothing is known of the service yet;
`services` is what `listServices` answers, if there is a `defaultServiceManager`. -/
def inspect (factory : HalFactory σ) (services : Option (List String)) (name : String) :
    Bool × HalFactory σ × List DriverEvent :=
  let factory := factory.setBackend name .unknown
  let check := isServiceManagerAvailable driver factory.driver
  let factory := { factory with driver := check.2.1 }
  if check.1 = false then (false, factory.setBackend name .legacy, check.2.2)
  else
    match services with
    | none => (false, factory.setBackend name .legacy, check.2.2)
    | some services =>
      if (discovered services).length = 0 then
        (false, factory.setBackend name .legacy, check.2.2)
      else if name ∈ discovered services then (true, factory.setBackend name .aidl, check.2.2)
      else (false, factory.setBackend name .legacy, check.2.2)

/-- `isAidlServiceAvailable(expectedServiceName)`. -/
def isAidlServiceAvailable (factory : HalFactory σ) (services : Option (List String))
    (name : String) : Bool × HalFactory σ × List DriverEvent :=
  match factory.backendType name with
  | some .aidl => (true, factory, [])
  | some .legacy => (false, factory, [])
  | _ => factory.inspect driver services name

/-- The service is there: its manager answers, and lists it beside itself. -/
def offers (factory : HalFactory σ) (services : Option (List String)) (name : String) : Bool :=
  (isServiceManagerAvailable driver factory.driver).1 &&
    services.any fun services => decide (name ∈ discovered services)

theorem inspect_eq (factory : HalFactory σ) (services : Option (List String)) (name : String) :
    factory.inspect driver services name =
      (factory.offers driver services name,
        ⟨(isServiceManagerAvailable driver factory.driver).2.1,
          Function.update factory.backendType name
            (some (if factory.offers driver services name then .aidl else .legacy))⟩,
        (isServiceManagerAvailable driver factory.driver).2.2) := by
  unfold inspect offers setBackend
  dsimp only
  rcases (isServiceManagerAvailable driver factory.driver) with ⟨_ | _, state, events⟩
  · simp
  · cases services with
    | none => simp
    | some services =>
        by_cases none : (discovered services).length = 0
        · have absent : name ∉ discovered services := by
            rw [List.length_eq_zero_iff.mp none]
            exact List.not_mem_nil
          simp [none, absent]
        · by_cases present : name ∈ discovered services
          · simp [none, present]
          · simp [none, present]

end HalFactory

/-! ### Runs of a process -/

/-- A service is asked for, a component is created, or the driver changes by itself; where services
are asked for, `services` are those listed at that time. -/
inductive BackendAction (σ : Type) where
  | isAidlServiceAvailable (name : String) (services : Option (List String))
  | create (component : HdmiComponent) (services : Option (List String))
  | driverChanges (driver : σ)

inductive BackendEffect where
  | driver (event : DriverEvent)
  | answered (name : String) (available : Bool)
  | created (component : HdmiComponent) (backend : BackendType)
  deriving DecidableEq, Repr

section Runs

variable {σ : Type} (driver : BinderDriver σ) (hdmiOutput : String)

/-- `VideoPort::Create` and `VideoDevice::Create` ask for the same service. -/
def HalFactory.step (factory : HalFactory σ) :
    BackendAction σ → Option (HalFactory σ × List BackendEffect)
  | .isAidlServiceAvailable name services =>
    let asked := factory.isAidlServiceAvailable driver services name
    some (asked.2.1, asked.2.2.map .driver ++ [.answered name asked.1])
  | .create component services =>
    let asked := factory.isAidlServiceAvailable driver services hdmiOutput
    let backend := if asked.1 then .aidl else .legacy
    some (asked.2.1,
      asked.2.2.map .driver ++ [.answered hdmiOutput asked.1, .created component backend])
  | .driverChanges changed => some ({ factory with driver := changed }, [])

/-- The choices of a process. -/
def backends : Machine (HalFactory σ) (BackendAction σ) BackendEffect :=
  ⟨HalFactory.step driver hdmiOutput⟩

abbrev BackendStep (σ : Type) := Occurrence (HalFactory σ) (BackendAction σ) BackendEffect

/-- The service that a step asks for, and what is listed then. -/
def asked : BackendAction σ → Option (String × Option (List String))
  | .isAidlServiceAvailable name services => some (name, services)
  | .create _ services => some (hdmiOutput, services)
  | .driverChanges _ => none

/-- A step asks for the service. -/
def asksFor (name : String) (step : BackendStep σ) : Bool :=
  (asked hdmiOutput step.action).any (·.1 == name)

/-- What a step finds out where it has to look. -/
def findsOut (name : String) (step : BackendStep σ) : Bool :=
  (asked hdmiOutput step.action).any fun query => step.before.offers driver query.2 name

def backendOf (available : Bool) : BackendType := if available then .aidl else .legacy

/-- The step that has asked for a service first, if any has. -/
def firstAsk (name : String) (trace : List (BackendStep σ)) : Option (BackendStep σ) :=
  trace.find? (asksFor hdmiOutput name)

/-- What is known of a service was found out when it was asked for first. -/
def Knows (trace : List (BackendStep σ)) (factory : HalFactory σ) : Prop :=
  ∀ name, factory.backendType name =
    ((firstAsk hdmiOutput name trace).map (findsOut driver hdmiOutput name)).map backendOf

variable {driver hdmiOutput}

/-- Where a service is known, the answer is at hand, and where not it is found out. -/
theorem isAidlServiceAvailable_spec (driver : BinderDriver σ) {factory : HalFactory σ}
    (services : Option (List String)) {name : String} {known : Option Bool}
    (knows : factory.backendType name = known.map backendOf) :
    let asked := factory.isAidlServiceAvailable driver services name
    asked.1 = known.getD (factory.offers driver services name) ∧
      asked.2.1.backendType = Function.update factory.backendType name (some (backendOf asked.1)) ∧
        (known.isSome → asked.2 = (factory, [])) := by
  unfold HalFactory.isAidlServiceAvailable
  rw [knows]
  cases known with
  | none =>
      dsimp only [Option.map_none]
      rw [HalFactory.inspect_eq]
      exact ⟨rfl, rfl, fun impossible => by simp at impossible⟩
  | some available =>
      cases available <;>
        exact ⟨rfl, (Function.update_eq_self_iff.mpr knows.symm).symm, fun _ => rfl⟩

/-- The driver is left closed, whether it is asked or not. -/
theorem follow_isAidlServiceAvailable (driver : BinderDriver σ) (factory : HalFactory σ)
    (services : Option (List String)) (name : String) :
    driverUsage.follow .closed (factory.isAidlServiceAvailable driver services name).2.2 =
      some .closed := by
  unfold HalFactory.isAidlServiceAvailable
  split
  · rfl
  · rfl
  · rw [HalFactory.inspect_eq]
    exact follow_isServiceManagerAvailable driver factory.driver

/-- What a step that asks for a service answers. -/
def answerOf (effects : List BackendEffect) : Option Bool :=
  effects.findSome? fun
    | .answered _ available => some available
    | _ => none

theorem answerOf_append (events : List DriverEvent) (name : String) (available : Bool)
    (later : List BackendEffect) :
    answerOf (events.map .driver ++ .answered name available :: later) = some available := by
  have quiet : (events.map BackendEffect.driver).findSome? (fun
      | .answered _ available => some available
      | _ => none) = (none : Option Bool) := by
    simp
  rw [answerOf, List.findSome?_append, quiet]
  rfl

/-- What clients see of the driver. -/
def driverEvents (effects : List BackendEffect) : List DriverEvent :=
  effects.filterMap fun
    | .driver event => some event
    | _ => none

theorem driverEvents_append (events : List DriverEvent) {others : List BackendEffect}
    (quiet : driverEvents others = []) :
    driverEvents (events.map .driver ++ others) = events := by
  unfold driverEvents at quiet ⊢
  rw [List.filterMap_append, quiet, List.append_nil, List.filterMap_map]
  exact List.filterMap_some

theorem driverEvents_answered (events : List DriverEvent) (name : String) {available : Bool}
    {rest : List BackendEffect}
    (onlyCreated : ∀ effect ∈ rest, ∃ component,
      effect = .created component (backendOf available)) :
    driverEvents (events.map .driver ++ .answered name available :: rest) = events := by
  refine driverEvents_append _ ?_
  unfold driverEvents
  rw [List.filterMap_eq_nil_iff]
  intro effect member
  rcases List.mem_cons.mp member with rfl | later
  · rfl
  · obtain ⟨component, rfl⟩ := onlyCreated effect later
    rfl

/-- The driver changes, or a service is asked for; only a component that is created then is named
behind the answer. -/
theorem step_cases {before after : HalFactory σ} {action : BackendAction σ}
    {effects : List BackendEffect}
    (taken : (backends driver hdmiOutput).step before action = some (after, effects)) :
    (∃ changed, action = .driverChanges changed ∧ after = { before with driver := changed } ∧
        effects = []) ∨
      ∃ name services rest, asked hdmiOutput action = some (name, services) ∧
        let called := before.isAidlServiceAvailable driver services name
        after = called.2.1 ∧ effects = called.2.2.map .driver ++ .answered name called.1 :: rest ∧
          ∀ effect ∈ rest, ∃ component, effect = .created component (backendOf called.1) := by
  cases action with
  | isAidlServiceAvailable name services =>
      obtain ⟨rfl, rfl⟩ := Prod.mk.inj (Option.some.inj taken)
      exact .inr ⟨name, services, [], rfl, rfl, rfl, by simp⟩
  | create component services =>
      obtain ⟨rfl, rfl⟩ := Prod.mk.inj (Option.some.inj taken)
      exact .inr ⟨hdmiOutput, services, _, rfl, rfl, rfl, by simp [backendOf]⟩
  | driverChanges changed =>
      obtain ⟨rfl, rfl⟩ := Prod.mk.inj (Option.some.inj taken)
      exact .inl ⟨changed, rfl, rfl, rfl⟩

theorem firstAsk_snoc (name : String) (trace : List (BackendStep σ)) (step : BackendStep σ) :
    firstAsk hdmiOutput name (trace ++ [step]) =
      (firstAsk hdmiOutput name trace).or
        (if asksFor hdmiOutput name step then some step else none) := by
  unfold firstAsk
  rw [List.find?_append, List.find?_singleton]

/-- What a step does that asks for a service: it answers what was found out first, looks for itself
only where nothing is known, and a component is created on the backend of the answer. -/
structure Answers (driver : BinderDriver σ) (hdmiOutput : String) (trace : List (BackendStep σ))
    (step : BackendStep σ) (name : String) : Prop where
  answer : answerOf step.effects =
    (firstAsk hdmiOutput name (trace ++ [step])).map (findsOut driver hdmiOutput name)
  created : ∀ component backend, .created component backend ∈ step.effects →
    some backend = (answerOf step.effects).map backendOf
  known : (firstAsk hdmiOutput name trace).isSome → driverEvents step.effects = []

variable {trace : List (BackendStep σ)} {before after : HalFactory σ} {action : BackendAction σ}
  {effects : List BackendEffect}

theorem answers_step (knows : Knows driver hdmiOutput trace before)
    (taken : (backends driver hdmiOutput).step before action = some (after, effects)) :
    Knows driver hdmiOutput (trace ++ [⟨before, action, effects, after⟩]) after ∧
      ∀ name services, asked hdmiOutput action = some (name, services) →
        Answers driver hdmiOutput trace ⟨before, action, effects, after⟩ name := by
  rcases step_cases taken with ⟨changed, rfl, rfl, rfl⟩ | ⟨name, services, rest, asks, called⟩
  · refine ⟨fun name => ?_, fun name services impossible => by simp [asked] at impossible⟩
    rw [firstAsk_snoc]
    simpa [asksFor, asked] using knows name
  · obtain ⟨rfl, rfl, onlyCreated⟩ := called
    have known : before.backendType name =
        ((firstAsk hdmiOutput name trace).map (findsOut driver hdmiOutput name)).map
          backendOf := knows name
    obtain ⟨answer, keeps, quiet⟩ :=
      isAidlServiceAvailable_spec driver services known
    have events := driverEvents_answered (before.isAidlServiceAvailable driver services name).2.2
      name onlyCreated
    generalize before.isAidlServiceAvailable driver services name = called at *
    obtain ⟨available, factory, made⟩ := called
    dsimp only at answer keeps quiet events onlyCreated
    have found : answerOf (made.map .driver ++ .answered name available :: rest) =
        some available := answerOf_append made name available rest
    -- What is known behind the step: the first to ask was another one, or it is this one.
    have first : (firstAsk hdmiOutput name (trace ++ [⟨before, action,
        made.map .driver ++ .answered name available :: rest, factory⟩])).map
          (findsOut driver hdmiOutput name) = some available := by
      rw [firstAsk_snoc]
      cases ask : firstAsk hdmiOutput name trace with
      | none =>
          rw [ask, Option.map_none, Option.getD_none] at answer
          simp [asksFor, findsOut, asks, answer]
      | some step =>
          rw [ask, Option.map_some, Option.getD_some] at answer
          simp [answer]
    refine ⟨fun other => ?_, ?_⟩
    · dsimp only at keeps ⊢
      rw [keeps]
      by_cases same : other = name
      · subst same
        rw [Function.update_self, first, Option.map_some]
      · rw [Function.update_of_ne same, knows other, firstAsk_snoc]
        have noAsk : asksFor hdmiOutput other (⟨before, action,
            made.map .driver ++ .answered name available :: rest, factory⟩ :
              BackendStep σ) = false := by
          simp [asksFor, asks, Ne.symm same]
        rw [noAsk]
        simp
    · intro wanted services' asks'
      rw [asks] at asks'
      obtain ⟨rfl, rfl⟩ := Prod.mk.inj (Option.some.inj asks')
      refine ⟨?_, fun component backend member => ?_, fun present => ?_⟩
      · exact found.trans first.symm
      · dsimp only at member ⊢
        rw [found, Option.map_some]
        rcases List.mem_append.mp member with ofDriver | later
        · simp at ofDriver
        · rcases List.mem_cons.mp later with impossible | created
          · cases impossible
          · obtain ⟨_, same⟩ := onlyCreated _ created
            cases same
            rfl
      · rw [events]
        exact congrArg Prod.snd (quiet (by simpa using present))

/-- A component is created where the service of the HDMI output is asked for. -/
theorem asked_of_created
    (taken : (backends driver hdmiOutput).step before action = some (after, effects))
    {component : HdmiComponent} {backend : BackendType}
    (member : .created component backend ∈ effects) :
    ∃ services, asked hdmiOutput action = some (hdmiOutput, services) := by
  cases action with
  | create component services => exact ⟨services, rfl⟩
  | isAidlServiceAvailable name services =>
      obtain ⟨rfl, rfl⟩ := Prod.mk.inj (Option.some.inj taken)
      simp at member
  | driverChanges changed =>
      obtain ⟨rfl, rfl⟩ := Prod.mk.inj (Option.some.inj taken)
      simp at member

/-- A process in which no service has been asked for. -/
def HalFactory.ofProcess (state : σ) : HalFactory σ := ⟨state, fun _ => none⟩

theorem knows_run {state : σ} {factory : HalFactory σ}
    (run : (backends driver hdmiOutput).Run (.ofProcess state) trace factory) :
    Knows driver hdmiOutput trace factory :=
  run.history (fun _ => rfl) fun _ _ _ _ _ knows taken => (answers_step knows taken).1

theorem follow_step (taken : (backends driver hdmiOutput).step before action =
    some (after, effects)) : driverUsage.follow .closed (driverEvents effects) = some .closed := by
  rcases step_cases taken with ⟨changed, rfl, rfl, rfl⟩ | ⟨name, services, rest, asks, called⟩
  · rfl
  · obtain ⟨rfl, rfl, onlyCreated⟩ := called
    rw [driverEvents_answered _ _ onlyCreated]
    exact follow_isAidlServiceAvailable driver before services name

/-- In every process the first to ask for a service decides for all that follow, whatever becomes
of the service; `VideoPort` and `VideoDevice` are created on one backend; and the driver, which is
asked behind no answer that is known, is left closed. -/
theorem backends_run {state : σ} {factory : HalFactory σ}
    (run : (backends driver hdmiOutput).Run (.ofProcess state) trace factory) :
    (∀ earlier step later name services, trace = earlier ++ step :: later →
        asked hdmiOutput step.action = some (name, services) →
          Answers driver hdmiOutput earlier step name) ∧
      (∀ one other backend backend', .created one backend ∈ Machine.effectsOf trace →
        .created other backend' ∈ Machine.effectsOf trace → backend = backend') ∧
        driverUsage.follow .closed (driverEvents (Machine.effectsOf trace)) = some .closed := by
  have answers : ∀ earlier step later name services, trace = earlier ++ step :: later →
      asked hdmiOutput step.action = some (name, services) →
        Answers driver hdmiOutput earlier step name := by
    rintro earlier step later name services rfl asks
    obtain ⟨prior, taken⟩ := run.at_occurrence
    exact (answers_step (knows_run prior) taken).2 name services asks
  have decided : ∀ component backend, .created component backend ∈ Machine.effectsOf trace →
      some backend = ((firstAsk hdmiOutput hdmiOutput trace).map
        (findsOut driver hdmiOutput hdmiOutput)).map backendOf := by
    intro component backend member
    obtain ⟨step, inTrace, here⟩ := List.mem_flatMap.mp member
    obtain ⟨earlier, later, split⟩ := List.append_of_mem inTrace
    obtain ⟨services, asks⟩ := asked_of_created (run.step_of_mem inTrace) here
    obtain ⟨answer, created, -⟩ := answers earlier step later _ services split asks
    have present : asksFor hdmiOutput hdmiOutput step = true := by simp [asksFor, asks]
    have same : firstAsk hdmiOutput hdmiOutput trace =
        firstAsk hdmiOutput hdmiOutput (earlier ++ [step]) := by
      rw [split, ← List.singleton_append, ← List.append_assoc]
      unfold firstAsk
      rw [List.find?_append, @List.find?_append _ _ earlier]
      cases List.find? (asksFor hdmiOutput hdmiOutput) earlier <;> simp [present]
    rw [same, ← answer]
    exact created component backend here
  refine ⟨answers, fun one other backend backend' left right => ?_, ?_⟩
  · exact Option.some.inj ((decided one backend left).trans (decided other backend' right).symm)
  · exact run.follow_eq driverUsage (fun _ => .closed) _ fun _ _ _ _ taken => follow_step taken

end Runs

/-- A driver whose context manager replies. -/
def ReplyingDriver.driver : BinderDriver Unit where
  codes := .ofKernel
  tfAcceptFds := 0x10
  openDevice _ := (some 3, ())
  protocolVersion _ _ := (some 8, ())
  mmap _ _ _ := (some 4096, ())
  writeRead _ _ _ := (some [0x720c, 0x7206, 0x720c, 0x80407203], ())
  munmap _ _ _ := ()
  close _ _ := ()

/-- A component is created while `services` are listed. -/
def ReplyingDriver.created (factory : HalFactory Unit) (component : HdmiComponent)
    (services : List String) : BackendStep Unit :=
  let asked := factory.isAidlServiceAvailable driver (some services) "hdmioutput"
  ⟨factory, .create component (some services),
    asked.2.2.map .driver ++ [.answered "hdmioutput" asked.1,
      .created component (if asked.1 then .aidl else .legacy)], asked.2.1⟩

/-- The service comes up between the two components. -/
theorem backends_run_late :
    let videoPort := ReplyingDriver.created (.ofProcess ()) .videoPort ["manager", "audio"]
    let videoDevice :=
      ReplyingDriver.created videoPort.after .videoDevice ["manager", "audio", "hdmioutput"]
    let trace := [videoPort, videoDevice]
    (∀ earlier step later name services, trace = earlier ++ step :: later →
        asked "hdmioutput" step.action = some (name, services) →
          Answers ReplyingDriver.driver "hdmioutput" earlier step name) ∧
      (∀ one other backend backend', .created one backend ∈ Machine.effectsOf trace →
        .created other backend' ∈ Machine.effectsOf trace → backend = backend') ∧
        driverUsage.follow .closed (driverEvents (Machine.effectsOf trace)) = some .closed := by
  intro videoPort videoDevice trace
  have run : (backends ReplyingDriver.driver "hdmioutput").Run (.ofProcess ()) trace
      videoDevice.after := .snoc (.snoc .nil rfl) rfl
  exact backends_run run

end DeviceSettings.Backend
