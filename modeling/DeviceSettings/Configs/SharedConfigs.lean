import DeviceSettings.Configs.HalConfig
import DeviceSettings.Std.Machine

/-!
# The configuration that all callers share

`GetDeviceSettingConfigs` fills the structure of the caller from the HAL library and copies it to
`_cachedConfigs`, from which later calls are served. The vectors of the front panel and
`audioTypes` are replaced; to the other five what the library has is appended.
-/

namespace DeviceSettings.Configs

open DeviceSettings.Std
open DeviceSettings.VideoPort

/-- `DeviceSettingConfigs` of the plugin interface. -/
structure DeviceSettingConfigs where
  audioTypes : List AudioTypeConfigInfo
  audioPorts : List AudioPortConfigInfo
  textDisplays : List FPDTextDisplayConfig
  indicators : List FPDIndicatorConfig
  colors : List FPDColorConfig
  colorBindings : List FPDColorBinding
  videoConfigs : List VideoDeviceConfigInfo
  videoPortTypes : List VideoPortTypeConfig
  videoPorts : List VideoPortPortConfig
  videoPortResolutions : List VideoPortResolution
  deriving DecidableEq

namespace DeviceSettingConfigs

def empty : DeviceSettingConfigs := ⟨[], [], [], [], [], [], [], [], [], []⟩

section Populate

variable {room : Nat} (library : Option (HalLibrary room))

/-- What a first call does to the structure it was passed. -/
def populate (configs : DeviceSettingConfigs) : DeviceSettingConfigs :=
  let fpd := populateFPDConfig library
  let audio := populateAudioConfig library
  let videoPort := populateVideoPortConfig library
  { audioTypes := audio.1
    audioPorts := configs.audioPorts ++ audio.2
    textDisplays := fpd.textDisplays
    indicators := fpd.indicators
    colors := fpd.colors
    colorBindings := fpd.colorBindings
    videoConfigs := configs.videoConfigs ++ populateVideoDeviceConfig library
    videoPortTypes := configs.videoPortTypes ++ videoPort.1
    videoPorts := configs.videoPorts ++ videoPort.2
    -- the resolutions of the first type that the library has, not of the first in `configs`
    videoPortResolutions :=
      match videoPort.1 with
      | [] => configs.videoPortResolutions
      | type :: _ =>
        configs.videoPortResolutions ++ populateVideoPortResolutionConfig library type.typeId }

/-- What the library has: what a first call makes of an empty structure. -/
def ofLibrary : DeviceSettingConfigs := populate library empty

end Populate

/-- The vectors that are appended to are empty. -/
structure Unfilled (configs : DeviceSettingConfigs) : Prop where
  audioPorts : configs.audioPorts = []
  videoConfigs : configs.videoConfigs = []
  videoPortTypes : configs.videoPortTypes = []
  videoPorts : configs.videoPorts = []
  videoPortResolutions : configs.videoPortResolutions = []

variable {room : Nat} {library : Option (HalLibrary room)} {configs : DeviceSettingConfigs}

/-- Nothing of the caller's is left exactly when there was nothing to append to. -/
theorem populate_eq_ofLibrary_iff :
    populate library configs = ofLibrary library ↔ configs.Unfilled := by
  constructor
  · intro same
    simp only [populate, ofLibrary, empty, mk.injEq, true_and, List.nil_append,
      List.append_left_eq_self] at same
    obtain ⟨audioPorts, videoConfigs, videoPortTypes, videoPorts, resolutions⟩ := same
    refine ⟨audioPorts, videoConfigs, videoPortTypes, videoPorts, ?_⟩
    split at resolutions
    · exact resolutions
    · exact List.append_left_eq_self.mp resolutions
  · intro unfilled
    simp only [populate, ofLibrary, empty, unfilled.audioPorts, unfilled.videoConfigs,
      unfilled.videoPortTypes, unfilled.videoPorts, unfilled.videoPortResolutions]

/-- Populating never takes anything out of the vectors that it appends to. -/
theorem unfilled_of_populate (populated : (populate library configs).Unfilled) :
    configs.Unfilled := by
  refine ⟨(List.append_eq_nil_iff.mp populated.audioPorts).1,
    (List.append_eq_nil_iff.mp populated.videoConfigs).1,
    (List.append_eq_nil_iff.mp populated.videoPortTypes).1,
    (List.append_eq_nil_iff.mp populated.videoPorts).1, ?_⟩
  have resolutions := populated.videoPortResolutions
  dsimp only [populate] at resolutions
  split at resolutions
  · exact resolutions
  · exact (List.append_eq_nil_iff.mp resolutions).1

end DeviceSettingConfigs

/-! ### Calls from any number of threads -/

/-- `GetDeviceSettingConfigs`, step by step, with the structure that was passed. -/
inductive ConfigPhase where
  | idle
  | testing (passed : DeviceSettingConfigs)
  | reading (passed : DeviceSettingConfigs)
  | populating (passed : DeviceSettingConfigs)
  /-- In front of the section under `_configMutex` that stores `configs`. -/
  | caching (passed configs : DeviceSettingConfigs)
  | flagging (configs : DeviceSettingConfigs)

/-- What the calls share, and each thread's place in the code. -/
structure ConfigState where
  configLoaded : Bool
  cachedConfigs : DeviceSettingConfigs
  callers : Nat → ConfigPhase

/-- A call begins, or goes on. -/
inductive ConfigAction where
  | getDeviceSettingConfigs (caller : Nat) (configs : DeviceSettingConfigs)
  | caller (caller : Nat)

namespace ConfigState

variable {room : Nat} (library : Option (HalLibrary room))

/-- Before the first call. -/
def initial : ConfigState := ⟨false, .empty, fun _ => .idle⟩

def become (state : ConfigState) (caller : Nat) (phase : ConfigPhase) : ConfigState :=
  { state with callers := Function.update state.callers caller phase }

/-- The next step of a call; it shows what is returned. -/
def callerStep (state : ConfigState) (caller : Nat) :
    Option (ConfigState × List DeviceSettingConfigs) :=
  match state.callers caller with
  | .idle => none
  | .testing passed =>
    some (state.become caller
      (if state.configLoaded then .reading passed else .populating passed), [])
  | .reading _ => some (state.become caller .idle, [state.cachedConfigs])
  | .populating passed =>
    some (state.become caller (.caching passed (passed.populate library)), [])
  | .caching _ configs =>
    some ({ state with cachedConfigs := configs }.become caller (.flagging configs), [])
  | .flagging configs =>
    some ({ state with configLoaded := true }.become caller .idle, [configs])

def step (state : ConfigState) : ConfigAction → Option (ConfigState × List DeviceSettingConfigs)
  | .getDeviceSettingConfigs caller configs =>
    match state.callers caller with
    | .idle => some (state.become caller (.testing configs), [])
    | _ => none
  | .caller caller => state.callerStep library caller

end ConfigState

/-- The calls on one component. -/
def configMachine {room : Nat} (library : Option (HalLibrary room)) :
    Machine ConfigState ConfigAction DeviceSettingConfigs where
  step := ConfigState.step library

/-- A step of a run. -/
abbrev ConfigStep := Occurrence ConfigState ConfigAction DeviceSettingConfigs

/-- All answers are what the library has, and the cache has nothing else. -/
structure SharesLibrary {room : Nat} (library : Option (HalLibrary room))
    (trace : List ConfigStep) (state : ConfigState) : Prop where
  answers : ∀ configs ∈ Machine.effectsOf trace, configs = .ofLibrary library
  cache : state.cachedConfigs = .empty ∨ state.cachedConfigs = .ofLibrary library

/-- A call that stores its structure in the cache was passed one with nothing to append to. -/
def StoresUnfilled (occurrence : ConfigStep) : Prop :=
  ∀ caller passed configs, occurrence.action = .caller caller →
    occurrence.before.callers caller = .caching passed configs → passed.Unfilled

section Runs

variable {room : Nat} {library : Option (HalLibrary room)}

/-- What is about to be stored was populated from what was passed. -/
def Populated (library : Option (HalLibrary room)) (state : ConfigState) : Prop :=
  ∀ caller passed configs, state.callers caller = .caching passed configs →
    configs = passed.populate library

/-- What holds of a call's place where only unfilled structures were stored. -/
def ConfigPhase.Agrees (library : Option (HalLibrary room)) (loaded : Bool)
    (cached : DeviceSettingConfigs) : ConfigPhase → Prop
  | .reading _ => loaded = true
  | .flagging configs => configs = .ofLibrary library ∧ cached = .ofLibrary library
  | _ => True

/-- What is kept where only unfilled structures are stored. -/
structure CacheAgrees (library : Option (HalLibrary room)) (state : ConfigState) : Prop where
  cache : state.cachedConfigs = .empty ∨ state.cachedConfigs = .ofLibrary library
  loaded : state.configLoaded = true → state.cachedConfigs = .ofLibrary library
  phases : ∀ caller,
    (state.callers caller).Agrees library state.configLoaded state.cachedConfigs

theorem Populated.become {state : ConfigState} (populated : Populated library state)
    (caller : Nat) {phase : ConfigPhase}
    (own : ∀ passed configs, phase = .caching passed configs →
      configs = passed.populate library) :
    Populated library (state.become caller phase) := by
  intro other passed configs place
  by_cases same : other = caller
  · subst same
    exact own passed configs (by simpa [ConfigState.become] using place)
  · exact populated other passed configs (by simpa [ConfigState.become, same] using place)

theorem populated_step {before after : ConfigState} {action : ConfigAction}
    {effects : List DeviceSettingConfigs} (populated : Populated library before)
    (taken : (configMachine library).step before action = some (after, effects)) :
    Populated library after := by
  cases action with
  | getDeviceSettingConfigs caller configs =>
      simp only [configMachine, ConfigState.step] at taken
      split at taken <;> cases taken
      exact populated.become caller (by simp)
  | caller caller =>
      simp only [configMachine, ConfigState.step, ConfigState.callerStep] at taken
      split at taken <;> cases taken
      · refine populated.become caller fun passed configs same => ?_
        split_ifs at same
      · exact populated.become caller (by simp)
      · refine populated.become caller fun passed configs same => ?_
        obtain ⟨rfl, rfl⟩ := ConfigPhase.caching.inj same
        rfl
      · have stored : Populated library { before with cachedConfigs := _ } := populated
        exact stored.become caller (by simp)
      · have flagged : Populated library { before with configLoaded := true } := populated
        exact flagged.become caller (by simp)

theorem populated_run {trace : List ConfigStep} {state : ConfigState}
    (run : (configMachine library).Run .initial trace state) : Populated library state :=
  run.invariant (fun _ _ _ place => ConfigPhase.noConfusion place) fun _ _ _ _ => populated_step

theorem CacheAgrees.become {state : ConfigState} (agrees : CacheAgrees library state)
    (caller : Nat) {phase : ConfigPhase}
    (own : phase.Agrees library state.configLoaded state.cachedConfigs) :
    CacheAgrees library (state.become caller phase) := by
  refine ⟨agrees.cache, agrees.loaded, fun other => ?_⟩
  by_cases same : other = caller
  · subst same
    simpa [ConfigState.become] using own
  · simpa [ConfigState.become, same] using agrees.phases other

/-- The store to the cache, with what the library has. -/
theorem CacheAgrees.store {state : ConfigState} (agrees : CacheAgrees library state) :
    CacheAgrees library { state with cachedConfigs := .ofLibrary library } := by
  refine ⟨.inr rfl, fun _ => rfl, fun caller => ?_⟩
  have phase := agrees.phases caller
  dsimp only
  cases place : state.callers caller with
  | flagging configs =>
      rw [place] at phase
      exact ⟨phase.1, rfl⟩
  | reading passed =>
      rw [place] at phase
      exact phase
  | idle | testing | populating | caching => trivial

/-- The store to the flag, behind a store to the cache. -/
theorem CacheAgrees.load {state : ConfigState} (agrees : CacheAgrees library state)
    (stored : state.cachedConfigs = .ofLibrary library) :
    CacheAgrees library { state with configLoaded := true } := by
  refine ⟨.inr stored, fun _ => stored, fun caller => ?_⟩
  have phase := agrees.phases caller
  dsimp only
  cases place : state.callers caller with
  | flagging configs =>
      rw [place] at phase
      exact phase
  | reading passed => rfl
  | idle | testing | populating | caching => trivial

/-- One step of a call, where what it stores is unfilled. -/
theorem cacheAgrees_callerStep {before after : ConfigState} {caller : Nat}
    {effects : List DeviceSettingConfigs} (populated : Populated library before)
    (agrees : CacheAgrees library before)
    (taken : before.callerStep library caller = some (after, effects))
    (fits : ∀ passed configs, before.callers caller = .caching passed configs →
      passed.Unfilled) :
    CacheAgrees library after ∧ ∀ configs ∈ effects, configs = .ofLibrary library := by
  have phase := agrees.phases caller
  unfold ConfigState.callerStep at taken
  split at taken <;> rename_i place <;> rw [place] at phase <;> cases taken
  · refine ⟨agrees.become caller ?_, by simp⟩
    split_ifs with loaded
    · exact loaded
    · trivial
  · exact ⟨agrees.become caller trivial, by simpa using agrees.loaded phase⟩
  · exact ⟨agrees.become caller trivial, by simp⟩
  · rename_i passed configs
    obtain rfl := populated caller passed configs place
    have whole : passed.populate library = .ofLibrary library :=
      DeviceSettingConfigs.populate_eq_ofLibrary_iff.mpr (fits _ _ place)
    rw [whole]
    exact ⟨agrees.store.become caller ⟨rfl, rfl⟩, by simp⟩
  · exact ⟨(agrees.load phase.2).become caller trivial, by simpa using phase.1⟩

theorem cacheAgrees_step {before after : ConfigState} {action : ConfigAction}
    {effects : List DeviceSettingConfigs} (populated : Populated library before)
    (agrees : CacheAgrees library before)
    (taken : (configMachine library).step before action = some (after, effects))
    (fits : StoresUnfilled ⟨before, action, effects, after⟩) :
    CacheAgrees library after ∧ ∀ configs ∈ effects, configs = .ofLibrary library := by
  cases action with
  | getDeviceSettingConfigs caller configs =>
      simp only [configMachine, ConfigState.step] at taken
      split at taken <;> cases taken
      exact ⟨agrees.become caller trivial, by simp⟩
  | caller caller =>
      exact cacheAgrees_callerStep populated agrees taken fun passed configs =>
        fits caller passed configs rfl

theorem cacheAgrees_initial : CacheAgrees library .initial :=
  ⟨.inl rfl, fun loaded => Bool.noConfusion loaded, fun _ => trivial⟩

/-- A run in which only unfilled structures are stored. -/
theorem sharesLibrary_of_unfilled {trace : List ConfigStep} {state : ConfigState}
    (run : (configMachine library).Run .initial trace state)
    (fits : ∀ occurrence ∈ trace, StoresUnfilled occurrence) :
    SharesLibrary library trace state ∧ CacheAgrees library state := by
  induction run with
  | nil => exact ⟨⟨by simp [Machine.effectsOf], .inl rfl⟩, cacheAgrees_initial⟩
  | @snoc trace before action after effects prior taken ih =>
      obtain ⟨shares, agrees⟩ := ih fun occurrence member =>
        fits occurrence (List.mem_append_left _ member)
      obtain ⟨agrees', answers⟩ := cacheAgrees_step (populated_run prior) agrees taken
        (fits _ (List.mem_append_right _ List.mem_cons_self))
      refine ⟨⟨fun configs member => ?_, agrees'.cache⟩, agrees'⟩
      rw [Machine.effectsOf_snoc] at member
      rcases List.mem_append.mp member with old | new
      · exact shares.answers configs old
      · exact answers configs new

/-- The section under `_configMutex`. -/
theorem cachedConfigs_of_caching {before after : ConfigState} {caller : Nat}
    {effects : List DeviceSettingConfigs} {passed configs : DeviceSettingConfigs}
    (taken : (configMachine library).step before (.caller caller) = some (after, effects))
    (place : before.callers caller = .caching passed configs) :
    after.cachedConfigs = configs := by
  simp only [configMachine, ConfigState.step, ConfigState.callerStep, place] at taken
  cases taken
  rfl

/-- What is stored shows in the cache, so a cache that has nothing of a caller's was stored from an
unfilled structure. -/
theorem unfilled_of_cache {configs passed : DeviceSettingConfigs}
    (populated : configs = passed.populate library)
    (cache : configs = .empty ∨ configs = .ofLibrary library) : passed.Unfilled := by
  subst populated
  rcases cache with none | whole
  · have nothing : (passed.populate library).Unfilled := by
      rw [none]
      exact ⟨rfl, rfl, rfl, rfl, rfl⟩
    exact DeviceSettingConfigs.unfilled_of_populate nothing
  · exact DeviceSettingConfigs.populate_eq_ofLibrary_iff.mp whole

/-- Any number of calls, in any interleaving: in every state reached all answers and the cache are
what the library has exactly when every call that stored its structure was passed an unfilled
one. -/
theorem shares_library_iff {trace : List ConfigStep} {state : ConfigState}
    (run : (configMachine library).Run .initial trace state) :
    (∀ earlier later middle, trace = earlier ++ later →
      (configMachine library).Run .initial earlier middle →
        SharesLibrary library earlier middle) ↔
      ∀ occurrence ∈ trace, StoresUnfilled occurrence := by
  constructor
  · intro shares occurrence member caller passed configs act place
    obtain ⟨earlier, later, rfl⟩ := List.append_of_mem member
    obtain ⟨prior, taken⟩ := run.at_occurrence
    have behind := shares _ later _ (List.append_cons earlier _ later) (.snoc prior taken)
    rw [act] at taken
    refine unfilled_of_cache (populated_run prior caller passed configs place) ?_
    rw [← cachedConfigs_of_caching taken place]
    exact behind.cache
  · intro fits earlier later middle split prior
    refine (sharesLibrary_of_unfilled prior fun occurrence member => fits occurrence ?_).1
    rw [split]
    exact List.mem_append_left _ member

end Runs

namespace OneSpeaker

/-- A library that has the audio tables only, with one port. -/
def library : HalLibrary 31 where
  kFPDIndicatorColors := ⟨none, none⟩
  kIndicators := ⟨none, none⟩
  kFPDTextDisplays := ⟨none, none⟩
  kAudioConfigs := ⟨some [], some 0⟩
  kAudioPorts := ⟨some [⟨⟨3, 0⟩, none⟩], some 1⟩
  kVideoPortConfigs := ⟨none, none⟩
  kVideoPortPorts := ⟨none, none⟩
  kResolutionsSettings := ⟨none, none⟩
  kVideoDeviceConfigs := ⟨none, none⟩

/-- A structure in which a caller has left an audio port. -/
def leftOver : DeviceSettingConfigs := { DeviceSettingConfigs.empty with
  audioPorts := [⟨7, 1, -1, -1⟩] }

/-- Two first calls that overlap, and a later one with entries of its own. -/
def overlapping : List ConfigAction :=
  [.getDeviceSettingConfigs 0 .empty, .getDeviceSettingConfigs 1 .empty, .caller 0, .caller 1,
    .caller 0, .caller 1, .caller 1, .caller 0, .caller 0, .caller 1,
    .getDeviceSettingConfigs 0 leftOver, .caller 0, .caller 0]

/-- The caller with entries of its own comes first. -/
def filledFirst : List ConfigAction :=
  [.getDeviceSettingConfigs 0 leftOver, .caller 0, .caller 0, .caller 0, .caller 0,
    .getDeviceSettingConfigs 1 .empty, .caller 1, .caller 1]

end OneSpeaker

theorem shares_library_iff_overlapping : ∃ (trace : List ConfigStep) (state : ConfigState),
    (configMachine (some OneSpeaker.library)).Run .initial trace state ∧
      Machine.actionsOf trace = OneSpeaker.overlapping ∧
      ((∀ earlier later middle, trace = earlier ++ later →
        (configMachine (some OneSpeaker.library)).Run .initial earlier middle →
          SharesLibrary (some OneSpeaker.library) earlier middle) ↔
        ∀ occurrence ∈ trace, StoresUnfilled occurrence) := by
  have played : (configMachine (some OneSpeaker.library)).play .initial OneSpeaker.overlapping =
      some (_, _) := rfl
  have run := Machine.play_run played
  exact ⟨_, _, run, Machine.actionsOf_played played, shares_library_iff run⟩

/-- The second caller passes an empty structure and gets the port of the first. -/
theorem not_shares_library : ∃ (trace : List ConfigStep) (state : ConfigState),
    (configMachine (some OneSpeaker.library)).Run .initial trace state ∧
      Machine.actionsOf trace = OneSpeaker.filledFirst ∧
      ¬SharesLibrary (some OneSpeaker.library) trace state := by
  have played : (configMachine (some OneSpeaker.library)).play .initial OneSpeaker.filledFirst =
      some (_, _) := rfl
  refine ⟨_, _, Machine.play_run played, Machine.actionsOf_played played, fun shares => ?_⟩
  have answered := shares.answers ⟨[], [⟨7, 1, -1, -1⟩, ⟨3, 0, -1, -1⟩], [], [], [], [], [], [],
    [], []⟩ (List.mem_of_getElem? (show _[1]? = some _ from rfl))
  exact absurd answered (by decide)

end DeviceSettings.Configs
