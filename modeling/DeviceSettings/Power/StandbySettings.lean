import DeviceSettings.Power.PortStates
import DeviceSettings.Std.BoundedMap

/-!
# What `GetStandbyVideoState` remembers

The five entries of `_standbyVideoPortSetting` go to the first five names that are set. Setting
another name writes nowhere and still answers with 0, so the setting is lost.
-/

namespace DeviceSettings.Power

open DeviceSettings.Std
open DeviceSettings.Audio

/-- A name that the parameter's array can hold. -/
structure PortName (port : String) : Prop where
  nonempty : port ≠ ""
  terminated : '\x00' ∉ port.toList
  fits : port.length < maxVideoPortNameLength

instance (port : String) : Decidable (PortName port) :=
  decidable_of_iff
    (port ≠ "" ∧ '\x00' ∉ port.toList ∧ port.length < maxVideoPortNameLength)
    ⟨fun named => ⟨named.1, named.2.1, named.2.2⟩,
      fun named => ⟨named.nonempty, named.terminated, named.fits⟩⟩

/-- What the comparison of names goes by. -/
def settingKey (port : String) : List Char :=
  ((cString port.toList).toList.take maxVideoPortNameLength).map Char.toLower

namespace StandbyTable

theorem names_iff {entry : StandbyVideoState} {port : String} :
    names entry port = true ↔ settingKey port = settingKey entry.port := by
  rw [names, strncasecmpEq, beq_iff_eq, settingKey, settingKey]

/-- An entry as it is looked up. -/
def slot (entry : StandbyVideoState) : List Char × Bool := (settingKey entry.port, entry.isEnabled)

/-- An entry that is unused. -/
def free : StandbyVideoState := ⟨"", false⟩

/-- `set` on the list of entries. -/
def setEntries (entries : List StandbyVideoState) (port : String) (isEnabled : Bool) :
    List StandbyVideoState :=
  match entries.findIdx? (names · port) with
  | some index => entries.modify index fun entry => { entry with isEnabled := isEnabled }
  | none =>
    match entries.findIdx? fun entry => (cString entry.port.toList).isEmpty with
    | some index =>
      entries.modify index fun _ => ⟨strncpy port (maxVideoPortNameLength - 1), isEnabled⟩
    | none => entries

theorem set_entries (table : StandbyTable) (port : String) (isEnabled : Bool) :
    (table.set port isEnabled).entries = setEntries table.entries port isEnabled := by
  unfold set setEntries
  cases table.entries.findIdx? (names · port) with
  | some index => rfl
  | none =>
      dsimp only
      cases table.entries.findIdx? fun entry => (cString entry.port.toList).isEmpty with
      | some index => rfl
      | none => rfl

section Entries

variable {port : String} {isEnabled : Bool} {entry : StandbyVideoState}
  {rest : List StandbyVideoState}

theorem setEntries_cons_of_named (same : settingKey port = settingKey entry.port) :
    setEntries (entry :: rest) port isEnabled = { entry with isEnabled := isEnabled } :: rest := by
  simp [setEntries, List.findIdx?_cons, names_iff.mpr same]

/-- A used entry of another name is passed by. -/
theorem setEntries_cons_of_other (other : settingKey port ≠ settingKey entry.port)
    (used : settingKey entry.port ≠ []) :
    setEntries (entry :: rest) port isEnabled = entry :: setEntries rest port isEnabled := by
  have unnamed : names entry port = false := Bool.eq_false_iff.mpr (mt names_iff.mp other)
  have taken : (cString entry.port.toList).isEmpty = false := by
    refine Bool.eq_false_iff.mpr fun empty => used ?_
    rw [settingKey, String.isEmpty_iff.mp empty]
    rfl
  simp only [setEntries, List.findIdx?_cons, unnamed, taken, Bool.false_eq_true, if_false]
  cases rest.findIdx? (names · port) with
  | some index => simp
  | none =>
      cases rest.findIdx? fun entry => (cString entry.port.toList).isEmpty with
      | some index => simp
      | none => simp

variable (named : PortName port)
include named

theorem settingKey_eq : settingKey port = port.toList.map Char.toLower := by
  have whole : strncpy port maxVideoPortNameLength = port :=
    strncpy_eq_self named.fits.le named.terminated
  rw [settingKey, ← String.toList_ofList (l := (cString port.toList).toList.take _), ← strncpy,
    whole]

theorem settingKey_ne : settingKey port ≠ [] := by
  rw [settingKey_eq named]
  simpa using named.nonempty

/-- An unused entry is found under no name. -/
theorem settingKey_ne_free : settingKey port ≠ settingKey free.port := settingKey_ne named

theorem settingKey_strncpy :
    settingKey (strncpy port (maxVideoPortNameLength - 1)) = settingKey port := by
  rw [strncpy_eq_self (Nat.le_sub_one_of_lt named.fits) named.terminated]

/-- The first unused entry takes the name. -/
theorem setEntries_free (count : Nat) :
    setEntries (List.replicate (count + 1) free) port isEnabled =
      ⟨strncpy port (maxVideoPortNameLength - 1), isEnabled⟩ :: List.replicate count free := by
  have unnamed : ((List.replicate (count + 1) free).findIdx? (names · port)) = none := by
    rw [List.findIdx?_eq_none_iff]
    intro entry member
    rw [List.eq_of_mem_replicate member]
    exact Bool.eq_false_iff.mpr (mt names_iff.mp (settingKey_ne_free named))
  have first : (List.replicate (count + 1) free).findIdx?
      (fun entry => (cString entry.port.toList).isEmpty) = some 0 := by
    rw [List.replicate_succ, List.findIdx?_cons]
    rfl
  rw [setEntries, unnamed]
  dsimp only
  rw [first]
  rfl

/-- On the used entries `set` is the insertion into a map with room for all entries. -/
theorem setEntries_used (used : List StandbyVideoState) (count : Nat)
    (keys : ∀ entry ∈ used, settingKey entry.port ≠ []) :
    ∃ used' count', setEntries (used ++ List.replicate count free) port isEnabled =
        used' ++ List.replicate count' free ∧
      used'.map slot = BoundedMap.insert (used.length + count) (used.map slot)
        (settingKey port) isEnabled ∧
      ∀ entry ∈ used', settingKey entry.port ≠ [] := by
  induction used with
  | nil =>
      cases count with
      | zero => exact ⟨[], 0, rfl, rfl, by simp⟩
      | succ count =>
          refine ⟨[⟨strncpy port (maxVideoPortNameLength - 1), isEnabled⟩], count, ?_, ?_, ?_⟩
          · exact setEntries_free named count
          · simp [slot, BoundedMap.insert, settingKey_strncpy named]
          · simpa [settingKey_strncpy named] using settingKey_ne named
  | cons entry rest ih =>
      by_cases same : settingKey port = settingKey entry.port
      · refine ⟨{ entry with isEnabled := isEnabled } :: rest, count, ?_, ?_, ?_⟩
        · exact setEntries_cons_of_named same
        · simp [slot, BoundedMap.insert, same]
        · simpa using keys
      · obtain ⟨used', count', set, inserted, keys'⟩ := ih fun entry member =>
          keys entry (List.mem_cons_of_mem _ member)
        have own := keys entry List.mem_cons_self
        refine ⟨entry :: used', count', ?_, ?_, ?_⟩
        · rw [List.cons_append, setEntries_cons_of_other same own, set, List.cons_append]
        · have room : rest.length + 1 + count - 1 = rest.length + count := by omega
          simp [slot, BoundedMap.insert, Ne.symm same, inserted, room]
        · simpa [own] using keys'

theorem find?_used (used : List StandbyVideoState) (count : Nat) :
    (((used ++ List.replicate count free).find? (names · port)).map
        StandbyVideoState.isEnabled).getD false =
      (BoundedMap.find (used.map slot) (settingKey port)).getD false := by
  induction used with
  | nil =>
      have absent : (List.replicate count free).find? (names · port) = none := by
        rw [List.find?_eq_none]
        intro entry member
        rw [List.eq_of_mem_replicate member]
        exact mt names_iff.mp (settingKey_ne_free named)
      simp [absent]
  | cons entry rest ih =>
      by_cases same : settingKey port = settingKey entry.port
      · simp [names_iff.mpr same, slot, same]
      · have unnamed : names entry port = false := Bool.eq_false_iff.mpr (mt names_iff.mp same)
        have other : ¬(slot entry).1 = settingKey port := Ne.symm same
        rw [List.cons_append, List.find?_cons, unnamed, List.map_cons, BoundedMap.find_cons,
          if_neg other]
        exact ih

end Entries

/-- The used entries are those of the map, and stand in front of the unused ones. -/
def Represents (table : StandbyTable) (settings : List (List Char × Bool)) : Prop :=
  ∃ used count, table.entries = used ++ List.replicate count free ∧ used.map slot = settings ∧
    ∀ entry ∈ used, settingKey entry.port ≠ []

theorem represents_zeroed : Represents zeroed [] := ⟨[], maxNumVideoPorts, rfl, rfl, by simp⟩

theorem Represents.set {table : StandbyTable} {settings : List (List Char × Bool)}
    (represents : table.Represents settings) {port : String} (named : PortName port)
    (isEnabled : Bool) :
    Represents (table.set port isEnabled)
      (BoundedMap.insert maxNumVideoPorts settings (settingKey port) isEnabled) := by
  obtain ⟨used, count, entries, rfl, keys⟩ := represents
  have size : used.length + count = maxNumVideoPorts := by
    rw [← table.size, entries, List.length_append, List.length_replicate]
  obtain ⟨used', count', set, inserted, keys'⟩ :=
    @setEntries_used _ isEnabled named used count keys
  exact ⟨used', count', by rw [set_entries, entries, set], size ▸ inserted, keys'⟩

theorem Represents.getVideoPortStandbySetting_eq {table : StandbyTable}
    {settings : List (List Char × Bool)} (represents : table.Represents settings) {port : String}
    (named : PortName port) :
    table.getVideoPortStandbySetting port =
      (BoundedMap.find settings (settingKey port)).getD false := by
  obtain ⟨used, count, entries, rfl, -⟩ := represents
  rw [← find?_used named used count, ← entries, getVideoPortStandbySetting]
  cases table.entries.find? (names · port) <;> rfl

end StandbyTable

section Runs

variable {σ : Type} {platform : Platform σ}

/-- What a step sets, and for which name. -/
def settingCall (occurrence : PowerStep σ) : Option (List Char × Bool) :=
  match occurrence.action with
  | .setStandbyVideoState param => some (settingKey param.port, param.isEnabled != 0)
  | _ => none

def settingCalls (trace : List (PowerStep σ)) : List (List Char × Bool) :=
  trace.filterMap settingCall

/-- The arguments of all calls are names that an array can hold. -/
def NamedCalls (trace : List (PowerStep σ)) : Prop :=
  ∀ occurrence ∈ trace, ∀ param, occurrence.action = .setStandbyVideoState param →
    PortName param.port

/-- What was set last for this name. -/
def lastSetting (port : String) (trace : List (PowerStep σ)) : Option Bool :=
  lastOf (valueUnder (settingKey port)) (settingCalls trace)

/-- All along the run every name reads as it was set last, and as disabled before. -/
def KeepsSettings (platform : Platform σ) (start : PwrEventListener σ)
    (trace : List (PowerStep σ)) : Prop :=
  ∀ earlier later state, trace = earlier ++ later →
    (listenerMachine platform).Run start earlier state → ∀ port, PortName port →
      state.getStandbyVideoState port = if (lastSetting port earlier).getD false then 1 else 0

theorem settingCalls_snoc (trace : List (PowerStep σ)) (occurrence : PowerStep σ) :
    settingCalls (trace ++ [occurrence]) =
      settingCalls trace ++ (settingCall occurrence).toList := by
  rw [settingCalls, List.filterMap_append, ← settingCalls]
  cases called : settingCall occurrence <;> simp [called]

@[simp] theorem setStandbyVideoState_standbyVideoPortSetting (listener : PwrEventListener σ)
    (param : StandbyVideoStateParam) :
    (listener.setStandbyVideoState platform param).1.standbyVideoPortSetting =
      listener.standbyVideoPortSetting.set param.port (param.isEnabled != 0) := by
  unfold PwrEventListener.setStandbyVideoState PwrEventListener.applyStandbySetting
  dsimp only
  split_ifs
  · split <;> rfl
  · rfl

/-- The table holds what the calls have written into a map with room for five names. -/
theorem represents_run {ux : Option UXController} {settings : Plugin σ}
    {trace : List (PowerStep σ)} {listener : PwrEventListener σ}
    (run : (listenerMachine platform).Run (.constructed ux settings) trace listener)
    (named : NamedCalls trace) :
    listener.standbyVideoPortSetting.Represents
      (BoundedMap.writes maxNumVideoPorts (settingCalls trace)) := by
  induction run with
  | nil => exact StandbyTable.represents_zeroed
  | @snoc trace before action after effects prior taken ih =>
      have represents := ih fun occurrence member =>
        named occurrence (List.mem_append_left _ member)
      rw [settingCalls_snoc]
      cases stepped_of_step taken with
      | initialized getPowerState _ =>
          rw [initializePowerManager_standbyVideoPortSetting]
          simpa [settingCall] using represents
      | queued event _ => simpa [settingCall] using represents
      | handled easMode event rest _ =>
          rw [handlePwrEventData_standbyVideoPortSetting]
          simpa [settingCall] using represents
      | standbyVideoState param =>
          have own := named _ (List.mem_append_right _ List.mem_cons_self) param rfl
          rw [settingCall, Option.toList_some, BoundedMap.writes_snoc]
          rw [setStandbyVideoState_standbyVideoPortSetting]
          exact represents.set own _

theorem getStandbyVideoState_run {ux : Option UXController} {settings : Plugin σ}
    {trace : List (PowerStep σ)} {listener : PwrEventListener σ}
    (run : (listenerMachine platform).Run (.constructed ux settings) trace listener)
    (calls : NamedCalls trace) {port : String} (named : PortName port) :
    listener.getStandbyVideoState port =
      if (BoundedMap.find (BoundedMap.writes maxNumVideoPorts (settingCalls trace))
        (settingKey port)).getD false then 1 else 0 := by
  rw [PwrEventListener.getStandbyVideoState,
    (represents_run run calls).getVideoPortStandbySetting_eq named]

theorem exists_port_of_mem {trace : List (PowerStep σ)} (calls : NamedCalls trace)
    {call : List Char × Bool} (member : call ∈ settingCalls trace) :
    ∃ port, PortName port ∧ settingKey port = call.1 := by
  obtain ⟨occurrence, inTrace, called⟩ := List.mem_filterMap.mp member
  unfold settingCall at called
  split at called
  next param action =>
    obtain rfl := Option.some.inj called
    exact ⟨param.port, calls occurrence inTrace param action, rfl⟩
  next => cases called

omit platform in
theorem ite_one_zero_inj {left right : Bool} :
    ((if left then 1 else 0 : Int) = if right then 1 else 0) ↔ left = right := by
  cases left <;> cases right <;> decide

/-- In every run with names that an array can hold, all settings are kept exactly when only the
first five names are enabled. -/
theorem keepsSettings_iff {ux : Option UXController} {settings : Plugin σ}
    {trace : List (PowerStep σ)} {listener : PwrEventListener σ}
    (run : (listenerMachine platform).Run (.constructed ux settings) trace listener)
    (calls : NamedCalls trace) :
    KeepsSettings platform (.constructed ux settings) trace ↔
      ∀ call ∈ settingCalls trace, call.2 = true →
        call.1 ∈ firstKeys maxNumVideoPorts ((settingCalls trace).map Prod.fst) := by
  have law : (∀ earlier later, settingCalls trace = earlier ++ later →
      BoundedMap.Remembers maxNumVideoPorts false earlier) ↔ _ := BoundedMap.remembers_iff
  simp only [Bool.ne_false_iff] at law
  rw [← law]
  constructor
  · intro keeps earlierCalls laterCalls split
    obtain ⟨earlier, later, rfl, rfl, rfl⟩ := List.filterMap_eq_append_iff.mp split
    obtain ⟨state, prior⟩ := run.exists_middle
    have known : NamedCalls earlier := fun occurrence member =>
      calls occurrence (List.mem_append_left _ member)
    refine BoundedMap.remembers_of_written fun call member => ?_
    obtain ⟨port, named, own⟩ := exists_port_of_mem known member
    have kept := keeps earlier later state rfl prior port named
    rw [getStandbyVideoState_run prior known named, own, lastSetting, own] at kept
    exact ite_one_zero_inj.mp kept
  · rintro remembers earlier later state rfl prior port named
    have known : NamedCalls earlier := fun occurrence member =>
      calls occurrence (List.mem_append_left _ member)
    rw [getStandbyVideoState_run prior known named, lastSetting, ite_one_zero_inj]
    exact remembers (settingCalls earlier) (settingCalls later) List.filterMap_append
      (settingKey port)

end Runs

/-- The device is on, and the calls enable ports one after the other. -/
def enablePorts (ports : List String) : List PowerAction :=
  .initializePowerManager (some (.ok .on)) ::
    ports.map fun port => .setStandbyVideoState ⟨port, 1⟩

def sixNames : List String := ["HDMI0", "HDMI1", "HDMI2", "HDMI3", "HDMI4", "INTERNAL0"]

/-- All calls of these actions return with `result` 0. -/
theorem run_enablePorts :
    ∃ (trace : List (PowerStep PortMemory)) (listener : PwrEventListener PortMemory),
      (listenerMachine PortMemory.platform).Run (.constructed none PortMemory.plugin) trace
        listener ∧
      trace.map Occurrence.action =
        enablePorts sixNames ∧
      Machine.effectsOf trace = List.replicate 6 (.standbyVideoStateResult 0) ∧
      listener.getStandbyVideoState "INTERNAL0" = 0 ∧
      lastSetting "INTERNAL0" trace = some true :=
  ⟨_, _, Machine.play_run (show (listenerMachine PortMemory.platform).play
    (.constructed none PortMemory.plugin) (enablePorts sixNames) = some (_, _) from rfl), rfl, rfl,
    rfl, rfl⟩

theorem namedCalls_of_actions {σ : Type} {trace : List (PowerStep σ)} {ports : List String}
    (actions : trace.map Occurrence.action = enablePorts ports)
    (named : ∀ port ∈ ports, PortName port) : NamedCalls trace := by
  intro occurrence member param action
  have taken : occurrence.action ∈ enablePorts ports :=
    actions ▸ List.mem_map_of_mem member
  rw [action] at taken
  simp only [enablePorts, List.mem_cons, List.mem_map, reduceCtorEq, false_or,
    PowerAction.setStandbyVideoState.injEq] at taken
  obtain ⟨port, inList, rfl⟩ := taken
  exact named port inList

/-- Five names, two of them once more in other letters. -/
def fiveNames : List String :=
  ["HDMI0", "INTERNAL0", "hdmi0", "COMPONENT0", "HDMI1", "Internal0", "HDMI2"]

theorem keepsSettings_iff_fiveNames :
    ∃ (trace : List (PowerStep PortMemory)) (listener : PwrEventListener PortMemory),
      (listenerMachine PortMemory.platform).play (.constructed none PortMemory.plugin)
          (enablePorts fiveNames) = some (listener, trace) ∧
        trace.map Occurrence.action = enablePorts fiveNames ∧
        (KeepsSettings PortMemory.platform (.constructed none PortMemory.plugin) trace ↔
          ∀ call ∈ settingCalls trace, call.2 = true →
            call.1 ∈ firstKeys maxNumVideoPorts ((settingCalls trace).map Prod.fst)) ∧
        KeepsSettings PortMemory.platform (.constructed none PortMemory.plugin) trace ∧
        listener.getStandbyVideoState "HDMI2" = 1 := by
  obtain ⟨trace, listener, played, calls, last⟩ :
      ∃ (trace : List (PowerStep PortMemory)) (listener : PwrEventListener PortMemory),
        (listenerMachine PortMemory.platform).play (.constructed none PortMemory.plugin)
            (enablePorts fiveNames) = some (listener, trace) ∧
          settingCalls trace = fiveNames.map (fun port => (settingKey port, true)) ∧
          listener.getStandbyVideoState "HDMI2" = 1 := ⟨_, _, rfl, rfl, rfl⟩
  have actions : trace.map Occurrence.action = enablePorts fiveNames :=
    Machine.actionsOf_played played
  have exact_ := keepsSettings_iff (Machine.play_run played)
    (namedCalls_of_actions actions (by decide))
  refine ⟨trace, listener, played, actions, exact_, exact_.mpr ?_, last⟩
  rw [calls]
  decide

/-- The sixth name is not remembered. -/
theorem not_keepsSettings :
    ¬∀ (trace : List (PowerStep PortMemory)) (listener : PwrEventListener PortMemory),
      (listenerMachine PortMemory.platform).Run (.constructed none PortMemory.plugin) trace
        listener → NamedCalls trace →
      (∀ effect ∈ Machine.effectsOf trace, effect = .standbyVideoStateResult 0) →
      KeepsSettings PortMemory.platform (.constructed none PortMemory.plugin) trace := by
  intro keeps
  obtain ⟨trace, listener, run, actions, results, lost, enabled⟩ := run_enablePorts
  have calls := namedCalls_of_actions actions (by decide)
  have kept := keeps trace listener run calls
    (results ▸ fun effect member => List.eq_of_mem_replicate member) trace [] listener (by simp) run
    "INTERNAL0" (by decide)
  rw [lost, enabled] at kept
  exact absurd kept (by decide)

end DeviceSettings.Power
