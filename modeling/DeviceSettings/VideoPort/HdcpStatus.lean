import DeviceSettings.Hal
import DeviceSettings.Std.LastWrite
import DeviceSettings.VideoPort.HdmiStatus

/-!
# The HDCP status in three places

A callback of the HAL keeps the status in a static, writes it to the status file and announces
it. Initialising the port writes the file, and leaves the static that a query answers from.
-/

namespace DeviceSettings.VideoPort

open DeviceSettings.Std

/-- `VideoPortHdcpStatus`. -/
inductive VideoPortHdcpStatus where
  | unpowered
  | unauthenticated
  | authenticated
  | authenticationFailure
  | inProgress
  | portDisabled
  deriving DecidableEq, Repr

/-- The cases of the switches over `dsHdcpStatus_t`. -/
def hdcpStatusCases : List (HdmiEnumerator × VideoPortHdcpStatus) :=
  [(.dsHdcpStatusUnpowered, .unpowered), (.dsHdcpStatusUnauthenticated, .unauthenticated),
   (.dsHdcpStatusAuthenticated, .authenticated),
   (.dsHdcpStatusAuthenticationFailure, .authenticationFailure),
   (.dsHdcpStatusInProgress, .inProgress), (.dsHdcpStatusPortDisabled, .portDisabled)]

/-- The status of the interface, where there is a case for it. -/
def hdcpStatusCase (code : HdmiEnumerator → Int) (status : Int) : Option VideoPortHdcpStatus :=
  (hdcpStatusCases.find? fun row => code row.1 == status).map Prod.snd

/-- `convertHdcpStatus(dsHdcpStatus)`. -/
def convertHdcpStatus (code : HdmiEnumerator → Int) (dsHdcpStatus : Int) : VideoPortHdcpStatus :=
  (hdcpStatusCase code dsHdcpStatus).getD .unpowered

/-- What `VideoPortHDCPStatusCallback` makes of the same number. -/
def announcedHdcpStatus (code : HdmiEnumerator → Int) (status : Int) : VideoPortHdcpStatus :=
  (hdcpStatusCase code status).getD .unauthenticated

/-- The statics of a process that are about HDCP, and the content of the status file. -/
structure HdcpProcess where
  isConstructed : Bool
  videoPortIsPlatInitialized : Bool
  videoPortIsInitialized : Bool
  /-- `g_VideoPortHDCPStatusChangeCallback` is set. -/
  hdcpStatusChangeCallback : Bool
  /-- The HAL has `VideoPortHDCPStatusCallback`. -/
  registered : Bool
  cachedHdcpStatus : Int
  statusFile : List Char
  deriving DecidableEq

/-- What happens to the component, with what the HAL answers. -/
inductive HdcpAction where
  | construct (dsVideoPortInit : Except DsError Unit) (dsIsDisplayConnected : Except DsError Bool)
  | destroy
  /-- `setAllCallbacks` with a bundle that may have `OnHDCPStatusChange`, and the HDMI or internal
  port. -/
  | setAllCallbacks (onHDCPStatusChange : Bool) (dsGetVideoPort : Except DsError Int)
    (dsRegisterHdcpStatusCallback : Except DsError Unit)
  /-- `dsGetHDCPCurrentProtocol` may be missing. -/
  | videoPortHDCPStatusCallback (status : Int)
    (dsGetHDCPCurrentProtocol : Option (Except DsError Int))
  | getVideoPortHDCPStatus (handle : Int)
  /-- A display event, on which another component rewrites a line of the file. -/
  | displayConnected (connected : Bool)
  | displayHdcpProtocolChange (protocolVersion : Int)

/-- What the outside sees. -/
inductive HdcpOutput where
  | onHDCPStatusChange (hdcpStatus : VideoPortHdcpStatus)
  | answered (hdcpStatus : VideoPortHdcpStatus)
  deriving DecidableEq, Repr

namespace HdcpProcess

variable (code : HdmiEnumerator → Int)

/-- A new process finds the file that another one has left. -/
def ofProcess (statusFile : List Char) : HdcpProcess :=
  ⟨false, false, false, false, false, code .dsHdcpStatusUnauthenticated, statusFile⟩

/-- `_dsSyncHdmiStatus(key, val)`. -/
def dsSyncHdmiStatus (process : HdcpProcess) (tag : HdmiTag) (val : Int) : HdcpProcess :=
  { process with
    statusFile := putlines (syncedLines code tag.key val (getlines process.statusFile)) }

def hotplugCode (connected : Bool) : Int :=
  code (if connected then .dsDisplayEventConnected else .dsDisplayEventDisconnected)

/-- `InitialiseHAL()`, as far as the HDCP status goes. -/
def initialiseHAL (process : HdcpProcess) (dsVideoPortInit : Except DsError Unit)
    (dsIsDisplayConnected : Except DsError Bool) : HdcpProcess :=
  if process.videoPortIsPlatInitialized then process
  else
    match dsVideoPortInit with
    | .error _ => process
    | .ok _ =>
      let process :=
        process.dsSyncHdmiStatus code .hdcpStatus (code .dsHdcpStatusUnauthenticated)
      let process := process.dsSyncHdmiStatus code .hdcpVersion (code .dsHdcpVersion1x)
      let connected : Bool := gave dsIsDisplayConnected true
      let process := process.dsSyncHdmiStatus code .hotplug (hotplugCode code connected)
      { process with videoPortIsPlatInitialized := true }

/-- `DeInitialiseHAL()`. -/
def deInitialiseHAL (process : HdcpProcess) : HdcpProcess :=
  { process with videoPortIsPlatInitialized := false, videoPortIsInitialized := false }

/-- `setAllCallbacks(bundle)`, as far as the HDCP callback goes. -/
def setAllCallbacks (process : HdcpProcess) (onHDCPStatusChange : Bool)
    (dsGetVideoPort : Except DsError Int) (dsRegisterHdcpStatusCallback : Except DsError Unit) :
    HdcpProcess :=
  if process.videoPortIsPlatInitialized && !process.videoPortIsInitialized then
    let process := { process with videoPortIsInitialized := true }
    if onHDCPStatusChange then
      let process := { process with hdcpStatusChangeCallback := true }
      match dsGetVideoPort, dsRegisterHdcpStatusCallback with
      | .ok handle, .ok _ => if handle ≠ 0 then { process with registered := true } else process
      | _, _ => process
    else process
  else process

/-- The version that the callback writes. -/
def protocolVersion (status : Int) (dsGetHDCPCurrentProtocol : Option (Except DsError Int)) : Int :=
  if status = code .dsHdcpStatusAuthenticated then
    match dsGetHDCPCurrentProtocol with
    | some (.ok protocolVersion) => protocolVersion
    | _ => code .dsHdcpVersion1x
  else code .dsHdcpVersion1x

/-- `VideoPortHDCPStatusCallback(handle, status)`. -/
def videoPortHDCPStatusCallback (process : HdcpProcess) (status : Int)
    (dsGetHDCPCurrentProtocol : Option (Except DsError Int)) : HdcpProcess × List HdcpOutput :=
  let process := { process with cachedHdcpStatus := status }
  let process := process.dsSyncHdmiStatus code .hdcpStatus status
  let process := process.dsSyncHdmiStatus code .hdcpVersion
    (protocolVersion code status dsGetHDCPCurrentProtocol)
  (process,
    if process.hdcpStatusChangeCallback then [.onHDCPStatusChange (announcedHdcpStatus code status)]
    else [])

/-- One step; there is one object at a time, and the HAL calls back what it has been given. -/
def step (process : HdcpProcess) : HdcpAction → Option (HdcpProcess × List HdcpOutput)
  | .construct dsVideoPortInit dsIsDisplayConnected =>
    if process.isConstructed then none
    else
      some ({ process with isConstructed := true }.initialiseHAL code dsVideoPortInit
        dsIsDisplayConnected, [])
  | .destroy =>
    if process.isConstructed then some ({ process with isConstructed := false }.deInitialiseHAL, [])
    else none
  | .setAllCallbacks onHDCPStatusChange dsGetVideoPort dsRegisterHdcpStatusCallback =>
    if process.isConstructed then
      some (process.setAllCallbacks onHDCPStatusChange dsGetVideoPort dsRegisterHdcpStatusCallback,
        [])
    else none
  | .videoPortHDCPStatusCallback status dsGetHDCPCurrentProtocol =>
    if process.registered then
      some (process.videoPortHDCPStatusCallback code status dsGetHDCPCurrentProtocol)
    else none
  | .getVideoPortHDCPStatus _ =>
    if process.isConstructed then
      some (process, [.answered (convertHdcpStatus code process.cachedHdcpStatus)])
    else none
  | .displayConnected connected =>
    some (process.dsSyncHdmiStatus code .hotplug (hotplugCode code connected), [])
  | .displayHdcpProtocolChange protocolVersion =>
    some (process.dsSyncHdmiStatus code .hdcpVersion protocolVersion, [])

end HdcpProcess

/-- The HDCP status in one process; the calls on the file do not overlap. -/
def hdcpReports (code : HdmiEnumerator → Int) : Machine HdcpProcess HdcpAction HdcpOutput :=
  ⟨HdcpProcess.step code⟩

abbrev HdcpStep := Occurrence HdcpProcess HdcpAction HdcpOutput

/-! ### What the steps do -/

/-- The status that the HAL reports. -/
def reported (step : HdcpStep) : Option Int :=
  match step.action with
  | .videoPortHDCPStatusCallback status _ => some status
  | _ => none

/-- A `dsVideoPortInit` succeeds. -/
def initialises (step : HdcpStep) : Bool :=
  match step.action with
  | .construct _ _ =>
    !step.before.videoPortIsPlatInitialized && step.after.videoPortIsPlatInitialized
  | _ => false

section Steps

variable (code : HdmiEnumerator → Int)

/-- The calls of `_dsSyncHdmiStatus` in a step. -/
def synced (step : HdcpStep) : List StatusCall :=
  match step.action with
  | .construct _ dsIsDisplayConnected =>
    if initialises step then
      [⟨.hdcpStatus, code .dsHdcpStatusUnauthenticated⟩, ⟨.hdcpVersion, code .dsHdcpVersion1x⟩,
        ⟨.hotplug, HdcpProcess.hotplugCode code (gave dsIsDisplayConnected true)⟩]
    else []
  | .videoPortHDCPStatusCallback status dsGetHDCPCurrentProtocol =>
    [⟨.hdcpStatus, status⟩,
      ⟨.hdcpVersion, HdcpProcess.protocolVersion code status dsGetHDCPCurrentProtocol⟩]
  | .displayConnected connected => [⟨.hotplug, HdcpProcess.hotplugCode code connected⟩]
  | .displayHdcpProtocolChange protocolVersion => [⟨.hdcpVersion, protocolVersion⟩]
  | _ => []

variable {code} {before after : HdcpProcess} {action : HdcpAction} {effects : List HdcpOutput}

theorem getlines_dsSyncHdmiStatus (process : HdcpProcess) (tag : HdmiTag) (val : Int) :
    getlines (process.dsSyncHdmiStatus code tag val).statusFile =
      syncedLines code tag.key val (getlines process.statusFile) := by
  refine getlines_putlines fun line member => ?_
  rcases List.mem_append.mp member with kept | new
  · exact newline_notMem_of_getlines (List.mem_of_mem_filter kept)
  · rw [List.mem_singleton.mp new]
    exact newline_notMem_line ⟨tag, val⟩

theorem HdcpProcess.setAllCallbacks_kept (process : HdcpProcess) (onHDCPStatusChange : Bool)
    (dsGetVideoPort : Except DsError Int) (dsRegisterHdcpStatusCallback : Except DsError Unit) :
    let after :=
      process.setAllCallbacks onHDCPStatusChange dsGetVideoPort dsRegisterHdcpStatusCallback
    after.cachedHdcpStatus = process.cachedHdcpStatus ∧ after.statusFile = process.statusFile := by
  intro after
  simp only [after, HdcpProcess.setAllCallbacks]
  split_ifs
  · cases dsGetVideoPort with
    | error error => exact ⟨rfl, rfl⟩
    | ok handle =>
        cases dsRegisterHdcpStatusCallback with
        | error error => exact ⟨rfl, rfl⟩
        | ok _ =>
            dsimp only
            split_ifs <;> exact ⟨rfl, rfl⟩
  · exact ⟨rfl, rfl⟩
  · exact ⟨rfl, rfl⟩

/-- What a step does to the static and to the file. -/
structure Reports (code : HdmiEnumerator → Int) (step : HdcpStep) : Prop where
  cached : step.after.cachedHdcpStatus = (reported step).getD step.before.cachedHdcpStatus
  file : getlines step.after.statusFile =
    linesOf code (getlines step.before.statusFile) (synced code step)

theorem reports_construct {process : HdcpProcess} (dsVideoPortInit : Except DsError Unit)
    (dsIsDisplayConnected : Except DsError Bool) :
    Reports code ⟨process, .construct dsVideoPortInit dsIsDisplayConnected, effects,
      { process with isConstructed := true }.initialiseHAL code dsVideoPortInit
        dsIsDisplayConnected⟩ := by
  cases initialized : process.videoPortIsPlatInitialized with
  | true =>
      simp only [HdcpProcess.initialiseHAL, if_true]
      exact ⟨rfl, by simp [synced, initialises, initialized, linesOf]⟩
  | false =>
      simp only [HdcpProcess.initialiseHAL, Bool.false_eq_true, if_false]
      cases dsVideoPortInit with
      | error error => exact ⟨rfl, by simp [synced, initialises, initialized, linesOf]⟩
      | ok _ =>
          refine ⟨rfl, ?_⟩
          simp only [synced, initialises, initialized, Bool.not_false, Bool.and_self, if_true,
            linesOf, List.foldl_cons, List.foldl_nil, getlines_dsSyncHdmiStatus]

theorem reports_step (taken : (hdcpReports code).step before action = some (after, effects)) :
    Reports code ⟨before, action, effects, after⟩ := by
  cases action with
  | construct dsVideoPortInit dsIsDisplayConnected =>
      simp only [hdcpReports, HdcpProcess.step] at taken
      split_ifs at taken
      obtain ⟨rfl, -⟩ := Prod.mk.inj (Option.some.inj taken)
      exact reports_construct dsVideoPortInit dsIsDisplayConnected
  | destroy =>
      simp only [hdcpReports, HdcpProcess.step] at taken
      split_ifs at taken
      obtain ⟨rfl, -⟩ := Prod.mk.inj (Option.some.inj taken)
      exact ⟨rfl, rfl⟩
  | setAllCallbacks onHDCPStatusChange dsGetVideoPort dsRegisterHdcpStatusCallback =>
      simp only [hdcpReports, HdcpProcess.step] at taken
      split_ifs at taken
      obtain ⟨rfl, -⟩ := Prod.mk.inj (Option.some.inj taken)
      obtain ⟨cached, file⟩ := before.setAllCallbacks_kept onHDCPStatusChange dsGetVideoPort
        dsRegisterHdcpStatusCallback
      exact ⟨cached, congrArg getlines file⟩
  | videoPortHDCPStatusCallback status dsGetHDCPCurrentProtocol =>
      simp only [hdcpReports, HdcpProcess.step] at taken
      split_ifs at taken
      obtain ⟨rfl, -⟩ := Prod.mk.inj (Option.some.inj taken)
      refine ⟨rfl, ?_⟩
      simp only [synced, linesOf, List.foldl_cons, List.foldl_nil, getlines_dsSyncHdmiStatus]
  | getVideoPortHDCPStatus handle =>
      simp only [hdcpReports, HdcpProcess.step] at taken
      split_ifs at taken
      obtain ⟨rfl, -⟩ := Prod.mk.inj (Option.some.inj taken)
      exact ⟨rfl, rfl⟩
  | displayConnected connected =>
      obtain ⟨rfl, -⟩ := Prod.mk.inj (Option.some.inj taken)
      exact ⟨rfl, getlines_dsSyncHdmiStatus before _ _⟩
  | displayHdcpProtocolChange protocolVersion =>
      obtain ⟨rfl, -⟩ := Prod.mk.inj (Option.some.inj taken)
      exact ⟨rfl, getlines_dsSyncHdmiStatus before _ _⟩

/-- The static has the status reported last, and the file is built from all calls. -/
theorem reports_run {initial : List Char} {trace : List HdcpStep} {state : HdcpProcess}
    (run : (hdcpReports code).Run (.ofProcess code initial) trace state) :
    state.cachedHdcpStatus =
        (lastOf reported trace).getD (code .dsHdcpStatusUnauthenticated) ∧
      getlines state.statusFile =
        linesOf code (getlines initial) (trace.flatMap (synced code)) := by
  induction run with
  | nil => exact ⟨rfl, rfl⟩
  | snoc _ taken ih =>
      obtain ⟨cached, file⟩ := ih
      have reports := reports_step taken
      refine ⟨reports.cached.trans ?_, reports.file.trans ?_⟩
      · rw [cached, lastOf_snoc]
        cases reported _ <;> rfl
      · rw [file, List.flatMap_append, List.flatMap_singleton]
        exact (List.foldl_append).symm

end Steps

/-! ### The file and the answer -/

/-- The name that the file has for a status. -/
def VideoPortHdcpStatus.name : VideoPortHdcpStatus → String
  | .unpowered => "UNPOWERED"
  | .unauthenticated => "UNAUTHENTICATED"
  | .authenticated => "AUTHENTICATED"
  | .authenticationFailure => "AUTHENTICATIONFAILURE"
  | .inProgress => "INPROGRESS"
  | .portDisabled => "PORTDISABLED"

theorem VideoPortHdcpStatus.name_injective {status other : VideoPortHdcpStatus}
    (same : status.name = other.name) : status = other := by
  cases status <;> cases other <;> first | rfl | exact absurd same (by decide)

theorem VideoPortHdcpStatus.name_ne (status : VideoPortHdcpStatus) : "" ≠ status.name := by
  cases status <;> decide

/-- The lines that a file has for a key. -/
def linesFor (tag : HdmiTag) (content : List Char) : List (List Char) :=
  (getlines content).filter (isLineOf tag.key)

section Shown

variable {code : HdmiEnumerator → Int} {initial : List Char} {trace : List HdcpStep}
  {state : HdcpProcess}

theorem statusName_hdcpStatus (status : Int) :
    statusName code HdmiTag.hdcpStatus.key status =
      ((hdcpStatusCase code status).map VideoPortHdcpStatus.name).getD "" := by
  have named : hdmiStatusToStrMapping =
      hdcpStatusCases.map fun row => (row.1, row.2.name) := rfl
  unfold statusName
  rw [if_neg (by decide), if_pos (by decide), nameIn, named, List.find?_map, hdcpStatusCase]
  simp only [Option.map_map]
  rfl

/-- The status that a step writes to the file. -/
def writtenStatus (code : HdmiEnumerator → Int) (step : HdcpStep) : Option Int :=
  if initialises step then some (code .dsHdcpStatusUnauthenticated) else reported step

theorem lastOn_synced (step : HdcpStep) :
    lastOn StatusCall.tag HdmiTag.hdcpStatus (synced code step) =
      (writtenStatus code step).map (⟨.hdcpStatus, ·⟩) := by
  obtain ⟨before, action, effects, after⟩ := step
  cases action with
  | construct dsVideoPortInit dsIsDisplayConnected =>
      unfold writtenStatus synced
      dsimp only
      split_ifs <;> rfl
  | _ => rfl

/-- The file has what was written last. -/
theorem linesFor_hdcpStatus
    (run : (hdcpReports code).Run (.ofProcess code initial) trace state) :
    linesFor .hdcpStatus state.statusFile =
      match lastOf (writtenStatus code) trace with
      | some status => [statusLine HdmiTag.hdcpStatus.key
          (((hdcpStatusCase code status).map VideoPortHdcpStatus.name).getD "")]
      | none => linesFor .hdcpStatus initial := by
  unfold linesFor
  rw [(reports_run run).2, filter_isLineOf_linesOf]
  have last : lastOn StatusCall.tag HdmiTag.hdcpStatus (trace.flatMap (synced code)) =
      (lastOf (writtenStatus code) trace).map (⟨.hdcpStatus, ·⟩) := by
    unfold lastOn
    rw [lastOf_flatMap, ← lastOf_map]
    exact lastOf_congr fun step _ => lastOn_synced step
  rw [last]
  cases lastOf (writtenStatus code) trace with
  | none => rfl
  | some status =>
      have name := @statusName_hdcpStatus code status
      simp only [Option.map_some, StatusCall.line, StatusCall.name]
      rw [name]

/-- It is the status reported last, unless the port was initialised behind that. -/
theorem lastOf_writtenStatus (trace : List HdcpStep) :
    (Since (fun step => initialises step = true) (fun step => (reported step).isSome) trace →
        lastOf (writtenStatus code) trace = some (code .dsHdcpStatusUnauthenticated)) ∧
      (¬Since (fun step => initialises step = true) (fun step => (reported step).isSome) trace →
        lastOf (writtenStatus code) trace = lastOf reported trace) := by
  induction trace using List.reverseRecOn with
  | nil => exact ⟨fun since => absurd since not_since_nil, fun _ => rfl⟩
  | append_singleton trace step ih =>
      rw [lastOf_snoc, lastOf_snoc, since_snoc, writtenStatus]
      cases initialised : initialises step with
      | true => simp
      | false =>
          cases report : reported step with
          | some status => simp
          | none => simpa using ih

/-- The status that is announced. -/
def HdcpOutput.announced : HdcpOutput → Option VideoPortHdcpStatus
  | .onHDCPStatusChange hdcpStatus => some hdcpStatus
  | .answered _ => none

/-- The HAL has the callback only where there is somebody to announce to. -/
theorem announced_step {before after : HdcpProcess} {action : HdcpAction}
    {effects : List HdcpOutput}
    (taken : (hdcpReports code).step before action = some (after, effects))
    (heard : before.registered = true → before.hdcpStatusChangeCallback = true) :
    (after.registered = true → after.hdcpStatusChangeCallback = true) ∧
      effects.filterMap HdcpOutput.announced =
        ((reported ⟨before, action, effects, after⟩).map (announcedHdcpStatus code)).toList := by
  cases action with
  | construct dsVideoPortInit dsIsDisplayConnected =>
      simp only [hdcpReports, HdcpProcess.step] at taken
      split_ifs at taken
      obtain ⟨rfl, rfl⟩ := Prod.mk.inj (Option.some.inj taken)
      refine ⟨?_, rfl⟩
      unfold HdcpProcess.initialiseHAL
      split_ifs
      · exact heard
      · cases dsVideoPortInit <;> exact heard
  | destroy =>
      simp only [hdcpReports, HdcpProcess.step] at taken
      split_ifs at taken
      obtain ⟨rfl, rfl⟩ := Prod.mk.inj (Option.some.inj taken)
      exact ⟨heard, rfl⟩
  | setAllCallbacks onHDCPStatusChange dsGetVideoPort dsRegisterHdcpStatusCallback =>
      simp only [hdcpReports, HdcpProcess.step] at taken
      split_ifs at taken
      obtain ⟨rfl, rfl⟩ := Prod.mk.inj (Option.some.inj taken)
      refine ⟨?_, rfl⟩
      unfold HdcpProcess.setAllCallbacks
      split_ifs
      · cases dsGetVideoPort <;> cases dsRegisterHdcpStatusCallback <;> dsimp only <;>
          try split_ifs
        all_goals exact fun _ => rfl
      · exact heard
      · exact heard
  | videoPortHDCPStatusCallback status dsGetHDCPCurrentProtocol =>
      simp only [hdcpReports, HdcpProcess.step] at taken
      split_ifs at taken with has
      obtain ⟨rfl, rfl⟩ := Prod.mk.inj (Option.some.inj taken)
      exact ⟨heard, congrArg (List.filterMap HdcpOutput.announced) (if_pos (heard has))⟩
  | getVideoPortHDCPStatus handle =>
      simp only [hdcpReports, HdcpProcess.step] at taken
      split_ifs at taken
      obtain ⟨rfl, rfl⟩ := Prod.mk.inj (Option.some.inj taken)
      exact ⟨heard, rfl⟩
  | displayConnected connected =>
      obtain ⟨rfl, rfl⟩ := Prod.mk.inj (Option.some.inj taken)
      exact ⟨heard, rfl⟩
  | displayHdcpProtocolChange protocolVersion =>
      obtain ⟨rfl, rfl⟩ := Prod.mk.inj (Option.some.inj taken)
      exact ⟨heard, rfl⟩

/-- The announcements are the reports, in their order. -/
theorem announced_run (run : (hdcpReports code).Run (.ofProcess code initial) trace state) :
    (Machine.effectsOf trace).filterMap HdcpOutput.announced =
      (trace.filterMap reported).map (announcedHdcpStatus code) := by
  suffices both : (state.registered = true → state.hdcpStatusChangeCallback = true) ∧
      (Machine.effectsOf trace).filterMap HdcpOutput.announced =
        (trace.filterMap reported).map (announcedHdcpStatus code) from both.2
  induction run with
  | nil => exact ⟨fun none => absurd none Bool.false_ne_true, rfl⟩
  | @snoc trace before action after effects _ taken ih =>
      obtain ⟨heard, announced⟩ := ih
      obtain ⟨still, told⟩ := announced_step taken heard
      refine ⟨still, ?_⟩
      rw [Machine.effectsOf_snoc, List.filterMap_append, List.filterMap_append, List.map_append,
        announced, told]
      cases reports : reported ⟨before, action, effects, after⟩ <;> simp [reports]

/-- Every query answers the status reported last, and every report has been announced, in the order
of the reports. Once the port is initialised, the file names the answer exactly when the HAL's
status is one of the interface's and, where the port was initialised behind the report, the
unauthenticated one. -/
theorem hdcpStatus_shown {step : HdcpStep} {later : List HdcpStep} {handle : Int}
    (distinct : code .dsHdcpStatusUnpowered ≠ code .dsHdcpStatusUnauthenticated)
    (run : (hdcpReports code).Run (.ofProcess code initial) (trace ++ step :: later) state)
    (asks : step.action = .getVideoPortHDCPStatus handle) :
    let status := (lastOf reported trace).getD (code .dsHdcpStatusUnauthenticated)
    step.effects = [.answered (convertHdcpStatus code status)] ∧
      (Machine.effectsOf trace).filterMap HdcpOutput.announced =
        (trace.filterMap reported).map (announcedHdcpStatus code) ∧
      ((∃ other ∈ trace, initialises other = true) →
        (linesFor .hdcpStatus step.before.statusFile =
            [statusLine HdmiTag.hdcpStatus.key (convertHdcpStatus code status).name] ↔
          (hdcpStatusCase code status).isSome ∧
            (Since (fun other => initialises other = true)
                (fun other => (reported other).isSome) trace →
              hdcpStatusCase code status = some .unauthenticated))) := by
  intro status
  obtain ⟨before, action, effects, after⟩ := step
  obtain ⟨prior, taken⟩ := run.at_occurrence
  obtain ⟨cached, -⟩ := reports_run prior
  refine ⟨?_, announced_run prior, fun initialised => ?_⟩
  · dsimp only at asks taken
    subst asks
    simp only [hdcpReports, HdcpProcess.step] at taken
    split_ifs at taken
    obtain ⟨-, rfl⟩ := Prod.mk.inj (Option.some.inj taken)
    rw [cached]
  have unauthenticated : hdcpStatusCase code (code .dsHdcpStatusUnauthenticated) =
      some .unauthenticated := by
    simp [hdcpStatusCase, hdcpStatusCases, distinct]
  have names : ∀ written, lastOf (writtenStatus code) trace = some written →
      (linesFor .hdcpStatus before.statusFile =
          [statusLine HdmiTag.hdcpStatus.key (convertHdcpStatus code status).name] ↔
        ((hdcpStatusCase code written).map VideoPortHdcpStatus.name).getD "" =
          (convertHdcpStatus code status).name) := by
    intro written found
    rw [linesFor_hdcpStatus prior, found]
    simp only [List.cons.injEq, and_true, statusLine_inj]
  obtain ⟨behind, latest⟩ := @lastOf_writtenStatus code trace
  by_cases since : Since (fun other => initialises other = true)
      (fun other => (reported other).isSome) trace
  · rw [names _ (behind since), unauthenticated, Option.map_some, Option.getD_some]
    unfold convertHdcpStatus
    constructor
    · intro same
      have converted := VideoPortHdcpStatus.name_injective same
      cases found : hdcpStatusCase code status with
      | none => rw [found] at converted; cases converted
      | some hdcpStatus =>
          rw [found] at converted
          exact ⟨rfl, fun _ => congrArg some converted.symm⟩
    · rintro ⟨-, only⟩
      rw [only since]
      rfl
  · obtain ⟨last, found⟩ : ∃ last, lastOf reported trace = some last := by
      by_contra none
      obtain ⟨other, member, init⟩ := initialised
      obtain ⟨front, back, rfl⟩ := List.append_of_mem member
      refine since ⟨front, other, back, rfl, init, fun report inside reports => none ?_⟩
      exact exists_lastOf (List.mem_append_right _ (List.mem_cons_of_mem _ inside)) reports
    have same : status = last := by simp only [status, found, Option.getD_some]
    rw [names last ((latest since).trans found), same]
    unfold convertHdcpStatus
    simp only [since, false_imp_iff, and_true]
    cases hdcpStatusCase code last with
    | none => simpa using VideoPortHdcpStatus.name_ne .unpowered
    | some hdcpStatus => simp

end Shown

namespace Reconstructed

def occurrence (before : HdcpProcess) (action : HdcpAction) : HdcpStep :=
  match (hdcpReports Overlap.code).step before action with
  | some (after, effects) => ⟨before, action, effects, after⟩
  | none => ⟨before, action, [], before⟩

def start : HdcpProcess := .ofProcess Overlap.code "hotplug=DISCONNECTED\n".toList

def opened : HdcpStep := occurrence start (.construct (.ok ()) (.ok true))

def heard : HdcpStep := occurrence opened.after (.setAllCallbacks true (.ok 1) (.ok ()))

def authenticated : HdcpStep :=
  occurrence heard.after (.videoPortHDCPStatusCallback 2 (some (.ok 1)))

def closed : HdcpStep := occurrence authenticated.after .destroy

def reopened : HdcpStep := occurrence closed.after (.construct (.ok ()) (.ok true))

def asked : HdcpStep := occurrence reopened.after (.getVideoPortHDCPStatus 1)

def trace : List HdcpStep := [opened, heard, authenticated, closed, reopened]

theorem run : (hdcpReports Overlap.code).Run start (trace ++ asked :: []) asked.after :=
  .snoc (.snoc (.snoc (.snoc (.snoc (.snoc .nil rfl) rfl) rfl) rfl) rfl) rfl

end Reconstructed

/-- A second object answers AUTHENTICATED while its file says UNAUTHENTICATED. -/
theorem hdcpStatus_shown_reconstructed :
    let status := (lastOf reported Reconstructed.trace).getD
      (Overlap.code .dsHdcpStatusUnauthenticated)
    convertHdcpStatus Overlap.code status = .authenticated ∧
      Reconstructed.asked.effects = [.answered (convertHdcpStatus Overlap.code status)] ∧
        (Machine.effectsOf Reconstructed.trace).filterMap HdcpOutput.announced =
          [.authenticated] ∧
        (linesFor .hdcpStatus Reconstructed.asked.before.statusFile =
            [statusLine HdmiTag.hdcpStatus.key
              (convertHdcpStatus Overlap.code status).name] ↔
          (hdcpStatusCase Overlap.code status).isSome ∧
            (Since (fun other => initialises other = true)
                (fun other => (reported other).isSome) Reconstructed.trace →
              hdcpStatusCase Overlap.code status = some .unauthenticated)) := by
  intro status
  obtain ⟨answered, announced, shown⟩ :=
    hdcpStatus_shown (by decide) Reconstructed.run rfl
  have reports : Reconstructed.trace.filterMap reported = [2] := by decide +kernel
  rw [reports] at announced
  exact ⟨by decide +kernel, answered, announced,
    shown ⟨Reconstructed.opened, List.mem_cons_self, by decide +kernel⟩⟩

end DeviceSettings.VideoPort
