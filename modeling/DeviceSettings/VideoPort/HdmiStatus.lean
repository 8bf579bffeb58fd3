import DeviceSettings.Std.Lines
import DeviceSettings.Std.ReadModifyWrite

/-!
# The HDMI status file

`_dsSyncHdmiStatus` reads the lines of the file, leaves out those of its key, puts a new one at
the end and writes them all. The callbacks for the display and for HDCP call it from their own
threads, and nothing keeps one call out between the two steps of another.
-/

namespace DeviceSettings.VideoPort

open DeviceSettings.Std

/-- The enumerators of the HAL that have a name in the file. -/
inductive HdmiEnumerator where
  | dsDisplayEventConnected
  | dsDisplayEventDisconnected
  | dsHdcpStatusUnpowered
  | dsHdcpStatusUnauthenticated
  | dsHdcpStatusAuthenticated
  | dsHdcpStatusAuthenticationFailure
  | dsHdcpStatusInProgress
  | dsHdcpStatusPortDisabled
  | dsHdcpVersion1x
  | dsHdcpVersion2x
  deriving DecidableEq, Repr

def hdmiConnectionToStrMapping : List (HdmiEnumerator × String) :=
  [(.dsDisplayEventConnected, "CONNECTED"), (.dsDisplayEventDisconnected, "DISCONNECTED")]

def hdmiStatusToStrMapping : List (HdmiEnumerator × String) :=
  [(.dsHdcpStatusUnpowered, "UNPOWERED"), (.dsHdcpStatusUnauthenticated, "UNAUTHENTICATED"),
   (.dsHdcpStatusAuthenticated, "AUTHENTICATED"),
   (.dsHdcpStatusAuthenticationFailure, "AUTHENTICATIONFAILURE"),
   (.dsHdcpStatusInProgress, "INPROGRESS"), (.dsHdcpStatusPortDisabled, "PORTDISABLED")]

def hdmiVerToStrMapping : List (HdmiEnumerator × String) :=
  [(.dsHdcpVersion1x, "VERSION_1X"), (.dsHdcpVersion2x, "VERSION_2X")]

/-- `getHdmiConnectionName(key)` and its two siblings, over the numbers of the enumerators. -/
def nameIn (mapping : List (HdmiEnumerator × String)) (code : HdmiEnumerator → Int)
    (key : Int) : String :=
  ((mapping.find? fun row => code row.1 == key).map Prod.snd).getD ""

/-- The keys that the callbacks use, `DS_HDMI_TAG_…`. -/
inductive HdmiTag where
  | hotplug
  | hdcpStatus
  | hdcpVersion
  deriving DecidableEq, Repr

def HdmiTag.key : HdmiTag → String
  | .hotplug => "hotplug"
  | .hdcpStatus => "hdcp_status"
  | .hdcpVersion => "hdcp_version"

/-- The name that `_dsSyncHdmiStatus` gives to `val`; a key is known by how it begins. -/
def statusName (code : HdmiEnumerator → Int) (key : String) (val : Int) : String :=
  if HdmiTag.hotplug.key.toList.isPrefixOf key.toList then
    nameIn hdmiConnectionToStrMapping code val
  else if HdmiTag.hdcpStatus.key.toList.isPrefixOf key.toList then
    nameIn hdmiStatusToStrMapping code val
  else if HdmiTag.hdcpVersion.key.toList.isPrefixOf key.toList then
    nameIn hdmiVerToStrMapping code val
  else ""

/-- `line.find(key + "=") == 0`. -/
def isLineOf (key : String) (line : List Char) : Bool :=
  (key.toList ++ ['=']).isPrefixOf line

/-- `key + "=" + value`. -/
def statusLine (key value : String) : List Char := key.toList ++ '=' :: value.toList

/-- The lines that `_dsSyncHdmiStatus(key, val)` writes for those it has read. -/
def syncedLines (code : HdmiEnumerator → Int) (key : String) (val : Int)
    (lines : List (List Char)) : List (List Char) :=
  lines.filter (fun line => !isLineOf key line) ++ [statusLine key (statusName code key val)]

/-- A call from one of the callbacks. -/
structure StatusCall where
  tag : HdmiTag
  val : Int

def StatusCall.name (code : HdmiEnumerator → Int) (call : StatusCall) : String :=
  statusName code call.tag.key call.val

def StatusCall.line (code : HdmiEnumerator → Int) (call : StatusCall) : List Char :=
  statusLine call.tag.key (call.name code)

/-- Calls read the file in one step, and truncate and write it in another. A file that is not
there has no lines. -/
def statusMachine (code : HdmiEnumerator → Int) :
    Machine (Rewriting StatusCall (List (List Char)) (List Char)) (RewriteAction StatusCall)
      StatusCall :=
  rewriteMachine getlines fun call lines => putlines (syncedLines code call.tag.key call.val lines)

abbrev StatusStep := RewriteStep StatusCall (List (List Char)) (List Char)

section Lines

variable {code : HdmiEnumerator → Int}

/-- A line is one of the key that it is for, and of no other. -/
theorem isLineOf_line (tag : HdmiTag) (call : StatusCall) :
    isLineOf tag.key (call.line code) = decide (call.tag = tag) := by
  obtain ⟨own, val⟩ := call
  cases tag <;> cases own <;>
    simp [isLineOf, StatusCall.line, statusLine, HdmiTag.key, List.isPrefixOf]

/-- The names of a table have no newline. -/
theorem newline_notMem_nameIn {mapping : List (HdmiEnumerator × String)}
    (single : ∀ row ∈ mapping, '\n' ∉ row.2.toList) (key : Int) :
    '\n' ∉ (nameIn mapping code key).toList := by
  unfold nameIn
  cases found : mapping.find? fun row => code row.1 == key with
  | none => simp
  | some row => exact single row (List.mem_of_find?_eq_some found)

theorem newline_notMem_line (call : StatusCall) : '\n' ∉ call.line code := by
  have key : '\n' ∉ call.tag.key.toList := by
    cases call.tag <;> decide
  have name : '\n' ∉ (call.name code).toList := by
    unfold StatusCall.name statusName
    split_ifs
    · exact newline_notMem_nameIn (by decide) _
    · exact newline_notMem_nameIn (by decide) _
    · exact newline_notMem_nameIn (by decide) _
    · exact List.not_mem_nil
  intro member
  rcases List.mem_append.mp member with inKey | rest
  · exact key inKey
  · rcases List.mem_cons.mp rest with equals | inName
    · exact absurd equals (by decide)
    · exact name inName

/-- The lines of a file that has been updated like this. -/
def linesOf (code : HdmiEnumerator → Int) (initial : List (List Char))
    (version : List StatusCall) : List (List Char) :=
  version.foldl (fun lines call => syncedLines code call.tag.key call.val lines) initial

theorem linesOf_snoc (initial : List (List Char)) (version : List StatusCall)
    (call : StatusCall) :
    linesOf code initial (version ++ [call]) =
      syncedLines code call.tag.key call.val (linesOf code initial version) := by
  simp [linesOf]

/-- What is written is read back, whatever the file was. -/
theorem getlines_contentOf (initial : List Char) (version : List StatusCall) :
    getlines (contentOf getlines
        (fun call lines => putlines (syncedLines code call.tag.key call.val lines)) initial
        version) =
      linesOf code (getlines initial) version := by
  induction version using List.reverseRecOn with
  | nil => rfl
  | append_singleton version call ih =>
      rw [contentOf_snoc, linesOf_snoc, ← ih]
      refine getlines_putlines fun line member => ?_
      rcases List.mem_append.mp member with kept | new
      · exact newline_notMem_of_getlines (List.mem_of_mem_filter kept)
      · rw [List.mem_singleton.mp new]
        exact newline_notMem_line call

/-- No line is one of two keys. -/
theorem tag_unique {tag other : HdmiTag} {line : List Char}
    (own : isLineOf tag.key line = true) (foreign : isLineOf other.key line = true) :
    tag = other := by
  have ordered := List.prefix_or_prefix_of_prefix (List.isPrefixOf_iff_prefix.mp own)
    (List.isPrefixOf_iff_prefix.mp foreign)
  revert ordered
  cases tag <;> cases other <;> decide

/-- Lines of other keys stay as they are, and in their order. -/
theorem filter_syncedLines (call : StatusCall) {holds : List Char → Bool}
    (foreign : ∀ line, isLineOf call.tag.key line = true → holds line = false)
    (lines : List (List Char)) :
    (syncedLines code call.tag.key call.val lines).filter holds = lines.filter holds := by
  have new : holds (call.line code) = false :=
    foreign _ (by rw [isLineOf_line]; exact decide_eq_true rfl)
  have dropped : [statusLine call.tag.key (statusName code call.tag.key call.val)].filter holds =
      [] := List.filter_cons_of_neg (Bool.eq_false_iff.mp new)
  rw [syncedLines, List.filter_append, dropped, List.append_nil, List.filter_filter]
  refine List.filter_congr fun line _ => ?_
  cases own : isLineOf call.tag.key line with
  | true => simp [foreign line own]
  | false => simp

/-- The lines of a key are the one that its last update has put there. -/
theorem filter_isLineOf_linesOf (tag : HdmiTag) (initial : List (List Char))
    (version : List StatusCall) :
    (linesOf code initial version).filter (isLineOf tag.key) =
      match lastOn StatusCall.tag tag version with
      | some call => [call.line code]
      | none => initial.filter (isLineOf tag.key) := by
  induction version using List.reverseRecOn with
  | nil => rfl
  | append_singleton version call ih =>
      rw [linesOf_snoc]
      by_cases same : call.tag = tag
      · subst same
        have gone : ((linesOf code initial version).filter fun line =>
            !isLineOf call.tag.key line).filter (isLineOf call.tag.key) = [] := by
          simp [List.filter_filter]
        have new : isLineOf call.tag.key (call.line code) = true := by
          rw [isLineOf_line]
          exact decide_eq_true rfl
        rw [syncedLines, List.filter_append, gone, lastOn_snoc_same, List.nil_append]
        exact List.filter_cons_of_pos new
      · rw [lastOn_snoc_other StatusCall.tag same, ← ih]
        refine filter_syncedLines call (fun line own => ?_) _
        cases foreign : isLineOf tag.key line with
        | false => rfl
        | true => exact absurd (tag_unique own foreign) same

/-- A line of none of these keys. -/
def isForeign (tags : List HdmiTag) (line : List Char) : Bool :=
  tags.all fun tag => !isLineOf tag.key line

theorem filter_isForeign_linesOf {tags : List HdmiTag} (initial : List (List Char))
    {version : List StatusCall} (used : ∀ call ∈ version, call.tag ∈ tags) :
    (linesOf code initial version).filter (isForeign tags) =
      initial.filter (isForeign tags) := by
  induction version using List.reverseRecOn with
  | nil => rfl
  | append_singleton version call ih =>
      rw [linesOf_snoc, ← ih fun other member => used other (List.mem_append_left _ member)]
      refine filter_syncedLines call (fun line own => ?_) _
      have listed : call.tag ∈ tags := used call (List.mem_append_right _ (by simp))
      rw [isForeign, List.all_eq_false]
      exact ⟨call.tag, listed, by simp [own]⟩

end Lines

/-! ### Runs -/

/-- The keys of the calls of a trace. -/
def usedTags (trace : List StatusStep) : List HdmiTag :=
  (begun (Machine.actionsOf trace)).map StatusCall.tag

/-- The file has one line for each key that was used, with the value of the last rewrite on it,
and the lines of all other keys. -/
structure UpdatesKept (code : HdmiEnumerator → Int) (initial : List Char)
    (trace : List StatusStep) (content : List Char) : Prop where
  used : ∀ tag ∈ usedTags trace, ∃ last,
    lastOn StatusCall.tag tag (Machine.effectsOf trace) = some last ∧
      (getlines content).filter (isLineOf tag.key) = [statusLine tag.key (last.name code)]
  others : (getlines content).filter (isForeign (usedTags trace)) =
    (getlines initial).filter (isForeign (usedTags trace))

/-- For each key the last of the rewrites that the file is built on has the value of the last
rewrite of the key. Where it is built on none, the file had that line, and no other, before. -/
def BuildsOnLast (code : HdmiEnumerator → Int) (initial : List Char)
    (trace : List StatusStep) : Prop :=
  ∀ tag ∈ usedTags trace, ∀ last,
    lastOn StatusCall.tag tag (Machine.effectsOf trace) = some last →
      match lastOn StatusCall.tag tag (builtOn (Machine.actionsOf trace)) with
      | some call => call.name code = last.name code
      | none => (getlines initial).filter (isLineOf tag.key) =
          [statusLine tag.key (last.name code)]

section Runs

variable {code : HdmiEnumerator → Int} {initial : List Char} {trace : List StatusStep}
  {state : Rewriting StatusCall (List (List Char)) (List Char)}

theorem getlines_of_run (run : (statusMachine code).Run (.fresh initial) trace state) :
    getlines state.content =
      linesOf code (getlines initial) (builtOn (Machine.actionsOf trace)) := by
  rw [state_of_run run]
  exact getlines_contentOf initial _

/-- The lines of other keys are kept in every run. -/
theorem others_kept (run : (statusMachine code).Run (.fresh initial) trace state) :
    (getlines state.content).filter (isForeign (usedTags trace)) =
      (getlines initial).filter (isForeign (usedTags trace)) := by
  rw [getlines_of_run run]
  exact filter_isForeign_linesOf _ fun call member =>
    List.mem_map_of_mem (begun_of_mem_builtOn member)

/-- Once all calls have returned, each key that was used has had a last rewrite. -/
theorem lastOn_of_used (run : (statusMachine code).Run (.fresh initial) trace state)
    (returned : ∀ caller, state.pending caller = none) {tag : HdmiTag}
    (used : tag ∈ usedTags trace) :
    ∃ last, lastOn StatusCall.tag tag (Machine.effectsOf trace) = some last := by
  obtain ⟨call, member, rfl⟩ := List.mem_map.mp used
  rcases rewritten_or_pending run member with rewritten | ⟨caller, snapshot, pending⟩
  · exact lastOn_of_mem StatusCall.tag rewritten
  · rw [returned caller] at pending
    cases pending

/-- Lines of one key are the same if their values are. -/
theorem statusLine_inj {key value other : String} :
    statusLine key value = statusLine key other ↔ value = other := by
  simp [statusLine, String.toList_inj]

/-- When all calls have returned, no update is lost if and only if the file builds on the last
rewrite of each key, or on one of the same value. -/
theorem updatesKept_iff {code : HdmiEnumerator → Int} {initial : List Char}
    {trace : List StatusStep} {state : Rewriting StatusCall (List (List Char)) (List Char)}
    (run : (statusMachine code).Run (.fresh initial) trace state)
    (returned : ∀ caller, state.pending caller = none) :
    UpdatesKept code initial trace state.content ↔ BuildsOnLast code initial trace := by
  have lines : ∀ tag, (getlines state.content).filter (isLineOf tag.key) =
      match lastOn StatusCall.tag tag (builtOn (Machine.actionsOf trace)) with
      | some call => [call.line code]
      | none => (getlines initial).filter (isLineOf tag.key) := by
    intro tag
    rw [getlines_of_run run, filter_isLineOf_linesOf]
  have same : ∀ (tag : HdmiTag) (last : StatusCall),
      (getlines state.content).filter (isLineOf tag.key) =
        [statusLine tag.key (last.name code)] ↔
      match lastOn StatusCall.tag tag (builtOn (Machine.actionsOf trace)) with
      | some call => call.name code = last.name code
      | none => (getlines initial).filter (isLineOf tag.key) =
          [statusLine tag.key (last.name code)] := by
    intro tag last
    rw [lines]
    cases found : lastOn StatusCall.tag tag (builtOn (Machine.actionsOf trace)) with
    | none => exact Iff.rfl
    | some call =>
        obtain rfl := key_of_lastOn StatusCall.tag found
        simp only [StatusCall.line, List.cons.injEq, and_true, statusLine_inj]
  constructor
  · intro kept tag used last found
    obtain ⟨other, alsoFound, one⟩ := kept.used tag used
    obtain rfl := Option.some.inj (found.symm.trans alsoFound)
    exact (same tag last).mp one
  · intro builds
    refine ⟨fun tag used => ?_, others_kept run⟩
    obtain ⟨last, found⟩ := lastOn_of_used run returned used
    exact ⟨last, found, (same tag last).mpr (builds tag used last found)⟩

/-- It builds on the last rewrites where no call on another key has rewritten the file between
the two steps of a call. -/
theorem buildsOnLast_of_serial (run : (statusMachine code).Run (.fresh initial) trace state)
    (serial : Serial StatusCall.tag trace) : BuildsOnLast code initial trace := by
  intro tag used last found
  rw [lastOn_builtOn run serial, found]

end Runs

namespace Overlap

def code : HdmiEnumerator → Int
  | .dsDisplayEventConnected | .dsHdcpStatusUnpowered | .dsHdcpVersion1x => 0
  | .dsDisplayEventDisconnected | .dsHdcpStatusUnauthenticated | .dsHdcpVersion2x => 1
  | .dsHdcpStatusAuthenticated => 2
  | .dsHdcpStatusAuthenticationFailure => 3
  | .dsHdcpStatusInProgress => 4
  | .dsHdcpStatusPortDisabled => 5

abbrev State := Rewriting StatusCall (List (List Char)) (List Char)

def file : List Char := "hotplug=DISCONNECTED\n".toList

def authenticated : StatusCall := ⟨.hdcpStatus, 2⟩

def connected : StatusCall := ⟨.hotplug, 0⟩

def start : State := .fresh file

def oneRead : State := start.read getlines 0 authenticated

def bothRead : State := oneRead.read getlines 1 connected

def rewritten (call : StatusCall) : List Char :=
  putlines (syncedLines code call.tag.key call.val (getlines file))

def plugged : State := bothRead.rewrite 1 (rewritten connected)

def finished : State := plugged.rewrite 0 (rewritten authenticated)

/-- A display is connected while the HDCP callback is between its two steps. -/
def trace : List StatusStep :=
  [⟨start, .read 0 authenticated, [], oneRead⟩, ⟨oneRead, .read 1 connected, [], bothRead⟩,
    ⟨bothRead, .rewrite 1, [connected], plugged⟩,
    ⟨plugged, .rewrite 0, [authenticated], finished⟩]

theorem run : (statusMachine code).Run start trace finished :=
  .snoc (.snoc (.snoc (.snoc .nil rfl) rfl) rfl) rfl

theorem returned (caller : Nat) : finished.pending caller = none := by
  by_cases first : caller = 0
  · rw [first]
    rfl
  · by_cases second : caller = 1
    · rw [second]
      rfl
    · simp [finished, plugged, bothRead, oneRead, start, Rewriting.fresh, first, second]

end Overlap

theorem updatesKept_iff_overlap :
    UpdatesKept Overlap.code Overlap.file Overlap.trace Overlap.finished.content ↔
      BuildsOnLast Overlap.code Overlap.file Overlap.trace :=
  updatesKept_iff Overlap.run Overlap.returned

/-- The file still says DISCONNECTED. -/
theorem not_updatesKept_overlap :
    ¬∀ (code : HdmiEnumerator → Int) (initial : List Char) (trace : List StatusStep)
      (state : Overlap.State), (statusMachine code).Run (.fresh initial) trace state →
      (∀ caller, state.pending caller = none) →
      UpdatesKept code initial trace state.content := by
  intro always
  have kept := always _ _ _ _ Overlap.run Overlap.returned
  obtain ⟨last, found, one⟩ := kept.used .hotplug (by decide)
  obtain rfl : last = Overlap.connected := (Option.some.inj found).symm
  exact absurd one (by decide +kernel)

end DeviceSettings.VideoPort
