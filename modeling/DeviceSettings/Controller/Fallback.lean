import DeviceSettings.Std.CString
import Mathlib.Data.List.Lemmas

/-!
# The fallback ladder

The names `DSController` tries when a sink does not offer the resolution it has read. Every
name it can come to lies below the name it started from, so a fallback is never undone by a
later one.
-/

namespace DeviceSettings.Controller

open DeviceSettings.Std

/-- The characters of a `char[RES_MAX_LEN]`. -/
def resRoom : Nat := 63

/-- `fallBackResolutionList` as `setupPlatformConfig` fills it: 576p is there in Europe only,
and the array keeps an empty name at its end elsewhere. -/
def fallBackResolutionList (isEUPlatform : Bool) : List String :=
  let names := ["2160p", "1080p", "1080i", "720p", "576p", "480p"].filter fun name =>
    isEUPlatform || !occursIn "576p" name
  names ++ List.replicate (6 - names.length) ""

/-- `getSecondaryResolution(res, secRes)`; `none` where it answers false. -/
def getSecondaryResolution (res : String) : Option String :=
  if occursIn "720p" res then some "720p"
  else if occursIn "1080p" res then some "1080p60"
  else if occursIn "1080i" res then some "1080i"
  else if occursIn "2160p" res then some "2160p60"
  else none

/-- `parseResolution(pResn, bResn)`; `none` where `strtok` finds no token and its NULL is
copied from. -/
def parseResolution (pResn : String) : Option String :=
  (strtok (strncpy pResn resRoom) "ip").map fun token =>
    let suffix :=
      if pResn.toList.contains 'i' then "i" else if pResn.toList.contains 'p' then "p" else ""
    strncpy (token ++ suffix) resRoom

/-- `getFallBackResolution(Resn, fbResn, flag)`. -/
def getFallBackResolution (resn : String) (flag : Bool) : String :=
  let suffix :=
    if flag then
      if resn = "2160p" ∨ resn = "1080p" ∨ resn = "720p" then "50"
      else if resn = "1080i" then "25"
      else ""
    else if resn = "2160p" ∨ resn = "1080p" then "60"
    else ""
  strncpy (strncpy resn resRoom ++ suffix) resRoom

/-- The names of one entry of the list, in the order they are tried. -/
def fallbacksOf (isEUPlatform : Bool) (resn : String) : List String :=
  if isEUPlatform then [getFallBackResolution resn true, getFallBackResolution resn false]
  else [getFallBackResolution resn false]

/-- The loop behind the entry that equals the base resolution; without one it starts behind
the first entry. -/
def nextResolutions (isEUPlatform : Bool) (baseResn : String) : List String :=
  let list := fallBackResolutionList isEUPlatform
  let index := (list.findIdx? fun entry => entry == baseResn).getD 0
  (list.drop (index + 1)).flatMap (fallbacksOf isEUPlatform)

/-- The name tried between the resolution itself and the ladder. -/
def secondaryOf (isEUPlatform : Bool) (name : String) : Option String :=
  if isEUPlatform then getSecondaryResolution name else none

/-- All names tried for a resolution that the sink does not offer. -/
def fallbackNames (isEUPlatform : Bool) (name : String) : List String :=
  (secondaryOf isEUPlatform name).toList ++
    match parseResolution name with
    | some baseResn => nextResolutions isEUPlatform baseResn
    | none => []

/-- What `SetResolution` decides for the HDMI port. -/
inductive ResolutionChoice where
  /-- `strtok` has returned NULL, and `strncpy` reads from it. -/
  | undefined
  | keep
  | set (name : String)
  deriving DecidableEq, Repr

/-- The three stages of `SetResolution` over the names of the EDID. -/
def selectResolution (isEUPlatform : Bool) (isResInEdid : String → Bool) (name : String) :
    ResolutionChoice :=
  if isResInEdid name then .set name
  else
    match (secondaryOf isEUPlatform name).filter isResInEdid with
    | some secResn => .set secResn
    | none =>
      match parseResolution name with
      | none => .undefined
      | some baseResn =>
        match (nextResolutions isEUPlatform baseResn).find? isResInEdid with
        | some fbResn => .set fbResn
        | none => .keep

/-- A fallback is the first of the fallback names that the EDID has. -/
theorem selectResolution_fallback (isEUPlatform : Bool) {isResInEdid : String → Bool}
    {name : String} (absent : isResInEdid name = false) :
    selectResolution isEUPlatform isResInEdid name =
      match (fallbackNames isEUPlatform name).find? isResInEdid with
      | some fallback => .set fallback
      | none => if parseResolution name = none then .undefined else .keep := by
  have notDirect : ¬isResInEdid name = true := by simp [absent]
  unfold selectResolution fallbackNames
  rw [if_neg notDirect, List.find?_append]
  cases secondary : secondaryOf isEUPlatform name with
  | none =>
      cases parsed : parseResolution name with
      | none => rfl
      | some baseResn =>
          cases found : (nextResolutions isEUPlatform baseResn).find? isResInEdid <;>
            simp [found]
  | some secResn =>
      cases offered : isResInEdid secResn with
      | true => simp [Option.filter, offered]
      | false =>
          cases parsed : parseResolution name with
          | none => simp [Option.filter, offered]
          | some baseResn =>
              cases found : (nextResolutions isEUPlatform baseResn).find? isResInEdid <;>
                simp [Option.filter, offered, found]

/-! ### Fallbacks descend -/

/-- Every name that can be a fallback, from the best one down. -/
def ladder (isEUPlatform : Bool) : List String :=
  if isEUPlatform then
    ["2160p60", "1080p50", "1080p60", "1080i25", "1080i", "720p50", "720p", "576p", "480p"]
  else ["1080p60", "1080i", "720p", "480p", ""]

/-- The second name is a fallback, and lies below the first one if that is on the ladder. -/
def Below (isEUPlatform : Bool) (upper lower : String) : Prop :=
  lower ∈ ladder isEUPlatform ∧
    (upper ∈ ladder isEUPlatform →
      (ladder isEUPlatform).idxOf upper < (ladder isEUPlatform).idxOf lower)

theorem Below.ne {isEUPlatform : Bool} {upper lower : String}
    (below : Below isEUPlatform upper lower) : lower ≠ upper := by
  rintro rfl
  exact lt_irrefl _ (below.2 below.1)

/-- The ladder names of the entries behind the first one. -/
theorem flatMap_fallbacks_mem (isEUPlatform : Bool) :
    ∀ name ∈ ((fallBackResolutionList isEUPlatform).drop 1).flatMap (fallbacksOf isEUPlatform),
      name ∈ ladder isEUPlatform := by
  cases isEUPlatform <;> decide

theorem secondaryOf_mem {isEUPlatform : Bool} {name secondary : String}
    (found : secondaryOf isEUPlatform name = some secondary) :
    secondary ∈ ladder isEUPlatform := by
  unfold secondaryOf getSecondaryResolution at found
  cases isEUPlatform with
  | false => simp at found
  | true =>
      simp only [if_true] at found
      split_ifs at found <;> cases found <;> decide

/-- Whatever the resolution was, its fallbacks are on the ladder. -/
theorem mem_ladder_of_fallback {isEUPlatform : Bool} {name fallback : String}
    (member : fallback ∈ fallbackNames isEUPlatform name) : fallback ∈ ladder isEUPlatform := by
  unfold fallbackNames at member
  rcases List.mem_append.mp member with secondary | later
  · exact secondaryOf_mem (Option.mem_toList.mp secondary)
  · split at later
    next baseResn _ =>
        obtain ⟨entry, inList, inEntry⟩ := List.mem_flatMap.mp later
        refine flatMap_fallbacks_mem isEUPlatform fallback
          (List.mem_flatMap.mpr ⟨entry, ?_, inEntry⟩)
        rw [Nat.add_comm, ← List.drop_drop] at inList
        exact List.mem_of_mem_drop inList
    next => exact absurd later List.not_mem_nil

/-- The fallbacks of a ladder name are itself and names below it. -/
theorem ladder_descends (isEUPlatform : Bool) :
    ∀ name ∈ ladder isEUPlatform, ∀ fallback ∈ fallbackNames isEUPlatform name,
      fallback = name ∨
        (ladder isEUPlatform).idxOf name < (ladder isEUPlatform).idxOf fallback := by
  cases isEUPlatform <;> decide

/-- Falling back from a resolution leads below it. -/
theorem below_of_fallback {isEUPlatform : Bool} {name fallback : String}
    (member : fallback ∈ fallbackNames isEUPlatform name) (other : fallback ≠ name) :
    Below isEUPlatform name fallback :=
  ⟨mem_ladder_of_fallback member, fun onLadder =>
    (ladder_descends isEUPlatform name onLadder fallback member).resolve_left other⟩

/-- Falling back once more leads further down. -/
theorem Below.trans_fallback {isEUPlatform : Bool} {upper lower fallback : String}
    (below : Below isEUPlatform upper lower)
    (member : fallback ∈ fallbackNames isEUPlatform lower) :
    Below isEUPlatform upper fallback := by
  refine ⟨mem_ladder_of_fallback member, fun onLadder => ?_⟩
  rcases ladder_descends isEUPlatform lower below.1 fallback member with rfl | further
  · exact below.2 onLadder
  · exact (below.2 onLadder).trans further

end DeviceSettings.Controller
