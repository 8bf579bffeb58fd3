import DeviceSettings.Display.Edid
import DeviceSettings.Std.Grouping

/-!
# The EDID narrowed to the platform's resolutions

`filterEDIDResolution` writes the matching entries over the front of the array it has copied them
from. What is left is the original list grouped by the platform's names.
-/

namespace DeviceSettings.Display

open DeviceSettings.Std
open DeviceSettings.VideoPort

/-- The entries of an EDID that count, cut at the end of the array. -/
def listedResolutions {room limit : Nat} (edid : DsDisplayEdid room limit) :
    List (HalResolution room) :=
  edid.suppResolutionList.toList.take (resolutionCount edid).toNat

/-- The list, cut at the end of the array, stands in front of what is left of the array. -/
structure Filled {α : Type} {limit : Nat} (original : Vector α limit) (list : List α)
    (kept : Vector α limit × Nat) : Prop where
  filled : kept.1.toList =
    list.take limit ++ original.toList.drop (list.take limit).length
  count : kept.2 = (list.take limit).length

namespace Filled

variable {α : Type} {limit : Nat} {original : Vector α limit} {list : List α}
  {kept : Vector α limit × Nat}

theorem start (original : Vector α limit) : Filled original [] (original, 0) := ⟨by simp, by simp⟩

/-- The next entry goes behind the list while there is room. -/
theorem store (filled : Filled original list kept) (entry : α) :
    Filled original (list ++ [entry])
      (if kept.2 < limit then (kept.1.setIfInBounds kept.2 entry, kept.2 + 1) else kept) := by
  have size : original.toList.length = limit := by simp
  have count := filled.count
  rw [List.length_take] at count
  split_ifs with room
  · have short : list.length < limit := by omega
    have whole : list.take limit = list := List.take_of_length_le short.le
    have next : (list ++ [entry]).take limit = list ++ [entry] :=
      List.take_of_length_le (by simpa [Nat.succ_le_iff] using short)
    have place : kept.2 = list.length := by omega
    have before := filled.filled
    rw [whole] at before
    refine ⟨?_, by rw [next, place, List.length_append, List.length_singleton]⟩
    rw [next, Vector.toList_setIfInBounds, before, place, List.set_append_right _ _ le_rfl,
      Nat.sub_self, List.drop_eq_getElem_cons (by omega), List.set_cons_zero,
      List.length_append, List.length_singleton, List.append_assoc, List.singleton_append]
  · have full : limit ≤ list.length := by omega
    have same : (list ++ [entry]).take limit = list.take limit :=
      List.take_append_of_le_length full
    exact ⟨by rw [same]; exact filled.filled, by rw [same]; exact filled.count⟩

end Filled

section Filter

variable {σ : Type} {room limit : Nat} {original : Vector (HalResolution room) limit}
  {list entries : List (HalResolution room)} {kept : Vector (HalResolution room) limit × Nat}

/-- One platform name adds the entries of this name. -/
theorem Filled.keepNamed (filled : Filled original list kept) (name : String) :
    Filled original (list ++ entries.filter fun entry => entry.name.text == name)
      (entries.foldl (keepIfNamed name) kept) := by
  induction entries generalizing list kept with
  | nil => simpa using filled
  | cons entry entries ih =>
      rw [List.foldl_cons, List.filter_cons]
      by_cases named : entry.name.text = name
      · have stored : keepIfNamed name kept entry =
            if kept.2 < limit then (kept.1.setIfInBounds kept.2 entry, kept.2 + 1) else kept := by
          simp [keepIfNamed, named]
        rw [stored, if_pos (beq_iff_eq.mpr named), List.append_cons]
        exact ih (filled.store entry)
      · have passed : keepIfNamed name kept entry = kept := by
          simp [keepIfNamed, Ne.symm named]
        rw [passed, if_neg (mt beq_iff_eq.mp named)]
        exact ih filled

variable (entries) in
/-- All names add the entries grouped by them. -/
theorem Filled.keepAll (filled : Filled original list kept)
    (platformResolutions : List VideoPortResolution) :
    Filled original
      (list ++ grouped (fun entry : HalResolution room => entry.name.text)
        (platformResolutions.map VideoPortResolution.name) entries)
      (platformResolutions.foldl
        (fun kept platformRes => entries.foldl (keepIfNamed platformRes.name) kept) kept) := by
  induction platformResolutions generalizing list kept with
  | nil => simpa using filled
  | cons platformRes rest ih =>
      rw [List.foldl_cons, List.map_cons, grouped_cons, ← List.append_assoc]
      exact ih (filled.keepNamed platformRes.name)

variable {platform : DisplayPlatform σ room limit} {handle : Int}
  {edid : DsDisplayEdid room limit}

theorem length_listedResolutions_le : (listedResolutions edid).length ≤ limit := by
  rw [listedResolutions, List.length_take]
  exact (Nat.min_le_right _ _).trans (by simp)

variable (edid) in
/-- What the filter leaves in the structure of an HDMI display. -/
theorem filterEDIDResolution_hdmi
    (distinct : (platform.hdmiResolutions.map VideoPortResolution.name).Nodup)
    (hdmi : platform.getDisplayPortType handle = some .hdmi) :
    let left := grouped (fun entry : HalResolution room => entry.name.text)
      (platform.hdmiResolutions.map VideoPortResolution.name) (listedResolutions edid)
    ∃ list : Vector (HalResolution room) limit,
      platform.filterEDIDResolution handle edid =
          { edid with suppResolutionList := list, numOfSupportedResolution := left.length } ∧
        list.toList = left ++ edid.suppResolutionList.toList.drop left.length := by
  intro left
  have short : left.length ≤ limit :=
    (length_grouped_le distinct _).trans length_listedResolutions_le
  have filled := (Filled.start edid.suppResolutionList).keepAll (listedResolutions edid)
    platform.hdmiResolutions
  rw [List.nil_append] at filled
  have whole : left.take limit = left := List.take_of_length_le short
  refine ⟨_, ?_, filled.filled.trans ?_⟩
  · rw [DisplayPlatform.filterEDIDResolution, if_neg (not_not.mpr hdmi)]
    have count := filled.count
    rw [show List.take limit _ = left from whole] at count
    dsimp only
    rw [← count]
    rfl
  · rw [show List.take limit _ = left from whole]

variable (edid) in
/-- The entries that count behind the filter. -/
theorem listedResolutions_filter
    (distinct : (platform.hdmiResolutions.map VideoPortResolution.name).Nodup)
    (hdmi : platform.getDisplayPortType handle = some .hdmi) :
    listedResolutions (platform.filterEDIDResolution handle edid) =
      grouped (fun entry : HalResolution room => entry.name.text)
        (platform.hdmiResolutions.map VideoPortResolution.name) (listedResolutions edid) := by
  obtain ⟨list, same, front⟩ := filterEDIDResolution_hdmi edid distinct hdmi
  have short : (grouped (fun entry : HalResolution room => entry.name.text)
      (platform.hdmiResolutions.map VideoPortResolution.name) (listedResolutions edid)).length ≤
        limit :=
    (length_grouped_le distinct _).trans length_listedResolutions_le
  have count : (resolutionCount (platform.filterEDIDResolution handle edid)).toNat =
      (grouped (fun entry : HalResolution room => entry.name.text)
        (platform.hdmiResolutions.map VideoPortResolution.name)
          (listedResolutions edid)).length := by
    rw [same, resolutionCount]
    dsimp only
    split_ifs <;> omega
  rw [listedResolutions, count, same]
  dsimp only
  rw [front, List.take_left]

/-- A display is an HDMI one exactly when `dsGetDisplay` gives its handle for a configured HDMI
port, and for no port that is configured before. -/
theorem getDisplayPortType_hdmi_iff :
    platform.getDisplayPortType handle = some .hdmi ↔
      ∃ earlier index later, platform.videoPorts = earlier ++ (.hdmi, index) :: later ∧
        platform.dsGetDisplay .hdmi index = .ok handle ∧
        ∀ port ∈ earlier, platform.dsGetDisplay port.1 port.2 ≠ .ok handle := by
  simp only [DisplayPlatform.getDisplayPortType, Option.map_eq_some_iff,
    List.find?_eq_some_iff_append, Bool.not_eq_true', Bool.eq_false_iff]
  constructor
  · rintro ⟨⟨type, index⟩, ⟨given, earlier, later, split, others⟩, rfl⟩
    refine ⟨earlier, index, later, split, ?_, fun port member same => ?_⟩
    · cases answered : platform.dsGetDisplay .hdmi index with
      | ok halHandle =>
          simp only [answered, decide_eq_true_eq] at given
          rw [given]
      | error error => simp [answered] at given
    · exact others port member (by simp [same])
  · rintro ⟨earlier, index, later, split, given, others⟩
    refine ⟨(.hdmi, index), ⟨by simp [given], earlier, later, split, fun port member => ?_⟩, rfl⟩
    have other := others port member
    cases answered : platform.dsGetDisplay port.1 port.2 with
    | ok halHandle => simpa [answered] using other
    | error error => simp

/-- The list of an HDMI display is the original one grouped by the platform's names, every entry
with one of them as often as before; it fits, and filtering once more leaves the structure as it
is. The structure of another display is not touched. The HDMI displays are those of the configured
HDMI ports. -/
theorem filterEDIDResolution_keeps (platform : DisplayPlatform σ room limit) (handle : Int)
    (edid : DsDisplayEdid room limit)
    (distinct : (platform.hdmiResolutions.map VideoPortResolution.name).Nodup) :
    (platform.getDisplayPortType handle = some .hdmi →
      let filtered := platform.filterEDIDResolution handle edid
      listedResolutions filtered =
          grouped (fun entry : HalResolution room => entry.name.text)
            (platform.hdmiResolutions.map VideoPortResolution.name) (listedResolutions edid) ∧
        (listedResolutions filtered).Perm ((listedResolutions edid).filter fun entry =>
          (platform.hdmiResolutions.map VideoPortResolution.name).contains entry.name.text) ∧
        filtered.numOfSupportedResolution = (listedResolutions filtered).length ∧
        filtered.numOfSupportedResolution ≤ limit ∧
        platform.filterEDIDResolution handle filtered = filtered) ∧
      (platform.getDisplayPortType handle ≠ some .hdmi →
        platform.filterEDIDResolution handle edid = edid) ∧
      (platform.getDisplayPortType handle = some .hdmi ↔
        ∃ earlier index later, platform.videoPorts = earlier ++ (.hdmi, index) :: later ∧
          platform.dsGetDisplay .hdmi index = .ok handle ∧
          ∀ port ∈ earlier, platform.dsGetDisplay port.1 port.2 ≠ .ok handle) := by
  refine ⟨?_, ?_, getDisplayPortType_hdmi_iff⟩
  · intro hdmi filtered
    have listed := listedResolutions_filter edid distinct hdmi
    obtain ⟨list, same, front⟩ := filterEDIDResolution_hdmi edid distinct hdmi
    have count : filtered.numOfSupportedResolution = (listedResolutions filtered).length := by
      rw [listed]
      exact congrArg DsDisplayEdid.numOfSupportedResolution same
    refine ⟨listed, listed ▸ grouped_perm distinct _, count, ?_, ?_⟩
    · rw [count]
      exact_mod_cast length_listedResolutions_le
    · obtain ⟨again, sameAgain, frontAgain⟩ :=
        filterEDIDResolution_hdmi filtered distinct hdmi
      rw [listed, grouped_grouped distinct] at sameAgain frontAgain
      have sameList : again = list := by
        rw [← Vector.toList_inj, frontAgain, front]
        have array : filtered.suppResolutionList = list :=
          congrArg DsDisplayEdid.suppResolutionList same
        rw [array, front, List.drop_left]
      rw [sameAgain, sameList]
      have fields : filtered = _ := same
      rw [fields]
  · intro other
    rw [DisplayPlatform.filterEDIDResolution, if_pos other]

end Filter

namespace FilteredSink

/-- A display that repeats 720p and knows a name that the platform does not. -/
def edid : DsDisplayEdid 31 4 where
  productCode := 0
  serialNumber := 0
  manufactureYear := 2020
  manufactureWeek := 1
  hdmiDeviceType := true
  isRepeater := false
  physicalAddressA := 1
  physicalAddressB := 0
  physicalAddressC := 0
  physicalAddressD := 0
  numOfSupportedResolution := 4
  suppResolutionList :=
    #v["720p", "1080p60", "900p", "720p"].map fun name => toHal 31 (buildResolutionFromName name)
  monitorName := ""

/-- The platform prefers 1080p60, and has one display. -/
def platform : DisplayPlatform Unit 31 4 where
  dsGetEDID _ _ := .ok edid
  dsGetEDIDBytes _ _ := .error .unknown
  resolvesBytes := false
  dsGetDisplay type _ := if type = .hdmi then .ok 7 else .error .unknown
  videoPorts := [(.component, 0), (.hdmi, 0)]
  hdmiResolutions := ["1080p60", "720p"].map buildResolutionFromName

end FilteredSink

theorem filterEDIDResolution_keeps_720p :
    let filtered := FilteredSink.platform.filterEDIDResolution 7 FilteredSink.edid
    (listedResolutions filtered).map (fun entry => entry.name.text) =
        ["1080p60", "720p", "720p"] ∧
      listedResolutions filtered =
        grouped (fun entry : HalResolution 31 => entry.name.text) ["1080p60", "720p"]
          (listedResolutions FilteredSink.edid) ∧
      (listedResolutions filtered).Perm ((listedResolutions FilteredSink.edid).filter
        fun entry => ["1080p60", "720p"].contains entry.name.text) ∧
      filtered.numOfSupportedResolution = (listedResolutions filtered).length ∧
      filtered.numOfSupportedResolution ≤ (4 : Nat) ∧
      FilteredSink.platform.filterEDIDResolution 7 filtered = filtered ∧
      FilteredSink.platform.filterEDIDResolution 8 FilteredSink.edid = FilteredSink.edid := by
  intro filtered
  obtain ⟨hdmi, -, -⟩ :=
    filterEDIDResolution_keeps FilteredSink.platform 7 FilteredSink.edid (by decide)
  obtain ⟨-, other, -⟩ :=
    filterEDIDResolution_keeps FilteredSink.platform 8 FilteredSink.edid (by decide)
  obtain ⟨same, perm, count, fits, again⟩ := hdmi (by decide)
  exact ⟨by decide +kernel, same, perm, count, fits, again, other (by decide)⟩

end DeviceSettings.Display
