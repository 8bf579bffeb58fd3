import DeviceSettings.Controller.ResolutionNames
import DeviceSettings.Controller.UserResolution
import DeviceSettings.VideoPort.ModeNames

/-!
# Where a fallback lies on the ladder

From a resolution of the region's list a fallback leads down, to the best candidate behind it.
Without an entry for the resolution the list is read from the top.
-/

namespace DeviceSettings.Controller

open DeviceSettings.Std
open DeviceSettings.VideoPort

/-- Of a list that is sorted by a key, the first element with a property has the least key. -/
theorem exists_least_of_find? {α β : Type} {name : α → β} {key : α → Nat} {candidates : List α}
    {offered : β → Bool} {picked : β}
    (sorted : candidates.Pairwise fun before after => key before ≤ key after)
    (found : (candidates.map name).find? offered = some picked) :
    ∃ first ∈ candidates, name first = picked ∧
      ∀ other ∈ candidates, offered (name other) = true → key first ≤ key other := by
  induction candidates with
  | nil => cases found
  | cons candidate rest ih =>
      obtain ⟨least, sortedRest⟩ := List.pairwise_cons.mp sorted
      rw [List.map_cons, List.find?_cons] at found
      split at found
      · refine ⟨candidate, List.mem_cons_self, Option.some.inj found, ?_⟩
        intro other member _
        rcases List.mem_cons.mp member with rfl | later
        · exact le_rfl
        · exact least other later
      · next absent =>
        obtain ⟨first, member, named, leastRest⟩ := ih sortedRest found
        refine ⟨first, List.mem_cons_of_mem _ member, named, ?_⟩
        intro other among isOffered
        rcases List.mem_cons.mp among with rfl | later
        · rw [isOffered] at absent
          cases absent
        · exact leastRest other later isOffered

/-! ### Names on the ladder -/

/-- The scan classes, best first. -/
def scanLadder : List (List ScanClass) :=
  [[⟨.l2160, false⟩], [⟨.l1080, false⟩], [⟨.l1080, true⟩], [⟨.l768, false⟩], [⟨.l720, false⟩],
    [⟨.l576, false⟩, ⟨.l576, true⟩], [⟨.l480, false⟩, ⟨.l480, true⟩]]

def rung (scan : ScanClass) : Nat := scanLadder.findIdx (·.contains scan)

/-- There is a place for the class on the ladder. -/
def OnLadder (scan : ScanClass) : Prop := rung scan < scanLadder.length

instance (scan : ScanClass) : Decidable (OnLadder scan) := inferInstanceAs (Decidable (_ < _))

/-- The modes of a region from the second list entry down, as they are tried. -/
def regionModes (isEUPlatform : Bool) : List ModeName :=
  if isEUPlatform then
    [⟨⟨.l1080, false⟩, "50", by decide⟩, ⟨⟨.l1080, false⟩, "60", by decide⟩,
      ⟨⟨.l1080, true⟩, "25", by decide⟩, ⟨⟨.l1080, true⟩, "", by decide⟩,
      ⟨⟨.l720, false⟩, "50", by decide⟩, ⟨⟨.l720, false⟩, "", by decide⟩,
      -- both variants of these two entries are the entry itself
      ⟨⟨.l576, false⟩, "", by decide⟩, ⟨⟨.l576, false⟩, "", by decide⟩,
      ⟨⟨.l480, false⟩, "", by decide⟩, ⟨⟨.l480, false⟩, "", by decide⟩]
  else
    [⟨⟨.l1080, false⟩, "60", by decide⟩, ⟨⟨.l1080, true⟩, "", by decide⟩,
      ⟨⟨.l720, false⟩, "", by decide⟩, ⟨⟨.l480, false⟩, "", by decide⟩]

/-- The modes that a fallback can lead to. -/
def fallbackModes (isEUPlatform : Bool) : List ModeName :=
  ⟨⟨.l2160, false⟩, "60", by decide⟩ :: regionModes isEUPlatform

section Parsing

variable (mode : ModeName)

theorem fps_not_mem {c : Char} (named : c ∈ ['i', 'p', '\x00']) : c ∉ mode.fps.toList := by
  intro member
  have rate := mode.rateChar member
  rw [not_rateChar named] at rate
  cases rate

/-- `strtok` stops at the scan letter, whatever the rate is. -/
theorem parseResolution_name : parseResolution mode.name = some mode.scan.base := by
  have noI : 'i' ∉ mode.fps.toList := fps_not_mem mode (by decide)
  have noP : 'p' ∉ mode.fps.toList := fps_not_mem mode (by decide)
  obtain ⟨⟨lines, interlaced⟩, fps, rated⟩ := mode
  cases lines <;> cases interlaced <;>
    simp [parseResolution, strtok, strncpy, cString, resRoom, ModeName.name, ScanClass.base,
      LineCount.digits, noI, noP]

theorem getSecondaryResolution_name :
    getSecondaryResolution mode.name = getSecondaryResolution mode.scan.base := by
  have p720 := mode.occursIn_name ['7', '2', '0'] (show isRateChar 'p' = false by decide)
  have p1080 := mode.occursIn_name ['1', '0', '8', '0'] (show isRateChar 'p' = false by decide)
  have i1080 := mode.occursIn_name ['1', '0', '8', '0'] (show isRateChar 'i' = false by decide)
  have p2160 := mode.occursIn_name ['2', '1', '6', '0'] (show isRateChar 'p' = false by decide)
  have seen : ∀ part ∈ ["720p", "1080p", "1080i", "2160p"],
      occursIn part mode.name = occursIn part mode.scan.base := by
    intro part member
    simp only [List.mem_cons, List.not_mem_nil, or_false] at member
    rcases member with rfl | rfl | rfl | rfl
    exacts [p720, p1080, i1080, p2160]
  unfold getSecondaryResolution
  rw [seen "720p" (by decide), seen "1080p" (by decide), seen "1080i" (by decide),
    seen "2160p" (by decide)]

/-- The fallbacks of a mode do not depend on its rate. -/
theorem fallbackNames_name (isEUPlatform : Bool) :
    fallbackNames isEUPlatform mode.name =
      (secondaryOf isEUPlatform mode.scan.base).toList ++
        nextResolutions isEUPlatform mode.scan.base := by
  have secondary :
      secondaryOf isEUPlatform mode.name = secondaryOf isEUPlatform mode.scan.base := by
    unfold secondaryOf
    rw [getSecondaryResolution_name]
  rw [fallbackNames, parseResolution_name, secondary]

end Parsing

/-- A name belongs to one scan class. -/
theorem scan_of_name {mode other : ModeName} (same : mode.name = other.name) :
    mode.scan = other.scan := by
  have base : mode.scan.base = other.scan.base := by
    have parsed := parseResolution_name mode
    rw [same, parseResolution_name other] at parsed
    exact (Option.some.inj parsed).symm
  have injective : ∀ left right : ScanClass, left.base = right.base → left = right := by decide
  exact injective _ _ base

/-- Behind a base of the list the fallbacks are modes that are not higher. -/
theorem fallbacks_of_listed (isEUPlatform : Bool) :
    ∀ scan : ScanClass, OnLadder scan → scan.base ∈ fallBackResolutionList isEUPlatform →
      ∀ fallback ∈ (secondaryOf isEUPlatform scan.base).toList ++
          nextResolutions isEUPlatform scan.base,
        fallback ≠ "" → ∃ mode ∈ fallbackModes isEUPlatform,
          mode.name = fallback ∧ OnLadder mode.scan ∧ rung scan ≤ rung mode.scan := by
  cases isEUPlatform <;> decide

/-- Any other base is taken for the first one. -/
theorem fallbacks_of_unlisted (isEUPlatform : Bool) :
    ∀ scan : ScanClass, OnLadder scan → scan.base ∉ fallBackResolutionList isEUPlatform →
      ((secondaryOf isEUPlatform scan.base).toList ++
          nextResolutions isEUPlatform scan.base).filter (· != "") =
        (regionModes isEUPlatform).map ModeName.name := by
  cases isEUPlatform <;> decide

/-- The modes of a region descend. -/
theorem regionModes_descend (isEUPlatform : Bool) :
    (regionModes isEUPlatform).Pairwise fun upper lower => rung upper.scan ≤ rung lower.scan := by
  cases isEUPlatform <;> decide

theorem regionModes_onLadder (isEUPlatform : Bool) :
    ∀ mode ∈ regionModes isEUPlatform, OnLadder mode.scan := by
  cases isEUPlatform <;> decide

/-! ### No upgrade -/

section Upgrade

variable {room : Nat} {σ : Type}

/-- The sink has the name, and the mode it names is not higher than the other one. -/
structure NotUpgraded (sink : Sink room) (mode : ModeName) (picked : String) : Prop where
  offered : picked ∈ sink.edidNames
  notHigher : ∃ chosen : ModeName,
    chosen.name = picked ∧ OnLadder chosen.scan ∧ rung mode.scan ≤ rung chosen.scan

variable {platform : HdmiPlatform σ room} {sink : Sink room} {mode : ModeName}

theorem not_mem_edidNames_empty : "" ∉ sink.edidNames := fun offered => edidNames_ne offered rfl

/-- An empty name is never found. -/
theorem find?_filter_nonempty (names : List String) :
    (names.filter (· != "")).find? sink.isResInEdid = names.find? sink.isResInEdid := by
  induction names with
  | nil => rfl
  | cons name names ih =>
      by_cases empty : name = ""
      · subst empty
        have absent : sink.isResInEdid "" = false :=
          Bool.eq_false_iff.mpr (mt isResInEdid_iff.mp not_mem_edidNames_empty)
        simp [absent, ih]
      · simp [empty, List.find?_cons, ih]

/-- What a ready sink without the resolution gets. -/
theorem chooseResolution_fallback_iff (ready : sink.ready = true)
    (lacking : mode.name ∉ sink.edidNames) {picked : String} :
    chooseResolution platform sink .hdmi mode.name = .set picked ↔
      ((secondaryOf platform.isEUPlatform mode.scan.base).toList ++
        nextResolutions platform.isEUPlatform mode.scan.base).find? sink.isResInEdid =
          some picked := by
  have absent : sink.isResInEdid mode.name = false :=
    Bool.eq_false_iff.mpr (mt isResInEdid_iff.mp lacking)
  rw [chooseResolution, if_pos rfl, if_pos ready, selectResolution_eq_set_iff, triedNames,
    List.find?_cons, absent, fallbackNames_name]

/-- A sink that is ready and has the resolution gets it. -/
theorem chooseResolution_direct_iff (ready : sink.ready = true)
    (has : mode.name ∈ sink.edidNames) {picked : String} :
    chooseResolution platform sink .hdmi mode.name = .set picked ↔ mode.name = picked := by
  rw [chooseResolution, if_pos rfl, if_pos ready, selectResolution_eq_set_iff, triedNames,
    List.find?_cons, isResInEdid_iff.mpr has, Option.some.injEq]

/-- `SetResolution` never upgrades, exactly when the sink is not ready, it has the resolution, the
base is in the region's list, or the sink has none of the region's modes that are higher. -/
theorem notUpgraded_iff (platform : HdmiPlatform σ room) (sink : Sink room) (mode : ModeName)
    (onLadder : OnLadder mode.scan) :
    (∀ picked, chooseResolution platform sink .hdmi mode.name = .set picked →
        NotUpgraded sink mode picked) ↔
      sink.ready = false ∨ mode.name ∈ sink.edidNames ∨
        mode.scan.base ∈ fallBackResolutionList platform.isEUPlatform ∨
        ∀ higher ∈ regionModes platform.isEUPlatform, rung higher.scan < rung mode.scan →
          higher.name ∉ sink.edidNames := by
  by_cases ready : sink.ready = true
  case neg =>
    refine iff_of_true (fun picked chosen => ?_) (.inl (by simpa using ready))
    rw [chooseResolution, if_pos rfl, if_neg ready] at chosen
    cases chosen
  rw [or_iff_right (by simp [ready])]
  by_cases has : mode.name ∈ sink.edidNames
  case pos =>
    refine iff_of_true (fun picked chosen => ?_) (.inl has)
    obtain rfl := (chooseResolution_direct_iff ready has).mp chosen
    exact ⟨has, mode, rfl, onLadder, le_rfl⟩
  rw [or_iff_right has]
  simp only [chooseResolution_fallback_iff ready has]
  by_cases listed : mode.scan.base ∈ fallBackResolutionList platform.isEUPlatform
  case pos =>
    refine iff_of_true (fun picked found => ?_) (.inl listed)
    have offered : picked ∈ sink.edidNames := isResInEdid_iff.mp (List.find?_some found)
    obtain ⟨chosen, -, named, below, notHigher⟩ := fallbacks_of_listed platform.isEUPlatform
      mode.scan onLadder listed picked (List.mem_of_find?_eq_some found) (edidNames_ne offered)
    exact ⟨offered, chosen, named, below, notHigher⟩
  rw [or_iff_right listed]
  -- the fallbacks are the region's modes, from the top
  have filtered : ∀ names : List String,
      names.find? sink.isResInEdid = (names.filter (· != "")).find? sink.isResInEdid :=
    fun names => (find?_filter_nonempty names).symm
  simp only [filtered (_ ++ _),
    fallbacks_of_unlisted platform.isEUPlatform mode.scan onLadder listed]
  constructor
  · intro never higher member above offered
    obtain ⟨picked, found⟩ := Option.isSome_iff_exists.mp (List.find?_isSome.mpr
      ⟨higher.name, List.mem_map_of_mem member, isResInEdid_iff.mpr offered⟩)
    obtain ⟨chosen, named, -, notHigher⟩ := (never picked found).notHigher
    obtain ⟨first, -, same, least⟩ :=
      exists_least_of_find? (regionModes_descend platform.isEUPlatform) found
    have class_eq : chosen.scan = first.scan := scan_of_name (named.trans same.symm)
    have notAbove := least higher member (isResInEdid_iff.mpr offered)
    rw [class_eq] at notHigher
    exact absurd above (Nat.not_lt_of_le (notHigher.trans notAbove))
  · intro none picked found
    have offered : picked ∈ sink.edidNames := isResInEdid_iff.mp (List.find?_some found)
    obtain ⟨chosen, member, rfl⟩ := List.mem_map.mp (List.mem_of_find?_eq_some found)
    refine ⟨offered, chosen, rfl, regionModes_onLadder _ chosen member, ?_⟩
    exact Nat.le_of_not_lt fun above => none chosen member above offered

end Upgrade

theorem notUpgraded_iff_768p :
    (∀ picked, chooseResolution ResolutionMemory.platform
          (ResolutionMemory.television ["720p"]) .hdmi "768p60" = .set picked →
        NotUpgraded (ResolutionMemory.television ["720p"]) ⟨⟨.l768, false⟩, "60", by decide⟩
          picked) ↔
      (ResolutionMemory.television ["720p"]).ready = false ∨
        "768p60" ∈ (ResolutionMemory.television ["720p"]).edidNames ∨
        "768p" ∈ fallBackResolutionList false ∨
        ∀ higher ∈ regionModes false, rung higher.scan < rung ⟨.l768, false⟩ →
          higher.name ∉ (ResolutionMemory.television ["720p"]).edidNames :=
  notUpgraded_iff ResolutionMemory.platform (ResolutionMemory.television ["720p"])
    ⟨⟨.l768, false⟩, "60", by decide⟩ (by decide)

/-- Outside Europe 576p is not in the list, and a sink without it gets 1080p60. -/
theorem upgrades_576p :
    ¬∀ (isEUPlatform : Bool) (sink : Sink 31) (mode : ModeName), OnLadder mode.scan →
      ∀ picked, chooseResolution { ResolutionMemory.platform with isEUPlatform := isEUPlatform }
          sink .hdmi mode.name = .set picked → NotUpgraded sink mode picked := by
  intro never
  obtain ⟨-, chosen, named, -, notHigher⟩ := never false
    (ResolutionMemory.television ["1080p60"]) ⟨⟨.l576, false⟩, "", by decide⟩ (by decide)
      "1080p60" (by decide)
  have class_eq : chosen.scan = ⟨.l1080, false⟩ :=
    scan_of_name (show chosen.name = ModeName.name ⟨⟨.l1080, false⟩, "60", by decide⟩ from named)
  rw [class_eq] at notHigher
  revert notHigher
  decide

/-! ### The best candidate -/

/-- The names that `SetResolution` tries, each with the position of its list entry. The resolution
and its secondary name count for the base. -/
inductive Candidate (isEUPlatform : Bool) (name : String) (basePosition : Nat) :
    String → Nat → Prop where
  | persisted : Candidate isEUPlatform name basePosition name basePosition
  | secondary {secResn : String} (found : secondaryOf isEUPlatform name = some secResn) :
      Candidate isEUPlatform name basePosition secResn basePosition
  /-- A variant of an entry behind the base. -/
  | variant {position : Nat} {entry fbResn : String} (behind : basePosition < position)
      (listed : (fallBackResolutionList isEUPlatform)[position]? = some entry)
      (named : fbResn ∈ fallbacksOf isEUPlatform entry) :
      Candidate isEUPlatform name basePosition fbResn position

/-- No candidate lies in front of the base. -/
theorem Candidate.le {isEUPlatform : Bool} {name other : String} {basePosition place : Nat}
    (candidate : Candidate isEUPlatform name basePosition other place) : basePosition ≤ place := by
  cases candidate with
  | persisted => exact le_rfl
  | secondary _ => exact le_rfl
  | variant behind _ _ => exact behind.le

/-- The variants of the entries from a position on. -/
def variantsFrom (isEUPlatform : Bool) (start : Nat) : List (String × Nat) :=
  (((fallBackResolutionList isEUPlatform).drop start).zipIdx start).flatMap fun entry =>
    (fallbacksOf isEUPlatform entry.1).map (·, entry.2)

/-- The candidates in the order in which they are tried. -/
def candidatesInOrder (isEUPlatform : Bool) (name : String) (basePosition : Nat) :
    List (String × Nat) :=
  (name, basePosition) ::
    ((secondaryOf isEUPlatform name).toList.map (·, basePosition) ++
      variantsFrom isEUPlatform (basePosition + 1))

section Best

variable {isEUPlatform : Bool} {name base : String} {position : Nat}

theorem mem_variantsFrom {start : Nat} {variant : String × Nat} :
    variant ∈ variantsFrom isEUPlatform start ↔
      ∃ entry, start ≤ variant.2 ∧
        (fallBackResolutionList isEUPlatform)[variant.2]? = some entry ∧
          variant.1 ∈ fallbacksOf isEUPlatform entry := by
  obtain ⟨fbResn, index⟩ := variant
  simp only [variantsFrom, List.mem_flatMap, List.mem_map, Prod.exists, Prod.mk.injEq,
    List.mem_zipIdx_iff_le_and_getElem?_sub, List.getElem?_drop]
  constructor
  · rintro ⟨entry, place, ⟨behind, listed⟩, other, named, rfl, rfl⟩
    refine ⟨entry, behind, ?_, named⟩
    rwa [Nat.add_sub_cancel' behind] at listed
  · rintro ⟨entry, behind, listed, named⟩
    refine ⟨entry, index, ⟨behind, ?_⟩, fbResn, named, rfl, rfl⟩
    rwa [Nat.add_sub_cancel' behind]

theorem candidate_iff {other : String} {place : Nat} :
    Candidate isEUPlatform name position other place ↔
      (other, place) ∈ candidatesInOrder isEUPlatform name position := by
  simp only [candidatesInOrder, List.mem_cons, List.mem_append, List.mem_map, Prod.mk.injEq,
    Option.mem_toList, mem_variantsFrom]
  constructor
  · intro candidate
    cases candidate with
    | persisted => exact .inl ⟨rfl, rfl⟩
    | secondary found => exact .inr (.inl ⟨other, found, rfl, rfl⟩)
    | variant behind listed named => exact .inr (.inr ⟨_, behind, listed, named⟩)
  · rintro (⟨rfl, rfl⟩ | ⟨secResn, found, rfl, rfl⟩ | ⟨entry, behind, listed, named⟩)
    · exact .persisted
    · exact .secondary found
    · exact .variant behind listed named

theorem variantsFrom_sorted (start : Nat) :
    (variantsFrom isEUPlatform start).Pairwise fun before after => before.2 ≤ after.2 := by
  have ascending : (((fallBackResolutionList isEUPlatform).drop start).zipIdx start).Pairwise
      fun before after => before.2 ≤ after.2 := by
    rw [← List.pairwise_map (f := Prod.snd) (R := fun before after => before ≤ after),
      List.zipIdx_map_snd]
    exact List.pairwise_le_range'
  refine List.pairwise_flatMap.mpr ⟨?_, ascending.imp ?_⟩
  · intro entry _
    exact List.pairwise_map.mpr (List.pairwise_of_forall fun _ _ => le_rfl)
  · rintro before after order first isVariant second isLater
    obtain ⟨-, -, rfl⟩ := List.mem_map.mp isVariant
    obtain ⟨-, -, rfl⟩ := List.mem_map.mp isLater
    exact order

theorem candidatesInOrder_sorted :
    (candidatesInOrder isEUPlatform name position).Pairwise fun before after =>
      before.2 ≤ after.2 := by
  refine List.pairwise_cons.mpr ⟨?_, List.pairwise_append.mpr ⟨?_, variantsFrom_sorted _, ?_⟩⟩
  · rintro ⟨other, place⟩ member
    have candidate : Candidate isEUPlatform name position other place :=
      candidate_iff.mpr (List.mem_cons_of_mem _ member)
    exact candidate.le
  · cases secondaryOf isEUPlatform name <;> simp
  · rintro ⟨secResn, place⟩ secondary ⟨other, later⟩ variant
    obtain ⟨_, _, atBase⟩ := List.mem_map.mp secondary
    obtain ⟨-, behind, -⟩ := mem_variantsFrom.mp variant
    rw [← (Prod.mk.inj atBase).2]
    exact (Nat.le_succ _).trans behind

theorem map_fst_variantsFrom (start : Nat) :
    (variantsFrom isEUPlatform start).map Prod.fst =
      ((fallBackResolutionList isEUPlatform).drop start).flatMap (fallbacksOf isEUPlatform) := by
  have names : ∀ entry : String × Nat,
      ((fallbacksOf isEUPlatform entry.1).map (·, entry.2)).map Prod.fst =
        fallbacksOf isEUPlatform entry.1 := fun entry => by
    rw [List.map_map]
    exact List.map_id _
  unfold variantsFrom
  generalize (fallBackResolutionList isEUPlatform).drop start = entries
  rw [List.map_flatMap]
  simp only [names]
  rw [← List.flatMap_map, List.zipIdx_map_fst]

/-- They are the names tried. -/
theorem names_candidatesInOrder (parsed : parseResolution name = some base)
    (listed : (fallBackResolutionList isEUPlatform)[position]? = some base) :
    (candidatesInOrder isEUPlatform name position).map Prod.fst =
      triedNames isEUPlatform name := by
  have distinct : (fallBackResolutionList isEUPlatform).Nodup := by
    cases isEUPlatform <;> decide
  have index : (fallBackResolutionList isEUPlatform).findIdx? (fun entry => entry == base) =
      some position := by
    obtain ⟨inside, at_position⟩ := List.getElem?_eq_some_iff.mp listed
    refine List.findIdx?_eq_some_iff_getElem.mpr ⟨inside, by simp [at_position], ?_⟩
    intro earlier before same
    exact List.pairwise_iff_getElem.mp distinct _ _ (before.trans inside) inside before
      ((beq_iff_eq.mp same).trans at_position.symm)
  have variants : (variantsFrom isEUPlatform (position + 1)).map Prod.fst =
      nextResolutions isEUPlatform base := by
    simp only [nextResolutions, index, Option.getD_some, map_fst_variantsFrom]
  have secondary : ((secondaryOf isEUPlatform name).toList.map (·, position)).map Prod.fst =
      (secondaryOf isEUPlatform name).toList := by
    rw [List.map_map]
    exact List.map_id _
  rw [candidatesInOrder, List.map_cons, List.map_append, variants, secondary, triedNames,
    fallbackNames, parsed]

theorem selectResolution_ne_undefined (parsed : parseResolution name = some base)
    {offered : String → Bool} : selectResolution isEUPlatform offered name ≠ .undefined := by
  cases direct : offered name with
  | true => simp [selectResolution, direct]
  | false =>
      rw [selectResolution_fallback isEUPlatform direct, parsed]
      cases (fallbackNames isEUPlatform name).find? offered <;> simp

/-- On a ready sink `SetResolution` picks the candidate that lies highest among those the sink has.
It keeps the resolution only if the sink has none. -/
theorem chooseResolution_best {σ : Type} {room : Nat} (platform : HdmiPlatform σ room)
    (sink : Sink room) (ready : sink.ready = true) (name base : String) (position : Nat)
    (parsed : parseResolution name = some base)
    (listed : (fallBackResolutionList platform.isEUPlatform)[position]? = some base) :
    (∀ picked, chooseResolution platform sink .hdmi name = .set picked →
        picked ∈ sink.edidNames ∧
          ∃ place, Candidate platform.isEUPlatform name position picked place ∧
            ∀ other otherPlace, Candidate platform.isEUPlatform name position other otherPlace →
              other ∈ sink.edidNames → place ≤ otherPlace) ∧
      (chooseResolution platform sink .hdmi name = .keep →
        ∀ other place, Candidate platform.isEUPlatform name position other place →
          other ∉ sink.edidNames) ∧
      chooseResolution platform sink .hdmi name ≠ .undefined := by
  have tried := names_candidatesInOrder parsed listed
  rw [chooseResolution, if_pos rfl, if_pos ready]
  refine ⟨fun picked chosen => ?_, fun kept other place candidate offered => ?_, ?_⟩
  · have found := selectResolution_eq_set_iff.mp chosen
    rw [← tried] at found
    obtain ⟨⟨other, place⟩, member, rfl, least⟩ :=
      exists_least_of_find? candidatesInOrder_sorted found
    refine ⟨isResInEdid_iff.mp (List.find?_some found), place, candidate_iff.mpr member, ?_⟩
    intro other otherPlace candidate offered
    exact least (other, otherPlace) (candidate_iff.mp candidate) (isResInEdid_iff.mpr offered)
  · obtain ⟨picked, found⟩ := Option.isSome_iff_exists.mp (List.find?_isSome.mpr
      ⟨other, tried ▸ List.mem_map_of_mem (candidate_iff.mp candidate),
        isResInEdid_iff.mpr offered⟩)
    rw [selectResolution_eq_set_iff.mpr found] at kept
    cases kept
  · exact selectResolution_ne_undefined parsed

end Best

theorem chooseResolution_best_1080p50 :
    let sink := ResolutionMemory.television ["720p", "1080i"]
    (∀ picked, chooseResolution ResolutionMemory.platform sink .hdmi "1080p50" = .set picked →
        picked ∈ sink.edidNames ∧
          ∃ place, Candidate false "1080p50" 1 picked place ∧
            ∀ other otherPlace, Candidate false "1080p50" 1 other otherPlace →
              other ∈ sink.edidNames → place ≤ otherPlace) ∧
      (chooseResolution ResolutionMemory.platform sink .hdmi "1080p50" = .keep →
        ∀ other place, Candidate false "1080p50" 1 other place → other ∉ sink.edidNames) ∧
      chooseResolution ResolutionMemory.platform sink .hdmi "1080p50" ≠ .undefined :=
  chooseResolution_best ResolutionMemory.platform _ rfl "1080p50" "1080p" 1 (by decide) rfl

/-- Outside Europe a sink without 1080p50 gets 720p, although it has 1080p60: a variant of the
entry at the base is not tried. -/
theorem skips_1080p60 :
    ¬∀ (isEUPlatform : Bool) (sink : Sink 31) (name base : String) (position : Nat),
      sink.ready = true → parseResolution name = some base →
      (fallBackResolutionList isEUPlatform)[position]? = some base →
      ∀ picked pickedPlace entry,
        chooseResolution { ResolutionMemory.platform with isEUPlatform := isEUPlatform } sink
          .hdmi name = .set picked →
        (fallBackResolutionList isEUPlatform)[pickedPlace]? = some entry →
        picked ∈ fallbacksOf isEUPlatform entry →
        ∀ other place otherEntry, position ≤ place → place < pickedPlace →
          (fallBackResolutionList isEUPlatform)[place]? = some otherEntry →
          other ∈ fallbacksOf isEUPlatform otherEntry → other ∉ sink.edidNames := by
  intro best
  exact best false (ResolutionMemory.television ["1080p60", "720p"]) "1080p50" "1080p" 1 rfl
    (by decide) rfl "720p" 3 "720p" (by decide) rfl (by decide) "1080p60" 1 "1080p" le_rfl
    (by decide) rfl (by decide) (by decide)

end DeviceSettings.Controller
