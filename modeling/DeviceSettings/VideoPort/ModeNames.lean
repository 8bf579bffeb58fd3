import DeviceSettings.VideoPort.Resolution

/-!
# Names of video modes

The platform's tables and the EDID name a mode by its line count, the scan letter and a frame
rate, which may be missing. The code takes such names apart by looking for parts of them.
-/

namespace DeviceSettings.VideoPort

open DeviceSettings.Std

/-- The line counts of the supported modes. -/
inductive LineCount where
  | l480
  | l576
  | l720
  | l768
  | l1080
  | l2160
  deriving DecidableEq, Repr

def LineCount.digits : LineCount → String
  | .l480 => "480"
  | .l576 => "576"
  | .l720 => "720"
  | .l768 => "768"
  | .l1080 => "1080"
  | .l2160 => "2160"

/-- A line count with `i` or `p`. -/
structure ScanClass where
  lines : LineCount
  interlaced : Bool
  deriving DecidableEq, Repr

def ScanClass.base (scan : ScanClass) : String :=
  scan.lines.digits ++ if scan.interlaced then "i" else "p"

/-- A rate is written with digits, and a point in rates such as 59.94. -/
def isRateChar (c : Char) : Bool := c.isDigit || c == '.'

/-- A name `<lines><i|p>[fps]`. -/
structure ModeName where
  scan : ScanClass
  fps : String
  rated : fps.toList.all isRateChar = true
  deriving DecidableEq

def ModeName.name (mode : ModeName) : String := mode.scan.base ++ mode.fps

/-- The lines of a pixel resolution. -/
def lineCount : PixelResolution → Option LineCount
  | .p720x480 => some .l480
  | .p720x576 => some .l576
  | .p1280x720 => some .l720
  | .p1366x768 => some .l768
  | .p1920x1080 => some .l1080
  | .p3840x2160 | .p4096x2160 => some .l2160
  | .max => none

theorem forall_scanClass {property : ScanClass → Prop}
    (each : ∀ interlaced, ∀ lines ∈ [LineCount.l480, .l576, .l720, .l768, .l1080, .l2160],
      property ⟨lines, interlaced⟩) (scan : ScanClass) : property scan := by
  obtain ⟨lines, interlaced⟩ := scan
  exact each interlaced lines (by cases lines <;> decide)

instance {property : ScanClass → Prop} [DecidablePred property] :
    Decidable (∀ scan, property scan) :=
  decidable_of_iff
    (∀ interlaced, ∀ lines ∈ [LineCount.l480, .l576, .l720, .l768, .l1080, .l2160],
      property ⟨lines, interlaced⟩)
    ⟨forall_scanClass, fun all interlaced lines _ => all ⟨lines, interlaced⟩⟩

theorem ModeName.toList_name (mode : ModeName) :
    mode.name.toList = mode.scan.base.toList ++ mode.fps.toList := String.toList_append

theorem ModeName.name_ne (mode : ModeName) : mode.name ≠ "" := by
  intro empty
  have base : ∀ scan : ScanClass, scan.base.toList ≠ [] := by decide
  have nothing : mode.scan.base.toList ++ mode.fps.toList = [] := by
    rw [← mode.toList_name, empty]
    rfl
  exact base mode.scan (List.append_eq_nil_iff.mp nothing).1

theorem ModeName.rateChar (mode : ModeName) {c : Char} (member : c ∈ mode.fps.toList) :
    isRateChar c = true :=
  List.all_eq_true.mp mode.rated c member

theorem not_rateChar {c : Char} (named : c ∈ ['i', 'p', '\x00']) : isRateChar c = false := by
  simp only [List.mem_cons, List.not_mem_nil, or_false] at named
  rcases named with rfl | rfl | rfl <;> decide

/-- What ends in another character than those of a rate is found in front of the rate. -/
theorem ModeName.occursIn_name (mode : ModeName) (start : List Char) {last : Char}
    (notRate : isRateChar last = false) :
    occursIn (String.ofList (start ++ [last])) mode.name =
      occursIn (String.ofList (start ++ [last])) mode.scan.base := by
  rw [Bool.eq_iff_iff, occursIn_iff, occursIn_iff, mode.toList_name, String.toList_ofList]
  constructor
  · rintro ⟨before, after, whole⟩
    rcases List.append_eq_append_iff.mp whole with ⟨rest, base, -⟩ | ⟨rest, split, fps⟩
    · exact ⟨before, rest, base.symm⟩
    · rcases List.eq_nil_or_concat rest with rfl | ⟨init, c, rfl⟩
      · exact ⟨before, [], by simpa using split⟩
      · -- the last character would be one of the rate
        rw [← List.append_assoc, List.concat_eq_append, ← List.append_assoc] at split
        obtain rfl : last = c := List.singleton_inj.mp (List.append_inj' split rfl).2
        have member : last ∈ mode.fps.toList := by rw [fps]; simp
        rw [mode.rateChar member] at notRate
        cases notRate
  · exact fun found => found.trans (List.prefix_append _ _).isInfix

end DeviceSettings.VideoPort
