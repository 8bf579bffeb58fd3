import DeviceSettings.Std.Scan
import Mathlib.Algebra.Order.Ring.Int
import Mathlib.Data.List.Infix

/-!
# C strings

The functions of the C and C++ libraries that compare, copy and convert character
arrays. A string stands for the array that holds it, so everything behind its
first NUL is invisible to them.
-/

namespace DeviceSettings.Std

/-- `strncasecmp(left, right, limit) == 0` in the C locale. -/
def strncasecmpEq (left right : String) (limit : Nat) : Bool :=
  ((cString left.toList).toList.take limit).map Char.toLower ==
    ((cString right.toList).toList.take limit).map Char.toLower

/-- What an array that was zero holds after `strncpy(array, source, limit)`. -/
def strncpy (source : String) (limit : Nat) : String :=
  String.ofList ((cString source.toList).toList.take limit)

theorem length_strncpy_le (source : String) (limit : Nat) :
    (strncpy source limit).length ≤ limit := by
  rw [strncpy, String.length_ofList]
  exact List.length_take_le limit _

theorem nul_not_mem_cString (chars : List Char) : '\x00' ∉ (cString chars).toList := by
  intro member
  rw [cString, String.toList_ofList] at member
  have accepted := List.mem_takeWhile_imp member
  simp at accepted

theorem nul_not_mem_strncpy (source : String) (limit : Nat) :
    '\x00' ∉ (strncpy source limit).toList := by
  rw [strncpy, String.toList_ofList]
  exact fun member => nul_not_mem_cString _ (List.mem_of_mem_take member)

/-- A string that fits and has no NUL is copied whole. -/
theorem strncpy_eq_self {source : String} {limit : Nat} (fits : source.length ≤ limit)
    (terminated : '\x00' ∉ source.toList) : strncpy source limit = source := by
  have whole : source.toList.takeWhile (fun c => c != '\x00') = source.toList := by
    rw [List.takeWhile_eq_self_iff]
    intro c member
    have other : c ≠ '\x00' := fun same => terminated (same ▸ member)
    simpa using other
  have copied : source.toList.take limit = source.toList :=
    List.take_of_length_le (by rwa [String.length_toList])
  rw [strncpy, cString, whole, String.toList_ofList, copied, String.ofList_toList]

/-- `strstr(text, part) != NULL`, and `text.find(part) != std::string::npos`. -/
def occursIn (part text : String) : Bool :=
  text.toList.tails.any fun rest => part.toList.isPrefixOf rest

theorem occursIn_iff {part text : String} :
    occursIn part text = true ↔ part.toList <:+: text.toList := by
  simp only [occursIn, List.any_eq_true, List.mem_tails, List.isPrefixOf_iff_prefix,
    List.infix_iff_prefix_suffix]
  exact exists_congr fun rest => and_comm

/-- What occurs in a copy occurs in its source. -/
theorem occursIn_of_strncpy {part source : String} {limit : Nat}
    (found : occursIn part (strncpy source limit) = true) : occursIn part source = true := by
  rw [occursIn_iff, strncpy, String.toList_ofList] at found
  refine occursIn_iff.mpr (found.trans (List.IsPrefix.isInfix ?_))
  rw [cString, String.toList_ofList]
  exact (List.take_prefix limit _).trans (List.takeWhile_prefix _)

/-- The first call `strtok(text, delimiters)`; `none` where it returns NULL. -/
def strtok (text delimiters : String) : Option String :=
  let delimiter := fun c => delimiters.toList.contains c
  let token := (text.toList.dropWhile delimiter).takeWhile fun c => !delimiter c
  if token = [] then none else some (String.ofList token)

/-- The value of decimal digits. -/
def decimal (digits : List Char) : Nat :=
  digits.foldl (fun value digit => 10 * value + (digit.toNat - '0'.toNat)) 0

/-- `std::stoul(text)` for a 64 bit `unsigned long`; `none` where it throws. -/
def stoul (text : String) : Option Nat :=
  let input := skipSpace text.toList
  let negative := input.head? == some '-'
  let unsigned := if negative || input.head? == some '+' then input.tail else input
  let digits := unsigned.takeWhile Char.isDigit
  let value := decimal digits
  if digits = [] || 2 ^ 64 ≤ value then none
  else some (if negative then (2 ^ 64 - value) % 2 ^ 64 else value)

/-- `std::stoi(text)`; `none` where it throws. -/
def stoi (text : String) : Option Int :=
  let input := skipSpace (cString text.toList).toList
  let negative := input.head? == some '-'
  let unsigned := if negative || input.head? == some '+' then input.tail else input
  let digits := unsigned.takeWhile Char.isDigit
  let value : Int := if negative then -decimal digits else decimal digits
  if digits = [] ∨ value < -2 ^ 31 ∨ 2 ^ 31 ≤ value then none else some value

/-- `std::atoi(text)`: `strtol` saturates at 64 bits, and the low 32 bits are kept. -/
def atoi (text : String) : Int :=
  let input := skipSpace (cString text.toList).toList
  let negative := input.head? == some '-'
  let unsigned := if negative || input.head? == some '+' then input.tail else input
  let value : Int := decimal (unsigned.takeWhile Char.isDigit)
  let saturated := if negative then max (-2 ^ 63) (-value) else min (2 ^ 63 - 1) value
  saturated.bmod (2 ^ 32)

end DeviceSettings.Std
