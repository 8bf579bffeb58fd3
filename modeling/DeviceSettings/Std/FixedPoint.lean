import DeviceSettings.Std.Decimal
import Mathlib.Algebra.Field.Rat
import Mathlib.Algebra.GroupWithZero.Basic
import Mathlib.Tactic.NormNum

/-!
# Fixed-point numbers as strings

A number of hundredths, thousandths and so on is printed with its point, and `atof` reads it
back. Values are exact here: what a float would round away is kept.
-/

namespace DeviceSettings.Std

/-- A sign, and the characters behind it. -/
def scanSign (input : List Char) : Bool × List Char :=
  (input.head? == some '-',
    if input.head? == some '-' || input.head? == some '+' then input.tail else input)

/-- The exponent behind a mantissa; letters without digits are none. -/
def scanExponent (rest : List Char) : Int :=
  if rest.head? == some 'e' || rest.head? == some 'E' then
    let signed := scanSign rest.tail
    let value : Int := decimal (signed.2.takeWhile Char.isDigit)
    if signed.1 then -value else value
  else 0

/-- `atof(text)` for decimal notation; the hexadecimal one, infinities and NaN are left out. -/
def atof (text : String) : ℚ :=
  let signed := scanSign (skipSpace (cString text.toList).toList)
  let whole := signed.2.takeWhile Char.isDigit
  let rest := signed.2.dropWhile Char.isDigit
  let pointed := rest.head? == some '.'
  let fraction := if pointed then rest.tail.takeWhile Char.isDigit else []
  let rest := if pointed then rest.tail.dropWhile Char.isDigit else rest
  let mantissa : ℚ := decimal (whole ++ fraction)
  let value := mantissa * 10 ^ (scanExponent rest - fraction.length)
  if signed.1 then -value else value

/-- The sign in front of a printed number. -/
def signDigits (negative : Bool) : List Char := if negative then ['-'] else []

/-- The places of `n / 10 ^ places` behind the point. -/
def fractionDigits (places n : Nat) : List Char :=
  let decimals := Nat.toDigits 10 (n % 10 ^ places)
  List.replicate (places - decimals.length) '0' ++ decimals

/-- The number `n / 10 ^ places` with its point and all its places. -/
def fixedDigits (places n : Nat) : List Char :=
  Nat.toDigits 10 (n / 10 ^ places) ++ '.' :: fractionDigits places n

theorem decimal_append (left right : List Char) :
    decimal (left ++ right) = 10 ^ right.length * decimal left + decimal right :=
  (Nat.ofDigitChars_append 0).trans Nat.ofDigitChars_eq_ofDigitChars_zero

/-- Zeros in front do not count. -/
theorem decimal_fractionDigits (places n : Nat) :
    decimal (fractionDigits places n) = n % 10 ^ places := by
  have zeros : ∀ count, decimal (List.replicate count '0') = 0 := fun count =>
    Nat.ofDigitChars_replicate_zero
  rw [fractionDigits, decimal_append, zeros, decimal_toDigits, Nat.mul_zero, Nat.zero_add]

theorem length_fractionDigits {places : Nat} (positive : 0 < places) (n : Nat) :
    (fractionDigits places n).length = places := by
  have bounded : n % 10 ^ places < 10 ^ places := Nat.mod_lt _ (by positivity)
  have short := (Nat.length_toDigits_le_iff (by decide) positive).mpr bounded
  rw [fractionDigits, List.length_append, List.length_replicate]
  omega

theorem isDigit_of_mem_fractionDigits {places n : Nat} {c : Char}
    (member : c ∈ fractionDigits places n) : c.isDigit = true := by
  rcases List.mem_append.mp member with zero | digit
  · rw [List.eq_of_mem_replicate zero]
    decide
  · exact isDigit_of_mem_toDigits digit

/-- Whole part and places together are the number without its point. -/
theorem decimal_fixedDigits {places : Nat} (positive : 0 < places) (n : Nat) :
    decimal (Nat.toDigits 10 (n / 10 ^ places) ++ fractionDigits places n) = n := by
  rw [decimal_append, length_fractionDigits positive, decimal_toDigits, decimal_fractionDigits]
  exact Nat.div_add_mod n _

theorem nul_not_mem_fixedDigits (negative : Bool) (places n : Nat) :
    '\x00' ∉ signDigits negative ++ fixedDigits places n := by
  intro member
  rw [fixedDigits, List.mem_append, List.mem_append, List.mem_cons] at member
  rcases member with sign | whole | point | fraction
  · cases negative <;> simp [signDigits] at sign
  · exact nul_not_mem_toDigits _ whole
  · exact absurd point (by decide)
  · exact absurd (isDigit_of_mem_fractionDigits fraction) (by decide)

/-- The characters of a printed number begin with no blank and no sign. -/
theorem exists_fixedDigits (places n : Nat) :
    ∃ c rest, fixedDigits places n = c :: rest ∧ c.isDigit = true := by
  obtain ⟨c, first, digit⟩ := head?_toDigits (n / 10 ^ places)
  cases digits : Nat.toDigits 10 (n / 10 ^ places) with
  | nil => simp [digits] at first
  | cons head tail =>
      rw [digits, List.head?_cons, Option.some.injEq] at first
      subst first
      exact ⟨head, _, by rw [fixedDigits, digits, List.cons_append], digit⟩

theorem scanSign_fixedDigits (negative : Bool) (places n : Nat) :
    scanSign (skipSpace (signDigits negative ++ fixedDigits places n)) =
      (negative, fixedDigits places n) := by
  cases negative with
  | true => rfl
  | false =>
      obtain ⟨c, rest, chars, digit⟩ := exists_fixedDigits places n
      have minus : c ≠ '-' := by
        rintro rfl
        exact absurd digit (by decide)
      have plus : c ≠ '+' := by
        rintro rfl
        exact absurd digit (by decide)
      have solid : skipSpace (c :: rest) = c :: rest := by
        simp [skipSpace, not_isspace_of_isDigit digit]
      simp only [signDigits, chars, Bool.false_eq_true, if_false, List.nil_append, solid]
      simp [scanSign, minus, plus]

theorem scan_whole (places n : Nat) :
    (fixedDigits places n).takeWhile Char.isDigit = Nat.toDigits 10 (n / 10 ^ places) ∧
      (fixedDigits places n).dropWhile Char.isDigit = '.' :: fractionDigits places n := by
  have digits : ∀ c ∈ Nat.toDigits 10 (n / 10 ^ places), c.isDigit = true := fun c member =>
    isDigit_of_mem_toDigits member
  have point : '.'.isDigit = false := by decide
  rw [fixedDigits, List.takeWhile_append_of_pos digits, List.dropWhile_append_of_pos digits]
  simp [point]

theorem scan_fraction (places n : Nat) :
    (fractionDigits places n).takeWhile Char.isDigit = fractionDigits places n ∧
      (fractionDigits places n).dropWhile Char.isDigit = [] :=
  ⟨List.takeWhile_eq_self_iff.mpr fun _ member => isDigit_of_mem_fractionDigits member,
    List.dropWhile_eq_nil_iff.mpr fun _ member => isDigit_of_mem_fractionDigits member⟩

/-- `atof` reads a printed fixed-point number. -/
theorem atof_fixedDigits {places : Nat} (positive : 0 < places) (negative : Bool) (n : Nat) :
    atof (String.ofList (signDigits negative ++ fixedDigits places n)) =
      (if negative then -1 else 1) * ((n : ℚ) / 10 ^ places) := by
  obtain ⟨whole, rest⟩ := scan_whole places n
  obtain ⟨fraction, nothing⟩ := scan_fraction places n
  have value : (n : ℚ) * 10 ^ (scanExponent [] - (places : ℤ)) = n / 10 ^ places := by
    rw [show scanExponent [] = 0 from rfl, zero_sub, zpow_neg, zpow_natCast, div_eq_mul_inv]
  simp only [atof, String.toList_ofList, cString_eq_self (nul_not_mem_fixedDigits _ _ _),
    scanSign_fixedDigits, whole, rest, List.head?_cons, BEq.rfl, if_true, List.tail_cons, fraction,
    nothing, decimal_fixedDigits positive, length_fractionDigits positive, value]
  cases negative <;> simp

end DeviceSettings.Std
