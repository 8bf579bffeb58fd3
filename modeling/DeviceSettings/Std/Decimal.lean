import DeviceSettings.Std.CString

/-!
# Numbers as decimal strings

What `std::to_string` prints, `atoi`, `std::stoi` and `std::stoul` read back.
-/

namespace DeviceSettings.Std

theorem isDigit_of_mem_toDigits {n : Nat} {c : Char} (member : c ∈ Nat.toDigits 10 n) :
    c.isDigit = true :=
  Nat.isDigit_of_mem_toDigits (by decide) (by decide) member

theorem not_isspace_of_isDigit {c : Char} (digit : c.isDigit = true) : isspace c = false := by
  by_contra space
  rw [Bool.not_eq_false] at space
  simp only [isspace, Bool.or_eq_true, beq_iff_eq] at space
  rcases space with ((((rfl | rfl) | rfl) | rfl) | rfl) | rfl <;> exact absurd digit (by decide)

theorem takeWhile_isDigit_toDigits (n : Nat) :
    (Nat.toDigits 10 n).takeWhile Char.isDigit = Nat.toDigits 10 n :=
  List.takeWhile_eq_self_iff.mpr fun _ member => isDigit_of_mem_toDigits member

theorem decimal_toDigits (n : Nat) : decimal (Nat.toDigits 10 n) = n :=
  Nat.ofDigitChars_ten_toDigits

/-- Digits begin with no blank and with no sign. -/
theorem head?_toDigits (n : Nat) : ∃ c, (Nat.toDigits 10 n).head? = some c ∧ c.isDigit = true := by
  cases digits : Nat.toDigits 10 n with
  | nil => exact absurd digits Nat.toDigits_ne_nil
  | cons head rest =>
      have member : head ∈ Nat.toDigits 10 n := by
        rw [digits]
        exact List.mem_cons_self
      exact ⟨head, rfl, isDigit_of_mem_toDigits member⟩

theorem skipSpace_toDigits (n : Nat) : skipSpace (Nat.toDigits 10 n) = Nat.toDigits 10 n := by
  obtain ⟨c, first, digit⟩ := head?_toDigits n
  cases digits : Nat.toDigits 10 n with
  | nil => rfl
  | cons head rest =>
      rw [digits] at first
      obtain rfl := Option.some.inj first
      simp [skipSpace, not_isspace_of_isDigit digit]

theorem head?_toDigits_beq {c : Char} (other : c.isDigit = false) (n : Nat) :
    ((Nat.toDigits 10 n).head? == some c) = false := by
  obtain ⟨head, first, digit⟩ := head?_toDigits n
  rw [first, beq_eq_false_iff_ne, ne_eq, Option.some.injEq]
  rintro rfl
  rw [other] at digit
  exact absurd digit (by decide)

theorem cString_eq_self {chars : List Char} (terminated : '\x00' ∉ chars) :
    (cString chars).toList = chars := by
  rw [cString, String.toList_ofList, List.takeWhile_eq_self_iff]
  intro c member
  have other : c ≠ '\x00' := fun same => terminated (same ▸ member)
  simpa using other

theorem nul_not_mem_toDigits (n : Nat) : '\x00' ∉ Nat.toDigits 10 n := by
  intro member
  exact absurd (isDigit_of_mem_toDigits member) (by decide)

/-- `std::stoul` reads an unsigned number that was printed. -/
theorem stoul_toString {n : Nat} (bounded : n < 2 ^ 64) : stoul (toString n) = some n := by
  have digits : (toString n).toList = Nat.toDigits 10 n := Nat.toList_repr
  have minus := head?_toDigits_beq (show '-'.isDigit = false by decide) n
  have plus := head?_toDigits_beq (show '+'.isDigit = false by decide) n
  have small : ¬2 ^ 64 ≤ n := by omega
  simp only [stoul, digits, skipSpace_toDigits, minus, plus, Bool.or_self, Bool.false_eq_true,
    if_false, takeWhile_isDigit_toDigits, decimal_toDigits, Nat.toDigits_ne_nil, decide_false,
    Bool.false_or, decide_eq_true_eq, if_neg small]

/-- `atoi` keeps the low 32 bits of an unsigned number that was printed. -/
theorem atoi_toString {n : Nat} (bounded : n < 2 ^ 63) :
    atoi (toString n) = (n : Int).bmod (2 ^ 32) := by
  have digits : (toString n).toList = Nat.toDigits 10 n := Nat.toList_repr
  have minus := head?_toDigits_beq (show '-'.isDigit = false by decide) n
  have plus := head?_toDigits_beq (show '+'.isDigit = false by decide) n
  have small : min (2 ^ 63 - 1) (n : Int) = n := by omega
  simp only [atoi, digits, cString_eq_self (nul_not_mem_toDigits n), skipSpace_toDigits, minus,
    plus, Bool.or_self, Bool.false_eq_true, if_false, takeWhile_isDigit_toDigits,
    decimal_toDigits, small]

/-- The sign of a negative number goes to the value. -/
theorem atoi_toString_neg {n : Nat} (bounded : n < 2 ^ 63) :
    atoi ("-" ++ toString n) = (-(n : Int)).bmod (2 ^ 32) := by
  have digits : ("-" ++ toString n).toList = '-' :: Nat.toDigits 10 n := by
    rw [String.toList_append]
    exact congrArg ('-' :: ·) Nat.toList_repr
  have terminated : '\x00' ∉ '-' :: Nat.toDigits 10 n := by
    rw [List.mem_cons, not_or]
    exact ⟨by decide, nul_not_mem_toDigits n⟩
  have solid : skipSpace ('-' :: Nat.toDigits 10 n) = '-' :: Nat.toDigits 10 n := rfl
  have small : max (-2 ^ 63) (-(n : Int)) = -n := by omega
  simp only [atoi, digits, cString_eq_self terminated, solid, List.head?_cons, BEq.rfl,
    Bool.true_or, if_true, List.tail_cons, takeWhile_isDigit_toDigits, decimal_toDigits, small]

/-- `atoi` reads an `int` that was printed. -/
theorem atoi_toString_int {n : Int} (lower : -2 ^ 31 ≤ n) (upper : n < 2 ^ 31) :
    atoi (toString n) = n := by
  rw [Int.toString_eq_repr, Int.repr_eq_if]
  split_ifs with positive
  · apply (atoi_toString (show n.toNat < 2 ^ 63 by omega)).trans
    rw [Int.toNat_of_nonneg positive]
    exact Int.bmod_eq_of_le (by omega) (by omega)
  · apply (atoi_toString_neg (show (-n).toNat < 2 ^ 63 by omega)).trans
    rw [Int.toNat_of_nonneg (by omega), neg_neg]
    exact Int.bmod_eq_of_le (by omega) (by omega)

/-- `std::stoi` reads an `int` that was printed. -/
theorem stoi_toString_int {n : Int} (lower : -2 ^ 31 ≤ n) (upper : n < 2 ^ 31) :
    stoi (toString n) = some n := by
  rw [Int.toString_eq_repr, Int.repr_eq_if]
  split_ifs with positive
  · have digits : n.toNat.repr.toList = Nat.toDigits 10 n.toNat := Nat.toList_repr
    have minus := head?_toDigits_beq (show '-'.isDigit = false by decide) n.toNat
    have plus := head?_toDigits_beq (show '+'.isDigit = false by decide) n.toNat
    have inRange : ¬((n : Int) < -2 ^ 31 ∨ 2 ^ 31 ≤ n) := by omega
    simp only [stoi, digits, cString_eq_self (nul_not_mem_toDigits _), skipSpace_toDigits, minus,
      plus, Bool.or_self, Bool.false_eq_true, if_false, takeWhile_isDigit_toDigits,
      decimal_toDigits, Nat.toDigits_ne_nil, false_or, Int.toNat_of_nonneg positive,
      if_neg inRange]
  · have digits : ("-" ++ (-n).toNat.repr).toList = '-' :: Nat.toDigits 10 (-n).toNat := by
      rw [String.toList_append]
      exact congrArg ('-' :: ·) Nat.toList_repr
    have terminated : '\x00' ∉ '-' :: Nat.toDigits 10 (-n).toNat := by
      rw [List.mem_cons, not_or]
      exact ⟨by decide, nul_not_mem_toDigits _⟩
    have solid : skipSpace ('-' :: Nat.toDigits 10 (-n).toNat) =
        '-' :: Nat.toDigits 10 (-n).toNat := rfl
    have inRange : ¬((n : Int) < -2 ^ 31 ∨ 2 ^ 31 ≤ n) := by omega
    have value : -((-n).toNat : Int) = n := by omega
    simp only [stoi, digits, cString_eq_self terminated, solid, List.head?_cons, BEq.rfl,
      Bool.true_or, if_true, List.tail_cons, takeWhile_isDigit_toDigits, decimal_toDigits,
      Nat.toDigits_ne_nil, false_or, value, if_neg inRange]

/-- What `atoi` has read is an `int`, so printing it loses nothing. -/
@[simp] theorem atoi_toString_atoi (text : String) : atoi (toString (atoi text)) = atoi text := by
  have lower : -2 ^ 31 ≤ atoi text := Int.le_bmod (by decide)
  have upper : atoi text < (2 ^ 32 + 1) / 2 := Int.bmod_lt (by decide)
  exact atoi_toString_int lower (by omega)

theorem toString_nat_ne (n : Nat) : toString n ≠ "" := by
  intro empty
  have digits : (toString n).toList = Nat.toDigits 10 n := Nat.toList_repr
  rw [empty] at digits
  exact Nat.toDigits_ne_nil digits.symm

@[simp] theorem repr_int_ne (n : Int) : n.repr ≠ "" := by
  rw [Int.repr_eq_if]
  split_ifs
  · exact toString_nat_ne _
  · intro empty
    have chars := congrArg String.toList empty
    rw [String.toList_append] at chars
    exact absurd chars (by simp)

end DeviceSettings.Std
