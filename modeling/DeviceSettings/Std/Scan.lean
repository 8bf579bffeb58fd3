import Mathlib.Data.List.Basic
import Mathlib.Data.List.DropRight
import Mathlib.Data.List.TakeWhile
import Mathlib.Data.String.Basic

/-!
# Scanning whitespace separated words

`scanWord` is the `%Ns` directive of the C scanner: skip blanks, then take at
most `limit` characters that are not blank. `scanPairs` repeats a two-word format
until it no longer matches. A word read into a character array ends at its first
NUL, which is what `cString` keeps of it.
-/

namespace DeviceSettings.Std

/-- The characters `isspace` accepts in the C locale. -/
def isspace (c : Char) : Bool :=
  c == ' ' || c == '\t' || c == '\n' || c == '\x0b' || c == '\x0c' || c == '\r'

/-- Characters that `scanWord limit` reads back in one piece. -/
structure Word (limit : Nat) (word : List Char) : Prop where
  nonempty : word ≠ []
  solid : ∀ c ∈ word, isspace c = false
  bounded : word.length ≤ limit

instance (limit : Nat) (word : List Char) : Decidable (Word limit word) :=
  decidable_of_iff
    (word ≠ [] ∧ (word.all fun c => !isspace c) = true ∧ word.length ≤ limit)
    ⟨fun ⟨nonempty, solid, bounded⟩ => ⟨nonempty, by simpa using solid, bounded⟩,
      fun ⟨nonempty, solid, bounded⟩ => ⟨nonempty, by simpa using solid, bounded⟩⟩

/-- The input behind its leading blanks. -/
def skipSpace (input : List Char) : List Char := input.dropWhile isspace

/-- One `%Ns` directive: the word and what is left of the input. -/
def scanWord (limit : Nat) (input : List Char) : Option (List Char × List Char) :=
  let input := skipSpace input
  let word := (input.takeWhile fun c => !isspace c).take limit
  if word = [] then none else some (word, input.drop word.length)

/-- What a character array holds as a string: everything before the first NUL. -/
def cString (chars : List Char) : String :=
  String.ofList (chars.takeWhile fun c => c != '\x00')

/-- The format `%Ns\t%Ns`: two words with blanks allowed between them. -/
def scanPair (limit : Nat) (input : List Char) : Option ((String × String) × List Char) :=
  match scanWord limit input with
  | none => none
  | some (first, rest) =>
    match scanWord limit (skipSpace rest) with
    | none => none
    | some (second, rest) => some ((cString first, cString second), rest)

/-- Match `scanPair` until it fails, at most `fuel` times. -/
def scanPairs (limit : Nat) : Nat → List Char → List (String × String)
  | 0, _ => []
  | fuel + 1, input =>
    match scanPair limit input with
    | none => []
    | some (pair, rest) => pair :: scanPairs limit fuel rest

@[simp] theorem skipSpace_cons {c : Char} (blank : isspace c = true) (rest : List Char) :
    skipSpace (c :: rest) = skipSpace rest := by
  simp [skipSpace, blank]

theorem skipSpace_idem (input : List Char) : skipSpace (skipSpace input) = skipSpace input :=
  List.dropWhile_idempotent isspace input

theorem length_skipSpace_le (input : List Char) : (skipSpace input).length ≤ input.length :=
  (List.dropWhile_sublist isspace).length_le

@[simp] theorem scanWord_skipSpace (limit : Nat) (input : List Char) :
    scanWord limit (skipSpace input) = scanWord limit input := by
  simp only [scanWord, skipSpace_idem]

theorem scanWord_blank (limit : Nat) {c : Char} (blank : isspace c = true) (rest : List Char) :
    scanWord limit (c :: rest) = scanWord limit rest := by
  rw [← scanWord_skipSpace, skipSpace_cons blank, scanWord_skipSpace]

@[simp] theorem scanWord_nil (limit : Nat) : scanWord limit [] = none := by
  simp [scanWord, skipSpace]

/-- Blanks in front of a word are skipped, none of its own characters is. -/
theorem skipSpace_word {limit : Nat} {word : List Char} (valid : Word limit word)
    (rest : List Char) : skipSpace (word ++ rest) = word ++ rest := by
  cases word with
  | nil => exact absurd rfl valid.nonempty
  | cons c word =>
      have solid : isspace c = false := valid.solid c List.mem_cons_self
      simp [skipSpace, solid]

/-- A word that a blank or the end of the input follows is read whole. -/
theorem scanWord_word {limit : Nat} {word rest : List Char} (valid : Word limit word)
    (separated : ∀ c ∈ rest.head?, isspace c = true) :
    scanWord limit (word ++ rest) = some (word, rest) := by
  have stops : rest.takeWhile (fun c => !isspace c) = [] := by
    cases rest with
    | nil => rfl
    | cons c rest =>
        have blank : isspace c = true := separated c rfl
        simp [blank]
  have taken : (word ++ rest).takeWhile (fun c => !isspace c) = word := by
    rw [List.takeWhile_append_of_pos (by simpa using valid.solid), stops, List.append_nil]
  simp only [scanWord, skipSpace_word valid, taken, List.take_of_length_le valid.bounded,
    if_neg valid.nonempty, List.drop_left]

/-- Whatever `scanWord` reads is a word, and it consumes input. -/
theorem scanWord_some {limit : Nat} {input word rest : List Char}
    (scanned : scanWord limit input = some (word, rest)) :
    Word limit word ∧ rest.length < input.length ∧ ∀ c ∈ word, c ∈ input := by
  simp only [scanWord] at scanned
  split_ifs at scanned with ended
  obtain ⟨rfl, rfl⟩ := Prod.mk.inj (Option.some.inj scanned)
  set word := ((skipSpace input).takeWhile fun c => !isspace c).take limit with wordEq
  have fromTakeWhile : ∀ c ∈ word, c ∈ (skipSpace input).takeWhile fun c => !isspace c :=
    fun c member => List.mem_of_mem_take member
  refine ⟨⟨ended, fun c member => ?_, List.length_take_le _ _⟩, ?_, fun c member => ?_⟩
  · simpa using List.mem_takeWhile_imp (fromTakeWhile c member)
  · have wordPos : 0 < word.length := List.length_pos_of_ne_nil ended
    have wordLe : word.length ≤ (skipSpace input).length :=
      (List.length_take_le' _ _).trans (List.takeWhile_sublist _).length_le
    have skipped := length_skipSpace_le input
    rw [List.length_drop]
    omega
  · exact (List.dropWhile_sublist isspace).subset
      ((List.takeWhile_sublist _).subset (fromTakeWhile c member))

theorem scanPair_length {limit : Nat} {input rest : List Char} {pair : String × String}
    (scanned : scanPair limit input = some (pair, rest)) : rest.length < input.length := by
  unfold scanPair at scanned
  cases first : scanWord limit input with
  | none => simp [first] at scanned
  | some result =>
      cases second : scanWord limit (skipSpace result.2) with
      | none => simp [first, second] at scanned
      | some last =>
          have consumedFirst := (scanWord_some first).2.1
          have consumedSecond := (scanWord_some second).2.1
          have skipped := length_skipSpace_le result.2
          simp only [first, second, Option.some.injEq, Prod.mk.injEq] at scanned
          rw [← scanned.2]
          omega

/-- Fuel as long as the input is enough: more reads nothing else. -/
theorem scanPairs_fuel (limit : Nat) {input : List Char} {fuel : Nat}
    (enough : input.length ≤ fuel) :
    scanPairs limit fuel input = scanPairs limit input.length input := by
  suffices any : ∀ fuel other input, List.length input ≤ fuel → List.length input ≤ other →
      scanPairs limit fuel input = scanPairs limit other input from
    any fuel input.length input enough le_rfl
  intro fuel
  induction fuel with
  | zero =>
      intro other input emptyInput _
      have nil : input = [] := List.length_eq_zero_iff.mp (Nat.le_zero.mp emptyInput)
      subst nil
      cases other <;> simp [scanPairs, scanPair]
  | succ fuel ih =>
      intro other input bounded otherBounded
      cases other with
      | zero =>
          have nil : input = [] := List.length_eq_zero_iff.mp (Nat.le_zero.mp otherBounded)
          subst nil
          simp [scanPairs, scanPair]
      | succ other =>
          cases scanned : scanPair limit input with
          | none => simp [scanPairs, scanned]
          | some result =>
              have consumed := scanPair_length scanned
              simp only [scanPairs, scanned]
              rw [ih other result.2 (by omega) (by omega)]

end DeviceSettings.Std
