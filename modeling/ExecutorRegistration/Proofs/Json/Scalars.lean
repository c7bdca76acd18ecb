import ExecutorRegistration.Json.Reader
import ExecutorRegistration.Proofs.Json.Leftover
import ExecutorRegistration.Proofs.Json.Texts
import ExecutorRegistration.Proofs.Text.Decimal

/-!
# Reading scalars back

Words, integers of 64 bits and texts are read as what they were written for. An integer ends at
the first character that does not go on with a number.
-/

namespace ExecutorRegistration.Json

/-! ## Words -/

theorem readWord_append {α : Type} (value : α) (word rest : List Char) :
    readWord value word (word ++ rest) = .ok (value, rest) := by
  induction word with
  | nil => rfl
  | cons c word ih => rw [List.cons_append, readWord, if_pos rfl, ih]

/-! ## Integers -/

/-- Characters that do not go on with a number. -/
def EndsNumber (chars : List Char) : Prop :=
  ∀ c ∈ chars.head?, isDigit c = false ∧ c ≠ '.' ∧ c ≠ 'e' ∧ c ≠ 'E'

/-- A number that fits in 64 bits, with or without a sign. -/
def FitsInteger (value : Int) : Prop :=
  -9223372036854775808 ≤ value ∧ value < 18446744073709551616

theorem digitValue_digitChar {digit : Nat} (small : digit < 10) :
    digitValue (Nat.digitChar digit) = digit := by
  rw [digitValue, Text.decimalDigit?_digitChar digit small, Option.getD_some]

theorem isDigit_digitChar {digit : Nat} (small : digit < 10) :
    isDigit (Nat.digitChar digit) = true := by
  rw [isDigit, Text.decimalDigit?_digitChar digit small, Option.isSome_some]

theorem isDigit_of_mem_toDigits (number : Nat) :
    ∀ c ∈ Nat.toDigits 10 number, isDigit c = true := by
  induction number using Nat.base_induction 10 (by decide) with
  | single digit small =>
      rw [Nat.toDigits_of_lt_base small]
      intro c member
      rw [List.mem_singleton.mp member, isDigit_digitChar small]
  | digit quotient digit small positive ih =>
      rw [← Nat.toDigits_append_toDigits (by decide) positive small,
        Nat.toDigits_of_lt_base small]
      intro c member
      rcases List.mem_append.mp member with earlier | last
      · exact ih c earlier
      · rw [List.mem_singleton.mp last, isDigit_digitChar small]

theorem exists_isDigit_of_toDigits (number : Nat) :
    ∃ c rest, Nat.toDigits 10 number = c :: rest ∧ isDigit c = true := by
  have digits := isDigit_of_mem_toDigits number
  obtain ⟨c, rest, split⟩ :=
    List.exists_cons_of_ne_nil (Nat.toDigits_ne_nil (n := number) (b := 10))
  rw [split] at digits
  exact ⟨c, rest, split, digits c List.mem_cons_self⟩

/-- The first digit of a positive number is not zero. -/
theorem head?_toDigits_ne {number : Nat} (positive : 0 < number) :
    (Nat.toDigits 10 number).head? ≠ some '0' := by
  induction number using Nat.base_induction 10 (by decide) with
  | single digit small =>
      have nonzero : ∀ digit < 10, 0 < digit → [Nat.digitChar digit].head? ≠ some '0' := by decide
      rw [Nat.toDigits_of_lt_base small]
      exact nonzero digit small positive
  | digit quotient digit small quotientPositive ih =>
      rw [← Nat.toDigits_append_toDigits (by decide) quotientPositive small,
        List.head?_append_of_ne_nil _ Nat.toDigits_ne_nil]
      exact ih quotientPositive

/-- All digits of a number that fits are gathered. -/
theorem foldl_push_toDigits {number : Nat} (fits : number < UInt64.size) :
    (Nat.toDigits 10 number).foldl Significand.push ⟨0, 0⟩ = ⟨number, 0⟩ := by
  induction number using Nat.base_induction 10 (by decide) with
  | single digit small =>
      rw [Nat.toDigits_of_lt_base small, List.foldl_cons, List.foldl_nil, Significand.push,
        digitValue_digitChar small]
      simp [fits]
  | digit quotient digit small positive ih =>
      rw [← Nat.toDigits_append_toDigits (by decide) positive small,
        Nat.toDigits_of_lt_base small, List.foldl_append, ih (by omega), List.foldl_cons,
        List.foldl_nil, Significand.push, digitValue_digitChar small]
      simp [fits]

theorem readNumberTail_of_endsNumber {rest : List Char} (ends : EndsNumber rest)
    (negative : Bool) (number : Nat) :
    readNumberTail negative ⟨number, 0⟩ rest = wholeNumber negative number rest := by
  cases rest with
  | nil => rfl
  | cons c rest =>
      obtain ⟨-, noPoint, noExponent, noCapital⟩ := ends c rfl
      unfold readNumberTail
      split
      · exact absurd (List.cons.inj ‹_›).1 noPoint
      · exact absurd (List.cons.inj ‹_›).1 noExponent
      · exact absurd (List.cons.inj ‹_›).1 noCapital
      · rfl

/-- The digits of a number that fits are read as that number. -/
theorem readUnsigned_toDigits {number : Nat} (fits : number < UInt64.size) {rest : List Char}
    (ends : EndsNumber rest) (negative : Bool) :
    readUnsigned negative (Nat.toDigits 10 number ++ rest) =
      wholeNumber negative number rest := by
  have noDigit : rest.head?.any isDigit = false := by
    cases rest with
    | nil => rfl
    | cons c rest => exact (ends c rfl).1
  rcases Nat.eq_zero_or_pos number with rfl | positive
  · have zero : readUnsigned negative ('0' :: rest) = readNumberTail negative ⟨0, 0⟩ rest := by
      simp [readUnsigned, noDigit, isDigit, Text.decimalDigit?]
    exact zero.trans (readNumberTail_of_endsNumber ends negative 0)
  · have taken : (Nat.toDigits 10 number ++ rest).takeWhile isDigit = Nat.toDigits 10 number := by
      rw [List.takeWhile_append_of_pos (isDigit_of_mem_toDigits number)]
      cases rest with
      | nil => simp
      | cons c rest => simp [(ends c rfl).1]
    have left : (Nat.toDigits 10 number ++ rest).dropWhile isDigit = rest := by
      rw [List.dropWhile_append_of_pos (isDigit_of_mem_toDigits number)]
      cases rest with
      | nil => rfl
      | cons c rest => simp [(ends c rfl).1]
    obtain ⟨c, digits, split, isFirst⟩ := exists_isDigit_of_toDigits number
    have nonzero : c ≠ '0' := by
      have first := head?_toDigits_ne positive
      rw [split] at first
      exact fun zero => first (congrArg some zero)
    have read : readUnsigned negative (Nat.toDigits 10 number ++ rest) =
        readNumberTail negative
          (((Nat.toDigits 10 number ++ rest).takeWhile isDigit).foldl Significand.push ⟨0, 0⟩)
          ((Nat.toDigits 10 number ++ rest).dropWhile isDigit) := by
      rw [split, List.cons_append, readUnsigned, isFirst, if_neg nonzero]
      rfl
    rw [read, taken, left, foldl_push_toDigits fits, readNumberTail_of_endsNumber ends]

/-- A number starts with a digit or a sign. -/
theorem readScalar_of_isDigit {c : Char} (digit : isDigit c = true) (rest : List Char) :
    readScalar (c :: rest) = readUnsigned false (c :: rest) := by
  have no : ∀ other ∈ ['n', 't', 'f', '"', '-'], c ≠ other := by
    rintro other member rfl
    have noDigit : ∀ other ∈ ['n', 't', 'f', '"', '-'], isDigit other = false := by
      simp [isDigit, Text.decimalDigit?]
    exact absurd digit (by simp [noDigit c member])
  unfold readScalar
  split
  · cases ‹_›
  all_goals simp_all

/-- An integer is read from its digits and its sign. -/
theorem readScalar_integerDigits {value : Int} (fits : FitsInteger value) {rest : List Char}
    (ends : EndsNumber rest) :
    readScalar (integerDigits value ++ rest) = .ok (.integer value, rest) := by
  obtain ⟨lower, upper⟩ := fits
  cases value with
  | ofNat number =>
      have small : number < UInt64.size := Int.ofNat_lt.mp upper
      have read := readUnsigned_toDigits small ends false
      obtain ⟨c, digits, split, isFirst⟩ := exists_isDigit_of_toDigits number
      rw [integerDigits, split, List.cons_append, readScalar_of_isDigit isFirst,
        ← List.cons_append, ← split, read]
      rfl
  | negSucc number =>
      have small : number + 1 < UInt64.size := by
        change number + 1 < 18446744073709551616
        omega
      have read := readUnsigned_toDigits small ends true
      rw [integerDigits, List.cons_append, readScalar, read, wholeNumber, if_pos rfl, if_neg]
      · simp [Int.negSucc_eq]
      · change ¬ (number + 1 = 0 ∨ 18446744073709551616 / 2 < number + 1)
        omega

/-! ## Scalars -/

/-- A value is an integer that fits in 64 bits if it is a number. -/
def IsWhole : Json → Prop
  | integer value => FitsInteger value
  | real _ => False
  | _ => True

theorem readScalar_scalarText {value : Json} (scalar : value.IsScalar) (whole : value.IsWhole)
    {rest : List Char} (ends : EndsNumber rest) :
    readScalar (scalarText value ++ rest) = .ok (value, rest) := by
  cases value with
  | null => exact readWord_append null ['u', 'l', 'l'] rest
  | bool truth =>
      cases truth
      · exact readWord_append (bool false) ['a', 'l', 's', 'e'] rest
      · exact readWord_append (bool true) ['r', 'u', 'e'] rest
  | integer value => exact readScalar_integerDigits whole ends
  | real value => exact whole.elim
  | string text =>
      obtain ⟨inside, split, read⟩ := exists_quoted text rest
      rw [scalarText, split, readScalar, read]
      rfl
  | array items => exact scalar.elim
  | object members => exact scalar.elim

/-- Blanks, brackets that open, and the one that ends an array: no scalar starts with them. -/
def notScalar : List Char := [' ', '\n', '\t', '\r', '[', '{', ']']

theorem notMem_of_isDigit {c : Char} (digit : isDigit c = true) : c ∉ '"' :: notScalar := by
  have noDigit : ∀ other ∈ '"' :: notScalar, isDigit other = false := by
    simp [notScalar, isDigit, Text.decimalDigit?]
  intro member
  exact absurd digit (by simp [noDigit c member])

/-- Only a text starts with a quote. -/
theorem exists_scalarText_eq_cons {value : Json} (scalar : value.IsScalar)
    (whole : value.IsWhole) :
    ∃ c rest, scalarText value = c :: rest ∧ c ∉ notScalar ∧
      (c = '"' → ∃ text, value = string text) := by
  cases value with
  | null => exact ⟨_, _, rfl, by decide, nofun⟩
  | bool truth => cases truth <;> exact ⟨_, _, rfl, by decide, nofun⟩
  | integer value =>
      cases value with
      | ofNat number =>
          obtain ⟨c, digits, split, isFirst⟩ := exists_isDigit_of_toDigits number
          obtain ⟨notQuote, starts⟩ := not_or.mp (mt List.mem_cons.mpr (notMem_of_isDigit isFirst))
          exact ⟨c, digits, split, starts, fun quote => absurd quote notQuote⟩
      | negSucc number => exact ⟨_, _, rfl, by decide, nofun⟩
  | real value => exact whole.elim
  | string text => exact ⟨_, _, rfl, by decide, fun _ => ⟨text, rfl⟩⟩
  | array items => exact scalar.elim
  | object members => exact scalar.elim

end ExecutorRegistration.Json
