import ExecutorRegistration.Proofs.AddressText
import ExecutorRegistration.Text.Basic
import Mathlib.Data.List.Forall2
import Mathlib.Data.Nat.Digits.Defs

/-!
# Numbers in digits

Characters denote a number in a base if they are its digits, the most significant one first and
each in either case. Readers that take one digit after the other read the number that is denoted.
-/

namespace ExecutorRegistration.Text

/-- A character is the digit of a value in a base, in either case. -/
def IsDigit (base : Nat) (c : Char) (digit : Nat) : Prop :=
  digit < base ∧ c.toLower = Hex.digit digit

/-- Characters denote a number in a base. -/
def DenotesNumber (base : Nat) (text : List Char) (number : Nat) : Prop :=
  ∃ digits : List Nat, List.Forall₂ (IsDigit base) text digits ∧
    number = Nat.ofDigits base digits.reverse

theorem isDigit_iff {base : Nat} (small : base ≤ 16) (c : Char) (digit : Nat) :
    IsDigit base c digit ↔ digit < base ∧ Hex.digitValue? c = some digit := by
  rw [IsDigit, Hex.digitValue?_eq_some_iff]
  constructor
  · rintro ⟨below, lower⟩
    exact ⟨below, by omega, lower⟩
  · rintro ⟨below, -, lower⟩
    exact ⟨below, lower⟩

theorem decimalDigit?_eq_some_iff (c : Char) (digit : Nat) :
    decimalDigit? c = some digit ↔ IsDigit 10 c digit := by
  have codes : decimalDigit? c =
      if 48 ≤ c.toNat ∧ c.toNat ≤ 57 then some (c.toNat - 48) else none := rfl
  rw [isDigit_iff (by decide), codes, Hex.digitValue?_eq]
  split_ifs <;> simp only [Option.some.injEq, false_iff, not_and, and_false] <;>
    omega

theorem IsDigit.bounds {c : Char} {digit : Nat} (isDigit : IsDigit 10 c digit) :
    '0' ≤ c ∧ c ≤ '9' := by
  have read := (decimalDigit?_eq_some_iff c digit).mpr isDigit
  unfold decimalDigit? at read
  split_ifs at read with bounds
  exact bounds

@[simp]
theorem denotesNumber_nil_iff (base number : Nat) : DenotesNumber base [] number ↔ number = 0 := by
  simp [DenotesNumber]

theorem DenotesNumber.bounds {text : List Char} {number : Nat}
    (denotes : DenotesNumber 10 text number) : ∀ c ∈ text, '0' ≤ c ∧ c ≤ '9' := by
  obtain ⟨digits, areDigits, -⟩ := denotes
  exact ((List.forall₂_and_left text digits).mp
    (areDigits.imp fun _ _ isDigit => ⟨isDigit.bounds, isDigit⟩)).1

theorem DenotesNumber.ne_nil {base number : Nat} {text : List Char}
    (denotes : DenotesNumber base text number) (positive : 0 < number) : text ≠ [] := by
  rintro rfl
  exact absurd ((denotesNumber_nil_iff _ _).mp denotes) positive.ne'

/-- Readers of one digit after the other. -/
theorem foldlM_eq_some_iff {base : Nat} {read? : Nat → Char → Option Nat}
    (reads : ∀ value c next, read? value c = some next ↔
      ∃ digit, IsDigit base c digit ∧ next = base * value + digit)
    (text : List Char) (start number : Nat) :
    text.foldlM read? start = some number ↔
      ∃ digits, List.Forall₂ (IsDigit base) text digits ∧
        number = digits.foldl (fun value digit => base * value + digit) start := by
  induction text generalizing start with
  | nil => simp [eq_comm]
  | cons c text ih =>
      simp only [List.foldlM_cons, Option.bind_eq_bind, Option.bind_eq_some_iff, reads, ih,
        List.forall₂_cons_left_iff]
      constructor
      · rintro ⟨_, ⟨digit, isDigit, rfl⟩, digits, areDigits, rfl⟩
        exact ⟨digit :: digits, ⟨digit, digits, isDigit, areDigits, rfl⟩, rfl⟩
      · rintro ⟨_, ⟨digit, digits, isDigit, areDigits, rfl⟩, rfl⟩
        exact ⟨_, ⟨digit, isDigit, rfl⟩, digits, areDigits, rfl⟩

theorem foldl_eq_ofDigits (base : Nat) (digits : List Nat) :
    digits.foldl (fun value digit => base * value + digit) 0 =
      Nat.ofDigits base digits.reverse := by
  rw [Nat.ofDigits_eq_foldr, List.foldr_reverse]
  simp only [Nat.cast_id, Nat.add_comm]

/-- More digits do not make a number smaller. -/
theorem le_foldl_digits (digits : List Nat) (value : Nat) :
    value ≤ digits.foldl (fun value digit => 10 * value + digit) value := by
  induction digits generalizing value with
  | nil => exact Nat.le_refl value
  | cons digit digits ih =>
      have first : value ≤ 10 * value + digit := by omega
      exact first.trans (ih _)

theorem foldlM_zero_eq_some_iff {base : Nat} {read? : Nat → Char → Option Nat}
    (reads : ∀ value c next, read? value c = some next ↔
      ∃ digit, IsDigit base c digit ∧ next = base * value + digit)
    (text : List Char) (number : Nat) :
    text.foldlM read? 0 = some number ↔ DenotesNumber base text number := by
  rw [foldlM_eq_some_iff reads]
  simp only [foldl_eq_ofDigits]
  rfl

end ExecutorRegistration.Text
