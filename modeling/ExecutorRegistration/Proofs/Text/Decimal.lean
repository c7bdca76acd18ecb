import ExecutorRegistration.Text.Basic
import Mathlib.Data.Nat.Basic

/-!
# Reading decimal numbers back

The digits in which a number of 64 bits is written are read as that number.
-/

namespace ExecutorRegistration.Text

theorem decimalDigit?_digitChar :
    ∀ digit < 10, decimalDigit? (Nat.digitChar digit) = some digit := by
  decide

theorem readDigits_append (value : Nat) (first rest : List Char) :
    readDigits value (first ++ rest) =
      (readDigits value first).bind fun between => readDigits between rest := by
  induction first generalizing value with
  | nil => rfl
  | cons c first ih =>
      rw [List.cons_append, readDigits, readDigits]
      cases decimalDigit? c with
      | none => rfl
      | some digit =>
          dsimp only
          split_ifs
          · exact ih _
          · rfl

/-- One more digit is read if the number stays below `2 ^ 64`. -/
theorem readDigits_digitChar {value digit : Nat} (isDigit : digit < 10)
    (fits : 10 * value + digit < UInt64.size) :
    readDigits value [Nat.digitChar digit] = .ok (10 * value + digit) := by
  rw [readDigits, decimalDigit?_digitChar digit isDigit]
  dsimp only
  rw [if_pos fits, readDigits]

theorem readDigits_toDigits {number : Nat} (fits : number < UInt64.size) :
    readDigits 0 (Nat.toDigits 10 number) = .ok number := by
  induction number using Nat.base_induction 10 (by decide) with
  | single digit isDigit =>
      rw [Nat.toDigits_of_lt_base isDigit, readDigits_digitChar isDigit (by omega)]
      simp
  | digit quotient digit isDigit positive ih =>
      rw [← Nat.toDigits_append_toDigits (by decide) positive isDigit,
        Nat.toDigits_of_lt_base isDigit, readDigits_append, ih (by omega)]
      exact readDigits_digitChar isDigit fits

/-- A number is read from its decimal text. -/
theorem readNumber_decimal (number : UInt64) : readNumber (decimal number.toNat) = .ok number := by
  have digits := readDigits_toDigits number.toNat_lt
  have noSign : ∀ rest, Nat.toDigits 10 number.toNat ≠ '+' :: rest := by
    intro rest signed
    have isDigit := Nat.isDigit_of_mem_toDigits (b := 10) (n := number.toNat) (c := '+')
      (by decide) (by decide) (by rw [signed]; exact List.mem_cons_self)
    exact absurd isDigit (by decide)
  rw [readNumber, decimal, String.toList_ofList]
  split
  · exact absurd ‹_› Nat.toDigits_ne_nil
  · exact absurd ‹_› (noSign _)
  · exact absurd ‹_› (noSign _)
  · rw [digits]
    simp [Except.map]

end ExecutorRegistration.Text
