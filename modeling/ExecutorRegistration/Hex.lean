import ExecutorRegistration.Octets

/-!
# Hexadecimal text

Octets are written as `0x` and two lower-case digits each. Reading takes digits of either case,
with or without `0x` or `0X` before them, and gives the written octets back.
-/

namespace ExecutorRegistration.Hex

/-- The lower-case digit of a value below sixteen. -/
def digit (value : Nat) : Char :=
  if value < 10 then Char.ofNat (48 + value) else Char.ofNat (87 + value)

/-- The value of a hexadecimal digit of either case. -/
def digitValue? (c : Char) : Option Nat :=
  if '0' ≤ c ∧ c ≤ '9' then some (c.toNat - 48)
  else if 'a' ≤ c ∧ c ≤ 'f' then some (c.toNat - 87)
  else if 'A' ≤ c ∧ c ≤ 'F' then some (c.toNat - 55)
  else none

theorem digitValue?_digit : ∀ value < 16, digitValue? (digit value) = some value := by decide

/-- The two digits of an octet. -/
def octetDigits (octet : UInt8) : List Char :=
  [digit (octet.toNat / 16), digit (octet.toNat % 16)]

/-- The digits of a list of octets. -/
def digits (octets : List UInt8) : List Char := octets.flatMap octetDigits

/-- Octets as `0x` and their digits. -/
def encode (octets : List UInt8) : String := String.ofList ('0' :: 'x' :: digits octets)

/-- The octets that pairs of digits denote. -/
def ofDigits? : List Char → Option (List UInt8)
  | [] => some []
  | [_] => none
  | high :: low :: rest => do
    let high ← digitValue? high
    let low ← digitValue? low
    let octets ← ofDigits? rest
    pure (UInt8.ofNat (16 * high + low) :: octets)

/-- The text without a leading `0x` or `0X`. -/
def dropMark : List Char → List Char
  | '0' :: 'x' :: rest => rest
  | '0' :: 'X' :: rest => rest
  | text => text

/-- The octets that a text of digits, marked or not, denotes. -/
def decode? (text : String) : Option (List UInt8) := ofDigits? (dropMark text.toList)

theorem ofDigits?_digits (octets : List UInt8) : ofDigits? (digits octets) = some octets := by
  induction octets with
  | nil => rfl
  | cons octet octets ih =>
    have hhigh : octet.toNat / 16 < 16 := by have := octet.toNat_lt; omega
    have hlow : octet.toNat % 16 < 16 := by omega
    have hvalue : 16 * (octet.toNat / 16) + octet.toNat % 16 = octet.toNat := by omega
    have hsplit : digits (octet :: octets) =
        digit (octet.toNat / 16) :: digit (octet.toNat % 16) :: digits octets := rfl
    rw [hsplit, ofDigits?, digitValue?_digit _ hhigh, digitValue?_digit _ hlow, ih]
    simp only [Option.bind_eq_bind, Option.bind_some, hvalue, UInt8.ofNat_toNat]
    rfl

/-- Reading gives back the octets that were written. -/
theorem decode?_encode (octets : List UInt8) : decode? (encode octets) = some octets := by
  simp [decode?, encode, dropMark, ofDigits?_digits]

end ExecutorRegistration.Hex
