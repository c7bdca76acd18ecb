/-!
# Binary floating-point numbers of 64 bits

A finite number is a sign, a significand below `2 ^ 53` and an exponent of two between `-1074` and
`971`. All arithmetic here is exact arithmetic on ratios of natural numbers followed by one
rounding to the nearest representable number, ties to the even significand.
-/

namespace ExecutorRegistration

/-- A finite binary floating-point number, `significand * 2 ^ exponent` with a sign. -/
structure Binary64 where
  /-- Whether the sign is a minus; zero has both signs. -/
  negative : Bool
  /-- The significand, below `2 ^ 53`. -/
  significand : Nat
  /-- The exponent of two, from `-1074` to `971`. -/
  exponent : Int
deriving DecidableEq, Repr

namespace Binary64

/-- The least exponent. -/
def leastExponent : Int := -1074

/-- The greatest exponent. -/
def greatestExponent : Int := 971

/-- Zero with a sign. -/
def zero (negative : Bool) : Binary64 := ⟨negative, 0, leastExponent⟩

/-- Whether a number is zero, of either sign. -/
def isZero (number : Binary64) : Bool := number.significand = 0

/-- Numerator and denominator of `numerator / denominator * 2 ^ shift`. -/
def scale (numerator denominator : Nat) (shift : Int) : Nat × Nat :=
  if 0 ≤ shift then (numerator * Nat.pow 2 shift.toNat, denominator)
  else (numerator, denominator * Nat.pow 2 (-shift).toNat)

/-- The natural number nearest to a ratio, the even one of two that are equally near. -/
def nearest (numerator denominator : Nat) : Nat :=
  let quotient := numerator / denominator
  let rest := 2 * (numerator % denominator)
  if rest < denominator ∨ (rest = denominator ∧ quotient % 2 = 0) then quotient
  else quotient + 1

/-- The exponent at which the significand of a positive ratio has fifty-three bits, or the least. -/
def exponentFor (numerator denominator : Nat) : Int :=
  let guess : Int := numerator.log2 - denominator.log2 - 53
  let (scaledNumerator, scaledDenominator) := scale numerator denominator (-guess)
  let exponent := if scaledNumerator / scaledDenominator < Nat.pow 2 53 then guess else guess + 1
  max exponent leastExponent

/-- The number nearest to a ratio, unless it is beyond the greatest finite one. -/
def ofRatio? (negative : Bool) (numerator denominator : Nat) : Option Binary64 :=
  if numerator = 0 then some (zero negative)
  else
    let exponent := exponentFor numerator denominator
    let (scaledNumerator, scaledDenominator) := scale numerator denominator (-exponent)
    let significand := nearest scaledNumerator scaledDenominator
    let number : Binary64 :=
      if significand = Nat.pow 2 53 then ⟨negative, Nat.pow 2 52, exponent + 1⟩
      else ⟨negative, significand, exponent⟩
    if number.exponent ≤ greatestExponent then some number else none

/-- The number nearest to a product, unless it is beyond the greatest finite one. -/
def mul? (left right : Binary64) : Option Binary64 :=
  let (numerator, denominator) :=
    scale (left.significand * right.significand) 1 (left.exponent + right.exponent)
  ofRatio? (left.negative != right.negative) numerator denominator

/-- The number nearest to a quotient, unless it is beyond the greatest finite one. -/
def div? (left right : Binary64) : Option Binary64 :=
  let (numerator, denominator) :=
    scale left.significand right.significand (left.exponent - right.exponent)
  ofRatio? (left.negative != right.negative) numerator denominator

/-- The greatest power of ten that is used as a factor. -/
def greatestPower : Nat := 308

/-- Divides by the greatest power of ten, again and again until zero is reached. -/
def shrink : (times : Nat) → Binary64 → Option Binary64
  | 0, number => some number
  | times + 1, number =>
    if number.isZero then some number
    else do
      let power ← ofRatio? false (Nat.pow 10 greatestPower) 1
      let quotient ← number.div? power
      shrink times quotient

/-- A value for `digits * 10 ^ exponent`: `digits` is rounded, and the result is multiplied or
divided by a rounded power of ten, so that up to three roundings take place. There is none if a
product is beyond the greatest finite number. -/
def ofDecimal? (negative : Bool) (digits : Nat) (exponent : Int) : Option Binary64 := do
  let number ← ofRatio? negative digits 1
  if number.isZero then
    some number
  else if 0 ≤ exponent then
    if exponent.toNat ≤ greatestPower then
      number.mul? (← ofRatio? false (Nat.pow 10 exponent.toNat) 1)
    else
      none
  else
    let size := (-exponent).toNat
    let times := (size - 1) / greatestPower
    let shrunk ← shrink times number
    if shrunk.isZero then
      some shrunk
    else
      shrunk.div? (← ofRatio? false (Nat.pow 10 (size - greatestPower * times)) 1)

end Binary64

end ExecutorRegistration
