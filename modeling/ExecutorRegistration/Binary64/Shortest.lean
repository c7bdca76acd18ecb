import ExecutorRegistration.Binary64.Basic

/-!
# The shortest decimal text of a binary number

A number is written with the fewest digits that determine it: on the decimal grids with one, two,
… seventeen digits its two neighbours are compared with the interval of reals that round to it,
and the first grid with a neighbour in the interval gives the digits. Of two neighbours the nearer
one is taken, and the even one of two equally near.
-/

namespace ExecutorRegistration.Binary64

/-- A positive decimal number `digits * 10 ^ exponent`. -/
structure Decimal where
  /-- The digits as a natural number. -/
  digits : Nat
  /-- The exponent of ten. -/
  exponent : Int
deriving DecidableEq, Repr

/-- How decimal numbers are laid out. -/
structure DecimalLayout where
  /-- The least exponent of the first digit with which a number is written without an exponent. -/
  leastPlain : Int
  /-- The greatest exponent of the first digit with which it is. -/
  greatestPlain : Int
deriving DecidableEq, Repr

/-- Whether a ratio lies in the interval that rounds to a significand, both in quarters of the
unit of the significand. Below a power of two the gap to the next number is not full but half. -/
def roundsBack (significand : Nat) (fullGap : Bool) (numerator denominator : Nat) : Bool :=
  let low := if fullGap then 4 * significand - 2 else 4 * significand - 1
  let high := 4 * significand + 2
  if significand % 2 = 0 then
    low * denominator ≤ numerator && numerator ≤ high * denominator
  else
    low * denominator < numerator && numerator < high * denominator

/-- Numerator and denominator of `numerator / denominator * 10 ^ shift`. -/
def scaleTen (numerator denominator : Nat) (shift : Int) : Nat × Nat :=
  if 0 ≤ shift then (numerator * Nat.pow 10 shift.toNat, denominator)
  else (numerator, denominator * Nat.pow 10 (-shift).toNat)

/-- The exponent of ten of the first digit of a positive ratio. -/
def firstDigitExponent (numerator denominator : Nat) : Int :=
  let guess : Int := (Nat.toDigits 10 numerator).length - (Nat.toDigits 10 denominator).length
  let (scaledNumerator, scaledDenominator) := scaleTen numerator denominator (-guess)
  if scaledDenominator ≤ scaledNumerator then guess else guess - 1

/-- The neighbour on the grid `10 ^ exponent` that rounds back to the number, the nearer one of
two. -/
def neighbour? (number : Binary64) (exponent : Int) : Option Decimal :=
  let fullGap := number.significand ≠ Nat.pow 2 52 || number.exponent = leastExponent
  let (numerator, denominator) := scale number.significand 1 number.exponent
  let (scaledNumerator, scaledDenominator) := scaleTen numerator denominator (-exponent)
  let below := scaledNumerator / scaledDenominator
  let rest := 2 * (scaledNumerator % scaledDenominator)
  let fits (digits : Nat) : Bool :=
    let (quarters, ones) := scale (4 * digits) 1 (-number.exponent)
    let (gridQuarters, gridOnes) := scaleTen quarters ones exponent
    roundsBack number.significand fullGap gridQuarters gridOnes
  let nearerBelow := rest < scaledDenominator || (rest = scaledDenominator && below % 2 = 0)
  if fits below && (nearerBelow || !fits (below + 1)) then some ⟨below, exponent⟩
  else if fits (below + 1) then some ⟨below + 1, exponent⟩
  else none

/-- The first grid, from `places` digits on, on which a neighbour rounds back. -/
def search (number : Binary64) (first : Int) : (grids places : Nat) → Decimal
  | 0, _ => ⟨0, 0⟩
  | grids + 1, places =>
    match number.neighbour? (first - places + 1) with
    | some decimal => decimal
    | none => search number first grids (places + 1)

/-- The shortest decimal number that rounds back to a positive number. -/
def shortest (number : Binary64) : Decimal :=
  let (numerator, denominator) := scale number.significand 1 number.exponent
  search number (firstDigitExponent numerator denominator) 17 1

/-- The digits without zeros at their end. -/
def significantDigits (digits : Nat) : List Char :=
  ((Nat.toDigits 10 digits).reverse.dropWhile (· = '0')).reverse

/-- A decimal point between the whole digits and at least one more. -/
def withPoint (whole rest : List Char) : List Char :=
  whole ++ '.' :: (if rest = [] then ['0'] else rest)

/-- A positive decimal number in a layout. -/
def Decimal.render (layout : DecimalLayout) (decimal : Decimal) : List Char :=
  let digits := significantDigits decimal.digits
  let first : Int := decimal.exponent + (Nat.toDigits 10 decimal.digits).length - 1
  if layout.leastPlain ≤ first ∧ first ≤ layout.greatestPlain then
    if first < 0 then
      withPoint ['0'] (List.replicate (-first - 1).toNat '0' ++ digits)
    else
      let places := first.toNat + 1
      withPoint (digits.take places ++ List.replicate (places - digits.length) '0')
        (digits.drop places)
  else
    let sign := if first < 0 then '-' else '+'
    let rest := digits.drop 1
    digits.take 1 ++ (if rest = [] then [] else '.' :: rest) ++
      'e' :: sign :: Nat.toDigits 10 first.natAbs

/-- The shortest text of a number in a layout; zero has one decimal. -/
def render (layout : DecimalLayout) (number : Binary64) : List Char :=
  let text := if number.isZero then ['0', '.', '0'] else number.shortest.render layout
  if number.negative then '-' :: text else text

end ExecutorRegistration.Binary64
