/-!
# Characters, blanks and numbers

Texts are encoded in UTF-8. White space is what has the Unicode property `White_Space`.

A number of 64 bits is written with an optional plus sign and at least one digit; leading zeros do
not count. The digits are read from the left, and the first fault met decides: a character that is
no digit, or a digit that takes the value to `2 ^ 64` or beyond.
-/

namespace ExecutorRegistration.Text

/-! ## Characters -/

/-- Whether a character lies in one of the ranges, each given by its first and last code point. -/
def inRanges (ranges : List (Nat × Nat)) (c : Char) : Bool :=
  ranges.any fun (first, last) => first ≤ c.toNat && c.toNat ≤ last

/-- The text that octets encode, if they are valid. -/
def decodeUtf8? (octets : List UInt8) : Option String :=
  String.fromUTF8? ⟨octets.toArray⟩

/-! ## Blanks -/

/-- Whether a character is white space. -/
def isBlank (c : Char) : Bool :=
  let code := c.toNat
  (0x09 ≤ code && code ≤ 0x0D) || code = 0x20 || code = 0x85 || code = 0xA0 || code = 0x1680 ||
    (0x2000 ≤ code && code ≤ 0x200A) || code = 0x2028 || code = 0x2029 || code = 0x202F ||
    code = 0x205F || code = 0x3000

/-- The items between the first and the last that do not satisfy `test`. -/
def dropEnds {α : Type} (test : α → Bool) (items : List α) : List α :=
  ((items.dropWhile test).reverse.dropWhile test).reverse

/-- The text without white space at its ends. -/
def trim (text : String) : String := String.ofList (dropEnds isBlank text.toList)

/-- The text without the characters `c` at its end. -/
def trimEnd (c : Char) (text : String) : String :=
  String.ofList (text.toList.reverse.dropWhile (· = c)).reverse

/-! ## Decimal numbers -/

/-- Why a text is no number of 64 bits. -/
inductive NumberFault where
  /-- There are no characters at all. -/
  | empty
  /-- A character is no digit, or there are no digits. -/
  | invalidDigit
  /-- The value does not fit. -/
  | tooLarge
deriving DecidableEq, Repr

/-- The wording of a fault. -/
def NumberFault.message : NumberFault → String
  | empty => "cannot parse integer from empty string"
  | invalidDigit => "invalid digit found in string"
  | tooLarge => "number too large to fit in target type"

/-- The value of a decimal digit. -/
def decimalDigit? (c : Char) : Option Nat :=
  if '0' ≤ c ∧ c ≤ '9' then some (c.toNat - 48) else none

/-- The value of digits that follow digits of value `value`. -/
def readDigits (value : Nat) : List Char → Except NumberFault Nat
  | [] => .ok value
  | c :: rest =>
    match decimalDigit? c with
    | none => .error .invalidDigit
    | some digit =>
      if 10 * value + digit < UInt64.size then readDigits (10 * value + digit) rest
      else .error .tooLarge

/-- The value of a number of 64 bits. -/
def readNumber (text : String) : Except NumberFault UInt64 :=
  match text.toList with
  | [] => .error .empty
  | ['+'] => .error .invalidDigit
  | '+' :: rest => (readDigits 0 rest).map UInt64.ofNat
  | digits => (readDigits 0 digits).map UInt64.ofNat

/-- A number in decimal digits. -/
def decimal (value : Nat) : String := String.ofList (Nat.toDigits 10 value)

end ExecutorRegistration.Text
