import ExecutorRegistration.Hex
import ExecutorRegistration.Text.Quoted

/-!
# Account addresses as text

An address text has forty hexadecimal digits of either case, with or without `0x` or `0X` before
them. A text that is none is refused for the first of three reasons: an odd number of octets, a
wrong number of digits, or a character that is no digit.
-/

namespace ExecutorRegistration

/-- Why a text is no address. -/
inductive AddressFault where
  /-- The text has an odd number of octets. -/
  | oddLength
  /-- The digits are not those of twenty octets. -/
  | wrongLength
  /-- The octet at this place behind the mark is no digit. -/
  | invalidDigit (octet : UInt8) (place : Nat)
deriving DecidableEq, Repr

namespace AddressFault

/-- The wording of a reason. An octet is shown as the character with its code. -/
def message : AddressFault → String
  | oddLength => "odd number of digits"
  | wrongLength => "invalid string length"
  | invalidDigit octet place =>
    "invalid character " ++ Text.quoteChar (Char.ofNat octet.toNat) ++ " at position " ++
      toString place

end AddressFault

namespace Address

/-- The first octet of the text that is no hexadecimal digit, with its place. -/
def firstInvalidDigit : List UInt8 → (place : Nat) → AddressFault
  | [], _ => .wrongLength
  | octet :: rest, place =>
    if (Hex.digitValue? (Char.ofNat octet.toNat)).isSome then firstInvalidDigit rest (place + 1)
    else .invalidDigit octet place

/-- Reads an address text. -/
def parse (text : String) : Except AddressFault Address :=
  let digits := String.ofList (Hex.dropMark text.toList)
  if digits.utf8ByteSize % 2 ≠ 0 then .error .oddLength
  else if digits.utf8ByteSize ≠ 40 then .error .wrongLength
  else
    match (Hex.decode? text).bind (Octets.ofList? 20) with
    | some address => .ok address
    | none => .error (firstInvalidDigit digits.toUTF8.toList 0)

/-- The address that a text denotes, if it denotes one. -/
def ofText? (text : String) : Option Address := (parse text).toOption

end Address

end ExecutorRegistration
