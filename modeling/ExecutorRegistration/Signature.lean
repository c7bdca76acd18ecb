import ExecutorRegistration.Hex
import ExecutorRegistration.Text.Basic

/-!
# Recovery ids of signatures

A signature text has 132 octets: `0x` and the digits of 65 octets, the last of which is the
recovery id. Only its length and its last two octets are looked at. A recovery id of 0 or 1 is
raised to 27 or 28; every other one is kept.
-/

namespace ExecutorRegistration

/-- Why a signature text is refused. -/
inductive SignatureFault where
  /-- The text has this number of octets and not 132. -/
  | invalidLength (octets : Nat)
  /-- The recovery id is no hexadecimal octet; it is shown as far as it can be cut off. -/
  | invalidRecoveryId (shown : String)
deriving DecidableEq, Repr

/-- The wording of a fault. -/
def SignatureFault.message : SignatureFault → String
  | invalidLength octets =>
    "invalid signature length: expected 132 characters (66 bytes), got " ++ Text.decimal octets
  | invalidRecoveryId shown => "invalid recovery id `" ++ shown ++ "`: not a hex byte"

namespace Signature

/-- The number of octets of a signature text. -/
def length : Nat := 132

/-- Splits characters behind the given number of octets, unless a character lies across. -/
def splitOctets : (octets : Nat) → List Char → Option (List Char × List Char)
  | 0, chars => some ([], chars)
  | _ + 1, [] => none
  | octets + 1, c :: rest =>
    if c.utf8Size ≤ octets + 1 then
      (splitOctets (octets + 1 - c.utf8Size) rest).map fun (front, back) => (c :: front, back)
    else none

/-- The value of a recovery id: two digits, or a plus sign and one digit. -/
def recoveryId? : List Char → Option Nat
  | ['+', low] => Hex.digitValue? low
  | [high, low] => do
    let high ← Hex.digitValue? high
    let low ← Hex.digitValue? low
    pure (16 * high + low)
  | _ => none

/-- What is added to a recovery id of 0 or 1. -/
def recoveryOffset : Nat := 27

/-- The recovery id of a signature, if it is raised. -/
def raised? (text : String) : Option Nat := do
  let (_, tail) ← splitOctets (length - 2) text.toList
  let value ← recoveryId? tail
  if value < 2 then some value else none

/-- The signature with a recovery id of 0 or 1 raised to 27 or 28. -/
def normalize (text : String) : Except SignatureFault String :=
  if text.utf8ByteSize ≠ length then .error (.invalidLength text.utf8ByteSize)
  else
    match splitOctets (length - 2) text.toList with
    | none => .error (.invalidRecoveryId text)
    | some (body, tail) =>
      match recoveryId? tail with
      | none => .error (.invalidRecoveryId (String.ofList tail))
      | some value =>
        if value < 2 then
          .ok (String.ofList (body ++ Hex.octetDigits (UInt8.ofNat (value + recoveryOffset))))
        else .ok text

end Signature

end ExecutorRegistration
