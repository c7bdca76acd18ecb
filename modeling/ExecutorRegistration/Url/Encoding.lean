import ExecutorRegistration.Hex
import ExecutorRegistration.Url.Scheme

/-!
# Percent-encoding

An octet is written as a percent sign and two hexadecimal digits. All characters beyond ASCII are
encoded, and the ASCII characters of a class that depends on the part of the URL.
-/

namespace ExecutorRegistration.Url

/-- An octet as a percent sign and two digits. -/
def percentEncodeOctet (octet : UInt8) : List Char :=
  let digit (value : Nat) : Char := (Hex.digit value).toUpper
  ['%', digit (octet.toNat / 16), digit (octet.toNat % 16)]

/-- A text with the characters beyond ASCII and those of a class percent-encoded. -/
def percentEncode (encoded : Char → Bool) (text : List Char) : List Char :=
  text.flatMap fun c =>
    if 126 < c.toNat || encoded c then
      c.toString.toUTF8.toList.flatMap percentEncodeOctet
    else [c]

/-- The octets of a text with percent signs decoded where two digits follow. -/
def percentDecode : List Char → List UInt8
  | [] => []
  | '%' :: high :: low :: rest =>
    match Hex.digitValue? high, Hex.digitValue? low with
    | some highValue, some lowValue =>
      UInt8.ofNat (16 * highValue + lowValue) :: percentDecode rest
    | _, _ => 0x25 :: percentDecode (high :: low :: rest)
  | c :: rest => c.toString.toUTF8.toList ++ percentDecode rest

/-- The characters that are encoded in fragments. -/
def encodedInFragment (c : Char) : Bool :=
  c.toNat ≤ 32 || c = '"' || c = '<' || c = '>' || c.toNat = 96

/-- The characters that are encoded in paths. -/
def encodedInPath (c : Char) : Bool :=
  encodedInFragment c || c = '#' || c = '?' || c = '\x7b' || c = '\x7d'

/-- The characters that are encoded in credentials. -/
def encodedInCredentials (c : Char) : Bool :=
  encodedInPath c || "/:;=@[\\]^|".toList.contains c

/-- The characters that are encoded in queries. -/
def encodedInQuery (kind : SchemeKind) (c : Char) : Bool :=
  c.toNat ≤ 32 || c = '"' || c = '#' || c = '<' || c = '>' || (kind ≠ .other && c = '\'')

end ExecutorRegistration.Url
