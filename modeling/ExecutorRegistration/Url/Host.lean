import ExecutorRegistration.Text.Basic
import ExecutorRegistration.Url.Domain
import ExecutorRegistration.Url.Encoding

/-!
# Hosts

The host of a URL is a domain name, an address of four octets, or in brackets an address of eight
pieces. A name that ends in a number has to be an address. Schemes without domain names keep any
other text as it is, percent-encoded.
-/

namespace ExecutorRegistration.Url

/-- The host of a URL. -/
inductive Host where
  /-- A domain name in ASCII, or a text; empty for none. -/
  | domain (name : String)
  /-- An address of four octets as a number. -/
  | ipv4 (address : Nat)
  /-- An address of eight pieces of sixteen bits. -/
  | ipv6 (pieces : List Nat)
deriving DecidableEq, Repr

/-! ## Addresses of four octets -/

/-- The value of digits in a base. -/
def numberInBase? (base : Nat) (digits : List Char) : Option Nat :=
  digits.foldlM
    (fun value c => do
      let digit ← Hex.digitValue? c
      if digit < base then some (base * value + digit) else none)
    0

/-- The value of a part of an address, decimal, octal behind `0`, or hexadecimal behind `0x`. -/
def ipv4Part? : List Char → Option Nat
  | [] => none
  | '0' :: 'x' :: digits => numberInBase? 16 digits
  | '0' :: 'X' :: digits => numberInBase? 16 digits
  | ['0'] => some 0
  | '0' :: digits => numberInBase? 8 digits
  | digits => numberInBase? 10 digits

/-- Parts without an empty one at the end, if there are others. -/
def dropEmptyEnd (parts : List (List Char)) : List (List Char) :=
  if 1 < parts.length ∧ parts.getLast? = some [] then parts.dropLast else parts

/-- Whether a name ends in a number, a dot behind it apart. -/
def endsInNumber (name : List Char) : Bool :=
  match (dropEmptyEnd (splitLabels [] name)).getLast? with
  | none => false
  | some last => (last ≠ [] && last.all Char.isDigit) || (ipv4Part? last).isSome

/-- Reads an address: up to four parts, each but the last an octet, and the last filling the
octets that are left. -/
def parseIpv4 (name : List Char) : Except UrlFault Host :=
  let parts := dropEmptyEnd (splitLabels [] name)
  match parts.mapM ipv4Part? with
  | none => .error .invalidIpv4
  | some numbers =>
    let front := numbers.dropLast
    let last := numbers.getLast?.getD 0
    if 4 < numbers.length ∨ front.any (255 < ·) ∨ Nat.pow 256 (4 - front.length) ≤ last then
      .error .invalidIpv4
    else
      let high := front.foldl (fun value number => 256 * value + number) 0
      .ok (.ipv4 (high * Nat.pow 256 (4 - front.length) + last))

/-! ## Addresses of eight pieces -/

/-- The value of a decimal octet without leading zeros. -/
def octetPart? (digits : List Char) : Option Nat :=
  if digits = [] ∨ (digits.head? = some '0' ∧ digits ≠ ['0']) then none
  else (numberInBase? 10 digits).filter (· ≤ 255)

/-- The two pieces of an address of four octets at the end of one of eight pieces. -/
def embeddedIpv4? (text : List Char) : Option (List Nat) :=
  match (splitLabels [] text).mapM octetPart? with
  | some [first, second, third, fourth] => some [256 * first + second, 256 * third + fourth]
  | _ => none

/-- Reads pieces; `limit` bounds the number of steps. Two colons stand for a piece of zero, whose
place is kept so that more zeros can be put in. -/
def readPieces : (limit : Nat) → (pieces : List Nat) → (gap : Option Nat) → List Char →
    Option (List Nat × Option Nat)
  | _, pieces, gap, [] => some (pieces, gap)
  | 0, _, _, _ => none
  | limit + 1, pieces, gap, c :: rest =>
    if pieces.length = 8 then none
    else if c = ':' then
      if gap.isSome then none
      else readPieces limit (pieces ++ [0]) (some (pieces.length + 1)) rest
    else
      let digits := ((c :: rest).take 4).takeWhile fun d => (Hex.digitValue? d).isSome
      let value := (numberInBase? 16 digits).getD 0
      match (c :: rest).drop digits.length with
      | [] => some (pieces ++ [value], gap)
      | '.' :: _ =>
        if digits = [] ∨ 6 < pieces.length then none
        else (embeddedIpv4? (c :: rest)).map fun embedded => (pieces ++ embedded, gap)
      | ':' :: behind =>
        if behind = [] then none else readPieces limit (pieces ++ [value]) gap behind
      | _ => none

/-- Reads an address without its brackets. -/
def parseIpv6 (text : List Char) : Except UrlFault Host :=
  let read :=
    match text with
    | ':' :: ':' :: rest => readPieces text.length [0] (some 1) rest
    | ':' :: _ => none
    | [_] => none
    | [] => none
    | text => readPieces text.length [] none text
  match read with
  | some (pieces, some gap) =>
    .ok (.ipv6 (pieces.take gap ++ List.replicate (8 - pieces.length) 0 ++ pieces.drop gap))
  | some (pieces, none) =>
    if pieces.length = 8 then .ok (.ipv6 pieces) else .error .invalidIpv6
  | none => .error .invalidIpv6

/-! ## Hosts -/

/-- Reads a host in brackets. -/
def parseBracketed (text : List Char) : Except UrlFault Host :=
  if text.getLast? = some ']' then parseIpv6 (text.drop 1).dropLast else .error .invalidIpv6

/-- Reads the host of a scheme with domain names. -/
def parseDomainHost (text : List Char) : Except UrlFault Host :=
  if text.head? = some '[' then parseBracketed text
  else
    match (Text.decodeUtf8? (percentDecode text)).bind fun decoded => domainToAscii? decoded.toList with
    | none => .error .invalidDomain
    | some name =>
      if name = "" then .error .emptyHost
      else if endsInNumber name.toList then parseIpv4 name.toList
      else .ok (.domain name)

/-- Whether a host of a scheme without domain names may not hold a character. -/
def isForbiddenOpaque (c : Char) : Bool :=
  c = '\x00' || "\t\n\r #/:<>?@[\\]^|".toList.contains c

/-- Reads the host of a scheme without domain names. -/
def parseOpaqueHost (text : List Char) : Except UrlFault Host :=
  if text.head? = some '[' then parseBracketed text
  else if text.any isForbiddenOpaque then .error .invalidCharacter
  else .ok (.domain (String.ofList (percentEncode (fun c => c.toNat < 32) text)))

/-- A number of sixteen bits in hexadecimal. -/
def pieceDigits (piece : Nat) : List Char := Nat.toDigits 16 piece

/-- The longest run of at least two zeros, as its start and length; the first of equal ones. -/
def longestZeros (pieces : List Nat) : Option (Nat × Nat) :=
  let runs := (List.range pieces.length).map fun start =>
    (start, ((pieces.drop start).takeWhile (· = 0)).length)
  runs.foldl
    (fun best (start, length) =>
      if 1 < length ∧ (best.map Prod.snd).getD 0 < length then some (start, length) else best)
    none

/-- Pieces with colons between them. -/
def joinPieces (pieces : List Nat) : List Char :=
  (":".intercalate (pieces.map fun piece => String.ofList (pieceDigits piece))).toList

/-- The text of a host. -/
def Host.render : Host → List Char
  | domain name => name.toList
  | ipv4 address =>
    let octet (index : Nat) : String := Text.decimal (address / Nat.pow 256 index % 256)
    (".".intercalate [octet 3, octet 2, octet 1, octet 0]).toList
  | ipv6 pieces =>
    match longestZeros pieces with
    | none => '[' :: (joinPieces pieces ++ [']'])
    | some (start, length) =>
      '[' :: (joinPieces (pieces.take start) ++ ':' :: ':' ::
        (joinPieces (pieces.drop (start + length)) ++ [']']))

end ExecutorRegistration.Url
