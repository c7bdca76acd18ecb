import ExecutorRegistration.Json.Fault

/-!
# Reading JSON

The readers take the first value off a list of characters and return the rest. Reading goes from
left to right and stops at the first fault. At most 127 brackets may stand open at a time. Of
members with one key the last counts.

A number is an integer if it has neither fraction nor exponent, is not `-0`, and fits in 64 bits.
The digits of any other number are gathered while their value stays below `2 ^ 64`; further whole
digits raise the exponent of ten by one each, and further fraction digits are dropped.

An object whose first key is `embeddedKey` stands for the value that is written in the text under
that key, and may have no other member.
-/

namespace ExecutorRegistration.Json

/-- What a reader returns: a value and the characters behind it. -/
abbrev Reading (α : Type) := Except Fault (α × List Char)

/-- Reads on behind a value. -/
def Reading.andThen {α β : Type} (reading : Reading α) (next : α → List Char → Reading β) :
    Reading β :=
  match reading with
  | .ok (value, rest) => next value rest
  | .error fault => .error fault

/-- Changes the value that was read. -/
def Reading.mapValue {α β : Type} (f : α → β) (reading : Reading α) : Reading β :=
  reading.andThen fun value rest => .ok (f value, rest)

/-- The characters behind leading blanks. -/
def skipBlanks (chars : List Char) : List Char :=
  chars.dropWhile fun c => c = ' ' || c = '\n' || c = '\t' || c = '\r'

/-- Whether a character is a decimal digit. -/
def isDigit (c : Char) : Bool := (Text.decimalDigit? c).isSome

/-- The value of a decimal digit, and zero for other characters. -/
def digitValue (c : Char) : Nat := (Text.decimalDigit? c).getD 0

/-! ## Words -/

/-- Reads the given characters of a word. -/
def readWord {α : Type} (value : α) : (word : List Char) → List Char → Reading α
  | [], chars => .ok (value, chars)
  | _ :: _, [] => .error (.before .endInValue [])
  | expected :: word, c :: rest =>
    if c = expected then readWord value word rest else .error (.within .expectedWord (c :: rest))

/-! ## Numbers -/

/-- The digits of a number that still count. -/
structure Significand where
  /-- The value of the digits gathered so far. -/
  value : Nat
  /-- How many whole digits were left out. -/
  dropped : Nat
deriving DecidableEq, Repr

/-- Gathers one more whole digit, unless digits are being left out already. -/
def Significand.push (significand : Significand) (c : Char) : Significand :=
  let value := 10 * significand.value + digitValue c
  if significand.dropped = 0 ∧ value < UInt64.size then ⟨value, 0⟩
  else { significand with dropped := significand.dropped + 1 }

/-- The value with the fraction digits that fit, and their number. -/
def gatherFraction (value places : Nat) : List Char → Nat × Nat
  | [] => (value, places)
  | c :: rest =>
    let next := 10 * value + digitValue c
    if next < UInt64.size then gatherFraction next (places + 1) rest else (value, places)

/-- The floating-point number `significand * 10 ^ exponent` before the characters `rest`. -/
def readReal (negative : Bool) (significand : Nat) (exponent : Int) (rest : List Char) :
    Reading Json :=
  match Binary64.ofDecimal? negative significand exponent with
  | some value => .ok (.real value, rest)
  | none => .error (.before .numberOutOfRange rest)

/-- Reads the digits of an exponent. Beyond `2 ^ 31` it is not counted on: the number is zero, or
out of range from that digit on. -/
def readExponentDigits (negative : Bool) (significand : Nat) (exponent : Int) (down : Bool)
    (value : Nat) : List Char → Reading Json
  | c :: rest =>
    if isDigit c then
      let next := 10 * value + digitValue c
      if next < UInt32.size / 2 then
        readExponentDigits negative significand exponent down next rest
      else if significand ≠ 0 ∧ !down then
        .error (.before .numberOutOfRange rest)
      else
        .ok (.real (Binary64.zero negative), rest.dropWhile isDigit)
    else
      readReal negative significand (if down then exponent - value else exponent + value)
        (c :: rest)
  | [] => readReal negative significand (if down then exponent - value else exponent + value) []

/-- Reads the exponent of a number, behind its letter. -/
def readExponent (negative : Bool) (significand : Nat) (exponent : Int) (chars : List Char) :
    Reading Json :=
  let down := chars.head? = some '-'
  let digits := if down || chars.head? = some '+' then chars.tail else chars
  match digits with
  | [] => .error (.before .endInValue [])
  | c :: rest =>
    if isDigit c then readExponentDigits negative significand exponent down 0 (c :: rest)
    else .error (.within .invalidNumber (c :: rest))

/-- Reads the fraction of a number, behind its point, and its exponent. -/
def readFraction (negative : Bool) (significand : Significand) (chars : List Char) :
    Reading Json :=
  let digits := chars.takeWhile isDigit
  let rest := chars.dropWhile isDigit
  if digits = [] then
    if rest = [] then .error (.before .endInValue []) else .error (.within .invalidNumber rest)
  else
    let (value, places) := gatherFraction significand.value 0 digits
    let exponent : Int := significand.dropped - places
    match rest with
    | 'e' :: behind => readExponent negative value exponent behind
    | 'E' :: behind => readExponent negative value exponent behind
    | _ => readReal negative value exponent rest

/-- An integer, or the nearest floating-point number if it does not fit. -/
def wholeNumber (negative : Bool) (value : Nat) (rest : List Char) : Reading Json :=
  if negative then
    if value = 0 ∨ UInt64.size / 2 < value then readReal true value 0 rest
    else .ok (.integer (-value), rest)
  else .ok (.integer value, rest)

/-- Reads what follows the whole digits of a number. -/
def readNumberTail (negative : Bool) (significand : Significand) (rest : List Char) :
    Reading Json :=
  match rest with
  | '.' :: behind => readFraction negative significand behind
  | 'e' :: behind => readExponent negative significand.value significand.dropped behind
  | 'E' :: behind => readExponent negative significand.value significand.dropped behind
  | _ =>
    if significand.dropped = 0 then wholeNumber negative significand.value rest
    else readReal negative significand.value significand.dropped rest

/-- Reads a number behind its sign. -/
def readUnsigned (negative : Bool) : List Char → Reading Json
  | [] => .error (.before .endInValue [])
  | c :: rest =>
    if !isDigit c then .error (.within .invalidNumber (c :: rest))
    else if c = '0' then
      if rest.head?.any isDigit then .error (.within .invalidNumber rest)
      else readNumberTail negative ⟨0, 0⟩ rest
    else
      readNumberTail negative
        (((c :: rest).takeWhile isDigit).foldl Significand.push ⟨0, 0⟩)
        ((c :: rest).dropWhile isDigit)

/-! ## Quoted texts -/

/-- The character that a one-letter escape denotes. -/
def escaped? (c : Char) : Option Char :=
  match c with
  | '"' => some '"'
  | '\\' => some '\\'
  | '/' => some '/'
  | 'b' => some '\x08'
  | 'f' => some '\x0c'
  | 'n' => some '\n'
  | 'r' => some '\r'
  | 't' => some '\t'
  | _ => none

/-- The value of four hexadecimal digits. -/
def hexValue? (digits : List Char) : Option Nat :=
  digits.foldlM (fun value c => (Hex.digitValue? c).map (16 * value + ·)) 0

/-- Reads the four digits of an escaped code. They are taken as four octets: with fewer the text
ends too early, and otherwise a fault shows behind the fourth. -/
def readCode (chars : List Char) : Reading Nat :=
  let digits := chars.take 4
  if octetLength digits < 4 then .error (.before .endInString [])
  else
    match hexValue? digits with
    | some value => .ok (value, chars.drop 4)
    | none => .error ⟨.invalidEscape, octetLength chars - 4⟩

/-- Whether a code is the first half of a surrogate pair. -/
def isFirstSurrogate (code : Nat) : Bool := 0xD800 ≤ code && code ≤ 0xDBFF

/-- Whether a code is the second half of a surrogate pair. -/
def isSecondSurrogate (code : Nat) : Bool := 0xDC00 ≤ code && code ≤ 0xDFFF

/-- Reads the second half of a surrogate pair. -/
def readPartner (first : Nat) : List Char → Reading Char
  | '\\' :: 'u' :: rest =>
    (readCode rest).andThen fun second behind =>
      if isSecondSurrogate second then
        .ok (Char.ofNat (0x10000 + 0x400 * (first - 0xD800) + (second - 0xDC00)), behind)
      else .error (.before .loneSurrogate behind)
  | ['\\'] => .error (.before .endInString [])
  | '\\' :: rest => .error (.within .unfinishedPair rest)
  | [] => .error (.before .endInString [])
  | rest => .error (.within .unfinishedPair rest)

/-- Reads an escape behind its backslash. -/
def readEscape : List Char → Reading Char
  | [] => .error (.before .endInString [])
  | 'u' :: rest =>
    (readCode rest).andThen fun code behind =>
      if isSecondSurrogate code then .error (.before .loneSurrogate behind)
      else if isFirstSurrogate code then readPartner code behind
      else .ok (Char.ofNat code, behind)
  | c :: rest =>
    match escaped? c with
    | some value => .ok (value, rest)
    | none => .error (.within .invalidEscape (c :: rest))

/-- Reads a text behind its opening quote; `limit` bounds its number of characters. -/
def readChars : (limit : Nat) → List Char → Reading (List Char)
  | 0, chars => .error (.before .endInString chars)
  | _ + 1, [] => .error (.before .endInString [])
  | _ + 1, '"' :: rest => .ok ([], rest)
  | limit + 1, '\\' :: rest =>
    (readEscape rest).andThen fun c behind => (readChars limit behind).mapValue (c :: ·)
  | limit + 1, c :: rest =>
    if c.toNat < 32 then .error (.before .controlCharacter rest)
    else (readChars limit rest).mapValue (c :: ·)

/-- Reads a text behind its opening quote. -/
def readQuoted (chars : List Char) : Reading String :=
  (readChars (chars.length + 1) chars).mapValue String.ofList

/-! ## Values -/

/-- Reads a value that is neither array nor object. -/
def readScalar : List Char → Reading Json
  | [] => .error (.before .endInValue [])
  | 'n' :: rest => readWord .null ['u', 'l', 'l'] rest
  | 't' :: rest => readWord (.bool true) ['r', 'u', 'e'] rest
  | 'f' :: rest => readWord (.bool false) ['a', 'l', 's', 'e'] rest
  | '"' :: rest => (readQuoted rest).mapValue .string
  | '-' :: rest => readUnsigned true rest
  | c :: rest =>
    if isDigit c then readUnsigned false (c :: rest)
    else .error (.within .expectedValue (c :: rest))

/-- Reads what follows an item of an array, up to the closing bracket. -/
def readMoreItems {α : Type} (item : List Char → Reading α) :
    (limit : Nat) → List Char → Reading (List α)
  | 0, chars => .error (.before .endInList chars)
  | limit + 1, chars =>
    match skipBlanks chars with
    | [] => .error (.before .endInList [])
    | ']' :: rest => .ok ([], rest)
    | ',' :: rest =>
      match skipBlanks rest with
      | [] => .error (.before .endInValue [])
      | ']' :: rest => .error (.within .trailingComma (']' :: rest))
      | rest =>
        (item rest).andThen fun first behind =>
          (readMoreItems item limit behind).mapValue (first :: ·)
    | rest => .error (.within .expectedListEnd rest)

/-- Reads an array behind its opening bracket. -/
def readItems {α : Type} (item : List Char → Reading α) (chars : List Char) :
    Reading (List α) :=
  match skipBlanks chars with
  | [] => .error (.before .endInList [])
  | ']' :: rest => .ok ([], rest)
  | rest =>
    (item rest).andThen fun first behind =>
      (readMoreItems item (behind.length + 1) behind).mapValue (first :: ·)

/-- Reads a member behind the opening quote of its key. -/
def readMember (value : List Char → Reading Json) (chars : List Char) :
    Reading (String × Json) :=
  (readQuoted chars).andThen fun key behind =>
    match skipBlanks behind with
    | [] => .error (.before .endInObject [])
    | ':' :: rest => (value rest).mapValue (key, ·)
    | rest => .error (.within .expectedColon rest)

/-- Reads what follows a member of an object, up to the closing bracket. -/
def readMoreMembers (value : List Char → Reading Json) :
    (limit : Nat) → List Char → Reading (List (String × Json))
  | 0, chars => .error (.before .endInObject chars)
  | limit + 1, chars =>
    match skipBlanks chars with
    | [] => .error (.before .endInObject [])
    | '\x7d' :: rest => .ok ([], rest)
    | ',' :: rest =>
      match skipBlanks rest with
      | [] => .error (.before .endInValue [])
      | '"' :: rest =>
        (readMember value rest).andThen fun first behind =>
          (readMoreMembers value limit behind).mapValue (first :: ·)
      | '\x7d' :: rest => .error (.within .trailingComma ('\x7d' :: rest))
      | rest => .error (.within .keyNotText rest)
    | rest => .error (.within .expectedObjectEnd rest)

/-- Reads the members of an object behind its opening bracket. -/
def readMembers (value : List Char → Reading Json) (chars : List Char) :
    Reading (List (String × Json)) :=
  match skipBlanks chars with
  | [] => .error (.before .endInObject [])
  | '\x7d' :: rest => .ok ([], rest)
  | '"' :: rest =>
    (readMember value rest).andThen fun first behind =>
      (readMoreMembers value (behind.length + 1) behind).mapValue (first :: ·)
  | rest => .error (.within .keyNotText rest)

/-- The fault of characters at which a value of another kind than expected starts. -/
def wrongKindFault (expected : Expected) : List Char → Fault
  | '[' :: rest => .before (.wrongKind (.array []) expected) ('[' :: rest)
  | '\x7b' :: rest => .before (.wrongKind (.object []) expected) ('\x7b' :: rest)
  | chars =>
    match readScalar chars with
    | .error fault => fault
    | .ok (found, rest) => .before (.wrongKind found expected) rest

/-- Reads a whole text with a reader; only blanks may follow. -/
def readAll {α : Type} (reader : List Char → Reading α) (text : String) : Except ReadError α :=
  let chars := text.toList
  match reader chars with
  | .error fault => .error (fault.locate chars)
  | .ok (value, rest) =>
    match skipBlanks rest with
    | [] => .ok value
    | rest => .error ((Fault.within .trailingCharacters rest).locate chars)

/-! ## Embedded texts -/

/-- The key under which the text of an embedded value stands. -/
def embeddedKey : String := "$serde_json::private::RawValue"

/-- The characters behind the first key of an object, if that is `embeddedKey`. -/
def behindEmbeddedKey? (chars : List Char) : Option (List Char) :=
  match skipBlanks chars with
  | '"' :: rest =>
    match readQuoted rest with
    | .ok (key, behind) => if key = embeddedKey then some behind else none
    | .error _ => none
  | _ => none

/-- Reads the text of an embedded value. -/
def readEmbeddedText (chars : List Char) : Reading String :=
  match skipBlanks chars with
  | '"' :: rest => readQuoted rest
  | rest => .error (wrongKindFault .embeddedText rest)

/-- Reads an embedded value behind its key, up to the closing bracket. -/
def readEmbedded (parseText : String → Except ReadError Json) (chars : List Char) :
    Reading Json :=
  match skipBlanks chars with
  | [] => .error (.before .endInObject [])
  | ':' :: rest =>
    (readEmbeddedText rest).andThen fun text behind =>
      match parseText text with
      | .error error => .error (.ofEmbedded error)
      | .ok value =>
        match skipBlanks behind with
        | [] => .error (.before .endInObject [])
        | '\x7d' :: rest => .ok (value, rest)
        | ',' :: rest => .error (.within .trailingComma (',' :: rest))
        | rest => .error (.within .trailingCharacters rest)
  | rest => .error (.within .expectedColon rest)

/-! ## Values with brackets -/

/-- Reads a value within which at most `depth` more brackets may stand open; `parseText` reads
embedded texts. -/
def readValueWith (parseText : String → Except ReadError Json) :
    (depth : Nat) → List Char → Reading Json
  | 0, chars =>
    match skipBlanks chars with
    | '[' :: rest => .error (.within .tooDeep ('[' :: rest))
    | '\x7b' :: rest => .error (.within .tooDeep ('\x7b' :: rest))
    | rest => readScalar rest
  | depth + 1, chars =>
    match skipBlanks chars with
    | '[' :: rest => (readItems (readValueWith parseText depth) rest).mapValue .array
    | '\x7b' :: rest =>
      match behindEmbeddedKey? rest with
      | some behind => readEmbedded parseText behind
      | none =>
        (readMembers (readValueWith parseText depth) rest).mapValue
          fun members => .object (sortMembers members)
    | rest => readScalar rest

/-- How many brackets may stand open. -/
def maxDepth : Nat := 127

/-- The value that a text denotes; `limit` bounds the length of the text, and with it how often
texts are embedded in one another. -/
def parseWithin : (limit : Nat) → String → Except ReadError Json
  | 0, text => readAll readScalar text
  | limit + 1, text => readAll (readValueWith (parseWithin limit) maxDepth) text

/-- Reads a value within which at most `depth` more brackets may stand open. -/
def readValue (depth : Nat) (chars : List Char) : Reading Json :=
  readValueWith (parseWithin chars.length) depth chars

/-- Reads a text. -/
def readText (chars : List Char) : Reading String :=
  match skipBlanks chars with
  | '"' :: rest => readQuoted rest
  | rest => .error (wrongKindFault .text rest)

/-- Reads an array of texts. -/
def readTexts (chars : List Char) : Reading (List String) :=
  match skipBlanks chars with
  | '[' :: rest => readItems readText rest
  | rest => .error (wrongKindFault .sequence rest)

/-- Reads the members of an object, sorted by their keys. -/
def readObject (chars : List Char) : Reading (List (String × Json)) :=
  match skipBlanks chars with
  | '\x7b' :: rest =>
    (readMembers (readValueWith (parseWithin rest.length) (maxDepth - 1)) rest).mapValue sortMembers
  | rest => .error (wrongKindFault .map rest)

/-- The value that a text denotes. -/
def parse (text : String) : Except ReadError Json := readAll (readValue maxDepth) text

/-- The list of texts that a text denotes. -/
def parseTexts (text : String) : Except ReadError (List String) := readAll readTexts text

/-- The members, sorted by their keys, of the object that a text denotes. -/
def parseObject (text : String) : Except ReadError (List (String × Json)) :=
  readAll readObject text

end ExecutorRegistration.Json
