import ExecutorRegistration.Address
import ExecutorRegistration.Json.Basic
import ExecutorRegistration.TypedData.TypeName

/-!
# Typed values in JSON

A JSON value stands for a value of a type: numbers as integers or texts, octets as hexadecimal
texts, addresses as texts, lists as arrays. A value of a scalar type is a word; a text or octets
of any number are kept as octets, and lists as their items.
-/

namespace ExecutorRegistration.TypedData

/-- A value in the form in which it is hashed. -/
inductive TypedValue where
  /-- A scalar value as a word. -/
  | word (value : Word)
  /-- The octets of a text, or octets of any number. -/
  | octets (content : List UInt8)
  /-- The items of a list. -/
  | items (values : List TypedValue)
deriving Repr

/-- What was asked for where a value does not fit. -/
inductive Wanted where
  /-- A value of a type. -/
  | value (type : ValueType)
  /-- An object with fields of the given types. -/
  | fields (types : List ValueType)
deriving DecidableEq, Repr

/-- The name of what was asked for; a single field has a comma behind it. -/
def Wanted.name : Wanted → String
  | value type => type.name
  | fields [type] => "(" ++ type.name ++ ",)"
  | fields types => "(" ++ ",".intercalate (types.map ValueType.name) ++ ")"

/-- A value that does not fit. -/
structure Mismatch where
  /-- What was asked for. -/
  wanted : Wanted
  /-- The value that was found. -/
  found : Json
deriving Repr

/-- The digits behind a mark for the base, and the base. -/
def baseOf : List Char → Nat × List Char
  | '0' :: 'x' :: digits => (16, digits)
  | '0' :: 'X' :: digits => (16, digits)
  | '0' :: 'o' :: digits => (8, digits)
  | '0' :: 'O' :: digits => (8, digits)
  | '0' :: 'b' :: digits => (2, digits)
  | '0' :: 'B' :: digits => (2, digits)
  | digits => (10, digits)

/-- The value of digits in a base; underscores between them do not count. -/
def digitsValue? (base : Nat) (digits : List Char) : Option Nat :=
  (digits.filter (· ≠ '_')).foldlM
    (fun value c => do
      let digit ← Hex.digitValue? c
      if digit < base then some (base * value + digit) else none)
    0

/-- The natural number that a text denotes. -/
def natural? (text : List Char) : Option Nat :=
  let (base, digits) := baseOf text
  digitsValue? base digits

/-- The integer that a text with an optional sign denotes. -/
def signed? : List Char → Option Int
  | '-' :: text => (natural? text).map fun value => -(value : Int)
  | '+' :: text => (natural? text).map fun value => (value : Int)
  | text => (natural? text).map fun value => (value : Int)

/-- The integer that a value denotes, a text being read with the given reader. -/
def number? (ofText : List Char → Option Int) : Json → Option Int
  | .integer value => some value
  | .string text => ofText text.toList
  | _ => none

/-- Whether an integer has `bits` bits without a sign. -/
def fitsUnsigned (bits : Nat) : Int → Bool
  | .ofNat value => value < Nat.pow 2 bits
  | .negSucc _ => false

/-- Whether an integer has `bits` bits in two's complement. -/
def fitsSigned (bits : Nat) : Int → Bool
  | .ofNat value => value < Nat.pow 2 (bits - 1)
  | .negSucc value => value < Nat.pow 2 (bits - 1)

/-- The octets that a hexadecimal text or an array of integers denotes. -/
def octets? : Json → Option (List UInt8)
  | .string text => Hex.decode? text
  | .array items =>
    items.mapM fun
      | .integer value =>
        if fitsUnsigned 8 value then some (UInt8.ofNat value.toNat) else none
      | _ => none
  | _ => none

/-- Exactly `size` octets from a hexadecimal text. -/
def fixedOctets? (size : Nat) : Json → Option (List UInt8)
  | .string text => (Hex.decode? text).filter fun octets => octets.length = size
  | _ => none

/-- The truth value that a value denotes. -/
def truth? : Json → Option Bool
  | .bool value => some value
  | .string text =>
    if text = "true" then some true else if text = "false" then some false else none
  | _ => none

/-- The word of an integer in two's complement. -/
def integerWord (value : Int) : Word := Word.ofNat (value % Word.size).toNat

/-- The value of a type other than a list that a JSON value stands for. -/
def scalar? (type : ValueType) (json : Json) : Option TypedValue :=
  match type with
  | .address =>
    match json with
    | .string text => (Address.ofText? text).map fun address => .word (Word.padStart address)
    | _ => none
  | .bool => (truth? json).map fun value => .word (Word.ofNat value.toNat)
  | .string =>
    match json with
    | .string text => some (.octets text.toUTF8.toList)
    | _ => none
  | .bytes => (octets? json).map .octets
  | .function => (fixedOctets? 24 json).map fun octets => .word (Word.padEnd octets)
  | .uint bits =>
    ((number? (fun text => (natural? text).map Int.ofNat) json).filter (fitsUnsigned bits)).map
      fun value => .word (integerWord value)
  | .int bits =>
    ((number? signed? json).filter (fitsSigned bits)).map fun value => .word (integerWord value)
  | .fixedBytes size => (fixedOctets? size json).map fun octets => .word (Word.padEnd octets)
  | .list _ => none
  | .fixedList _ _ => none

/-- The value of a type that a JSON value stands for. -/
def coerce : ValueType → Json → Except Mismatch TypedValue
  | .list item, .array items => (items.mapM (coerce item)).map .items
  | .fixedList item length, .array items =>
    if items.length = length then (items.mapM (coerce item)).map .items
    else .error ⟨.value (.fixedList item length), .array items⟩
  | type, json =>
    match scalar? type json with
    | some value => .ok value
    | none => .error ⟨.value type, json⟩

/-- The values of fields from an object, in the order of the fields. -/
def coerceFields (fields : List (String × ValueType)) (json : Json) :
    Except Mismatch (List TypedValue) :=
  fields.mapM fun (name, type) =>
    match json.field? name with
    | some value => coerce type value
    | none => .error ⟨.fields (fields.map Prod.snd), json⟩

/-- The values of fields from a JSON value, which has to be an object. -/
def coerceObject (fields : List (String × ValueType)) : Json → Except Mismatch (List TypedValue)
  | .object members => coerceFields fields (.object members)
  | json => .error ⟨.fields (fields.map Prod.snd), json⟩

end ExecutorRegistration.TypedData
