import ExecutorRegistration.Text.Basic

/-!
# Names of types

A type is named by a stem and any number of array suffixes, `[]` for a list of any length and
`[k]` for one of exactly `k` items. A stem is an identifier, two identifiers with a dot between
them, or a tuple of types in parentheses. The elementary types resolve to a `ValueType`, in which
`uint` and `int` have their full 256 bits; a stem with a dot names an enumeration, whose values
have 8 bits.
-/

namespace ExecutorRegistration.TypedData

/-- What stands before the suffixes of a type name. -/
inductive Stem where
  /-- An identifier. -/
  | identifier
  /-- An identifier, a dot and perhaps another identifier. -/
  | dotted
  /-- A tuple of types. -/
  | tuple
deriving DecidableEq, Repr

/-- A type name taken apart. -/
structure TypeName where
  /-- The text before the first bracket. -/
  root : String
  /-- What stands before the suffixes. -/
  stem : Stem
  /-- The array suffixes as written, each with its length if it has one. -/
  sizes : List (Option Nat)
deriving DecidableEq, Repr

/-- Whether an identifier may start with a character. -/
def isNameStart (c : Char) : Bool :=
  ('A' ≤ c && c ≤ 'Z') || ('a' ≤ c && c ≤ 'z') || c = '$' || c = '_'

/-- Whether a character may stand within an identifier. -/
def isNamePart (c : Char) : Bool := isNameStart c || ('0' ≤ c && c ≤ '9') || c = ':'

/-- The characters behind an identifier. -/
def behindIdentifier? : List Char → Option (List Char)
  | [] => none
  | first :: rest => if isNameStart first then some (rest.dropWhile isNamePart) else none

/-- Reads a stem that is no tuple. -/
def readWords? (chars : List Char) : Option (Stem × List Char) :=
  match behindIdentifier? chars with
  | none => none
  | some ('.' :: rest) => some (.dotted, (behindIdentifier? rest).getD rest)
  | some rest => some (.identifier, rest)

/-- Reads array suffixes; `inside` is the length read so far of the suffix that is open. A length
is at least one and fits in 64 bits. -/
def readSizes? : (inside : Option (Option Nat)) → List Char →
    Option (List (Option Nat) × List Char)
  | none, '[' :: rest => readSizes? (some none) rest
  | none, rest => some ([], rest)
  | some _, [] => none
  | some size, c :: rest =>
    if c = ']' then
      if size = some 0 then none
      else (readSizes? none rest).map fun (sizes, behind) => (size :: sizes, behind)
    else
      match Text.decimalDigit? c with
      | none => none
      | some digit =>
        let value := 10 * size.getD 0 + digit
        if value < UInt64.size then readSizes? (some (some value)) rest else none

/-- The characters behind spaces and tabs. -/
def skipSpaces (chars : List Char) : List Char := chars.dropWhile fun c => c = ' ' || c = '\t'

/-- The characters behind the items of a tuple and its closing parenthesis; `limit` bounds the
number of items. A comma may stand behind the last one. -/
def behindItems? (behindItem? : List Char → Option (List Char)) :
    (limit : Nat) → List Char → Option (List Char)
  | 0, _ => none
  | limit + 1, chars =>
    match skipSpaces chars with
    | ')' :: rest => some rest
    | start =>
      match behindItem? start with
      | none => none
      | some (',' :: rest) => behindItems? behindItem? limit rest
      | some rest =>
        match skipSpaces rest with
        | ')' :: rest => some rest
        | _ => none

/-- The characters behind the opening parenthesis of a tuple. -/
def tupleStart? : List Char → Option (List Char)
  | '(' :: rest => some rest
  | 't' :: 'u' :: 'p' :: 'l' :: 'e' :: '(' :: rest => some rest
  | _ => none

/-- Reads a stem and suffixes; within the stem at most `depth` parentheses may stand open. -/
def readType? : (depth : Nat) → List Char → Option (Stem × List (Option Nat) × List Char)
  | depth, chars =>
    let stem : Option (Stem × List Char) :=
      match tupleStart? chars, depth with
      | none, _ => readWords? chars
      | some _, 0 => none
      | some rest, depth + 1 =>
        (behindItems? (fun item => (readType? depth item).map fun (_, _, behind) => behind)
          (rest.length + 1) rest).map fun behind => (Stem.tuple, behind)
    stem.bind fun (stem, rest) =>
      (readSizes? none rest).map fun (sizes, behind) => (stem, sizes, behind)

/-- How many parentheses may stand open. -/
def maxTupleDepth : Nat := 15

/-- Takes a type name apart, if it is well formed. -/
def TypeName.parse? (text : String) : Option TypeName :=
  match readType? maxTupleDepth text.toList with
  | some (stem, sizes, []) => some ⟨String.ofList (text.toList.takeWhile (· ≠ '[')), stem, sizes⟩
  | _ => none

/-- The type of a value that can be hashed without naming another type. -/
inductive ValueType where
  /-- An account address. -/
  | address
  /-- A truth value. -/
  | bool
  /-- A text. -/
  | string
  /-- Octets of any number. -/
  | bytes
  /-- An address and a selector, twenty-four octets. -/
  | function
  /-- A natural number below `2 ^ bits`. -/
  | uint (bits : Nat)
  /-- An integer of `bits` bits in two's complement. -/
  | int (bits : Nat)
  /-- Exactly `size` octets. -/
  | fixedBytes (size : Nat)
  /-- A list of any length. -/
  | list (item : ValueType)
  /-- A list of exactly `length` items. -/
  | fixedList (item : ValueType) (length : Nat)
deriving DecidableEq, Repr

/-- The name of a type, with the bits of numbers always written. -/
def ValueType.name : ValueType → String
  | address => "address"
  | bool => "bool"
  | string => "string"
  | bytes => "bytes"
  | function => "function"
  | uint bits => "uint" ++ Text.decimal bits
  | int bits => "int" ++ Text.decimal bits
  | fixedBytes size => "bytes" ++ Text.decimal size
  | list item => item.name ++ "[]"
  | fixedList item length => item.name ++ "[" ++ Text.decimal length ++ "]"

/-- The number behind a word in an identifier. -/
def numberBehind? (word : String) (identifier : String) : Option Nat :=
  let digits := identifier.toList.drop word.length
  if word.toList.isPrefixOf identifier.toList ∧ digits ≠ [] then
    digits.foldlM (fun value c => (Text.decimalDigit? c).map (10 * value + ·)) 0
  else none

/-- The number of bits behind a word, a multiple of eight up to 256. -/
def bitsBehind? (word identifier : String) : Option Nat :=
  (numberBehind? word identifier).filter fun bits => 0 < bits && bits ≤ 256 && bits % 8 = 0

/-- The elementary type with a name. -/
def elementary? (identifier : String) : Option ValueType :=
  if identifier = "address" then some .address
  else if identifier = "bool" then some .bool
  else if identifier = "string" then some .string
  else if identifier = "bytes" then some .bytes
  else if identifier = "function" then some .function
  else if identifier = "uint" then some (.uint 256)
  else if identifier = "int" then some (.int 256)
  else
    ((bitsBehind? "uint" identifier).map ValueType.uint).orElse fun _ =>
    ((bitsBehind? "int" identifier).map ValueType.int).orElse fun _ =>
    ((numberBehind? "bytes" identifier).filter fun size => 0 < size && size ≤ 32).map
      ValueType.fixedBytes

/-- A type with an array suffix. -/
def ValueType.suffixed (type : ValueType) : Option Nat → ValueType
  | none => type.list
  | some length => type.fixedList length

/-- The elementary type that the stem of a type name stands for. -/
def TypeName.element? (name : TypeName) : Option ValueType :=
  match name.stem with
  | .identifier => elementary? name.root
  | .dotted => some (.uint 8)
  | .tuple => none

/-- The type with a name, if its stem is elementary. -/
def TypeName.valueType? (name : TypeName) : Option ValueType :=
  name.element?.map fun type => name.sizes.foldl ValueType.suffixed type

end ExecutorRegistration.TypedData
