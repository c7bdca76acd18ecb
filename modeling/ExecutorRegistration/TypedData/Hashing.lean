import ExecutorRegistration.Json.Embedded
import ExecutorRegistration.Json.Printer
import ExecutorRegistration.Keccak
import ExecutorRegistration.Text.Quoted
import ExecutorRegistration.TypedData.Coercion
import ExecutorRegistration.TypedData.Schema

/-!
# Digests of typed data

The digest that is signed is the Keccak-256 digest of `0x19 0x01`, the domain separator and the
hash of the message. A message is hashed as the digest of its type text followed by one word per
field: scalar values as they are, texts and octets as their digest, lists as the digest of the
words of their items.

`signingDigest` puts embedded values in place, resolves the type names of a schema, coerces the
values, and hashes them; its faults are tested in that order.
-/

namespace ExecutorRegistration.TypedData

/-- Why typed data cannot be hashed. -/
inductive EncodingFault where
  /-- A type name is not well formed. -/
  | malformedType
  /-- An embedded value cannot be read. -/
  | malformedValue
  /-- A type is neither elementary nor the primary type. -/
  | missingType (name : String)
  /-- The primary type contains itself. -/
  | circularType (name : String)
  /-- A value does not fit its type. -/
  | mismatch (mismatch : Mismatch)
  /-- The primary type is an elementary type whose values are words. -/
  | scalarPrimaryType
deriving Repr

/-- The wording of a fault. -/
def EncodingFault.message : EncodingFault → String
  | malformedType => "data did not match any variant of untagged enum StrOrVal"
  | malformedValue => "data did not match any variant of untagged enum StrOrVal"
  | missingType name => "missing type in type resolution: " ++ name
  | circularType name => "circular dependency: " ++ name
  | mismatch ⟨wanted, found⟩ =>
    "type mismatch: expected type " ++ Text.quote wanted.name ++ ", got value with type " ++
      Text.quote found.compact
  | scalarPrimaryType => "EIP-712 primary type must be a struct"

mutual

/-- The word by which a value enters the hash of what contains it. -/
def TypedValue.hashWord : TypedValue → Word
  | .word value => value
  | .octets content => keccak256 content
  | .items values => keccak256 (hashWords values)

/-- The words of values one after the other. -/
def hashWords : List TypedValue → List UInt8
  | [] => []
  | value :: rest => value.hashWord.toList ++ hashWords rest

end

/-- The text of the domain type. -/
def Domain.encodeType (domain : Domain) : String :=
  match domain.verifyingContract with
  | none => "EIP712Domain(uint256 chainId)"
  | some _ => "EIP712Domain(uint256 chainId,address verifyingContract)"

/-- The words of the domain's fields. -/
def Domain.fieldWords (domain : Domain) : List UInt8 :=
  (Word.ofNat domain.chainId.toNat).toList ++
    match domain.verifyingContract with
    | none => []
    | some contract => (Word.padStart contract).toList

/-- The hash of a domain. -/
def Domain.separator (domain : Domain) : Digest :=
  keccak256 ((keccakText domain.encodeType).toList ++ domain.fieldWords)

/-- What a schema describes once its type names are resolved. -/
inductive Shape where
  /-- The domain itself, with no message. -/
  | domainOnly
  /-- An object with fields. -/
  | object (fields : List (String × ValueType))
  /-- A single value. -/
  | single (type : ValueType)
deriving DecidableEq, Repr

/-- Takes the type name of a field apart. -/
def nameField (field : Field) : Except EncodingFault (Field × TypeName) :=
  match TypeName.parse? field.type with
  | some name => .ok (field, name)
  | none => .error .malformedType

/-- The resolved type of a field with a name that is taken apart; there is none if the field has
the primary type. -/
def resolveField (primaryType : String) (field : Field × TypeName) :
    Except EncodingFault (String × Option ValueType) :=
  match field.2.valueType? with
  | some type => .ok (field.1.name, if field.2.root = primaryType then none else some type)
  | none =>
    if field.2.root = primaryType then .ok (field.1.name, none)
    else .error (.missingType field.2.root)

/-- The fields, if none of them has the primary type. -/
def acyclicFields (primaryType : String) (fields : List (String × Option ValueType)) :
    Except EncodingFault (List (String × ValueType)) :=
  fields.mapM fun (name, type) =>
    match type with
    | some type => .ok (name, type)
    | none => .error (.circularType primaryType)

/-- Resolves the type names of a schema: all of them are well formed, each is known, and none of
the fields has the primary type. -/
def Schema.resolve (schema : Schema) : Except EncodingFault Shape := do
  let primary ← match TypeName.parse? schema.primaryType with
    | some name => .ok name
    | none => .error .malformedType
  let named ← schema.fields.mapM nameField
  if schema.primaryType = "EIP712Domain" then
    .ok .domainOnly
  else if primary.sizes ≠ [] ∨ primary.stem = .tuple then
    .error (.missingType schema.primaryType)
  else
    let resolved ← named.mapM (resolveField schema.primaryType)
    let fields ← acyclicFields schema.primaryType resolved
    match primary.element? with
    | some type => .ok (.single type)
    | none => .ok (.object fields)

/-- The encoded message of a shape: the words of its fields, or the octets of a single value. -/
def Shape.encode (shape : Shape) (values : Json) : Except EncodingFault (List UInt8) :=
  match shape with
  | .domainOnly => .ok []
  | .object fields => ((coerceObject fields values).map hashWords).mapError .mismatch
  | .single type =>
    match coerce type values with
    | .error mismatch => .error (.mismatch mismatch)
    | .ok (.octets content) => .ok content
    | .ok _ => .error .scalarPrimaryType

/-- The hash of a message with an encoding. -/
def Schema.messageHash (schema : Schema) (encoding : List UInt8) : Digest :=
  keccak256 ((keccakText schema.encodeType).toList ++ encoding)

/-- The octets whose digest is signed: of the domain alone, or of the domain and a message. -/
def signingInput (domain : Domain) (message : List UInt8) : List UInt8 :=
  0x19 :: 0x01 :: (domain.separator.toList ++ message)

/-- The digest that is signed for values of a schema under a domain. -/
def signingDigest (domain : Domain) (schema : Schema) (values : Json) :
    Except EncodingFault Digest := do
  let values ← match values.resolveEmbedded? with
    | some values => .ok values
    | none => .error .malformedValue
  let shape ← schema.resolve
  let encoding ← shape.encode values
  let message := if shape = .domainOnly then [] else (schema.messageHash encoding).toList
  .ok (keccak256 (signingInput domain message))

end ExecutorRegistration.TypedData
