import ExecutorRegistration.Proofs.Octets
import ExecutorRegistration.TypedData.Hashing

/-!
# Digests of coerced values

Once the values of a message are coerced, the digest that is signed is a formula in Keccak-256.
This file isolates that formula, lists the strings that it hashes, and shows that without a
collision among them it is injective in the domain, in the text of the type, and in the words of
the values.
-/

namespace ExecutorRegistration.TypedData

/-! ## The digest as a formula -/

/-- The digest that is signed for coerced values. -/
def structDigest (domain : Domain) (schema : Schema) (values : List TypedValue) : Digest :=
  keccak256 (signingInput domain (schema.messageHash (hashWords values)).toList)

/-- The coerced values of the fields of a schema, if the schema describes an object. -/
def fieldValues? (schema : Schema) (values : Json) : Option (List TypedValue) :=
  match values.resolveEmbedded?, schema.resolve with
  | some values, .ok (.object fields) => (coerceObject fields values).toOption
  | _, _ => none

/-- For a schema that describes an object a digest is signed if the values can be coerced. -/
theorem signingDigest_eq_ok_iff {schema : Schema} {fields : List (String × ValueType)}
    (resolved : schema.resolve = .ok (.object fields)) (domain : Domain) (values : Json)
    (digest : Digest) :
    signingDigest domain schema values = .ok digest ↔
      ∃ coerced, fieldValues? schema values = some coerced ∧
        digest = structDigest domain schema coerced := by
  unfold signingDigest fieldValues?
  rw [resolved]
  cases values.resolveEmbedded? with
  | none => simp [bind, Except.bind]
  | some values =>
      simp only [Shape.encode, bind, Except.bind]
      cases coerceObject fields values with
      | error mismatch => simp [Except.map, Except.mapError, Except.toOption]
      | ok coerced => simp [Except.map, Except.mapError, Except.toOption, structDigest, eq_comm]

theorem hashWords_eq (values : List TypedValue) :
    hashWords values = concatWords (values.map TypedValue.hashWord) := by
  induction values with
  | nil => rfl
  | cons value values ih => rw [hashWords, ih, List.map_cons, concatWords_cons]

/-! ## The strings that are hashed -/

mutual

/-- The strings that are hashed for the word of a value. -/
def TypedValue.hashInputs : TypedValue → List (List UInt8)
  | .word _ => []
  | .octets content => [content]
  | .items values => valueInputs values ++ [hashWords values]

/-- The strings that are hashed for the words of values. -/
def valueInputs : List TypedValue → List (List UInt8)
  | [] => []
  | value :: rest => value.hashInputs ++ valueInputs rest

end

/-- The strings that are hashed for the separator of a domain. -/
def Domain.hashInputs (domain : Domain) : List (List UInt8) :=
  [domain.encodeType.toUTF8.toList, (keccakText domain.encodeType).toList ++ domain.fieldWords]

/-- The strings that are hashed for the digest of coerced values. -/
def structInputs (domain : Domain) (schema : Schema) (values : List TypedValue) :
    List (List UInt8) :=
  domain.hashInputs ++ valueInputs values ++
    [schema.encodeType.toUTF8.toList,
     (keccakText schema.encodeType).toList ++ hashWords values,
     signingInput domain (schema.messageHash (hashWords values)).toList]

/-- No two different strings among the given ones have the same digest. -/
def CollisionFree (inputs : List (List UInt8)) : Prop :=
  ∀ left ∈ inputs, ∀ right ∈ inputs, keccak256 left = keccak256 right → left = right

theorem CollisionFree.mono {few many : List (List UInt8)} (free : CollisionFree many)
    (subset : few ⊆ many) : CollisionFree few :=
  fun left leftMember right rightMember =>
    free left (subset leftMember) right (subset rightMember)

/-! ## Injectivity -/

theorem Domain.fieldWords_injective {left right : Domain}
    (words : left.fieldWords = right.fieldWords) : left = right := by
  obtain ⟨leftChain, leftContract⟩ := left
  obtain ⟨rightChain, rightContract⟩ := right
  have sizes : (Word.ofNat leftChain.toNat).toList.length =
      (Word.ofNat rightChain.toNat).toList.length := by
    rw [Octets.length_toList, Octets.length_toList]
  obtain ⟨chains, contracts⟩ := List.append_inj words sizes
  have chain_eq := Word.ofNat_uint64_injective (Octets.ext chains)
  subst chain_eq
  cases leftContract with
  | none =>
      cases rightContract with
      | none => rfl
      | some contract =>
          have lengths := congrArg List.length contracts
          simp [Octets.length_toList] at lengths
  | some leftAddress =>
      cases rightContract with
      | none =>
          have lengths := congrArg List.length contracts
          simp [Octets.length_toList] at lengths
      | some rightAddress =>
          rw [Word.padStart_injective (Octets.ext contracts)]

/-- The digest binds the domain, the text of the type and the words of the values. -/
theorem structDigest_injective {leftDomain rightDomain : Domain} {leftSchema rightSchema : Schema}
    {leftValues rightValues : List TypedValue}
    (free : CollisionFree (structInputs leftDomain leftSchema leftValues ++
      structInputs rightDomain rightSchema rightValues))
    (digests : structDigest leftDomain leftSchema leftValues =
      structDigest rightDomain rightSchema rightValues) :
    leftDomain = rightDomain ∧ leftSchema.encodeType = rightSchema.encodeType ∧
      leftValues.map TypedValue.hashWord = rightValues.map TypedValue.hashWord := by
  have inputs := free _ (by simp [structInputs]) _ (by simp [structInputs]) digests
  simp only [signingInput, List.cons.injEq, true_and] at inputs
  obtain ⟨separators, messages⟩ := List.append_inj inputs
    (by rw [Octets.length_toList, Octets.length_toList])
  -- The separators are equal, and with them the domains.
  have domainInputs := free _ (by simp [structInputs, Domain.hashInputs]) _
    (by simp [structInputs, Domain.hashInputs]) (Octets.ext separators)
  have domains := Domain.fieldWords_injective
    (List.append_inj domainInputs (by rw [Octets.length_toList, Octets.length_toList])).2
  -- The hashes of the messages are equal, and with them the types and the words.
  have messageInputs := free _ (by simp [structInputs]) _ (by simp [structInputs])
    (Octets.ext messages)
  obtain ⟨types, words⟩ := List.append_inj messageInputs
    (by rw [Octets.length_toList, Octets.length_toList])
  have typeInputs := free _ (by simp [structInputs]) _ (by simp [structInputs])
    (Octets.ext types)
  rw [hashWords_eq, hashWords_eq] at words
  exact ⟨domains, Text.eq_of_octets_eq typeInputs, concatWords_injective words⟩

end ExecutorRegistration.TypedData
