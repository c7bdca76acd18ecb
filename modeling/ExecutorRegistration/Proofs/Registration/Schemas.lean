import ExecutorRegistration.Proofs.Keccak
import ExecutorRegistration.Proofs.Registration.Binding
import ExecutorRegistration.Proofs.TypedData.SchemaDigest
import ExecutorRegistration.Proofs.TypedData.TypeTexts

/-!
# Digests under different schemas

The text of a type can be read back, so that without a collision a digest binds the schema under
which it is signed: the name of the primary type, and the names, types and order of the fields.
The order of the fields decides over the digest, but not over whether there is one.
-/

namespace ExecutorRegistration

namespace TypedData

theorem Schema.IsMessage.withFields {schema : Schema} (isMessage : schema.IsMessage)
    (fields : List Field) : Schema.IsMessage { schema with fields } where
  isIdentifier := isMessage.isIdentifier
  isNoElementary := isMessage.isNoElementary
  isNoDomain := isMessage.isNoDomain

theorem Schema.IsMessage.signingDigest_isOk_iff {schema : Schema} (isMessage : schema.IsMessage)
    (domain : Domain) (values : Json) :
    (∃ digest, signingDigest domain schema values = .ok digest) ↔
      ∃ members, values.resolveEmbedded? = some (.object members) ∧
        ∀ field ∈ schema.fields, ∃ word, field.Encodes members word := by
  simp only [isMessage.signingDigest_eq_ok_iff, ← exists_forall₂_iff]
  constructor
  · rintro ⟨_, members, words, embeds, areEncoded, -⟩
    exact ⟨members, embeds, words, areEncoded⟩
  · rintro ⟨members, embeds, words, areEncoded⟩
    exact ⟨_, members, words, embeds, areEncoded, rfl⟩

/-- The order of the fields does not decide over whether a digest is signed. -/
theorem Schema.IsMessage.signingDigest_isOk_iff_of_perm {left right : Schema}
    (isLeft : left.IsMessage) (isRight : right.IsMessage)
    (reordered : left.fields.Perm right.fields) (domain : Domain) (values : Json) :
    (∃ digest, signingDigest domain left values = .ok digest) ↔
      ∃ digest, signingDigest domain right values = .ok digest := by
  simp only [isLeft.signingDigest_isOk_iff, isRight.signingDigest_isOk_iff, reordered.mem_iff]

/-- A schema under which a digest is signed can be read from the text of its type, if no name of a
field holds a comma. -/
theorem Schema.IsMessage.isSeparable {schema : Schema} (isMessage : schema.IsMessage)
    (noComma : ∀ field ∈ schema.fields, ',' ∉ field.name.toList) {domain : Domain} {values : Json}
    {digest : Digest} (signed : signingDigest domain schema values = .ok digest) :
    ∀ field ∈ schema.fields, field.IsSeparable := by
  intro field member
  obtain ⟨members, -, areEncoded⟩ :=
    (isMessage.signingDigest_isOk_iff domain values).mp ⟨digest, signed⟩
  obtain ⟨word, type, found, isName, -⟩ := areEncoded field member
  exact .of_namesType isName (noComma field member)

/-- Without a collision a schema is determined by the digest that is signed under it. -/
theorem Schema.IsMessage.eq_of_signingDigest {left right : Schema} (isLeft : left.IsMessage)
    (isRight : right.IsMessage) (noCommaLeft : ∀ field ∈ left.fields, ',' ∉ field.name.toList)
    (noCommaRight : ∀ field ∈ right.fields, ',' ∉ field.name.toList) {domain : Domain}
    {values : Json} {digest : Digest} (signedLeft : signingDigest domain left values = .ok digest)
    (signedRight : signingDigest domain right values = .ok digest)
    (free : CollisionFree ((HashQuery.mk domain left values).hashInputs ++
      (HashQuery.mk domain right values).hashInputs)) : left = right := by
  obtain ⟨leftValues, leftCoerced, leftDigest⟩ :=
    (isLeft.signingDigest_eq_ok_iff_values domain values digest).mp signedLeft
  obtain ⟨rightValues, rightCoerced, rightDigest⟩ :=
    (isRight.signingDigest_eq_ok_iff_values domain values digest).mp signedRight
  rw [HashQuery.hashInputs_of_values leftCoerced, HashQuery.hashInputs_of_values rightCoerced]
    at free
  obtain ⟨-, texts, -⟩ := structDigest_injective free (leftDigest.symm.trans rightDigest)
  exact encodeType_injective (isLeft.isIdentifier.not_mem rfl) (isRight.isIdentifier.not_mem rfl)
    (isLeft.isSeparable noCommaLeft signedLeft) (isRight.isSeparable noCommaRight signedRight) texts

end TypedData

open TypedData

theorem noComma_registerExecutor :
    ∀ field ∈ Schema.registerExecutor.fields, ',' ∉ field.name.toList := by
  decide

/-- Two schemas never have the same digest for the same domain and values, unless two different
strings among those that are hashed for the digests collide. In particular the digest of a
registration is signed under no other order of the fields, although there is a digest for each
order. -/
theorem digests_bind_schema :
    (∀ (domain : Domain) (values : Json) (left right : Schema),
      left.IsMessage → right.IsMessage →
      (∀ field ∈ left.fields, ',' ∉ field.name.toList) →
      (∀ field ∈ right.fields, ',' ∉ field.name.toList) → left ≠ right →
      ∀ leftDigest rightDigest : Digest,
        typedDataHasher ⟨domain, left, values⟩ = .ok leftDigest →
        typedDataHasher ⟨domain, right, values⟩ = .ok rightDigest →
        CollisionFree ((HashQuery.mk domain left values).hashInputs ++
          (HashQuery.mk domain right values).hashInputs) → leftDigest ≠ rightDigest) ∧
    ∀ (config : ExecutorConfig) (fields : List Field),
      fields.Perm Schema.registerExecutor.fields →
      ((∃ digest, executorDigestWithSchema config { Schema.registerExecutor with fields } =
          .ok digest) ↔ ∃ digest, executorDigest config = .ok digest) ∧
      (fields ≠ Schema.registerExecutor.fields → ∀ digest, executorDigest config = .ok digest →
        CollisionFree (config.hashInputs ++
          (config.query { Schema.registerExecutor with fields }).hashInputs) →
        executorDigestWithSchema config { Schema.registerExecutor with fields } ≠ .ok digest) := by
  constructor
  · intro domain values left right isLeft isRight noCommaLeft noCommaRight different leftDigest
      rightDigest leftSigned rightSigned free same
    rw [← same] at rightSigned
    rw [typedDataHasher_eq_ok_iff] at leftSigned rightSigned
    exact different
      (isLeft.eq_of_signingDigest isRight noCommaLeft noCommaRight leftSigned rightSigned free)
  · intro config fields reordered
    have isMessage := isMessage_registerExecutor.withFields fields
    have noComma : ∀ field ∈ fields, ',' ∉ field.name.toList :=
      fun field member => noComma_registerExecutor field (reordered.mem_iff.mp member)
    have asked (schema : Schema) (digest : Digest) :
        executorDigestWithSchema config schema = .ok digest ↔
          signingDigest (.chain config.chainId) schema config.message.sorted = .ok digest :=
      typedDataHasher_eq_ok_iff (config.query schema) digest
    simp only [executorDigest, asked]
    refine ⟨isMessage.signingDigest_isOk_iff_of_perm isMessage_registerExecutor reordered _ _, ?_⟩
    intro different digest signed free same
    have schemas := isMessage_registerExecutor.eq_of_signingDigest isMessage
      noComma_registerExecutor noComma signed ((asked _ _).mp same) free
    exact different (congrArg Schema.fields schemas).symm

/-- Two fields of one type. -/
def pairSchema : Schema := ⟨"Pair", [⟨"a", "uint256"⟩, ⟨"b", "uint256"⟩]⟩

/-- The fields in the other order. -/
def swappedPairSchema : Schema := ⟨"Pair", [⟨"b", "uint256"⟩, ⟨"a", "uint256"⟩]⟩

/-- One number for both fields. -/
def onesPair : Json := .object [("a", .integer 1), ("b", .integer 1)]

theorem isMessage_pairSchema : pairSchema.IsMessage where
  isIdentifier := by decide
  isNoElementary := not_namesElementary (by decide)
  isNoDomain := by decide

theorem isMessage_swappedPairSchema : swappedPairSchema.IsMessage :=
  isMessage_pairSchema.withFields _

theorem typedDataHasher_onesPair {schema : Schema} (isMessage : schema.IsMessage)
    (coerced : fieldValues? schema onesPair = some [.word (Word.ofNat 1), .word (Word.ofNat 1)]) :
    typedDataHasher ⟨.chain 1, schema, onesPair⟩ =
      .ok (structDigest (.chain 1) schema [.word (Word.ofNat 1), .word (Word.ofNat 1)]) := by
  rw [typedDataHasher_eq_ok_iff, isMessage.signingDigest_eq_ok_iff_values]
  exact ⟨_, coerced, rfl⟩

/-- The fields of a registration in reverse order. -/
def reversedRegisterExecutor : Schema :=
  { Schema.registerExecutor with fields := Schema.registerExecutor.fields.reverse }

/-- The order of two fields is seen even where their values are equal, and the fields of a
registration have another digest in reverse order. -/
theorem digests_of_onesPair :
    (∃ digest swappedDigest,
      typedDataHasher ⟨.chain 1, pairSchema, onesPair⟩ = .ok digest ∧
      typedDataHasher ⟨.chain 1, swappedPairSchema, onesPair⟩ = .ok swappedDigest ∧
      digest ≠ swappedDigest) ∧
    ∃ digest reversedDigest, executorDigest capitalMark = .ok digest ∧
      executorDigestWithSchema capitalMark reversedRegisterExecutor = .ok reversedDigest ∧
      reversedDigest ≠ digest := by
  constructor
  · have coerced : fieldValues? pairSchema onesPair =
        some [.word (Word.ofNat 1), .word (Word.ofNat 1)] := rfl
    have swapped : fieldValues? swappedPairSchema onesPair =
        some [.word (Word.ofNat 1), .word (Word.ofNat 1)] := rfl
    have free : CollisionFree ((HashQuery.mk (.chain 1) pairSchema onesPair).hashInputs ++
        (HashQuery.mk (.chain 1) swappedPairSchema onesPair).hashInputs) := by
      rw [HashQuery.hashInputs_of_values coerced, HashQuery.hashInputs_of_values swapped]
      simp only [CollisionFree, structInputs, Domain.hashInputs, Domain.separator,
        Schema.messageHash, signingInput, keccakText, keccak256_eq]
      decide +kernel
    have signed := typedDataHasher_onesPair isMessage_pairSchema coerced
    have swappedSigned := typedDataHasher_onesPair isMessage_swappedPairSchema swapped
    exact ⟨_, _, signed, swappedSigned, digests_bind_schema.1 _ _ pairSchema swappedPairSchema
      isMessage_pairSchema isMessage_swappedPairSchema (by decide) (by decide) (by decide)
      _ _ signed swappedSigned free⟩
  · have reversed : fieldValues? reversedRegisterExecutor capitalMark.message.sorted =
        some capitalMarkRegistration.values.reverse := rfl
    have free : CollisionFree (capitalMark.hashInputs ++
        (capitalMark.query reversedRegisterExecutor).hashInputs) := by
      have reversedInputs : (capitalMark.query reversedRegisterExecutor).hashInputs =
          structInputs (.chain 1) reversedRegisterExecutor
            capitalMarkRegistration.values.reverse :=
        HashQuery.hashInputs_of_values reversed
      rw [denotes_capitalMark.hashInputs, Registration.hashInputs, reversedInputs]
      simp only [CollisionFree, structInputs, Domain.hashInputs, Domain.separator,
        Schema.messageHash, signingInput, keccakText, hashWords_eq, Registration.values,
        addressItems, TypedValue.hashWord, List.reverse, List.reverseAux, List.map_cons,
        List.map_nil, toList_byteArray, keccak256_eq]
      decide +kernel
    obtain ⟨signed_iff, differ⟩ := digests_bind_schema.2 capitalMark _ (List.reverse_perm _)
    obtain ⟨reversedDigest, reversedSigned⟩ :=
      signed_iff.mpr ⟨_, denotes_capitalMark.executorDigest⟩
    refine ⟨_, reversedDigest, denotes_capitalMark.executorDigest, reversedSigned, fun same => ?_⟩
    exact differ (by decide) _ denotes_capitalMark.executorDigest free (same ▸ reversedSigned)

end ExecutorRegistration
