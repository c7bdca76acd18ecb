import ExecutorRegistration.Proofs.Registration.Digest
import ExecutorRegistration.Proofs.TypedData.TypeNames
import ExecutorRegistration.Proofs.TypedData.Words

/-!
# The digest of a schema

For a schema of any fields a digest is signed if each field has a type with a name and a value that
is encoded as a word of that type; the digest is then a formula in the domain, the text of the type
and the words. Members that are no fields take no part in it.
-/

namespace ExecutorRegistration

namespace TypedData

/-! ## The digest as a formula -/

/-- The separator of a domain: over the chain, or over the chain and the contract. -/
def Domain.standardSeparator (domain : Domain) : Digest :=
  match domain.verifyingContract with
  | none =>
    keccak256 ((keccakText "EIP712Domain(uint256 chainId)").toList ++
      bigEndian 32 domain.chainId.toNat)
  | some contract =>
    keccak256 ((keccakText "EIP712Domain(uint256 chainId,address verifyingContract)").toList ++
      bigEndian 32 domain.chainId.toNat ++ (List.replicate 12 0 ++ contract.toList))

/-- The digest of a domain, the text of a type and the words of its fields. -/
def Schema.standardDigest (schema : Schema) (domain : Domain) (words : List Word) : Digest :=
  keccak256 ([0x19, 0x01] ++ domain.standardSeparator.toList ++
    (keccak256 ((keccakText schema.encodeType).toList ++ concatWords words)).toList)

theorem Domain.separator_eq (domain : Domain) : domain.separator = domain.standardSeparator := by
  obtain ⟨chainId, contract?⟩ := domain
  cases contract? with
  | none => simp [separator, standardSeparator, encodeType, fieldWords, Word.ofNat]
  | some contract =>
      rw [separator, standardSeparator, fieldWords]
      dsimp only
      rw [Word.toList_padStart contract (by decide), ← List.append_assoc]
      rfl

theorem structDigest_eq (domain : Domain) (schema : Schema) (values : List TypedValue) :
    structDigest domain schema values =
      schema.standardDigest domain (values.map TypedValue.hashWord) := by
  rw [structDigest, signingInput, Schema.messageHash, hashWords_eq, domain.separator_eq]
  rfl

/-! ## Schemas of messages -/

/-- The primary type of a schema is an identifier, and the name of nothing else. -/
structure Schema.IsMessage (schema : Schema) : Prop where
  isIdentifier : IsIdentifier schema.primaryType.toList
  isNoElementary : ∀ type, ¬ NamesElementary schema.primaryType type
  isNoDomain : schema.primaryType ≠ "EIP712Domain"

theorem isMessage_registerExecutor : Schema.registerExecutor.IsMessage where
  isIdentifier := by decide
  isNoElementary := not_namesElementary (by decide)
  isNoDomain := by decide

/-- A field has a value of a named type among members, which is encoded as a word. -/
def Field.Encodes (members : List (String × Json)) (field : Field) (word : Word) : Prop :=
  ∃ type found, NamesType field.type type ∧ Json.member? field.name members = some found ∧
    TypedData.Encodes type found word

theorem Schema.IsMessage.parse? {schema : Schema} (isMessage : schema.IsMessage) :
    TypeName.parse? schema.primaryType = some ⟨schema.primaryType, .identifier, []⟩ :=
  (TypeName.parse?_eq_some_iff _ (by simp)).mpr
    ⟨isMessage.isIdentifier, [], (List.append_nil _).symm, .nil⟩

theorem nameField_eq_ok_iff (field : Field) (named : Field × TypeName) :
    nameField field = .ok named ↔ named.1 = field ∧ TypeName.parse? field.type = some named.2 := by
  obtain ⟨other, name⟩ := named
  unfold nameField
  cases TypeName.parse? field.type <;> simp [eq_comm]

theorem resolveField_eq_ok_some_iff (primaryType : String) (named : Field × TypeName)
    (name : String) (type : ValueType) :
    resolveField primaryType named = .ok (name, some type) ↔
      name = named.1.name ∧ named.2.valueType? = some type ∧ named.2.root ≠ primaryType := by
  unfold resolveField
  cases named.2.valueType? with
  | none => split_ifs <;> simp
  | some found => split_ifs with isPrimary <;> simp [isPrimary, eq_comm]

theorem acyclicFields_eq_ok_iff (primaryType : String) (found : List (String × Option ValueType))
    (fields : List (String × ValueType)) :
    acyclicFields primaryType found = .ok fields ↔
      List.Forall₂ (fun found field => found = (field.1, some field.2)) found fields := by
  rw [acyclicFields, mapM_eq_ok_iff]
  refine iff_of_eq (congrArg (fun related => List.Forall₂ related found fields) ?_)
  funext ⟨name, type?⟩ ⟨other, type⟩
  cases type? <;> simp

/-- The fields of a message are resolved if their types have names. -/
theorem Schema.IsMessage.resolve_eq_ok_iff {schema : Schema} (isMessage : schema.IsMessage)
    (shape : Shape) :
    schema.resolve = .ok shape ↔
      ∃ fields, List.Forall₂ (fun field resolved => resolved.1 = field.name ∧
          NamesType field.type resolved.2) schema.fields fields ∧ shape = .object fields := by
  have noElement : TypeName.element? ⟨schema.primaryType, .identifier, []⟩ = none := by
    rw [Option.eq_none_iff_forall_ne_some]
    intro type isElement
    rcases (TypeName.element?_eq_some_iff _ type).mp isElement with ⟨-, isName⟩ | ⟨stem_eq, -⟩
    · exact isMessage.isNoElementary type isName
    · cases stem_eq
  have unfolded : schema.resolve = (do
      let named ← schema.fields.mapM nameField
      let resolved ← named.mapM (resolveField schema.primaryType)
      let fields ← acyclicFields schema.primaryType resolved
      .ok (.object fields)) := by
    unfold resolve
    simp [isMessage.parse?, isMessage.isNoDomain, noElement, bind, Except.bind]
  -- Names are taken apart, resolved and tested for cycles in three passes, which field by field
  -- are one.
  have field_iff (field : Field) (resolved : String × ValueType) :
      (∃ named, nameField field = .ok named ∧ ∃ found,
          resolveField schema.primaryType named = .ok found ∧
            found = (resolved.1, some resolved.2)) ↔
        resolved.1 = field.name ∧ NamesType field.type resolved.2 := by
    simp only [exists_eq_right, nameField_eq_ok_iff, resolveField_eq_ok_some_iff, namesType_iff]
    constructor
    · rintro ⟨⟨_, name⟩, ⟨rfl, parsed⟩, name_eq, resolved_eq, -⟩
      exact ⟨name_eq, name, parsed, resolved_eq⟩
    · rintro ⟨name_eq, name, parsed, resolved_eq⟩
      exact ⟨(field, name), ⟨rfl, parsed⟩, name_eq, resolved_eq,
        TypeName.root_ne parsed resolved_eq (isMessage.isIdentifier.not_mem rfl)
          isMessage.isNoElementary⟩
  rw [unfolded]
  simp only [bind_eq_ok_iff, mapM_eq_ok_iff, acyclicFields_eq_ok_iff, ← field_iff,
    ← forall₂_comp_iff, Except.ok.injEq]
  constructor
  · rintro ⟨named, areNamed, found, areFound, fields, areFields, rfl⟩
    exact ⟨fields, ⟨named, areNamed, found, areFound, areFields⟩, rfl⟩
  · rintro ⟨fields, ⟨named, areNamed, found, areFound, areFields⟩, rfl⟩
    exact ⟨named, areNamed, found, areFound, fields, areFields, rfl⟩

/-! ## The digest that is signed -/

/-- Fields have values that are coerced and hashed to words if they are encoded as these words. -/
theorem forall₂_encodes_iff (schema : Schema) (members : List (String × Json))
    (words : List Word) :
    List.Forall₂ (Field.Encodes members) schema.fields words ↔
      ∃ fields, List.Forall₂ (fun field resolved => resolved.1 = field.name ∧
          NamesType field.type resolved.2) schema.fields fields ∧
        ∃ values, coerceFields fields (.object members) = .ok values ∧
          words = values.map TypedValue.hashWord := by
  have field_iff (field : Field) (word : Word) : Field.Encodes members field word ↔
      ∃ resolved : String × ValueType, (resolved.1 = field.name ∧
          NamesType field.type resolved.2) ∧
        ∃ value, (∃ found, (Json.object members).field? resolved.1 = some found ∧
          coerce resolved.2 found = .ok value) ∧ word = value.hashWord := by
    simp only [Field.Encodes, ← coerce_hashWord_iff]
    constructor
    · rintro ⟨type, found, isName, isFound, value, coerced, word_eq⟩
      exact ⟨(field.name, type), ⟨rfl, isName⟩, value, ⟨found, isFound, coerced⟩, word_eq⟩
    · rintro ⟨⟨name, type⟩, ⟨name_eq, isName⟩, value, ⟨found, isFound, coerced⟩, word_eq⟩
      dsimp only at name_eq isName isFound coerced
      rw [name_eq] at isFound
      exact ⟨type, found, isName, isFound, value, coerced, word_eq⟩
  simp only [coerceFields_eq_ok_iff, ← forall₂_exists_iff, forall₂_comp_iff, ← field_iff]

theorem coerceObject_eq_ok_iff (fields : List (String × ValueType)) (json : Json)
    (values : List TypedValue) :
    coerceObject fields json = .ok values ↔
      ∃ members, json = .object members ∧ coerceFields fields (.object members) = .ok values := by
  cases json <;> simp [coerceObject]

theorem fieldValues?_eq_some_iff (schema : Schema) (values : Json) (coerced : List TypedValue) :
    fieldValues? schema values = some coerced ↔
      ∃ resolved fields, values.resolveEmbedded? = some resolved ∧
        schema.resolve = .ok (.object fields) ∧ coerceObject fields resolved = .ok coerced := by
  unfold fieldValues?
  cases values.resolveEmbedded? with
  | none => simp
  | some resolved =>
      cases schema.resolve with
      | error fault => simp
      | ok shape => cases shape <;> simp [toOption_eq_some_iff]

/-- A digest is signed for a message if the values of its fields can be coerced. -/
theorem Schema.IsMessage.signingDigest_eq_ok_iff_values {schema : Schema}
    (isMessage : schema.IsMessage) (domain : Domain) (values : Json) (digest : Digest) :
    signingDigest domain schema values = .ok digest ↔
      ∃ coerced, fieldValues? schema values = some coerced ∧
        digest = structDigest domain schema coerced := by
  cases resolved_eq : schema.resolve with
  | error fault =>
      unfold signingDigest
      simp only [fieldValues?_eq_some_iff, resolved_eq]
      cases values.resolveEmbedded? <;> simp [bind, Except.bind]
  | ok shape =>
      obtain ⟨fields, -, rfl⟩ := (isMessage.resolve_eq_ok_iff shape).mp resolved_eq
      exact TypedData.signingDigest_eq_ok_iff resolved_eq domain values digest

/-- A digest is signed if the values, with embedded ones in place, are an object in which all fields
have a value that is encoded as a word. -/
theorem Schema.IsMessage.signingDigest_eq_ok_iff {schema : Schema} (isMessage : schema.IsMessage)
    (domain : Domain) (values : Json) (digest : Digest) :
    signingDigest domain schema values = .ok digest ↔
      ∃ members words, values.resolveEmbedded? = some (.object members) ∧
        List.Forall₂ (Field.Encodes members) schema.fields words ∧
        digest = schema.standardDigest domain words := by
  simp only [isMessage.signingDigest_eq_ok_iff_values, fieldValues?_eq_some_iff,
    isMessage.resolve_eq_ok_iff, Shape.object.injEq, coerceObject_eq_ok_iff,
    forall₂_encodes_iff, structDigest_eq]
  constructor
  · rintro ⟨coerced, ⟨_, fields, embeds, ⟨_, areFields, rfl⟩, members, rfl, areValues⟩, rfl⟩
    exact ⟨members, _, embeds, ⟨_, areFields, coerced, areValues, rfl⟩, rfl⟩
  · rintro ⟨members, _, embeds, ⟨fields, areFields, coerced, areValues, rfl⟩, rfl⟩
    exact ⟨coerced, ⟨_, fields, embeds, ⟨fields, areFields, rfl⟩, members, rfl, areValues⟩, rfl⟩

/-! ## Members that are no fields -/

/-- Fields of objects that agree on them have the same values; but where one is missing, the fault
shows the object. -/
theorem coerceFields_eq_or (fields : List (String × ValueType))
    {left right : List (String × Json)}
    (same : ∀ field ∈ fields, Json.member? field.1 left = Json.member? field.1 right) :
    coerceFields fields (.object left) = coerceFields fields (.object right) ∨
      (∃ field ∈ fields, Json.member? field.1 left = none) ∧
        coerceFields fields (.object left) =
          .error ⟨.fields (fields.map Prod.snd), .object left⟩ ∧
        coerceFields fields (.object right) =
          .error ⟨.fields (fields.map Prod.snd), .object right⟩ := by
  refine mapM_eq_or fields fun field member => ?_
  obtain ⟨name, type⟩ := field
  have found := same _ member
  dsimp only [Json.field?] at found ⊢
  rw [found]
  cases Json.member? name right with
  | none => exact .inr ⟨rfl, rfl, rfl⟩
  | some value => exact .inl rfl

/-- Values that agree on the fields have the same digest or fault; but where a field is missing,
the fault shows the values. -/
theorem Schema.IsMessage.signingDigest_eq_or {schema : Schema} (isMessage : schema.IsMessage)
    (domain : Domain) {left right : Json} {leftMembers rightMembers : List (String × Json)}
    (leftEmbeds : left.resolveEmbedded? = some (.object leftMembers))
    (rightEmbeds : right.resolveEmbedded? = some (.object rightMembers))
    (same : ∀ field ∈ schema.fields,
      Json.member? field.name leftMembers = Json.member? field.name rightMembers) :
    signingDigest domain schema left = signingDigest domain schema right ∨
      (∃ field ∈ schema.fields, Json.member? field.name leftMembers = none) ∧ ∃ wanted,
        signingDigest domain schema left = .error (.mismatch ⟨wanted, .object leftMembers⟩) ∧
        signingDigest domain schema right = .error (.mismatch ⟨wanted, .object rightMembers⟩) := by
  unfold signingDigest
  rw [leftEmbeds, rightEmbeds]
  cases resolved_eq : schema.resolve with
  | error fault => exact .inl rfl
  | ok shape =>
      obtain ⟨fields, areFields, rfl⟩ := (isMessage.resolve_eq_ok_iff shape).mp resolved_eq
      have names_eq : fields.map Prod.fst = schema.fields.map Field.name := by
        rw [← List.forall₂_eq_eq_eq, List.forall₂_map_left_iff, List.forall₂_map_right_iff]
        exact (areFields.imp fun _ _ resolved => resolved.1).flip
      have named : ∀ field ∈ fields, ∃ other ∈ schema.fields, other.name = field.1 := by
        intro field member
        have listed : field.1 ∈ schema.fields.map Field.name :=
          names_eq ▸ List.mem_map_of_mem member
        exact List.mem_map.mp listed
      have agree : ∀ field ∈ fields,
          Json.member? field.1 leftMembers = Json.member? field.1 rightMembers := by
        intro field member
        obtain ⟨other, listed, name_eq⟩ := named field member
        rw [← name_eq]
        exact same other listed
      -- Past the types only the coercion of the fields looks at the members.
      simp only [bind, Except.bind, Shape.encode, coerceObject]
      rcases coerceFields_eq_or fields agree with
        equal | ⟨⟨field, member, missing⟩, leftFault, rightFault⟩
      · rw [equal]
        exact .inl rfl
      · obtain ⟨other, listed, name_eq⟩ := named field member
        rw [leftFault, rightFault]
        exact .inr ⟨⟨other, listed, name_eq ▸ missing⟩, _, rfl, rfl⟩

end TypedData

open TypedData

/-! ## The hasher -/

theorem typedDataHasher_of_signingDigest_error {domain : Domain} {schema : Schema} {values : Json}
    {fault : EncodingFault} (failed : signingDigest domain schema values = .error fault) :
    typedDataHasher ⟨domain, schema, values⟩ = .error (.encoding fault.message) := by
  change (signingDigest domain schema values).mapError _ = _
  rw [failed]
  rfl

theorem typedDataHasher_congr {domain : Domain} {schema : Schema} {left right : Json}
    (same : signingDigest domain schema left = signingDigest domain schema right) :
    typedDataHasher ⟨domain, schema, left⟩ = typedDataHasher ⟨domain, schema, right⟩ :=
  congrArg (Except.mapError fun fault : EncodingFault => DigestFault.encoding fault.message) same

/-- For the schema of a message the hasher signs the digest of the words of its fields. It fails,
with a fault of encoding, unless each field has a type with a name and a value that is encoded; it
fails for all values if what stands before the suffixes of a field's type is the primary type, or
has no dot and names no elementary type. Members that are no fields do not change the result,
except that the fault for a missing field shows them. -/
theorem typedDataHasher_hashes_fields {schema : Schema} (isMessage : schema.IsMessage)
    (domain : Domain) :
    (∀ values digest, typedDataHasher ⟨domain, schema, values⟩ = .ok digest ↔
      ∃ members words, values.resolveEmbedded? = some (.object members) ∧
        List.Forall₂ (Field.Encodes members) schema.fields words ∧
        digest = schema.standardDigest domain words) ∧
    (∀ values fault, typedDataHasher ⟨domain, schema, values⟩ = .error fault →
      ∃ reason, fault = .encoding reason) ∧
    (∀ field ∈ schema.fields, ∀ root suffix : String, field.type = root ++ suffix →
      (suffix.toList = [] ∨ ∃ behind, suffix.toList = '[' :: behind) →
      (root = schema.primaryType ∨
        '.' ∉ root.toList ∧ '[' ∉ root.toList ∧ ∀ type, ¬ NamesElementary root type) →
      ∀ values, ∃ reason, typedDataHasher ⟨domain, schema, values⟩ = .error (.encoding reason)) ∧
    ∀ left right leftMembers rightMembers : List (String × Json),
      Json.embeddedValue? left = none → Json.resolveMembers? left = some leftMembers →
      Json.embeddedValue? right = none → Json.resolveMembers? right = some rightMembers →
      (∀ field ∈ schema.fields, Json.member? field.name left = Json.member? field.name right) →
      typedDataHasher ⟨domain, schema, .object left⟩ =
          typedDataHasher ⟨domain, schema, .object right⟩ ∨
        (∃ field ∈ schema.fields, Json.member? field.name left = none) ∧ ∃ wanted,
          typedDataHasher ⟨domain, schema, .object left⟩ = .error (.encoding
            (EncodingFault.mismatch ⟨wanted, .object leftMembers⟩).message) ∧
          typedDataHasher ⟨domain, schema, .object right⟩ = .error (.encoding
            (EncodingFault.mismatch ⟨wanted, .object rightMembers⟩).message) := by
  have succeeds (values : Json) (digest : Digest) :
      typedDataHasher ⟨domain, schema, values⟩ = .ok digest ↔
        ∃ members words, values.resolveEmbedded? = some (.object members) ∧
          List.Forall₂ (Field.Encodes members) schema.fields words ∧
          digest = schema.standardDigest domain words := by
    rw [typedDataHasher_eq_ok_iff, isMessage.signingDigest_eq_ok_iff]
  refine ⟨succeeds, fun values fault => typedDataHasher_error, ?_, ?_⟩
  · intro field member root suffix type_eq starts isOther values
    have ⟨noDot, noBracket, noElementary⟩ : '.' ∉ root.toList ∧ '[' ∉ root.toList ∧
        ∀ type, ¬ NamesElementary root type := by
      rcases isOther with rfl | isOther
      · exact ⟨isMessage.isIdentifier.not_mem rfl, isMessage.isIdentifier.not_mem rfl,
          isMessage.isNoElementary⟩
      · exact isOther
    cases hashed : typedDataHasher ⟨domain, schema, values⟩ with
    | error fault =>
        obtain ⟨reason, rfl⟩ := typedDataHasher_error hashed
        exact ⟨reason, rfl⟩
    | ok digest =>
        obtain ⟨members, words, -, areEncoded, -⟩ := (succeeds values digest).mp hashed
        have areNamed : List.Forall₂ (fun field word => (∃ type, NamesType field.type type) ∧
            Field.Encodes members field word) schema.fields words := by
          refine areEncoded.imp fun field word encodes => ⟨?_, encodes⟩
          obtain ⟨type, -, isName, -⟩ := encodes
          exact ⟨type, isName⟩
        obtain ⟨type, isName⟩ := ((List.forall₂_and_left _ _).mp areNamed).1 field member
        rw [type_eq] at isName
        exact absurd isName (not_namesType_of_root noDot noBracket noElementary starts type)
  · intro left right leftMembers rightMembers leftPlain leftResolves rightPlain rightResolves same
    have leftEmbeds := Json.resolveEmbedded?_object leftPlain leftResolves
    have rightEmbeds := Json.resolveEmbedded?_object rightPlain rightResolves
    have agree : ∀ field ∈ schema.fields,
        Json.member? field.name leftMembers = Json.member? field.name rightMembers := by
      intro field member
      rw [Json.member?_resolveMembers? _ leftResolves, Json.member?_resolveMembers? _ rightResolves,
        same field member]
    rcases isMessage.signingDigest_eq_or domain leftEmbeds rightEmbeds agree with
      equal | ⟨⟨field, member, missing⟩, wanted, leftFault, rightFault⟩
    · exact .inl (typedDataHasher_congr equal)
    · have missing := (Json.member?_resolveMembers?_eq_none_iff _ leftResolves).mp missing
      exact .inr ⟨⟨field, member, missing⟩, wanted,
        typedDataHasher_of_signingDigest_error leftFault,
        typedDataHasher_of_signingDigest_error rightFault⟩

/-- A schema with a list of pairs. -/
def orderSchema : Schema := ⟨"Order", [⟨"sizes", "uint8[2][]"⟩]⟩

theorem isMessage_orderSchema : orderSchema.IsMessage where
  isIdentifier := by decide
  isNoElementary := not_namesElementary (by decide)
  isNoDomain := by decide

/-- Lists are hashed item by item, and other members do not count. -/
theorem typedDataHasher_orderSchema :
    typedDataHasher ⟨.chain 1, orderSchema, .object
        [("note", .null), ("sizes", .array [.array [.integer 1, .string "0x2"]])]⟩ =
      .ok (orderSchema.standardDigest (.chain 1)
        [keccak256 (concatWords [keccak256 (concatWords [Word.ofNat 1, Word.ofNat 2])])]) := by
  have isName : NamesType "uint8[2][]" (.list (.fixedList (.uint 8) 2)) :=
    (namesType_iff _ _).mpr ⟨⟨"uint8", .identifier, [some 2, none]⟩, by decide, by decide⟩
  have first : Encodes (.uint 8) (.integer 1) (Word.ofNat 1) := ⟨1, .inl rfl, by decide, rfl⟩
  have second : Encodes (.uint 8) (.string "0x2") (Word.ofNat 2) :=
    ⟨2, .inr ⟨"0x2", rfl, (natural?_eq_some_iff _ _).mp (by decide)⟩, by decide, rfl⟩
  have pair : Encodes (.fixedList (.uint 8) 2) (.array [.integer 1, .string "0x2"])
      (keccak256 (concatWords [Word.ofNat 1, Word.ofNat 2])) :=
    ⟨_, _, rfl, rfl, .cons first (.cons second .nil), rfl⟩
  have encodes : Field.Encodes
      [("note", .null), ("sizes", .array [.array [.integer 1, .string "0x2"]])]
      ⟨"sizes", "uint8[2][]"⟩
      (keccak256 (concatWords [keccak256 (concatWords [Word.ofNat 1, Word.ofNat 2])])) :=
    ⟨_, _, isName, rfl, _, _, rfl, .cons pair .nil, rfl⟩
  exact ((typedDataHasher_hashes_fields isMessage_orderSchema (.chain 1)).1 _ _).mpr
    ⟨_, _, rfl, .cons encodes .nil, rfl⟩

/-- A schema with a field whose type is an enumeration. -/
def enumerationSchema : Schema := ⟨"T", [⟨"a", "Foo.Bar"⟩]⟩

/-- A schema with a number. -/
def numberSchema : Schema := ⟨"T", [⟨"n", "uint256"⟩]⟩

/-- The name of an enumeration is no elementary one with suffixes. -/
theorem enumeration_ne_append {name suffix : String} {type : ValueType}
    {sizes : List (Option Nat)} (isName : NamesElementary name type)
    (isSuffix : Suffixes suffix.toList sizes) : name ++ suffix ≠ "Foo.Bar" := by
  intro same
  have noBracket : '[' ∉ (name ++ suffix).toList := by rw [same]; decide
  rw [String.toList_append, List.mem_append, not_or] at noBracket
  rcases isSuffix.starts with isEmpty | ⟨behind, starts⟩
  · rw [String.toList_eq_nil_iff.mp isEmpty, String.append_empty] at same
    exact not_namesElementary (by decide) type (same ▸ isName)
  · exact noBracket.2 (by simp [starts])

/-- A digest is signed for a type that is no elementary one with suffixes, and for a value that
holds a field only embedded, so that a member that is no field decides over the digest. Such a
member may also be shown. -/
theorem typedDataHasher_enumerationSchema :
    ((∃ digest, typedDataHasher ⟨.chain 1, enumerationSchema, .object [("a", .integer 5)]⟩ =
        .ok digest) ∧
      ∀ name suffix type sizes, NamesElementary name type → Suffixes suffix.toList sizes →
        name ++ suffix ≠ "Foo.Bar") ∧
    ((∃ digest, typedDataHasher ⟨.chain 1, numberSchema,
        .object [(Json.embeddedKey, .string "\x7b\"n\":7\x7d")]⟩ = .ok digest) ∧
      Json.member? "n" [(Json.embeddedKey, .string "\x7b\"n\":7\x7d")] = none) ∧
    typedDataHasher ⟨.chain 1, numberSchema,
        .object [(Json.embeddedKey, .string "\x7b\"n\":7\x7d")]⟩ ≠
      typedDataHasher ⟨.chain 1, numberSchema,
        .object [(Json.embeddedKey, .string "\x7b\x7d")]⟩ ∧
    typedDataHasher ⟨.chain 1, numberSchema, .object []⟩ ≠
      typedDataHasher ⟨.chain 1, numberSchema, .object [("x", .integer 1)]⟩ := by
  have embedded : ∃ digest, typedDataHasher ⟨.chain 1, numberSchema,
      .object [(Json.embeddedKey, .string "\x7b\"n\":7\x7d")]⟩ = .ok digest := ⟨_, rfl⟩
  refine ⟨⟨⟨_, rfl⟩, fun name suffix type sizes => enumeration_ne_append⟩, ⟨embedded, rfl⟩,
    fun same => ?_, fun same => ?_⟩
  · obtain ⟨digest, signed⟩ := embedded
    have refused : typedDataHasher ⟨.chain 1, numberSchema,
        .object [(Json.embeddedKey, .string "\x7b\x7d")]⟩ =
      .error (.encoding (EncodingFault.mismatch ⟨.fields [.uint 256], .object []⟩).message) := rfl
    rw [signed, refused] at same
    cases same
  · have messages : (EncodingFault.mismatch ⟨.fields [.uint 256], .object []⟩).message =
        (EncodingFault.mismatch ⟨.fields [.uint 256], .object [("x", .integer 1)]⟩).message :=
      DigestFault.encoding.inj (Except.error.inj same)
    exact absurd messages (by decide +kernel)

end ExecutorRegistration
