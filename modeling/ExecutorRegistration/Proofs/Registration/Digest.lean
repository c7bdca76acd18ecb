import ExecutorRegistration.Proofs.Json.Members
import ExecutorRegistration.Proofs.TypedData.Coercion
import ExecutorRegistration.Proofs.TypedData.StructDigest
import ExecutorRegistration.SigningReport

/-!
# The digest of a registration

A configuration denotes a registration if its address texts denote the addresses of the
registration and its other values are the same. A digest is signed for exactly the configurations
that denote a registration, and it is the digest of that registration: a formula over its chain
and nine words.
-/

namespace ExecutorRegistration

open TypedData

/-! ## Registrations -/

/-- What is signed when an executor is registered, with addresses in place of texts. -/
structure Registration where
  /-- The chain. -/
  chainId : UInt64
  /-- Milliseconds since the epoch. -/
  timestamp : UInt64
  /-- The executor. -/
  executor : Address
  /-- The tokens that it takes. -/
  inputTokens : List Address
  /-- The addresses through which it routes. -/
  hopAddresses : List Address
  /-- The fee in hundredths of a percent. -/
  feeInBPS : UInt64
  /-- The token of the fee. -/
  feeToken : Address
  /-- The receiver of the fee. -/
  feeReceiver : Address
  /-- Whether runs are limited. -/
  limitPerExecution : Bool
  /-- The name of the client. -/
  clientId : String
deriving DecidableEq, Repr

/-- An optional text denotes an address if it is there and denotes it. -/
def DenotesAddress (text? : Option String) (address : Address) : Prop :=
  ∃ text, text? = some text ∧ Address.Denotes text address

/-- A configuration denotes a registration. -/
structure ExecutorConfig.Denotes (config : ExecutorConfig) (registration : Registration) :
    Prop where
  chainId : config.chainId = registration.chainId
  timestamp : config.timestamp = registration.timestamp
  executor : DenotesAddress config.executor registration.executor
  inputTokens : List.Forall₂ Address.Denotes config.inputTokens registration.inputTokens
  hopAddresses : List.Forall₂ Address.Denotes config.hopAddresses registration.hopAddresses
  feeInBPS : config.feeInBPS = registration.feeInBPS
  feeToken : DenotesAddress config.feeToken registration.feeToken
  feeReceiver : DenotesAddress config.feeReceiver registration.feeReceiver
  limitPerExecution : config.limitPerExecution = registration.limitPerExecution
  clientId : config.clientId = some registration.clientId

/-- Everything that has to be set is set, and all address texts are such. -/
structure ExecutorConfig.IsSignable (config : ExecutorConfig) : Prop where
  executor : ∃ text, config.executor = some text ∧ Address.IsText text
  inputTokens : ∀ text ∈ config.inputTokens, Address.IsText text
  hopAddresses : ∀ text ∈ config.hopAddresses, Address.IsText text
  feeToken : ∃ text, config.feeToken = some text ∧ Address.IsText text
  feeReceiver : ∃ text, config.feeReceiver = some text ∧ Address.IsText text
  clientId : ∃ name, config.clientId = some name

namespace Registration

/-! ## The digest as a formula -/

/-- A number as a word: its octets in big-endian order behind zeros. -/
def numberWord (value : UInt64) : List UInt8 := bigEndian 32 value.toNat

/-- An address as a word: its twenty octets behind twelve zeros. -/
def addressWord (address : Address) : List UInt8 := List.replicate 12 0 ++ address.toList

/-- A list of addresses as a word: the digest of their words in a row. -/
def addressesWord (addresses : List Address) : List UInt8 :=
  (keccak256 (addresses.flatMap addressWord)).toList

/-- A truth value as a word: 0 or 1 behind zeros. -/
def flagWord (flag : Bool) : List UInt8 := List.replicate 31 0 ++ [if flag then 1 else 0]

/-- A text as a word: the digest of its octets. -/
def textWord (text : String) : List UInt8 := (keccak256 text.toUTF8.toList).toList

/-- The separator of a chain. -/
def separator (registration : Registration) : Digest :=
  keccak256 ((keccakText "EIP712Domain(uint256 chainId)").toList ++
    numberWord registration.chainId)

/-- The hash of the message: the digest of the type and of nine words. -/
def messageHash (registration : Registration) : Digest :=
  keccak256 ((keccakText Schema.registerExecutor.encodeType).toList ++
    numberWord registration.timestamp ++
    addressWord registration.executor ++
    addressesWord registration.inputTokens ++
    addressesWord registration.hopAddresses ++
    numberWord registration.feeInBPS ++
    addressWord registration.feeToken ++
    addressWord registration.feeReceiver ++
    flagWord registration.limitPerExecution ++
    textWord registration.clientId)

/-- The digest of a registration. -/
def digest (registration : Registration) : Digest :=
  keccak256 ([0x19, 0x01] ++ registration.separator.toList ++ registration.messageHash.toList)

/-- The values of the nine fields. -/
def values (registration : Registration) : List TypedValue :=
  [.word (Word.ofNat registration.timestamp.toNat),
   .word (Word.padStart registration.executor),
   addressItems registration.inputTokens,
   addressItems registration.hopAddresses,
   .word (Word.ofNat registration.feeInBPS.toNat),
   .word (Word.padStart registration.feeToken),
   .word (Word.padStart registration.feeReceiver),
   .word (Word.ofNat registration.limitPerExecution.toNat),
   .octets registration.clientId.toUTF8.toList]

theorem addressWord_eq (address : Address) :
    addressWord address = (Word.padStart address).toList :=
  (Word.toList_padStart address (by decide)).symm

theorem flagWord_eq (flag : Bool) : flagWord flag = (Word.ofNat flag.toNat).toList := by
  cases flag <;> decide

theorem hashWords_addresses (addresses : List Address) :
    hashWords (addresses.map fun address => .word (Word.padStart address)) =
      addresses.flatMap addressWord := by
  induction addresses with
  | nil => rfl
  | cons address addresses ih =>
      rw [List.map_cons, hashWords, ih, List.flatMap_cons, addressWord_eq]
      rfl

theorem addressesWord_eq (addresses : List Address) :
    addressesWord addresses = (addressItems addresses).hashWord.toList := by
  rw [addressesWord, addressItems, TypedValue.hashWord, hashWords_addresses]

/-- The formula is the digest of the values of the nine fields. -/
theorem structDigest_values (registration : Registration) :
    structDigest (.chain registration.chainId) .registerExecutor registration.values =
      registration.digest := by
  have words : hashWords registration.values =
      numberWord registration.timestamp ++ (addressWord registration.executor ++
        (addressesWord registration.inputTokens ++ (addressesWord registration.hopAddresses ++
          (numberWord registration.feeInBPS ++ (addressWord registration.feeToken ++
            (addressWord registration.feeReceiver ++ (flagWord registration.limitPerExecution ++
              textWord registration.clientId))))))) := by
    simp only [addressWord_eq, addressesWord_eq, flagWord_eq]
    simp [values, hashWords, TypedValue.hashWord, numberWord, textWord, Word.ofNat]
  have separators : (Domain.chain registration.chainId).separator = registration.separator := by
    simp [Domain.separator, Domain.encodeType, Domain.fieldWords, Domain.chain, separator,
      numberWord, Word.ofNat]
  simp [structDigest, signingInput, Schema.messageHash, words, separators, digest, messageHash]

end Registration

/-! ## The message and its values -/

/-- The fields of the registration message with their types. -/
def registrationFields : List (String × ValueType) :=
  [("timestamp", .uint 256), ("executor", .address), ("inputTokens", .list .address),
   ("hopAddresses", .list .address), ("feeInBPS", .uint 256), ("feeToken", .address),
   ("feeReceiver", .address), ("limitPerExecution", .bool), ("clientId", .string)]

theorem resolve_registerExecutor :
    Schema.registerExecutor.resolve = .ok (.object registrationFields) := rfl

theorem coerce_address_ofOption_iff (text? : Option String) (value : TypedValue) :
    coerce .address (.ofOption text?) = .ok value ↔
      ∃ address, DenotesAddress text? address ∧ value = .word (Word.padStart address) := by
  rw [coerce_address_iff]
  cases text? <;> simp [DenotesAddress, Json.ofOption]

theorem coerce_string_ofOption_iff (text? : Option String) (value : TypedValue) :
    coerce .string (.ofOption text?) = .ok value ↔
      ∃ text, text? = some text ∧ value = .octets text.toUTF8.toList := by
  rw [coerce_string_iff]
  cases text? <;> simp [Json.ofOption]

namespace ExecutorConfig

/-- The message as it is hashed, with ascending keys. -/
theorem message_sorted (config : ExecutorConfig) :
    config.message.sorted = .object
      [("clientId", .ofOption config.clientId), ("executor", .ofOption config.executor),
       ("feeInBPS", .ofUInt64 config.feeInBPS), ("feeReceiver", .ofOption config.feeReceiver),
       ("feeToken", .ofOption config.feeToken),
       ("hopAddresses", .ofStrings config.hopAddresses),
       ("inputTokens", .ofStrings config.inputTokens),
       ("limitPerExecution", .bool config.limitPerExecution),
       ("timestamp", .ofUInt64 config.timestamp)] := by
  rw [message, Json.sorted]
  simp only [Json.sortedMembers, Json.sorted_ofUInt64, Json.sorted_ofOption,
    Json.sorted_ofStrings, Json.sorted]
  rfl

/-- The message embeds no other value. -/
theorem resolveEmbedded?_message (config : ExecutorConfig) :
    config.message.sorted.resolveEmbedded? = some config.message.sorted := by
  rw [message_sorted]
  simp [Json.resolveEmbedded?, Json.embeddedValue?, Json.embeddedKey, Json.resolveMembers?,
    Json.ofUInt64]

/-- The message can be coerced if the configuration denotes a registration. -/
theorem fieldValues?_message_iff (config : ExecutorConfig) (values : List TypedValue) :
    fieldValues? .registerExecutor config.message.sorted = some values ↔
      ∃ registration, config.Denotes registration ∧ values = registration.values := by
  have lookups :
      config.message.sorted.field? "timestamp" = some (.ofUInt64 config.timestamp) ∧
      config.message.sorted.field? "executor" = some (.ofOption config.executor) ∧
      config.message.sorted.field? "inputTokens" = some (.ofStrings config.inputTokens) ∧
      config.message.sorted.field? "hopAddresses" = some (.ofStrings config.hopAddresses) ∧
      config.message.sorted.field? "feeInBPS" = some (.ofUInt64 config.feeInBPS) ∧
      config.message.sorted.field? "feeToken" = some (.ofOption config.feeToken) ∧
      config.message.sorted.field? "feeReceiver" = some (.ofOption config.feeReceiver) ∧
      config.message.sorted.field? "limitPerExecution" =
        some (.bool config.limitPerExecution) ∧
      config.message.sorted.field? "clientId" = some (.ofOption config.clientId) := by
    rw [message_sorted]
    exact ⟨rfl, rfl, rfl, rfl, rfl, rfl, rfl, rfl, rfl⟩
  have coerced : fieldValues? .registerExecutor config.message.sorted = some values ↔
      coerceFields registrationFields config.message.sorted = .ok values := by
    rw [fieldValues?, resolveEmbedded?_message, resolve_registerExecutor, message_sorted]
    dsimp only [coerceObject]
    cases coerceFields registrationFields _ <;> simp [Except.toOption]
  rw [coerced, coerceFields_eq_ok_iff]
  simp only [registrationFields, List.forall₂_cons_left_iff, List.forall₂_nil_left_iff, lookups,
    Option.some.injEq, Except.ok.injEq, coerce_uint_ofUInt64, coerce_address_ofOption_iff,
    coerce_addresses_iff, coerce_string_ofOption_iff, coerce_bool, ↓existsAndEq, true_and,
    and_true, exists_and_left]
  constructor
  · rintro ⟨executor, inputTokens, hopAddresses, feeToken, feeReceiver, clientId,
      ⟨executorText, tokens, hops, feeTokenText, feeReceiverText, name⟩, rfl⟩
    exact ⟨⟨config.chainId, config.timestamp, executor, inputTokens, hopAddresses,
        config.feeInBPS, feeToken, feeReceiver, config.limitPerExecution, clientId⟩,
      ⟨rfl, rfl, executorText, tokens, hops, rfl, feeTokenText, feeReceiverText, rfl, name⟩, rfl⟩
  · rintro ⟨registration, denotes, rfl⟩
    refine ⟨_, _, _, _, _, _, ⟨denotes.executor, denotes.inputTokens, denotes.hopAddresses,
      denotes.feeToken, denotes.feeReceiver, denotes.clientId⟩, ?_⟩
    rw [denotes.timestamp, denotes.feeInBPS, denotes.limitPerExecution]
    rfl

end ExecutorConfig

/-! ## The digest that is signed -/

/-- A hasher for typed data has no other faults than those of encoding. -/
theorem typedDataHasher_error {query : HashQuery} {fault : DigestFault}
    (failed : typedDataHasher query = .error fault) : ∃ reason, fault = .encoding reason := by
  change (signingDigest _ _ _).mapError _ = _ at failed
  cases signed : signingDigest query.domain query.schema query.values with
  | error fault' =>
      rw [signed] at failed
      exact ⟨fault'.message, (Except.error.inj failed).symm⟩
  | ok digest =>
      rw [signed] at failed
      simp [Except.mapError] at failed

theorem typedDataHasher_eq_ok_iff (query : HashQuery) (digest : Digest) :
    typedDataHasher query = .ok digest ↔
      signingDigest query.domain query.schema query.values = .ok digest := by
  change (signingDigest _ _ _).mapError _ = _ ↔ _
  cases signingDigest query.domain query.schema query.values <;> simp [Except.mapError]

/-- What is signed is the digest of the registration that a configuration denotes. -/
theorem executorDigest_eq_ok_iff (config : ExecutorConfig) (digest : Digest) :
    executorDigest config = .ok digest ↔
      ∃ registration, config.Denotes registration ∧ digest = registration.digest := by
  have asked : executorDigest config = typedDataHasher (config.query .registerExecutor) := rfl
  rw [asked, typedDataHasher_eq_ok_iff, ExecutorConfig.query,
    signingDigest_eq_ok_iff resolve_registerExecutor]
  simp only [ExecutorConfig.fieldValues?_message_iff]
  constructor
  · rintro ⟨_, ⟨registration, denotes, rfl⟩, rfl⟩
    refine ⟨registration, denotes, ?_⟩
    rw [denotes.chainId, Registration.structDigest_values]
  · rintro ⟨registration, denotes, rfl⟩
    refine ⟨_, ⟨registration, denotes, rfl⟩, ?_⟩
    rw [denotes.chainId, Registration.structDigest_values]

theorem exists_denotesAddress_iff (text? : Option String) :
    (∃ text, text? = some text ∧ Address.IsText text) ↔
      ∃ address, DenotesAddress text? address := by
  simp only [Address.isText_iff, DenotesAddress]
  constructor
  · rintro ⟨text, isSet, address, denotes⟩
    exact ⟨address, text, isSet, denotes⟩
  · rintro ⟨address, text, isSet, denotes⟩
    exact ⟨text, isSet, address, denotes⟩

theorem forall_isText_iff (texts : List String) :
    (∀ text ∈ texts, Address.IsText text) ↔
      ∃ addresses, List.Forall₂ Address.Denotes texts addresses := by
  simp only [exists_forall₂_iff, Address.isText_iff]

theorem ExecutorConfig.isSignable_iff (config : ExecutorConfig) :
    config.IsSignable ↔ ∃ registration, config.Denotes registration := by
  constructor
  · intro signable
    obtain ⟨executor, executorText⟩ := (exists_denotesAddress_iff _).mp signable.executor
    obtain ⟨inputTokens, tokens⟩ := (forall_isText_iff _).mp signable.inputTokens
    obtain ⟨hopAddresses, hops⟩ := (forall_isText_iff _).mp signable.hopAddresses
    obtain ⟨feeToken, feeTokenText⟩ := (exists_denotesAddress_iff _).mp signable.feeToken
    obtain ⟨feeReceiver, receiverText⟩ := (exists_denotesAddress_iff _).mp signable.feeReceiver
    obtain ⟨clientId, name⟩ := signable.clientId
    exact ⟨⟨config.chainId, config.timestamp, executor, inputTokens, hopAddresses,
        config.feeInBPS, feeToken, feeReceiver, config.limitPerExecution, clientId⟩,
      ⟨rfl, rfl, executorText, tokens, hops, rfl, feeTokenText, receiverText, rfl, name⟩⟩
  · rintro ⟨registration, denotes⟩
    exact
      { executor := (exists_denotesAddress_iff _).mpr ⟨_, denotes.executor⟩
        inputTokens := (forall_isText_iff _).mpr ⟨_, denotes.inputTokens⟩
        hopAddresses := (forall_isText_iff _).mpr ⟨_, denotes.hopAddresses⟩
        feeToken := (exists_denotesAddress_iff _).mpr ⟨_, denotes.feeToken⟩
        feeReceiver := (exists_denotesAddress_iff _).mpr ⟨_, denotes.feeReceiver⟩
        clientId := ⟨_, denotes.clientId⟩ }

/-- A digest is signed for exactly the configurations in which everything is set and all address
texts are such; it is the digest of the registration that the configuration denotes. For all
others the fault is one of encoding. -/
theorem executorDigest_signs_registration (config : ExecutorConfig) :
    ((∃ digest, executorDigest config = .ok digest) ↔ config.IsSignable) ∧
    (¬ config.IsSignable → ∃ reason, executorDigest config = .error (.encoding reason)) ∧
    ∀ digest, executorDigest config = .ok digest ↔
      ∃ registration, config.Denotes registration ∧ digest = registration.digest := by
  have succeeds : (∃ digest, executorDigest config = .ok digest) ↔ config.IsSignable := by
    rw [config.isSignable_iff]
    simp only [executorDigest_eq_ok_iff]
    constructor
    · rintro ⟨_, registration, denotes, -⟩
      exact ⟨registration, denotes⟩
    · rintro ⟨registration, denotes⟩
      exact ⟨_, registration, denotes, rfl⟩
  refine ⟨succeeds, fun refused => ?_, executorDigest_eq_ok_iff config⟩
  cases signed : executorDigest config with
  | error fault =>
      obtain ⟨reason, rfl⟩ := typedDataHasher_error signed
      exact ⟨reason, rfl⟩
  | ok digest => exact (refused (succeeds.mp ⟨digest, signed⟩)).elim

/-- A configuration whose executor stands behind a capital mark. -/
def capitalMark : ExecutorConfig where
  timestamp := 1700000000000
  executor := some "0XAbC0000000000000000000000000000000000001"
  feeToken := some "0x2222222222222222222222222222222222222222"
  feeReceiver := some "0x3333333333333333333333333333333333333333"
  clientId := some "test"

/-- The registration that it denotes. -/
def capitalMarkRegistration : Registration where
  chainId := 1
  timestamp := 1700000000000
  executor := ⟨0xab :: 0xc0 :: (List.replicate 17 0 ++ [0x01]), rfl⟩
  inputTokens := []
  hopAddresses := []
  feeInBPS := 0
  feeToken := ⟨List.replicate 20 0x22, rfl⟩
  feeReceiver := ⟨List.replicate 20 0x33, rfl⟩
  limitPerExecution := false
  clientId := "test"

theorem denotes_capitalMark : capitalMark.Denotes capitalMarkRegistration where
  chainId := rfl
  timestamp := rfl
  executor := ⟨_, rfl, ['0', 'X'], by decide, _, rfl, by decide⟩
  inputTokens := .nil
  hopAddresses := .nil
  feeInBPS := rfl
  feeToken := ⟨_, rfl, ['0', 'x'], by decide, _, rfl, by decide⟩
  feeReceiver := ⟨_, rfl, ['0', 'x'], by decide, _, rfl, by decide⟩
  limitPerExecution := rfl
  clientId := rfl

theorem isSignable_capitalMark : capitalMark.IsSignable :=
  capitalMark.isSignable_iff.mpr ⟨_, denotes_capitalMark⟩

/-- The mark may be capital: a digest is signed for an executor that is no forty digits, alone
or behind `0x`. -/
theorem executorDigest_capitalMark :
    (∃ digest, executorDigest capitalMark = .ok digest) ∧
    ¬ ∃ text, capitalMark.executor = some text ∧
      ∃ digits, (text.toList = digits ∨ text.toList = '0' :: 'x' :: digits) ∧
        digits.length = 40 ∧ ∀ c ∈ digits, Hex.IsDigit c := by
  constructor
  · obtain ⟨registration, denotes⟩ := capitalMark.isSignable_iff.mp isSignable_capitalMark
    exact ⟨_, (executorDigest_eq_ok_iff _ _).mpr ⟨registration, denotes, rfl⟩⟩
  · rintro ⟨_, ⟨⟩, digits, rfl | marked, -, isDigit⟩
    · exact absurd (isDigit 'X' (by decide)) (by decide)
    · have second : "0XAbC0000000000000000000000000000000000001".toList[1]? = some 'x' :=
        congrArg (·[1]?) marked
      exact absurd second (by decide)

end ExecutorRegistration
