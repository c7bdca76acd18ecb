import ExecutorRegistration.Proofs.Registration.Report
import ExecutorRegistration.Proofs.TypedData.SchemaDigest

/-!
# The wallet that signs

The first digest is signed only for a configuration whose executor is an address, and then a wallet
with this address signs the second one. So the first question decides whether there is a report,
and how it fails if there is none; nothing that comes after it can fail.
-/

namespace ExecutorRegistration

open TypedData

/-! ## The digest of octets -/

/-- A wallet signs octets of any number, and their digest is a formula in the chain, the wallet and
the octets. -/
theorem safeMessageDigest_signs_octets (message : List UInt8) (chainId : UInt64) (safe : Address) :
    safeMessageDigest message chainId safe =
      .ok (keccak256 ([0x19, 0x01] ++
        (keccak256 ((keccakText
            "EIP712Domain(uint256 chainId,address verifyingContract)").toList ++
          bigEndian 32 chainId.toNat ++ (List.replicate 12 0 ++ safe.toList))).toList ++
        (keccak256 ((keccakText "SafeMessage(bytes message)").toList ++
          (keccak256 message).toList)).toList)) := by
  have type_eq : Schema.safeMessage.encodeType = "SafeMessage(bytes message)" := by decide
  have words_eq : concatWords ([TypedValue.octets message].map TypedValue.hashWord) =
      (keccak256 message).toList := by
    rw [List.map_singleton, concatWords_cons, concatWords_nil, List.append_nil]
    rfl
  rw [safeMessageDigest_eq, structDigest_eq, Schema.standardDigest, type_eq, words_eq]
  rfl

/-! ## The first question decides -/

/-- A report is made for each first digest. -/
theorem exists_generate_of_ok {settings : Settings} {digest : Digest}
    (signed : executorDigest settings.executor = .ok digest) :
    ∃ report, (SigningReport.generate typedDataHasher settings).run = .ok report := by
  obtain ⟨registration, denotes, -⟩ := (executorDigest_eq_ok_iff _ _).mp signed
  obtain ⟨text, isSafe⟩ := denotes.safe
  exact ⟨_, generate_of_denotes denotes isSafe⟩

theorem generate_eq_error_iff (settings : Settings) (fault : DigestFault) :
    (SigningReport.generate typedDataHasher settings).run = .error fault ↔
      executorDigest settings.executor = .error fault := by
  refine ⟨fun failed => ?_, generate_of_error⟩
  cases signed : executorDigest settings.executor with
  | error other =>
      rw [generate_of_error signed] at failed
      rw [Except.error.inj failed]
  | ok digest =>
      obtain ⟨report, generated⟩ := exists_generate_of_ok signed
      rw [generated] at failed
      cases failed

theorem exists_generate_iff (settings : Settings) :
    (∃ report, (SigningReport.generate typedDataHasher settings).run = .ok report) ↔
      ∃ digest, executorDigest settings.executor = .ok digest := by
  constructor
  · rintro ⟨report, generated⟩
    obtain ⟨registration, text, denotes, -, -⟩ := (generate_eq_ok_iff _ _).mp generated
    exact ⟨_, denotes.executorDigest⟩
  · rintro ⟨digest, signed⟩
    exact exists_generate_of_ok signed

/-! ## The executor and the wallet -/

/-- The executor's field is encoded as the address that its text denotes. -/
theorem executorWord_eq {config : ExecutorConfig} {text : String} {safe : Address} {word : Word}
    {members : List (String × Json)} (isSet : config.executor = some text)
    (denotes : Address.Denotes text safe) (sorted : config.message.sorted = .object members)
    (encodes : Field.Encodes members ⟨"executor", "address"⟩ word) :
    word.toList = List.replicate 12 0 ++ safe.toList := by
  rw [config.message_sorted, Json.object.injEq] at sorted
  obtain ⟨type, found, isName, isFound, encoded⟩ := encodes
  obtain ⟨parsed, parsed_eq, resolved⟩ := (namesType_iff _ _).mp isName
  obtain rfl : ⟨"address", .identifier, []⟩ = parsed := Option.some.inj parsed_eq
  obtain rfl : ValueType.address = type := Option.some.inj resolved
  have found_eq : Json.ofOption config.executor = found := by
    rw [← sorted] at isFound
    exact Option.some.inj isFound
  rw [isSet] at found_eq
  obtain ⟨other, address, other_eq, otherDenotes, word_eq⟩ := encoded
  rw [← found_eq] at other_eq
  obtain rfl : text = other := Json.string.inj other_eq
  rw [word_eq, denotes.unique otherDenotes]

/-- In the first digest of a report the executor's field is encoded as the address of the wallet. -/
theorem exists_executorWord {config : ExecutorConfig} {text : String} {safe : Address}
    {digest : Digest} (isSet : config.executor = some text) (denotes : Address.Denotes text safe)
    (signed : executorDigest config = .ok digest) :
    ∃ members words word, config.message.sorted = .object members ∧
      List.Forall₂ (Field.Encodes members) Schema.registerExecutor.fields words ∧
      digest = Schema.registerExecutor.standardDigest (.chain config.chainId) words ∧
      (⟨"executor", "address"⟩, word) ∈ Schema.registerExecutor.fields.zip words ∧
      word.toList = List.replicate 12 0 ++ safe.toList := by
  obtain ⟨members, words, embeds, areEncoded, digest_eq⟩ :=
    (isMessage_registerExecutor.signingDigest_eq_ok_iff _ _ _).mp
      ((typedDataHasher_eq_ok_iff (config.query .registerExecutor) digest).mp signed)
  have sorted : config.message.sorted = .object members :=
    Option.some.inj (config.resolveEmbedded?_message.symm.trans embeds)
  -- The executor's field is the second one.
  cases areEncoded with
  | cons first others =>
      cases others with
      | cons second rest =>
          exact ⟨members, _, _, sorted, .cons first (.cons second rest), digest_eq,
            List.mem_cons_of_mem _ List.mem_cons_self, executorWord_eq isSet denotes sorted second⟩

/-- A report is made, or the fault is one of encoding. There is a report if the first digest is
signed, and otherwise its fault is that of the first digest, so that neither the executor nor the
second digest gives one. The contract of the second question is the address that is encoded as the
executor in the first digest. -/
theorem generate_asks_executor (settings : Settings) :
    ((∃ report, (SigningReport.generate typedDataHasher settings).run = .ok report) ∨
      ∃ reason, (SigningReport.generate typedDataHasher settings).run =
        .error (.encoding reason)) ∧
    ((∃ report, (SigningReport.generate typedDataHasher settings).run = .ok report) ↔
      ∃ digest, executorDigest settings.executor = .ok digest) ∧
    (∀ fault, (SigningReport.generate typedDataHasher settings).run = .error fault ↔
      executorDigest settings.executor = .error fault) ∧
    ∀ digest, executorDigest settings.executor = .ok digest →
      ∃ text safe safeMessageHash, settings.executor.executor = some text ∧
        Address.parse text = .ok safe ∧
        safeMessageDigest digest.toList settings.executor.chainId safe = .ok safeMessageHash ∧
        (SigningReport.generate typedDataHasher settings).run =
          .ok ⟨settings.executor.timestamp, digest, safeMessageHash,
            signingCommand settings.keyManagerPath text safeMessageHash⟩ ∧
        ((SigningReport.generate recordingHasher settings).run ⟨[], []⟩).2.queries =
          [settings.executor.query .registerExecutor,
            safeMessageQuery digest.toList settings.executor.chainId safe] ∧
        ∃ members words word, settings.executor.message.sorted = .object members ∧
          List.Forall₂ (Field.Encodes members) Schema.registerExecutor.fields words ∧
          digest = Schema.registerExecutor.standardDigest (.chain settings.executor.chainId) words ∧
          (⟨"executor", "address"⟩, word) ∈ Schema.registerExecutor.fields.zip words ∧
          word.toList = List.replicate 12 0 ++ safe.toList := by
  refine ⟨?_, exists_generate_iff settings, generate_eq_error_iff settings, ?_⟩
  · cases generated : (SigningReport.generate typedDataHasher settings).run with
    | ok report => exact .inl ⟨report, rfl⟩
    | error fault =>
        obtain ⟨reason, rfl⟩ :=
          typedDataHasher_error ((generate_eq_error_iff settings fault).mp generated)
        exact .inr ⟨reason, rfl⟩
  · intro digest signed
    obtain ⟨registration, denotes, rfl⟩ := (executorDigest_eq_ok_iff _ _).mp signed
    obtain ⟨text, isSafe⟩ := denotes.safe
    obtain ⟨isSet, textDenotes⟩ := (settings.executor.safe_eq_ok_iff _ _).mp isSafe
    have parsed := (Address.parse_eq_ok_iff _ _).mpr textDenotes
    have second := safeMessageDigest_eq registration.digest.toList settings.executor.chainId
      registration.executor
    refine ⟨text, registration.executor, _, isSet, parsed, second,
      generate_of_answers denotes.executorDigest isSafe second, ?_,
      exists_executorWord isSet textDenotes signed⟩
    rw [queries_of_denotes denotes, denotes.chainId]

/-- The second question for an executor is asked under its own address. Where nothing is set, the
first question has no answer. -/
theorem generate_asks_capitalMark :
    (((SigningReport.generate recordingHasher { executor := capitalMark }).run
        ⟨[], []⟩).2.queries.map HashQuery.domain =
          [.chain 1, .contract 1 capitalMarkRegistration.executor] ∧
      ∃ report, (SigningReport.generate typedDataHasher { executor := capitalMark }).run =
        .ok report) ∧
    ∃ reason, (SigningReport.generate typedDataHasher {}).run = .error (.encoding reason) := by
  constructor
  · obtain ⟨text, safe, safeMessageHash, isSet, parsed, -, generated, asked, -⟩ :=
      (generate_asks_executor { executor := capitalMark }).2.2.2 _
        denotes_capitalMark.executorDigest
    obtain rfl : "0XAbC0000000000000000000000000000000000001" = text := Option.some.inj isSet
    obtain rfl : capitalMarkRegistration.executor = safe := Except.ok.inj parsed
    rw [asked]
    exact ⟨rfl, _, generated⟩
  · have unset : executorDigest ({} : Settings).executor = .error (.encoding _) := rfl
    exact ⟨_, ((generate_asks_executor {}).2.2.1 _).mpr unset⟩

end ExecutorRegistration
