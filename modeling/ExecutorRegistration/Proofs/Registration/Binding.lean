import ExecutorRegistration.Proofs.Keccak
import ExecutorRegistration.Proofs.Registration.Report

/-!
# What the digests bind

Two configurations agree if all values that are signed are equal, where address texts count by
the addresses that they denote. Configurations that agree have equal digests, and without a
collision among the strings that are hashed for them, configurations with equal digests agree.
-/

namespace ExecutorRegistration

open TypedData

/-! ## Agreement -/

/-- Two texts denote one address. -/
def Address.SameText (left right : String) : Prop :=
  ∃ address, Denotes left address ∧ Denotes right address

/-- Two optional texts denote one address. -/
def SameAddress (left right : Option String) : Prop :=
  ∃ address, DenotesAddress left address ∧ DenotesAddress right address

/-- Two configurations agree on all values that are signed. -/
structure ExecutorConfig.Agrees (left right : ExecutorConfig) : Prop where
  chainId : left.chainId = right.chainId
  timestamp : left.timestamp = right.timestamp
  executor : SameAddress left.executor right.executor
  inputTokens : List.Forall₂ Address.SameText left.inputTokens right.inputTokens
  hopAddresses : List.Forall₂ Address.SameText left.hopAddresses right.hopAddresses
  feeInBPS : left.feeInBPS = right.feeInBPS
  feeToken : SameAddress left.feeToken right.feeToken
  feeReceiver : SameAddress left.feeReceiver right.feeReceiver
  limitPerExecution : left.limitPerExecution = right.limitPerExecution
  clientId : left.clientId = right.clientId

theorem DenotesAddress.unique {text? : Option String} {left right : Address}
    (denotesLeft : DenotesAddress text? left) (denotesRight : DenotesAddress text? right) :
    left = right := by
  obtain ⟨text, isSet, denotes⟩ := denotesLeft
  obtain ⟨other, otherSet, otherDenotes⟩ := denotesRight
  obtain rfl := Option.some.inj (isSet.symm.trans otherSet)
  exact denotes.unique otherDenotes

theorem SameAddress.eq {left right : Option String} {leftAddress rightAddress : Address}
    (same : SameAddress left right) (denotesLeft : DenotesAddress left leftAddress)
    (denotesRight : DenotesAddress right rightAddress) : leftAddress = rightAddress := by
  obtain ⟨address, leftDenotes, rightDenotes⟩ := same
  rw [denotesLeft.unique leftDenotes, denotesRight.unique rightDenotes]

/-- Lists that denote addresses denote the same ones if their items do. -/
theorem forall₂_sameText_iff {left right : List String}
    {leftAddresses rightAddresses : List Address}
    (denotesLeft : List.Forall₂ Address.Denotes left leftAddresses)
    (denotesRight : List.Forall₂ Address.Denotes right rightAddresses) :
    List.Forall₂ Address.SameText left right ↔ leftAddresses = rightAddresses := by
  induction denotesLeft generalizing right rightAddresses with
  | nil => cases denotesRight <;> simp
  | cons first rest ih =>
      cases denotesRight with
      | nil => simp
      | cons otherFirst otherRest =>
          rw [List.forall₂_cons, ih otherRest, List.cons.injEq]
          refine and_congr_left fun _ => ⟨?_, ?_⟩
          · rintro ⟨address, denotes, otherDenotes⟩
            rw [first.unique denotes, otherFirst.unique otherDenotes]
          · rintro rfl
            exact ⟨_, first, otherFirst⟩

/-- Configurations agree if they denote the same registration. -/
theorem ExecutorConfig.Denotes.agrees_iff {left right : ExecutorConfig}
    {leftRegistration rightRegistration : Registration}
    (denotesLeft : left.Denotes leftRegistration)
    (denotesRight : right.Denotes rightRegistration) :
    left.Agrees right ↔ leftRegistration = rightRegistration := by
  constructor
  · intro agrees
    have chainId := denotesLeft.chainId.symm.trans (agrees.chainId.trans denotesRight.chainId)
    have timestamp :=
      denotesLeft.timestamp.symm.trans (agrees.timestamp.trans denotesRight.timestamp)
    have feeInBPS :=
      denotesLeft.feeInBPS.symm.trans (agrees.feeInBPS.trans denotesRight.feeInBPS)
    have limit := denotesLeft.limitPerExecution.symm.trans
      (agrees.limitPerExecution.trans denotesRight.limitPerExecution)
    have clientId :=
      denotesLeft.clientId.symm.trans (agrees.clientId.trans denotesRight.clientId)
    have executor := agrees.executor.eq denotesLeft.executor denotesRight.executor
    have feeToken := agrees.feeToken.eq denotesLeft.feeToken denotesRight.feeToken
    have feeReceiver := agrees.feeReceiver.eq denotesLeft.feeReceiver denotesRight.feeReceiver
    have inputTokens :=
      (forall₂_sameText_iff denotesLeft.inputTokens denotesRight.inputTokens).mp
        agrees.inputTokens
    have hopAddresses :=
      (forall₂_sameText_iff denotesLeft.hopAddresses denotesRight.hopAddresses).mp
        agrees.hopAddresses
    cases leftRegistration
    cases rightRegistration
    simp only [Registration.mk.injEq]
    exact ⟨chainId, timestamp, executor, inputTokens, hopAddresses, feeInBPS, feeToken,
      feeReceiver, limit, Option.some.inj clientId⟩
  · rintro rfl
    exact
      { chainId := denotesLeft.chainId.trans denotesRight.chainId.symm
        timestamp := denotesLeft.timestamp.trans denotesRight.timestamp.symm
        executor := ⟨_, denotesLeft.executor, denotesRight.executor⟩
        inputTokens :=
          (forall₂_sameText_iff denotesLeft.inputTokens denotesRight.inputTokens).mpr rfl
        hopAddresses :=
          (forall₂_sameText_iff denotesLeft.hopAddresses denotesRight.hopAddresses).mpr rfl
        feeInBPS := denotesLeft.feeInBPS.trans denotesRight.feeInBPS.symm
        feeToken := ⟨_, denotesLeft.feeToken, denotesRight.feeToken⟩
        feeReceiver := ⟨_, denotesLeft.feeReceiver, denotesRight.feeReceiver⟩
        limitPerExecution :=
          denotesLeft.limitPerExecution.trans denotesRight.limitPerExecution.symm
        clientId := denotesLeft.clientId.trans denotesRight.clientId.symm }

/-! ## The strings that are hashed -/

/-- The strings that are hashed to answer a question. -/
def HashQuery.hashInputs (query : HashQuery) : List (List UInt8) :=
  match fieldValues? query.schema query.values with
  | some values => structInputs query.domain query.schema values
  | none => []

theorem HashQuery.hashInputs_of_values {query : HashQuery} {values : List TypedValue}
    (coerced : fieldValues? query.schema query.values = some values) :
    query.hashInputs = structInputs query.domain query.schema values := by
  rw [hashInputs, coerced]

/-- The strings that are hashed for the digest of a configuration. -/
def ExecutorConfig.hashInputs (config : ExecutorConfig) : List (List UInt8) :=
  (config.query .registerExecutor).hashInputs

/-- The strings that are hashed to answer the questions asked for a report. -/
def Settings.hashInputs (settings : Settings) : List (List UInt8) :=
  ((SigningReport.generate recordingHasher settings).run ⟨[], []⟩).2.queries.flatMap
    HashQuery.hashInputs

/-- The strings that are hashed for the digest of a registration. -/
def Registration.hashInputs (registration : Registration) : List (List UInt8) :=
  structInputs (.chain registration.chainId) .registerExecutor registration.values

/-- The strings that are hashed for a report on a registration. -/
def Registration.reportInputs (registration : Registration) : List (List UInt8) :=
  registration.hashInputs ++
    structInputs (.contract registration.chainId registration.executor) .safeMessage
      [.octets registration.digest.toList]

theorem ExecutorConfig.Denotes.hashInputs {config : ExecutorConfig} {registration : Registration}
    (denotes : config.Denotes registration) : config.hashInputs = registration.hashInputs := by
  have coerced := (config.fieldValues?_message_iff registration.values).mpr
    ⟨registration, denotes, rfl⟩
  have inputs : (config.query .registerExecutor).hashInputs =
      structInputs (.chain config.chainId) .registerExecutor registration.values :=
    HashQuery.hashInputs_of_values coerced
  rw [ExecutorConfig.hashInputs, inputs, denotes.chainId, Registration.hashInputs]

theorem hashInputs_safeMessageQuery (message : List UInt8) (chainId : UInt64) (safe : Address) :
    (safeMessageQuery message chainId safe).hashInputs =
      structInputs (.contract chainId safe) .safeMessage [.octets message] :=
  HashQuery.hashInputs_of_values (fieldValues?_safeMessage message)

theorem hashInputs_of_denotes {settings : Settings} {registration : Registration}
    (denotes : settings.executor.Denotes registration) :
    settings.hashInputs = registration.reportInputs := by
  have first : (settings.executor.query .registerExecutor).hashInputs =
      registration.hashInputs := denotes.hashInputs
  rw [Settings.hashInputs, queries_of_denotes denotes, List.flatMap_cons, List.flatMap_cons,
    List.flatMap_nil, List.append_nil, first, hashInputs_safeMessageQuery,
    Registration.reportInputs]

/-! ## Injectivity -/

theorem mem_valueInputs {values : List TypedValue} {value : TypedValue} {input : List UInt8}
    (member : value ∈ values) (hashed : input ∈ value.hashInputs) : input ∈ valueInputs values := by
  induction values with
  | nil => simp at member
  | cons first values ih =>
      rw [valueInputs, List.mem_append]
      rcases List.mem_cons.mp member with rfl | later
      · exact .inl hashed
      · exact .inr (ih later)

theorem Registration.mem_hashInputs {registration : Registration} {value : TypedValue}
    {input : List UInt8} (member : value ∈ registration.values)
    (hashed : input ∈ value.hashInputs) : input ∈ registration.hashInputs := by
  rw [hashInputs, structInputs, List.mem_append, List.mem_append]
  exact .inl (.inr (mem_valueInputs member hashed))

/-- Octets are determined by the word by which they are hashed. -/
theorem octets_injective {inputs : List (List UInt8)} (free : CollisionFree inputs)
    {left right : List UInt8} (leftHashed : (TypedValue.octets left).hashInputs ⊆ inputs)
    (rightHashed : (TypedValue.octets right).hashInputs ⊆ inputs)
    (words : (TypedValue.octets left).hashWord = (TypedValue.octets right).hashWord) :
    left = right :=
  free _ (leftHashed (List.mem_singleton.mpr rfl)) _ (rightHashed (List.mem_singleton.mpr rfl))
    words

/-- A list of addresses is determined by the word by which it is hashed. -/
theorem addressItems_injective {inputs : List (List UInt8)} (free : CollisionFree inputs)
    {left right : List Address} (leftHashed : (addressItems left).hashInputs ⊆ inputs)
    (rightHashed : (addressItems right).hashInputs ⊆ inputs)
    (words : (addressItems left).hashWord = (addressItems right).hashWord) : left = right := by
  have contents := free _ (leftHashed (List.mem_append_right _ (List.mem_singleton.mpr rfl))) _
    (rightHashed (List.mem_append_right _ (List.mem_singleton.mpr rfl))) words
  rw [hashWords_eq, hashWords_eq, List.map_map, List.map_map] at contents
  have padded := concatWords_injective contents
  exact List.map_injective_iff.mpr (fun _ _ => Word.padStart_injective) padded

/-- Without a collision a registration is determined by its digest. -/
theorem Registration.digest_injective {left right : Registration}
    (free : CollisionFree (left.hashInputs ++ right.hashInputs))
    (digests : left.digest = right.digest) : left = right := by
  rw [← left.structDigest_values, ← right.structDigest_values] at digests
  obtain ⟨domains, -, words⟩ := structDigest_injective free digests
  simp only [values, List.map_cons, List.map_nil, List.cons.injEq, and_true] at words
  obtain ⟨timestamp, executor, inputTokens, hopAddresses, feeInBPS, feeToken, feeReceiver, limit,
    clientId⟩ := words
  have ofLeft (value : TypedValue) (member : value ∈ left.values) :
      value.hashInputs ⊆ left.hashInputs ++ right.hashInputs :=
    fun _ hashed => List.mem_append_left _ (mem_hashInputs member hashed)
  have ofRight (value : TypedValue) (member : value ∈ right.values) :
      value.hashInputs ⊆ left.hashInputs ++ right.hashInputs :=
    fun _ hashed => List.mem_append_right _ (mem_hashInputs member hashed)
  have chainId : left.chainId = right.chainId := congrArg Domain.chainId domains
  have tokens := addressItems_injective free (ofLeft _ (by simp [values]))
    (ofRight _ (by simp [values])) inputTokens
  have hops := addressItems_injective free (ofLeft _ (by simp [values]))
    (ofRight _ (by simp [values])) hopAddresses
  have name := octets_injective free (ofLeft _ (by simp [values]))
    (ofRight _ (by simp [values])) clientId
  cases left
  cases right
  simp only [Registration.mk.injEq]
  exact ⟨chainId, Word.ofNat_uint64_injective timestamp, Word.padStart_injective executor, tokens,
    hops, Word.ofNat_uint64_injective feeInBPS, Word.padStart_injective feeToken,
    Word.padStart_injective feeReceiver, Word.ofNat_bool_injective limit,
    Text.eq_of_octets_eq name⟩

theorem TypedData.CollisionFree.hashInputs {left right : Registration}
    (free : CollisionFree (left.reportInputs ++ right.reportInputs)) :
    CollisionFree (left.hashInputs ++ right.hashInputs) :=
  free.mono (List.Sublist.append (List.sublist_append_left _ _)
    (List.sublist_append_left _ _)).subset

/-- Without a collision a registration is determined by the digest that the executor signs. -/
theorem Registration.safeMessageHash_injective {left right : Registration}
    (free : CollisionFree (left.reportInputs ++ right.reportInputs))
    (digests : left.safeMessageHash = right.safeMessageHash) : left = right := by
  have outer : CollisionFree
      (structInputs (.contract left.chainId left.executor) .safeMessage
        [.octets left.digest.toList] ++
      structInputs (.contract right.chainId right.executor) .safeMessage
        [.octets right.digest.toList]) :=
    free.mono (List.Sublist.append (List.sublist_append_right _ _)
      (List.sublist_append_right _ _)).subset
  obtain ⟨-, -, words⟩ := structDigest_injective outer digests
  simp only [List.map_cons, List.map_nil, List.cons.injEq, and_true] at words
  -- The wallet's message is the first digest, so that this one is determined first.
  have digestOctets := octets_injective outer
    (by simp [structInputs, valueInputs, TypedValue.hashInputs])
    (by simp [structInputs, valueInputs, TypedValue.hashInputs]) words
  exact digest_injective free.hashInputs (Octets.ext digestOctets)

/-! ## What is bound -/

/-- Each digest binds all values that are signed and nothing else: configurations that agree have
equal digests, and configurations with equal digests agree, unless two different strings among
those that are hashed for the digests collide. -/
theorem digests_bind_values :
    (∀ left right : ExecutorConfig, ∀ leftDigest rightDigest : Digest,
      executorDigest left = .ok leftDigest → executorDigest right = .ok rightDigest →
        (left.Agrees right → leftDigest = rightDigest) ∧
        (CollisionFree (left.hashInputs ++ right.hashInputs) → leftDigest = rightDigest →
          left.Agrees right)) ∧
    ∀ left right : Settings, ∀ leftReport rightReport : SigningReport,
      (SigningReport.generate typedDataHasher left).run = .ok leftReport →
      (SigningReport.generate typedDataHasher right).run = .ok rightReport →
        (left.executor.Agrees right.executor →
          leftReport.safeMessageHash = rightReport.safeMessageHash) ∧
        (CollisionFree (left.hashInputs ++ right.hashInputs) →
          leftReport.safeMessageHash = rightReport.safeMessageHash →
          left.executor.Agrees right.executor) := by
  constructor
  · intro left right leftDigest rightDigest leftSigned rightSigned
    obtain ⟨leftRegistration, leftDenotes, rfl⟩ := (executorDigest_eq_ok_iff _ _).mp leftSigned
    obtain ⟨rightRegistration, rightDenotes, rfl⟩ :=
      (executorDigest_eq_ok_iff _ _).mp rightSigned
    rw [leftDenotes.agrees_iff rightDenotes, leftDenotes.hashInputs, rightDenotes.hashInputs]
    exact ⟨congrArg Registration.digest, Registration.digest_injective⟩
  · intro left right leftReport rightReport leftGenerated rightGenerated
    obtain ⟨leftRegistration, leftText, leftDenotes, -, rfl⟩ :=
      (generate_eq_ok_iff _ _).mp leftGenerated
    obtain ⟨rightRegistration, rightText, rightDenotes, -, rfl⟩ :=
      (generate_eq_ok_iff _ _).mp rightGenerated
    rw [leftDenotes.agrees_iff rightDenotes, hashInputs_of_denotes leftDenotes,
      hashInputs_of_denotes rightDenotes]
    exact ⟨congrArg Registration.safeMessageHash, Registration.safeMessageHash_injective⟩

/-- A configuration with one token. -/
def takesToken : ExecutorConfig where
  executor := some "0xabababababababababababababababababababab"
  inputTokens := ["0xcdcdcdcdcdcdcdcdcdcdcdcdcdcdcdcdcdcdcdcd"]
  feeToken := some "0x2222222222222222222222222222222222222222"
  feeReceiver := some "0x3333333333333333333333333333333333333333"
  clientId := some "test"

/-- The registration that it denotes. -/
def takesTokenRegistration : Registration :=
  { capitalMarkRegistration with
    timestamp := 0
    executor := ⟨List.replicate 20 0xab, rfl⟩
    inputTokens := [⟨List.replicate 20 0xcd, rfl⟩] }

/-- The same configuration with its addresses spelled otherwise. -/
def takesTokenRespelled : ExecutorConfig :=
  { takesToken with
    executor := some "ABABABABABABABABABABABABABABABABABABABAB"
    inputTokens := ["0XcdCDcdCDcdCDcdCDcdCDcdCDcdCDcdCDcdCDcdCD"] }

/-- The configuration with its token moved to the addresses through which it routes. -/
def routesThroughToken : ExecutorConfig :=
  { takesToken with inputTokens := [], hopAddresses := takesToken.inputTokens }

/-- The registration that it denotes. -/
def routesThroughTokenRegistration : Registration :=
  { takesTokenRegistration with
    inputTokens := [], hopAddresses := takesTokenRegistration.inputTokens }

theorem denotes_takesToken : takesToken.Denotes takesTokenRegistration where
  chainId := rfl
  timestamp := rfl
  executor := ⟨_, rfl, ['0', 'x'], by decide, _, rfl, by decide⟩
  inputTokens := .cons ⟨['0', 'x'], by decide, _, rfl, by decide⟩ .nil
  hopAddresses := .nil
  feeInBPS := rfl
  feeToken := ⟨_, rfl, ['0', 'x'], by decide, _, rfl, by decide⟩
  feeReceiver := ⟨_, rfl, ['0', 'x'], by decide, _, rfl, by decide⟩
  limitPerExecution := rfl
  clientId := rfl

theorem denotes_takesTokenRespelled : takesTokenRespelled.Denotes takesTokenRegistration :=
  { denotes_takesToken with
    executor := ⟨_, rfl, [], by decide, _, rfl, by decide⟩
    inputTokens := .cons ⟨['0', 'X'], by decide, _, rfl, by decide⟩ .nil }

theorem denotes_routesThroughToken :
    routesThroughToken.Denotes routesThroughTokenRegistration :=
  { denotes_takesToken with
    inputTokens := denotes_takesToken.hopAddresses
    hopAddresses := denotes_takesToken.inputTokens }

theorem collisionFree_takesToken : CollisionFree
    (takesTokenRegistration.reportInputs ++ routesThroughTokenRegistration.reportInputs) := by
  simp only [CollisionFree, Registration.reportInputs, Registration.hashInputs,
    ← Registration.structDigest_values, structDigest, structInputs, Domain.hashInputs,
    Domain.separator, Schema.messageHash, signingInput, keccakText, hashWords_eq,
    Registration.values, addressItems, TypedValue.hashWord, valueInputs, TypedValue.hashInputs,
    List.map_cons, List.map_nil, toList_byteArray, keccak256_eq]
  decide +kernel

/-- The spelling of addresses is not bound, but the list in which a token stands is. -/
theorem digests_of_takesToken :
    (∃ digest, executorDigest takesToken = .ok digest ∧
      executorDigest takesTokenRespelled = .ok digest) ∧
    executorDigest takesToken ≠ executorDigest routesThroughToken ∧
    ∃ report routedReport,
      (SigningReport.generate typedDataHasher { executor := takesToken }).run = .ok report ∧
      (SigningReport.generate typedDataHasher { executor := routesThroughToken }).run =
        .ok routedReport ∧
      report.safeMessageHash ≠ routedReport.safeMessageHash := by
  have signed := denotes_takesToken.executorDigest
  have routed := denotes_routesThroughToken.executorDigest
  have free := collisionFree_takesToken
  refine ⟨?_, fun same => ?_, ?_⟩
  · have agrees := (denotes_takesToken.agrees_iff denotes_takesTokenRespelled).mpr rfl
    have respelled := denotes_takesTokenRespelled.executorDigest
    have digests := (digests_bind_values.1 _ _ _ _ signed respelled).1 agrees
    exact ⟨_, signed, respelled.trans (congrArg _ digests.symm)⟩
  · rw [signed, routed] at same
    have agrees := (digests_bind_values.1 _ _ _ _ signed routed).2
      (by
        rw [denotes_takesToken.hashInputs, denotes_routesThroughToken.hashInputs]
        exact free.hashInputs)
      (Except.ok.inj same)
    exact nomatch agrees.inputTokens
  · obtain ⟨executor, safe⟩ := denotes_takesToken.safe
    obtain ⟨routedExecutor, routedSafe⟩ := denotes_routesThroughToken.safe
    have generated := (generate_eq_ok_iff { executor := takesToken } _).mpr
      ⟨_, executor, denotes_takesToken, safe, rfl⟩
    have routedGenerated := (generate_eq_ok_iff { executor := routesThroughToken } _).mpr
      ⟨_, routedExecutor, denotes_routesThroughToken, routedSafe, rfl⟩
    refine ⟨_, _, generated, routedGenerated, fun same => ?_⟩
    have agrees := (digests_bind_values.2 _ _ _ _ generated routedGenerated).2
      (by
        rw [hashInputs_of_denotes denotes_takesToken,
          hashInputs_of_denotes denotes_routesThroughToken]
        exact free)
      same
    exact nomatch agrees.inputTokens

end ExecutorRegistration
