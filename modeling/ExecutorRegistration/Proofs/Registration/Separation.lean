import ExecutorRegistration.Proofs.Keccak
import ExecutorRegistration.Proofs.Registration.Binding

/-!
# Digests of different kinds

The digest of a registration is taken under the domain of a chain, and that of a wallet's message
under the domain of a contract. Without a collision the two are never equal, and the digest of a
wallet's message is that of no other message, chain or wallet.
-/

namespace ExecutorRegistration

open TypedData

/-- Without a collision the digest of a registration is that of no message of a wallet. -/
theorem Registration.digest_ne_safeMessage {registration : Registration} {message : List UInt8}
    {chainId : UInt64} {safe : Address}
    (free : CollisionFree (registration.hashInputs ++
      (safeMessageQuery message chainId safe).hashInputs)) :
    registration.digest ≠ structDigest (.contract chainId safe) .safeMessage [.octets message] := by
  intro digests
  rw [hashInputs_safeMessageQuery] at free
  rw [← registration.structDigest_values] at digests
  obtain ⟨domains, -, -⟩ := structDigest_injective free digests
  -- Only one of the two domains has a contract.
  exact nomatch congrArg Domain.verifyingContract domains

/-- Without a collision the digest of a wallet's message is that of no other message, chain or
wallet. -/
theorem safeMessageDigest_injective {left right : List UInt8} {leftChain rightChain : UInt64}
    {leftSafe rightSafe : Address}
    (free : CollisionFree ((safeMessageQuery left leftChain leftSafe).hashInputs ++
      (safeMessageQuery right rightChain rightSafe).hashInputs))
    (digests : safeMessageDigest left leftChain leftSafe =
      safeMessageDigest right rightChain rightSafe) :
    left = right ∧ leftChain = rightChain ∧ leftSafe = rightSafe := by
  rw [safeMessageDigest_eq, safeMessageDigest_eq, Except.ok.injEq] at digests
  rw [hashInputs_safeMessageQuery, hashInputs_safeMessageQuery] at free
  obtain ⟨domains, -, words⟩ := structDigest_injective free digests
  simp only [List.map_cons, List.map_nil, List.cons.injEq, and_true] at words
  have messages := octets_injective free
    (by simp [structInputs, valueInputs, TypedValue.hashInputs])
    (by simp [structInputs, valueInputs, TypedValue.hashInputs]) words
  exact ⟨messages, congrArg Domain.chainId domains,
    Option.some.inj (congrArg Domain.verifyingContract domains)⟩

/-- A digest of one kind is never used for the other: every message of a wallet has a digest,
which binds the message, the chain and the wallet, and which is the digest of no registration,
unless two different strings among those that are hashed for the digests collide. So the two
digests of a report differ. -/
theorem digests_separate_kinds :
    (∀ (config : ExecutorConfig) (digest : Digest) (message : List UInt8) (chainId : UInt64)
        (safe : Address), executorDigest config = .ok digest →
      CollisionFree (config.hashInputs ++ (safeMessageQuery message chainId safe).hashInputs) →
        safeMessageDigest message chainId safe ≠ .ok digest) ∧
    (∀ (message : List UInt8) (chainId : UInt64) (safe : Address),
      ∃ digest, safeMessageDigest message chainId safe = .ok digest) ∧
    (∀ (left right : List UInt8) (leftChain rightChain : UInt64) (leftSafe rightSafe : Address),
      CollisionFree ((safeMessageQuery left leftChain leftSafe).hashInputs ++
          (safeMessageQuery right rightChain rightSafe).hashInputs) →
        (safeMessageDigest left leftChain leftSafe =
            safeMessageDigest right rightChain rightSafe ↔
          left = right ∧ leftChain = rightChain ∧ leftSafe = rightSafe)) ∧
    ∀ (settings : Settings) (report : SigningReport),
      (SigningReport.generate typedDataHasher settings).run = .ok report →
      CollisionFree settings.hashInputs → report.dataHash ≠ report.safeMessageHash := by
  refine ⟨?_, fun message chainId safe => ⟨_, safeMessageDigest_eq message chainId safe⟩, ?_, ?_⟩
  · intro config digest message chainId safe signed free same
    obtain ⟨registration, denotes, rfl⟩ := (executorDigest_eq_ok_iff _ _).mp signed
    rw [denotes.hashInputs] at free
    rw [safeMessageDigest_eq, Except.ok.injEq] at same
    exact registration.digest_ne_safeMessage free same.symm
  · intro left right leftChain rightChain leftSafe rightSafe free
    refine ⟨safeMessageDigest_injective free, ?_⟩
    rintro ⟨rfl, rfl, rfl⟩
    rfl
  · intro settings report generated free
    obtain ⟨registration, text, denotes, -, rfl⟩ := (generate_eq_ok_iff _ _).mp generated
    rw [hashInputs_of_denotes denotes, Registration.reportInputs,
      ← hashInputs_safeMessageQuery] at free
    exact registration.digest_ne_safeMessage free

/-- A wallet. -/
def onesWallet : Address := ⟨List.replicate 20 0x11, rfl⟩

/-- A message without octets has different digests on two chains, neither of which is that of a
registration. The two digests of a report differ. -/
theorem digests_of_onesWallet :
    safeMessageDigest [] 1 onesWallet ≠ safeMessageDigest [] 2 onesWallet ∧
      safeMessageDigest [] 1 onesWallet ≠ executorDigest capitalMark ∧
      ∃ report, (SigningReport.generate typedDataHasher { executor := capitalMark }).run =
          .ok report ∧ report.dataHash ≠ report.safeMessageHash := by
  refine ⟨fun same => ?_, ?_, ?_⟩
  · have free : CollisionFree ((safeMessageQuery [] 1 onesWallet).hashInputs ++
        (safeMessageQuery [] 2 onesWallet).hashInputs) := by
      rw [hashInputs_safeMessageQuery, hashInputs_safeMessageQuery]
      simp only [CollisionFree, structInputs, Domain.hashInputs, Domain.separator,
        Schema.messageHash, signingInput, keccakText, hashWords, TypedValue.hashWord, keccak256_eq]
      decide +kernel
    obtain ⟨-, chains, -⟩ :=
      (digests_separate_kinds.2.2.1 [] [] 1 2 onesWallet onesWallet free).mp same
    exact absurd chains (by decide)
  · have free : CollisionFree (capitalMark.hashInputs ++
        (safeMessageQuery [] 1 onesWallet).hashInputs) := by
      rw [denotes_capitalMark.hashInputs, hashInputs_safeMessageQuery]
      simp only [CollisionFree, Registration.hashInputs, structInputs, Domain.hashInputs,
        Domain.separator, Schema.messageHash, signingInput, keccakText, hashWords_eq,
        Registration.values, addressItems, TypedValue.hashWord, List.map_cons, List.map_nil,
        toList_byteArray, keccak256_eq]
      decide +kernel
    rw [denotes_capitalMark.executorDigest]
    exact digests_separate_kinds.1 _ _ _ _ _ denotes_capitalMark.executorDigest free
  · obtain ⟨executor, safe⟩ := denotes_capitalMark.safe
    have generated := (generate_eq_ok_iff { executor := capitalMark } _).mpr
      ⟨_, executor, denotes_capitalMark, safe, rfl⟩
    have free : CollisionFree (Settings.hashInputs { executor := capitalMark }) := by
      rw [hashInputs_of_denotes denotes_capitalMark]
      simp only [CollisionFree, Registration.reportInputs, Registration.hashInputs,
        ← Registration.structDigest_values, structDigest, structInputs, Domain.hashInputs,
        Domain.separator, Schema.messageHash, signingInput, keccakText, hashWords_eq,
        Registration.values, addressItems, TypedValue.hashWord, List.map_cons, List.map_nil,
        toList_byteArray, keccak256_eq]
      decide +kernel
    exact ⟨_, generated, digests_separate_kinds.2.2.2 _ _ generated free⟩

end ExecutorRegistration
