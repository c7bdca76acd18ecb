import ExecutorRegistration.Proofs.Registration.Digest

/-!
# The report for a registration

The second digest is that of the octets of the first one, signed by the executor itself. It can
always be computed, so that a report is made for exactly the configurations that denote a
registration, and it is a formula in that registration.
-/

namespace ExecutorRegistration

open TypedData

/-! ## The digest that the wallet signs -/

theorem resolve_safeMessage : Schema.safeMessage.resolve = .ok (.object [("message", .bytes)]) :=
  rfl

/-- The message of a wallet holds the octets that are written in it. -/
theorem fieldValues?_safeMessage (message : List UInt8) :
    fieldValues? .safeMessage (.object [("message", .string (Hex.encode message))]) =
      some [.octets message] := by
  have embeds : (Json.object [("message", .string (Hex.encode message))]).resolveEmbedded? =
      some (.object [("message", .string (Hex.encode message))]) := by
    simp [Json.resolveEmbedded?, Json.embeddedValue?, Json.embeddedKey, Json.resolveMembers?]
  have coerced : coerceFields [("message", .bytes)]
      (.object [("message", .string (Hex.encode message))]) = .ok [.octets message] := by
    rw [coerceFields_eq_ok_iff]
    exact .cons ⟨_, rfl, coerce_bytes_encode message⟩ .nil
  rw [fieldValues?, embeds, resolve_safeMessage]
  dsimp only [coerceObject]
  rw [coerced]
  rfl

/-- A wallet signs octets of any kind. -/
theorem safeMessageDigest_eq (message : List UInt8) (chainId : UInt64) (safe : Address) :
    safeMessageDigest message chainId safe =
      .ok (structDigest (.contract chainId safe) .safeMessage [.octets message]) := by
  have asked : safeMessageDigest message chainId safe =
      typedDataHasher (safeMessageQuery message chainId safe) := rfl
  rw [asked, typedDataHasher_eq_ok_iff, safeMessageQuery,
    signingDigest_eq_ok_iff resolve_safeMessage]
  exact ⟨_, fieldValues?_safeMessage message, rfl⟩

/-- The digest that the executor signs for a registration. -/
def Registration.safeMessageHash (registration : Registration) : Digest :=
  structDigest (.contract registration.chainId registration.executor) .safeMessage
    [.octets registration.digest.toList]

/-- The report for a registration, with the text by which the executor is known. -/
def Registration.report (registration : Registration) (keyManagerPath executor : String) :
    SigningReport where
  timestamp := registration.timestamp
  dataHash := registration.digest
  safeMessageHash := registration.safeMessageHash
  command := signingCommand keyManagerPath executor registration.safeMessageHash

/-! ## The report -/

theorem ExecutorConfig.safe_eq_ok_iff (config : ExecutorConfig) (text : String) (safe : Address) :
    config.safe = .ok (text, safe) ↔
      config.executor = some text ∧ Address.Denotes text safe := by
  rw [← Address.parse_eq_ok_iff]
  unfold ExecutorConfig.safe
  cases config.executor with
  | none => simp
  | some other =>
      rw [Option.some.injEq]
      constructor
      · intro found
        cases parsed : Address.parse other with
        | error fault => simp [parsed] at found
        | ok address =>
            simp only [parsed, Except.ok.injEq, Prod.mk.injEq] at found
            exact ⟨found.1, by rw [← found.1, ← found.2, parsed]⟩
      · rintro ⟨rfl, parsed⟩
        simp only [parsed]

/-- The executor of a registration is the wallet that signs it. -/
theorem ExecutorConfig.Denotes.safe {config : ExecutorConfig} {registration : Registration}
    (denotes : config.Denotes registration) :
    ∃ text, config.safe = .ok (text, registration.executor) := by
  obtain ⟨text, isSet, textDenotes⟩ := denotes.executor
  exact ⟨text, (config.safe_eq_ok_iff _ _).mpr ⟨isSet, textDenotes⟩⟩

theorem ExecutorConfig.Denotes.executorDigest {config : ExecutorConfig}
    {registration : Registration} (denotes : config.Denotes registration) :
    executorDigest config = .ok registration.digest :=
  (executorDigest_eq_ok_iff _ _).mpr ⟨registration, denotes, rfl⟩

/-- Answers to both questions make a report. -/
theorem generate_of_answers {hasher : Hasher Id} {settings : Settings}
    {dataHash safeMessageHash : Digest} {text : String} {safe : Address}
    (first : hasher (settings.executor.query .registerExecutor) = .ok dataHash)
    (isSafe : settings.executor.safe = .ok (text, safe))
    (second : hasher (safeMessageQuery dataHash.toList settings.executor.chainId safe) =
      .ok safeMessageHash) :
    (SigningReport.generate hasher settings).run =
      .ok ⟨settings.executor.timestamp, dataHash, safeMessageHash,
        signingCommand settings.keyManagerPath text safeMessageHash⟩ := by
  unfold SigningReport.generate
  simp only [first, isSafe, second, bind, pure, Id.run]

/-- A fault of the first digest is that of the report. -/
theorem generate_of_error {settings : Settings} {fault : DigestFault}
    (failed : executorDigest settings.executor = .error fault) :
    (SigningReport.generate typedDataHasher settings).run = .error fault := by
  have first : typedDataHasher (settings.executor.query .registerExecutor) = .error fault := failed
  unfold SigningReport.generate
  simp only [first, Id.run, bind, pure]

/-- Both questions are answered for a configuration that denotes a registration. -/
theorem generate_of_denotes {settings : Settings} {registration : Registration} {text : String}
    (denotes : settings.executor.Denotes registration)
    (isSafe : settings.executor.safe = .ok (text, registration.executor)) :
    (SigningReport.generate typedDataHasher settings).run =
      .ok (registration.report settings.keyManagerPath text) := by
  have second := safeMessageDigest_eq registration.digest.toList settings.executor.chainId
    registration.executor
  rw [generate_of_answers denotes.executorDigest isSafe second, denotes.timestamp,
    denotes.chainId, Registration.report, Registration.safeMessageHash]

/-- A report is that of the registration which the configuration denotes. -/
theorem generate_eq_ok_iff (settings : Settings) (report : SigningReport) :
    (SigningReport.generate typedDataHasher settings).run = .ok report ↔
      ∃ registration text, settings.executor.Denotes registration ∧
        settings.executor.safe = .ok (text, registration.executor) ∧
        report = registration.report settings.keyManagerPath text := by
  constructor
  · intro generated
    cases signed : executorDigest settings.executor with
    | error fault =>
        rw [generate_of_error signed] at generated
        cases generated
    | ok digest =>
        obtain ⟨registration, denotes, -⟩ := (executorDigest_eq_ok_iff _ _).mp signed
        obtain ⟨text, safe⟩ := denotes.safe
        rw [generate_of_denotes denotes safe] at generated
        exact ⟨registration, text, denotes, safe, (Except.ok.inj generated).symm⟩
  · rintro ⟨registration, text, denotes, safe, rfl⟩
    exact generate_of_denotes denotes safe

/-- A computation goes on from the state in which its first step ends. -/
theorem run_bind_eq {σ α β : Type} {first : StateM σ α} {rest : α → StateM σ β} {state next : σ}
    {value : α} (ended : first.run state = (value, next)) :
    (first >>= rest).run state = (rest value).run next := by
  rw [StateT.run_bind, ended]
  rfl

/-- Without prescribed answers a question is answered as by the hasher for typed data. -/
theorem run_recordingHasher {query : HashQuery} {answer : Except DigestFault Digest}
    (answered : typedDataHasher query = answer) (queries : List HashQuery) :
    (recordingHasher query).run ⟨[], queries⟩ = (answer, ⟨[], queries ++ [query]⟩) := by
  rw [← answered]
  rfl

/-- The hasher is asked for the digest of the registration and then for that of the wallet. -/
theorem queries_of_denotes {settings : Settings} {registration : Registration}
    (denotes : settings.executor.Denotes registration) :
    ((SigningReport.generate recordingHasher settings).run ⟨[], []⟩).2.queries =
      [settings.executor.query .registerExecutor,
       safeMessageQuery registration.digest.toList registration.chainId
         registration.executor] := by
  obtain ⟨text, safe⟩ := denotes.safe
  have first := run_recordingHasher denotes.executorDigest []
  have second := run_recordingHasher (safeMessageDigest_eq registration.digest.toList
    registration.chainId registration.executor) [settings.executor.query .registerExecutor]
  unfold SigningReport.generate
  rw [run_bind_eq first]
  simp only [safe, denotes.chainId, List.nil_append]
  rw [run_bind_eq second]
  rfl

end ExecutorRegistration
