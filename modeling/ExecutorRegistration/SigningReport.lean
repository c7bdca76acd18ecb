import ExecutorRegistration.Settings.Basic
import ExecutorRegistration.Text.Basic
import ExecutorRegistration.TypedData.Hashing

/-!
# What is signed for a registration

A registration is signed in two steps. The digest of the registration message is bound to the
chain; the digest that the executor's wallet signs wraps it under the domain of the executor
itself. The report holds both, and the command by which the key manager signs.

The hasher is a parameter, so that its questions can be recorded and its answers prescribed.
-/

namespace ExecutorRegistration

open TypedData

/-- Why no digest is built. -/
inductive DigestFault where
  /-- A text is no address. -/
  | invalidAddress (text : String) (fault : AddressFault)
  /-- A field that is needed is not set. -/
  | missingValue (field : String)
  /-- The typed data cannot be hashed, for a reason in words. -/
  | encoding (reason : String)
deriving DecidableEq, Repr

/-- The wording of a fault. -/
def DigestFault.message : DigestFault → String
  | invalidAddress text fault => "invalid address `" ++ text ++ "`: " ++ fault.message
  | missingValue field => "missing value for `" ++ field ++ "`"
  | encoding reason => "typed data encoding failed: " ++ reason

/-- A question to a hasher. -/
structure HashQuery where
  /-- The domain. -/
  domain : Domain
  /-- The schema. -/
  schema : Schema
  /-- The values of its fields. -/
  values : Json
deriving Repr

/-- What answers questions for digests, with effects in `m`. -/
abbrev Hasher (m : Type → Type) := HashQuery → m (Except DigestFault Digest)

/-- The hasher for typed data. -/
def typedDataHasher : Hasher Id := fun query =>
  (signingDigest query.domain query.schema query.values).mapError
    fun fault => .encoding fault.message

/-- The values of the registration message. -/
def ExecutorConfig.message (config : ExecutorConfig) : Json :=
  .object
    [("timestamp", .ofUInt64 config.timestamp),
     ("executor", .ofOption config.executor),
     ("inputTokens", .ofStrings config.inputTokens),
     ("hopAddresses", .ofStrings config.hopAddresses),
     ("feeInBPS", .ofUInt64 config.feeInBPS),
     ("feeToken", .ofOption config.feeToken),
     ("feeReceiver", .ofOption config.feeReceiver),
     ("limitPerExecution", .bool config.limitPerExecution),
     ("clientId", .ofOption config.clientId)]

/-- The question for the digest of a registration under a schema. -/
def ExecutorConfig.query (config : ExecutorConfig) (schema : Schema) : HashQuery :=
  ⟨.chain config.chainId, schema, config.message.sorted⟩

/-- The question for the digest of octets that a wallet signs. -/
def safeMessageQuery (message : List UInt8) (chainId : UInt64) (safe : Address) : HashQuery :=
  ⟨.contract chainId safe, .safeMessage, .object [("message", .string (Hex.encode message))]⟩

/-- The digest of a registration under a schema. -/
def executorDigestWithSchema (config : ExecutorConfig) (schema : Schema) :
    Except DigestFault Digest :=
  typedDataHasher (config.query schema)

/-- The digest of a registration. -/
def executorDigest (config : ExecutorConfig) : Except DigestFault Digest :=
  executorDigestWithSchema config .registerExecutor

/-- The digest of octets that a wallet signs. -/
def safeMessageDigest (message : List UInt8) (chainId : UInt64) (safe : Address) :
    Except DigestFault Digest :=
  typedDataHasher (safeMessageQuery message chainId safe)

/-- Both digests of a registration and the command that signs the second. -/
structure SigningReport where
  /-- The timestamp within the digest, which has to be submitted with the signature. -/
  timestamp : UInt64
  /-- The digest of the registration message. -/
  dataHash : Digest
  /-- The digest that is signed. -/
  safeMessageHash : Digest
  /-- The command of the key manager. -/
  command : String
deriving DecidableEq, Repr

/-- The command by which the key manager at a path signs a digest for an address. -/
def signingCommand (keyManagerPath executor : String) (digest : Digest) : String :=
  "vault write " ++ Text.trimEnd '/' keyManagerPath ++ "/sign address='" ++ executor ++
    "' hash='" ++ Hex.encode digest.toList ++ "'"

/-- The address of the executor as the contract that verifies the signature. -/
def ExecutorConfig.safe (config : ExecutorConfig) : Except DigestFault (String × Address) :=
  match config.executor with
  | none => .error (.missingValue "executor")
  | some text =>
    match Address.parse text with
    | .error fault => .error (.invalidAddress text fault)
    | .ok address => .ok (text, address)

/-- Asks a hasher for both digests, and reports them. -/
def SigningReport.generate {m : Type → Type} [Monad m] (hasher : Hasher m) (settings : Settings) :
    m (Except DigestFault SigningReport) := do
  let config := settings.executor
  match ← hasher (config.query .registerExecutor) with
  | .error fault => return .error fault
  | .ok dataHash =>
    match config.safe with
    | .error fault => return .error fault
    | .ok (executor, safe) =>
      match ← hasher (safeMessageQuery dataHash.toList config.chainId safe) with
      | .error fault => return .error fault
      | .ok safeMessageHash =>
        return .ok
          { timestamp := config.timestamp
            dataHash
            safeMessageHash
            command := signingCommand settings.keyManagerPath executor safeMessageHash }

/-- A report as JSON. -/
def SigningReport.toJson (report : SigningReport) : Json :=
  .object
    [("timestamp", .ofUInt64 report.timestamp),
     ("dataHash", .string (Hex.encode report.dataHash.toList)),
     ("safeMessageHash", .string (Hex.encode report.safeMessageHash.toList)),
     ("cmd", .string report.command)]

/-- Answers that are still to be given and questions that were asked. -/
structure HashLog where
  /-- The answers to the next questions. -/
  answers : List (Except DigestFault Digest)
  /-- The questions asked, first one first. -/
  queries : List HashQuery

/-- The hasher that gives prescribed answers while there are some, and records all questions. -/
def recordingHasher : Hasher (StateM HashLog) := fun query log =>
  match log.answers with
  | [] => (typedDataHasher query, ⟨[], log.queries ++ [query]⟩)
  | answer :: rest => (answer, ⟨rest, log.queries ++ [query]⟩)

end ExecutorRegistration
