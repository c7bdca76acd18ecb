import ExecutorRegistration.Octets
import ExecutorRegistration.TypedData.TypeName

/-!
# Schemas and domains

A schema names a primary type and lists its fields; their order is part of what is hashed. A
domain separates the digests of one chain, or of one contract on a chain, from all others.
-/

namespace ExecutorRegistration.TypedData

/-- A field of a schema. -/
structure Field where
  /-- The name of the field. -/
  name : String
  /-- The name of its type. -/
  type : String
deriving DecidableEq, Repr

/-- A primary type with its fields in order. -/
structure Schema where
  /-- The name of the primary type. -/
  primaryType : String
  /-- The fields. -/
  fields : List Field
deriving DecidableEq, Repr

/-- The text of a type, such as `SafeMessage(bytes message)`. -/
def Schema.encodeType (schema : Schema) : String :=
  schema.primaryType ++ "(" ++
    ",".intercalate (schema.fields.map fun field => field.type ++ " " ++ field.name) ++ ")"

/-- The message by which an executor is registered. -/
def Schema.registerExecutor : Schema where
  primaryType := "RegisterExecutor"
  fields :=
    [⟨"timestamp", "uint256"⟩,
     ⟨"executor", "address"⟩,
     ⟨"inputTokens", "address[]"⟩,
     ⟨"hopAddresses", "address[]"⟩,
     ⟨"feeInBPS", "uint256"⟩,
     ⟨"feeToken", "address"⟩,
     ⟨"feeReceiver", "address"⟩,
     ⟨"limitPerExecution", "bool"⟩,
     ⟨"clientId", "string"⟩]

/-- The message by which a wallet signs octets. -/
def Schema.safeMessage : Schema where
  primaryType := "SafeMessage"
  fields := [⟨"message", "bytes"⟩]

/-- What a digest is bound to. -/
structure Domain where
  /-- The chain. -/
  chainId : UInt64
  /-- The contract that verifies the signature, if there is one. -/
  verifyingContract : Option Address
deriving DecidableEq, Repr

/-- The domain of a whole chain. -/
def Domain.chain (chainId : UInt64) : Domain := ⟨chainId, none⟩

/-- The domain of a contract on a chain. -/
def Domain.contract (chainId : UInt64) (contract : Address) : Domain := ⟨chainId, some contract⟩

end ExecutorRegistration.TypedData
