import ExecutorRegistration.Settings.Basic

/-!
# The body of a registration

The body holds what was signed, the signature with its timestamp, and what is shown beside it.
Values that are not set are left out.
-/

namespace ExecutorRegistration

/-- The body of a registration. -/
structure Payload where
  /-- The tokens that the executor takes. -/
  inputTokens : List String
  /-- The addresses through which it routes. -/
  hopAddresses : List String
  /-- The fee in hundredths of a percent. -/
  feeInBPS : UInt64
  /-- The token in which the fee is paid. -/
  feeToken : Option String
  /-- The address to which the fee is paid. -/
  feeReceiver : Option String
  /-- Whether the executor is limited to one run per execution. -/
  limitPerExecution : Bool
  /-- The address of the executor. -/
  executor : Option String
  /-- The signature. -/
  signature : String
  /-- The chain. -/
  chainId : UInt64
  /-- The timestamp that was signed. -/
  timestamp : UInt64
  /-- What is shown beside the registration. -/
  metadata : ExecutorMetadata
  /-- The name by which the client is known. -/
  clientId : Option String
deriving Repr

namespace Payload

/-- The body for settings, with no signature and no timestamp yet. -/
def unsigned (settings : Settings) : Payload where
  inputTokens := settings.executor.inputTokens
  hopAddresses := settings.executor.hopAddresses
  feeInBPS := settings.executor.feeInBPS
  feeToken := settings.executor.feeToken
  feeReceiver := settings.executor.feeReceiver
  limitPerExecution := settings.executor.limitPerExecution
  executor := settings.executor.executor
  signature := ""
  chainId := settings.executor.chainId
  timestamp := 0
  metadata := settings.metadata
  clientId := settings.executor.clientId

/-- The body with a signature and the timestamp that was signed. -/
def withSignature (payload : Payload) (signature : String) (timestamp : UInt64) : Payload :=
  { payload with signature, timestamp }

/-- A member for a value that is set. -/
def optionalMember (key : String) (value : Option String) : List (String × Json) :=
  (value.map fun text => (key, Json.string text)).toList

/-- The body as JSON. -/
def toJson (payload : Payload) : Json :=
  .object
    ([("config", .object
        ([("inputTokens", .ofStrings payload.inputTokens),
          ("hopAddresses", .ofStrings payload.hopAddresses),
          ("feeInBPS", .ofUInt64 payload.feeInBPS)] ++
          optionalMember "feeToken" payload.feeToken ++
          optionalMember "feeReceiver" payload.feeReceiver ++
          [("limitPerExecution", .bool payload.limitPerExecution)]))] ++
      optionalMember "executor" payload.executor ++
      [("signature", .string payload.signature),
       ("chainId", .ofUInt64 payload.chainId),
       ("timestamp", .ofUInt64 payload.timestamp),
       ("executorMetadata", .object
        (optionalMember "id" payload.clientId ++
          optionalMember "name" payload.metadata.name ++
          optionalMember "logo" payload.metadata.logo ++
          [("metadata", .object [("addressTags", .object payload.metadata.addressTags)])]))])

end Payload

end ExecutorRegistration
