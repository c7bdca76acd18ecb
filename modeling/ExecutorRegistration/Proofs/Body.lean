import ExecutorRegistration.Payload
import ExecutorRegistration.Proofs.Json.Members

/-!
# Reading a configuration from the body of a registration

In the body that is sent each value stands under a key of its own, and a value that is not set
has no key. Everything that is signed can therefore be read from the body again.
-/

namespace ExecutorRegistration

namespace Json

/-! ## Values that are read -/

/-- The number of 64 bits that a value is. -/
def toUInt64? : Json → Option UInt64
  | integer value =>
    if 0 ≤ value ∧ value.toNat < UInt64.size then some (UInt64.ofNat value.toNat) else none
  | _ => none

/-- The truth value that a value is. -/
def toBool? : Json → Option Bool
  | bool value => some value
  | _ => none

/-- What is read from the value under a key of an object. -/
def read? {α : Type} (reader : Json → Option α) (key : String) (json : Json) : Option α :=
  (json.field? key).bind reader

/-- The text under a key of an object, if there is such a key. -/
def optionalText? (key : String) (json : Json) : Option (Option String) :=
  match json.field? key with
  | none => some none
  | some value => value.toText?.map some

theorem toUInt64?_ofUInt64 (value : UInt64) : (ofUInt64 value).toUInt64? = some value := by
  rw [ofUInt64, toUInt64?, Int.toNat_natCast, if_pos ⟨Int.natCast_nonneg _, value.toNat_lt⟩,
    UInt64.ofNat_toNat]

theorem read?_eq_some {α : Type} {reader : Json → Option α} {key : String} {json found : Json}
    {value : α} (isFound : json.field? key = some found) (read : reader found = some value) :
    json.read? reader key = some value := by
  rw [read?, isFound, Option.bind_some, read]

theorem optionalText?_eq_some {key : String} {json : Json} {text? : Option String}
    (found : json.field? key = text?.map string) : json.optionalText? key = some text? := by
  rw [optionalText?, found]
  cases text? <;> rfl

theorem sorted_comp_string : sorted ∘ string = string := rfl

end Json

/-! ## Members of the body -/

namespace Payload

/-- The members under `config`. -/
def configMembers (payload : Payload) : List (String × Json) :=
  [("inputTokens", .ofStrings payload.inputTokens),
    ("hopAddresses", .ofStrings payload.hopAddresses),
    ("feeInBPS", .ofUInt64 payload.feeInBPS)] ++
    optionalMember "feeToken" payload.feeToken ++
    optionalMember "feeReceiver" payload.feeReceiver ++
    [("limitPerExecution", .bool payload.limitPerExecution)]

/-- The members under `executorMetadata`. -/
def metadataMembers (payload : Payload) : List (String × Json) :=
  optionalMember "id" payload.clientId ++
    optionalMember "name" payload.metadata.name ++
    optionalMember "logo" payload.metadata.logo ++
    [("metadata", .object [("addressTags", .object payload.metadata.addressTags)])]

theorem toJson_eq (payload : Payload) :
    payload.toJson = .object ([("config", .object payload.configMembers)] ++
      optionalMember "executor" payload.executor ++
      [("signature", .string payload.signature),
       ("chainId", .ofUInt64 payload.chainId),
       ("timestamp", .ofUInt64 payload.timestamp),
       ("executorMetadata", .object payload.metadataMembers)]) := rfl

theorem member?_reverse_optionalMember (key other : String) (value? : Option String) :
    Json.member? key (optionalMember other value?).reverse =
      if other = key then value?.map .string else none := by
  cases value? with
  | none => split <;> rfl
  | some value => rfl

/-- What stands under the keys of the body. -/
theorem fields_toJson (payload : Payload) :
    payload.toJson.sorted.field? "config" = some (Json.object payload.configMembers).sorted ∧
    payload.toJson.sorted.field? "executor" = payload.executor.map .string ∧
    payload.toJson.sorted.field? "signature" = some (.string payload.signature) ∧
    payload.toJson.sorted.field? "chainId" = some (.ofUInt64 payload.chainId) ∧
    payload.toJson.sorted.field? "timestamp" = some (.ofUInt64 payload.timestamp) ∧
    payload.toJson.sorted.field? "executorMetadata" =
      some (Json.object payload.metadataMembers).sorted := by
  simp only [toJson_eq, Json.field?_sorted_object, List.reverse_append, List.reverse_cons,
    List.reverse_nil, List.nil_append, Json.member?_append, member?_reverse_optionalMember,
    Json.member?]
  simp [Json.sorted_comp_string, Json.sorted]

/-- What stands under the keys of `config`. -/
theorem fields_configMembers (payload : Payload) :
    let config := (Json.object payload.configMembers).sorted
    config.field? "inputTokens" = some (.ofStrings payload.inputTokens) ∧
    config.field? "hopAddresses" = some (.ofStrings payload.hopAddresses) ∧
    config.field? "feeInBPS" = some (.ofUInt64 payload.feeInBPS) ∧
    config.field? "feeToken" = payload.feeToken.map .string ∧
    config.field? "feeReceiver" = payload.feeReceiver.map .string ∧
    config.field? "limitPerExecution" = some (.bool payload.limitPerExecution) := by
  simp only [configMembers, Json.field?_sorted_object, List.reverse_append, List.reverse_cons,
    List.reverse_nil, List.nil_append, Json.member?_append, member?_reverse_optionalMember,
    Json.member?]
  simp [Json.sorted_comp_string, Json.sorted]

/-- What stands under the key of the client in `executorMetadata`. -/
theorem field?_metadataMembers (payload : Payload) :
    (Json.object payload.metadataMembers).sorted.field? "id" = payload.clientId.map .string := by
  simp only [metadataMembers, Json.field?_sorted_object, List.reverse_append, List.reverse_cons,
    List.reverse_nil, List.nil_append, Json.member?_append, member?_reverse_optionalMember,
    Json.member?]
  simp [Json.sorted_comp_string]

end Payload

/-! ## The configuration in a body -/

/-- The configuration that a body holds. -/
def ExecutorConfig.ofBody? (body : Json) : Option ExecutorConfig := do
  let config ← body.field? "config"
  let metadata ← body.field? "executorMetadata"
  let timestamp ← body.read? Json.toUInt64? "timestamp"
  let chainId ← body.read? Json.toUInt64? "chainId"
  let executor ← body.optionalText? "executor"
  let inputTokens ← config.read? Json.toTexts? "inputTokens"
  let hopAddresses ← config.read? Json.toTexts? "hopAddresses"
  let feeInBPS ← config.read? Json.toUInt64? "feeInBPS"
  let feeToken ← config.optionalText? "feeToken"
  let feeReceiver ← config.optionalText? "feeReceiver"
  let limitPerExecution ← config.read? Json.toBool? "limitPerExecution"
  let clientId ← metadata.optionalText? "id"
  return { timestamp, chainId, executor, inputTokens, hopAddresses, feeInBPS, feeToken,
           feeReceiver, limitPerExecution, clientId }

/-- The configuration of a body is read from what is sent. -/
theorem ExecutorConfig.ofBody?_toJson (payload : Payload) :
    ExecutorConfig.ofBody? payload.toJson.sorted = some
      { timestamp := payload.timestamp
        chainId := payload.chainId
        executor := payload.executor
        inputTokens := payload.inputTokens
        hopAddresses := payload.hopAddresses
        feeInBPS := payload.feeInBPS
        feeToken := payload.feeToken
        feeReceiver := payload.feeReceiver
        limitPerExecution := payload.limitPerExecution
        clientId := payload.clientId } := by
  obtain ⟨config, executor, -, chainId, timestamp, metadata⟩ := payload.fields_toJson
  obtain ⟨inputTokens, hopAddresses, feeInBPS, feeToken, feeReceiver, limit⟩ :=
    payload.fields_configMembers
  have clientId := payload.field?_metadataMembers
  rw [ofBody?, config, metadata]
  simp only [Option.bind_eq_bind, Option.bind_some, Option.pure_def,
    Json.read?_eq_some timestamp (Json.toUInt64?_ofUInt64 _),
    Json.read?_eq_some chainId (Json.toUInt64?_ofUInt64 _),
    Json.optionalText?_eq_some executor,
    Json.read?_eq_some inputTokens (Json.toTexts?_ofStrings _),
    Json.read?_eq_some hopAddresses (Json.toTexts?_ofStrings _),
    Json.read?_eq_some feeInBPS (Json.toUInt64?_ofUInt64 _),
    Json.optionalText?_eq_some feeToken,
    Json.optionalText?_eq_some feeReceiver,
    Json.read?_eq_some limit (by rfl : Json.toBool? (.bool payload.limitPerExecution) = some _),
    Json.optionalText?_eq_some clientId]

/-- A signed body holds the configuration of the settings with the timestamp that was signed. -/
theorem ExecutorConfig.ofBody?_withSignature (settings : Settings) (signature : String)
    (timestamp : UInt64) :
    ExecutorConfig.ofBody?
        ((Payload.unsigned settings).withSignature signature timestamp).toJson.sorted =
      some { settings.executor with timestamp } :=
  ExecutorConfig.ofBody?_toJson _

end ExecutorRegistration
