import ExecutorRegistration.EnvFile.Basic
import ExecutorRegistration.Json.Fault
import ExecutorRegistration.Url.Basic

/-!
# Settings of a run

The settings hold what is signed, what is shown beside it, and where it is sent. Addresses are
kept as texts. The base URL is checked only where it is needed.

The timestamp comes from the clock. An instant is a number of nanoseconds since the epoch, negative
before it. A timestamp is the number of whole milliseconds, of which the low 64 bits are kept.
-/

namespace ExecutorRegistration

/-- What is signed when an executor is registered. -/
structure ExecutorConfig where
  /-- Milliseconds since the epoch. -/
  timestamp : UInt64 := 0
  /-- The chain on which the executor registers. -/
  chainId : UInt64 := 1
  /-- The address of the executor. -/
  executor : Option String := none
  /-- The tokens that the executor takes. -/
  inputTokens : List String := []
  /-- The addresses through which it routes. -/
  hopAddresses : List String := []
  /-- The fee in hundredths of a percent. -/
  feeInBPS : UInt64 := 0
  /-- The token in which the fee is paid. -/
  feeToken : Option String := none
  /-- The address to which the fee is paid. -/
  feeReceiver : Option String := none
  /-- Whether the executor is limited to one run per execution. -/
  limitPerExecution : Bool := false
  /-- The name by which the client is known. -/
  clientId : Option String := none
deriving DecidableEq, Repr

/-- What is shown beside a registration. -/
structure ExecutorMetadata where
  /-- The name of the executor. -/
  name : Option String := none
  /-- Its logo. -/
  logo : Option String := none
  /-- Labels of addresses, by ascending keys. -/
  addressTags : List (String × Json) := []
deriving Repr

/-- The path of the key manager if none is set. -/
def defaultKeyManagerPath : String := "ethereum/key-managers/brahma-builder"

/-- The settings of a run. -/
structure Settings where
  /-- What is signed. -/
  executor : ExecutorConfig := {}
  /-- What is shown beside it. -/
  metadata : ExecutorMetadata := {}
  /-- The base URL to which registrations are sent. -/
  apiBaseUrl : Option String := none
  /-- The path of the key manager that signs. -/
  keyManagerPath : String := defaultKeyManagerPath
deriving Repr

/-- A variable of the environment that is read into the settings. -/
inductive Variable where
  /-- The chain. -/
  | chainId
  /-- The address of the executor. -/
  | executorAddress
  /-- The tokens that it takes, a JSON array of texts. -/
  | inputTokens
  /-- The addresses through which it routes, a JSON array of texts. -/
  | hopAddresses
  /-- The fee. -/
  | feeInBPS
  /-- The token of the fee. -/
  | feeToken
  /-- The receiver of the fee. -/
  | feeReceiver
  /-- Whether runs are limited; only the text `true` says so. -/
  | limitPerExecution
  /-- The name of the client. -/
  | clientId
  /-- Labels of addresses, a JSON object. -/
  | addressTags
  /-- The name of the executor. -/
  | executorName
  /-- The logo of the executor. -/
  | executorLogo
  /-- The base URL. -/
  | apiBaseUrl
  /-- The path of the key manager. -/
  | keyManagerPath
deriving DecidableEq, Repr

/-- The name of a variable in the environment. -/
def Variable.key : Variable → String
  | chainId => "CHAIN_ID"
  | executorAddress => "EXECUTOR_ADDRESS"
  | inputTokens => "INPUT_TOKENS"
  | hopAddresses => "HOP_ADDRESSES"
  | feeInBPS => "FEE_IN_BPS"
  | feeToken => "FEE_TOKEN"
  | feeReceiver => "FEE_RECEIVER"
  | limitPerExecution => "LIMIT_PER_EXECUTION"
  | clientId => "CLIENT_ID"
  | addressTags => "ADDRESS_TAGS"
  | executorName => "EXECUTOR_NAME"
  | executorLogo => "EXECUTOR_LOGO"
  | apiBaseUrl => "API_BASE_URL"
  | keyManagerPath => "VAULT_KEY_MANAGER_PATH"

/-- All variables. -/
def Variable.all : List Variable :=
  [chainId, executorAddress, inputTokens, hopAddresses, feeInBPS, feeToken, feeReceiver,
   limitPerExecution, clientId, addressTags, executorName, executorLogo, apiBaseUrl,
   keyManagerPath]

/-! ## The clock -/

/-- A number of nanoseconds since the epoch. -/
abbrev Instant := Int

/-- Why an instant has no timestamp. -/
inductive ClockFault where
  /-- The instant lies before the epoch. -/
  | beforeEpoch
deriving DecidableEq, Repr

/-- The wording of a fault. -/
def ClockFault.message : ClockFault → String
  | beforeEpoch => "second time provided was later than self"

/-- Milliseconds since the epoch. -/
def unixMillis (instant : Instant) : Except ClockFault UInt64 :=
  if instant < 0 then .error .beforeEpoch
  else .ok (UInt64.ofNat (instant.toNat / 1000000))

/-! ## Faults -/

/-- Why settings cannot be loaded or used. -/
inductive SettingsFault where
  /-- A variable that is needed is not set. -/
  | missingVariable (source : Variable)
  /-- The value of a variable is no number of 64 bits. -/
  | invalidNumber (source : Variable) (fault : Text.NumberFault)
  /-- The value of a variable is not JSON, or of another kind. -/
  | invalidJson (source : Variable) (error : Json.ReadError)
  /-- The value of a variable is no absolute URL. -/
  | invalidUrl (source : Variable) (fault : UrlFault)
  /-- The clock cannot be read. -/
  | clock (fault : ClockFault)
  /-- A file of variables cannot be loaded. -/
  | envFile (fault : EnvFileFault)
deriving Repr

/-- The wording of a fault. -/
def SettingsFault.message : SettingsFault → String
  | missingVariable source => source.key ++ " is not set in the environment variables"
  | invalidNumber source fault =>
    "invalid integer in `" ++ source.key ++ "`: " ++ fault.message
  | invalidJson source error => "invalid JSON in `" ++ source.key ++ "`: " ++ error.message
  | invalidUrl source fault => "invalid URL in `" ++ source.key ++ "`: " ++ fault.message
  | clock fault => "system clock is before the Unix epoch: " ++ fault.message
  | envFile fault => "failed to load .env file: " ++ fault.message

/-- The base URL, which has to be set and to be an absolute URL; its text is not changed. -/
def Settings.requireApiBaseUrl (settings : Settings) : Except SettingsFault String :=
  match settings.apiBaseUrl with
  | none => .error (.missingVariable .apiBaseUrl)
  | some base =>
    match Url.parse base with
    | .error fault => .error (.invalidUrl .apiBaseUrl fault)
    | .ok _ => .ok base

end ExecutorRegistration
