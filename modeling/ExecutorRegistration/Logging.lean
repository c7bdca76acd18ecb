import ExecutorRegistration.Settings.Basic
import ExecutorRegistration.Payload
import ExecutorRegistration.SigningReport
import ExecutorRegistration.Text.Quoted

/-!
# The log of a run

A run notes what it does as events. Each has a level, a target, which says what part of the
program it comes from, a message, and fields with values. A filter decides which events are
written.

Filters are given as text, and what a text means is not decided here. The filters that
`LogFilter.parse?` reads are lists of directives such as `executor_registrar=debug` or `off`: the
one with the longest target that begins the target of an event decides.
-/

namespace ExecutorRegistration

/-- How much an event matters. -/
inductive LogLevel where
  /-- The run fails. -/
  | error
  /-- Something is not as it should be. -/
  | warn
  /-- A step of the run. -/
  | info
  /-- What a step is about. -/
  | debug
deriving DecidableEq, Repr

/-- The place of a level, the one that matters most first. -/
def LogLevel.rank : LogLevel → Nat
  | error => 1
  | warn => 2
  | info => 3
  | debug => 4

/-- The value of a field. -/
inductive LogValue where
  /-- A number. -/
  | number (value : Nat)
  /-- A text. -/
  | text (value : String)
  /-- A text that may be missing. -/
  | optional (value : Option String)
  /-- A domain. -/
  | domain (value : TypedData.Domain)
deriving DecidableEq, Repr

/-- Something that a run notes. -/
structure LogEvent where
  /-- How much it matters. -/
  level : LogLevel
  /-- The part of the program. -/
  target : String
  /-- What happens. -/
  message : String
  /-- The fields and their values. -/
  fields : List (String × LogValue)
deriving DecidableEq, Repr

/-! ## Events -/

namespace LogEvent

/-- A file of variables was loaded. -/
def envFileLoaded (file : EnvFile) : LogEvent where
  level := .debug
  target := "executor_registrar::config::loader"
  message := "Loaded .env file"
  fields := [("path", .text file.path)]

/-- The settings were loaded. -/
def settingsLoaded (settings : Settings) : LogEvent where
  level := .debug
  target := "executor_registrar::config::loader"
  message := "Configuration loaded"
  fields :=
    [("chain_id", .number settings.executor.chainId.toNat),
     ("executor", .optional settings.executor.executor),
     ("input_tokens", .number settings.executor.inputTokens.length),
     ("hop_addresses", .number settings.executor.hopAddresses.length),
     ("api_base_url", .optional settings.apiBaseUrl)]

/-- A hasher is asked for the digest of a registration. -/
def digestAsked (query : HashQuery) : LogEvent where
  level := .debug
  target := "executor_registrar::digest::builder"
  message := "Hashing executor registration"
  fields :=
    [("schema", .text query.schema.encodeType),
     ("domain", .domain query.domain),
     ("message", .text query.values.compact)]

/-- There is a report of what an executor signs. -/
def reportGenerated (config : ExecutorConfig) (executor : String) : LogEvent where
  level := .info
  target := "executor_registrar::digest::builder"
  message := "Executor digest generated"
  fields :=
    [("chain_id", .number config.chainId.toNat),
     ("executor", .text executor),
     ("timestamp", .number config.timestamp.toNat)]

/-- A recovery id was raised. -/
def recoveryIdRaised (value raised : Nat) : LogEvent where
  level := .debug
  target := "executor_registrar::signature::normalize"
  message := "Adjusted signature recovery id"
  fields := [("from", .number value), ("to", .number raised)]

/-- A body is about to be sent. -/
def submitting (url : String) (payload : Payload) : LogEvent where
  level := .info
  target := "executor_registrar::registration::submitter"
  message := "Submitting executor registration"
  fields :=
    [("url", .text url),
     ("chain_id", .number payload.chainId.toNat),
     ("executor", .optional payload.executor),
     ("timestamp", .number payload.timestamp.toNat)]

/-- The API answered. -/
def responded (url : String) (status : UInt16) : LogEvent where
  level := .debug
  target := "executor_registrar::registration::client"
  message := "Registration API responded"
  fields := [("url", .text url), ("status", .number status.toNat)]

/-- The API answered with a status that is none of success. -/
def registrationRejected (status : UInt16) : LogEvent where
  level := .warn
  target := "executor_registrar::registration::submitter"
  message := "Registration rejected"
  fields := [("status", .number status.toNat)]

/-- No response was received. -/
def requestFailed (reason : String) : LogEvent where
  level := .warn
  target := "executor_registrar::registration::submitter"
  message := "Registration request failed"
  fields := [("error", .text reason)]

/-- The run fails. -/
def commandFailed (reason : String) : LogEvent where
  level := .error
  target := "executor_registrar"
  message := "Command failed"
  fields := [("error", .text reason)]

end LogEvent

/-! ## Filters -/

/-- Which events are written. -/
abbrev LogFilter := LogEvent → Bool

/-- A directive: up to which rank events are written whose target begins with the given one. -/
structure LogDirective where
  /-- The target; every target begins with the empty one. -/
  target : String
  /-- The rank. -/
  rank : Nat
deriving DecidableEq, Repr

/-- Whether a directive is about an event. -/
def LogDirective.concerns (directive : LogDirective) (event : LogEvent) : Bool :=
  directive.target.toList.isPrefixOf event.target.toList

/-- Whether a directive lets an event be written that it is about. -/
def LogDirective.admits (directive : LogDirective) (event : LogEvent) : Bool :=
  event.level.rank ≤ directive.rank

/-- The filter without any other one: what the program notes, up to its steps. -/
def LogFilter.usual : LogFilter := fun event =>
  let directive : LogDirective := ⟨"executor_registrar", LogLevel.info.rank⟩
  directive.concerns event && directive.admits event

/-- The words for ranks. -/
def logRanks : List (String × Nat) :=
  [("off", 0), ("error", 1), ("warn", 2), ("info", 3), ("debug", 4), ("trace", 5)]

/-- The rank that a word or a digit stands for; its case does not count. -/
def logRank? (word : String) : Option Nat :=
  let lower := String.ofList (word.toList.map Char.toLower)
  (logRanks.find? fun (name, rank) => name = lower || Text.decimal rank = word).map (·.2)

/-- The directive that a text denotes: a rank, a target, or both with an equals sign between. -/
def LogDirective.parse? (text : String) : Option LogDirective :=
  match text.toList.splitOn '=' with
  | [word] =>
    match logRank? (String.ofList word) with
    | some rank => some ⟨"", rank⟩
    | none =>
      if word.all fun c => c.isAlphanum || c = '_' || c = '-' || c = ':' then
        some ⟨String.ofList word, 5⟩
      else none
  | [target, word] =>
    (logRank? (String.ofList word)).map fun rank => ⟨String.ofList target, rank⟩
  | _ => none

/-- The later of two directives, unless the target of the earlier one is longer. -/
def LogDirective.closer (earlier later : LogDirective) : LogDirective :=
  if later.target.length < earlier.target.length then earlier else later

/-- The filter of directives; without any, errors are written. -/
def LogFilter.ofDirectives (directives : List LogDirective) : LogFilter := fun event =>
  let given := if directives = [] then [⟨"", LogLevel.error.rank⟩] else directives
  match given.filter (·.concerns event) with
  | [] => false
  | first :: rest => (rest.foldl LogDirective.closer first).admits event

/-- The filter that a text with directives denotes. -/
def LogFilter.parse? (text : String) : Option LogFilter := do
  let parts := (text.toList.splitOn ',').filter (· ≠ [])
  let directives ← parts.mapM fun part => LogDirective.parse? (String.ofList part)
  some (ofDirectives directives)

/-! ## Writing events -/

/-- A value as it is written. -/
def LogValue.render : LogValue → String
  | number value => Text.decimal value
  | text value => value
  | optional value => (value.map fun text => "Some(" ++ Text.quote text ++ ")").getD "None"
  | domain value =>
    "Domain \x7b chain_id: " ++ Text.decimal value.chainId.toNat ++ ", verifying_contract: " ++
      (value.verifyingContract.map fun address =>
        "Some(" ++ Hex.encode address.toList ++ ")").getD "None" ++ " \x7d"

/-- The name of a level, five characters wide. -/
def LogLevel.label : LogLevel → String
  | error => "ERROR"
  | warn => " WARN"
  | info => " INFO"
  | debug => "DEBUG"

/-- A field as it is written; a message needs no name. -/
def renderField (name : String) (value : LogValue) : String :=
  if name = "message" then value.render else name ++ "=" ++ value.render

/-- An event as it is written, but for the time. -/
def LogEvent.render (event : LogEvent) : String :=
  event.level.label ++ " " ++ event.target ++ ": " ++
    " ".intercalate (event.message :: event.fields.map fun (name, value) => renderField name value)

end ExecutorRegistration
