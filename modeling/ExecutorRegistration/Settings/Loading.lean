import ExecutorRegistration.Json.Reader
import ExecutorRegistration.Settings.Basic
import ExecutorRegistration.Text.Basic

/-!
# Loading settings

Settings are read from the variables of an environment. White space around a value does not
count, and a value that is blank counts as unset. The variables with numbers and JSON are read in
a fixed order, and the first of them that cannot be read is the fault.
-/

namespace ExecutorRegistration

/-- The values of variables by name. -/
abbrev Lookup := String → Option String

/-- The value of a variable without white space around it, if anything is left. -/
def Lookup.value (lookup : Lookup) (source : Variable) : Option String :=
  ((lookup source.key).map Text.trim).filter (· ≠ "")

/-- A number from a variable, or a default. -/
def Lookup.number (lookup : Lookup) (source : Variable) (default : UInt64) :
    Except SettingsFault UInt64 :=
  match lookup.value source with
  | none => .ok default
  | some text => (Text.readNumber text).mapError (.invalidNumber source)

/-- A list of texts from a variable, by default empty. -/
def Lookup.texts (lookup : Lookup) (source : Variable) : Except SettingsFault (List String) :=
  match lookup.value source with
  | none => .ok []
  | some text => (Json.parseTexts text).mapError (.invalidJson source)

/-- The members of an object from a variable, by default none. -/
def Lookup.members (lookup : Lookup) (source : Variable) :
    Except SettingsFault (List (String × Json)) :=
  match lookup.value source with
  | none => .ok []
  | some text => (Json.parseObject text).mapError (.invalidJson source)

/-- Loads settings from variables. -/
def Settings.load (timestamp : UInt64) (lookup : Lookup) : Except SettingsFault Settings := do
  let chainId ← lookup.number .chainId 1
  let inputTokens ← lookup.texts .inputTokens
  let hopAddresses ← lookup.texts .hopAddresses
  let feeInBPS ← lookup.number .feeInBPS 0
  let addressTags ← lookup.members .addressTags
  return {
    executor := {
      timestamp
      chainId
      executor := lookup.value .executorAddress
      inputTokens
      hopAddresses
      feeInBPS
      feeToken := lookup.value .feeToken
      feeReceiver := lookup.value .feeReceiver
      limitPerExecution := lookup.value .limitPerExecution = some "true"
      clientId := lookup.value .clientId }
    metadata := {
      name := lookup.value .executorName
      logo := lookup.value .executorLogo
      addressTags }
    apiBaseUrl := lookup.value .apiBaseUrl
    keyManagerPath := (lookup.value .keyManagerPath).getD defaultKeyManagerPath }

end ExecutorRegistration
