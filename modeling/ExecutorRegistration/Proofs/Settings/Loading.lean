import ExecutorRegistration.Proofs.Text.Trimming
import ExecutorRegistration.Settings.Loading

/-!
# Loading in two steps

Five variables are parsed, and only they can fail. What is parsed is then put together with the
values of the other variables, which are taken as they are.
-/

namespace ExecutorRegistration

/-! ## Values of variables -/

/-- The value of a variable that is set to no blank text, or not at all, is what it is set to. -/
theorem Lookup.value_of_trimmed {lookup : Lookup} {source : Variable} {text? : Option String}
    (given : lookup source.key = text?) (trimmed : ∀ text ∈ text?, Text.IsTrimmed text) :
    lookup.value source = text? := by
  rw [value, given]
  cases text? with
  | none => rfl
  | some text =>
      rw [Option.map_some, (trimmed text rfl).trim_eq]
      exact Option.filter_some_pos (decide_eq_true (trimmed text rfl).ne_empty)

theorem Lookup.isTrimmed_of_value {lookup : Lookup} {source : Variable} {text : String}
    (found : lookup.value source = some text) : Text.IsTrimmed text := by
  obtain ⟨trimmed, nonempty⟩ := Option.filter_eq_some_iff.mp found
  obtain ⟨given, -, rfl⟩ := Option.map_eq_some_iff.mp trimmed
  exact Text.isTrimmed_trim (of_decide_eq_true nonempty)

theorem Lookup.value_congr {left right : Lookup} {source : Variable}
    (same : left source.key = right source.key) : left.value source = right.value source := by
  rw [value, value, same]

/-! ## What is parsed -/

/-- The settings that are parsed. -/
structure Parsed where
  /-- The chain. -/
  chainId : UInt64
  /-- The tokens that the executor takes. -/
  inputTokens : List String
  /-- The addresses through which it routes. -/
  hopAddresses : List String
  /-- The fee in hundredths of a percent. -/
  feeInBPS : UInt64
  /-- Labels of addresses. -/
  addressTags : List (String × Json)

/-- The variables that are parsed. -/
def Variable.parsed : List Variable :=
  [chainId, inputTokens, hopAddresses, feeInBPS, addressTags]

/-- Parses the variables with numbers and JSON, in the order in which they are loaded. -/
def Lookup.parsed (lookup : Lookup) : Except SettingsFault Parsed := do
  let chainId ← lookup.number .chainId 1
  let inputTokens ← lookup.texts .inputTokens
  let hopAddresses ← lookup.texts .hopAddresses
  let feeInBPS ← lookup.number .feeInBPS 0
  let addressTags ← lookup.members .addressTags
  return { chainId, inputTokens, hopAddresses, feeInBPS, addressTags }

/-- The settings with what is parsed and the values of the other variables. -/
def Parsed.settings (parsed : Parsed) (timestamp : UInt64) (lookup : Lookup) : Settings where
  executor := {
    timestamp
    chainId := parsed.chainId
    executor := lookup.value .executorAddress
    inputTokens := parsed.inputTokens
    hopAddresses := parsed.hopAddresses
    feeInBPS := parsed.feeInBPS
    feeToken := lookup.value .feeToken
    feeReceiver := lookup.value .feeReceiver
    limitPerExecution := lookup.value .limitPerExecution = some "true"
    clientId := lookup.value .clientId }
  metadata := {
    name := lookup.value .executorName
    logo := lookup.value .executorLogo
    addressTags := parsed.addressTags }
  apiBaseUrl := lookup.value .apiBaseUrl
  keyManagerPath := (lookup.value .keyManagerPath).getD defaultKeyManagerPath

theorem Settings.load_eq (timestamp : UInt64) (lookup : Lookup) :
    Settings.load timestamp lookup =
      lookup.parsed.map fun parsed => parsed.settings timestamp lookup := by
  unfold Settings.load Lookup.parsed
  cases lookup.number .chainId 1 with
  | error fault => rfl
  | ok chainId =>
  cases lookup.texts .inputTokens with
  | error fault => rfl
  | ok inputTokens =>
  cases lookup.texts .hopAddresses with
  | error fault => rfl
  | ok hopAddresses =>
  cases lookup.number .feeInBPS 0 with
  | error fault => rfl
  | ok feeInBPS =>
  cases lookup.members .addressTags with
  | error fault => rfl
  | ok addressTags => rfl

/-- What is parsed is read from its five variables. -/
theorem Lookup.parsed_congr {left right : Lookup}
    (same : ∀ source ∈ Variable.parsed, left.value source = right.value source) :
    left.parsed = right.parsed := by
  simp only [Variable.parsed, List.forall_mem_cons] at same
  obtain ⟨chainId, inputTokens, hopAddresses, feeInBPS, addressTags, -⟩ := same
  simp only [parsed, number, texts, members, chainId, inputTokens, hopAddresses, feeInBPS,
    addressTags]

/-- Settings are loaded from the values of their variables alone. -/
theorem Settings.load_congr {left right : Lookup}
    (same : ∀ source, left.value source = right.value source) (timestamp : UInt64) :
    Settings.load timestamp left = Settings.load timestamp right := by
  rw [load_eq, load_eq, Lookup.parsed_congr fun source _ => same source]
  simp only [Parsed.settings, same]

end ExecutorRegistration
