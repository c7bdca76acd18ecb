import ExecutorRegistration.Proofs.Results
import ExecutorRegistration.Proofs.Settings.Loading

/-!
# What settings are loaded from

The value of a variable is what is left of it between blanks. Settings are not loaded if one of
five variables has a value that cannot be parsed, and the first of them gives the fault; otherwise
each field is that of its own variable, or its default. So nothing but the values of the variables
counts, neither the blanks around them nor any other variable.
-/

namespace ExecutorRegistration

/-! ## Values -/

/-- The value of a variable is the text that stands in it between blanks. -/
theorem Lookup.value_eq_some_iff (lookup : Lookup) (source : Variable) (text : String) :
    lookup.value source = some text ↔
      Text.IsTrimmed text ∧ Text.Pads text (lookup source.key) := by
  rw [value]
  cases lookup source.key with
  | none =>
      refine iff_of_false (by simp) ?_
      rintro ⟨trimmed, empty⟩
      exact trimmed.ne_empty empty
  | some given =>
      rw [Option.map_some, Option.filter_eq_some_iff, Option.some.injEq, decide_eq_true_eq]
      constructor
      · rintro ⟨rfl, nonempty⟩
        exact ⟨Text.isTrimmed_trim nonempty, Text.pads_trim given⟩
      · rintro ⟨trimmed, pads⟩
        exact ⟨(Text.trim_eq_of_pads pads).trans trimmed.trim_eq, trimmed.ne_empty⟩

theorem Lookup.pads_value (lookup : Lookup) (source : Variable) :
    Text.Pads ((lookup.value source).getD "") (lookup source.key) := by
  rw [value]
  cases lookup source.key with
  | none => rfl
  | some given =>
      rw [Option.map_some]
      by_cases blank : Text.trim given = ""
      · rw [Option.filter_some_neg (by simp [blank]), Option.getD_none, ← blank]
        exact Text.pads_trim given
      · rw [Option.filter_some_pos (by simp [blank])]
        exact Text.pads_trim given

theorem Lookup.value_of_pads {lookup : Lookup} {source : Variable} {core : String}
    (pads : Text.Pads core (lookup source.key)) :
    lookup.value source = (some (Text.trim core)).filter (· ≠ "") := by
  rw [value]
  cases given : lookup source.key with
  | none =>
      rw [given] at pads
      cases pads
      rfl
  | some text =>
      rw [given] at pads
      rw [Option.map_some, Text.trim_eq_of_pads pads]

/-- Variables have the same value if blanks alone tell one from the other. -/
theorem Lookup.value_eq_value_iff (left right : Lookup) (source : Variable) :
    left.value source = right.value source ↔
      Text.SameButBlanks (left source.key) (right source.key) := by
  constructor
  · intro same
    exact ⟨_, left.pads_value source, same ▸ right.pads_value source⟩
  · rintro ⟨core, padsLeft, padsRight⟩
    rw [value_of_pads padsLeft, value_of_pads padsRight]

/-! ## Faults -/

/-- The variables with numbers. -/
def Variable.numbers : List Variable := [chainId, feeInBPS]

/-- The variables with lists of texts. -/
def Variable.textLists : List Variable := [inputTokens, hopAddresses]

theorem Variable.not_mem_numbers {source : Variable} (isTexts : source ∈ textLists) :
    source ∉ numbers := by
  revert isTexts
  cases source <;> decide

/-- A variable has a value that cannot be parsed, which is a fault of that kind. -/
inductive Lookup.Refuses (lookup : Lookup) : Variable → SettingsFault → Prop where
  | number {source : Variable} {text : String} {fault : Text.NumberFault}
      (isNumber : source ∈ Variable.numbers) (given : lookup.value source = some text)
      (unread : Text.readNumber text = .error fault) :
      Refuses lookup source (.invalidNumber source fault)
  | texts {source : Variable} {text : String} {error : Json.ReadError}
      (isTexts : source ∈ Variable.textLists) (given : lookup.value source = some text)
      (unread : Json.parseTexts text = .error error) :
      Refuses lookup source (.invalidJson source error)
  | members {text : String} {error : Json.ReadError}
      (given : lookup.value .addressTags = some text)
      (unread : Json.parseObject text = .error error) :
      Refuses lookup .addressTags (.invalidJson .addressTags error)

/-- The fault is that of the first among some variables with a value that cannot be parsed. -/
def Lookup.RefusesFirst (lookup : Lookup) (sources : List Variable) (fault : SettingsFault) :
    Prop :=
  ∃ before source after, sources = before ++ source :: after ∧ lookup.Refuses source fault ∧
    ∀ earlier ∈ before, ∀ other, ¬ lookup.Refuses earlier other

theorem Lookup.refusesFirst_cons_iff (lookup : Lookup) (source : Variable)
    (sources : List Variable) (fault : SettingsFault) :
    lookup.RefusesFirst (source :: sources) fault ↔
      lookup.Refuses source fault ∨
        (∀ other, ¬ lookup.Refuses source other) ∧ lookup.RefusesFirst sources fault := by
  constructor
  · rintro ⟨before, first, after, split, refuses, earlier⟩
    cases before with
    | nil =>
        cases split
        exact .inl refuses
    | cons other before =>
        cases split
        obtain ⟨reads, later⟩ := List.forall_mem_cons.mp earlier
        exact .inr ⟨reads, before, first, after, rfl, refuses, later⟩
  · rintro (refuses | ⟨reads, before, first, after, rfl, refuses, earlier⟩)
    · exact ⟨[], source, sources, rfl, refuses, nofun⟩
    · have reads := List.forall_mem_cons.mpr ⟨reads, earlier⟩
      exact ⟨source :: before, first, after, rfl, refuses, reads⟩

/-- Reading a variable fails before what is read after it does. -/
theorem Lookup.bind_eq_error_iff {lookup : Lookup} {α β : Type} {source : Variable}
    {sources : List Variable} {result : Except SettingsFault α}
    {next : α → Except SettingsFault β}
    (refuses : ∀ fault, result = .error fault ↔ lookup.Refuses source fault)
    (later : ∀ value fault, next value = .error fault ↔ lookup.RefusesFirst sources fault)
    (fault : SettingsFault) :
    result >>= next = .error fault ↔ lookup.RefusesFirst (source :: sources) fault := by
  rw [refusesFirst_cons_iff]
  cases result with
  | error found =>
      have isRefused : ∀ other, lookup.Refuses source other ↔ found = other := fun other => by
        rw [← refuses, Except.error.injEq]
      have fails : (Except.error found >>= next) = .error found := rfl
      simp [fails, isRefused]
  | ok value =>
      have isRead : ∀ other, ¬ lookup.Refuses source other := fun other refused => by
        cases (refuses other).mpr refused
      have reads : (Except.ok value >>= next) = next value := rfl
      simp [reads, isRead, later]

/-- What a variable without a value, or with a value that is parsed, is read as. -/
def IsParsed {ε α : Type} (parse : String → Except ε α) (default : α) (value? : Option String)
    (field : α) : Prop :=
  match value? with
  | none => field = default
  | some text => parse text = .ok field

section Reading

variable {ε α : Type} (parse : String → Except ε α) (wrap : ε → SettingsFault) (default : α)
  (value? : Option String)

theorem read_eq_ok_iff (field : α) :
    ((match value? with
      | none => .ok default
      | some text => (parse text).mapError wrap : Except SettingsFault α)) = .ok field ↔
      IsParsed parse default value? field := by
  cases value? with
  | none => exact ⟨fun same => (Except.ok.inj same).symm, fun same => congrArg Except.ok same.symm⟩
  | some text => exact mapError_eq_ok_iff wrap (parse text) field

theorem read_eq_error_iff (fault : SettingsFault) :
    ((match value? with
      | none => .ok default
      | some text => (parse text).mapError wrap : Except SettingsFault α)) = .error fault ↔
      ∃ text cause, value? = some text ∧ parse text = .error cause ∧ fault = wrap cause := by
  cases value? with
  | none => simp
  | some text => cases parsed : parse text <;> simp [Except.mapError, parsed, eq_comm]

end Reading

namespace Lookup

variable (lookup : Lookup)

theorem number_eq_ok_iff (source : Variable) (default field : UInt64) :
    lookup.number source default = .ok field ↔
      IsParsed Text.readNumber default (lookup.value source) field :=
  read_eq_ok_iff Text.readNumber _ default (lookup.value source) field

theorem texts_eq_ok_iff (source : Variable) (field : List String) :
    lookup.texts source = .ok field ↔ IsParsed Json.parseTexts [] (lookup.value source) field :=
  read_eq_ok_iff Json.parseTexts _ [] (lookup.value source) field

theorem members_eq_ok_iff (source : Variable) (field : List (String × Json)) :
    lookup.members source = .ok field ↔
      IsParsed Json.parseObject [] (lookup.value source) field :=
  read_eq_ok_iff Json.parseObject _ [] (lookup.value source) field

theorem number_eq_error_iff {source : Variable} (isNumber : source ∈ Variable.numbers)
    (default : UInt64) (fault : SettingsFault) :
    lookup.number source default = .error fault ↔ lookup.Refuses source fault := by
  refine (read_eq_error_iff Text.readNumber _ default (lookup.value source) fault).trans ?_
  constructor
  · rintro ⟨text, cause, given, unread, rfl⟩
    exact .number isNumber given unread
  · rintro (⟨-, given, unread⟩ | ⟨isTexts, -, -⟩ | ⟨-, -⟩)
    · exact ⟨_, _, given, unread, rfl⟩
    · exact absurd isNumber (Variable.not_mem_numbers isTexts)
    · exact absurd isNumber (by decide)

theorem texts_eq_error_iff {source : Variable} (isTexts : source ∈ Variable.textLists)
    (fault : SettingsFault) :
    lookup.texts source = .error fault ↔ lookup.Refuses source fault := by
  refine (read_eq_error_iff Json.parseTexts _ [] (lookup.value source) fault).trans ?_
  constructor
  · rintro ⟨text, cause, given, unread, rfl⟩
    exact .texts isTexts given unread
  · rintro (⟨isNumber, -, -⟩ | ⟨-, given, unread⟩ | ⟨-, -⟩)
    · exact absurd isNumber (Variable.not_mem_numbers isTexts)
    · exact ⟨_, _, given, unread, rfl⟩
    · exact absurd isTexts (by decide)

theorem members_eq_error_iff (fault : SettingsFault) :
    lookup.members .addressTags = .error fault ↔ lookup.Refuses .addressTags fault := by
  refine (read_eq_error_iff Json.parseObject _ [] (lookup.value .addressTags) fault).trans ?_
  constructor
  · rintro ⟨text, cause, given, unread, rfl⟩
    exact .members given unread
  · rintro (⟨isNumber, -, -⟩ | ⟨isTexts, -, -⟩ | ⟨given, unread⟩)
    · exact absurd isNumber (by decide)
    · exact absurd isTexts (by decide)
    · exact ⟨_, _, given, unread, rfl⟩

/-- Parsing fails with the fault of the first variable whose value cannot be parsed. -/
theorem parsed_eq_error_iff (fault : SettingsFault) :
    lookup.parsed = .error fault ↔ lookup.RefusesFirst Variable.parsed fault := by
  refine bind_eq_error_iff (number_eq_error_iff lookup (by decide) 1) (fun chainId => ?_) fault
  refine bind_eq_error_iff (texts_eq_error_iff lookup (by decide)) (fun inputTokens => ?_)
  refine bind_eq_error_iff (texts_eq_error_iff lookup (by decide)) (fun hopAddresses => ?_)
  refine bind_eq_error_iff (number_eq_error_iff lookup (by decide) 0) (fun feeInBPS => ?_)
  refine bind_eq_error_iff (members_eq_error_iff lookup) (fun addressTags fault => ?_)
  -- All five are parsed, and no variable is left.
  refine iff_of_false nofun ?_
  rintro ⟨before, source, after, split, -⟩
  exact absurd split.symm (by simp)

end Lookup

/-! ## Fields -/

/-- The field of a variable is what the value of that variable is read as, or its default. -/
def Settings.Takes (settings : Settings) (source : Variable) (value? : Option String) : Prop :=
  match source with
  | .chainId => IsParsed Text.readNumber 1 value? settings.executor.chainId
  | .executorAddress => settings.executor.executor = value?
  | .inputTokens => IsParsed Json.parseTexts [] value? settings.executor.inputTokens
  | .hopAddresses => IsParsed Json.parseTexts [] value? settings.executor.hopAddresses
  | .feeInBPS => IsParsed Text.readNumber 0 value? settings.executor.feeInBPS
  | .feeToken => settings.executor.feeToken = value?
  | .feeReceiver => settings.executor.feeReceiver = value?
  | .limitPerExecution => settings.executor.limitPerExecution = true ↔ value? = some "true"
  | .clientId => settings.executor.clientId = value?
  | .addressTags => IsParsed Json.parseObject [] value? settings.metadata.addressTags
  | .executorName => settings.metadata.name = value?
  | .executorLogo => settings.metadata.logo = value?
  | .apiBaseUrl => settings.apiBaseUrl = value?
  | .keyManagerPath => settings.keyManagerPath = value?.getD defaultKeyManagerPath

/-- What is parsed is what the values of the five variables are read as. -/
theorem Lookup.parsed_eq_ok_iff (lookup : Lookup) (parsed : Parsed) :
    lookup.parsed = .ok parsed ↔
      IsParsed Text.readNumber 1 (lookup.value .chainId) parsed.chainId ∧
      IsParsed Json.parseTexts [] (lookup.value .inputTokens) parsed.inputTokens ∧
      IsParsed Json.parseTexts [] (lookup.value .hopAddresses) parsed.hopAddresses ∧
      IsParsed Text.readNumber 0 (lookup.value .feeInBPS) parsed.feeInBPS ∧
      IsParsed Json.parseObject [] (lookup.value .addressTags) parsed.addressTags := by
  simp only [Lookup.parsed, bind_eq_ok_iff, number_eq_ok_iff, texts_eq_ok_iff, members_eq_ok_iff]
  constructor
  · rintro ⟨chainId, isChain, tokens, areTokens, hops, areHops, fee, isFee, tags, areTags, ⟨⟩⟩
    exact ⟨isChain, areTokens, areHops, isFee, areTags⟩
  · rintro ⟨isChain, areTokens, areHops, isFee, areTags⟩
    exact ⟨_, isChain, _, areTokens, _, areHops, _, isFee, _, areTags, rfl⟩

/-- Settings are loaded if each field is that of its own variable. -/
theorem Settings.load_eq_ok_iff (timestamp : UInt64) (lookup : Lookup) (settings : Settings) :
    Settings.load timestamp lookup = .ok settings ↔
      settings.executor.timestamp = timestamp ∧
        ∀ source, settings.Takes source (lookup.value source) := by
  rw [load_eq, map_eq_ok_iff]
  constructor
  · rintro ⟨parsed, isParsed, rfl⟩
    obtain ⟨chainId, inputTokens, hopAddresses, feeInBPS, addressTags⟩ :=
      (lookup.parsed_eq_ok_iff parsed).mp isParsed
    refine ⟨rfl, fun source => ?_⟩
    cases source with
    | chainId => exact chainId
    | inputTokens => exact inputTokens
    | hopAddresses => exact hopAddresses
    | feeInBPS => exact feeInBPS
    | addressTags => exact addressTags
    | limitPerExecution => exact decide_eq_true_iff
    | _ => rfl
  · rintro ⟨rfl, takes⟩
    have isParsed := (lookup.parsed_eq_ok_iff ⟨settings.executor.chainId,
      settings.executor.inputTokens, settings.executor.hopAddresses, settings.executor.feeInBPS,
      settings.metadata.addressTags⟩).mpr
      ⟨takes .chainId, takes .inputTokens, takes .hopAddresses, takes .feeInBPS,
        takes .addressTags⟩
    have limit : settings.executor.limitPerExecution =
        decide (lookup.value .limitPerExecution = some "true") :=
      Bool.eq_iff_iff.mpr ((takes .limitPerExecution).trans decide_eq_true_iff.symm)
    refine ⟨_, isParsed, ?_⟩
    rw [Parsed.settings, ← limit, ← takes .executorAddress, ← takes .feeToken,
      ← takes .feeReceiver, ← takes .clientId, ← takes .executorName, ← takes .executorLogo,
      ← takes .apiBaseUrl, ← takes .keyManagerPath]

/-- Loading reads the value of each variable, which is what stands in it between blanks. It fails
with the fault of the first variable whose value cannot be parsed, whatever the others hold, and
otherwise takes each field from its own variable. With the same values, which blanks around them
do not change, the same is loaded. -/
theorem Settings.load_reads_values (timestamp : UInt64) :
    (∀ (lookup : Lookup) (source : Variable) (text : String),
      lookup.value source = some text ↔
        Text.IsTrimmed text ∧ Text.Pads text (lookup source.key)) ∧
    (∀ (lookup : Lookup) (fault : SettingsFault),
      Settings.load timestamp lookup = .error fault ↔
        lookup.RefusesFirst Variable.parsed fault) ∧
    (∀ (lookup : Lookup) (settings : Settings),
      Settings.load timestamp lookup = .ok settings ↔
        settings.executor.timestamp = timestamp ∧
          ∀ source, settings.Takes source (lookup.value source)) ∧
    (∀ (left right : Lookup) (source : Variable),
      left.value source = right.value source ↔
        Text.SameButBlanks (left source.key) (right source.key)) ∧
    ∀ left right : Lookup, (∀ source, left.value source = right.value source) →
      Settings.load timestamp left = Settings.load timestamp right := by
  refine ⟨Lookup.value_eq_some_iff, fun lookup fault => ?_, Settings.load_eq_ok_iff timestamp,
    Lookup.value_eq_value_iff, fun left right same => Settings.load_congr same timestamp⟩
  rw [Settings.load_eq, ← Lookup.parsed_eq_error_iff]
  cases lookup.parsed with
  | error found => simp [Except.map]
  | ok parsed => exact iff_of_false nofun nofun

/-- Variables of which two have faults, one of them behind a blank line. -/
def faultyVariables : Lookup
  | "INPUT_TOKENS" => some "\n [1]"
  | "FEE_IN_BPS" => some "1.5"
  | _ => none

/-- Variables with blanks around them, one of which is not ASCII, and with a blank one. -/
def paddedVariables : Lookup
  | "CHAIN_ID" => some "\u2003 10\n"
  | "EXECUTOR_NAME" => some "Ada\t"
  | "CLIENT_ID" => some "  "
  | _ => none

/-- The same variables without blanks, and with another one. -/
def plainVariables : Lookup
  | "CHAIN_ID" => some "10"
  | "EXECUTOR_NAME" => some "Ada"
  | "HOME" => some "/root"
  | _ => none

/-- Of two faults the first is reported, at its place in the line in which the value starts. From
padded variables the same settings are loaded as from plain ones. -/
theorem load_paddedVariables :
    Settings.load 5 faultyVariables =
      .error (.invalidJson .inputTokens ⟨.wrongKind (.integer 1) .text, ⟨1, 2⟩⟩) ∧
    (∀ source, paddedVariables.value source = plainVariables.value source) ∧
    Settings.load 5 paddedVariables = Settings.load 5 plainVariables ∧
    Settings.load 5 plainVariables = .ok {
      executor := { timestamp := 5, chainId := 10 }
      metadata := { name := some "Ada" } } := by
  obtain ⟨-, refused, taken, -, congr⟩ := Settings.load_reads_values 5
  have same : ∀ source, paddedVariables.value source = plainVariables.value source := by
    intro source
    cases source <;> rfl
  have chainReads : ∀ fault, ¬ faultyVariables.Refuses .chainId fault := by
    intro fault fails
    cases (Lookup.number_eq_error_iff faultyVariables (by decide) 1 fault).mpr fails
  have tokensFail : faultyVariables.Refuses .inputTokens
      (.invalidJson .inputTokens ⟨.wrongKind (.integer 1) .text, ⟨1, 2⟩⟩) :=
    .texts (by decide) rfl rfl
  refine ⟨(refused _ _).mpr ⟨[.chainId], .inputTokens, _, rfl, tokensFail,
    List.forall_mem_singleton.mpr chainReads⟩, same, congr _ _ same,
    (taken _ _).mpr ⟨rfl, fun source => ?_⟩⟩
  cases source with
  | limitPerExecution => exact iff_of_false nofun nofun
  | _ => rfl

end ExecutorRegistration
