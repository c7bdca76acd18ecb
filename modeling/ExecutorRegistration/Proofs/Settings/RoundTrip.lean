import ExecutorRegistration.Json.Printer
import ExecutorRegistration.Proofs.Json.Layout
import ExecutorRegistration.Proofs.Settings.Loading

/-!
# Settings written and loaded

Settings are written into variables as numbers in decimal digits, lists and labels as compact
JSON, and texts as they are. What is loaded from such variables are the same settings, unless one
of the labels has the form of an embedded value: then the value stands in its place. Whatever is
loaded, from any variables, has texts that can be written.
-/

namespace ExecutorRegistration

/-! ## Texts that are written -/

namespace Text

theorem isTrimmed_ofList {first last : Char} (firstStays : isBlank first = false)
    (lastStays : isBlank last = false) (inner : List Char) :
    IsTrimmed (String.ofList (first :: (inner ++ [last]))) := by
  simp [IsTrimmed, String.toList_ofList, firstStays, lastStays]

theorem isBlank_of_isDigit {c : Char} (digit : Json.isDigit c = true) : isBlank c = false := by
  rw [Json.isDigit, decimalDigit?] at digit
  split_ifs at digit with between
  · obtain ⟨lower, upper⟩ := between
    have lower : 48 ≤ c.toNat := lower
    have upper : c.toNat ≤ 57 := upper
    simp [isBlank]
    omega
  · cases digit

theorem isTrimmed_decimal (number : Nat) : IsTrimmed (decimal number) := by
  have digits : ∀ c ∈ Nat.toDigits 10 number, isBlank c = false := fun c member =>
    isBlank_of_isDigit (Json.isDigit_of_mem_toDigits number c member)
  rw [IsTrimmed, decimal, String.toList_ofList]
  exact ⟨Nat.toDigits_ne_nil, digits _ (List.head_mem _), digits _ (List.getLast_mem _)⟩

end Text

namespace Json

theorem exists_compactItems (items : List Json) :
    ∃ inner, compactItems items = inner ++ [']'] := by
  induction items with
  | nil => exact ⟨[], rfl⟩
  | cons item items ih =>
      obtain ⟨inner, split⟩ := ih
      exact ⟨',' :: (item.compactChars ++ inner), by simp [compactItems, split]⟩

theorem exists_compactMembers (members : List (String × Json)) :
    ∃ inner, compactMembers members = inner ++ ['}'] := by
  induction members with
  | nil => exact ⟨[], rfl⟩
  | cons member members ih =>
      obtain ⟨inner, split⟩ := ih
      exact ⟨',' :: (quoted member.1 ++ ':' :: (member.2.compactChars ++ inner)),
        by simp [compactMembers, split]⟩

theorem isTrimmed_compact_array (items : List Json) :
    Text.IsTrimmed (array items).compact := by
  cases items with
  | nil => exact Text.isTrimmed_ofList rfl rfl []
  | cons item items =>
      obtain ⟨inner, split⟩ := exists_compactItems items
      rw [compact, compactChars, split, ← List.append_assoc]
      exact Text.isTrimmed_ofList rfl rfl _

theorem isTrimmed_compact_object (members : List (String × Json)) :
    Text.IsTrimmed (object members).compact := by
  cases members with
  | nil => exact Text.isTrimmed_ofList rfl rfl []
  | cons member members =>
      obtain ⟨inner, split⟩ := exists_compactMembers members
      have chars : (object (member :: members)).compactChars =
          '{' :: ((quoted member.1 ++ ':' :: (member.2.compactChars ++ inner)) ++ ['}']) := by
        simp [compactChars, split]
      rw [compact, chars]
      exact Text.isTrimmed_ofList rfl rfl _

end Json

/-! ## Settings as variables -/

/-- The value of each variable with which settings are written. -/
def Settings.written (settings : Settings) : Variable → Option String
  | .chainId => some (Text.decimal settings.executor.chainId.toNat)
  | .executorAddress => settings.executor.executor
  | .inputTokens => some (Json.ofStrings settings.executor.inputTokens).compact
  | .hopAddresses => some (Json.ofStrings settings.executor.hopAddresses).compact
  | .feeInBPS => some (Text.decimal settings.executor.feeInBPS.toNat)
  | .feeToken => settings.executor.feeToken
  | .feeReceiver => settings.executor.feeReceiver
  | .limitPerExecution => some (if settings.executor.limitPerExecution then "true" else "false")
  | .clientId => settings.executor.clientId
  | .addressTags => some (Json.object settings.metadata.addressTags).compact
  | .executorName => settings.metadata.name
  | .executorLogo => settings.metadata.logo
  | .apiBaseUrl => settings.apiBaseUrl
  | .keyManagerPath => some settings.keyManagerPath

/-- The texts that need not be set. -/
def Settings.optionalTexts (settings : Settings) : List (Option String) :=
  [settings.executor.executor, settings.executor.feeToken, settings.executor.feeReceiver,
   settings.executor.clientId, settings.metadata.name, settings.metadata.logo,
   settings.apiBaseUrl]

/-- The labels of addresses as a value. -/
def Settings.tags (settings : Settings) : Json := .object settings.metadata.addressTags

/-- The settings with other labels of addresses. -/
def Settings.withTags (settings : Settings) (addressTags : List (String × Json)) : Settings :=
  { settings with metadata := { settings.metadata with addressTags } }

/-- All texts of settings are set to more than white space and have none at their ends. -/
structure Settings.HasTrimmedTexts (settings : Settings) : Prop where
  optional : ∀ text, some text ∈ settings.optionalTexts → Text.IsTrimmed text
  keyManagerPath : Text.IsTrimmed settings.keyManagerPath

/-- Settings with trimmed texts, and with labels that are sorted, not too deep, and hold no
numbers but integers of 64 bits. -/
structure Settings.IsWritable (settings : Settings) : Prop where
  texts : settings.HasTrimmedTexts
  ascending : settings.tags.Everywhere Json.HasAscendingKeys
  whole : settings.tags.Everywhere Json.IsWhole
  deep : settings.tags.depth ≤ 127

section Loading

variable {settings : Settings} {lookup : Lookup}
  (given : ∀ source : Variable, lookup source.key = settings.written source)

include given

theorem Lookup.number_of_written {source : Variable} {number : UInt64}
    (written : settings.written source = some (Text.decimal number.toNat)) (default : UInt64) :
    lookup.number source default = .ok number := by
  have value : lookup.value source = some (Text.decimal number.toNat) :=
    value_of_trimmed ((given source).trans written) (by rintro _ ⟨⟩; exact Text.isTrimmed_decimal _)
  simp only [Lookup.number, value, Text.readNumber_decimal]
  rfl

theorem Lookup.texts_of_written {source : Variable} {texts : List String}
    (written : settings.written source = some (Json.ofStrings texts).compact) :
    lookup.texts source = .ok texts := by
  have value : lookup.value source = some (Json.ofStrings texts).compact :=
    value_of_trimmed ((given source).trans written)
      (by rintro _ ⟨⟩; exact Json.isTrimmed_compact_array _)
  simp only [Lookup.texts, value, Json.parseTexts_compact]
  rfl

/-- All that is parsed from written settings is what they hold, up to the labels. -/
theorem Lookup.parsed_of_written :
    lookup.parsed = ((Json.parseObject settings.tags.compact).mapError
      (SettingsFault.invalidJson .addressTags)).map fun addressTags =>
        ⟨settings.executor.chainId, settings.executor.inputTokens, settings.executor.hopAddresses,
          settings.executor.feeInBPS, addressTags⟩ := by
  have value : lookup.value .addressTags = some settings.tags.compact :=
    value_of_trimmed (given .addressTags) (by rintro _ ⟨⟩; exact Json.isTrimmed_compact_object _)
  have members : lookup.members .addressTags =
      (Json.parseObject settings.tags.compact).mapError (.invalidJson .addressTags) := by
    rw [Lookup.members, value]
  rw [Lookup.parsed, number_of_written given rfl, texts_of_written given rfl,
    texts_of_written given rfl, number_of_written given rfl, members]
  cases Json.parseObject settings.tags.compact <;> rfl

theorem Parsed.settings_of_written (trimmed : settings.HasTrimmedTexts)
    (addressTags : List (String × Json)) :
    Parsed.settings ⟨settings.executor.chainId, settings.executor.inputTokens,
      settings.executor.hopAddresses, settings.executor.feeInBPS, addressTags⟩
      settings.executor.timestamp lookup = settings.withTags addressTags := by
  have optional : ∀ source, settings.written source ∈ settings.optionalTexts →
      lookup.value source = settings.written source := fun source member =>
    Lookup.value_of_trimmed (given source) fun text isSet =>
      trimmed.optional text (isSet ▸ member)
  have keyManagerPath : lookup.value .keyManagerPath = some settings.keyManagerPath :=
    Lookup.value_of_trimmed (given .keyManagerPath) (by rintro _ ⟨⟩; exact trimmed.keyManagerPath)
  have truth : ∀ text ∈ settings.written .limitPerExecution, Text.IsTrimmed text := by
    rintro _ ⟨⟩
    split_ifs
    · exact ⟨by decide, rfl, rfl⟩
    · exact ⟨by decide, rfl, rfl⟩
  have limit : decide (lookup.value .limitPerExecution = some "true") =
      settings.executor.limitPerExecution := by
    rw [Lookup.value_of_trimmed (given .limitPerExecution) truth, Settings.written]
    cases settings.executor.limitPerExecution <;> rfl
  have executor := optional .executorAddress (by simp [Settings.written, Settings.optionalTexts])
  have feeToken := optional .feeToken (by simp [Settings.written, Settings.optionalTexts])
  have feeReceiver := optional .feeReceiver (by simp [Settings.written, Settings.optionalTexts])
  have clientId := optional .clientId (by simp [Settings.written, Settings.optionalTexts])
  have name := optional .executorName (by simp [Settings.written, Settings.optionalTexts])
  have logo := optional .executorLogo (by simp [Settings.written, Settings.optionalTexts])
  have apiBaseUrl := optional .apiBaseUrl (by simp [Settings.written, Settings.optionalTexts])
  rw [Parsed.settings, executor, feeToken, feeReceiver, limit, clientId, name, logo, apiBaseUrl,
    keyManagerPath]
  rfl

/-- Writable settings are loaded with the values that their labels embed in the place of the texts
of these, and not at all if one of the texts denotes no value. -/
theorem Settings.load_of_written (writable : settings.IsWritable) :
    (∀ resolved, Json.resolveMembers? settings.metadata.addressTags = some resolved →
      Settings.load settings.executor.timestamp lookup =
        .ok (settings.withTags (Json.sortMembers (Json.sortedMembers resolved)))) ∧
    (Json.resolveMembers? settings.metadata.addressTags = none →
      ∃ error, Settings.load settings.executor.timestamp lookup =
        .error (.invalidJson .addressTags error)) := by
  have read := Json.toOption_parseObject_compact writable.whole writable.deep
  rw [load_eq, Lookup.parsed_of_written given]
  change (Json.parseObject settings.tags.compact).toOption = _ at read
  constructor
  · intro resolved resolves
    rw [resolves, Option.map_some, toOption_eq_some_iff] at read
    rw [read]
    exact congrArg Except.ok (Parsed.settings_of_written given writable.texts _)
  · intro unresolved
    rw [unresolved, Option.map_none, toOption_eq_none_iff] at read
    obtain ⟨error, read⟩ := read
    rw [read]
    exact ⟨error, rfl⟩

/-- Writable settings whose labels embed nothing are loaded as they are. -/
theorem Settings.load_of_plain (writable : settings.IsWritable)
    (plain : ∀ member ∈ settings.metadata.addressTags,
      member.2.Everywhere Json.EmbedsNothing) :
    Settings.load settings.executor.timestamp lookup = .ok settings := by
  have resolves := Json.resolveMembers?_of_each fun member isMember =>
    Json.resolveEmbedded?_of_plain (plain member isMember)
  have sorted := Json.sorted_of_ascending writable.ascending
  rw [tags, Json.sorted, Json.object.injEq] at sorted
  rw [(load_of_written given writable).1 _ resolves, sorted]
  rfl

end Loading

/-! ## Settings that are loaded -/

section Loaded

variable {timestamp : UInt64} {lookup : Lookup} {settings : Settings}
  (loaded : Settings.load timestamp lookup = .ok settings)

include loaded

theorem Settings.exists_parsed :
    ∃ parsed, lookup.parsed = .ok parsed ∧ settings = parsed.settings timestamp lookup := by
  rw [load_eq] at loaded
  exact (map_eq_ok_iff _ _ _).mp loaded

theorem Settings.hasTrimmedTexts_of_load : settings.HasTrimmedTexts := by
  obtain ⟨parsed, -, rfl⟩ := exists_parsed loaded
  constructor
  · intro text isSet
    simp only [optionalTexts, Parsed.settings, List.mem_cons, List.not_mem_nil, or_false] at isSet
    rcases isSet with found | found | found | found | found | found | found <;>
      exact Lookup.isTrimmed_of_value found.symm
  · have default : Text.IsTrimmed defaultKeyManagerPath := ⟨by decide, by decide, by decide⟩
    rw [Parsed.settings]
    cases found : lookup.value .keyManagerPath with
    | none => exact default
    | some text => exact Lookup.isTrimmed_of_value found

theorem Lookup.members_of_load :
    lookup.members .addressTags = .ok settings.metadata.addressTags := by
  obtain ⟨parsed, parses, rfl⟩ := Settings.exists_parsed loaded
  simp only [Lookup.parsed, bind_eq_ok_iff] at parses
  obtain ⟨chainId, -, inputTokens, -, hopAddresses, -, feeInBPS, -, addressTags, found, same⟩ :=
    parses
  cases same
  exact found

/-- Labels are none, or read from a text. -/
theorem Lookup.addressTags_of_load :
    settings.metadata.addressTags = [] ∨
      ∃ text, lookup.value .addressTags = some text ∧
        Json.parseObject text = .ok settings.metadata.addressTags := by
  have members := members_of_load loaded
  rw [Lookup.members] at members
  cases found : lookup.value .addressTags with
  | none =>
      rw [found] at members
      exact .inl (Except.ok.inj members).symm
  | some text =>
      rw [found] at members
      exact .inr ⟨text, rfl, (mapError_eq_ok_iff _ _ _).mp members⟩

theorem Settings.ascending_of_load : settings.tags.Everywhere Json.HasAscendingKeys := by
  rcases Lookup.addressTags_of_load loaded with unset | ⟨text, -, parsed⟩
  · rw [tags, unset]
    exact .object List.Pairwise.nil nofun
  · obtain ⟨rest, read⟩ := Json.exists_of_readAll parsed
    exact Json.ascending_of_readObject read

/-- Labels are nested at most as deep as a text may be, unless a value is embedded within them. -/
theorem Settings.depth_of_load :
    settings.tags.depth ≤ 127 ∨ ∃ text inside, lookup.value .addressTags = some text ∧
      Json.skipBlanks text.toList = '{' :: inside ∧ Json.EmbedsValue inside := by
  rcases Lookup.addressTags_of_load loaded with unset | ⟨text, found, parsed⟩
  · rw [tags, unset]
    exact .inl (by decide)
  · obtain ⟨rest, read⟩ := Json.exists_of_readAll parsed
    obtain ⟨inside, opened, bounded⟩ := Json.depth_le_of_readObject read
    by_cases embeds : Json.EmbedsValue inside
    · exact .inr ⟨text, inside, found, opened, embeds⟩
    · exact .inl (bounded embeds)

end Loaded

/-- Writable settings are loaded from the variables with which they are written, with the values
that their labels embed in place; they are the same settings if nothing is embedded. All settings
that are loaded have trimmed texts and sorted labels, nested no deeper than a text may be unless
their own text embeds another. -/
theorem Settings.load_inverts_written :
    (∀ (settings : Settings) (lookup : Lookup), settings.IsWritable →
      (∀ source : Variable, lookup source.key = settings.written source) →
      ((∀ member ∈ settings.metadata.addressTags, member.2.Everywhere Json.EmbedsNothing) →
        load settings.executor.timestamp lookup = .ok settings) ∧
      (∀ resolved, Json.resolveMembers? settings.metadata.addressTags = some resolved →
        load settings.executor.timestamp lookup =
          .ok (settings.withTags (Json.sortMembers (Json.sortedMembers resolved)))) ∧
      (Json.resolveMembers? settings.metadata.addressTags = none →
        ∃ error, load settings.executor.timestamp lookup =
          .error (.invalidJson .addressTags error))) ∧
    ∀ (timestamp : UInt64) (lookup : Lookup) (settings : Settings),
      load timestamp lookup = .ok settings →
        settings.HasTrimmedTexts ∧ settings.tags.Everywhere Json.HasAscendingKeys ∧
          (settings.tags.depth ≤ 127 ∨ ∃ text inside, lookup.value .addressTags = some text ∧
            Json.skipBlanks text.toList = '{' :: inside ∧ Json.EmbedsValue inside) :=
  ⟨fun _ _ writable given =>
    ⟨load_of_plain given writable, load_of_written given writable⟩,
    fun _ _ _ loaded =>
      ⟨hasTrimmedTexts_of_load loaded, ascending_of_load loaded, depth_of_load loaded⟩⟩

/-- The variables with which settings are written, and no others. -/
def Settings.environment (settings : Settings) : Lookup := fun name =>
  (Variable.all.find? (·.key = name)).bind settings.written

theorem Settings.environment_key (settings : Settings) (source : Variable) :
    settings.environment source.key = settings.written source := by
  cases source <;> rfl

/-- Settings with a token whose text needs escapes, and labels of several kinds. -/
def labelledSettings : Settings where
  executor := { chainId := 137, inputTokens := ["\"\\\n"], limitPerExecution := true }
  metadata := {
    name := some "Ada"
    addressTags := [("a", .array [.integer (-1), .null]), ("b", .object [("c", .string "")])] }

theorem isWritable_labelledSettings : labelledSettings.IsWritable where
  texts := by
    refine ⟨fun text isSet => ?_, ⟨by decide, by decide, by decide⟩⟩
    simp only [labelledSettings, Settings.optionalTexts, List.mem_cons, reduceCtorEq,
      Option.some.injEq, List.not_mem_nil, or_false, false_or] at isSet
    subst isSet
    exact ⟨by decide, by decide, by decide⟩
  ascending := by
    have keys : Json.AscendingKeys labelledSettings.metadata.addressTags := by
      unfold Json.AscendingKeys
      decide
    exact .object keys (by simp [labelledSettings, Json.HasAscendingKeys, Json.AscendingKeys])
  whole := by
    simp [labelledSettings, Settings.tags, Json.IsWhole, Json.FitsInteger]
  deep := by decide

/-- The settings are loaded as they were written, and what is loaded can be written. -/
theorem load_labelledSettings :
    labelledSettings.IsWritable ∧
      Settings.load 0 labelledSettings.environment = .ok labelledSettings ∧
      labelledSettings.HasTrimmedTexts := by
  have loaded : Settings.load 0 labelledSettings.environment = .ok labelledSettings :=
    (Settings.load_inverts_written.1 labelledSettings _ isWritable_labelledSettings
      labelledSettings.environment_key).1
        (by simp [labelledSettings, Json.EmbedsNothing, Json.embeddedKey])
  exact ⟨isWritable_labelledSettings, loaded, (Settings.load_inverts_written.2 _ _ _ loaded).1⟩

/-! ## Labels that embed a value -/

/-- An array within as many others. -/
def nestedArray : (depth : Nat) → Json
  | 0 => .array []
  | depth + 1 => .array [nestedArray depth]

theorem depth_nestedArray (depth : Nat) : (nestedArray depth).depth = depth + 1 := by
  induction depth with
  | zero => rfl
  | succ depth ih => rw [nestedArray, Json.depth, Json.depthOfItems, ih]; rfl

theorem everywhere_nestedArray {test : Json → Prop} (holds : ∀ items, test (.array items))
    (depth : Nat) : (nestedArray depth).Everywhere test := by
  induction depth with
  | zero => exact .array (holds []) nofun
  | succ depth ih =>
      exact .array (holds _) fun item member => List.mem_singleton.mp member ▸ ih

/-- The text of an array is read back, as deep as a text may be. -/
theorem parse_nestedArray {depth : Nat} (deep : depth < 127) :
    Json.parse (nestedArray depth).compact = .ok (nestedArray depth) := by
  have bounded : (nestedArray depth).depth ≤ 127 := (depth_nestedArray depth).trans_le deep
  have read := Json.toOption_parse_compact (everywhere_nestedArray (fun _ => trivial) depth) bounded
  rw [Json.resolveEmbedded?_of_plain (everywhere_nestedArray (fun _ => trivial) depth),
    Option.map_some, Json.sorted_of_ascending (everywhere_nestedArray (fun _ => trivial) depth)]
    at read
  exact (toOption_eq_some_iff _ _).mp read

/-- Settings with a label that embeds the text of an array nested as deep as a text may be. -/
def embeddingSettings : Settings where
  metadata := {
    addressTags := [("a", .object [(Json.embeddedKey, .string (nestedArray 126).compact)])] }

theorem isWritable_embeddingSettings : embeddingSettings.IsWritable where
  texts := ⟨fun text isSet => by simp [embeddingSettings, Settings.optionalTexts] at isSet,
    ⟨by decide, by decide, by decide⟩⟩
  ascending := by
    simp [embeddingSettings, Settings.tags, Json.HasAscendingKeys, Json.AscendingKeys]
  whole := by
    simp [embeddingSettings, Settings.tags, Json.IsWhole]
  deep := by
    simp [embeddingSettings, Settings.tags, Json.depth, Json.depthOfMembers]

/-- What is embedded takes the place of its text, and is nested within the labels deeper than any
text may be. -/
theorem load_embeddingSettings :
    embeddingSettings.IsWritable ∧
      (∀ source : Variable, embeddingSettings.environment source.key =
        embeddingSettings.written source) ∧
      Settings.load 0 embeddingSettings.environment ≠ .ok embeddingSettings ∧
      ∃ settings, Settings.load 0 embeddingSettings.environment = .ok settings ∧
        ¬ settings.tags.depth ≤ 127 := by
  have resolves : Json.resolveMembers? embeddingSettings.metadata.addressTags =
      some [("a", nestedArray 126)] := by
    refine (Json.resolveMembers?_cons_eq_some_iff _ _ _ _).mpr
      ⟨nestedArray 126, [], ?_, rfl, rfl⟩
    change (Json.parse (nestedArray 126).compact).toOption = some (nestedArray 126)
    rw [parse_nestedArray (by decide)]
    rfl
  have loaded := (Settings.load_of_written embeddingSettings.environment_key
    isWritable_embeddingSettings).1 _ resolves
  have sorted : Json.sortMembers (Json.sortedMembers [("a", nestedArray 126)]) =
      [("a", nestedArray 126)] := by
    rw [Json.sortedMembers,
      Json.sorted_of_ascending (everywhere_nestedArray (fun _ => trivial) 126)]
    rfl
  rw [sorted] at loaded
  refine ⟨isWritable_embeddingSettings, embeddingSettings.environment_key, ?_, _, loaded, ?_⟩
  · intro same
    have tags := congrArg Settings.tags (Except.ok.inj (loaded.symm.trans same))
    have isObject := (Prod.mk.inj (List.cons.inj (Json.object.inj tags)).1).2
    cases isObject
  · have deep := depth_nestedArray 126
    simp [Settings.tags, Settings.withTags, Json.depth, Json.depthOfMembers, deep]

end ExecutorRegistration
