import ExecutorRegistration.Proofs.Body
import ExecutorRegistration.Proofs.Json.Paths
import ExecutorRegistration.Proofs.Settings.RoundTrip
import ExecutorRegistration.Proofs.Submission

/-!
# Texts of a body

A body is shown as its pretty text and sent as its compact text with sorted keys. Both denote one
value, in which each text that is set stands under its key as it is, and in which nothing but the
labels of addresses can hold a null; or neither denotes a value, if labels have the form of an
embedded value that cannot be read.
-/

namespace ExecutorRegistration

open Json (Step)
open List (forall_mem_append forall_mem_cons forall_mem_nil)

namespace Payload

/-! ## Parts of a body -/

/-- The members of a body that stand before the metadata. -/
def bodyFront (payload : Payload) : List (String × Json) :=
  [("config", .object payload.configMembers)] ++ optionalMember "executor" payload.executor ++
    [("signature", .string payload.signature), ("chainId", .ofUInt64 payload.chainId),
     ("timestamp", .ofUInt64 payload.timestamp)]

/-- The members of the metadata that stand before the labels. -/
def metadataFront (payload : Payload) : List (String × Json) :=
  optionalMember "id" payload.clientId ++ optionalMember "name" payload.metadata.name ++
    optionalMember "logo" payload.metadata.logo

/-- The metadata of a body with any value in the place of the labels. -/
def metadataWith (payload : Payload) (tags : Json) : Json :=
  .object (payload.metadataFront ++ [("metadata", .object ([] ++ [("addressTags", tags)]))])

/-- The body with any value in the place of the labels. -/
def withTags (payload : Payload) (tags : Json) : Json :=
  .object (payload.bodyFront ++ [("executorMetadata", payload.metadataWith tags)])

theorem toJson_eq_withTags (payload : Payload) :
    payload.toJson = payload.withTags (.object payload.metadata.addressTags) := by
  simp [toJson, withTags, metadataWith, bodyFront, metadataFront, configMembers]

/-! ## Keys -/

theorem keys_optionalMember (key : String) (value? : Option String) :
    (Json.keys (optionalMember key value?)).Sublist [key] := by
  cases value? with
  | none => exact List.nil_sublist _
  | some value => exact List.Sublist.refl _

theorem keys_configMembers (payload : Payload) : (Json.keys payload.configMembers).Sublist
    ["inputTokens", "hopAddresses", "feeInBPS", "feeToken", "feeReceiver",
     "limitPerExecution"] := by
  simp only [Json.keys, configMembers, List.map_append]
  exact (((List.Sublist.refl _).append (keys_optionalMember _ _)).append
    (keys_optionalMember _ _)).append (List.Sublist.refl _)

theorem keys_bodyFront (payload : Payload) : (Json.keys payload.bodyFront).Sublist
    ["config", "executor", "signature", "chainId", "timestamp"] := by
  simp only [Json.keys, bodyFront, List.map_append]
  exact ((List.Sublist.refl _).append (keys_optionalMember _ _)).append (List.Sublist.refl _)

theorem keys_metadataFront (payload : Payload) :
    (Json.keys payload.metadataFront).Sublist ["id", "name", "logo"] := by
  simp only [Json.keys, metadataFront, List.map_append]
  exact ((keys_optionalMember _ _).append (keys_optionalMember _ _)).append
    (keys_optionalMember _ _)

/-! ## What holds everywhere -/

section Everywhere

variable {test : Json → Prop} (texts : ∀ text, test (.string text))

include texts

theorem everywhere_optionalMember (key : String) (value? : Option String) :
    ∀ member ∈ optionalMember key value?, member.2.Everywhere test := by
  cases value? with
  | none => exact forall_mem_nil _
  | some value => simpa [optionalMember] using texts value

theorem everywhere_metadataFront (payload : Payload) :
    ∀ member ∈ payload.metadataFront, member.2.Everywhere test := by
  simp only [metadataFront, forall_mem_append]
  exact ⟨⟨everywhere_optionalMember texts _ _, everywhere_optionalMember texts _ _⟩,
    everywhere_optionalMember texts _ _⟩

theorem everywhere_ofStrings (lists : ∀ items, test (.array items)) (strings : List String) :
    (Json.ofStrings strings).Everywhere test := by
  refine .array (lists _) fun item member => ?_
  obtain ⟨text, -, rfl⟩ := List.mem_map.mp member
  exact .scalar trivial (texts text)

variable (numbers : ∀ number : UInt64, test (.ofUInt64 number))
  (truths : ∀ truth, test (.bool truth)) (lists : ∀ items, test (.array items))

include numbers truths lists

theorem everywhere_configMembers (payload : Payload) :
    ∀ member ∈ payload.configMembers, member.2.Everywhere test := by
  simp only [configMembers, forall_mem_append, forall_mem_cons]
  exact ⟨⟨⟨⟨everywhere_ofStrings texts lists _, everywhere_ofStrings texts lists _,
    .scalar trivial (numbers _), forall_mem_nil _⟩, everywhere_optionalMember texts _ _⟩,
    everywhere_optionalMember texts _ _⟩, .scalar trivial (truths _), forall_mem_nil _⟩

/-- A test holds everywhere in a body before the metadata if it holds of the values of each kind
and of the object under `config`. -/
theorem everywhere_bodyFront (payload : Payload) (config : test (.object payload.configMembers)) :
    ∀ member ∈ payload.bodyFront, member.2.Everywhere test := by
  simp only [bodyFront, forall_mem_append, forall_mem_cons]
  have inConfig := everywhere_configMembers texts numbers truths lists payload
  exact ⟨⟨⟨.object config inConfig, forall_mem_nil _⟩, everywhere_optionalMember texts _ _⟩,
    .scalar trivial (texts _), .scalar trivial (numbers _), .scalar trivial (numbers _),
    forall_mem_nil _⟩

/-- A test holds everywhere in a body if it does in the labels, and holds of the values of each
kind and of the four objects around the labels. -/
theorem everywhere_toJson (payload : Payload) (body : test payload.toJson)
    (config : test (.object payload.configMembers))
    (metadata : test (payload.metadataWith (.object payload.metadata.addressTags)))
    (inner : test (.object [("addressTags", .object payload.metadata.addressTags)]))
    (tags : (Json.object payload.metadata.addressTags).Everywhere test) :
    payload.toJson.Everywhere test := by
  rw [toJson_eq_withTags] at *
  refine .object body ?_
  simp only [forall_mem_append, forall_mem_cons]
  refine ⟨everywhere_bodyFront texts numbers truths lists payload config, .object metadata ?_,
    forall_mem_nil _⟩
  simp only [forall_mem_append, forall_mem_cons]
  refine ⟨everywhere_metadataFront texts payload, .object inner ?_, forall_mem_nil _⟩
  simpa using tags

end Everywhere

/-- The keys of a body and those of its metadata. -/
theorem keys_withTags (payload : Payload) (tags : Json) :
    (Json.keys (payload.bodyFront ++ [("executorMetadata", payload.metadataWith tags)])).Sublist
      ["config", "executor", "signature", "chainId", "timestamp", "executorMetadata"] ∧
    (Json.keys (payload.metadataFront ++
      [("metadata", .object ([] ++ [("addressTags", tags)]))])).Sublist
      ["id", "name", "logo", "metadata"] := by
  rw [Json.keys, Json.keys, List.map_append, List.map_append]
  exact ⟨payload.keys_bodyFront.append (List.Sublist.refl _),
    payload.keys_metadataFront.append (List.Sublist.refl _)⟩

theorem hasSettledKeys_of_sublist {members : List (String × Json)} {names : List String}
    (within : (Json.keys members).Sublist names) (distinct : names.Nodup)
    (plain : Json.embeddedKey ∉ names) : (Json.object members).HasSettledKeys :=
  .inr ⟨within.nodup distinct, fun isKey => plain (within.subset isKey)⟩

/-- In a body all keys are settled if those of the labels are ascending. -/
theorem everywhere_hasSettledKeys (payload : Payload)
    (ascending : (Json.object payload.metadata.addressTags).Everywhere Json.HasAscendingKeys) :
    payload.toJson.Everywhere Json.HasSettledKeys := by
  have settled : ∀ value : Json, value.HasAscendingKeys → value.HasSettledKeys := by
    intro value ascending
    cases value with
    | object members => exact .inl ascending
    | _ => trivial
  obtain ⟨body, metadata⟩ := payload.keys_withTags (.object payload.metadata.addressTags)
  refine everywhere_toJson (fun _ => trivial) (fun _ => trivial) (fun _ => trivial)
    (fun _ => trivial) payload ?_ ?_ ?_ ?_ (ascending.mono settled)
  · rw [toJson_eq_withTags]
    exact hasSettledKeys_of_sublist body (by decide) (by decide)
  · exact hasSettledKeys_of_sublist payload.keys_configMembers (by decide) (by decide)
  · exact hasSettledKeys_of_sublist metadata (by decide) (by decide)
  · exact hasSettledKeys_of_sublist (List.Sublist.refl ["addressTags"]) (by decide) (by decide)

theorem everywhere_isWhole (payload : Payload)
    (whole : (Json.object payload.metadata.addressTags).Everywhere Json.IsWhole) :
    payload.toJson.Everywhere Json.IsWhole := by
  refine everywhere_toJson (fun _ => trivial) (fun number => ?_) (fun _ => trivial)
    (fun _ => trivial) payload trivial trivial trivial trivial whole
  have small := number.toNat_lt
  exact ⟨by omega, by omega⟩

/-- A body opens three brackets around the labels. -/
theorem depth_toJson_le (payload : Payload) {bound : Nat}
    (deep : (Json.object payload.metadata.addressTags).depth ≤ bound) :
    payload.toJson.depth ≤ bound + 3 := by
  have flat : ∀ key value? bound, ∀ member ∈ optionalMember key value?,
      member.2.depth ≤ bound := by
    rintro key (_ | value) bound member isMember
    · cases isMember
    · rw [List.mem_singleton.mp isMember]
      exact Nat.zero_le bound
  have lists : ∀ texts, (Json.ofStrings texts).depth ≤ bound + 1 := by
    refine fun texts => (Json.depth_array_le_iff _ bound).mpr fun item member => ?_
    obtain ⟨text, -, rfl⟩ := List.mem_map.mp member
    exact Nat.zero_le bound
  have config : (Json.object payload.configMembers).depth ≤ bound + 2 := by
    refine (Json.depth_object_le_iff _ (bound + 1)).mpr ?_
    simp only [configMembers, forall_mem_append, forall_mem_cons]
    exact ⟨⟨⟨⟨lists _, lists _, Nat.zero_le _, forall_mem_nil _⟩, flat _ _ _⟩, flat _ _ _⟩,
      Nat.zero_le _, forall_mem_nil _⟩
  have metadata : (payload.metadataWith (.object payload.metadata.addressTags)).depth ≤
      bound + 2 := by
    refine (Json.depth_object_le_iff _ (bound + 1)).mpr ?_
    simp only [metadataFront, forall_mem_append, forall_mem_cons]
    refine ⟨⟨⟨flat _ _ _, flat _ _ _⟩, flat _ _ _⟩, ?_, forall_mem_nil _⟩
    refine (Json.depth_object_le_iff _ bound).mpr fun member isMember => ?_
    rw [List.mem_singleton.mp isMember]
    exact deep
  rw [toJson_eq_withTags]
  refine (Json.depth_object_le_iff _ (bound + 2)).mpr ?_
  simp only [bodyFront, forall_mem_append, forall_mem_cons]
  exact ⟨⟨⟨⟨config, forall_mem_nil _⟩, flat _ _ _⟩, Nat.zero_le _, Nat.zero_le _,
    Nat.zero_le _, forall_mem_nil _⟩, metadata, forall_mem_nil _⟩

/-- A body is resolved by its labels. -/
theorem resolveEmbedded?_withTags (payload : Payload) (tags : Json) :
    (payload.withTags tags).resolveEmbedded? =
      tags.resolveEmbedded?.map payload.withTags := by
  obtain ⟨body, metadata⟩ := payload.keys_withTags tags
  have plain : ∀ text : String, Json.EmbedsNothing (.string text) := fun _ => trivial
  have config : Json.EmbedsNothing (.object payload.configMembers) := by
    simp [configMembers, Json.EmbedsNothing, Json.embeddedKey]
  rw [withTags, Json.resolveEmbedded?_object_append _
      (everywhere_bodyFront plain (fun _ => trivial) (fun _ => trivial) (fun _ => trivial) payload
        config) (fun isKey => absurd (body.subset isKey) (by decide)), metadataWith,
    Json.resolveEmbedded?_object_append _ (everywhere_metadataFront plain payload)
      (fun isKey => absurd (metadata.subset isKey) (by decide)),
    Json.resolveEmbedded?_object_append tags (fun _ member => absurd member List.not_mem_nil)
      (show Json.embeddedKey ∉ ["addressTags"] by decide)]
  cases tags.resolveEmbedded? <;> rfl

/-! ## What a body shows -/

/-- The path to the labels of a body. -/
def tagsPath : List Step := [.key "executorMetadata", .key "metadata", .key "addressTags"]

/-- What stands under the keys of a body with any labels. -/
theorem fields_withTags (payload : Payload) (tags : Json) :
    let body := (payload.withTags tags).sorted
    body.field? "config" = some (Json.object payload.configMembers).sorted ∧
    body.field? "executor" = payload.executor.map .string ∧
    body.field? "executorMetadata" = some (payload.metadataWith tags).sorted := by
  simp only [withTags, bodyFront, Json.field?_sorted_object, List.reverse_append,
    List.reverse_cons, List.reverse_nil, List.nil_append, Json.member?_append,
    member?_reverse_optionalMember, Json.member?]
  simp [Json.sorted_comp_string]

/-- What stands under the keys of the metadata. -/
theorem fields_metadataWith (payload : Payload) (tags : Json) :
    let metadata := (payload.metadataWith tags).sorted
    metadata.field? "id" = payload.clientId.map .string ∧
    metadata.field? "name" = payload.metadata.name.map .string ∧
    metadata.field? "logo" = payload.metadata.logo.map .string ∧
    metadata.field? "metadata" = some (.object [("addressTags", tags.sorted)]) := by
  simp only [metadataWith, metadataFront, Json.field?_sorted_object, List.reverse_append,
    List.reverse_cons, List.reverse_nil, List.nil_append, Json.member?_append,
    member?_reverse_optionalMember, Json.member?]
  simp [Json.sorted_comp_string, Json.sorted, Json.sortedMembers, Json.sortMembers,
    Json.setMember]

/-- Nulls of a body stand within its labels. -/
theorem tagsPath_prefix_of_null (payload : Payload) (tags : Json) {path : List Step}
    (found : (payload.withTags tags).sorted.at? path = some .null) : tagsPath <+: path := by
  have texts : ∀ text : String, Json.string text ≠ .null := fun _ => by simp
  refine Json.prefix_of_null (payload.metadataWith tags) (fun member isMember => ?_)
    (fun path found => ?_) found
  · refine (List.mem_append.mp isMember).imp (fun front => ?_) List.mem_singleton.mp
    exact everywhere_bodyFront texts (fun _ => by simp [Json.ofUInt64]) (fun _ => by simp)
      (fun _ => by simp) payload (by simp) member front
  refine Json.prefix_of_null (.object [("addressTags", tags)]) (fun member isMember => ?_)
    (fun path found => ?_) found
  · refine (List.mem_append.mp isMember).imp (fun front => ?_) List.mem_singleton.mp
    exact everywhere_metadataFront texts payload member front
  exact Json.prefix_of_null tags (fun member isMember => .inr (List.mem_singleton.mp isMember))
    (fun path _ => List.nil_prefix) found

end Payload

/-- A value shows settings with labels: each text that is set stands under its key, and no other
text does; there are the labels, and no nulls outside of them. -/
structure Json.Shows (value : Json) (settings : Settings) (tags : Json) : Prop where
  executor : value.at? [.key "executor"] = settings.executor.executor.map .string
  feeToken : value.at? [.key "config", .key "feeToken"] =
    settings.executor.feeToken.map .string
  feeReceiver : value.at? [.key "config", .key "feeReceiver"] =
    settings.executor.feeReceiver.map .string
  id : value.at? [.key "executorMetadata", .key "id"] = settings.executor.clientId.map .string
  name : value.at? [.key "executorMetadata", .key "name"] = settings.metadata.name.map .string
  logo : value.at? [.key "executorMetadata", .key "logo"] = settings.metadata.logo.map .string
  tags : value.at? [.key "executorMetadata", .key "metadata", .key "addressTags"] = some tags
  nulls : ∀ path, value.at? path = some .null →
    [.key "executorMetadata", .key "metadata", .key "addressTags"] <+: path

theorem Payload.shows_withTags (settings : Settings) (signature : String) (timestamp : UInt64)
    (tags : Json) :
    (((Payload.unsigned settings).withSignature signature timestamp).withTags tags).sorted.Shows
      settings tags.sorted := by
  let payload := (Payload.unsigned settings).withSignature signature timestamp
  obtain ⟨config, executor, metadata⟩ := payload.fields_withTags tags
  obtain ⟨-, -, -, feeToken, feeReceiver, -⟩ := payload.fields_configMembers
  obtain ⟨id, name, logo, inner⟩ := payload.fields_metadataWith tags
  have last : ∀ {value : Option Json}, value.bind (Json.at? []) = value := by
    rintro (_ | value) <;> rfl
  exact
    { executor := by rw [Json.at?_key, executor, last]; rfl
      feeToken := by rw [Json.at?_key, config, Option.bind_some, Json.at?_key, feeToken, last]; rfl
      feeReceiver := by
        rw [Json.at?_key, config, Option.bind_some, Json.at?_key, feeReceiver, last]
        rfl
      id := by rw [Json.at?_key, metadata, Option.bind_some, Json.at?_key, id, last]; rfl
      name := by rw [Json.at?_key, metadata, Option.bind_some, Json.at?_key, name, last]; rfl
      logo := by rw [Json.at?_key, metadata, Option.bind_some, Json.at?_key, logo, last]; rfl
      tags := by rw [Json.at?_key, metadata, Option.bind_some, Json.at?_key, inner]; rfl
      nulls := fun _ => payload.tagsPath_prefix_of_null tags }

/-! ## What is shown and what is sent -/

section Texts

variable {payload : Payload}
  (whole : (Json.object payload.metadata.addressTags).Everywhere Json.IsWhole)
  (deep : (Json.object payload.metadata.addressTags).depth ≤ 124)

include whole deep

/-- The pretty text of a body denotes the body with the values that its labels embed. -/
theorem Payload.toOption_parse_pretty :
    (Json.parse payload.toJson.pretty).toOption =
      (Json.object payload.metadata.addressTags).resolveEmbedded?.map fun tags =>
        (payload.withTags tags).sorted := by
  have wholeBody := payload.everywhere_isWhole whole
  rw [Json.toOption_parse_pretty wholeBody (payload.depth_toJson_le deep),
    payload.toJson_eq_withTags, payload.resolveEmbedded?_withTags, Option.map_map]
  rfl

/-- The compact text of a body with sorted keys denotes the same. -/
theorem Payload.toOption_parse_compact
    (ascending : (Json.object payload.metadata.addressTags).Everywhere Json.HasAscendingKeys) :
    (Json.parse payload.toJson.sorted.compact).toOption =
      (Json.object payload.metadata.addressTags).resolveEmbedded?.map fun tags =>
        (payload.withTags tags).sorted := by
  rw [← toOption_parse_pretty whole deep]
  exact Json.toOption_parse_compact_sorted (payload.everywhere_hasSettledKeys ascending)
    (payload.everywhere_isWhole whole) (payload.depth_toJson_le deep)

end Texts

/-- The body that is shown is the one that is sent. For labels that are sorted, not too deep, and
hold no numbers but integers of 64 bits, its two texts denote one value, which shows the settings
with the values that the labels embed in the place of their texts; and neither denotes a value if
one of these texts does not. -/
theorem shown_body_is_sent (settings : Settings)
    (ascending : settings.tags.Everywhere Json.HasAscendingKeys)
    (whole : settings.tags.Everywhere Json.IsWhole) (deep : settings.tags.depth ≤ 124)
    {signature normalized : String} (timestamp : UInt64)
    (accepted : Signature.normalize signature = .ok normalized) :
    ∃ payload, prepare settings signature timestamp = .ok payload ∧
      (∀ request, registrationRequest settings payload = .ok request →
        request.body = payload.toJson.sorted) ∧
      (settings.tags.Everywhere Json.EmbedsNothing →
        settings.tags.resolveEmbedded? = some settings.tags) ∧
      (∀ tags, settings.tags.resolveEmbedded? = some tags →
        ∃ value, Json.parse payload.toJson.pretty = .ok value ∧
          Json.parse payload.toJson.sorted.compact = .ok value ∧
          value.Shows settings tags.sorted) ∧
      (settings.tags.resolveEmbedded? = none →
        (∃ error, Json.parse payload.toJson.pretty = .error error) ∧
          ∃ error, Json.parse payload.toJson.sorted.compact = .error error) := by
  let payload := (Payload.unsigned settings).withSignature normalized timestamp
  have pretty : (Json.parse payload.toJson.pretty).toOption =
      settings.tags.resolveEmbedded?.map fun tags => (payload.withTags tags).sorted :=
    Payload.toOption_parse_pretty whole deep
  have compact : (Json.parse payload.toJson.sorted.compact).toOption =
      settings.tags.resolveEmbedded?.map fun tags => (payload.withTags tags).sorted :=
    Payload.toOption_parse_compact whole deep ascending
  refine ⟨payload, by rw [prepare, accepted], ?_, Json.resolveEmbedded?_of_plain,
    fun tags resolved => ?_, fun unresolved => ?_⟩
  · intro request sends
    rw [registrationRequest] at sends
    cases base : settings.requireApiBaseUrl with
    | error fault => simp [base] at sends
    | ok base' =>
        simp only [base, Except.ok.injEq] at sends
        rw [← sends]
  · rw [resolved] at pretty compact
    exact ⟨_, (toOption_eq_some_iff _ _).mp pretty, (toOption_eq_some_iff _ _).mp compact,
      Payload.shows_withTags settings normalized timestamp tags⟩
  · rw [unresolved] at pretty compact
    exact ⟨(toOption_eq_none_iff _).mp pretty, (toOption_eq_none_iff _).mp compact⟩

/-- The labels of settings are shown as they are. -/
theorem shown_body_of_labelledSettings :
    ∃ payload value, prepare labelledSettings lowSignature 1700000000000 = .ok payload ∧
      Json.parse payload.toJson.pretty = .ok value ∧
      Json.parse payload.toJson.sorted.compact = .ok value ∧
      value.at? [.key "executorMetadata", .key "name"] = some (.string "Ada") ∧
      value.at? [.key "executor"] = none := by
  obtain ⟨payload, prepared, -, plain, texts, -⟩ := shown_body_is_sent labelledSettings
    isWritable_labelledSettings.ascending isWritable_labelledSettings.whole (by decide)
    1700000000000 normalize_lowSignature
  obtain ⟨value, pretty, compact, shows⟩ := texts _ (plain (by
    simp [labelledSettings, Settings.tags, Json.EmbedsNothing, Json.embeddedKey]))
  exact ⟨payload, value, prepared, pretty, compact, shows.name, shows.executor⟩

/-- Settings with a number under the key of embedded texts. -/
def misembeddingSettings : Settings where
  metadata := { addressTags := [(Json.embeddedKey, .integer 1)] }

/-- The labels of these settings are sorted, flat and whole, but their body has no text that
denotes a value. -/
theorem no_text_of_misembeddingSettings :
    misembeddingSettings.tags.Everywhere Json.HasAscendingKeys ∧
      misembeddingSettings.tags.Everywhere Json.IsWhole ∧
      misembeddingSettings.tags.depth ≤ 124 ∧
      ∃ payload, prepare misembeddingSettings lowSignature 1700000000000 = .ok payload ∧
        ∀ value, Json.parse payload.toJson.pretty ≠ .ok value ∧
          Json.parse payload.toJson.sorted.compact ≠ .ok value := by
  have ascending : misembeddingSettings.tags.Everywhere Json.HasAscendingKeys := by
    simp [misembeddingSettings, Settings.tags, Json.HasAscendingKeys, Json.AscendingKeys]
  have whole : misembeddingSettings.tags.Everywhere Json.IsWhole := by
    simp [misembeddingSettings, Settings.tags, Json.IsWhole, Json.FitsInteger]
  have deep : misembeddingSettings.tags.depth ≤ 124 := by decide
  let payload := (Payload.unsigned misembeddingSettings).withSignature raisedSignature 1700000000000
  -- The labels embed no value, for what stands under the key is no text.
  have pretty : (Json.parse payload.toJson.pretty).toOption = none :=
    Payload.toOption_parse_pretty whole deep
  have compact : (Json.parse payload.toJson.sorted.compact).toOption = none :=
    Payload.toOption_parse_compact whole deep ascending
  refine ⟨ascending, whole, deep, payload, by rw [prepare, normalize_lowSignature], fun value =>
    ⟨fun parsed => ?_, fun parsed => ?_⟩⟩
  · rw [parsed] at pretty
    cases pretty
  · rw [parsed] at compact
    cases compact

end ExecutorRegistration
