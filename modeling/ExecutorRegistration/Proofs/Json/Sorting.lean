import ExecutorRegistration.Json.Printer
import ExecutorRegistration.Proofs.Json.Layout

/-!
# Texts of sorted values

The pretty text of a value and the compact text of the same value with sorted keys denote the same,
if no sorting makes a key come first that tells an embedded value: each object has its keys in
ascending order already, or has them once each and none is the key of embedded texts.
-/

namespace ExecutorRegistration.Json

/-! ## What sorting leaves as it is -/

/-- A test that all arrays and objects pass holds everywhere in a sorted value if it does in the
value. -/
theorem everywhere_sorted {test : Json → Prop} (arrays : ∀ items, test (array items))
    (objects : ∀ members, test (object members)) {value : Json}
    (everywhere : value.Everywhere test) : value.sorted.Everywhere test := by
  induction everywhere with
  | @scalar value isScalar holds =>
      cases value <;> first | exact .scalar trivial holds | exact isScalar.elim
  | array _ _ ih =>
      rw [sorted, sortedItems_eq_map]
      refine .array (arrays _) fun item member => ?_
      obtain ⟨given, isGiven, rfl⟩ := List.mem_map.mp member
      exact ih given isGiven
  | object _ _ ih =>
      rw [sorted, sortedMembers_eq_map]
      refine .object (objects _) fun member isMember => ?_
      obtain ⟨given, isGiven, rfl⟩ := List.mem_map.mp (mem_of_mem_sortMembers isMember)
      exact ih given isGiven

/-- A sorted value is no deeper than the value. -/
theorem depth_sorted_le {test : Json → Prop} {value : Json} (everywhere : value.Everywhere test) :
    value.sorted.depth ≤ value.depth := by
  induction everywhere with
  | @scalar value isScalar _ => cases value <;> first | exact le_rfl | exact isScalar.elim
  | @array items _ _ ih =>
      have bound := (depth_array_le_iff items _).mp le_rfl
      rw [sorted, sortedItems_eq_map]
      refine (depth_array_le_iff _ (depthOfItems items)).mpr fun item member => ?_
      obtain ⟨given, isGiven, rfl⟩ := List.mem_map.mp member
      exact (ih given isGiven).trans (bound given isGiven)
  | @object members _ _ ih =>
      have bound := (depth_object_le_iff members _).mp le_rfl
      rw [sorted, sortedMembers_eq_map]
      refine (depth_object_le_iff _ (depthOfMembers members)).mpr fun member isMember => ?_
      obtain ⟨given, isGiven, rfl⟩ := List.mem_map.mp (mem_of_mem_sortMembers isMember)
      exact (ih given isGiven).trans (bound given isGiven)

/-! ## Keys -/

/-- The keys of members. -/
def keys (members : List (String × Json)) : List String := members.map Prod.fst

@[simp]
theorem keys_sortedMembers (members : List (String × Json)) :
    keys (sortedMembers members) = keys members := by
  rw [keys, keys, sortedMembers_eq_map, List.map_map]
  rfl

theorem mem_keys_of_mem_sortMembers {members : List (String × Json)} {key : String}
    (isKey : key ∈ keys (sortMembers members)) : key ∈ keys members := by
  obtain ⟨member, isMember, rfl⟩ := List.mem_map.mp isKey
  exact List.mem_map_of_mem (mem_of_mem_sortMembers isMember)

theorem ascendingKeys_iff (members : List (String × Json)) :
    AscendingKeys members ↔ (keys members).Pairwise (· < ·) :=
  List.pairwise_map.symm

theorem AscendingKeys.nodup {members : List (String × Json)} (ascending : AscendingKeys members) :
    (keys members).Nodup :=
  ((ascendingKeys_iff members).mp ascending).imp ne_of_lt

theorem embeddedValue?_eq_none {members : List (String × Json)}
    (plain : embeddedKey ∉ keys members) : embeddedValue? members = none := by
  cases members with
  | nil => rfl
  | cons member members =>
      refine if_neg fun isEmbedded => plain ?_
      rw [← isEmbedded]
      exact List.mem_cons_self

/-! ## Sorting and resolving -/

theorem resolveMembers?_append_singleton (members : List (String × Json)) (key : String)
    (value : Json) :
    resolveMembers? (members ++ [(key, value)]) =
      (resolveMembers? members).bind fun resolved =>
        value.resolveEmbedded?.map fun value => resolved ++ [(key, value)] := by
  induction members with
  | nil =>
      simp only [List.nil_append, resolveMembers?]
      cases value.resolveEmbedded? <;> rfl
  | cons member members ih =>
      rw [List.cons_append, resolveMembers?, resolveMembers?, ih]
      cases member.2.resolveEmbedded? with
      | none => rfl
      | some first =>
          cases resolveMembers? members with
          | none => rfl
          | some others => cases value.resolveEmbedded? <;> rfl

/-- A new member is resolved apart from those among which it is set. -/
theorem resolveMembers?_setMember {key : String} (value : Json) {members : List (String × Json)}
    (isNew : key ∉ keys members) :
    resolveMembers? (setMember key value members) =
      (resolveMembers? members).bind fun resolved =>
        value.resolveEmbedded?.map fun value => setMember key value resolved := by
  induction members with
  | nil =>
      simp only [setMember, resolveMembers?]
      cases value.resolveEmbedded? <;> rfl
  | cons member members ih =>
      obtain ⟨other, otherValue⟩ := member
      obtain ⟨differs, isNew⟩ := not_or.mp (mt List.mem_cons.mpr isNew)
      rw [setMember, if_neg differs]
      by_cases below : key < other
      · rw [if_pos below, resolveMembers?, resolveMembers?]
        cases value.resolveEmbedded? with
        | none =>
            cases otherValue.resolveEmbedded? with
            | none => rfl
            | some first => cases resolveMembers? members <;> rfl
        | some value =>
            cases otherValue.resolveEmbedded? with
            | none => rfl
            | some first =>
                cases resolveMembers? members with
                | none => rfl
                | some others => simp [setMember, differs, below]
      · rw [if_neg below, resolveMembers?, resolveMembers?, ih isNew]
        cases otherValue.resolveEmbedded? with
        | none => rfl
        | some first =>
            cases resolveMembers? members with
            | none => rfl
            | some others =>
                cases value.resolveEmbedded? with
                | none => rfl
                | some value => simp [setMember, differs, below]

/-- Members with different keys may be sorted before or after they are resolved. -/
theorem resolveMembers?_sortMembers {members : List (String × Json)}
    (distinct : (keys members).Nodup) :
    resolveMembers? (sortMembers members) = (resolveMembers? members).map sortMembers := by
  induction members using List.reverseRecOn with
  | nil => rfl
  | append_singleton members last ih =>
      obtain ⟨key, value⟩ := last
      rw [keys, List.map_append, List.nodup_append] at distinct
      obtain ⟨earlier, -, apart⟩ := distinct
      have isNew : key ∉ keys (sortMembers members) := fun isKey =>
        apart key (mem_keys_of_mem_sortMembers isKey) key (List.mem_singleton.mpr rfl) rfl
      rw [sortMembers_append_singleton, resolveMembers?_setMember value isNew, ih earlier,
        resolveMembers?_append_singleton]
      cases resolveMembers? members with
      | none => rfl
      | some resolved =>
          cases value.resolveEmbedded? with
          | none => rfl
          | some value =>
              exact congrArg some (sortMembers_append_singleton resolved (key, value)).symm

theorem resolveItems?_sortedItems {items : List Json}
    (each : ∀ item ∈ items, item.sorted.resolveEmbedded? = item.resolveEmbedded?.map sorted) :
    resolveItems? (sortedItems items) = (resolveItems? items).map sortedItems := by
  induction items with
  | nil => rfl
  | cons item items ih =>
      obtain ⟨first, others⟩ := List.forall_mem_cons.mp each
      rw [sortedItems, resolveItems?, resolveItems?, first, ih others]
      cases item.resolveEmbedded? with
      | none => rfl
      | some resolved => cases resolveItems? items <;> rfl

theorem resolveMembers?_sortedMembers {members : List (String × Json)}
    (each : ∀ member ∈ members,
      member.2.sorted.resolveEmbedded? = member.2.resolveEmbedded?.map sorted) :
    resolveMembers? (sortedMembers members) = (resolveMembers? members).map sortedMembers := by
  induction members with
  | nil => rfl
  | cons member members ih =>
      obtain ⟨first, others⟩ := List.forall_mem_cons.mp each
      rw [sortedMembers, resolveMembers?, resolveMembers?, first, ih others]
      cases member.2.resolveEmbedded? with
      | none => rfl
      | some resolved => cases resolveMembers? members <;> rfl

/-- What an object embeds is not changed by sorting the values of its members. -/
theorem embeddedValue?_sortedMembers (members : List (String × Json)) :
    embeddedValue? (sortedMembers members) =
      (embeddedValue? members).map (·.map sorted) := by
  obtain _ | ⟨⟨key, value⟩, members⟩ := members
  · rfl
  by_cases embeds : key = embeddedKey
  · subst embeds
    simp only [sortedMembers, embeddedValue?, if_true]
    cases value with
    | string text =>
        cases members with
        | nil =>
            change some (parse text).toOption = some ((parse text).toOption.map sorted)
            cases parsed : parse text with
            | error error => rfl
            | ok value =>
                have same : value.sorted = value := sorted_of_ascending (ascending_of_parse parsed)
                exact congrArg (fun value => some (some value)) same.symm
        | cons member members => rfl
    | _ => rfl
  · simp [sortedMembers, embeddedValue?, embeds]

/-- An object is resolved by its last member if all others embed nothing. -/
theorem resolveEmbedded?_object_append {front : List (String × Json)} {key : String} (value : Json)
    (plain : ∀ member ∈ front, member.2.Everywhere EmbedsNothing)
    (keys_ne : embeddedKey ∉ keys (front ++ [(key, value)])) :
    (object (front ++ [(key, value)])).resolveEmbedded? =
      value.resolveEmbedded?.map fun value => object (front ++ [(key, value)]) := by
  have resolves := resolveMembers?_of_each fun member isMember =>
    resolveEmbedded?_of_plain (plain member isMember)
  rw [resolveEmbedded?, embeddedValue?_eq_none keys_ne]
  dsimp only
  rw [resolveMembers?_append_singleton, resolves]
  cases value.resolveEmbedded? <;> rfl

/-- The keys of an object are sorted already, or each is there once and none is that of embedded
texts. -/
def HasSettledKeys : Json → Prop
  | object members =>
    AscendingKeys members ∨ (keys members).Nodup ∧ embeddedKey ∉ keys members
  | _ => True

/-- Values may be put in the place of their texts before or after a value is sorted. -/
theorem resolveEmbedded?_sorted {value : Json} (settled : value.Everywhere HasSettledKeys) :
    value.sorted.resolveEmbedded? = value.resolveEmbedded?.map sorted := by
  induction settled with
  | @scalar value isScalar _ => cases value <;> first | rfl | exact isScalar.elim
  | @array items _ _ ih =>
      rw [sorted, resolveEmbedded?, resolveEmbedded?, resolveItems?_sortedItems ih]
      cases resolveItems? items <;> rfl
  | @object members holds _ ih =>
      have distinct : (keys (sortedMembers members)).Nodup := by
        rw [keys_sortedMembers]
        exact holds.elim AscendingKeys.nodup And.left
      have embeds : embeddedValue? (sortMembers (sortedMembers members)) =
          (embeddedValue? members).map (·.map sorted) := by
        rcases holds with ascending | ⟨-, plain⟩
        · have sorted : AscendingKeys (sortedMembers members) := by
            rw [ascendingKeys_iff, keys_sortedMembers]
            exact (ascendingKeys_iff members).mp ascending
          rw [sortMembers_of_ascending sorted, embeddedValue?_sortedMembers]
        · have plainSorted : embeddedKey ∉ keys (sortMembers (sortedMembers members)) := by
            intro isKey
            have isKey := mem_keys_of_mem_sortMembers isKey
            rw [keys_sortedMembers] at isKey
            exact plain isKey
          rw [embeddedValue?_eq_none plainSorted, embeddedValue?_eq_none plain]
          rfl
      rw [sorted, resolveEmbedded?, resolveEmbedded?, embeds, resolveMembers?_sortMembers distinct,
        resolveMembers?_sortedMembers ih]
      cases embeddedValue? members with
      | some value => rfl
      | none => cases resolveMembers? members <;> rfl

/-! ## Texts -/

/-- The compact text of a value with sorted keys denotes the same as its pretty text. -/
theorem toOption_parse_compact_sorted {value : Json} (settled : value.Everywhere HasSettledKeys)
    (whole : value.Everywhere IsWhole) (deep : value.depth ≤ maxDepth) :
    (parse value.sorted.compact).toOption = (parse value.pretty).toOption := by
  have pretty := toOption_parse_pretty whole deep
  have compact := toOption_parse_compact
    (everywhere_sorted (fun _ => trivial) (fun _ => trivial) whole)
    ((depth_sorted_le whole).trans deep)
  rw [resolveEmbedded?_sorted settled] at compact
  cases resolved : value.resolveEmbedded? with
  | none =>
      rw [resolved] at pretty compact
      rw [pretty, compact]
      rfl
  | some found =>
      rw [resolved, Option.map_some] at pretty compact
      -- What is read from the pretty text is sorted, so that sorting it once more does nothing.
      have ascending := ascending_of_parse ((toOption_eq_some_iff _ _).mp pretty)
      rw [pretty, compact, Option.map_some, sorted_of_ascending ascending]

end ExecutorRegistration.Json
