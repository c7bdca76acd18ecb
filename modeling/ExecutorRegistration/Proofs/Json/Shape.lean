import ExecutorRegistration.Json.Embedded
import ExecutorRegistration.Proofs.Json.Limits
import ExecutorRegistration.Proofs.Json.Members
import Mathlib.Data.List.Pairwise
import Mathlib.Data.String.Basic

/-!
# The shape of values that are read

The objects of a value that is read have ascending keys, and a value with ascending keys is
sorted. A value without objects that start with the key of embedded texts embeds nothing. A value
that is read has no more brackets open at a time than its characters, which are bounded, except
where a text is embedded: its brackets are counted by themselves.
-/

namespace ExecutorRegistration.Json

/-- A test holds of a value and of all values within it. -/
inductive Everywhere (test : Json → Prop) : Json → Prop where
  | scalar {value : Json} (isScalar : value.IsScalar) (holds : test value) : Everywhere test value
  | array {items : List Json} (holds : test (.array items))
      (within : ∀ item ∈ items, Everywhere test item) : Everywhere test (.array items)
  | object {members : List (String × Json)} (holds : test (.object members))
      (within : ∀ member ∈ members, Everywhere test member.2) : Everywhere test (.object members)

variable {test : Json → Prop}

theorem everywhere_of_isScalar {value : Json} (isScalar : value.IsScalar) :
    value.Everywhere test ↔ test value := by
  refine ⟨fun everywhere => ?_, .scalar isScalar⟩
  cases everywhere with
  | scalar _ holds => exact holds
  | array => exact isScalar.elim
  | object => exact isScalar.elim

@[simp]
theorem everywhere_scalar : (null.Everywhere test ↔ test null) ∧
    (∀ truth, (bool truth).Everywhere test ↔ test (bool truth)) ∧
    (∀ number, (integer number).Everywhere test ↔ test (integer number)) ∧
    (∀ number, (real number).Everywhere test ↔ test (real number)) ∧
    ∀ text, (string text).Everywhere test ↔ test (string text) :=
  ⟨everywhere_of_isScalar trivial, fun _ => everywhere_of_isScalar trivial,
    fun _ => everywhere_of_isScalar trivial, fun _ => everywhere_of_isScalar trivial,
    fun _ => everywhere_of_isScalar trivial⟩

@[simp]
theorem everywhere_array (items : List Json) :
    (array items).Everywhere test ↔
      test (array items) ∧ ∀ item ∈ items, item.Everywhere test := by
  refine ⟨fun everywhere => ?_, fun ⟨holds, within⟩ => .array holds within⟩
  cases everywhere with
  | scalar isScalar => exact isScalar.elim
  | array holds within => exact ⟨holds, within⟩

@[simp]
theorem everywhere_object (members : List (String × Json)) :
    (object members).Everywhere test ↔
      test (object members) ∧ ∀ member ∈ members, member.2.Everywhere test := by
  refine ⟨fun everywhere => ?_, fun ⟨holds, within⟩ => .object holds within⟩
  cases everywhere with
  | scalar isScalar => exact isScalar.elim
  | object holds within => exact ⟨holds, within⟩

theorem Everywhere.mono {stronger : Json → Prop} (implies : ∀ value, stronger value → test value)
    {value : Json} (everywhere : value.Everywhere stronger) : value.Everywhere test := by
  induction everywhere with
  | scalar isScalar holds => exact .scalar isScalar (implies _ holds)
  | array holds _ ih => exact .array (implies _ holds) ih
  | object holds _ ih => exact .object (implies _ holds) ih

/-- The keys of members are ascending, so that each of them is there once. -/
def AscendingKeys (members : List (String × Json)) : Prop :=
  members.Pairwise fun left right => left.1 < right.1

/-- An object has ascending keys. -/
def HasAscendingKeys : Json → Prop
  | object members => AscendingKeys members
  | _ => True

theorem setMember_of_ascending {key : String} (value : Json) {members : List (String × Json)}
    (below : ∀ member ∈ members, member.1 < key) :
    setMember key value members = members ++ [(key, value)] := by
  induction members with
  | nil => rfl
  | cons member members ih =>
      obtain ⟨first, rest⟩ := List.forall_mem_cons.mp below
      rw [setMember, if_neg first.ne', if_neg first.asymm, ih rest]
      rfl

theorem mem_setMember {key : String} {value : Json} {members : List (String × Json)}
    {member : String × Json} (isMember : member ∈ setMember key value members) :
    member = (key, value) ∨ member ∈ members := by
  induction members with
  | nil => exact .inl (List.mem_singleton.mp isMember)
  | cons other members ih =>
      unfold setMember at isMember
      split_ifs at isMember
      · exact (List.mem_cons.mp isMember).imp_right (List.mem_cons_of_mem _)
      · exact List.mem_cons.mp isMember
      · rcases List.mem_cons.mp isMember with rfl | later
        · exact .inr List.mem_cons_self
        · exact (ih later).imp_right (List.mem_cons_of_mem _)

theorem ascendingKeys_setMember (key : String) (value : Json) {members : List (String × Json)}
    (ascending : AscendingKeys members) : AscendingKeys (setMember key value members) := by
  induction members with
  | nil => exact List.pairwise_singleton _ _
  | cons other members ih =>
      obtain ⟨otherBelow, rest⟩ := List.pairwise_cons.mp ascending
      unfold setMember
      split_ifs with same below
      · subst same
        exact List.pairwise_cons.mpr ⟨otherBelow, rest⟩
      · refine List.pairwise_cons.mpr ⟨fun member isMember => ?_, ascending⟩
        rcases List.mem_cons.mp isMember with rfl | later
        · exact below
        · exact below.trans (otherBelow member later)
      · refine List.pairwise_cons.mpr ⟨fun member isMember => ?_, ih rest⟩
        rcases mem_setMember isMember with rfl | later
        · exact (lt_or_gt_of_ne same).resolve_left below
        · exact otherBelow member later

theorem sortMembers_append_singleton (members : List (String × Json)) (last : String × Json) :
    sortMembers (members ++ [last]) = setMember last.1 last.2 (sortMembers members) := by
  rw [sortMembers, List.foldl_append]
  rfl

theorem ascendingKeys_sortMembers (members : List (String × Json)) :
    AscendingKeys (sortMembers members) := by
  induction members using List.reverseRecOn with
  | nil => exact List.Pairwise.nil
  | append_singleton members last ih =>
      rw [sortMembers_append_singleton]
      exact ascendingKeys_setMember last.1 last.2 ih

theorem mem_of_mem_sortMembers {members : List (String × Json)} {member : String × Json}
    (isMember : member ∈ sortMembers members) : member ∈ members := by
  induction members using List.reverseRecOn with
  | nil => exact isMember
  | append_singleton members last ih =>
      rw [sortMembers_append_singleton] at isMember
      rw [List.mem_append, List.mem_singleton, or_comm]
      exact (mem_setMember isMember).imp_right ih

theorem exists_mem_setMember (key : String) (value : Json) (members : List (String × Json)) :
    (∃ member ∈ setMember key value members, member.1 = key) ∧
      ∀ other ∈ members, ∃ member ∈ setMember key value members, member.1 = other.1 := by
  induction members with
  | nil => exact ⟨⟨_, List.mem_singleton_self _, rfl⟩, nofun⟩
  | cons first members ih =>
      obtain ⟨⟨new, isNew, newKey⟩, others⟩ := ih
      rw [List.forall_mem_cons]
      unfold setMember
      split_ifs with same below
      · exact ⟨⟨_, List.mem_cons_self, rfl⟩, ⟨_, List.mem_cons_self, same⟩,
          fun other isOther => ⟨other, List.mem_cons_of_mem _ isOther, rfl⟩⟩
      · exact ⟨⟨_, List.mem_cons_self, rfl⟩, ⟨first, by simp, rfl⟩,
          fun other isOther => ⟨other, by simp [isOther], rfl⟩⟩
      · refine ⟨⟨new, List.mem_cons_of_mem _ isNew, newKey⟩, ⟨first, List.mem_cons_self, rfl⟩,
          fun other isOther => ?_⟩
        obtain ⟨member, isMember, sameKey⟩ := others other isOther
        exact ⟨member, List.mem_cons_of_mem _ isMember, sameKey⟩

/-- Sorting keeps all keys. -/
theorem exists_mem_sortMembers {members : List (String × Json)} {given : String × Json}
    (isGiven : given ∈ members) : ∃ member ∈ sortMembers members, member.1 = given.1 := by
  induction members using List.reverseRecOn with
  | nil => nomatch isGiven
  | append_singleton members last ih =>
      obtain ⟨new, others⟩ := exists_mem_setMember last.1 last.2 (sortMembers members)
      rw [sortMembers_append_singleton]
      rcases List.mem_append.mp isGiven with earlier | isLast
      · obtain ⟨other, isOther, sameKey⟩ := ih earlier
        rw [← sameKey]
        exact others other isOther
      · rw [List.mem_singleton.mp isLast]
        exact new

/-- Members whose keys are ascending are sorted. -/
theorem sortMembers_of_ascending {members : List (String × Json)}
    (ascending : AscendingKeys members) : sortMembers members = members := by
  induction members using List.reverseRecOn with
  | nil => rfl
  | append_singleton members last ih =>
      obtain ⟨earlier, -, below⟩ := List.pairwise_append.mp ascending
      rw [sortMembers_append_singleton, ih earlier]
      exact setMember_of_ascending last.2 fun member isMember =>
        below member isMember last List.mem_cons_self

/-- A value all of whose objects have ascending keys is sorted. -/
theorem sorted_of_ascending {value : Json} (ascending : value.Everywhere HasAscendingKeys) :
    value.sorted = value := by
  induction ascending with
  | @scalar value isScalar _ => cases value <;> first | rfl | exact isScalar.elim
  | array _ _ ih => rw [sorted, sortedItems_eq_map, List.map_congr_left ih, List.map_id']
  | @object members holds within ih =>
      have same : ∀ member ∈ members, (member.1, member.2.sorted) = member :=
        fun member isMember => Prod.ext rfl (ih member isMember)
      have sortedMembers_eq : sortedMembers members = members :=
        (sortedMembers_eq_map members).trans ((List.map_congr_left same).trans (List.map_id' _))
      rw [sorted, sortedMembers_eq, sortMembers_of_ascending holds]

/-- An object does not start with the key of embedded texts. -/
def EmbedsNothing : Json → Prop
  | object ((key, _) :: _) => key ≠ embeddedKey
  | _ => True

theorem embeddedValue?_eq_none_iff (members : List (String × Json)) :
    embeddedValue? members = none ↔ (object members).EmbedsNothing := by
  obtain _ | ⟨⟨key, value⟩, members⟩ := members
  · exact iff_of_true rfl trivial
  · refine ⟨fun plain isKey => ?_, fun holds => if_neg holds⟩
    cases value <;> cases members <;> simp [embeddedValue?, isKey] at plain

/-- A value none of whose objects embeds another value has nothing to put in place. -/
theorem resolveEmbedded?_of_plain {value : Json} (plain : value.Everywhere EmbedsNothing) :
    value.resolveEmbedded? = some value := by
  induction plain with
  | @scalar value isScalar _ => cases value <;> first | rfl | exact isScalar.elim
  | array _ _ ih =>
      rw [resolveEmbedded?, resolveItems?_of_each ih]
      rfl
  | @object members holds _ ih =>
      exact resolveEmbedded?_object ((embeddedValue?_eq_none_iff members).mpr holds)
        (resolveMembers?_of_each ih)

/-- An object is not a value alone under the key of embedded texts. -/
def NoLoneEmbedding : Json → Prop
  | object [(key, _)] => key ≠ embeddedKey
  | _ => True

/-- An object that does not embed a value by itself embeds none, or cannot be read. -/
theorem embeddedValue?_of_noLoneEmbedding {members : List (String × Json)}
    (alone : (object members).NoLoneEmbedding) :
    embeddedValue? members = none ∨ embeddedValue? members = some none := by
  obtain _ | ⟨⟨key, value⟩, _ | ⟨second, others⟩⟩ := members
  · exact .inl rfl
  · exact .inl (if_neg alone)
  · by_cases isKey : key = embeddedKey
    · exact .inr (by cases value <;> exact if_pos isKey)
    · exact .inl (if_neg isKey)

theorem exists_of_resolveItems? {items resolved : List Json}
    (resolves : resolveItems? items = some resolved) :
    ∀ item ∈ items, ∃ value, item.resolveEmbedded? = some value := by
  induction items generalizing resolved with
  | nil => nofun
  | cons item items ih =>
      simp only [resolveItems?, Option.bind_eq_bind, Option.bind_eq_some_iff] at resolves
      obtain ⟨first, resolvesFirst, others, resolvesOthers, -⟩ := resolves
      exact List.forall_mem_cons.mpr ⟨⟨first, resolvesFirst⟩, ih resolvesOthers⟩

theorem exists_of_resolveMembers? {members resolved : List (String × Json)}
    (resolves : resolveMembers? members = some resolved) :
    ∀ member ∈ members, ∃ value, member.2.resolveEmbedded? = some value := by
  induction members generalizing resolved with
  | nil => nofun
  | cons member members ih =>
      obtain ⟨first, others, resolvesFirst, resolvesOthers, -⟩ :=
        (resolveMembers?_cons_eq_some_iff _ _ _ _).mp resolves
      exact List.forall_mem_cons.mpr ⟨⟨first, resolvesFirst⟩, ih resolvesOthers⟩

/-- A value of which no object embeds another value by itself is resolved only if none of its
objects starts with the key of embedded texts. -/
theorem plain_of_resolveEmbedded? {value : Json} (none_alone : value.Everywhere NoLoneEmbedding)
    {resolved : Json} (resolves : value.resolveEmbedded? = some resolved) :
    value.Everywhere EmbedsNothing := by
  induction none_alone generalizing resolved with
  | @scalar value isScalar _ =>
      cases value <;> first | exact .scalar trivial trivial | exact isScalar.elim
  | array _ _ ih =>
      rw [resolveEmbedded?, Option.map_eq_some_iff] at resolves
      obtain ⟨items, resolvesItems, -⟩ := resolves
      refine .array trivial fun item member => ?_
      obtain ⟨value, resolvesItem⟩ := exists_of_resolveItems? resolvesItems item member
      exact ih item member resolvesItem
  | @object members alone _ ih =>
      rw [resolveEmbedded?] at resolves
      rcases embeddedValue?_of_noLoneEmbedding alone with plain | refused
      · rw [plain] at resolves
        obtain ⟨others, resolvesMembers, -⟩ := Option.map_eq_some_iff.mp resolves
        refine .object ((embeddedValue?_eq_none_iff members).mp plain) fun member isMember => ?_
        obtain ⟨value, resolvesValue⟩ := exists_of_resolveMembers? resolvesMembers member isMember
        exact ih member isMember resolvesValue
      · rw [refused] at resolves
        cases resolves

/-! ## Values that are read -/

/-- The objects of a value that is read have ascending keys. -/
theorem ascending_of_readValueWith {depth : Nat} {chars rest : List Char} {value : Json}
    (read : readValueWith parse depth chars = .ok (value, rest)) :
    value.Everywhere HasAscendingKeys := by
  refine @holds_of_readValueWith (fun value => value.Everywhere HasAscendingKeys)
    (fun value isScalar => .scalar isScalar ?_) (fun items within => .array trivial within)
    (fun members _ within => ?_) depth chars rest value read
  · cases value with
    | object members => exact isScalar.elim
    | _ => trivial
  · exact .object (ascendingKeys_sortMembers members) fun member isMember =>
      within member (mem_of_mem_sortMembers isMember)

/-- The objects of a value that a text denotes have ascending keys. -/
theorem ascending_of_parse {text : String} {value : Json} (parsed : parse text = .ok value) :
    value.Everywhere HasAscendingKeys := by
  rw [parse_eq] at parsed
  obtain ⟨rest, read⟩ := exists_of_readAll parsed
  exact ascending_of_readValueWith read

/-- No object of a value that a text denotes embeds a value by itself. -/
theorem noLoneEmbedding_of_parse {text : String} {value : Json} (parsed : parse text = .ok value) :
    value.Everywhere NoLoneEmbedding := by
  refine @holds_of_parse (fun value => value.Everywhere NoLoneEmbedding)
    (fun value isScalar => .scalar isScalar ?_) (fun items within => .array trivial within)
    (fun members first within => ?_) text value parsed
  · cases value with
    | object members => exact isScalar.elim
    | _ => trivial
  · refine .object ?_ fun member isMember => within member (mem_of_mem_sortMembers isMember)
    -- The key that came first is another one, and sorting keeps it.
    cases members with
    | nil => trivial
    | cons given members =>
        have isGiven : given ∈ given :: members := List.mem_cons_self
        obtain ⟨kept, isKept, sameKey⟩ := exists_mem_sortMembers isGiven
        generalize sortMembers (given :: members) = sorted at isKept ⊢
        obtain _ | ⟨⟨key, value⟩, _ | ⟨second, others⟩⟩ := sorted
        · trivial
        · intro isKey
          rw [List.mem_singleton.mp isKept] at sameKey
          exact first (congrArg some (sameKey.symm.trans isKey))
        · trivial

/-! ## Depth -/

theorem depthOfItems_le_iff (items : List Json) (bound : Nat) :
    depthOfItems items ≤ bound ↔ ∀ item ∈ items, item.depth ≤ bound := by
  induction items with
  | nil => simp [depthOfItems]
  | cons item items ih => rw [depthOfItems, max_le_iff, ih, List.forall_mem_cons]

theorem depthOfMembers_le_iff (members : List (String × Json)) (bound : Nat) :
    depthOfMembers members ≤ bound ↔ ∀ member ∈ members, member.2.depth ≤ bound := by
  induction members with
  | nil => simp [depthOfMembers]
  | cons member members ih => rw [depthOfMembers, max_le_iff, ih, List.forall_mem_cons]

theorem depth_array_le_iff (items : List Json) (bound : Nat) :
    (array items).depth ≤ bound + 1 ↔ ∀ item ∈ items, item.depth ≤ bound := by
  rw [depth, Nat.add_le_add_iff_right, depthOfItems_le_iff]

theorem depth_object_le_iff (members : List (String × Json)) (bound : Nat) :
    (object members).depth ≤ bound + 1 ↔ ∀ member ∈ members, member.2.depth ≤ bound := by
  rw [depth, Nat.add_le_add_iff_right, depthOfMembers_le_iff]

/-- Somewhere in the characters an object starts with the key of embedded texts. -/
def EmbedsValue (chars : List Char) : Prop :=
  ∃ behind after, '{' :: behind <:+ chars ∧ behindEmbeddedKey? behind = some after

/-- Where no text is read no more brackets stand open than may. -/
theorem depth_le_of_readValueWith {parseText : String → Except ReadError Json}
    (refuses : ∀ text value, parseText text ≠ .ok value) {depth : Nat} {chars rest : List Char}
    {value : Json} (read : readValueWith parseText depth chars = .ok (value, rest)) :
    value.depth ≤ depth := by
  refine @readValueWith_induction (fun depth value => value.depth ≤ depth) parseText
    (fun depth chars value rest readScalar => ?_) (fun depth items within => ?_)
    (fun depth members _ within => ?_) (fun _ text value read => absurd read (refuses text value))
    depth chars rest value read
  · have isScalar := (takesScalar_readScalar chars value rest readScalar).1
    cases value with
    | array items => exact isScalar.elim
    | object members => exact isScalar.elim
    | _ => exact Nat.zero_le depth
  · exact (depth_array_le_iff items depth).mpr within
  · refine (depth_object_le_iff _ depth).mpr fun member isMember => ?_
    exact within member (mem_of_mem_sortMembers isMember)

/-- A reader of embedded texts that refuses all of them. -/
def refuseText : String → Except ReadError Json := fun _ => .error ⟨.endInValue, ⟨0, 0⟩⟩

/-- Where no value is embedded any reader of embedded texts may be taken. -/
theorem readValueWith_eq_of_plain {whole chars : List Char} (plain : ¬ EmbedsValue whole)
    (inside : chars <:+ whole) (depth : Nat) :
    readValueWith parse depth chars = readValueWith refuseText depth chars :=
  readValueWith_congr
    (fun behind after atBracket isKey => (plain ⟨behind, after, atBracket, isKey⟩).elim) depth
    inside

/-- Without embedded texts the value of a text is no deeper than brackets may stand open. -/
theorem depth_le_of_parse {text : String} {value : Json} (plain : ¬ EmbedsValue text.toList)
    (parsed : parse text = .ok value) : value.depth ≤ maxDepth := by
  rw [parse_eq] at parsed
  obtain ⟨rest, read⟩ := exists_of_readAll parsed
  rw [readValueWith_eq_of_plain plain (List.suffix_refl _)] at read
  exact depth_le_of_readValueWith (fun _ _ found => by cases found) read

/-! ## Objects -/

/-- The members of an object are read in ascending order. -/
theorem ascending_of_readObject {chars rest : List Char} {members : List (String × Json)}
    (read : readObject chars = .ok (members, rest)) :
    (object members).Everywhere HasAscendingKeys := by
  obtain ⟨inside, written, -, readInside, rfl⟩ := exists_of_readObject read
  refine .object (ascendingKeys_sortMembers written) fun member isMember => ?_
  obtain ⟨given, behind, readValue⟩ :=
    exists_of_mem_readMembers readInside (mem_of_mem_sortMembers isMember)
  exact ascending_of_readValueWith readValue

/-- Without embedded texts an object is no deeper than brackets may stand open. -/
theorem depth_le_of_readObject {chars rest : List Char} {members : List (String × Json)}
    (read : readObject chars = .ok (members, rest)) :
    ∃ inside, skipBlanks chars = '{' :: inside ∧
      (¬ EmbedsValue inside → (object members).depth ≤ maxDepth) := by
  obtain ⟨inside, written, opened, readInside, rfl⟩ := exists_of_readObject read
  refine ⟨inside, opened, fun plain => ?_⟩
  rw [readMembers_congr (leaves_readValueWith _ _)
    (fun chars suffix => readValueWith_eq_of_plain plain suffix _) (List.suffix_refl inside)]
    at readInside
  refine (depth_object_le_iff _ (maxDepth - 1)).mpr fun member isMember => ?_
  obtain ⟨given, behind, readValue⟩ :=
    exists_of_mem_readMembers readInside (mem_of_mem_sortMembers isMember)
  exact depth_le_of_readValueWith (fun _ _ found => by cases found) readValue

end ExecutorRegistration.Json
