import ExecutorRegistration.Json.Embedded
import Mathlib.Tactic.SplitIfs

/-!
# Members of sorted objects

Sorting the keys of an object keeps the value that counts under each key: the last one. Looking a
key up in a sorted object is therefore looking it up from the end of the object as it was built.
-/

namespace ExecutorRegistration.Json

theorem member?_cons (key other : String) (value : Json) (members : List (String × Json)) :
    member? key ((other, value) :: members) =
      if other = key then some value else member? key members := rfl

theorem member?_append (key : String) (left right : List (String × Json)) :
    member? key (left ++ right) = (member? key left).or (member? key right) := by
  induction left with
  | nil => rfl
  | cons member left ih =>
      obtain ⟨other, value⟩ := member
      rw [List.cons_append, member?_cons, member?_cons, ih]
      split_ifs <;> rfl

/-- A member that is set is found, and hides no other one. -/
theorem member?_setMember (key other : String) (value : Json) (members : List (String × Json)) :
    member? key (setMember other value members) =
      if other = key then some value else member? key members := by
  induction members with
  | nil => rfl
  | cons member members ih =>
      obtain ⟨first, firstValue⟩ := member
      unfold setMember
      by_cases same : other = first
      · rw [if_pos same, member?_cons, member?_cons, ← same]
        split_ifs <;> rfl
      rw [if_neg same]
      by_cases below : other < first
      · rw [if_pos below, member?_cons]
      · rw [if_neg below, member?_cons, member?_cons, ih]
        by_cases found : other = key
        · have first_ne : first ≠ key := fun first_eq => same (found.trans first_eq.symm)
          rw [if_neg first_ne, if_pos found, if_pos found]
        · rw [if_neg found, if_neg found]

/-- Among members in any order the last one with a key counts. -/
theorem member?_sortMembers (key : String) (members : List (String × Json)) :
    member? key (sortMembers members) = member? key members.reverse := by
  -- The induction has to speak of members that are sorted already.
  have general : ∀ sorted : List (String × Json),
      member? key (members.foldl (fun sorted member => setMember member.1 member.2 sorted) sorted) =
        (member? key members.reverse).or (member? key sorted) := by
    induction members with
    | nil => intro sorted; rfl
    | cons member members ih =>
        intro sorted
        obtain ⟨other, value⟩ := member
        rw [List.foldl_cons, ih, member?_setMember, List.reverse_cons, member?_append,
          Option.or_assoc, member?_cons]
        split_ifs <;> rfl
  have unsorted := general []
  rw [member?, Option.or_none] at unsorted
  exact unsorted

theorem sortedMembers_eq_map (members : List (String × Json)) :
    sortedMembers members = members.map fun (key, value) => (key, value.sorted) := by
  induction members with
  | nil => rfl
  | cons member members ih => rw [sortedMembers, List.map_cons, ih]

theorem sortedItems_eq_map (items : List Json) : sortedItems items = items.map sorted := by
  induction items with
  | nil => rfl
  | cons item items ih => rw [sortedItems, List.map_cons, ih]

theorem member?_map_sorted (key : String) (members : List (String × Json)) :
    member? key (members.map fun (key, value) => (key, value.sorted)) =
      (member? key members).map sorted := by
  induction members with
  | nil => rfl
  | cons member members ih =>
      obtain ⟨other, value⟩ := member
      rw [List.map_cons, member?_cons, member?_cons, ih]
      split_ifs <;> rfl

/-- The value under a key of a sorted object. -/
theorem field?_sorted_object (key : String) (members : List (String × Json)) :
    (object members).sorted.field? key = (member? key members.reverse).map sorted := by
  rw [sorted, field?, member?_sortMembers, sortedMembers_eq_map, ← List.map_reverse,
    member?_map_sorted]

@[simp]
theorem sorted_ofUInt64 (value : UInt64) : (ofUInt64 value).sorted = ofUInt64 value := rfl

@[simp]
theorem sorted_ofOption (text : Option String) : (ofOption text).sorted = ofOption text := by
  cases text <;> rfl

@[simp]
theorem sorted_ofStrings (texts : List String) : (ofStrings texts).sorted = ofStrings texts := by
  rw [ofStrings, sorted, sortedItems_eq_map, List.map_map]
  rfl

/-! ## Values that embed no others -/

theorem resolveItems?_of_each {items : List Json}
    (each : ∀ item ∈ items, item.resolveEmbedded? = some item) :
    resolveItems? items = some items := by
  induction items with
  | nil => rfl
  | cons item items ih =>
      obtain ⟨first, others⟩ := List.forall_mem_cons.mp each
      rw [resolveItems?, first, ih others]
      rfl

theorem resolveMembers?_of_each {members : List (String × Json)}
    (each : ∀ member ∈ members, member.2.resolveEmbedded? = some member.2) :
    resolveMembers? members = some members := by
  induction members with
  | nil => rfl
  | cons member members ih =>
      obtain ⟨first, others⟩ := List.forall_mem_cons.mp each
      rw [resolveMembers?, first, ih others]
      rfl

@[simp]
theorem resolveEmbedded?_ofOption (text : Option String) :
    (ofOption text).resolveEmbedded? = some (ofOption text) := by
  cases text <;> rfl

@[simp]
theorem resolveEmbedded?_ofStrings (texts : List String) :
    (ofStrings texts).resolveEmbedded? = some (ofStrings texts) := by
  have each : ∀ item ∈ texts.map string, item.resolveEmbedded? = some item := by
    intro item member
    obtain ⟨text, -, rfl⟩ := List.mem_map.mp member
    rfl
  rw [ofStrings, resolveEmbedded?, resolveItems?_of_each each]
  rfl

/-! ## Texts -/

/-- The text that a value is. -/
def toText? : Json → Option String
  | string text => some text
  | _ => none

/-- The texts of which a value is a list. -/
def toTexts? : Json → Option (List String)
  | array items => items.mapM toText?
  | _ => none

theorem toTexts?_ofStrings (texts : List String) : (ofStrings texts).toTexts? = some texts := by
  rw [ofStrings, toTexts?]
  induction texts with
  | nil => rfl
  | cons text texts ih =>
      rw [List.map_cons, List.mapM_cons, ih]
      rfl

/-! ## Values that embed others -/

theorem resolveMembers?_cons_eq_some_iff (key : String) (value : Json)
    (members resolved : List (String × Json)) :
    resolveMembers? ((key, value) :: members) = some resolved ↔
      ∃ first rest, value.resolveEmbedded? = some first ∧ resolveMembers? members = some rest ∧
        resolved = (key, first) :: rest := by
  simp only [resolveMembers?, Option.bind_eq_bind, Option.bind_eq_some_iff, Option.some.injEq,
    exists_and_left, eq_comm (a := resolved)]

/-- The value of a key among resolved members is its value, resolved. -/
theorem member?_resolveMembers? (key : String) {members resolved : List (String × Json)}
    (resolves : resolveMembers? members = some resolved) :
    member? key resolved = (member? key members).bind resolveEmbedded? := by
  induction members generalizing resolved with
  | nil =>
      cases resolves
      rfl
  | cons member members ih =>
      obtain ⟨other, value⟩ := member
      obtain ⟨first, rest, first_eq, rest_eq, rfl⟩ :=
        (resolveMembers?_cons_eq_some_iff _ _ _ _).mp resolves
      rw [member?_cons, member?_cons]
      split_ifs
      · exact first_eq.symm
      · exact ih rest_eq

theorem member?_resolveMembers?_eq_none_iff (key : String) {members resolved : List (String × Json)}
    (resolves : resolveMembers? members = some resolved) :
    member? key resolved = none ↔ member? key members = none := by
  induction members generalizing resolved with
  | nil =>
      cases resolves
      exact Iff.rfl
  | cons member members ih =>
      obtain ⟨other, value⟩ := member
      obtain ⟨first, rest, -, rest_eq, rfl⟩ :=
        (resolveMembers?_cons_eq_some_iff _ _ _ _).mp resolves
      rw [member?_cons, member?_cons]
      split_ifs
      · simp
      · exact ih rest_eq

theorem resolveEmbedded?_object {members resolved : List (String × Json)}
    (embedsNothing : embeddedValue? members = none)
    (resolves : resolveMembers? members = some resolved) :
    (object members).resolveEmbedded? = some (object resolved) := by
  rw [resolveEmbedded?, embedsNothing]
  dsimp only
  rw [resolves]
  rfl

end ExecutorRegistration.Json
