import ExecutorRegistration.Proofs.Json.Sorting

/-!
# Paths into a value

A path leads through keys and indices to a value within another one. What holds everywhere in a
value holds wherever a path leads, and where nulls can stand is said by the paths that lead to
them.
-/

namespace ExecutorRegistration.Json

/-- A step from a value to one within it. -/
inductive Step where
  /-- To the value of a key. -/
  | key (name : String)
  /-- To an item. -/
  | item (index : Nat)
deriving DecidableEq

/-- The value to which a step leads. -/
def child? : Step → Json → Option Json
  | .key name, object members => member? name members
  | .item index, array items => items[index]?
  | _, _ => none

/-- The value to which a path leads. -/
def at? : List Step → Json → Option Json
  | [], value => some value
  | step :: path, value => (value.child? step).bind (at? path)

theorem at?_key (name : String) (path : List Step) (value : Json) :
    value.at? (.key name :: path) = (value.field? name).bind (at? path) := by
  cases value <;> rfl

theorem mem_of_member? {key : String} {members : List (String × Json)} {value : Json}
    (found : member? key members = some value) : (key, value) ∈ members := by
  induction members with
  | nil => cases found
  | cons member members ih =>
      obtain ⟨other, otherValue⟩ := member
      rw [member?_cons] at found
      split_ifs at found with same
      · cases found
        rw [same]
        exact List.mem_cons_self
      · exact List.mem_cons_of_mem _ (ih found)

theorem Everywhere.holds {test : Json → Prop} {value : Json} (everywhere : value.Everywhere test) :
    test value := by
  cases everywhere <;> assumption

/-- What holds everywhere in a value holds wherever a path leads. -/
theorem Everywhere.holds_at {test : Json → Prop} {path : List Step} {value found : Json}
    (everywhere : value.Everywhere test) (leads : value.at? path = some found) : test found := by
  induction path generalizing value with
  | nil =>
      cases leads
      exact everywhere.holds
  | cons step path ih =>
      obtain ⟨child, isChild, leads⟩ := Option.bind_eq_some_iff.mp leads
      refine ih ?_ leads
      cases everywhere with
      | scalar isScalar _ =>
          cases value <;> cases step <;> first | cases isChild | exact isScalar.elim
      | @array items _ within =>
          cases step with
          | key name => cases isChild
          | item index => exact within child (List.mem_of_getElem? isChild)
      | @object members _ within =>
          cases step with
          | key name => exact within _ (mem_of_member? isChild)
          | item index => cases isChild

/-- If only one member of an object can hold a null, paths to nulls lead through its key. -/
theorem prefix_of_null {members : List (String × Json)} {name : String} (inner : Json)
    {below path : List Step}
    (others : ∀ member ∈ members, member.2.Everywhere (· ≠ null) ∨ member = (name, inner))
    (within : ∀ path, inner.sorted.at? path = some null → below <+: path)
    (found : (object members).sorted.at? path = some null) : .key name :: below <+: path := by
  cases path with
  | nil => cases found
  | cons step path =>
      obtain ⟨child, isChild, leads⟩ := Option.bind_eq_some_iff.mp found
      cases step with
      | item index => cases isChild
      | key other =>
          change (object members).sorted.field? other = some child at isChild
          rw [field?_sorted_object] at isChild
          obtain ⟨value, isMember, rfl⟩ := Option.map_eq_some_iff.mp isChild
          rcases others _ (List.mem_reverse.mp (mem_of_member? isMember)) with noNull | same
          · have sorted := everywhere_sorted (fun _ => by simp) (fun _ => by simp) noNull
            exact absurd rfl (sorted.holds_at leads)
          · cases same
            exact List.cons_prefix_cons.mpr ⟨rfl, within path leads⟩

end ExecutorRegistration.Json
