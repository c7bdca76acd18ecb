import ExecutorRegistration.Proofs.TypedData.TypeNames
import ExecutorRegistration.TypedData.Schema

/-!
# Texts of types

Nothing is escaped in the text of a type, and still a schema can be read from it: the primary type
ends at the first parenthesis, a field at a comma, and the type of a field at its first space.
Two schemas with the same text are therefore the same, if no name of a field holds a comma.
-/

namespace ExecutorRegistration.TypedData

/-! ## Separators -/

/-- Lists are the same before and behind the first place of an item. -/
theorem eq_of_append_cons_eq {α : Type} [DecidableEq α] {separator : α}
    {left right leftRest rightRest : List α} (notLeft : separator ∉ left)
    (notRight : separator ∉ right)
    (same : left ++ separator :: leftRest = right ++ separator :: rightRest) :
    left = right ∧ leftRest = rightRest := by
  have pieces := congrArg (List.splitOn separator) same
  rw [List.splitOn_append_cons_self_of_not_mem notLeft,
    List.splitOn_append_cons_self_of_not_mem notRight] at pieces
  obtain ⟨rfl, -⟩ := List.cons.inj pieces
  exact ⟨rfl, (List.cons.inj (List.append_cancel_left same)).2⟩

/-- Pieces with something in them, but no separator, are determined by the list that they make with
separators between them. -/
theorem intercalate_injective {α : Type} [DecidableEq α] {separator : α}
    {left right : List (List α)} (areLeft : ∀ piece ∈ left, piece ≠ [] ∧ separator ∉ piece)
    (areRight : ∀ piece ∈ right, piece ≠ [] ∧ separator ∉ piece)
    (same : [separator].intercalate left = [separator].intercalate right) : left = right := by
  -- No pieces and one empty piece make the same list, and only then are there two ways to split it.
  have empty {pieces : List (List α)} (arePieces : ∀ piece ∈ pieces, piece ≠ [] ∧ separator ∉ piece)
      (nothing : [separator].intercalate pieces = []) : pieces = [] := by
    by_contra nonempty
    have split := List.splitOn_intercalate separator
      (fun piece member => (arePieces piece member).2) nonempty
    rw [nothing, List.splitOn_nil] at split
    exact (arePieces [] (by simp [← split])).1 rfl
  by_cases leftEmpty : left = []
  · subst leftEmpty
    exact (empty areRight (by rw [← same, List.intercalate_nil])).symm
  by_cases rightEmpty : right = []
  · subst rightEmpty
    exact empty areLeft (by rw [same, List.intercalate_nil])
  rw [← List.splitOn_intercalate separator (fun piece member => (areLeft piece member).2) leftEmpty,
    same,
    List.splitOn_intercalate separator (fun piece member => (areRight piece member).2) rightEmpty]

/-! ## Fields and schemas -/

/-- The type and the name of a field can be told apart, and no comma stands in them. -/
structure Field.IsSeparable (field : Field) : Prop where
  noSpace : ' ' ∉ field.type.toList
  noCommaInType : ',' ∉ field.type.toList
  noCommaInName : ',' ∉ field.name.toList

/-- The characters of a field in the text of a type. -/
def Field.chars (field : Field) : List Char := field.type.toList ++ ' ' :: field.name.toList

theorem Field.chars_injective {left right : Field} (isLeft : left.IsSeparable)
    (isRight : right.IsSeparable) (same : left.chars = right.chars) : left = right := by
  obtain ⟨types, names⟩ := eq_of_append_cons_eq isLeft.noSpace isRight.noSpace same
  cases left
  cases right
  rw [Field.mk.injEq]
  exact ⟨String.toList_inj.mp names, String.toList_inj.mp types⟩

theorem Field.IsSeparable.chars {field : Field} (isField : field.IsSeparable) :
    field.chars ≠ [] ∧ ',' ∉ field.chars := by
  have noSpaceComma : ',' ≠ ' ' := by decide
  simp [Field.chars, isField.noCommaInType, isField.noCommaInName, noSpaceComma]

theorem Schema.toList_encodeType (schema : Schema) :
    schema.encodeType.toList = schema.primaryType.toList ++
      '(' :: ([','].intercalate (schema.fields.map Field.chars) ++ [')']) := by
  have fields_eq : (schema.fields.map fun field => field.type ++ " " ++ field.name).map
      String.toList = schema.fields.map Field.chars := by
    rw [List.map_map]
    refine List.map_congr_left fun field _ => ?_
    simp [Field.chars]
  simp [encodeType, String.toList_intercalate, fields_eq]

theorem map_chars_injective {left right : List Field}
    (areLeft : ∀ field ∈ left, field.IsSeparable) (areRight : ∀ field ∈ right, field.IsSeparable)
    (same : left.map Field.chars = right.map Field.chars) : left = right := by
  induction left generalizing right with
  | nil => exact (List.map_eq_nil_iff.mp same.symm).symm
  | cons field left ih =>
      cases right with
      | nil => exact absurd same (List.cons_ne_nil _ _)
      | cons other right =>
          obtain ⟨isField, areLeft⟩ := List.forall_mem_cons.mp areLeft
          obtain ⟨isOther, areRight⟩ := List.forall_mem_cons.mp areRight
          obtain ⟨first, rest⟩ := List.cons.inj same
          rw [Field.chars_injective isField isOther first, ih areLeft areRight rest]

/-- A schema is determined by the text of its type. -/
theorem Schema.encodeType_injective {left right : Schema}
    (leftPrimary : '(' ∉ left.primaryType.toList) (rightPrimary : '(' ∉ right.primaryType.toList)
    (areLeft : ∀ field ∈ left.fields, field.IsSeparable)
    (areRight : ∀ field ∈ right.fields, field.IsSeparable)
    (texts : left.encodeType = right.encodeType) : left = right := by
  have chars := congrArg String.toList texts
  rw [left.toList_encodeType, right.toList_encodeType] at chars
  obtain ⟨primaryTypes, behind⟩ := eq_of_append_cons_eq leftPrimary rightPrimary chars
  have pieces : left.fields.map Field.chars = right.fields.map Field.chars := by
    refine intercalate_injective ?_ ?_ (List.append_cancel_right behind)
    · exact List.forall_mem_map.mpr fun field member => (areLeft field member).chars
    · exact List.forall_mem_map.mpr fun field member => (areRight field member).chars
  cases left
  cases right
  rw [Schema.mk.injEq]
  exact ⟨String.toList_inj.mp primaryTypes, map_chars_injective areLeft areRight pieces⟩

/-- With a comma in a name, the text of one field reads as that of two. -/
example : Schema.encodeType ⟨"Pair", [⟨"a", "uint256"⟩, ⟨"b", "uint256"⟩]⟩ =
    Schema.encodeType ⟨"Pair", [⟨"a,uint256 b", "uint256"⟩]⟩ := by
  decide

/-! ## Names of types -/

/-- The name of a type has identifiers, dots, brackets and digits in it, and nothing else. -/
theorem NamesType.not_mem {name : String} {type : ValueType} (isName : NamesType name type)
    {c : Char} (isNoPart : isNamePart c = false) (isOther : c ≠ '.' ∧ c ≠ '[' ∧ c ≠ ']') :
    c ∉ name.toList := by
  obtain ⟨parsed, parsed_eq, resolved⟩ := (namesType_iff _ _).mp isName
  obtain ⟨base, isElement, -⟩ := (parsed.valueType?_eq_some_iff type).mp resolved
  obtain ⟨isStem, suffixes, split, isSuffixes⟩ :=
    (TypeName.parse?_eq_some_iff _ (TypeName.stem_ne_tuple isElement)).mp parsed_eq
  have noDigit : ¬ ('0' ≤ c ∧ c ≤ '9') := by
    intro isDigit
    simp [isNamePart, isDigit] at isNoPart
  rw [split, List.mem_append, not_or]
  exact ⟨isStem.not_mem isNoPart isOther.1, isSuffixes.not_mem ⟨isOther.2.1, isOther.2.2, noDigit⟩⟩

/-- The text of a field can be taken apart if its type has a name. -/
theorem Field.IsSeparable.of_namesType {field : Field} {type : ValueType}
    (isName : NamesType field.type type) (noComma : ',' ∉ field.name.toList) :
    field.IsSeparable where
  noSpace := isName.not_mem (by decide) (by decide)
  noCommaInType := isName.not_mem (by decide) (by decide)
  noCommaInName := noComma

end ExecutorRegistration.TypedData
