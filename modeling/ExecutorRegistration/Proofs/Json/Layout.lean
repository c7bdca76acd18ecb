import ExecutorRegistration.Proofs.Json.Spelling

/-!
# Reading values back

The compact and the pretty text of a value differ in the blanks between its characters only. Both
spell the value, and are therefore read as it is, with its keys sorted and the values that it
embeds in the place of their texts; they are refused if one of these cannot be read.
-/

namespace ExecutorRegistration.Json

/-! ## Compact texts -/

mutual

theorem spells_compactChars : ∀ value : Json, Spells value value.compactChars
  | null => .scalar trivial
  | bool _ => .scalar trivial
  | integer _ => .scalar trivial
  | real _ => .scalar trivial
  | string _ => .scalar trivial
  | array [] => .emptyArray blanks_nil
  | array (item :: rest) =>
      .array blanks_nil (spells_compactChars item) (spellsMoreItems_compactItems rest)
  | object [] => .emptyObject blanks_nil
  | object ((key, value) :: rest) => by
      have spells := Spells.object blanks_nil (spellsKey_quoted key blanks_nil blanks_nil)
        (spells_compactChars value) (spellsMoreMembers_compactMembers rest)
      rw [List.append_assoc] at spells
      exact spells

theorem spellsMoreItems_compactItems :
    ∀ items : List Json, SpellsMoreItems items (compactItems items)
  | [] => .close blanks_nil
  | item :: rest =>
      .comma blanks_nil blanks_nil (spells_compactChars item) (spellsMoreItems_compactItems rest)

theorem spellsMoreMembers_compactMembers :
    ∀ members : List (String × Json), SpellsMoreMembers members (compactMembers members)
  | [] => .close blanks_nil
  | (key, value) :: rest => by
      have spells := SpellsMoreMembers.comma blanks_nil blanks_nil
        (spellsKey_quoted key blanks_nil blanks_nil) (spells_compactChars value)
        (spellsMoreMembers_compactMembers rest)
      rw [List.append_assoc] at spells
      exact spells

end

/-! ## Pretty texts -/

theorem blanks_space : Blanks [' '] := by
  intro c member
  rw [List.mem_singleton.mp member]
  decide

theorem blanks_newLine (level : Nat) : Blanks (newLine level) := by
  intro c member
  rcases List.mem_cons.mp member with rfl | space
  · decide
  · rw [List.eq_of_mem_replicate space]
    decide

mutual

theorem spells_prettyChars (level : Nat) : ∀ value : Json, Spells value (value.prettyChars level)
  | null => .scalar trivial
  | bool _ => .scalar trivial
  | integer _ => .scalar trivial
  | real _ => .scalar trivial
  | string _ => .scalar trivial
  | array [] => .emptyArray blanks_nil
  | array (item :: rest) =>
      .array (blanks_newLine _) (spells_prettyChars (level + 1) item)
        (spellsMoreItems_prettyItems level rest)
  | object [] => .emptyObject blanks_nil
  | object ((key, value) :: rest) => by
      have spells := Spells.object (blanks_newLine (level + 1))
        (spellsKey_quoted key blanks_nil blanks_space) (spells_prettyChars (level + 1) value)
        (spellsMoreMembers_prettyMembers level rest)
      rw [List.append_assoc] at spells
      exact spells

theorem spellsMoreItems_prettyItems (level : Nat) :
    ∀ items : List Json, SpellsMoreItems items (prettyItems level items)
  | [] => .close (blanks_newLine level)
  | item :: rest =>
      .comma blanks_nil (blanks_newLine _) (spells_prettyChars (level + 1) item)
        (spellsMoreItems_prettyItems level rest)

theorem spellsMoreMembers_prettyMembers (level : Nat) :
    ∀ members : List (String × Json), SpellsMoreMembers members (prettyMembers level members)
  | [] => .close (blanks_newLine level)
  | (key, value) :: rest => by
      have spells := SpellsMoreMembers.comma blanks_nil (blanks_newLine (level + 1))
        (spellsKey_quoted key blanks_nil blanks_space) (spells_prettyChars (level + 1) value)
        (spellsMoreMembers_prettyMembers level rest)
      rw [List.append_assoc] at spells
      exact spells

end

/-! ## Whole texts -/

theorem spelledBy_of_spells {value : Json} {chars : List Char} (spells : Spells value chars) :
    value.SpelledBy (String.ofList chars) :=
  ⟨[], chars, [], blanks_nil, spells, blanks_nil, by simp⟩

theorem spelledBy_compact (value : Json) : value.SpelledBy value.compact :=
  spelledBy_of_spells (spells_compactChars value)

theorem spelledBy_pretty (value : Json) : value.SpelledBy value.pretty :=
  spelledBy_of_spells (spells_prettyChars 0 value)

/-- The compact text of a value denotes the value. -/
theorem toOption_parse_compact {value : Json} (whole : value.Everywhere IsWhole)
    (deep : value.depth ≤ maxDepth) :
    (parse value.compact).toOption = value.resolveEmbedded?.map sorted :=
  (toOption_parse_of_spelledBy whole (spelledBy_compact value)).trans (if_pos deep)

/-- The pretty text of a value denotes the value. -/
theorem toOption_parse_pretty {value : Json} (whole : value.Everywhere IsWhole)
    (deep : value.depth ≤ maxDepth) :
    (parse value.pretty).toOption = value.resolveEmbedded?.map sorted :=
  (toOption_parse_of_spelledBy whole (spelledBy_pretty value)).trans (if_pos deep)

/-- The compact text of an object denotes its members, whatever their first key. -/
theorem toOption_parseObject_compact {members : List (String × Json)}
    (whole : (object members).Everywhere IsWhole) (deep : (object members).depth ≤ maxDepth) :
    (parseObject (object members).compact).toOption =
      (resolveMembers? members).map fun resolved => sortMembers (sortedMembers resolved) := by
  obtain ⟨-, wholeMembers⟩ := (everywhere_object members).mp whole
  have reads : ∀ member ∈ members, ∀ space chars rest, Blanks space → Spells member.2 chars →
      EndsNumber rest → (readValueWith parse (maxDepth - 1) (space ++ (chars ++ rest))).toOption =
        (readBack (maxDepth - 1) member.2).map (·, rest) := by
    intro member isMember space chars rest isSpace spells ends
    rw [readValueWith_append isSpace]
    exact toOption_readValueWith (wholeMembers member isMember) spells _ ends
  have spells := spells_compactChars (object members)
  obtain ⟨inside, split, read⟩ := toOption_readMembers reads spells []
  have deepMembers : depthOfMembers members ≤ maxDepth - 1 := Nat.le_of_succ_le_succ deep
  rw [mapM_readBackMember, if_pos deepMembers] at read
  rw [List.append_nil] at split
  refine toOption_readAll blanks_nil ?_
  rw [compact, String.toList_ofList, split, readObject_eq rfl, Reading.toOption_mapValue, read,
    Option.map_map, Option.map_map, Option.map_map]
  rfl

/-- The compact text of a list of texts denotes the texts. -/
theorem parseTexts_compact (texts : List String) :
    parseTexts (ofStrings texts).compact = .ok texts := by
  have whole : ∀ value ∈ texts.map string, value.Everywhere IsWhole := by
    intro value member
    obtain ⟨text, -, rfl⟩ := List.mem_map.mp member
    exact .scalar trivial trivial
  have reads : ∀ value ∈ texts.map string, ∀ chars rest, Spells value chars → EndsNumber rest →
      (readText (chars ++ rest)).toOption = value.toText?.map (·, rest) := by
    intro value member chars rest spells _
    obtain ⟨text, -, rfl⟩ := List.mem_map.mp member
    obtain ⟨inside, split, read⟩ := exists_of_spellsText (spellsText_of_spells spells) rest
    rw [split]
    exact congrArg Except.toOption read
  have all : (texts.map string).mapM toText? = some texts := toTexts?_ofStrings texts
  have spells := spells_compactChars (ofStrings texts)
  obtain ⟨inside, split, read⟩ := toOption_readItems whole reads spells []
  rw [all] at read
  rw [List.append_nil] at split
  refine (toOption_eq_some_iff _ _).mp (toOption_readAll blanks_nil ?_)
  rw [compact, String.toList_ofList, split]
  exact read

end ExecutorRegistration.Json
