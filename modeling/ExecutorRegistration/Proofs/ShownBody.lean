import ExecutorRegistration.CommandLine
import ExecutorRegistration.Proofs.Json.Layout

/-!
# Bodies as they are shown

A body that is not JSON is shown as it is. Of any other body the value alone is shown, in its
pretty text. That denotes the same value, unless the value is deeper than brackets may stand open
or an object of it has come to start with the key of embedded texts; it then denotes no value.
-/

namespace ExecutorRegistration

/-- The pretty text of a value that was read denotes this value or none. -/
theorem Json.parse_pretty_eq_ok_iff {text : String} {value : Json}
    (parsed : Json.parse text = .ok value) (whole : value.Everywhere IsWhole) (found : Json) :
    Json.parse value.pretty = .ok found ↔
      found = value ∧ value.depth ≤ maxDepth ∧ value.Everywhere EmbedsNothing := by
  have sorted := sorted_of_ascending (ascending_of_parse parsed)
  rw [← toOption_eq_some_iff, toOption_parse_of_spelledBy whole (spelledBy_pretty value), readBack]
  split_ifs with deep
  · constructor
    · intro read
      obtain ⟨resolved, resolves, rfl⟩ := Option.map_eq_some_iff.mp read
      -- What is resolved embeds nothing: an embedded value would have been put in place before.
      have plain := plain_of_resolveEmbedded? (noLoneEmbedding_of_parse parsed) resolves
      obtain rfl := Option.some.inj ((resolveEmbedded?_of_plain plain).symm.trans resolves)
      exact ⟨sorted, deep, plain⟩
    · rintro ⟨rfl, -, plain⟩
      rw [resolveEmbedded?_of_plain plain, Option.map_some, sorted]
  · refine iff_of_false (by simp) ?_
    rintro ⟨-, isDeep, -⟩
    exact deep isDeep

/-- A text that spells a value denotes it, with its keys sorted. -/
theorem Json.parse_of_spelledBy {value : Json} {text : String} (spelled : value.SpelledBy text)
    (whole : value.Everywhere IsWhole) (deep : value.depth ≤ maxDepth)
    (plain : value.Everywhere EmbedsNothing) : Json.parse text = .ok value.sorted := by
  rw [← toOption_eq_some_iff, toOption_parse_of_spelledBy whole spelled, readBack, if_pos deep,
    resolveEmbedded?_of_plain plain]
  rfl

theorem shownBody_of_error {body : String} {error : Json.ReadError}
    (refused : Json.parse body = .error error) : shownBody body = body := by
  rw [shownBody, refused]

theorem shownBody_of_parse {body : String} {value : Json} (parsed : Json.parse body = .ok value) :
    shownBody body = value.pretty := by
  rw [shownBody, parsed]

/-- What is shown of a body is shown again as it is. -/
theorem shownBody_shownBody {body : String} {value : Json} (parsed : Json.parse body = .ok value)
    (whole : value.Everywhere Json.IsWhole) : shownBody (shownBody body) = shownBody body := by
  rw [shownBody_of_parse parsed]
  cases again : Json.parse value.pretty with
  | error error => exact shownBody_of_error again
  | ok found =>
      obtain ⟨rfl, -⟩ := (Json.parse_pretty_eq_ok_iff parsed whole found).mp again
      exact shownBody_of_parse again

/-- A body that is not JSON is shown as it is. If a body denotes a value whose numbers are all
integers of 64 bits, the text that is shown denotes that value, is shown again as it is, and is
shown for all bodies that denote the value; it denotes none if the value is deeper than brackets may
stand open, which takes an embedded value, or if one of its objects starts with the key of these.
Blanks, the order of keys, the spelling of texts and members that are overridden do not count:
a body that spells a value in any way denotes it with its keys sorted. -/
theorem shownBody_keeps_value :
    (∀ body error, Json.parse body = .error error → shownBody body = body) ∧
    (∀ body value, Json.parse body = .ok value → value.Everywhere Json.IsWhole →
      (∀ found, Json.parse (shownBody body) = .ok found ↔
        found = value ∧ value.depth ≤ Json.maxDepth ∧ value.Everywhere Json.EmbedsNothing) ∧
      shownBody (shownBody body) = shownBody body ∧
      ∀ other, Json.parse other = .ok value → shownBody other = shownBody body) ∧
    (∀ body value, Json.parse body = .ok value → ¬ Json.EmbedsValue body.toList →
      value.depth ≤ Json.maxDepth) ∧
    ∀ (tree : Json) (body : String), tree.SpelledBy body → tree.Everywhere Json.IsWhole →
      tree.depth ≤ Json.maxDepth → tree.Everywhere Json.EmbedsNothing →
      Json.parse body = .ok tree.sorted ∧ shownBody body = tree.sorted.pretty := by
  refine ⟨fun _ _ => shownBody_of_error, fun body value parsed whole => ?_,
    fun _ _ parsed plain => Json.depth_le_of_parse plain parsed,
    fun tree body spelled whole deep plain => ?_⟩
  · have shown := shownBody_of_parse parsed
    refine ⟨fun found => ?_, shownBody_shownBody parsed whole, fun other same => ?_⟩
    · rw [shown]
      exact Json.parse_pretty_eq_ok_iff parsed whole found
    · rw [shown, shownBody_of_parse same]
  · have parsed := Json.parse_of_spelledBy spelled whole deep plain
    exact ⟨parsed, shownBody_of_parse parsed⟩

/-- A body with blanks, a character spelled as a surrogate pair and a key that is there twice. -/
def spacedBody : String := "\x7b \"b\" : [ ] ,\"a\":\"\\ud83d\\uDE00\",\"b\":7\x7d"

/-- Its members as they stand there. -/
def spacedMembers : Json := .object [("b", .array []), ("a", .string "😀"), ("b", .integer 7)]

theorem spelledBy_spacedBody : spacedMembers.SpelledBy spacedBody := by
  have first : Json.SpellsCode (0xD800 + 0x3D) ['d', '8', '3', 'd'] :=
    ⟨rfl, (Json.hexValue?_eq_some_iff _ _).mp (by decide)⟩
  have second : Json.SpellsCode (0xDC00 + 0x200) ['D', 'E', '0', '0'] :=
    ⟨rfl, (Json.hexValue?_eq_some_iff _ _).mp (by decide)⟩
  have face : Json.SpellsText "😀"
      ('"' :: ('\\' :: 'u' :: (['d', '8', '3', 'd'] ++ '\\' :: 'u' :: ['D', 'E', '0', '0']) ++
        ([] ++ ['"']))) :=
    ⟨_, .cons (.pair (by decide) (by decide) (by decide) first second) .nil, rfl⟩
  have tight (name : String) := Json.spellsKey_quoted name Json.blanks_nil Json.blanks_nil
  have seven : Json.Spells (.integer 7) ['7'] := .scalar trivial
  have last := Json.SpellsMoreMembers.comma Json.blanks_nil Json.blanks_nil (tight "b") seven
    (.close Json.blanks_nil)
  have more := Json.SpellsMoreMembers.comma Json.blanks_space Json.blanks_nil (tight "a")
    (.text face) last
  have whole := Json.Spells.object Json.blanks_space
    (Json.spellsKey_quoted "b" Json.blanks_space Json.blanks_space)
    (.emptyArray Json.blanks_space) more
  exact ⟨[], _, [], Json.blanks_nil, whole, Json.blanks_nil, rfl⟩

/-- The value of that body is shown, sorted, and its text denotes it. -/
theorem shownBody_spacedBody :
    let value : Json := .object [("a", .string "😀"), ("b", .integer 7)]
    Json.parse spacedBody = .ok value ∧
      shownBody spacedBody = "\x7b\n  \"a\": \"😀\",\n  \"b\": 7\n\x7d" ∧
      Json.parse (shownBody spacedBody) = .ok value ∧
      shownBody (shownBody spacedBody) = shownBody spacedBody ∧
      shownBody value.compact = shownBody spacedBody ∧ shownBody "busy" = "busy" := by
  intro value
  obtain ⟨refused, shown, bounded, spelled⟩ := shownBody_keeps_value
  have whole : value.Everywhere Json.IsWhole := by simp [value, Json.IsWhole, Json.FitsInteger]
  have plain : value.Everywhere Json.EmbedsNothing := by
    simp [value, Json.EmbedsNothing, Json.embeddedKey]
  have wholeMembers : spacedMembers.Everywhere Json.IsWhole := by
    simp [spacedMembers, Json.IsWhole, Json.FitsInteger]
  have plainMembers : spacedMembers.Everywhere Json.EmbedsNothing := by
    simp [spacedMembers, Json.EmbedsNothing, Json.embeddedKey]
  obtain ⟨parsed, shownAs⟩ := spelled spacedMembers spacedBody spelledBy_spacedBody wholeMembers
    (by decide) plainMembers
  obtain ⟨again, same, others⟩ := shown spacedBody value parsed whole
  have compact := spelled value value.compact (Json.spelledBy_compact value) whole (by decide) plain
  exact ⟨parsed, shownAs, (again value).mpr ⟨rfl, by decide, plain⟩, same,
    others value.compact compact.1, refused "busy" _ rfl⟩

/-- A body in which the key of embedded texts is there, but not as the first one. -/
def misembeddingBody : String :=
  "\x7b\"a\":1,\"$serde_json::private::RawValue\":2\x7d"

/-- The value of that body has one whole number beside the other, but the text that is shown for it
denotes no value. -/
theorem shownBody_misembeddingBody :
    ∃ value, Json.parse misembeddingBody = .ok value ∧ value.Everywhere Json.IsWhole ∧
      ∀ found, Json.parse (shownBody misembeddingBody) ≠ .ok found := by
  let members : Json := .object [("a", .integer 1), (Json.embeddedKey, .integer 2)]
  let value : Json := .object [(Json.embeddedKey, .integer 2), ("a", .integer 1)]
  have whole : value.Everywhere Json.IsWhole := by simp [value, Json.IsWhole, Json.FitsInteger]
  have wholeMembers : members.Everywhere Json.IsWhole := by
    simp [members, Json.IsWhole, Json.FitsInteger]
  have plain : members.Everywhere Json.EmbedsNothing := by
    simp [members, Json.EmbedsNothing, Json.embeddedKey]
  have parsed : Json.parse misembeddingBody = .ok value :=
    Json.parse_of_spelledBy (Json.spelledBy_compact members) wholeMembers (by decide) plain
  refine ⟨value, parsed, whole, fun found again => ?_⟩
  rw [shownBody_of_parse parsed, Json.parse_pretty_eq_ok_iff parsed whole] at again
  obtain ⟨-, -, embedsNothing⟩ := again
  exact ((Json.everywhere_object _).mp embedsNothing).1 rfl

end ExecutorRegistration
