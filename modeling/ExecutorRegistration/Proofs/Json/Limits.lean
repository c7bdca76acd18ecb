import ExecutorRegistration.Json.Reader
import ExecutorRegistration.Proofs.Json.Leftover
import Mathlib.Data.List.Infix
import Mathlib.Tactic.SplitIfs

/-!
# What bounds the reading of JSON

A value is read in the same way by all readers of embedded texts that agree where the characters
embed a value. An embedded text is shorter than the characters in which it is written; the bound
on the length of texts is therefore none, and texts are read as values whose embedded texts are
read in the same way. What holds of values as they are put together holds of all that is read.
-/

namespace ExecutorRegistration.Json

/-! ## Readers that agree -/

theorem Reading.Leaves.andThen_congr {α β : Type} {reading : Reading α} {chars : List Char}
    {left right : α → List Char → Reading β} (leaves : reading.Leaves chars)
    (same : ∀ value rest, rest <:+ chars → left value rest = right value rest) :
    reading.andThen left = reading.andThen right := by
  unfold Reading.Leaves at leaves
  rcases reading with fault | ⟨value, rest⟩
  · rfl
  · exact same value rest (leaves value rest rfl)

section Agreement

variable {α : Type} {item otherItem : List Char → Reading α}
  {value otherValue : List Char → Reading Json} {whole : List Char}

theorem readMoreItems_congr (leaves : ∀ chars, (item chars).Leaves chars)
    (same : ∀ chars, chars <:+ whole → item chars = otherItem chars) (limit : Nat)
    {chars : List Char} (inside : chars <:+ whole) :
    readMoreItems item limit chars = readMoreItems otherItem limit chars := by
  induction limit generalizing chars with
  | zero => rfl
  | succ limit ih =>
      rw [readMoreItems, readMoreItems]
      split
      · rfl
      · rfl
      · rename_i rest comma
        have within := (skipBlanks_suffix rest).trans
          ((suffix_of_skipBlanks comma).trans inside)
        split
        · rfl
        · rfl
        · rw [← same _ within]
          refine (leaves _).andThen_congr fun first behind suffix => ?_
          rw [ih (suffix.trans within)]
      · rfl

theorem readItems_congr (leaves : ∀ chars, (item chars).Leaves chars)
    (same : ∀ chars, chars <:+ whole → item chars = otherItem chars)
    {chars : List Char} (inside : chars <:+ whole) :
    readItems item chars = readItems otherItem chars := by
  have within := (skipBlanks_suffix chars).trans inside
  unfold readItems
  split
  · rfl
  · rfl
  · rw [← same _ within]
    refine (leaves _).andThen_congr fun first behind suffix => ?_
    rw [readMoreItems_congr leaves same _ (suffix.trans within)]

theorem readMember_congr (same : ∀ chars, chars <:+ whole → value chars = otherValue chars)
    {chars : List Char} (inside : chars <:+ whole) :
    readMember value chars = readMember otherValue chars := by
  refine (leaves_readQuoted chars).andThen_congr fun key behind suffix => ?_
  split
  · rfl
  · rename_i rest colon
    rw [same _ ((suffix_of_skipBlanks colon).trans (suffix.trans inside))]
  · rfl

theorem readMoreMembers_congr (leaves : ∀ chars, (value chars).Leaves chars)
    (same : ∀ chars, chars <:+ whole → value chars = otherValue chars) (limit : Nat)
    {chars : List Char} (inside : chars <:+ whole) :
    readMoreMembers value limit chars = readMoreMembers otherValue limit chars := by
  induction limit generalizing chars with
  | zero => rfl
  | succ limit ih =>
      rw [readMoreMembers, readMoreMembers]
      split
      · rfl
      · rfl
      · rename_i rest comma
        have within := (suffix_of_skipBlanks comma).trans inside
        split
        · rfl
        · rename_i key quote
          have keyWithin := (suffix_of_skipBlanks quote).trans within
          rw [← readMember_congr same keyWithin]
          refine (leaves_readMember leaves key).andThen_congr fun first behind suffix => ?_
          rw [ih (suffix.trans keyWithin)]
        · rfl
        · rfl
      · rfl

theorem readMembers_congr (leaves : ∀ chars, (value chars).Leaves chars)
    (same : ∀ chars, chars <:+ whole → value chars = otherValue chars)
    {chars : List Char} (inside : chars <:+ whole) :
    readMembers value chars = readMembers otherValue chars := by
  unfold readMembers
  split
  · rfl
  · rfl
  · rename_i key quote
    have within := (suffix_of_skipBlanks quote).trans inside
    rw [← readMember_congr same within]
    refine (leaves_readMember leaves key).andThen_congr fun first behind suffix => ?_
    rw [readMoreMembers_congr leaves same _ (suffix.trans within)]
  · rfl

end Agreement

/-- Readers of embedded texts are told apart only where an object embeds a value. -/
theorem readValueWith_congr {left right : String → Except ReadError Json} {whole : List Char}
    (same : ∀ behind after, '{' :: behind <:+ whole → behindEmbeddedKey? behind = some after →
      readEmbedded left after = readEmbedded right after)
    (depth : Nat) {chars : List Char} (inside : chars <:+ whole) :
    readValueWith left depth chars = readValueWith right depth chars := by
  induction depth generalizing chars with
  | zero => rfl
  | succ depth ih =>
      have leaves := leaves_readValueWith left depth
      have agree : ∀ chars, chars <:+ whole →
          readValueWith left depth chars = readValueWith right depth chars := fun _ => ih
      rw [readValueWith, readValueWith]
      split
      · rename_i rest opened
        rw [readItems_congr leaves agree ((suffix_of_skipBlanks opened).trans inside)]
      · rename_i rest opened
        have atBracket : '{' :: rest <:+ whole := by
          rw [← opened]
          exact (skipBlanks_suffix chars).trans inside
        split
        · rename_i behind isKey
          exact same rest behind atBracket isKey
        · rw [readMembers_congr leaves agree ((List.suffix_cons _ rest).trans atBracket)]
      · rfl

/-! ## Texts of any length -/

/-- Readers that agree on all texts that are shorter than the characters agree on these. -/
theorem readEmbedded_congr {left right : String → Except ReadError Json} {chars : List Char}
    (same : ∀ text : String, text.length < chars.length → left text = right text) :
    readEmbedded left chars = readEmbedded right chars := by
  unfold readEmbedded
  split
  · rfl
  · rename_i rest colon
    have shorter := (suffix_of_skipBlanks colon).length_le
    unfold readEmbeddedText
    split
    · rename_i quoted quote
      have quotedShorter := (suffix_of_skipBlanks quote).length_le
      cases read : readQuoted quoted with
      | error fault => rfl
      | ok result =>
          obtain ⟨text, behind⟩ := result
          have textShorter := length_of_readQuoted read
          simp only [Reading.andThen]
          rw [same text (by omega)]
    · rfl
  · rfl

theorem readValueWith_congr_of_length {left right : String → Except ReadError Json}
    {chars : List Char}
    (same : ∀ text : String, text.length < chars.length → left text = right text) (depth : Nat) :
    readValueWith left depth chars = readValueWith right depth chars := by
  refine readValueWith_congr (fun behind after atBracket isKey => ?_) depth
    (List.suffix_refl chars)
  have shorter := (suffix_of_behindEmbeddedKey? isKey).length_le
  have inside := atBracket.length_le
  rw [List.length_cons] at inside
  exact readEmbedded_congr fun text isShort => same text (by omega)

/-- The bound on the length of a text does not count once it is above that length. -/
theorem parseWithin_eq_parse {limit : Nat} {text : String} (short : text.length < limit) :
    parseWithin limit text = parse text := by
  induction bound : text.length using Nat.strong_induction_on generalizing limit text with
  | _ length ih =>
      obtain _ | limit := limit
      · exact absurd short (Nat.not_lt_zero _)
      have same : readValueWith (parseWithin limit) maxDepth text.toList =
          readValue maxDepth text.toList := by
        refine readValueWith_congr_of_length (fun embedded isShort => ?_) maxDepth
        rw [String.length_toList] at isShort ⊢
        have small := bound ▸ isShort
        rw [ih _ small (by omega) rfl, ih _ small isShort rfl]
      simp only [parseWithin, parse, readAll, same]

/-- Values are read with their embedded texts read as texts are. -/
theorem readValue_eq (depth : Nat) (chars : List Char) :
    readValue depth chars = readValueWith parse depth chars :=
  readValueWith_congr_of_length (fun _ short => parseWithin_eq_parse short) depth

theorem parse_eq (text : String) : parse text = readAll (readValueWith parse maxDepth) text := by
  have readers : readValue maxDepth = readValueWith parse maxDepth :=
    funext (readValue_eq maxDepth)
  rw [← readers]
  rfl

theorem readObject_eq {chars rest : List Char} (opened : skipBlanks chars = '{' :: rest) :
    readObject chars =
      (readMembers (readValueWith parse (maxDepth - 1)) rest).mapValue sortMembers := by
  have same : ∀ chars, chars <:+ rest →
      readValueWith (parseWithin rest.length) (maxDepth - 1) chars =
        readValueWith parse (maxDepth - 1) chars := by
    intro chars suffix
    refine readValueWith_congr_of_length (fun text short => parseWithin_eq_parse ?_) _
    exact short.trans_le suffix.length_le
  rw [← readMembers_congr (leaves_readValueWith _ _) same (List.suffix_refl rest)]
  simp only [readObject, opened]

/-- Only an object is read as one. -/
theorem exists_of_readObject {chars rest : List Char} {members : List (String × Json)}
    (read : readObject chars = .ok (members, rest)) :
    ∃ inside written, skipBlanks chars = '{' :: inside ∧
      readMembers (readValueWith parse (maxDepth - 1)) inside = .ok (written, rest) ∧
      sortMembers written = members := by
  have isObject : ∃ inside, skipBlanks chars = '{' :: inside := by
    unfold readObject at read
    split at read
    · exact ⟨_, ‹_›⟩
    · cases read
  obtain ⟨inside, opened⟩ := isObject
  rw [readObject_eq opened] at read
  obtain ⟨written, readInside, sorted⟩ := (Reading.mapValue_eq_ok_iff _ _ _ _).mp read
  exact ⟨inside, written, opened, readInside, sorted⟩

/-! ## All that is read -/

section Parts

variable {α : Type} {item : List Char → Reading α} {value : List Char → Reading Json}

theorem exists_of_mem_readMoreItems {limit : Nat} {chars rest : List Char} {items : List α}
    (read : readMoreItems item limit chars = .ok (items, rest)) {first : α}
    (member : first ∈ items) : ∃ given behind, item given = .ok (first, behind) := by
  induction limit generalizing chars items with
  | zero => cases read
  | succ limit ih =>
      rw [readMoreItems] at read
      split at read
      · cases read
      · cases read
        cases member
      · split at read
        · cases read
        · cases read
        · obtain ⟨head, behind, readHead, readTail⟩ := (Reading.andThen_eq_ok_iff _ _ _ _).mp read
          obtain ⟨tail, readOthers, rfl⟩ := (Reading.mapValue_eq_ok_iff _ _ _ _).mp readTail
          rcases List.mem_cons.mp member with rfl | later
          · exact ⟨_, behind, readHead⟩
          · exact ih readOthers later
      · cases read

/-- The items of an array are read by the reader of items. -/
theorem exists_of_mem_readItems {chars rest : List Char} {items : List α}
    (read : readItems item chars = .ok (items, rest)) {first : α} (member : first ∈ items) :
    ∃ given behind, item given = .ok (first, behind) := by
  unfold readItems at read
  split at read
  · cases read
  · cases read
    cases member
  · obtain ⟨head, behind, readHead, readTail⟩ := (Reading.andThen_eq_ok_iff _ _ _ _).mp read
    obtain ⟨tail, readOthers, rfl⟩ := (Reading.mapValue_eq_ok_iff _ _ _ _).mp readTail
    rcases List.mem_cons.mp member with rfl | later
    · exact ⟨_, behind, readHead⟩
    · exact exists_of_mem_readMoreItems readOthers later

theorem exists_of_readMember {chars rest : List Char} {member : String × Json}
    (read : readMember value chars = .ok (member, rest)) :
    ∃ given behind, value given = .ok (member.2, behind) := by
  obtain ⟨key, behind, -, read⟩ := (Reading.andThen_eq_ok_iff _ _ _ _).mp read
  split at read
  · cases read
  · obtain ⟨inner, readInner, rfl⟩ := (Reading.mapValue_eq_ok_iff _ _ _ _).mp read
    exact ⟨_, _, readInner⟩
  · cases read

theorem exists_of_mem_readMoreMembers {limit : Nat} {chars rest : List Char}
    {members : List (String × Json)}
    (read : readMoreMembers value limit chars = .ok (members, rest)) {first : String × Json}
    (member : first ∈ members) : ∃ given behind, value given = .ok (first.2, behind) := by
  induction limit generalizing chars members with
  | zero => cases read
  | succ limit ih =>
      rw [readMoreMembers] at read
      split at read
      · cases read
      · cases read
        cases member
      · split at read
        · cases read
        · obtain ⟨head, behind, readHead, readTail⟩ := (Reading.andThen_eq_ok_iff _ _ _ _).mp read
          obtain ⟨tail, readOthers, rfl⟩ := (Reading.mapValue_eq_ok_iff _ _ _ _).mp readTail
          rcases List.mem_cons.mp member with rfl | later
          · exact exists_of_readMember readHead
          · exact ih readOthers later
        · cases read
        · cases read
      · cases read

/-- The values of an object are read by the reader of values. -/
theorem exists_of_mem_readMembers {chars rest : List Char} {members : List (String × Json)}
    (read : readMembers value chars = .ok (members, rest)) {first : String × Json}
    (member : first ∈ members) : ∃ given behind, value given = .ok (first.2, behind) := by
  unfold readMembers at read
  split at read
  · cases read
  · cases read
    cases member
  · obtain ⟨head, behind, readHead, readTail⟩ := (Reading.andThen_eq_ok_iff _ _ _ _).mp read
    obtain ⟨tail, readOthers, rfl⟩ := (Reading.mapValue_eq_ok_iff _ _ _ _).mp readTail
    rcases List.mem_cons.mp member with rfl | later
    · exact exists_of_readMember readHead
    · exact exists_of_mem_readMoreMembers readOthers later
  · cases read

end Parts

/-- The members of an object that is not read as an embedded value start with another key. -/
theorem head?_ne_of_readMembers {value : List Char → Reading Json} {chars rest : List Char}
    {members : List (String × Json)} (plain : behindEmbeddedKey? chars = none)
    (read : readMembers value chars = .ok (members, rest)) :
    members.head?.map Prod.fst ≠ some embeddedKey := by
  unfold readMembers at read
  split at read
  · cases read
  · cases read
    nofun
  · rename_i quoted opened
    obtain ⟨head, behind, readHead, readTail⟩ := (Reading.andThen_eq_ok_iff _ _ _ _).mp read
    obtain ⟨tail, -, rfl⟩ := (Reading.mapValue_eq_ok_iff _ _ _ _).mp readTail
    obtain ⟨key, behindKey, readKey, readValue⟩ := (Reading.andThen_eq_ok_iff _ _ _ _).mp readHead
    have key_ne : key ≠ embeddedKey := by
      rintro rfl
      simp [behindEmbeddedKey?, opened, readKey] at plain
    split at readValue
    · cases readValue
    · obtain ⟨inner, -, rfl⟩ := (Reading.mapValue_eq_ok_iff _ _ _ _).mp readValue
      exact fun same => key_ne (Option.some.inj same)
    · cases readValue
  · cases read

/-- An embedded value is one that the reader of embedded texts returns. -/
theorem exists_of_readEmbedded {parseText : String → Except ReadError Json}
    {chars rest : List Char} {value : Json}
    (read : readEmbedded parseText chars = .ok (value, rest)) :
    ∃ text, parseText text = .ok value := by
  unfold readEmbedded at read
  split at read
  · cases read
  · obtain ⟨text, behind, -, read⟩ := (Reading.andThen_eq_ok_iff _ _ _ _).mp read
    split at read
    · cases read
    · rename_i embedded parsed
      split at read
      · cases read
      · cases read
        exact ⟨text, parsed⟩
      · cases read
      · cases read
  · cases read

/-- What holds of values without brackets, of arrays and objects if it holds within them one
bracket less deep, and of embedded values holds of all that is read. Of objects it has to hold
only if the key of embedded texts is not the first one that is read. -/
theorem readValueWith_induction {holds : Nat → Json → Prop}
    {parseText : String → Except ReadError Json}
    (scalar : ∀ depth chars value rest, readScalar chars = .ok (value, rest) → holds depth value)
    (array : ∀ depth items, (∀ item ∈ items, holds depth item) → holds (depth + 1) (.array items))
    (object : ∀ depth members, members.head?.map Prod.fst ≠ some embeddedKey →
      (∀ member ∈ members, holds depth member.2) →
      holds (depth + 1) (.object (sortMembers members)))
    (embedded : ∀ depth text value, parseText text = .ok value → holds depth value)
    {depth : Nat} {chars rest : List Char} {value : Json}
    (read : readValueWith parseText depth chars = .ok (value, rest)) : holds depth value := by
  induction depth generalizing chars value rest with
  | zero =>
      rw [readValueWith] at read
      split at read
      · cases read
      · cases read
      · exact scalar _ _ _ _ read
  | succ depth ih =>
      rw [readValueWith] at read
      split at read
      · obtain ⟨items, readAll, rfl⟩ := (Reading.mapValue_eq_ok_iff _ _ _ _).mp read
        refine array depth items fun item member => ?_
        obtain ⟨given, behind, readItem⟩ := exists_of_mem_readItems readAll member
        exact ih readItem
      · split at read
        · obtain ⟨text, parsed⟩ := exists_of_readEmbedded read
          exact embedded _ text value parsed
        · rename_i plain
          obtain ⟨members, readAll, rfl⟩ := (Reading.mapValue_eq_ok_iff _ _ _ _).mp read
          refine object depth members (head?_ne_of_readMembers plain readAll)
            fun member isMember => ?_
          obtain ⟨given, behind, readMember⟩ := exists_of_mem_readMembers readAll isMember
          exact ih readMember
      · exact scalar _ _ _ _ read

theorem exists_of_readAll {α : Type} {reader : List Char → Reading α} {text : String} {value : α}
    (read : readAll reader text = .ok value) :
    ∃ rest, reader text.toList = .ok (value, rest) := by
  unfold readAll at read
  dsimp only at read
  split at read
  · cases read
  · rename_i found rest readFound
    split at read
    · cases read
      exact ⟨rest, readFound⟩
    · cases read

section Everything

variable {holds : Json → Prop} (scalar : ∀ value : Json, value.IsScalar → holds value)
  (array : ∀ items, (∀ item ∈ items, holds item) → holds (.array items))
  (object : ∀ members, members.head?.map Prod.fst ≠ some embeddedKey →
    (∀ member ∈ members, holds member.2) → holds (.object (sortMembers members)))

include scalar array object

/-- What holds of values without brackets, and of arrays and objects if it holds within them, holds
of all that texts denote. -/
theorem holds_of_parse {text : String} {value : Json} (parsed : parse text = .ok value) :
    holds value := by
  -- Texts are embedded in one another no more often than the bound on their length says.
  have bounded : ∀ (limit : Nat) (text : String) (value : Json),
      parseWithin limit text = .ok value → holds value := by
    intro limit
    induction limit with
    | zero =>
        intro text value read
        obtain ⟨rest, readScalar⟩ := exists_of_readAll read
        exact scalar value (takesScalar_readScalar _ _ _ readScalar).1
    | succ limit ih =>
        intro text value read
        obtain ⟨rest, readValue⟩ := exists_of_readAll read
        exact readValueWith_induction
          (fun _ _ value _ read => scalar value (takesScalar_readScalar _ _ _ read).1)
          (fun _ => array) (fun _ => object) (fun _ => ih) readValue
  rw [← parseWithin_eq_parse (Nat.lt_succ_self text.length)] at parsed
  exact bounded _ text value parsed

theorem holds_of_readValueWith {depth : Nat} {chars rest : List Char} {value : Json}
    (read : readValueWith parse depth chars = .ok (value, rest)) : holds value :=
  readValueWith_induction
    (fun _ _ value _ read => scalar value (takesScalar_readScalar _ _ _ read).1)
    (fun _ => array) (fun _ => object)
    (fun _ _ _ parsed => holds_of_parse scalar array object parsed) read

end Everything

end ExecutorRegistration.Json
