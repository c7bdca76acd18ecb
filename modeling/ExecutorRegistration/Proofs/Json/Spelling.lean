import ExecutorRegistration.Json.Embedded
import ExecutorRegistration.Proofs.Json.Members
import ExecutorRegistration.Proofs.Json.Scalars
import ExecutorRegistration.Proofs.Json.Shape
import ExecutorRegistration.Proofs.Results
import Mathlib.Data.List.TakeWhile

/-!
# Spellings of values

A value is spelled with any blanks between its characters, with any spelling of its texts and keys,
and with its members in the order in which they stand. It is read from each of its spellings as the
value with its keys sorted, of which the last one counts, and with the values that it embeds in the
place of their texts. It is refused if one of these cannot be read, or if too many brackets stand
open.
-/

namespace ExecutorRegistration.Json

/-! ## Spellings -/

/-- Characters that may stand between those of a value. -/
def Blanks (chars : List Char) : Prop := ∀ c ∈ chars, c ∈ [' ', '\n', '\t', '\r']

/-- A key with its colon, and with blanks around that. -/
def SpellsKey (key : String) (chars : List Char) : Prop :=
  ∃ text gap space, SpellsText key text ∧ Blanks gap ∧ Blanks space ∧
    chars = text ++ (gap ++ ':' :: space)

theorem spellsKey_quoted (key : String) {gap space : List Char} (isGap : Blanks gap)
    (isSpace : Blanks space) : SpellsKey key (quoted key ++ (gap ++ ':' :: space)) :=
  ⟨quoted key, gap, space, spellsText_quoted key, isGap, isSpace, rfl⟩

mutual

/-- Characters spell a value. -/
inductive Spells : Json → List Char → Prop where
  | scalar {value : Json} (isScalar : value.IsScalar) : Spells value (scalarText value)
  | text {text : String} {chars : List Char} (spells : SpellsText text chars) :
      Spells (.string text) chars
  | emptyArray {blank : List Char} (isBlank : Blanks blank) :
      Spells (.array []) ('[' :: (blank ++ [']']))
  | array {item : Json} {items : List Json} {blank first more : List Char}
      (isBlank : Blanks blank) (spellsFirst : Spells item first)
      (spellsMore : SpellsMoreItems items more) :
      Spells (.array (item :: items)) ('[' :: (blank ++ (first ++ more)))
  | emptyObject {blank : List Char} (isBlank : Blanks blank) :
      Spells (.object []) ('{' :: (blank ++ ['}']))
  | object {key : String} {value : Json} {members : List (String × Json)}
      {blank head first more : List Char} (isBlank : Blanks blank) (spellsKey : SpellsKey key head)
      (spellsFirst : Spells value first) (spellsMore : SpellsMoreMembers members more) :
      Spells (.object ((key, value) :: members)) ('{' :: (blank ++ (head ++ (first ++ more))))

/-- Characters spell the items behind the first one, and the closing bracket. -/
inductive SpellsMoreItems : List Json → List Char → Prop where
  | close {blank : List Char} (isBlank : Blanks blank) : SpellsMoreItems [] (blank ++ [']'])
  | comma {item : Json} {items : List Json} {gap blank first more : List Char}
      (isGap : Blanks gap) (isBlank : Blanks blank) (spellsFirst : Spells item first)
      (spellsMore : SpellsMoreItems items more) :
      SpellsMoreItems (item :: items) (gap ++ ',' :: (blank ++ (first ++ more)))

/-- Characters spell the members behind the first one, and the closing bracket. -/
inductive SpellsMoreMembers : List (String × Json) → List Char → Prop where
  | close {blank : List Char} (isBlank : Blanks blank) : SpellsMoreMembers [] (blank ++ ['}'])
  | comma {key : String} {value : Json} {members : List (String × Json)}
      {gap blank head first more : List Char} (isGap : Blanks gap) (isBlank : Blanks blank)
      (spellsKey : SpellsKey key head) (spellsFirst : Spells value first)
      (spellsMore : SpellsMoreMembers members more) :
      SpellsMoreMembers ((key, value) :: members)
        (gap ++ ',' :: (blank ++ (head ++ (first ++ more))))

end

/-- A text spells a value, with blanks around it. -/
def SpelledBy (value : Json) (text : String) : Prop :=
  ∃ before chars after, Blanks before ∧ Spells value chars ∧ Blanks after ∧
    text.toList = before ++ (chars ++ after)

/-! ## Blanks and first characters -/

theorem blanks_nil : Blanks [] := nofun

theorem Blanks.skipBlanks_eq {blank : List Char} (isBlank : Blanks blank) :
    skipBlanks blank = [] := by
  refine List.dropWhile_eq_nil_iff.mpr fun c member => ?_
  have known : ∀ c ∈ [' ', '\n', '\t', '\r'],
      (c = ' ' || c = '\n' || c = '\t' || c = '\r') = true := by simp
  exact known c (isBlank c member)

theorem skipBlanks_append {blank : List Char} (isBlank : Blanks blank) (rest : List Char) :
    skipBlanks (blank ++ rest) = skipBlanks rest :=
  List.dropWhile_append_of_pos (List.dropWhile_eq_nil_iff.mp isBlank.skipBlanks_eq)

theorem skipBlanks_cons {c : Char} (starts : c ∉ notScalar) (rest : List Char) :
    skipBlanks (c :: rest) = c :: rest := by
  simp only [notScalar, List.mem_cons, not_or] at starts
  simp [skipBlanks, starts]

/-- A value starts neither with a blank nor with a closing bracket, and only a text with a
quote. -/
theorem exists_eq_cons_of_spells {value : Json} {chars : List Char}
    (whole : value.Everywhere IsWhole) (spells : Spells value chars) :
    ∃ c rest, chars = c :: rest ∧ (∀ more, skipBlanks (c :: more) = c :: more) ∧ c ≠ ']' ∧
      (c = '"' → ∃ text, value = string text) := by
  cases spells with
  | scalar isScalar =>
      have isWhole := (everywhere_of_isScalar isScalar).mp whole
      obtain ⟨c, rest, split, starts, quote⟩ := exists_scalarText_eq_cons isScalar isWhole
      have closing : c ≠ ']' := fun isClosing => starts (isClosing ▸ by decide)
      exact ⟨c, rest, split, skipBlanks_cons starts, closing, quote⟩
  | text spells =>
      obtain ⟨inside, -, rfl⟩ := spells
      exact ⟨'"', _, rfl, fun _ => rfl, by decide, fun _ => ⟨_, rfl⟩⟩
  | emptyArray => exact ⟨'[', _, rfl, fun _ => rfl, by decide, nofun⟩
  | array => exact ⟨'[', _, rfl, fun _ => rfl, by decide, nofun⟩
  | emptyObject => exact ⟨'{', _, rfl, fun _ => rfl, by decide, nofun⟩
  | object => exact ⟨'{', _, rfl, fun _ => rfl, by decide, nofun⟩

/-- Blanks do not go on with a number. -/
theorem endsNumber_append {blank : List Char} (isBlank : Blanks blank) {rest : List Char}
    (ends : EndsNumber rest) : EndsNumber (blank ++ rest) := by
  cases blank with
  | nil => exact ends
  | cons c blank =>
      rintro _ ⟨⟩
      have known : ∀ c ∈ [' ', '\n', '\t', '\r'],
          isDigit c = false ∧ c ≠ '.' ∧ c ≠ 'e' ∧ c ≠ 'E' := by
        simp [isDigit, Text.decimalDigit?]
      exact known c (isBlank c List.mem_cons_self)

/-- A number ends before a comma or a closing bracket, with or without blanks before that. -/
theorem endsNumber_of_mem {blank : List Char} (isBlank : Blanks blank) {c : Char}
    (ends : c ∈ [',', ']', '}']) (rest : List Char) : EndsNumber (blank ++ c :: rest) := by
  refine endsNumber_append isBlank ?_
  rintro _ ⟨⟩
  have known : ∀ c ∈ [',', ']', '}'], isDigit c = false ∧ c ≠ '.' ∧ c ≠ 'e' ∧ c ≠ 'E' := by
    simp [isDigit, Text.decimalDigit?]
  exact known c ends

theorem SpellsMoreItems.endsNumber {items : List Json} {more : List Char}
    (spells : SpellsMoreItems items more) (rest : List Char) : EndsNumber (more ++ rest) := by
  cases spells with
  | close isBlank =>
      rw [List.append_assoc]
      exact endsNumber_of_mem isBlank (by decide) rest
  | comma isGap =>
      rw [List.append_assoc]
      exact endsNumber_of_mem isGap (by decide) _

theorem SpellsMoreMembers.endsNumber {members : List (String × Json)} {more : List Char}
    (spells : SpellsMoreMembers members more) (rest : List Char) :
    EndsNumber (more ++ rest) := by
  cases spells with
  | close isBlank =>
      rw [List.append_assoc]
      exact endsNumber_of_mem isBlank (by decide) rest
  | comma isGap =>
      rw [List.append_assoc]
      exact endsNumber_of_mem isGap (by decide) _

theorem SpellsMoreItems.length_lt {items : List Json} {more : List Char}
    (spells : SpellsMoreItems items more) : items.length < more.length := by
  induction items generalizing more with
  | nil =>
      cases spells
      simp
  | cons item items ih =>
      cases spells with
      | comma _ _ _ spellsMore =>
          have := ih spellsMore
          simp only [List.length_cons, List.length_append]
          omega

theorem SpellsMoreMembers.length_lt {members : List (String × Json)} {more : List Char}
    (spells : SpellsMoreMembers members more) : members.length < more.length := by
  induction members generalizing more with
  | nil =>
      cases spells
      simp
  | cons member members ih =>
      cases spells with
      | comma _ _ _ _ spellsMore =>
          have := ih spellsMore
          simp only [List.length_cons, List.length_append]
          omega

/-! ## What is read, if anything -/

theorem Reading.toOption_andThen {α β : Type} (reading : Reading α)
    (next : α → List Char → Reading β) :
    (reading.andThen next).toOption =
      reading.toOption.bind fun found => (next found.1 found.2).toOption := by
  rcases reading with fault | ⟨value, rest⟩ <;> rfl

theorem Reading.toOption_mapValue {α β : Type} (f : α → β) (reading : Reading α) :
    (reading.mapValue f).toOption = reading.toOption.map fun found => (f found.1, found.2) := by
  rcases reading with fault | ⟨value, rest⟩ <;> rfl

/-- What is read of a value within which `depth` more brackets may stand open. -/
def readBack (depth : Nat) (value : Json) : Option Json :=
  if value.depth ≤ depth then value.resolveEmbedded?.map sorted else none

/-- What is read of a member is its key and what is read of its value. -/
def readBackMember (depth : Nat) (member : String × Json) : Option (String × Json) :=
  (readBack depth member.2).map (member.1, ·)

theorem mapM_resolveEmbedded? (items : List Json) :
    (items.mapM fun item => item.resolveEmbedded?.map sorted) =
      (resolveItems? items).map sortedItems := by
  induction items with
  | nil => rfl
  | cons item items ih =>
      rw [List.mapM_cons, ih, resolveItems?]
      cases item.resolveEmbedded? with
      | none => rfl
      | some resolved => cases resolveItems? items <;> rfl

theorem mapM_resolveMember? (members : List (String × Json)) :
    (members.mapM fun member => (member.2.resolveEmbedded?.map sorted).map (member.1, ·)) =
      (resolveMembers? members).map sortedMembers := by
  induction members with
  | nil => rfl
  | cons member members ih =>
      rw [List.mapM_cons, ih, resolveMembers?]
      cases member.2.resolveEmbedded? with
      | none => rfl
      | some resolved => cases resolveMembers? members <;> rfl

theorem mapM_readBack (depth : Nat) (items : List Json) :
    items.mapM (readBack depth) =
      if depthOfItems items ≤ depth then (resolveItems? items).map sortedItems else none := by
  have guarded : readBack depth = fun item =>
      if item.depth ≤ depth then item.resolveEmbedded?.map sorted else none := rfl
  rw [guarded, mapM_ite_none, mapM_resolveEmbedded?]
  exact if_congr (depthOfItems_le_iff items depth).symm rfl rfl

theorem mapM_readBackMember (depth : Nat) (members : List (String × Json)) :
    members.mapM (readBackMember depth) =
      if depthOfMembers members ≤ depth then (resolveMembers? members).map sortedMembers
      else none := by
  have guarded : readBackMember depth = fun member => if member.2.depth ≤ depth then
      (member.2.resolveEmbedded?.map sorted).map (member.1, ·) else none :=
    funext fun member => apply_ite (Option.map (member.1, ·)) _ _ none
  rw [guarded, mapM_ite_none, mapM_resolveMember?]
  exact if_congr (depthOfMembers_le_iff members depth).symm rfl rfl

theorem readBack_scalar {value : Json} (isScalar : value.IsScalar) (depth : Nat) :
    readBack depth value = some value := by
  cases value <;> first | rfl | exact isScalar.elim

theorem readBack_array (depth : Nat) (items : List Json) :
    readBack (depth + 1) (array items) = (items.mapM (readBack depth)).map array := by
  rw [mapM_readBack, readBack, Json.depth, resolveEmbedded?]
  simp only [Nat.add_le_add_iff_right]
  split_ifs
  · cases resolveItems? items <;> rfl
  · rfl

theorem readBack_object (depth : Nat) {members : List (String × Json)}
    (plain : embeddedValue? members = none) :
    readBack (depth + 1) (object members) =
      (members.mapM (readBackMember depth)).map fun read => object (sortMembers read) := by
  rw [mapM_readBackMember, readBack, Json.depth, resolveEmbedded?, plain]
  simp only [Nat.add_le_add_iff_right]
  split_ifs
  · cases resolveMembers? members <;> rfl
  · rfl

/-- An object that embeds a value is read as that, or not at all, however deep its members are. -/
theorem readBack_embedded (depth : Nat) (value : Json) (members : List (String × Json)) :
    readBack (depth + 1) (object ((embeddedKey, value) :: members)) =
      (object ((embeddedKey, value) :: members)).resolveEmbedded?.map sorted := by
  by_cases small : (object ((embeddedKey, value) :: members)).depth ≤ depth + 1
  · exact if_pos small
  · have refused : (object ((embeddedKey, value) :: members)).resolveEmbedded? = none := by
      cases value with
      | string text =>
          cases members with
          | nil => exact absurd (Nat.succ_le_succ (Nat.zero_le depth)) small
          | cons member members => rfl
      | _ => rfl
    rw [readBack, if_neg small, refused]
    rfl

/-! ## Arrays -/

section Arrays

variable {α : Type} {item : List Char → Reading α} {gap blank chars : List Char} {c : Char}

theorem readMoreItems_comma (isGap : Blanks gap) (isBlank : Blanks blank)
    (unskipped : skipBlanks (c :: chars) = c :: chars) (notClosing : c ≠ ']') (limit : Nat) :
    readMoreItems item (limit + 1) (gap ++ ',' :: (blank ++ c :: chars)) =
      (item (c :: chars)).andThen fun first behind =>
        (readMoreItems item limit behind).mapValue (first :: ·) := by
  have comma : skipBlanks (',' :: (blank ++ c :: chars)) = ',' :: (blank ++ c :: chars) := rfl
  simp only [readMoreItems, skipBlanks_append isGap, comma, skipBlanks_append isBlank, unskipped]
  split
  · cases ‹_›
  · exact absurd (List.cons.inj ‹_›).1 notClosing
  · rfl

theorem readItems_of_first (isBlank : Blanks blank)
    (unskipped : skipBlanks (c :: chars) = c :: chars) (notClosing : c ≠ ']') :
    readItems item (blank ++ c :: chars) =
      (item (c :: chars)).andThen fun first behind =>
        (readMoreItems item (behind.length + 1) behind).mapValue (first :: ·) := by
  rw [readItems, skipBlanks_append isBlank, unskipped]
  split
  · cases ‹_›
  · exact absurd (List.cons.inj ‹_›).1 notClosing
  · rfl

variable {items : List Json} {found : Json → Option α}

/-- Items are read back by a reader that reads each of them back. -/
theorem toOption_readMoreItems (whole : ∀ value ∈ items, value.Everywhere IsWhole)
    (reads : ∀ value ∈ items, ∀ chars rest, Spells value chars → EndsNumber rest →
      (item (chars ++ rest)).toOption = (found value).map (·, rest))
    {more : List Char} (spells : SpellsMoreItems items more) {limit : Nat}
    (short : items.length < limit) (rest : List Char) :
    (readMoreItems item limit (more ++ rest)).toOption = (items.mapM found).map (·, rest) := by
  induction items generalizing limit more with
  | nil =>
      obtain ⟨limit, rfl⟩ := Nat.exists_eq_succ_of_ne_zero short.ne'
      cases spells with
      | close isBlank =>
          rw [List.append_assoc, readMoreItems, skipBlanks_append isBlank]
          rfl
  | cons value items ih =>
      obtain ⟨limit, rfl⟩ := Nat.exists_eq_succ_of_ne_zero (Nat.ne_zero_of_lt short)
      obtain ⟨readFirst, readOthers⟩ := List.forall_mem_cons.mp reads
      obtain ⟨wholeFirst, wholeOthers⟩ := List.forall_mem_cons.mp whole
      cases spells with
      | @comma _ _ gap blank firstChars more isGap isBlank spellsFirst spellsMore =>
          obtain ⟨c, chars, split, unskipped, notClosing, -⟩ :=
            exists_eq_cons_of_spells wholeFirst spellsFirst
          have first := readFirst _ (more ++ rest) spellsFirst (spellsMore.endsNumber rest)
          have others := ih wholeOthers readOthers spellsMore (Nat.lt_of_succ_lt_succ short)
          have comma : gap ++ ',' :: (blank ++ (firstChars ++ more)) ++ rest =
              gap ++ ',' :: (blank ++ c :: (chars ++ (more ++ rest))) := by
            simp [split]
          rw [comma, readMoreItems_comma isGap isBlank (unskipped _) notClosing,
            Reading.toOption_andThen, ← List.cons_append, ← split, first, List.mapM_cons]
          cases found value with
          | none => rfl
          | some first =>
              simp only [Option.map_some, Option.bind_some, Reading.toOption_mapValue, others]
              cases items.mapM found <;> rfl

/-- An array is read back by a reader that reads each of its items back. -/
theorem toOption_readItems (whole : ∀ value ∈ items, value.Everywhere IsWhole)
    (reads : ∀ value ∈ items, ∀ chars rest, Spells value chars → EndsNumber rest →
      (item (chars ++ rest)).toOption = (found value).map (·, rest))
    {chars : List Char} (spells : Spells (array items) chars) (rest : List Char) :
    ∃ inside, chars ++ rest = '[' :: inside ∧
      (readItems item inside).toOption = (items.mapM found).map (·, rest) := by
  cases spells with
  | scalar isScalar => exact isScalar.elim
  | @emptyArray blank isBlank =>
      refine ⟨blank ++ (']' :: rest), by simp, ?_⟩
      rw [readItems, skipBlanks_append isBlank]
      rfl
  | @array value items blank firstChars more isBlank spellsFirst spellsMore =>
      obtain ⟨readFirst, readOthers⟩ := List.forall_mem_cons.mp reads
      obtain ⟨wholeFirst, wholeOthers⟩ := List.forall_mem_cons.mp whole
      obtain ⟨c, chars, split, unskipped, notClosing, -⟩ :=
        exists_eq_cons_of_spells wholeFirst spellsFirst
      have first := readFirst _ (more ++ rest) spellsFirst (spellsMore.endsNumber rest)
      have short : items.length < (more ++ rest).length + 1 := by
        have := spellsMore.length_lt
        rw [List.length_append]
        omega
      have others := toOption_readMoreItems wholeOthers readOthers spellsMore short rest
      refine ⟨blank ++ c :: (chars ++ (more ++ rest)), by simp [split], ?_⟩
      rw [readItems_of_first isBlank (unskipped _) notClosing, Reading.toOption_andThen,
        ← List.cons_append, ← split, first, List.mapM_cons]
      cases found value with
      | none => rfl
      | some first =>
          simp only [Option.map_some, Option.bind_some, Reading.toOption_mapValue, others]
          cases items.mapM found <;> rfl

end Arrays

/-! ## Objects -/

section Objects

variable {reader : List Char → Reading Json} {gap blank chars rest : List Char} {key : String}

/-- A key is read up to what stands behind it, where blanks and a colon are skipped. -/
theorem exists_of_spellsKey {head : List Char} (spells : SpellsKey key head) (rest : List Char) :
    ∃ inside gap space, Blanks gap ∧ Blanks space ∧ head ++ rest = '"' :: inside ∧
      readQuoted inside = .ok (key, gap ++ ':' :: (space ++ rest)) := by
  obtain ⟨text, gap, space, spellsText, isGap, isSpace, rfl⟩ := spells
  obtain ⟨inside, split, read⟩ := exists_of_spellsText spellsText (gap ++ ':' :: (space ++ rest))
  exact ⟨inside, gap, space, isGap, isSpace, by simp [← split], read⟩

theorem readMember_of_key (isGap : Blanks gap)
    (read : readQuoted chars = .ok (key, gap ++ ':' :: rest)) :
    readMember reader chars = (reader rest).mapValue (key, ·) := by
  have colon : skipBlanks (':' :: rest) = ':' :: rest := rfl
  simp only [readMember, read, Reading.andThen, skipBlanks_append isGap, colon]

theorem readMoreMembers_comma (isGap : Blanks gap) (isBlank : Blanks blank) (limit : Nat) :
    readMoreMembers reader (limit + 1) (gap ++ ',' :: (blank ++ '"' :: chars)) =
      (readMember reader chars).andThen fun first behind =>
        (readMoreMembers reader limit behind).mapValue (first :: ·) := by
  have comma : skipBlanks (',' :: (blank ++ '"' :: chars)) = ',' :: (blank ++ '"' :: chars) := rfl
  simp only [readMoreMembers, skipBlanks_append isGap, comma, skipBlanks_append isBlank]
  rfl

theorem readMembers_of_first (isBlank : Blanks blank) :
    readMembers reader (blank ++ '"' :: chars) =
      (readMember reader chars).andThen fun first behind =>
        (readMoreMembers reader (behind.length + 1) behind).mapValue (first :: ·) := by
  rw [readMembers, skipBlanks_append isBlank]
  rfl

variable {depth : Nat} {members : List (String × Json)}

/-- Members are read back by a reader that reads each of their values back. -/
theorem toOption_readMoreMembers
    (reads : ∀ member ∈ members, ∀ space chars rest, Blanks space → Spells member.2 chars →
      EndsNumber rest →
      (reader (space ++ (chars ++ rest))).toOption = (readBack depth member.2).map (·, rest))
    {more : List Char} (spells : SpellsMoreMembers members more) {limit : Nat}
    (short : members.length < limit) (rest : List Char) :
    (readMoreMembers reader limit (more ++ rest)).toOption =
      (members.mapM (readBackMember depth)).map (·, rest) := by
  induction members generalizing limit more with
  | nil =>
      obtain ⟨limit, rfl⟩ := Nat.exists_eq_succ_of_ne_zero short.ne'
      cases spells with
      | close isBlank =>
          rw [List.append_assoc, readMoreMembers, skipBlanks_append isBlank]
          rfl
  | cons member members ih =>
      obtain ⟨limit, rfl⟩ := Nat.exists_eq_succ_of_ne_zero (Nat.ne_zero_of_lt short)
      obtain ⟨readFirst, readOthers⟩ := List.forall_mem_cons.mp reads
      cases spells with
      | @comma key value _ gap blank head firstChars more isGap isBlank spellsKey spellsFirst
          spellsMore =>
          have others := ih readOthers spellsMore (Nat.lt_of_succ_lt_succ short)
          obtain ⟨inside, keyGap, space, isKeyGap, isSpace, split, readKey⟩ :=
            exists_of_spellsKey spellsKey (firstChars ++ (more ++ rest))
          have first := readFirst space _ (more ++ rest) isSpace spellsFirst
            (spellsMore.endsNumber rest)
          have comma : gap ++ ',' :: (blank ++ (head ++ (firstChars ++ more))) ++ rest =
              gap ++ ',' :: (blank ++ '"' :: inside) := by
            simp [← split]
          rw [comma, readMoreMembers_comma isGap isBlank, readMember_of_key isKeyGap readKey,
            Reading.toOption_andThen, Reading.toOption_mapValue, first, List.mapM_cons,
            readBackMember]
          cases readBack depth value with
          | none => rfl
          | some first =>
              simp only [Option.map_some, Option.bind_some, Reading.toOption_mapValue, others]
              cases members.mapM (readBackMember depth) <;> rfl

theorem spellsText_of_spells {text : String} (spells : Spells (string text) chars) :
    SpellsText text chars := by
  cases spells with
  | scalar => exact spellsText_quoted text
  | text spells => exact spells

/-- Only a text is read behind the key of embedded texts. -/
theorem toOption_readEmbeddedText {value : Json} (whole : value.Everywhere IsWhole)
    (isBlank : Blanks blank) (spells : Spells value chars) (rest : List Char) :
    (readEmbeddedText (blank ++ (chars ++ rest))).toOption = value.toText?.map (·, rest) := by
  obtain ⟨c, others, split, unskipped, -, quote⟩ := exists_eq_cons_of_spells whole spells
  rw [readEmbeddedText, skipBlanks_append isBlank, split, List.cons_append, unskipped,
    ← List.cons_append, ← split]
  by_cases isQuote : c = '"'
  · obtain ⟨text, rfl⟩ := quote isQuote
    obtain ⟨inside, quoted_eq, read⟩ := exists_of_spellsText (spellsText_of_spells spells) rest
    rw [quoted_eq]
    exact congrArg Except.toOption read
  · rw [split, List.cons_append]
    have noText : value.toText? = none := by
      cases value with
      | string text =>
          obtain ⟨inside, -, rfl⟩ := spellsText_of_spells spells
          exact absurd (List.cons.inj split).1.symm isQuote
      | _ => rfl
    rw [noText]
    split
    · exact absurd (List.cons.inj ‹_›).1 isQuote
    · rfl

/-- Of an object that starts with the key of embedded texts, a text alone is read, as the value
that it denotes. -/
theorem toOption_readEmbedded {value : Json} (whole : value.Everywhere IsWhole)
    (isGap : Blanks gap) (isBlank : Blanks blank) (spells : Spells value chars)
    {more : List Char} (spellsMore : SpellsMoreMembers members more) (rest : List Char) :
    (readEmbedded parse (gap ++ ':' :: (blank ++ (chars ++ (more ++ rest))))).toOption =
      (object ((embeddedKey, value) :: members)).resolveEmbedded?.map fun resolved =>
        (resolved.sorted, rest) := by
  have colon : ∀ chars, skipBlanks (':' :: chars) = ':' :: chars := fun _ => rfl
  simp only [readEmbedded, skipBlanks_append isGap, colon, Reading.toOption_andThen,
    toOption_readEmbeddedText whole isBlank spells]
  cases value with
  | string text =>
      cases spellsMore with
      | @close inner isInner =>
          have closing : skipBlanks (inner ++ ['}'] ++ rest) = '}' :: rest := by
            rw [List.append_assoc, skipBlanks_append isInner]
            rfl
          have embeds : (object [(embeddedKey, string text)]).resolveEmbedded? =
              (parse text).toOption := rfl
          rw [embeds]
          cases parsed : parse text with
          | error error => simp [toText?, parsed, Except.toOption]
          | ok value =>
              have sorted : value.sorted = value := sorted_of_ascending (ascending_of_parse parsed)
              simp only [toText?, parsed, closing, sorted, Except.toOption, Option.map_some,
                Option.bind_some]
      | @comma key other members inner innerBlank head first more isInner =>
          obtain ⟨after, comma⟩ : ∃ after, skipBlanks
              (inner ++ ',' :: (innerBlank ++ (head ++ (first ++ more))) ++ rest) =
                ',' :: after := by
            rw [List.append_assoc, skipBlanks_append isInner]
            exact ⟨_, rfl⟩
          cases parsed : parse text with
          | error error => simp [toText?, parsed, resolveEmbedded?, embeddedValue?, Except.toOption]
          | ok value =>
              simp only [toText?, parsed, comma, resolveEmbedded?, embeddedValue?,
                Except.toOption, Option.map_some, Option.bind_some, if_true, Option.map_none]
  | _ => rfl

/-- The key of embedded texts is told apart from all others. -/
theorem behindEmbeddedKey?_of_first (isBlank : Blanks blank)
    (read : readQuoted chars = .ok (key, rest)) :
    behindEmbeddedKey? (blank ++ '"' :: chars) =
      if key = embeddedKey then some rest else none := by
  have quote : skipBlanks ('"' :: chars) = '"' :: chars := rfl
  simp only [behindEmbeddedKey?, skipBlanks_append isBlank, quote, read]

/-- An object embeds a value if the first of its keys is the one of embedded texts, and is then
read behind that key. -/
theorem behindEmbeddedKey?_of_spells (spells : Spells (object members) chars)
    {inside : List Char} (split : chars ++ rest = '{' :: inside) :
    (embeddedValue? members = none ∧ behindEmbeddedKey? inside = none) ∨
      ∃ value others gap space first more, members = (embeddedKey, value) :: others ∧
        Blanks gap ∧ Blanks space ∧ Spells value first ∧ SpellsMoreMembers others more ∧
        behindEmbeddedKey? inside = some (gap ++ ':' :: (space ++ (first ++ (more ++ rest)))) := by
  cases spells with
  | scalar isScalar => exact isScalar.elim
  | @emptyObject blank isBlank =>
      have inside_eq : inside = blank ++ '}' :: rest := by
        rw [← (List.cons.inj split).2]
        exact List.append_assoc blank ['}'] rest
      refine .inl ⟨rfl, ?_⟩
      rw [inside_eq, behindEmbeddedKey?, skipBlanks_append isBlank]
      rfl
  | @object key value others blank head first more isBlank spellsKey spellsFirst spellsMore =>
      obtain ⟨quoted, gap, space, isGap, isSpace, splitKey, readKey⟩ :=
        exists_of_spellsKey spellsKey (first ++ (more ++ rest))
      have inside_eq : inside = blank ++ '"' :: quoted := by
        rw [← (List.cons.inj split).2, ← splitKey]
        simp
      rw [inside_eq, behindEmbeddedKey?_of_first isBlank readKey]
      by_cases embeds : key = embeddedKey
      · subst embeds
        exact .inr ⟨value, others, gap, space, first, more, rfl, isGap, isSpace, spellsFirst,
          spellsMore, if_pos rfl⟩
      · exact .inl ⟨if_neg embeds, if_neg embeds⟩

/-- The members of an object are read back by a reader that reads each of their values back. -/
theorem toOption_readMembers
    (reads : ∀ member ∈ members, ∀ space chars rest, Blanks space → Spells member.2 chars →
      EndsNumber rest →
      (reader (space ++ (chars ++ rest))).toOption = (readBack depth member.2).map (·, rest))
    (spells : Spells (object members) chars) (rest : List Char) :
    ∃ inside, chars ++ rest = '{' :: inside ∧
      (readMembers reader inside).toOption =
        (members.mapM (readBackMember depth)).map (·, rest) := by
  cases spells with
  | scalar isScalar => exact isScalar.elim
  | @emptyObject blank isBlank =>
      refine ⟨blank ++ ('}' :: rest), by simp, ?_⟩
      rw [readMembers, skipBlanks_append isBlank]
      rfl
  | @object key value members blank head firstChars more isBlank spellsKey spellsFirst
      spellsMore =>
      obtain ⟨readFirst, readOthers⟩ := List.forall_mem_cons.mp reads
      have short : members.length < (more ++ rest).length + 1 := by
        have := spellsMore.length_lt
        rw [List.length_append]
        omega
      have others := toOption_readMoreMembers readOthers spellsMore short rest
      obtain ⟨inside, gap, space, isGap, isSpace, split, readKey⟩ :=
        exists_of_spellsKey spellsKey (firstChars ++ (more ++ rest))
      have first := readFirst space _ (more ++ rest) isSpace spellsFirst
        (spellsMore.endsNumber rest)
      refine ⟨blank ++ '"' :: inside, by simp [← split], ?_⟩
      rw [readMembers_of_first isBlank, readMember_of_key isGap readKey,
        Reading.toOption_andThen, Reading.toOption_mapValue, first, List.mapM_cons,
        readBackMember]
      cases readBack depth value with
      | none => rfl
      | some first =>
          simp only [Option.map_some, Option.bind_some, Reading.toOption_mapValue, others]
          cases members.mapM (readBackMember depth) <;> rfl

end Objects

/-! ## Values -/

section Values

variable {parseText : String → Except ReadError Json}

theorem readValueWith_scalar {c : Char} (starts : c ∉ notScalar) (depth : Nat)
    (rest : List Char) : readValueWith parseText depth (c :: rest) = readScalar (c :: rest) := by
  have unskipped := skipBlanks_cons starts rest
  simp only [notScalar, List.mem_cons, not_or] at starts
  cases depth <;> simp only [readValueWith, unskipped] <;> split <;> simp_all

theorem readValueWith_append {blank : List Char} (isBlank : Blanks blank) (depth : Nat)
    (chars : List Char) :
    readValueWith parseText depth (blank ++ chars) = readValueWith parseText depth chars := by
  cases depth <;> simp only [readValueWith, skipBlanks_append isBlank]

end Values

/-- A value without items and members is read from each of its spellings. -/
theorem toOption_readValueWith_scalar {value : Json} (isScalar : value.IsScalar)
    (isWhole : value.IsWhole) {chars : List Char} (spells : Spells value chars) (depth : Nat)
    {rest : List Char} (ends : EndsNumber rest) :
    (readValueWith parse depth (chars ++ rest)).toOption = some (value, rest) := by
  cases spells with
  | scalar =>
      obtain ⟨c, others, split, starts, -⟩ := exists_scalarText_eq_cons isScalar isWhole
      rw [split, List.cons_append, readValueWith_scalar starts, ← List.cons_append, ← split,
        readScalar_scalarText isScalar isWhole ends]
      rfl
  | @text text _ spells =>
      obtain ⟨inside, split, read⟩ := exists_of_spellsText spells rest
      rw [split, readValueWith_scalar (by decide), readScalar, read]
      rfl
  | emptyArray => exact isScalar.elim
  | array => exact isScalar.elim
  | emptyObject => exact isScalar.elim
  | object => exact isScalar.elim

/-- A value is read back from each of its spellings, unless it is too deep or embeds what cannot
be read. -/
theorem toOption_readValueWith {value : Json} (whole : value.Everywhere IsWhole)
    {chars : List Char} (spells : Spells value chars) (depth : Nat) {rest : List Char}
    (ends : EndsNumber rest) :
    (readValueWith parse depth (chars ++ rest)).toOption =
      (readBack depth value).map (·, rest) := by
  induction whole generalizing chars depth rest with
  | @scalar value isScalar isWhole =>
      rw [toOption_readValueWith_scalar isScalar isWhole spells depth ends,
        readBack_scalar isScalar]
      rfl
  | @array items _ within ih =>
      have reads (depth : Nat) : ∀ item ∈ items, ∀ chars rest, Spells item chars →
          EndsNumber rest → (readValueWith parse depth (chars ++ rest)).toOption =
            (readBack depth item).map (·, rest) :=
        fun item member chars rest spells ends => ih item member spells depth ends
      cases depth with
      | zero =>
          -- No bracket may be opened, so that the array is refused whatever its items are.
          obtain ⟨inside, split, -⟩ := toOption_readItems within (reads 0) spells rest
          rw [split]
          rfl
      | succ depth =>
          obtain ⟨inside, split, read⟩ := toOption_readItems within (reads depth) spells rest
          rw [split, readBack_array]
          change ((readItems (readValueWith parse depth) inside).mapValue array).toOption = _
          rw [Reading.toOption_mapValue, read]
          cases items.mapM (readBack depth) <;> rfl
  | @object members _ within ih =>
      have reads (depth : Nat) : ∀ member ∈ members, ∀ space chars rest, Blanks space →
          Spells member.2 chars → EndsNumber rest →
          (readValueWith parse depth (space ++ (chars ++ rest))).toOption =
            (readBack depth member.2).map (·, rest) := by
        intro member isMember space chars rest isSpace spells ends
        rw [readValueWith_append isSpace]
        exact ih member isMember spells depth ends
      cases depth with
      | zero =>
          obtain ⟨inside, split, -⟩ := toOption_readMembers (reads 0) spells rest
          rw [split]
          rfl
      | succ depth =>
          obtain ⟨inside, split, read⟩ := toOption_readMembers (reads depth) spells rest
          have opened : skipBlanks ('{' :: inside) = '{' :: inside := rfl
          -- The first key decides before any member is read.
          rcases behindEmbeddedKey?_of_spells spells split with ⟨plain, isPlain⟩ |
            ⟨value, others, gap, space, first, more, rfl, isGap, isSpace, spellsFirst, spellsMore,
              isEmbedded⟩
          · simp only [split, readValueWith, opened, isPlain, Reading.toOption_mapValue, read,
              readBack_object depth plain]
            cases members.mapM (readBackMember depth) <;> rfl
          · have wholeFirst := within _ List.mem_cons_self
            simp only [split, readValueWith, opened, isEmbedded, readBack_embedded,
              toOption_readEmbedded wholeFirst isGap isSpace spellsFirst spellsMore,
              Option.map_map]
            rfl

/-! ## Whole texts -/

theorem endsNumber_nil : EndsNumber [] := nofun

theorem toOption_readAll {α : Type} {reader : List Char → Reading α} {text : String}
    {found : Option α} {after : List Char} (isBlank : Blanks after)
    (read : (reader text.toList).toOption = found.map (·, after)) :
    (readAll reader text).toOption = found := by
  simp only [readAll]
  generalize reader text.toList = reading at read
  rcases reading with fault | ⟨value, rest⟩
  · cases found with
    | none => rfl
    | some value => cases read
  · cases found with
    | none => cases read
    | some value =>
        cases read
        simp only [isBlank.skipBlanks_eq]
        rfl

/-- A value is read back from each text that spells it. -/
theorem toOption_parse_of_spelledBy {value : Json} (whole : value.Everywhere IsWhole)
    {text : String} (spelled : value.SpelledBy text) :
    (parse text).toOption = readBack maxDepth value := by
  obtain ⟨before, chars, after, isBefore, spells, isAfter, split⟩ := spelled
  rw [parse_eq]
  refine toOption_readAll isAfter ?_
  have ends := endsNumber_append isAfter endsNumber_nil
  rw [List.append_nil] at ends
  rw [split, readValueWith_append isBefore, toOption_readValueWith whole spells maxDepth ends]

end ExecutorRegistration.Json
