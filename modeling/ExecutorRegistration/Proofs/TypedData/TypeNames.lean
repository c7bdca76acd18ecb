import ExecutorRegistration.Proofs.Text.Digits
import ExecutorRegistration.TypedData.TypeName
import Mathlib.Data.List.TakeWhile

/-!
# Which texts name which types

A type is named by an elementary name or by an enumeration with its scope, followed by any number
of array suffixes. A name that is taken apart resolves to a type if it names it.
-/

namespace ExecutorRegistration.TypedData

open Text

/-! ## Names -/

/-- An identifier: a letter, `$` or `_`, followed by these, digits and colons. -/
def IsIdentifier : List Char → Prop
  | [] => False
  | first :: rest => isNameStart first = true ∧ ∀ c ∈ rest, isNamePart c = true

instance : DecidablePred IsIdentifier
  | [] => inferInstanceAs (Decidable False)
  | first :: rest =>
    decidable_of_iff ((isNameStart first && rest.all isNamePart) = true)
      (by simp [IsIdentifier, List.all_eq_true])

/-- The name of an elementary type. -/
inductive NamesElementary : String → ValueType → Prop where
  | address : NamesElementary "address" .address
  | bool : NamesElementary "bool" .bool
  | string : NamesElementary "string" .string
  | bytes : NamesElementary "bytes" .bytes
  | function : NamesElementary "function" .function
  | uint : NamesElementary "uint" (.uint 256)
  | int : NamesElementary "int" (.int 256)
  | uintBits {digits : String} {bits : Nat} (number : DenotesNumber 10 digits.toList bits)
      (positive : 0 < bits) (most : bits ≤ 256) (octets : bits % 8 = 0) :
      NamesElementary ("uint" ++ digits) (.uint bits)
  | intBits {digits : String} {bits : Nat} (number : DenotesNumber 10 digits.toList bits)
      (positive : 0 < bits) (most : bits ≤ 256) (octets : bits % 8 = 0) :
      NamesElementary ("int" ++ digits) (.int bits)
  | fixedBytes {digits : String} {size : Nat} (number : DenotesNumber 10 digits.toList size)
      (positive : 0 < size) (most : size ≤ 32) :
      NamesElementary ("bytes" ++ digits) (.fixedBytes size)

/-- The name of a type: an elementary name, or an identifier with a dot and perhaps another
identifier, which stands for an enumeration, and array suffixes. -/
inductive NamesType : String → ValueType → Prop where
  | elementary {name : String} {type : ValueType} (isName : NamesElementary name type) :
      NamesType name type
  | enumeration {scope member : String} (isScope : IsIdentifier scope.toList)
      (isMember : member = "" ∨ IsIdentifier member.toList) :
      NamesType (scope ++ "." ++ member) (.uint 8)
  | list {name : String} {item : ValueType} (isItem : NamesType name item) :
      NamesType (name ++ "[]") (.list item)
  | fixedList {name digits : String} {item : ValueType} {length : Nat}
      (isItem : NamesType name item) (number : DenotesNumber 10 digits.toList length)
      (positive : 0 < length) (small : length < 2 ^ 64) :
      NamesType (name ++ "[" ++ digits ++ "]") (.fixedList item length)

/-! ## Elementary names -/

theorem numberBehind?_eq_some_iff (word identifier : String) (number : Nat) :
    numberBehind? word identifier = some number ↔
      ∃ digits : String, digits ≠ "" ∧ identifier = word ++ digits ∧
        DenotesNumber 10 digits.toList number := by
  have reads : ∀ value c next,
      (decimalDigit? c).map (10 * value + ·) = some next ↔
        ∃ digit, IsDigit 10 c digit ∧ next = 10 * value + digit := by
    intro value c next
    simp only [Option.map_eq_some_iff, decimalDigit?_eq_some_iff, eq_comm (a := next)]
  unfold numberBehind?
  dsimp only
  split_ifs with starts
  · rw [foldlM_zero_eq_some_iff reads]
    obtain ⟨front, nonempty⟩ := starts
    obtain ⟨digits, split⟩ := List.isPrefixOf_iff_prefix.mp front
    have behind : identifier.toList.drop word.length = digits := by
      rw [← split, ← String.length_toList, List.drop_left]
    rw [behind] at nonempty ⊢
    constructor
    · intro denotes
      refine ⟨String.ofList digits, fun isEmpty => nonempty ?_, ?_, ?_⟩
      · rw [← String.toList_ofList (l := digits), isEmpty, String.toList_empty]
      · rw [← String.toList_inj, String.toList_append, String.toList_ofList, split]
      · rwa [String.toList_ofList]
    · rintro ⟨found, -, rfl, denotes⟩
      rw [String.toList_append] at split
      rwa [List.append_cancel_left split]
  · rw [false_iff]
    rintro ⟨digits, nonempty, rfl, -⟩
    refine starts ⟨?_, fun isEmpty => nonempty ?_⟩
    · rw [List.isPrefixOf_iff_prefix, String.toList_append]
      exact List.prefix_append _ _
    · rw [String.toList_append, ← String.length_toList, List.drop_left] at isEmpty
      rw [← String.toList_inj, isEmpty, String.toList_empty]

theorem numberBehind?_eq_some_iff_of_pos (word identifier : String) {number : Nat}
    (positive : 0 < number) :
    numberBehind? word identifier = some number ↔
      ∃ digits : String, identifier = word ++ digits ∧ DenotesNumber 10 digits.toList number := by
  rw [numberBehind?_eq_some_iff]
  constructor
  · rintro ⟨digits, -, split, denotes⟩
    exact ⟨digits, split, denotes⟩
  · rintro ⟨digits, split, denotes⟩
    refine ⟨digits, ?_, split, denotes⟩
    rintro rfl
    exact denotes.ne_nil positive String.toList_empty

theorem bitsBehind?_eq_some_iff (word identifier : String) (bits : Nat) :
    bitsBehind? word identifier = some bits ↔
      (0 < bits ∧ bits ≤ 256 ∧ bits % 8 = 0) ∧
        ∃ digits : String, identifier = word ++ digits ∧ DenotesNumber 10 digits.toList bits := by
  simp only [bitsBehind?, Option.filter_eq_some_iff, Bool.and_eq_true, decide_eq_true_eq, and_assoc]
  constructor
  · rintro ⟨number, positive, most, octets⟩
    exact ⟨positive, most, octets, (numberBehind?_eq_some_iff_of_pos _ _ positive).mp number⟩
  · rintro ⟨positive, most, octets, number⟩
    exact ⟨(numberBehind?_eq_some_iff_of_pos _ _ positive).mpr number, positive, most, octets⟩

theorem sizeBehind?_eq_some_iff (identifier : String) (size : Nat) :
    (numberBehind? "bytes" identifier).filter (fun size => 0 < size && size ≤ 32) = some size ↔
      (0 < size ∧ size ≤ 32) ∧
        ∃ digits : String, identifier = "bytes" ++ digits ∧
          DenotesNumber 10 digits.toList size := by
  simp only [Option.filter_eq_some_iff, Bool.and_eq_true, decide_eq_true_eq]
  constructor
  · rintro ⟨number, positive, most⟩
    exact ⟨⟨positive, most⟩, (numberBehind?_eq_some_iff_of_pos _ _ positive).mp number⟩
  · rintro ⟨⟨positive, most⟩, number⟩
    exact ⟨(numberBehind?_eq_some_iff_of_pos _ _ positive).mpr number, positive, most⟩

theorem elementary?_append_digits (word : String) {digits : String} {number : Nat}
    (denotes : DenotesNumber 10 digits.toList number) (positive : 0 < number) :
    elementary? (word ++ digits) =
      ((bitsBehind? "uint" (word ++ digits)).map ValueType.uint).orElse fun _ =>
      ((bitsBehind? "int" (word ++ digits)).map ValueType.int).orElse fun _ =>
      ((numberBehind? "bytes" (word ++ digits)).filter fun size => 0 < size && size ≤ 32).map
        ValueType.fixedBytes := by
  obtain ⟨last, last_eq⟩ := Option.ne_none_iff_exists'.mp
    (mt List.getLast?_eq_none_iff.mp (denotes.ne_nil positive))
  have isDigit := denotes.bounds last (List.mem_of_getLast? last_eq)
  -- The names without a number do not end in a digit, so none of them is this one.
  have differs : ∀ name ∈ ["address", "bool", "string", "bytes", "function", "uint", "int"],
      word ++ digits ≠ name := by
    intro name member same
    have name_last : name.toList.getLast? = some last := by
      rw [← same, String.toList_append, List.getLast?_append, last_eq, Option.some_or]
    have plain : ∀ name ∈ ["address", "bool", "string", "bytes", "function", "uint", "int"],
        (name.toList.getLast?.all fun c => !('0' ≤ c && c ≤ '9')) = true := by
      decide
    have tested := plain name member
    rw [name_last] at tested
    simp [isDigit] at tested
  unfold elementary?
  simp only [differs _ (by decide : "address" ∈ _), differs _ (by decide : "bool" ∈ _),
    differs _ (by decide : "string" ∈ _), differs _ (by decide : "bytes" ∈ _),
    differs _ (by decide : "function" ∈ _), differs _ (by decide : "uint" ∈ _),
    differs _ (by decide : "int" ∈ _), if_false]

theorem bitsBehind?_append_of_ne {word other : String} (digits : String)
    (differ : word.toList.head? ≠ other.toList.head?) (nonempty : other.toList ≠ [])
    (nonempty' : word.toList ≠ []) :
    bitsBehind? word (other ++ digits) = none := by
  rw [Option.eq_none_iff_forall_ne_some]
  intro bits found
  obtain ⟨-, behind, same, -⟩ := (bitsBehind?_eq_some_iff _ _ _).mp found
  have heads := congrArg (fun text : String => text.toList.head?) same
  simp only [String.toList_append, List.head?_append_of_ne_nil _ nonempty,
    List.head?_append_of_ne_nil _ nonempty'] at heads
  exact differ heads.symm

/-- The elementary types are those with an elementary name. -/
theorem elementary?_eq_some_iff (identifier : String) (type : ValueType) :
    elementary? identifier = some type ↔ NamesElementary identifier type := by
  constructor
  · intro found
    unfold elementary? at found
    split_ifs at found with address bool string bytes function uint int
    · cases found; exact address ▸ .address
    · cases found; exact bool ▸ .bool
    · cases found; exact string ▸ .string
    · cases found; exact bytes ▸ .bytes
    · cases found; exact function ▸ .function
    · cases found; exact uint ▸ .uint
    · cases found; exact int ▸ .int
    · simp only [Option.orElse_eq_or, Option.or_eq_some_iff, Option.map_eq_some_iff,
        bitsBehind?_eq_some_iff, sizeBehind?_eq_some_iff] at found
      obtain ⟨bits, ⟨⟨positive, most, octets⟩, digits, rfl, number⟩, rfl⟩ |
        ⟨-, ⟨bits, ⟨⟨positive, most, octets⟩, digits, rfl, number⟩, rfl⟩ |
          ⟨-, size, ⟨⟨positive, most⟩, digits, rfl, number⟩, rfl⟩⟩ := found
      · exact .uintBits number positive most octets
      · exact .intBits number positive most octets
      · exact .fixedBytes number positive most
  · intro names
    cases names with
    | uintBits number positive most octets =>
        rw [elementary?_append_digits _ number positive,
          (bitsBehind?_eq_some_iff _ _ _).mpr ⟨⟨positive, most, octets⟩, _, rfl, number⟩]
        rfl
    | intBits number positive most octets =>
        rw [elementary?_append_digits _ number positive,
          bitsBehind?_append_of_ne _ (by decide) (by decide) (by decide),
          (bitsBehind?_eq_some_iff _ _ _).mpr ⟨⟨positive, most, octets⟩, _, rfl, number⟩]
        rfl
    | fixedBytes number positive most =>
        rw [elementary?_append_digits _ number positive,
          bitsBehind?_append_of_ne _ (by decide) (by decide) (by decide),
          bitsBehind?_append_of_ne _ (by decide) (by decide) (by decide),
          (sizeBehind?_eq_some_iff _ _).mpr ⟨⟨positive, most⟩, _, rfl, number⟩]
        rfl
    | _ => rfl

theorem not_namesElementary {name : String} (isOther : elementary? name = none)
    (type : ValueType) : ¬ NamesElementary name type := by
  intro isName
  rw [← elementary?_eq_some_iff, isOther] at isName
  cases isName

/-! ## Suffixes -/

/-- Array suffixes in a row, each with its length if it has one. -/
inductive Suffixes : List Char → List (Option Nat) → Prop where
  | nil : Suffixes [] []
  | list {rest : List Char} {sizes : List (Option Nat)} (isRest : Suffixes rest sizes) :
      Suffixes ('[' :: ']' :: rest) (none :: sizes)
  | fixedList {digits rest : List Char} {length : Nat} {sizes : List (Option Nat)}
      (number : DenotesNumber 10 digits length) (positive : 0 < length)
      (small : length < 2 ^ 64) (isRest : Suffixes rest sizes) :
      Suffixes ('[' :: (digits ++ ']' :: rest)) (some length :: sizes)

theorem Suffixes.append {left right : List Char} {leftSizes rightSizes : List (Option Nat)}
    (isLeft : Suffixes left leftSizes) (isRight : Suffixes right rightSizes) :
    Suffixes (left ++ right) (leftSizes ++ rightSizes) := by
  induction isLeft with
  | nil => exact isRight
  | list isRest ih => exact .list ih
  | fixedList number positive small isRest ih =>
      rw [List.cons_append, List.append_assoc]
      exact .fixedList number positive small ih

theorem Suffixes.starts {text : List Char} {sizes : List (Option Nat)}
    (isText : Suffixes text sizes) : text = [] ∨ ∃ behind, text = '[' :: behind := by
  cases isText with
  | nil => exact .inl rfl
  | list => exact .inr ⟨_, rfl⟩
  | fixedList => exact .inr ⟨_, rfl⟩

/-- The length of a suffix with one more digit. -/
def lengthWith (size : Option Nat) (digit : Nat) : Option Nat := some (10 * size.getD 0 + digit)

theorem foldl_lengthWith (digits : List Nat) (size : Nat) :
    digits.foldl lengthWith (some size) =
      some (digits.foldl (fun value digit => 10 * value + digit) size) := by
  induction digits generalizing size with
  | nil => rfl
  | cons digit digits ih => exact ih _

theorem foldl_lengthWith_none (digits : List Nat) (nonempty : digits ≠ []) :
    digits.foldl lengthWith none = some (Nat.ofDigits 10 digits.reverse) := by
  cases digits with
  | nil => exact absurd rfl nonempty
  | cons digit digits =>
      rw [← foldl_eq_ofDigits]
      exact foldl_lengthWith digits _

theorem readSizes?_close (size : Option Nat) (rest : List Char) :
    readSizes? (some size) (']' :: rest) =
      if size = some 0 then none
      else (readSizes? none rest).map fun (sizes, behind) => (size :: sizes, behind) := by
  conv_lhs => rw [readSizes?]
  exact if_pos rfl

theorem readSizes?_digit {c : Char} {digit : Nat} (isDigit : IsDigit 10 c digit)
    (size : Option Nat) (rest : List Char) :
    readSizes? (some size) (c :: rest) =
      if 10 * size.getD 0 + digit < UInt64.size then readSizes? (some (lengthWith size digit)) rest
      else none := by
  have inside : c ≠ ']' := by
    rintro rfl
    exact absurd isDigit.bounds (by decide)
  conv_lhs => rw [readSizes?]
  rw [if_neg inside, (decimalDigit?_eq_some_iff c digit).mpr isDigit]
  rfl

/-- A suffix whose digits denote a length that fits is read. -/
theorem readSizes?_append_close {front : List Char} {digits : List Nat}
    (areDigits : List.Forall₂ (IsDigit 10) front digits) (size : Option Nat) (rest : List Char)
    (positive : digits.foldl lengthWith size ≠ some 0)
    (small : digits ≠ [] → (digits.foldl lengthWith size).getD 0 < UInt64.size) :
    readSizes? (some size) (front ++ ']' :: rest) =
      (readSizes? none rest).map fun (sizes, behind) =>
        (digits.foldl lengthWith size :: sizes, behind) := by
  induction areDigits generalizing size with
  | nil =>
      rw [List.foldl_nil] at positive
      rw [List.nil_append, readSizes?_close, if_neg positive, List.foldl_nil]
  | @cons c digit front digits isDigit areDigits ih =>
      -- The length is tested at each digit, and at none of them exceeds the final one.
      have final := small (List.cons_ne_nil _ _)
      have within : 10 * size.getD 0 + digit < UInt64.size := by
        rw [List.foldl_cons, lengthWith, foldl_lengthWith] at final
        exact (le_foldl_digits digits _).trans_lt final
      rw [List.cons_append, readSizes?_digit isDigit, if_pos within]
      exact ih _ positive fun _ => final

/-- A suffix that is read has digits that denote a length that fits. -/
theorem exists_of_readSizes? {size : Option Nat} {text behind : List Char}
    {sizes : List (Option Nat)} (read : readSizes? (some size) text = some (sizes, behind)) :
    ∃ front digits rest others, text = front ++ ']' :: rest ∧
      List.Forall₂ (IsDigit 10) front digits ∧ sizes = digits.foldl lengthWith size :: others ∧
      readSizes? none rest = some (others, behind) ∧ digits.foldl lengthWith size ≠ some 0 ∧
      (digits ≠ [] → (digits.foldl lengthWith size).getD 0 < UInt64.size) := by
  induction text generalizing size with
  | nil => simp [readSizes?] at read
  | cons c text ih =>
      by_cases closes : c = ']'
      · subst closes
        rw [readSizes?_close] at read
        split_ifs at read with isZero
        obtain ⟨⟨others, _⟩, rest_eq, pair_eq⟩ := Option.map_eq_some_iff.mp read
        cases pair_eq
        exact ⟨[], [], text, others, rfl, .nil, rfl, rest_eq, isZero, absurd rfl⟩
      · cases digit_eq : decimalDigit? c with
        | none => simp [readSizes?, closes, digit_eq] at read
        | some digit =>
            have isDigit := (decimalDigit?_eq_some_iff c digit).mp digit_eq
            rw [readSizes?_digit isDigit] at read
            split_ifs at read with within
            obtain ⟨front, digits, rest, others, rfl, areDigits, sizes_eq, rest_eq, positive,
              small⟩ := ih read
            refine ⟨c :: front, digit :: digits, rest, others, rfl, .cons isDigit areDigits,
              sizes_eq, rest_eq, positive, fun _ => ?_⟩
            -- If this digit is the last one, its own test bounds the length.
            cases digits with
            | nil => exact within
            | cons next digits => exact small (List.cons_ne_nil _ _)

theorem readSizes?_none_of_head? {text : List Char} (other : text.head? ≠ some '[') :
    readSizes? none text = some ([], text) := by
  cases text with
  | nil => rfl
  | cons c text =>
      unfold readSizes?
      split <;> simp_all

/-- The suffixes that are read are all those of a text. -/
theorem readSizes?_none_eq_some_iff (text : List Char) (sizes : List (Option Nat)) :
    readSizes? none text = some (sizes, []) ↔ Suffixes text sizes := by
  constructor
  · intro read
    induction sizes generalizing text with
    | nil =>
        by_cases opens : text.head? = some '['
        · obtain ⟨rest, rfl⟩ := List.head?_eq_some_iff.mp opens
          rw [readSizes?] at read
          obtain ⟨_, _, _, _, _, _, sizes_eq, _⟩ := exists_of_readSizes? read
          cases sizes_eq
        · rw [readSizes?_none_of_head? opens] at read
          cases read
          exact .nil
    | cons size sizes ih =>
        by_cases opens : text.head? = some '['
        · obtain ⟨rest, rfl⟩ := List.head?_eq_some_iff.mp opens
          rw [readSizes?] at read
          obtain ⟨front, digits, rest, others, rfl, areDigits, sizes_eq, rest_eq, positive,
            small⟩ := exists_of_readSizes? read
          obtain ⟨rfl, rfl⟩ := List.cons.inj sizes_eq
          cases areDigits with
          | nil => exact .list (ih _ rest_eq)
          | cons isDigit areDigits =>
              have small := small (List.cons_ne_nil _ _)
              rw [foldl_lengthWith_none _ (List.cons_ne_nil _ _)] at positive small ⊢
              exact .fixedList ⟨_, .cons isDigit areDigits, rfl⟩
                (Nat.pos_of_ne_zero fun isZero => positive (congrArg some isZero)) small
                (ih _ rest_eq)
        · rw [readSizes?_none_of_head? opens] at read
          cases read
  · intro isText
    induction isText with
    | nil => rfl
    | list isRest ih =>
        rw [readSizes?]
        refine (readSizes?_append_close .nil none _ (by simp) (absurd rfl)).trans ?_
        rw [ih]
        rfl
    | fixedList number positive small isRest ih =>
        have nonempty := number.ne_nil positive
        obtain ⟨digits, areDigits, rfl⟩ := number
        have digits_ne : digits ≠ [] := by
          rintro rfl
          exact nonempty (List.forall₂_nil_right_iff.mp areDigits)
        have length_eq := foldl_lengthWith_none digits digits_ne
        rw [readSizes?, readSizes?_append_close areDigits none _
          (by rw [length_eq]; simpa using positive.ne') (fun _ => by rw [length_eq]; exact small),
          ih, length_eq]
        rfl

/-! ## Stems -/

/-- The text of a stem that is no tuple. -/
def IsStem : Stem → List Char → Prop
  | .identifier, text => IsIdentifier text
  | .dotted, text => ∃ scope member, text = scope ++ '.' :: member ∧ IsIdentifier scope ∧
      (member = [] ∨ IsIdentifier member)
  | .tuple, _ => False

theorem IsIdentifier.isNamePart {text : List Char} (isName : IsIdentifier text) :
    ∀ c ∈ text, isNamePart c = true := by
  cases text with
  | nil => exact isName.elim
  | cons first rest =>
      refine List.forall_mem_cons.mpr ⟨?_, isName.2⟩
      rw [TypedData.isNamePart, isName.1]
      rfl

theorem IsIdentifier.not_mem {text : List Char} (isName : IsIdentifier text) {c : Char}
    (isNoPart : TypedData.isNamePart c = false) : c ∉ text :=
  fun member => Bool.false_ne_true (isNoPart.symm.trans (isName.isNamePart c member))

theorem IsIdentifier.append {name rest : List Char} (isName : IsIdentifier name)
    (areParts : ∀ c ∈ rest, TypedData.isNamePart c = true) : IsIdentifier (name ++ rest) := by
  cases name with
  | nil => exact isName.elim
  | cons first name => exact ⟨isName.1, List.forall_mem_append.mpr ⟨isName.2, areParts⟩⟩

theorem IsStem.isNamePart {stem : Stem} {text : List Char} (isStem : IsStem stem text) :
    ∀ c ∈ text, TypedData.isNamePart c = true ∨ c = '.' := by
  cases stem with
  | identifier => exact fun c member => .inl (IsIdentifier.isNamePart isStem c member)
  | dotted =>
      obtain ⟨scope, member, rfl, isScope, isMember⟩ := isStem
      intro c found
      rcases List.mem_append.mp found with inScope | behind
      · exact .inl (isScope.isNamePart c inScope)
      · rcases List.mem_cons.mp behind with isDot | inMember
        · exact .inr isDot
        · rcases isMember with rfl | isMember
          · cases inMember
          · exact .inl (isMember.isNamePart c inMember)
  | tuple => exact isStem.elim

theorem IsStem.not_mem {stem : Stem} {text : List Char} (isStem : IsStem stem text) {c : Char}
    (isNoPart : TypedData.isNamePart c = false) (isNoDot : c ≠ '.') : c ∉ text := by
  intro member
  rcases isStem.isNamePart c member with isPart | isDot
  · exact Bool.false_ne_true (isNoPart.symm.trans isPart)
  · exact isNoDot isDot

theorem behindIdentifier?_append {name rest : List Char} (isName : IsIdentifier name)
    (ends : rest.head?.all (fun c => !isNamePart c) = true) :
    behindIdentifier? (name ++ rest) = some rest := by
  cases name with
  | nil => exact isName.elim
  | cons first name =>
      rw [List.cons_append, behindIdentifier?, if_pos isName.1,
        List.dropWhile_append_of_pos isName.2]
      cases rest with
      | nil => rfl
      | cons c rest =>
          rw [List.head?_cons, Option.all_some, Bool.not_eq_true'] at ends
          rw [List.dropWhile_cons_of_neg (by simp [ends])]

theorem exists_of_behindIdentifier? {text rest : List Char}
    (read : behindIdentifier? text = some rest) :
    ∃ name, IsIdentifier name ∧ text = name ++ rest := by
  cases text with
  | nil => cases read
  | cons first text =>
      rw [behindIdentifier?] at read
      split_ifs at read with starts
      cases read
      refine ⟨first :: text.takeWhile isNamePart, ⟨starts, fun c => List.mem_takeWhile_imp⟩, ?_⟩
      rw [List.cons_append, List.takeWhile_append_dropWhile]

theorem readWords?_append {stem : Stem} {words rest : List Char} (isStem : IsStem stem words)
    (ends : rest = [] ∨ ∃ behind, rest = '[' :: behind) :
    readWords? (words ++ rest) = some (stem, rest) := by
  have noPart : rest.head?.all (fun c => !isNamePart c) = true := by
    obtain rfl | ⟨behind, rfl⟩ := ends <;> rfl
  unfold readWords?
  cases stem with
  | identifier =>
      rw [behindIdentifier?_append isStem noPart]
      obtain rfl | ⟨behind, rfl⟩ := ends <;> rfl
  | dotted =>
      obtain ⟨scope, member, rfl, isScope, isMember⟩ := isStem
      rw [List.append_assoc, List.cons_append, behindIdentifier?_append isScope rfl]
      change some (Stem.dotted, (behindIdentifier? (member ++ rest)).getD (member ++ rest)) = _
      rcases isMember with rfl | isMember
      · obtain rfl | ⟨behind, rfl⟩ := ends <;> rfl
      · rw [behindIdentifier?_append isMember noPart]
        rfl
  | tuple => exact isStem.elim

theorem exists_of_readWords? {text rest : List Char} {stem : Stem}
    (read : readWords? text = some (stem, rest)) :
    ∃ words, IsStem stem words ∧ text = words ++ rest := by
  unfold readWords? at read
  split at read
  · cases read
  next dotted scope_eq =>
    obtain ⟨scope, isScope, rfl⟩ := exists_of_behindIdentifier? scope_eq
    cases read
    cases member_eq : behindIdentifier? dotted with
    | none => exact ⟨scope ++ ['.'], ⟨scope, [], rfl, isScope, .inl rfl⟩, by simp⟩
    | some behind =>
        obtain ⟨member, isMember, rfl⟩ := exists_of_behindIdentifier? member_eq
        exact ⟨scope ++ '.' :: member, ⟨scope, member, rfl, isScope, .inr isMember⟩, by simp⟩
  next behind _ name_eq =>
    obtain ⟨name, isName, rfl⟩ := exists_of_behindIdentifier? name_eq
    cases read
    exact ⟨name, isName, rfl⟩

/-! ## Names of types -/

theorem tupleStart?_of_not_mem {text : List Char} (noParenthesis : '(' ∉ text) :
    tupleStart? text = none := by
  unfold tupleStart?
  split
  · exact (noParenthesis (by simp)).elim
  · exact (noParenthesis (by simp)).elim
  · rfl

theorem Suffixes.not_mem {text : List Char} {sizes : List (Option Nat)}
    (isText : Suffixes text sizes) {c : Char}
    (isOther : c ≠ '[' ∧ c ≠ ']' ∧ ¬ ('0' ≤ c ∧ c ≤ '9')) : c ∉ text := by
  obtain ⟨noOpening, noClosing, noDigit⟩ := isOther
  induction isText with
  | nil => exact List.not_mem_nil
  | list isRest ih => simp [noOpening, noClosing, ih]
  | @fixedList digits rest length sizes number positive small isRest ih =>
      have noDigits : c ∉ digits := fun member => noDigit (number.bounds c member)
      simp [noOpening, noClosing, noDigits, ih]

theorem readType?_of_words {text : List Char} (isWords : tupleStart? text = none) (depth : Nat) :
    readType? depth text = (readWords? text).bind fun (stem, rest) =>
      (readSizes? none rest).map fun (sizes, behind) => (stem, sizes, behind) := by
  unfold readType?
  simp only [isWords]

theorem stem_of_readType? {depth : Nat} {text inner behind : List Char} {stem : Stem}
    {sizes : List (Option Nat)} (isTuple : tupleStart? text = some inner)
    (read : readType? depth text = some (stem, sizes, behind)) : stem = .tuple := by
  cases depth with
  | zero => simp [readType?, isTuple] at read
  | succ depth =>
      unfold readType? at read
      simp only [isTuple, Option.bind_eq_some_iff, Option.map_eq_some_iff] at read
      obtain ⟨_, ⟨_, -, rfl⟩, _, -, read⟩ := read
      exact (Prod.mk.inj read).1.symm

theorem takeWhile_append_suffix {words rest : List Char} (noBracket : '[' ∉ words)
    (starts : rest = [] ∨ ∃ behind, rest = '[' :: behind) :
    (words ++ rest).takeWhile (· ≠ '[') = words := by
  have tested : ∀ c ∈ words, decide (c ≠ '[') = true := by
    intro c member
    refine decide_eq_true ?_
    rintro rfl
    exact noBracket member
  rw [List.takeWhile_append_of_pos tested]
  obtain rfl | ⟨behind, rfl⟩ := starts <;> simp

/-- A name that is no tuple is taken apart into its stem and its suffixes. -/
theorem TypeName.parse?_eq_some_iff (text : String) {name : TypeName}
    (isWords : name.stem ≠ .tuple) :
    parse? text = some name ↔ IsStem name.stem name.root.toList ∧
      ∃ suffixes, text.toList = name.root.toList ++ suffixes ∧ Suffixes suffixes name.sizes := by
  obtain ⟨root, stem, sizes⟩ := name
  have root_eq {words suffixes : List Char} (isStem : IsStem stem words)
      (isSuffixes : Suffixes suffixes sizes) :
      (words ++ suffixes).takeWhile (· ≠ '[') = words :=
    takeWhile_append_suffix (isStem.not_mem rfl (by decide)) isSuffixes.starts
  unfold parse?
  constructor
  · intro read
    split at read
    next found foundSizes read_eq =>
      cases read
      cases isTuple : tupleStart? text.toList with
      | some inner => exact absurd (stem_of_readType? isTuple read_eq) isWords
      | none =>
          rw [readType?_of_words isTuple] at read_eq
          obtain ⟨⟨_, rest⟩, words_eq, sizes_eq⟩ := Option.bind_eq_some_iff.mp read_eq
          obtain ⟨⟨_, _⟩, sizes_eq, pair_eq⟩ := Option.map_eq_some_iff.mp sizes_eq
          cases pair_eq
          obtain ⟨words, isStem, split⟩ := exists_of_readWords? words_eq
          have isSuffixes := (readSizes?_none_eq_some_iff _ _).mp sizes_eq
          dsimp only
          rw [split, root_eq isStem isSuffixes, String.toList_ofList]
          exact ⟨isStem, rest, rfl, isSuffixes⟩
    next => cases read
  · rintro ⟨isStem, suffixes, split, isSuffixes⟩
    have noTuple : tupleStart? text.toList = none := by
      apply tupleStart?_of_not_mem
      rw [split, List.mem_append, not_or]
      exact ⟨isStem.not_mem rfl (by decide), isSuffixes.not_mem (by decide)⟩
    rw [readType?_of_words noTuple, split, readWords?_append isStem isSuffixes.starts,
      Option.bind_some]
    dsimp only
    rw [(readSizes?_none_eq_some_iff _ _).mpr isSuffixes, Option.map_some]
    dsimp only
    rw [root_eq isStem isSuffixes, String.ofList_toList]

/-! ## Types with a name -/

theorem NamesElementary.isIdentifier {name : String} {type : ValueType}
    (isName : NamesElementary name type) : IsIdentifier name.toList := by
  have withDigits (word : String) {digits : String} {number : Nat}
      (isWord : IsIdentifier word.toList) (denotes : DenotesNumber 10 digits.toList number) :
      IsIdentifier (word ++ digits).toList := by
    rw [String.toList_append]
    refine isWord.append fun c member => ?_
    have bounds := denotes.bounds c member
    simp [isNamePart, bounds]
  cases isName with
  | uintBits number => exact withDigits "uint" (by decide) number
  | intBits number => exact withDigits "int" (by decide) number
  | fixedBytes number => exact withDigits "bytes" (by decide) number
  | _ => decide

/-- A stem stands for an elementary type if it is its name, or an enumeration. -/
theorem TypeName.element?_eq_some_iff (name : TypeName) (type : ValueType) :
    name.element? = some type ↔ name.stem = .identifier ∧ NamesElementary name.root type ∨
      name.stem = .dotted ∧ type = .uint 8 := by
  obtain ⟨root, stem, sizes⟩ := name
  cases stem with
  | identifier => simp [element?, elementary?_eq_some_iff]
  | dotted => simp [element?, eq_comm]
  | tuple => simp [element?]

theorem TypeName.stem_ne_tuple {name : TypeName} {type : ValueType}
    (isElement : name.element? = some type) : name.stem ≠ .tuple := by
  rcases (name.element?_eq_some_iff type).mp isElement with ⟨stem_eq, -⟩ | ⟨stem_eq, -⟩ <;>
    simp [stem_eq]

theorem TypeName.valueType?_eq_some_iff (name : TypeName) (type : ValueType) :
    name.valueType? = some type ↔
      ∃ base, name.element? = some base ∧ type = name.sizes.foldl ValueType.suffixed base := by
  simp only [valueType?, Option.map_eq_some_iff, eq_comm (a := type)]

theorem TypeName.exists_parse?_of_isStem {text : String} (stem : Stem) {base : ValueType}
    (isStem : IsStem stem text.toList) (isElement : element? ⟨text, stem, []⟩ = some base) :
    ∃ name, parse? text = some name ∧ name.valueType? = some base := by
  refine ⟨⟨text, stem, []⟩, ?_, (valueType?_eq_some_iff _ _).mpr ⟨base, isElement, rfl⟩⟩
  exact (parse?_eq_some_iff text (stem_ne_tuple isElement)).mpr
    ⟨isStem, [], (List.append_nil _).symm, .nil⟩

theorem TypeName.exists_parse?_append {text more : String} {item : ValueType} {size : Option Nat}
    (isMore : Suffixes more.toList [size])
    (isItem : ∃ name, parse? text = some name ∧ name.valueType? = some item) :
    ∃ name, parse? (text ++ more) = some name ∧ name.valueType? = some (item.suffixed size) := by
  obtain ⟨name, parsed, resolved⟩ := isItem
  obtain ⟨base, isElement, rfl⟩ := (name.valueType?_eq_some_iff item).mp resolved
  have isWords := stem_ne_tuple isElement
  obtain ⟨isStem, suffixes, split, isSuffixes⟩ := (parse?_eq_some_iff text isWords).mp parsed
  refine ⟨⟨name.root, name.stem, name.sizes ++ [size]⟩, ?_, ?_⟩
  · refine (@parse?_eq_some_iff _ ⟨name.root, name.stem, name.sizes ++ [size]⟩ isWords).mpr
      ⟨isStem, suffixes ++ more.toList, ?_, isSuffixes.append isMore⟩
    rw [String.toList_append, split, List.append_assoc]
  · refine (valueType?_eq_some_iff _ _).mpr ⟨base, isElement, ?_⟩
    rw [List.foldl_append]
    rfl

/-- A name stands for its stem's type with its suffixes. -/
theorem NamesType.suffixed {name : String} {type : ValueType} (isName : NamesType name type)
    {suffixes : List Char} {sizes : List (Option Nat)} (isSuffixes : Suffixes suffixes sizes) :
    NamesType (name ++ String.ofList suffixes) (sizes.foldl ValueType.suffixed type) := by
  induction isSuffixes generalizing name type with
  | nil => simpa using isName
  | @list rest sizes isRest ih =>
      have text_eq : name ++ String.ofList ('[' :: ']' :: rest) =
          name ++ "[]" ++ String.ofList rest := by
        simp [← String.toList_inj]
      rw [text_eq]
      exact ih isName.list
  | @fixedList digits rest length sizes number positive small isRest ih =>
      have text_eq : name ++ String.ofList ('[' :: (digits ++ ']' :: rest)) =
          name ++ "[" ++ String.ofList digits ++ "]" ++ String.ofList rest := by
        simp [← String.toList_inj]
      rw [text_eq]
      exact ih (isName.fixedList (by rwa [String.toList_ofList]) positive small)

/-- A text names a type if it is taken apart and what it is taken apart to stands for the type. -/
theorem namesType_iff (text : String) (type : ValueType) :
    NamesType text type ↔
      ∃ name, TypeName.parse? text = some name ∧ name.valueType? = some type := by
  constructor
  · intro isName
    -- A name grows by suffixes at its end, where the list of those that are read grows, too.
    induction isName with
    | elementary isName =>
        exact TypeName.exists_parse?_of_isStem .identifier isName.isIdentifier
          ((TypeName.element?_eq_some_iff _ _).mpr (.inl ⟨rfl, isName⟩))
    | @enumeration scope member isScope isMember =>
        refine TypeName.exists_parse?_of_isStem .dotted
          ⟨scope.toList, member.toList, ?_, isScope, ?_⟩ rfl
        · simp
        · simpa using isMember
    | list isItem ih =>
        have isMore : Suffixes "[]".toList [none] := .list .nil
        exact TypeName.exists_parse?_append isMore ih
    | @fixedList name digits item length isItem number positive small ih =>
        have isMore : Suffixes ("[" ++ digits ++ "]").toList [some length] := by
          simpa using Suffixes.fixedList number positive small .nil
        have parsed := TypeName.exists_parse?_append isMore ih
        rwa [← String.append_assoc, ← String.append_assoc] at parsed
  · rintro ⟨name, parsed, resolved⟩
    obtain ⟨base, isElement, rfl⟩ := (name.valueType?_eq_some_iff type).mp resolved
    obtain ⟨isStem, suffixes, split, isSuffixes⟩ :=
      (TypeName.parse?_eq_some_iff text (TypeName.stem_ne_tuple isElement)).mp parsed
    have rootNamed : NamesType name.root base := by
      rcases (name.element?_eq_some_iff base).mp isElement with ⟨-, isName⟩ | ⟨stem_eq, rfl⟩
      · exact .elementary isName
      · rw [stem_eq] at isStem
        obtain ⟨scope, member, root_eq, isScope, isMember⟩ := isStem
        have text_eq : name.root = String.ofList scope ++ "." ++ String.ofList member := by
          simp [← String.toList_inj, root_eq]
        rw [text_eq]
        exact .enumeration (by simpa using isScope) (by simpa [← String.toList_inj] using isMember)
    have text_eq : text = name.root ++ String.ofList suffixes := by
      simp [← String.toList_inj, split]
    rw [text_eq]
    exact rootNamed.suffixed isSuffixes

/-- What names no elementary type, and has no dot, stands before no suffixes in a name. -/
theorem TypeName.root_ne {text : String} {name : TypeName} {type : ValueType}
    (parsed : parse? text = some name) (resolved : name.valueType? = some type) {root : String}
    (noDot : '.' ∉ root.toList) (isOther : ∀ type, ¬ NamesElementary root type) :
    name.root ≠ root := by
  obtain ⟨base, isElement, -⟩ := (name.valueType?_eq_some_iff type).mp resolved
  obtain ⟨isStem, -⟩ := (parse?_eq_some_iff text (stem_ne_tuple isElement)).mp parsed
  intro same
  rcases (name.element?_eq_some_iff base).mp isElement with ⟨-, isName⟩ | ⟨stem_eq, -⟩
  · exact isOther base (same ▸ isName)
  · rw [stem_eq, same] at isStem
    obtain ⟨scope, member, split, -, -⟩ := isStem
    exact noDot (by rw [split]; simp)

theorem not_namesType_of_root {root suffix : String} (noDot : '.' ∉ root.toList)
    (noBracket : '[' ∉ root.toList) (isOther : ∀ type, ¬ NamesElementary root type)
    (starts : suffix.toList = [] ∨ ∃ behind, suffix.toList = '[' :: behind) (type : ValueType) :
    ¬ NamesType (root ++ suffix) type := by
  intro isName
  obtain ⟨name, parsed, resolved⟩ := (namesType_iff _ _).mp isName
  obtain ⟨base, isElement, -⟩ := (name.valueType?_eq_some_iff type).mp resolved
  obtain ⟨isStem, suffixes, split, isSuffixes⟩ :=
    (TypeName.parse?_eq_some_iff _ (TypeName.stem_ne_tuple isElement)).mp parsed
  refine TypeName.root_ne parsed resolved noDot isOther (String.toList_inj.mp ?_)
  have fronts := congrArg (List.takeWhile (· ≠ '[')) split
  rwa [String.toList_append, takeWhile_append_suffix noBracket starts,
    takeWhile_append_suffix (isStem.not_mem rfl (by decide)) isSuffixes.starts, eq_comm] at fronts

end ExecutorRegistration.TypedData
