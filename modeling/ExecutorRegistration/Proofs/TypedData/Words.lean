import ExecutorRegistration.Proofs.Text.Digits
import ExecutorRegistration.Proofs.TypedData.Coercion
import ExecutorRegistration.Proofs.TypedData.StructDigest

/-!
# The word of a JSON value

A JSON value of a type is encoded as a word: numbers, truth values and addresses behind zeros,
octets of a fixed number before zeros, texts and octets of any number by their digest, and lists
by the digest of the words of their items. Values are coerced and hashed to exactly these words.
-/

namespace ExecutorRegistration

/-! ## Numbers in texts -/

namespace Text

/-- What may stand before the digits of a number, and the base that it marks. -/
def baseMarks : List (List Char × Nat) :=
  [([], 10), (['0', 'x'], 16), (['0', 'X'], 16), (['0', 'o'], 8), (['0', 'O'], 8),
   (['0', 'b'], 2), (['0', 'B'], 2)]

/-- A text denotes a natural number: it has a mark and digits, between which underscores do not
count. -/
def DenotesNatural (text : List Char) (number : Nat) : Prop :=
  ∃ mark ∈ baseMarks, ∃ digits, text = mark.1 ++ digits ∧
    DenotesNumber mark.2 (digits.filter (· ≠ '_')) number

/-- What may stand before an integer, and the factor for which it stands. -/
def signs : List (List Char × Int) := [([], 1), (['+'], 1), (['-'], -1)]

/-- A text denotes an integer: a natural number with an optional sign. -/
def DenotesInteger (text : List Char) (number : Int) : Prop :=
  ∃ sign ∈ signs, ∃ rest magnitude, text = sign.1 ++ rest ∧ DenotesNatural rest magnitude ∧
    number = sign.2 * magnitude

end Text

namespace TypedData

open Text

theorem digitsValue?_eq_some_iff {base : Nat} (small : base ≤ 16) (digits : List Char)
    (number : Nat) :
    digitsValue? base digits = some number ↔
      DenotesNumber base (digits.filter (· ≠ '_')) number := by
  refine foldlM_zero_eq_some_iff (fun value c next => ?_) _ _
  simp only [isDigit_iff small, Option.bind_eq_bind, Option.bind_eq_some_iff,
    Option.ite_none_right_eq_some, Option.some.injEq]
  constructor
  · rintro ⟨digit, read, below, rfl⟩
    exact ⟨digit, ⟨below, read⟩, rfl⟩
  · rintro ⟨digit, ⟨below, read⟩, rfl⟩
    exact ⟨digit, read, below, rfl⟩

/-- Decimal digits do not start with a mark, as no mark ends in a decimal digit. -/
theorem baseOf_of_denotesNumber {digits : List Char} {number : Nat}
    (denotes : DenotesNumber 10 (digits.filter (· ≠ '_')) number) :
    baseOf digits = (10, digits) := by
  have noMark {c : Char} {rest : List Char} (isOther : c ≠ '_' ∧ ¬ ('0' ≤ c ∧ c ≤ '9'))
      (split : digits = '0' :: c :: rest) : False := by
    refine isOther.2 (denotes.bounds c ?_)
    rw [split]
    simp [isOther.1]
  unfold baseOf
  split
  case h_7 => rfl
  all_goals exact (noMark (by decide) rfl).elim

theorem exists_baseMark (text : List Char) :
    ∃ mark ∈ baseMarks, text = mark.1 ++ (baseOf text).2 ∧ mark.2 = (baseOf text).1 := by
  unfold baseOf
  split
  next => exact ⟨(['0', 'x'], 16), by decide, rfl, rfl⟩
  next => exact ⟨(['0', 'X'], 16), by decide, rfl, rfl⟩
  next => exact ⟨(['0', 'o'], 8), by decide, rfl, rfl⟩
  next => exact ⟨(['0', 'O'], 8), by decide, rfl, rfl⟩
  next => exact ⟨(['0', 'b'], 2), by decide, rfl, rfl⟩
  next => exact ⟨(['0', 'B'], 2), by decide, rfl, rfl⟩
  next => exact ⟨([], 10), by decide, rfl, rfl⟩

theorem baseMarks_le : ∀ mark ∈ baseMarks, mark.2 ≤ 16 := by decide

theorem natural?_eq_some_iff (text : List Char) (number : Nat) :
    natural? text = some number ↔ DenotesNatural text number := by
  unfold natural?
  constructor
  · intro read
    obtain ⟨mark, isMark, split, base_eq⟩ := exists_baseMark text
    refine ⟨mark, isMark, _, split, ?_⟩
    rwa [← digitsValue?_eq_some_iff (baseMarks_le mark isMark), base_eq]
  · rintro ⟨mark, isMark, digits, rfl, denotes⟩
    have base_eq : baseOf (mark.1 ++ digits) = (mark.2, digits) := by
      simp only [baseMarks, List.mem_cons, List.not_mem_nil, or_false] at isMark
      rcases isMark with rfl | rfl | rfl | rfl | rfl | rfl | rfl
      · exact baseOf_of_denotesNumber denotes
      all_goals rfl
    rw [base_eq]
    exact (digitsValue?_eq_some_iff (baseMarks_le mark isMark) digits number).mpr denotes

theorem not_denotesNatural_of_sign {sign : Char} (isSign : sign = '+' ∨ sign = '-')
    (rest : List Char) (number : Nat) : ¬ DenotesNatural (sign :: rest) number := by
  rintro ⟨mark, isMark, digits, split, denotes⟩
  simp only [baseMarks, List.mem_cons, List.not_mem_nil, or_false] at isMark
  rcases isMark with rfl | rfl | rfl | rfl | rfl | rfl | rfl
  · have member : sign ∈ digits.filter (· ≠ '_') := by
      rw [← split.trans (List.nil_append digits)]
      rcases isSign with rfl | rfl <;> simp
    have bounds := denotes.bounds sign member
    rcases isSign with rfl | rfl <;> exact absurd bounds (by decide)
  all_goals
    obtain ⟨rfl, -⟩ := List.cons.inj split
    exact absurd isSign (by decide)

theorem denotesInteger_iff (text : List Char) (number : Int) :
    DenotesInteger text number ↔
      (∃ magnitude : Nat, DenotesNatural text magnitude ∧ number = magnitude) ∨
      (∃ rest, text = '+' :: rest ∧
        ∃ magnitude : Nat, DenotesNatural rest magnitude ∧ number = magnitude) ∨
      ∃ rest, text = '-' :: rest ∧
        ∃ magnitude : Nat, DenotesNatural rest magnitude ∧ number = -magnitude := by
  simp [DenotesInteger, signs]

theorem signed?_eq_some_iff (text : List Char) (number : Int) :
    signed? text = some number ↔ DenotesInteger text number := by
  rw [denotesInteger_iff]
  unfold signed?
  split
  next rest =>
    simp [Option.bind_eq_some_iff, natural?_eq_some_iff, not_denotesNatural_of_sign,
      eq_comm (a := number)]
  next rest =>
    simp [Option.bind_eq_some_iff, natural?_eq_some_iff, not_denotesNatural_of_sign,
      eq_comm (a := number)]
  next noMinus noPlus =>
    have notMinus (rest : List Char) : text ≠ '-' :: rest := noMinus rest
    have notPlus (rest : List Char) : text ≠ '+' :: rest := noPlus rest
    simp [Option.bind_eq_some_iff, natural?_eq_some_iff, notMinus, notPlus, eq_comm (a := number)]

/-! ## Words -/

/-- A JSON value of a type is encoded as a word. -/
def Encodes : ValueType → Json → Word → Prop
  | .address, json, word =>
    ∃ text address, json = .string text ∧ Address.Denotes text address ∧
      word.toList = List.replicate 12 0 ++ address.toList
  | .bool, json, word =>
    ∃ value : Bool, (json = .bool value ∨ json = .string (if value then "true" else "false")) ∧
      word.toList = List.replicate 31 0 ++ [if value then 1 else 0]
  | .string, json, word => ∃ text, json = .string text ∧ word = keccakText text
  | .bytes, json, word =>
    ∃ octets : List UInt8, ((∃ text, json = .string text ∧ Hex.Denotes text octets) ∨
        json = .array (octets.map fun octet => .integer octet.toNat)) ∧
      word = keccak256 octets
  | .function, json, word =>
    ∃ text octets, json = .string text ∧ Hex.Denotes text octets ∧ octets.length = 24 ∧
      word.toList = (octets ++ List.replicate 32 0).take 32
  | .uint bits, json, word =>
    ∃ value : Nat, (json = .integer value ∨
        ∃ text, json = .string text ∧ DenotesNatural text.toList value) ∧
      value < 2 ^ bits ∧ word.toList = bigEndian 32 value
  | .int bits, json, word =>
    ∃ value : Int, (json = .integer value ∨
        ∃ text, json = .string text ∧ DenotesInteger text.toList value) ∧
      (-2 ^ (bits - 1) ≤ value ∧ value < 2 ^ (bits - 1)) ∧
      word.toList = bigEndian 32 (value % 2 ^ 256).toNat
  | .fixedBytes size, json, word =>
    ∃ text octets, json = .string text ∧ Hex.Denotes text octets ∧ octets.length = size ∧
      word.toList = (octets ++ List.replicate 32 0).take 32
  | .list item, json, word =>
    ∃ items words, json = .array items ∧ List.Forall₂ (Encodes item) items words ∧
      word = keccak256 (concatWords words)
  | .fixedList item length, json, word =>
    ∃ items words, json = .array items ∧ items.length = length ∧
      List.Forall₂ (Encodes item) items words ∧ word = keccak256 (concatWords words)

/-! ## Coercion to words -/

theorem number?_eq_some_iff (ofText : List Char → Option Int) (json : Json) (number : Int) :
    number? ofText json = some number ↔
      json = .integer number ∨ ∃ text, json = .string text ∧ ofText text.toList = some number := by
  cases json <;> simp [number?]

theorem number?_natural_eq_some_iff (json : Json) (value : Nat) :
    number? (fun text => (natural? text).map Int.ofNat) json = some (value : Int) ↔
      json = .integer value ∨ ∃ text, json = .string text ∧ DenotesNatural text.toList value := by
  simp [number?_eq_some_iff, natural?_eq_some_iff]

theorem fitsUnsigned_iff (bits : Nat) (number : Int) :
    fitsUnsigned bits number = true ↔ ∃ value : Nat, number = value ∧ value < 2 ^ bits := by
  cases number with
  | ofNat value =>
      rw [fitsUnsigned, decide_eq_true_eq]
      constructor
      · intro small
        exact ⟨value, rfl, small⟩
      · rintro ⟨other, same, small⟩
        rwa [Int.ofNat.inj same]
  | negSucc value =>
      simp only [fitsUnsigned, Bool.false_eq_true, false_iff]
      rintro ⟨other, same, -⟩
      cases same

theorem fitsSigned_iff (bits : Nat) (number : Int) :
    fitsSigned bits number = true ↔ -2 ^ (bits - 1) ≤ number ∧ number < 2 ^ (bits - 1) := by
  have power : ((2 ^ (bits - 1) : Nat) : Int) = 2 ^ (bits - 1) := by norm_cast
  cases number with
  | ofNat value =>
      rw [fitsSigned, decide_eq_true_eq, ← power, Int.ofNat_eq_natCast]
      change value < 2 ^ (bits - 1) ↔ _
      omega
  | negSucc value =>
      rw [fitsSigned, decide_eq_true_eq, ← power]
      change value < 2 ^ (bits - 1) ↔ _
      omega

theorem toList_integerWord (number : Int) :
    (integerWord number).toList = bigEndian 32 (number % 2 ^ 256).toNat := rfl

/-- The octets of a number are those of its low bits. -/
theorem bigEndian_mod (size value : Nat) :
    bigEndian size (value % Nat.pow 256 size) = bigEndian size value := by
  have written := bigEndian_ofBigEndian (bigEndian size value)
  rwa [length_bigEndian, ofBigEndian_bigEndian] at written

theorem toList_integerWord_natCast (value : Nat) :
    (integerWord value).toList = bigEndian 32 value := by
  have wrapped : ((value : Int) % 2 ^ 256).toNat = value % Nat.pow 256 32 := by
    have power : (2 : Int) ^ 256 = ((Nat.pow 256 32 : Nat) : Int) := by norm_num
    rw [power, ← Int.natCast_emod, Int.toNat_natCast]
  rw [toList_integerWord, wrapped, bigEndian_mod]

theorem coerce_eq_ok_iff {type : ValueType} (noList : ∀ item, type ≠ .list item)
    (noFixedList : ∀ item length, type ≠ .fixedList item length) (json : Json)
    (value : TypedValue) : coerce type json = .ok value ↔ scalar? type json = some value := by
  have scalar := coerce.eq_3 type json (fun item _ isList _ => noList item isList)
    fun item length _ isList _ => noFixedList item length isList
  rw [scalar]
  cases scalar? type json <;> simp

theorem truth?_eq_some_iff (json : Json) (value : Bool) :
    truth? json = some value ↔
      json = .bool value ∨ json = .string (if value then "true" else "false") := by
  cases json with
  | string text =>
      simp only [truth?, Json.string.injEq, reduceCtorEq, false_or]
      split_ifs <;> simp_all [eq_comm]
  | _ => simp [truth?, eq_comm]

theorem octet?_eq_some_iff (json : Json) (octet : UInt8) :
    (match json with
      | .integer value => if fitsUnsigned 8 value then some (UInt8.ofNat value.toNat) else none
      | _ => none) = some octet ↔ json = .integer octet.toNat := by
  cases json with
  | integer number =>
      simp only [Option.ite_none_right_eq_some, fitsUnsigned_iff, Option.some.injEq,
        Json.integer.injEq]
      constructor
      · rintro ⟨⟨value, rfl, small⟩, rfl⟩
        rw [Int.toNat_natCast, UInt8.toNat_ofNat_of_lt' small]
      · rintro rfl
        exact ⟨⟨octet.toNat, rfl, octet.toNat_lt⟩, by rw [Int.toNat_natCast, UInt8.ofNat_toNat]⟩
  | _ => simp

theorem octets?_eq_some_iff (json : Json) (octets : List UInt8) :
    octets? json = some octets ↔
      (∃ text, json = .string text ∧ Hex.Denotes text octets) ∨
        json = .array (octets.map fun octet => .integer octet.toNat) := by
  cases json with
  | string text => simp [octets?, Hex.denotes_iff]
  | array items =>
      simp only [octets?, reduceCtorEq, false_and, exists_false, false_or, Json.array.injEq]
      induction items generalizing octets with
      | nil => cases octets <;> simp
      | cons item items ih =>
          cases octets with
          | nil => simp [List.mapM_cons, Option.bind_eq_some_iff]
          | cons octet octets =>
              simp only [List.mapM_cons, Option.bind_eq_bind, Option.bind_eq_some_iff, ih,
                Option.pure_def, Option.some.injEq, List.cons.injEq, List.map_cons]
              constructor
              · rintro ⟨_, first, _, rest, rfl, rfl⟩
                exact ⟨(octet?_eq_some_iff item _).mp first, rest⟩
              · rintro ⟨first, rest⟩
                exact ⟨_, (octet?_eq_some_iff item octet).mpr first, _, rest, rfl, rfl⟩
  | _ => simp [octets?]

theorem fixedOctets?_eq_some_iff (size : Nat) (json : Json) (octets : List UInt8) :
    fixedOctets? size json = some octets ↔
      ∃ text, json = .string text ∧ Hex.Denotes text octets ∧ octets.length = size := by
  cases json with
  | string text => simp [fixedOctets?, Option.filter_eq_some_iff, Hex.denotes_iff]
  | _ => simp [fixedOctets?]

theorem exists_fixedOctets?_iff (size : Nat) (json : Json) (word : Word) :
    (∃ octets, fixedOctets? size json = some octets ∧ word = Word.padEnd octets) ↔
      ∃ text octets, json = .string text ∧ Hex.Denotes text octets ∧ octets.length = size ∧
        word.toList = (octets ++ List.replicate 32 0).take 32 := by
  simp only [fixedOctets?_eq_some_iff, Octets.ext_iff, Word.padEnd]
  constructor
  · rintro ⟨octets, ⟨text, isText, denotes, sized⟩, word_eq⟩
    exact ⟨text, octets, isText, denotes, sized, word_eq⟩
  · rintro ⟨text, octets, isText, denotes, sized, word_eq⟩
    exact ⟨octets, ⟨text, isText, denotes, sized⟩, word_eq⟩

theorem word_eq_padStart_iff (address : Address) (word : Word) :
    word = Word.padStart address ↔ word.toList = List.replicate 12 0 ++ address.toList := by
  rw [Octets.ext_iff, Word.toList_padStart address (by decide)]

/-- A value of a scalar type is coerced and hashed to a word if it is read and the word is that of
what is read. -/
theorem coerce_hashWord_iff_of_scalar {type : ValueType} (noList : ∀ item, type ≠ .list item)
    (noFixedList : ∀ item length, type ≠ .fixedList item length) {α : Type} {read? : Option α}
    {json : Json} {image : α → TypedValue} (scalar_eq : scalar? type json = read?.map image)
    (word : Word) :
    (∃ value, coerce type json = .ok value ∧ word = value.hashWord) ↔
      ∃ content, read? = some content ∧ word = (image content).hashWord := by
  simp only [coerce_eq_ok_iff noList noFixedList, scalar_eq, Option.map_eq_some_iff]
  constructor
  · rintro ⟨_, ⟨content, read, rfl⟩, rfl⟩
    exact ⟨content, read, rfl⟩
  · rintro ⟨content, read, rfl⟩
    exact ⟨_, ⟨content, read, rfl⟩, rfl⟩

theorem mapM_coerce_hashWord_iff (item : ValueType) (items : List Json) (word : Word)
    (ih : ∀ json word, (∃ value, coerce item json = .ok value ∧ word = value.hashWord) ↔
      Encodes item json word) :
    (∃ value, (items.mapM (coerce item)).map TypedValue.items = .ok value ∧
        word = value.hashWord) ↔
      ∃ words, List.Forall₂ (Encodes item) items words ∧ word = keccak256 (concatWords words) := by
  -- The words of the items are the images of values in between.
  have words_iff (words : List Word) : List.Forall₂ (Encodes item) items words ↔
      ∃ values, List.Forall₂ (fun json value => coerce item json = .ok value) items values ∧
        words = values.map TypedValue.hashWord := by
    rw [← forall₂_exists_iff]
    exact iff_of_eq (congrArg (List.Forall₂ · items words) (by
      funext json word
      exact propext (ih json word).symm))
  simp only [map_eq_ok_iff, mapM_eq_ok_iff, words_iff]
  constructor
  · rintro ⟨_, ⟨values, areValues, rfl⟩, rfl⟩
    refine ⟨_, ⟨values, areValues, rfl⟩, ?_⟩
    rw [TypedValue.hashWord, hashWords_eq]
  · rintro ⟨_, ⟨values, areValues, rfl⟩, rfl⟩
    refine ⟨_, ⟨values, areValues, rfl⟩, ?_⟩
    rw [TypedValue.hashWord, hashWords_eq]

/-- A value is coerced and hashed to the words as which it is encoded. -/
theorem coerce_hashWord_iff (type : ValueType) (json : Json) (word : Word) :
    (∃ value, coerce type json = .ok value ∧ word = value.hashWord) ↔ Encodes type json word := by
  induction type generalizing json word with
  | address =>
      simp only [coerce_address_iff, Encodes, ← word_eq_padStart_iff]
      constructor
      · rintro ⟨_, ⟨text, address, rfl, denotes, rfl⟩, rfl⟩
        exact ⟨text, address, rfl, denotes, rfl⟩
      · rintro ⟨text, address, rfl, denotes, rfl⟩
        exact ⟨_, ⟨text, address, rfl, denotes, rfl⟩, rfl⟩
  | bool =>
      rw [coerce_hashWord_iff_of_scalar (by simp) (by simp) rfl]
      simp only [truth?_eq_some_iff, Encodes]
      refine exists_congr fun value => and_congr_right fun _ => ?_
      rw [TypedValue.hashWord, Octets.ext_iff]
      cases value <;> rfl
  | string =>
      simp only [coerce_string_iff, Encodes]
      constructor
      · rintro ⟨_, ⟨text, rfl, rfl⟩, rfl⟩
        exact ⟨text, rfl, rfl⟩
      · rintro ⟨text, rfl, rfl⟩
        exact ⟨_, ⟨text, rfl, rfl⟩, rfl⟩
  | bytes =>
      rw [coerce_hashWord_iff_of_scalar (by simp) (by simp) rfl]
      simp only [octets?_eq_some_iff, Encodes, TypedValue.hashWord]
  | function =>
      rw [coerce_hashWord_iff_of_scalar (by simp) (by simp) rfl]
      exact exists_fixedOctets?_iff 24 json word
  | uint bits =>
      rw [coerce_hashWord_iff_of_scalar (by simp) (by simp) rfl]
      simp only [Option.filter_eq_some_iff, fitsUnsigned_iff, Encodes, TypedValue.hashWord]
      constructor
      · rintro ⟨_, ⟨read, value, rfl, small⟩, rfl⟩
        exact ⟨value, (number?_natural_eq_some_iff json value).mp read, small,
          toList_integerWord_natCast value⟩
      · rintro ⟨value, read, small, word_eq⟩
        rw [← toList_integerWord_natCast] at word_eq
        exact ⟨value, ⟨(number?_natural_eq_some_iff json value).mpr read, value, rfl, small⟩,
          Octets.ext word_eq⟩
  | int bits =>
      rw [coerce_hashWord_iff_of_scalar (by simp) (by simp) rfl]
      simp only [Option.filter_eq_some_iff, number?_eq_some_iff, fitsSigned_iff, Encodes,
        TypedValue.hashWord, signed?_eq_some_iff, Octets.ext_iff, toList_integerWord, and_assoc]
  | fixedBytes size =>
      rw [coerce_hashWord_iff_of_scalar (by simp) (by simp) rfl]
      exact exists_fixedOctets?_iff size json word
  | list item ih =>
      cases json with
      | array items =>
          refine (mapM_coerce_hashWord_iff item items word ih).trans ?_
          simp [Encodes]
      | _ => simp [coerce, scalar?, Encodes]
  | fixedList item length ih =>
      cases json with
      | array items =>
          rw [coerce]
          split_ifs with sized
          · refine (mapM_coerce_hashWord_iff item items word ih).trans ?_
            simp [Encodes, sized]
          · simp [Encodes, sized]
      | _ => simp [coerce, scalar?, Encodes]

end TypedData

end ExecutorRegistration
