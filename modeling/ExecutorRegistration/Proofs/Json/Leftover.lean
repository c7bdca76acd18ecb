import ExecutorRegistration.Json.Reader
import Mathlib.Data.List.Infix
import Mathlib.Tactic.SplitIfs

/-!
# What readers of JSON leave

Each reader takes characters from the front and leaves the others as they are: what is left is an
end of what was given. A quoted text is shorter than the characters in which it is written.
-/

namespace ExecutorRegistration.Json

/-! ## Readings -/

theorem Reading.andThen_eq_ok_iff {α β : Type} (reading : Reading α)
    (next : α → List Char → Reading β) (value : β) (rest : List Char) :
    reading.andThen next = .ok (value, rest) ↔
      ∃ first behind, reading = .ok (first, behind) ∧ next first behind = .ok (value, rest) := by
  rcases reading with fault | ⟨first, behind⟩ <;> simp [andThen]

theorem Reading.mapValue_eq_ok_iff {α β : Type} (f : α → β) (reading : Reading α) (value : β)
    (rest : List Char) :
    reading.mapValue f = .ok (value, rest) ↔
      ∃ inner, reading = .ok (inner, rest) ∧ f inner = value := by
  simp only [mapValue, andThen_eq_ok_iff, Except.ok.injEq, Prod.mk.injEq, ↓existsAndEq, and_true]

/-- A reading leaves an end of the characters that it was given. -/
def Reading.Leaves {α : Type} (reading : Reading α) (chars : List Char) : Prop :=
  ∀ value rest, reading = .ok (value, rest) → rest <:+ chars

/-- A value without items and members. -/
def IsScalar : Json → Prop
  | array _ => False
  | object _ => False
  | _ => True

/-- A reading returns a scalar and leaves an end of the characters that it was given. -/
def Reading.TakesScalar (reading : Reading Json) (chars : List Char) : Prop :=
  ∀ value rest, reading = .ok (value, rest) → value.IsScalar ∧ rest <:+ chars

theorem Reading.leaves_error {α : Type} (fault : Fault) (chars : List Char) :
    Leaves (.error fault : Reading α) chars := nofun

theorem Reading.leaves_ok {α : Type} {rest chars : List Char} (value : α)
    (suffix : rest <:+ chars) : Leaves (.ok (value, rest)) chars := by
  rintro _ _ ⟨⟩
  exact suffix

theorem Reading.Leaves.mono {α : Type} {reading : Reading α} {few many : List Char}
    (leaves : reading.Leaves few) (suffix : few <:+ many) : reading.Leaves many :=
  fun value rest read => (leaves value rest read).trans suffix

theorem Reading.Leaves.andThen {α β : Type} {reading : Reading α} {chars : List Char}
    {next : α → List Char → Reading β} (leaves : reading.Leaves chars)
    (follows : ∀ value rest, (next value rest).Leaves rest) :
    (reading.andThen next).Leaves chars := by
  intro value rest read
  obtain ⟨first, behind, read, readNext⟩ := (andThen_eq_ok_iff _ _ _ _).mp read
  exact (follows first behind value rest readNext).trans (leaves first behind read)

theorem Reading.Leaves.mapValue {α β : Type} {reading : Reading α} {chars : List Char}
    (leaves : reading.Leaves chars) (f : α → β) : (reading.mapValue f).Leaves chars :=
  leaves.andThen fun value rest => leaves_ok (f value) (List.suffix_refl rest)

theorem Reading.takesScalar_error (fault : Fault) (chars : List Char) :
    TakesScalar (.error fault) chars := nofun

theorem Reading.takesScalar_ok {value : Json} {rest chars : List Char} (scalar : value.IsScalar)
    (suffix : rest <:+ chars) : TakesScalar (.ok (value, rest)) chars := by
  rintro _ _ ⟨⟩
  exact ⟨scalar, suffix⟩

theorem Reading.TakesScalar.mono {reading : Reading Json} {few many : List Char}
    (takes : reading.TakesScalar few) (suffix : few <:+ many) : reading.TakesScalar many :=
  fun value rest read => (takes value rest read).imp_right fun left => left.trans suffix

theorem Reading.TakesScalar.leaves {reading : Reading Json} {chars : List Char}
    (takes : reading.TakesScalar chars) : reading.Leaves chars :=
  fun value rest read => (takes value rest read).2

theorem skipBlanks_suffix (chars : List Char) : skipBlanks chars <:+ chars :=
  List.dropWhile_suffix _

/-- Characters that are left once blanks are skipped are an end of those before. -/
theorem suffix_of_skipBlanks {chars rest : List Char} {c : Char}
    (skipped : skipBlanks chars = c :: rest) : rest <:+ chars := by
  have suffix := skipBlanks_suffix chars
  rw [skipped] at suffix
  exact (List.suffix_cons c rest).trans suffix

open Reading

/-! ## Words and numbers -/

theorem takesScalar_readWord {value : Json} (scalar : value.IsScalar) (word chars : List Char) :
    (readWord value word chars).TakesScalar chars := by
  induction word generalizing chars with
  | nil => exact takesScalar_ok scalar (List.suffix_refl chars)
  | cons expected word ih =>
      cases chars with
      | nil => exact takesScalar_error _ _
      | cons c chars =>
          rw [readWord]
          split_ifs
          · exact (ih chars).mono (List.suffix_cons c chars)
          · exact takesScalar_error _ _

theorem takesScalar_readReal (negative : Bool) (significand : Nat) (exponent : Int)
    (rest : List Char) : (readReal negative significand exponent rest).TakesScalar rest := by
  unfold readReal
  split
  · exact takesScalar_ok trivial (List.suffix_refl rest)
  · exact takesScalar_error _ _

theorem takesScalar_readExponentDigits (negative : Bool) (significand : Nat) (exponent : Int)
    (down : Bool) (value : Nat) (chars : List Char) :
    (readExponentDigits negative significand exponent down value chars).TakesScalar chars := by
  induction chars generalizing value with
  | nil => exact takesScalar_readReal _ _ _ _
  | cons c chars ih =>
      rw [readExponentDigits]
      dsimp only
      split_ifs
      · exact (ih _).mono (List.suffix_cons c chars)
      · exact takesScalar_error _ _
      · exact takesScalar_ok trivial ((List.dropWhile_suffix _).trans (List.suffix_cons c chars))
      · exact takesScalar_readReal _ _ _ _
      · exact takesScalar_readReal _ _ _ _

theorem takesScalar_readExponent (negative : Bool) (significand : Nat) (exponent : Int)
    (chars : List Char) : (readExponent negative significand exponent chars).TakesScalar chars := by
  unfold readExponent
  dsimp only
  split
  · exact takesScalar_error _ _
  · rename_i c rest behindSign
    have digits : c :: rest <:+ chars := by
      rw [← behindSign]
      split_ifs
      · exact List.tail_suffix chars
      · exact List.suffix_refl chars
    split_ifs
    · exact (takesScalar_readExponentDigits _ _ _ _ _ _).mono digits
    · exact takesScalar_error _ _

theorem takesScalar_readFraction (negative : Bool) (significand : Significand) (chars : List Char) :
    (readFraction negative significand chars).TakesScalar chars := by
  have behindDigits := List.dropWhile_suffix (l := chars) isDigit
  unfold readFraction
  dsimp only
  split_ifs
  · exact takesScalar_error _ _
  · exact takesScalar_error _ _
  · split
    · rename_i rest isExponent
      rw [isExponent] at behindDigits
      exact (takesScalar_readExponent _ _ _ _).mono ((List.suffix_cons _ rest).trans behindDigits)
    · rename_i rest isExponent
      rw [isExponent] at behindDigits
      exact (takesScalar_readExponent _ _ _ _).mono ((List.suffix_cons _ rest).trans behindDigits)
    · exact (takesScalar_readReal _ _ _ _).mono behindDigits

theorem takesScalar_wholeNumber (negative : Bool) (value : Nat) (rest : List Char) :
    (wholeNumber negative value rest).TakesScalar rest := by
  unfold wholeNumber
  split_ifs
  · exact takesScalar_readReal _ _ _ _
  · exact takesScalar_ok trivial (List.suffix_refl rest)
  · exact takesScalar_ok trivial (List.suffix_refl rest)

theorem takesScalar_readNumberTail (negative : Bool) (significand : Significand)
    (rest : List Char) : (readNumberTail negative significand rest).TakesScalar rest := by
  unfold readNumberTail
  split
  · exact (takesScalar_readFraction _ _ _).mono (List.suffix_cons _ _)
  · exact (takesScalar_readExponent _ _ _ _).mono (List.suffix_cons _ _)
  · exact (takesScalar_readExponent _ _ _ _).mono (List.suffix_cons _ _)
  · split_ifs
    · exact takesScalar_wholeNumber _ _ _
    · exact takesScalar_readReal _ _ _ _

theorem takesScalar_readUnsigned (negative : Bool) (chars : List Char) :
    (readUnsigned negative chars).TakesScalar chars := by
  cases chars with
  | nil => exact takesScalar_error _ _
  | cons c rest =>
      rw [readUnsigned]
      split_ifs
      · exact takesScalar_error _ _
      · exact takesScalar_error _ _
      · exact (takesScalar_readNumberTail _ _ _).mono (List.suffix_cons c rest)
      · exact (takesScalar_readNumberTail _ _ _).mono (List.dropWhile_suffix _)

/-! ## Quoted texts -/

theorem leaves_readCode (chars : List Char) : (readCode chars).Leaves chars := by
  unfold readCode
  dsimp only
  split_ifs
  · exact leaves_error _ _
  · split
    · exact leaves_ok _ (List.drop_suffix 4 chars)
    · exact leaves_error _ _

theorem leaves_readPartner (first : Nat) (chars : List Char) :
    (readPartner first chars).Leaves chars := by
  unfold readPartner
  split
  · rename_i rest
    refine Leaves.mono ((leaves_readCode rest).andThen fun second behind => ?_)
      ((List.suffix_cons _ _).trans (List.suffix_cons _ _))
    split_ifs
    · exact leaves_ok _ (List.suffix_refl behind)
    · exact leaves_error _ _
  all_goals exact leaves_error _ _

/-- An escape has at least one character. -/
theorem leaves_readEscape (chars : List Char) : (readEscape chars).Leaves chars.tail := by
  unfold readEscape
  split
  · exact leaves_error _ _
  · refine (leaves_readCode _).andThen fun code behind => ?_
    split_ifs
    · exact leaves_error _ _
    · exact leaves_readPartner _ _
    · exact leaves_ok _ (List.suffix_refl behind)
  · split
    · exact leaves_ok _ (List.suffix_refl _)
    · exact leaves_error _ _

theorem leaves_readChars (limit : Nat) (chars : List Char) :
    (readChars limit chars).Leaves chars := by
  fun_induction readChars limit chars with
  | case1 => exact leaves_error _ _
  | case2 => exact leaves_error _ _
  | case3 _ rest => exact leaves_ok _ (List.suffix_cons _ rest)
  | case4 limit rest ih =>
      refine Leaves.mono ((leaves_readEscape rest).andThen fun c behind => ?_)
        ((List.tail_suffix rest).trans (List.suffix_cons _ rest))
      exact (ih behind).mapValue _
  | case5 => exact leaves_error _ _
  | case6 _ c rest _ _ _ ih => exact (ih.mapValue _).mono (List.suffix_cons c rest)

/-- A text is shorter than the characters between its quotes and the closing quote. -/
theorem length_of_readChars {limit : Nat} {chars text rest : List Char}
    (read : readChars limit chars = .ok (text, rest)) :
    text.length + rest.length < chars.length := by
  fun_induction readChars limit chars generalizing text rest with
  | case1 => cases read
  | case2 => cases read
  | case3 =>
      cases read
      simp
  | case4 limit chars ih =>
      obtain ⟨c, behind, escaped, read⟩ := (andThen_eq_ok_iff _ _ _ _).mp read
      obtain ⟨text, others, rfl⟩ := (mapValue_eq_ok_iff _ _ _ _).mp read
      have shorter := ih behind others
      have taken := (leaves_readEscape chars c behind escaped).length_le
      rw [List.length_tail] at taken
      simp only [List.length_cons]
      omega
  | case5 => cases read
  | case6 limit c chars _ _ _ ih =>
      obtain ⟨text, others, rfl⟩ := (mapValue_eq_ok_iff _ _ _ _).mp read
      have shorter := ih others
      simp only [List.length_cons]
      omega

theorem leaves_readQuoted (chars : List Char) : (readQuoted chars).Leaves chars :=
  (leaves_readChars _ chars).mapValue _

theorem length_of_readQuoted {chars rest : List Char} {text : String}
    (read : readQuoted chars = .ok (text, rest)) : text.length + rest.length < chars.length := by
  obtain ⟨letters, others, rfl⟩ := (mapValue_eq_ok_iff _ _ _ _).mp read
  rw [String.length_ofList]
  exact length_of_readChars others

/-- Only scalars are read as such. -/
theorem takesScalar_readScalar (chars : List Char) : (readScalar chars).TakesScalar chars := by
  unfold readScalar
  split
  · exact takesScalar_error _ _
  · exact (@takesScalar_readWord .null trivial _ _).mono (List.suffix_cons _ _)
  · exact (@takesScalar_readWord (.bool true) trivial _ _).mono (List.suffix_cons _ _)
  · exact (@takesScalar_readWord (.bool false) trivial _ _).mono (List.suffix_cons _ _)
  · rename_i rest
    intro value behind read
    obtain ⟨text, readText, rfl⟩ := (mapValue_eq_ok_iff _ _ _ _).mp read
    exact ⟨trivial, (leaves_readQuoted rest text behind readText).trans (List.suffix_cons _ _)⟩
  · exact (takesScalar_readUnsigned _ _).mono (List.suffix_cons _ _)
  · split_ifs
    · exact takesScalar_readUnsigned _ _
    · exact takesScalar_error _ _

/-! ## Lists and objects -/

variable {α : Type} {item : List Char → Reading α} {value : List Char → Reading Json}

theorem leaves_readMoreItems (leaves : ∀ chars, (item chars).Leaves chars) (limit : Nat)
    (chars : List Char) : (readMoreItems item limit chars).Leaves chars := by
  induction limit generalizing chars with
  | zero => exact leaves_error _ _
  | succ limit ih =>
      rw [readMoreItems]
      split
      · exact leaves_error _ _
      · rename_i rest closed
        exact leaves_ok _ (suffix_of_skipBlanks closed)
      · rename_i rest comma
        refine Leaves.mono ?_ (suffix_of_skipBlanks comma)
        split
        · exact leaves_error _ _
        · exact leaves_error _ _
        · refine Leaves.mono ?_ (skipBlanks_suffix rest)
          exact (leaves _).andThen fun first behind => (ih behind).mapValue _
      · exact leaves_error _ _

theorem leaves_readItems (leaves : ∀ chars, (item chars).Leaves chars) (chars : List Char) :
    (readItems item chars).Leaves chars := by
  unfold readItems
  split
  · exact leaves_error _ _
  · rename_i rest closed
    exact leaves_ok _ (suffix_of_skipBlanks closed)
  · refine Leaves.mono ?_ (skipBlanks_suffix chars)
    exact (leaves _).andThen fun first behind => (leaves_readMoreItems leaves _ behind).mapValue _

theorem leaves_readMember (leaves : ∀ chars, (value chars).Leaves chars) (chars : List Char) :
    (readMember value chars).Leaves chars := by
  refine (leaves_readQuoted chars).andThen fun key behind => ?_
  split
  · exact leaves_error _ _
  · rename_i rest colon
    exact ((leaves rest).mapValue _).mono (suffix_of_skipBlanks colon)
  · exact leaves_error _ _

theorem leaves_readMoreMembers (leaves : ∀ chars, (value chars).Leaves chars) (limit : Nat)
    (chars : List Char) : (readMoreMembers value limit chars).Leaves chars := by
  induction limit generalizing chars with
  | zero => exact leaves_error _ _
  | succ limit ih =>
      rw [readMoreMembers]
      split
      · exact leaves_error _ _
      · rename_i rest closed
        exact leaves_ok _ (suffix_of_skipBlanks closed)
      · rename_i rest comma
        refine Leaves.mono ?_ (suffix_of_skipBlanks comma)
        split
        · exact leaves_error _ _
        · rename_i key quote
          refine Leaves.mono ?_ (suffix_of_skipBlanks quote)
          exact (leaves_readMember leaves _).andThen fun first behind => (ih behind).mapValue _
        · exact leaves_error _ _
        · exact leaves_error _ _
      · exact leaves_error _ _

theorem leaves_readMembers (leaves : ∀ chars, (value chars).Leaves chars) (chars : List Char) :
    (readMembers value chars).Leaves chars := by
  unfold readMembers
  split
  · exact leaves_error _ _
  · rename_i rest closed
    exact leaves_ok _ (suffix_of_skipBlanks closed)
  · rename_i key quote
    refine Leaves.mono ?_ (suffix_of_skipBlanks quote)
    exact (leaves_readMember leaves _).andThen fun first behind =>
      (leaves_readMoreMembers leaves _ behind).mapValue _
  · exact leaves_error _ _

/-! ## Values -/

theorem leaves_readEmbeddedText (chars : List Char) : (readEmbeddedText chars).Leaves chars := by
  unfold readEmbeddedText
  split
  · rename_i rest quote
    exact (leaves_readQuoted rest).mono (suffix_of_skipBlanks quote)
  · exact leaves_error _ _

theorem leaves_readEmbedded (parseText : String → Except ReadError Json) (chars : List Char) :
    (readEmbedded parseText chars).Leaves chars := by
  unfold readEmbedded
  split
  · exact leaves_error _ _
  · rename_i rest colon
    refine Leaves.mono ((leaves_readEmbeddedText rest).andThen fun text behind => ?_)
      (suffix_of_skipBlanks colon)
    split
    · exact leaves_error _ _
    · split
      · exact leaves_error _ _
      · rename_i rest closed
        exact leaves_ok _ (suffix_of_skipBlanks closed)
      · exact leaves_error _ _
      · exact leaves_error _ _
  · exact leaves_error _ _

theorem suffix_of_behindEmbeddedKey? {chars behind : List Char}
    (isKey : behindEmbeddedKey? chars = some behind) : behind <:+ chars := by
  unfold behindEmbeddedKey? at isKey
  split at isKey
  · rename_i rest quote
    split at isKey
    · rename_i key after read
      split_ifs at isKey
      cases isKey
      exact (leaves_readQuoted rest key _ read).trans (suffix_of_skipBlanks quote)
    · cases isKey
  · cases isKey

theorem leaves_readValueWith (parseText : String → Except ReadError Json) (depth : Nat)
    (chars : List Char) : (readValueWith parseText depth chars).Leaves chars := by
  induction depth generalizing chars with
  | zero =>
      rw [readValueWith]
      split
      · exact leaves_error _ _
      · exact leaves_error _ _
      · exact (takesScalar_readScalar _).leaves.mono (skipBlanks_suffix chars)
  | succ depth ih =>
      rw [readValueWith]
      split
      · rename_i rest opened
        exact ((leaves_readItems ih rest).mapValue _).mono (suffix_of_skipBlanks opened)
      · rename_i rest opened
        refine Leaves.mono ?_ (suffix_of_skipBlanks opened)
        split
        · rename_i behind isKey
          exact (leaves_readEmbedded parseText behind).mono (suffix_of_behindEmbeddedKey? isKey)
        · exact (leaves_readMembers ih rest).mapValue _
      · exact (takesScalar_readScalar _).leaves.mono (skipBlanks_suffix chars)

end ExecutorRegistration.Json
