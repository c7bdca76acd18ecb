import ExecutorRegistration.Json.Reader
import ExecutorRegistration.Proofs.Text.Digits

/-!
# Spellings of texts

A character of a text stands for itself, or is escaped by a letter or by the hexadecimal codes of
its UTF-16 units, of which a character beyond U+FFFF has two. In whatever way its characters are
spelled, a text is read up to its closing quote. What is written for a text is one of its
spellings.
-/

namespace ExecutorRegistration.Json

/-! ## Spellings -/

/-- The letters of escapes and the characters for which they stand. -/
def escapeLetters : List (Char × Char) :=
  [('"', '"'), ('\\', '\\'), ('/', '/'), ('b', '\x08'), ('f', '\x0c'), ('n', '\n'), ('r', '\r'),
   ('t', '\t')]

/-- A code is given by four hexadecimal digits of either case. -/
def SpellsCode (code : Nat) (digits : List Char) : Prop :=
  digits.length = 4 ∧ Text.DenotesNumber 16 digits code

/-- What stands for a character within a text. -/
inductive SpellsChar : Char → List Char → Prop where
  /-- The character itself. -/
  | plain {c : Char} (printable : 32 ≤ c.toNat) (notQuote : c ≠ '"') (notBackslash : c ≠ '\\') :
      SpellsChar c [c]
  /-- An escape of one letter. -/
  | letter {letter c : Char} (isEscape : (letter, c) ∈ escapeLetters) :
      SpellsChar c ['\\', letter]
  /-- An escape of one code. -/
  | code {c : Char} {digits : List Char} (isCode : SpellsCode c.toNat digits) :
      SpellsChar c ('\\' :: 'u' :: digits)
  /-- An escape of the two halves of a surrogate pair. -/
  | pair {c : Char} {high low : Nat} {first second : List Char} (highSmall : high < 0x400)
      (lowSmall : low < 0x400) (isPair : c.toNat = 0x10000 + 0x400 * high + low)
      (isFirst : SpellsCode (0xD800 + high) first) (isSecond : SpellsCode (0xDC00 + low) second) :
      SpellsChar c ('\\' :: 'u' :: (first ++ '\\' :: 'u' :: second))

/-- What stands for characters within a text. -/
inductive SpellsChars : List Char → List Char → Prop where
  | nil : SpellsChars [] []
  | cons {c : Char} {letters first rest : List Char} (spellsFirst : SpellsChar c first)
      (spellsRest : SpellsChars letters rest) : SpellsChars (c :: letters) (first ++ rest)

/-- A quoted text. -/
def SpellsText (text : String) (chars : List Char) : Prop :=
  ∃ inside, SpellsChars text.toList inside ∧ chars = '"' :: (inside ++ ['"'])

/-! ## Codes -/

theorem hexValue?_eq_some_iff (digits : List Char) (code : Nat) :
    hexValue? digits = some code ↔ Text.DenotesNumber 16 digits code := by
  refine Text.foldlM_zero_eq_some_iff (fun value c next => ?_) digits code
  simp only [Option.map_eq_some_iff, Text.isDigit_iff (Nat.le_refl 16)]
  constructor
  · rintro ⟨digit, read, rfl⟩
    have small := ((Hex.digitValue?_eq_some_iff c digit).mp read).1
    exact ⟨digit, ⟨small, read⟩, rfl⟩
  · rintro ⟨digit, ⟨-, read⟩, rfl⟩
    exact ⟨digit, read, rfl⟩

theorem octetLength_of_forall {chars : List Char} (single : ∀ c ∈ chars, c.utf8Size = 1) :
    octetLength chars = chars.length := by
  -- The length of what stands before is generalized.
  have general : ∀ start, chars.foldl (fun length c => length + c.utf8Size) start =
      start + chars.length := by
    induction chars with
    | nil => exact fun _ => rfl
    | cons c chars ih =>
        obtain ⟨first, rest⟩ := List.forall_mem_cons.mp single
        intro start
        rw [List.foldl_cons, ih rest, first, List.length_cons]
        omega
  rw [octetLength, general, Nat.zero_add]

theorem SpellsCode.octetLength_eq {code : Nat} {digits : List Char}
    (isCode : SpellsCode code digits) : octetLength digits = 4 := by
  obtain ⟨four, values, areDigits, -⟩ := isCode
  rw [octetLength_of_forall fun c member => ?_, four]
  have single : ∀ c ∈ digits, c.utf8Size = 1 :=
    ((List.forall₂_and_left digits values).mp (areDigits.imp fun c value isDigit =>
      ⟨((Hex.isDigit_iff c).mpr ⟨value, ((Text.isDigit_iff (Nat.le_refl 16) c value).mp
        isDigit).2⟩).utf8Size, isDigit⟩)).1
  exact single c member

/-- A code is read from its digits. -/
theorem readCode_of_spells {code : Nat} {digits : List Char} (isCode : SpellsCode code digits)
    (rest : List Char) : readCode (digits ++ rest) = .ok (code, rest) := by
  have taken : (digits ++ rest).take 4 = digits := by
    rw [← isCode.1, List.take_left]
  have left : (digits ++ rest).drop 4 = rest := by
    rw [← isCode.1, List.drop_left]
  have value := (hexValue?_eq_some_iff digits code).mpr isCode.2
  simp only [readCode, taken, left, isCode.octetLength_eq, value, Nat.lt_irrefl, if_false]

/-! ## Escapes -/

/-- No code of a character is that of half a surrogate pair. -/
theorem not_surrogate (c : Char) :
    isFirstSurrogate c.toNat = false ∧ isSecondSurrogate c.toNat = false := by
  have valid : c.toNat < 0xD800 ∨ 0xDFFF < c.toNat ∧ c.toNat < 0x110000 := c.valid
  simp only [isFirstSurrogate, isSecondSurrogate, Bool.and_eq_false_iff, decide_eq_false_iff_not]
  omega

theorem readEscape_letter {letter c : Char} (isEscape : (letter, c) ∈ escapeLetters)
    (rest : List Char) : readEscape (letter :: rest) = .ok (c, rest) := by
  have known : ∀ escape ∈ escapeLetters,
      escape.1 ≠ 'u' ∧ escaped? escape.1 = some escape.2 := by decide
  obtain ⟨notCode, value⟩ := known _ isEscape
  unfold readEscape
  split
  · cases ‹_›
  · exact absurd (List.cons.inj ‹_›).1 notCode
  · cases ‹_›
    rw [value]

theorem readEscape_code {c : Char} {digits : List Char} (isCode : SpellsCode c.toNat digits)
    (rest : List Char) : readEscape ('u' :: (digits ++ rest)) = .ok (c, rest) := by
  obtain ⟨notFirst, notSecond⟩ := not_surrogate c
  simp [readEscape, readCode_of_spells isCode, Reading.andThen, notFirst, notSecond]

theorem readEscape_pair {c : Char} {high low : Nat} {first second : List Char}
    (highSmall : high < 0x400) (lowSmall : low < 0x400)
    (isPair : c.toNat = 0x10000 + 0x400 * high + low) (isFirst : SpellsCode (0xD800 + high) first)
    (isSecond : SpellsCode (0xDC00 + low) second) (rest : List Char) :
    readEscape ('u' :: (first ++ '\\' :: 'u' :: (second ++ rest))) = .ok (c, rest) := by
  have firstHalf : isFirstSurrogate (0xD800 + high) = true ∧
      isSecondSurrogate (0xD800 + high) = false := by
    simp only [isFirstSurrogate, isSecondSurrogate, Bool.and_eq_true, Bool.and_eq_false_iff,
      decide_eq_true_eq, decide_eq_false_iff_not]
    omega
  have secondHalf : isSecondSurrogate (0xDC00 + low) = true := by
    simp only [isSecondSurrogate, Bool.and_eq_true, decide_eq_true_eq]
    omega
  have both : Char.ofNat (0x10000 + 0x400 * high + low) = c := by
    rw [← isPair, Char.ofNat_toNat]
  simp [readEscape, readPartner, readCode_of_spells isFirst, readCode_of_spells isSecond,
    Reading.andThen, firstHalf, secondHalf, both]

/-! ## Texts -/

theorem readChars_of_readEscape {limit : Nat} {escape rest : List Char} {c : Char}
    (read : readEscape escape = .ok (c, rest)) :
    readChars (limit + 1) ('\\' :: escape) = (readChars limit rest).mapValue (c :: ·) := by
  rw [readChars, read]
  rfl

/-- Each character is read from what stands for it. -/
theorem readChars_of_spellsChar {c : Char} {chars : List Char} (spells : SpellsChar c chars)
    (limit : Nat) (rest : List Char) :
    readChars (limit + 1) (chars ++ rest) = (readChars limit rest).mapValue (c :: ·) := by
  cases spells with
  | plain printable notQuote notBackslash =>
      rw [List.singleton_append, readChars]
      · rw [if_neg (Nat.not_lt.mpr printable)]
      · exact fun isQuote => notQuote isQuote
      · exact fun isBackslash => notBackslash isBackslash
  | letter isEscape => exact readChars_of_readEscape (readEscape_letter isEscape rest)
  | code isCode => exact readChars_of_readEscape (readEscape_code isCode rest)
  | @pair _ _ _ first second highSmall lowSmall isPair isFirst isSecond =>
      rw [List.cons_append, List.cons_append, List.append_assoc, List.cons_append,
        List.cons_append]
      exact readChars_of_readEscape
        (readEscape_pair highSmall lowSmall isPair isFirst isSecond rest)

theorem readChars_of_spellsChars {letters chars : List Char} (spells : SpellsChars letters chars)
    {limit : Nat} (short : letters.length < limit) (rest : List Char) :
    readChars limit (chars ++ '"' :: rest) = .ok (letters, rest) := by
  induction spells generalizing limit with
  | nil =>
      obtain ⟨limit, rfl⟩ := Nat.exists_eq_succ_of_ne_zero short.ne'
      rfl
  | cons spellsFirst _ ih =>
      obtain ⟨limit, rfl⟩ := Nat.exists_eq_succ_of_ne_zero (Nat.ne_zero_of_lt short)
      rw [List.append_assoc, readChars_of_spellsChar spellsFirst,
        ih (Nat.lt_of_succ_lt_succ short)]
      rfl

theorem SpellsChar.length_pos {c : Char} {chars : List Char} (spells : SpellsChar c chars) :
    0 < chars.length := by
  cases spells <;> exact Nat.succ_pos _

theorem SpellsChars.length_le {letters chars : List Char} (spells : SpellsChars letters chars) :
    letters.length ≤ chars.length := by
  induction spells with
  | nil => exact Nat.le_refl _
  | cons spellsFirst _ ih =>
      have := spellsFirst.length_pos
      rw [List.length_cons, List.length_append]
      omega

/-- A text is read from any of its spellings, up to the closing quote. -/
theorem exists_of_spellsText {text : String} {chars : List Char} (spells : SpellsText text chars)
    (rest : List Char) :
    ∃ inside, chars ++ rest = '"' :: inside ∧ readQuoted inside = .ok (text, rest) := by
  obtain ⟨inside, spellsInside, rfl⟩ := spells
  refine ⟨inside ++ '"' :: rest, by simp, ?_⟩
  have short : text.toList.length < (inside ++ '"' :: rest).length + 1 := by
    have := spellsInside.length_le
    rw [List.length_append]
    omega
  rw [readQuoted, readChars_of_spellsChars spellsInside short]
  simp [Reading.mapValue, Reading.andThen]

/-! ## What is written -/

/-- The code of a character below U+0020 is written in four digits. -/
theorem spellsCode_control {code : Nat} (control : code < 32) :
    SpellsCode code ['0', '0', Hex.digit (code / 16), Hex.digit (code % 16)] := by
  have value : ∀ code < 32,
      hexValue? ['0', '0', Hex.digit (code / 16), Hex.digit (code % 16)] = some code := by decide
  exact ⟨rfl, (hexValue?_eq_some_iff _ _).mp (value code control)⟩

theorem spellsChar_escapeChar (c : Char) : SpellsChar c (escapeChar c) := by
  unfold escapeChar
  split_ifs with quote backslash backspace feed newLine carriage tab control
  -- The characters with an escape of one letter.
  iterate 7
    · subst c
      exact .letter (by decide)
  · exact .code (spellsCode_control control)
  · exact .plain (Nat.not_lt.mp control) quote backslash

theorem spellsChars_flatMap (letters : List Char) :
    SpellsChars letters (letters.flatMap escapeChar) := by
  induction letters with
  | nil => exact .nil
  | cons c letters ih => exact .cons (spellsChar_escapeChar c) ih

theorem spellsText_quoted (text : String) : SpellsText text (quoted text) :=
  ⟨_, spellsChars_flatMap text.toList, rfl⟩

/-- A text with quotes is read up to the closing one. -/
theorem exists_quoted (text : String) (rest : List Char) :
    ∃ chars, quoted text ++ rest = '"' :: chars ∧ readQuoted chars = .ok (text, rest) :=
  exists_of_spellsText (spellsText_quoted text) rest

end ExecutorRegistration.Json
