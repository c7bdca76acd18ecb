import ExecutorRegistration.Text.CombiningTables

/-!
# Composed text

A letter with marks can be written in several ways. In its composed form all letters are first
taken apart, the marks behind one letter are ordered by their combining classes, and then each
letter is put together with as many of its marks as possible.

A syllable of Hangul is composed of two or three letters by arithmetic.
-/

namespace ExecutorRegistration.Text

/-- A character that two others form. -/
structure Composition where
  /-- The first of the two. -/
  first : Char
  /-- The code point of the second of the two. -/
  second : Nat
  /-- What they form. -/
  whole : Char
deriving DecidableEq, Repr

/-- The compositions with one second character, from their characters in turns. -/
def compositionsWith (second : Nat) : List Char → List Composition
  | first :: whole :: rest => ⟨first, second, whole⟩ :: compositionsWith second rest
  | _ => []

/-- All compositions that are listed. -/
def compositions : List Composition :=
  compositionTexts.flatMap fun (second, text) => compositionsWith second text.toList

/-- The combining class of a character. -/
def combiningClass (c : Char) : Nat :=
  if c.toNat < 0x300 then 0
  else
    match combiningRanges.find? fun (first, last, _) => first ≤ c.toNat && c.toNat ≤ last with
    | some (_, _, combining) => combining
    | none => 0

/-! ## Hangul -/

/-- The code point of the first syllable. -/
def firstSyllable : Nat := 0xAC00

/-- The code point of the first leading consonant. -/
def firstLead : Nat := 0x1100

/-- The code point of the first vowel. -/
def firstVowel : Nat := 0x1161

/-- The code point before the first trailing consonant. -/
def noTrail : Nat := 0x11A7

/-- How many leading consonants there are. -/
def leadCount : Nat := 19

/-- How many vowels there are. -/
def vowelCount : Nat := 21

/-- How many ways there are to end a syllable. -/
def trailCount : Nat := 28

/-- The place of a code point among `count` ones from `first` on. -/
def placeFrom? (first count code : Nat) : Option Nat :=
  if first ≤ code ∧ code < first + count then some (code - first) else none

/-- The letters of a syllable. -/
def syllableLetters? (c : Char) : Option (List Char) :=
  (placeFrom? firstSyllable (leadCount * vowelCount * trailCount) c.toNat).map fun place =>
    let body := [Char.ofNat (firstLead + place / (vowelCount * trailCount)),
      Char.ofNat (firstVowel + place / trailCount % vowelCount)]
    if place % trailCount = 0 then body
    else body ++ [Char.ofNat (noTrail + place % trailCount)]

/-- The syllable of a leading consonant and a vowel, or of a syllable that is open and a trailing
consonant. -/
def syllable? (first second : Char) : Option Char :=
  match placeFrom? firstLead leadCount first.toNat,
    placeFrom? firstVowel vowelCount second.toNat with
  | some lead, some vowel =>
    some (Char.ofNat (firstSyllable + (lead * vowelCount + vowel) * trailCount))
  | _, _ => do
    let place ← placeFrom? firstSyllable (leadCount * vowelCount * trailCount) first.toNat
    let trail ← placeFrom? (noTrail + 1) (trailCount - 1) second.toNat
    if place % trailCount = 0 then some (Char.ofNat (first.toNat + trail + 1)) else none

/-! ## Taking apart and putting together -/

/-- The characters that a character is composed of; `limit` bounds how often the first of two is
taken apart again. -/
def takeApart : (limit : Nat) → Char → List Char
  | 0, c => [c]
  | limit + 1, c =>
    if c.toNat < 0xC0 then [c]
    else
      match syllableLetters? c with
      | some letters => letters
      | none =>
        match compositions.find? fun composition => composition.whole = c with
        | some composition =>
          takeApart limit composition.first ++ takeApart limit (Char.ofNat composition.second)
        | none => [c]

/-- How often a character can be taken apart. -/
def maxParts : Nat := 4

/-- Puts a character behind reversed text, before marks of greater classes. -/
def insertMark (c : Char) : List Char → List Char
  | [] => [c]
  | last :: rest =>
    if combiningClass c ≠ 0 ∧ combiningClass c < combiningClass last then
      last :: insertMark c rest
    else c :: last :: rest

/-- The text taken apart, with the marks behind each letter in the order of their classes. -/
def decomposed (text : List Char) : List Char :=
  ((text.flatMap (takeApart maxParts)).foldl (fun ordered c => insertMark c ordered) []).reverse

/-- What two characters form. -/
def compose? (first second : Char) : Option Char :=
  if second.toNat < 0x300 then none
  else
    (syllable? first second).orElse fun _ =>
      (compositions.find? fun composition =>
        composition.second = second.toNat && composition.first = first).map Composition.whole

/-- Whether a mark before a character keeps it from the letter that both stand behind. -/
def isBlocked (marks : List Char) (c : Char) : Bool :=
  marks.head?.any fun mark => combiningClass c ≤ combiningClass mark

/-- Puts a letter together with the characters behind it; `marks` holds the reversed marks that
stay apart. -/
def composeFrom (letter : Char) (marks : List Char) : List Char → List Char
  | [] => letter :: marks.reverse
  | c :: rest =>
    match if isBlocked marks c then none else compose? letter c with
    | some whole => composeFrom whole marks rest
    | none =>
      if combiningClass c = 0 then letter :: (marks.reverse ++ composeFrom c [] rest)
      else composeFrom letter (c :: marks) rest

/-- The composed form of a text. -/
def composed (text : List Char) : List Char :=
  let isMark (c : Char) : Bool := combiningClass c ≠ 0
  let parts := decomposed text
  parts.takeWhile isMark ++
    match parts.dropWhile isMark with
    | [] => []
    | letter :: rest => composeFrom letter [] rest

end ExecutorRegistration.Text
