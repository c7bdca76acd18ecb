import ExecutorRegistration.Text.Composed
import ExecutorRegistration.Text.Basic
import ExecutorRegistration.Url.DirectionTables
import ExecutorRegistration.Url.DomainTables
import ExecutorRegistration.Url.JoiningTables
import ExecutorRegistration.Url.Punycode

/-!
# Domain names

A domain name is mapped character by character, composed, taken apart at its dots, and checked
label by label. Labels that start with `xn--` are decoded first, and have to hold what mapping and
composing leave as it is. A label may not start with a mark, may hold the invisible joiners only
between letters that they join, and has to keep to one direction if any label holds letters that
run from right to left. The hyphens of a label are not checked, nor is its length as long as it
can be coded.
-/

namespace ExecutorRegistration.Url

/-- Whether no host may hold an ASCII character. -/
def isForbidden (c : Char) : Bool :=
  c.toNat ≤ 32 || c.toNat = 127 || "%#/:<>?@[\\]^|".toList.contains c

/-- The run of an ascending table that may hold a code point, and the place of the code point in
it. -/
def runAt? {α : Type} (runs : List (Nat × α)) (code : Nat) : Option (α × Nat) :=
  ((runs.takeWhile fun (first, _) => first ≤ code).getLast?).map
    fun (first, run) => (run, code - first)

/-- The characters that stand for a character by the tables of replacements. -/
def replacement? (c : Char) : Option (List Char) :=
  let single := (runAt? characterReplacements c.toNat).bind
    fun (text, place) => text.toList[place]?.map ([·])
  single.orElse fun _ =>
    (runAt? textReplacements c.toNat).bind
      fun (texts, place) => texts[place]?.map String.toList

/-- The characters that stand for a character, unless it is refused. -/
def mapChar? (c : Char) : Option (List Char) :=
  if c.toNat < 128 then some [c.toLower]
  else if Text.inRanges refusedRanges c then none
  else if Text.inRanges ignoredRanges c then some []
  else some ((replacement? c).getD [c])

/-- The parts of a text between dots. -/
def splitLabels (label : List Char) : List Char → List (List Char)
  | [] => [label.reverse]
  | c :: rest =>
    if c = '.' then label.reverse :: splitLabels [] rest else splitLabels (c :: label) rest

/-- Whether a character may come out of decoding: it is neither forbidden nor changed. -/
def isStable (c : Char) : Bool := !isForbidden c && mapChar? c = some [c]

/-- How many characters may follow `xn--`. -/
def maxCodeLength : Nat := 2000

/-- How many characters a label may hold if some are beyond ASCII. -/
def maxLabelLength : Nat := 1000

/-- Whether a label is in ASCII. -/
def isAscii (label : List Char) : Bool := label.all fun c => c.toNat < 128

/-- The characters that a label stands for. -/
def decodeLabel? (label : List Char) : Option (List Char) :=
  match label with
  | 'x' :: 'n' :: '-' :: '-' :: code =>
    if isAscii code && code.length ≤ maxCodeLength then
      (Punycode.decode? code).filter fun decoded =>
        !isAscii decoded && decoded.all isStable && Text.composed decoded = decoded
    else none
  | _ => some label

/-- Whether the letters around an invisible joiner are joined across it; `before` is reversed. -/
def isJoined (before behind : List Char) : Bool :=
  let transparent := Text.inRanges transparentRanges
  (before.dropWhile transparent).head?.any (Text.inRanges joinsNextRanges) &&
    (behind.dropWhile transparent).head?.any (Text.inRanges joinsPreviousRanges)

/-- The combining class of the signs that take the vowel from a letter. -/
def viramaClass : Nat := 9

/-- Whether the invisible joiners stand only where they may; `before` is reversed. -/
def joinersValid (before : List Char) : List Char → Bool
  | [] => true
  | c :: rest =>
    let behindVirama := before.head?.any fun mark => Text.combiningClass mark = viramaClass
    let valid :=
      if c = '\u200d' then behindVirama
      else if c = '\u200c' then behindVirama || isJoined before rest
      else true
    valid && joinersValid (c :: before) rest

/-- The direction of a character. -/
inductive Direction where
  /-- A letter that runs from left to right. -/
  | leftToRight
  /-- A letter that runs from right to left. -/
  | rightToLeft
  /-- An Arabic digit. -/
  | arabicNumber
  /-- A European digit. -/
  | europeanNumber
  /-- A separator, sign or symbol. -/
  | neutral
  /-- A mark. -/
  | nonspacing
  /-- A blank or control. -/
  | unordered
deriving DecidableEq, Repr

/-- The direction of a character. -/
def directionOf (c : Char) : Direction :=
  if Text.inRanges rightToLeftRanges c then .rightToLeft
  else if Text.inRanges arabicNumberRanges c then .arabicNumber
  else if Text.inRanges europeanNumberRanges c then .europeanNumber
  else if Text.inRanges neutralRanges c then .neutral
  else if Text.inRanges nonspacingRanges c then .nonspacing
  else if Text.inRanges unorderedRanges c then .unordered
  else .leftToRight

/-- Whether a label keeps to the direction of its first character. -/
def directionValid (label : List Char) : Bool :=
  let directions := label.map directionOf
  let last := (directions.reverse.dropWhile (· = .nonspacing)).head?
  match directions.head? with
  | none => true
  | some .leftToRight =>
    directions.all (fun direction =>
      direction ≠ .rightToLeft && direction ≠ .arabicNumber && direction ≠ .unordered) &&
      (last = some .leftToRight || last = some .europeanNumber)
  | some .rightToLeft =>
    directions.all (fun direction => direction ≠ .leftToRight && direction ≠ .unordered) &&
      (last = some .rightToLeft || last = some .europeanNumber || last = some .arabicNumber) &&
      !(directions.contains .europeanNumber && directions.contains .arabicNumber)
  | some _ => false

/-- Whether a label holds a character that makes directions matter. -/
def hasRightToLeft (label : List Char) : Bool :=
  label.any fun c => directionOf c = .rightToLeft || directionOf c = .arabicNumber

/-- Whether a label is valid but for its directions. -/
def labelValid (label : List Char) : Bool :=
  !label.head?.any (Text.inRanges markRanges) && joinersValid [] label &&
    (isAscii label || label.length ≤ maxLabelLength)

/-- A label in ASCII. -/
def encodeLabel (label : List Char) : List Char :=
  if isAscii label then label
  else 'x' :: 'n' :: '-' :: '-' :: Punycode.encode label

/-- The ASCII form of a domain name. -/
def domainToAscii? (name : List Char) : Option String := do
  let mapped ← name.mapM mapChar?
  let labels ← (splitLabels [] (Text.composed mapped.flatten)).mapM decodeLabel?
  if labels.flatten.any isForbidden then none
  else if !labels.all labelValid then none
  else if labels.any hasRightToLeft && !labels.all directionValid then none
  else some (".".intercalate (labels.map fun label => String.ofList (encodeLabel label)))

end ExecutorRegistration.Url
