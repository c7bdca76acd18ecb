import ExecutorRegistration.Binary64.Shortest
import ExecutorRegistration.Json.Basic
import ExecutorRegistration.Hex

/-!
# Writing JSON

The compact text of a value has no blanks. The pretty text has one item or member per line, two
blanks of indentation per open bracket and one blank behind a colon; empty arrays and objects are
written `[]` and `{}`. In texts only the quote, the backslash and the characters below U+0020 are
escaped.
-/

namespace ExecutorRegistration.Json

/-- Numbers whose first digit stands from five places behind the point to fifteen places before
the last whole digit are written without an exponent. -/
def realLayout : Binary64.DecimalLayout := ⟨-5, 15⟩

/-- A character within a quoted text. -/
def escapeChar (c : Char) : List Char :=
  if c = '"' then ['\\', '"']
  else if c = '\\' then ['\\', '\\']
  else if c = '\x08' then ['\\', 'b']
  else if c = '\x0c' then ['\\', 'f']
  else if c = '\n' then ['\\', 'n']
  else if c = '\r' then ['\\', 'r']
  else if c = '\t' then ['\\', 't']
  else if c.toNat < 32 then
    ['\\', 'u', '0', '0', Hex.digit (c.toNat / 16), Hex.digit (c.toNat % 16)]
  else [c]

/-- A quoted text. -/
def quoted (text : String) : List Char :=
  '"' :: (text.toList.flatMap escapeChar ++ ['"'])

/-- The decimal digits of an integer behind its sign. -/
def integerDigits : Int → List Char
  | .ofNat value => Nat.toDigits 10 value
  | .negSucc value => '-' :: Nat.toDigits 10 (value + 1)

/-- A value without items and members. -/
def scalarText : Json → List Char
  | bool true => ['t', 'r', 'u', 'e']
  | bool false => ['f', 'a', 'l', 's', 'e']
  | integer value => integerDigits value
  | real value => value.render realLayout
  | string value => quoted value
  | _ => ['n', 'u', 'l', 'l']

mutual

/-- The characters of the compact text. -/
def compactChars : Json → List Char
  | array [] => ['[', ']']
  | array (item :: rest) => '[' :: (item.compactChars ++ compactItems rest)
  | object [] => ['{', '}']
  | object ((key, value) :: rest) =>
    '{' :: (quoted key ++ ':' :: (value.compactChars ++ compactMembers rest))
  | scalar => scalarText scalar

/-- Items behind the first one, and the closing bracket. -/
def compactItems : List Json → List Char
  | [] => [']']
  | item :: rest => ',' :: (item.compactChars ++ compactItems rest)

/-- Members behind the first one, and the closing bracket. -/
def compactMembers : List (String × Json) → List Char
  | [] => ['}']
  | (key, value) :: rest =>
    ',' :: (quoted key ++ ':' :: (value.compactChars ++ compactMembers rest))

end

/-- A new line with the indentation for `level` open brackets. -/
def newLine (level : Nat) : List Char := '\n' :: List.replicate (2 * level) ' '

mutual

/-- The characters of the pretty text of a value within `level` open brackets. -/
def prettyChars (level : Nat) : Json → List Char
  | array [] => ['[', ']']
  | array (item :: rest) =>
    '[' :: (newLine (level + 1) ++ (prettyChars (level + 1) item ++ prettyItems level rest))
  | object [] => ['{', '}']
  | object ((key, value) :: rest) =>
    '{' :: (newLine (level + 1) ++ (quoted key ++ ':' :: ' ' ::
      (prettyChars (level + 1) value ++ prettyMembers level rest)))
  | scalar => scalarText scalar

/-- Items behind the first one, and the closing bracket, which stands at `level`. -/
def prettyItems (level : Nat) : List Json → List Char
  | [] => newLine level ++ [']']
  | item :: rest =>
    ',' :: (newLine (level + 1) ++ (prettyChars (level + 1) item ++ prettyItems level rest))

/-- Members behind the first one, and the closing bracket, which stands at `level`. -/
def prettyMembers (level : Nat) : List (String × Json) → List Char
  | [] => newLine level ++ ['}']
  | (key, value) :: rest =>
    ',' :: (newLine (level + 1) ++ (quoted key ++ ':' :: ' ' ::
      (prettyChars (level + 1) value ++ prettyMembers level rest)))

end

/-- The text of a value without blanks. -/
def compact (value : Json) : String := String.ofList value.compactChars

/-- The text of a value with one item or member per line. -/
def pretty (value : Json) : String := String.ofList (value.prettyChars 0)

end ExecutorRegistration.Json
