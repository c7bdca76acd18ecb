import ExecutorRegistration.Json.Printer
import ExecutorRegistration.Text.Quoted
import ExecutorRegistration.Text.Basic

/-!
# Faults in JSON text

A fault has a cause and a place. While a text is read the place is the number of octets left
behind it; `Position.ofOffset` turns it into a line, counted from one, and a column, the number of
octets of that line up to the place.
-/

namespace ExecutorRegistration.Json

/-- A place in a text. -/
structure Position where
  /-- The line, counted from one. -/
  line : Nat
  /-- The number of octets of the line before the place. -/
  column : Nat
deriving DecidableEq, Repr

/-- What a reader asks for. -/
inductive Expected where
  /-- An array. -/
  | sequence
  /-- A text. -/
  | text
  /-- An object. -/
  | map
  /-- A text that holds a value. -/
  | embeddedText
deriving DecidableEq, Repr

/-- What is wrong with a JSON text. -/
inductive Cause where
  /-- The text ends where a value is due or within a word or number. -/
  | endInValue
  /-- The text ends within an array. -/
  | endInList
  /-- The text ends within an object. -/
  | endInObject
  /-- The text ends within a quoted text. -/
  | endInString
  /-- A key is not followed by a colon. -/
  | expectedColon
  /-- An item is followed neither by a comma nor by the end of the array. -/
  | expectedListEnd
  /-- A member is followed neither by a comma nor by the end of the object. -/
  | expectedObjectEnd
  /-- No value starts with this character. -/
  | expectedValue
  /-- A word starts like `true`, `false` or `null` and goes on otherwise. -/
  | expectedWord
  /-- A key is no quoted text. -/
  | keyNotText
  /-- A comma stands before a closing bracket. -/
  | trailingComma
  /-- The value is followed by more than blanks. -/
  | trailingCharacters
  /-- A number lacks a digit or has a leading zero. -/
  | invalidNumber
  /-- A number is beyond the greatest floating-point number. -/
  | numberOutOfRange
  /-- A backslash is followed by no escape. -/
  | invalidEscape
  /-- An escaped surrogate has no partner before it, or its partner is none. -/
  | loneSurrogate
  /-- An escaped first surrogate is followed by no other escape. -/
  | unfinishedPair
  /-- A character below U+0020 stands within a quoted text. -/
  | controlCharacter
  /-- Too many brackets stand open. -/
  | tooDeep
  /-- The value is of another kind; of an array or object only the kind counts. -/
  | wrongKind (found : Json) (expected : Expected)
  /-- An embedded text is at fault, at a place of its own. -/
  | embedded (cause : Cause) (position : Position)
deriving Repr

/-- A cause and the number of octets of the text that are left behind its place. -/
structure Fault where
  /-- What is wrong. -/
  cause : Cause
  /-- How many octets are left. -/
  left : Nat
deriving Repr

/-- The number of octets of characters in UTF-8. -/
def octetLength (chars : List Char) : Nat :=
  chars.foldl (fun length c => length + c.utf8Size) 0

/-- A fault that lies before the characters. -/
def Fault.before (cause : Cause) (chars : List Char) : Fault := ⟨cause, octetLength chars⟩

/-- A fault that shows in the first octet of the characters, or at the end of the text. -/
def Fault.within (cause : Cause) (chars : List Char) : Fault := ⟨cause, octetLength chars - 1⟩

/-- The wording of what a reader asks for. -/
def Expected.message : Expected → String
  | sequence => "a sequence"
  | text => "a string"
  | map => "a map"
  | embeddedText => "raw value"

/-- The wording of a value of a kind that was not asked for. -/
def foundMessage : Json → String
  | null => "null"
  | bool value => "boolean `" ++ String.ofList (scalarText (bool value)) ++ "`"
  | integer value => "integer `" ++ String.ofList (scalarText (integer value)) ++ "`"
  | real value => "floating point `" ++ String.ofList (scalarText (real value)) ++ "`"
  | string value => "string " ++ Text.quote value
  | array _ => "sequence"
  | object _ => "map"

/-- The wording of a cause. -/
def Cause.message : Cause → String
  | endInValue => "EOF while parsing a value"
  | endInList => "EOF while parsing a list"
  | endInObject => "EOF while parsing an object"
  | endInString => "EOF while parsing a string"
  | expectedColon => "expected `:`"
  | expectedListEnd => "expected `,` or `]`"
  | expectedObjectEnd => "expected `,` or `\x7d`"
  | expectedValue => "expected value"
  | expectedWord => "expected ident"
  | keyNotText => "key must be a string"
  | trailingComma => "trailing comma"
  | trailingCharacters => "trailing characters"
  | invalidNumber => "invalid number"
  | numberOutOfRange => "number out of range"
  | invalidEscape => "invalid escape"
  | loneSurrogate => "lone leading surrogate in hex escape"
  | unfinishedPair => "unexpected end of hex escape"
  | controlCharacter => "control character (\\u0000-\\u001F) found while parsing a string"
  | tooDeep => "recursion limit exceeded"
  | wrongKind found expected =>
    "invalid type: " ++ foundMessage found ++ ", expected " ++ expected.message
  | embedded cause _ => cause.message

/-- The place `offset` octets behind `start`. -/
def Position.advance (start : Position) : (offset : Nat) → List Char → Position
  | 0, _ => start
  | _, [] => start
  | offset, c :: rest =>
    if offset < c.utf8Size then { start with column := start.column + offset }
    else if c = '\n' then advance ⟨start.line + 1, 0⟩ (offset - c.utf8Size) rest
    else advance { start with column := start.column + c.utf8Size } (offset - c.utf8Size) rest

/-- The place `offset` octets behind the start of a text. -/
def Position.ofOffset (offset : Nat) (chars : List Char) : Position :=
  Position.advance ⟨1, 0⟩ offset chars

/-- A cause with its place in a text. -/
structure ReadError where
  /-- What is wrong. -/
  cause : Cause
  /-- Where it shows. -/
  position : Position
deriving Repr

/-- The wording of an error. -/
def ReadError.message (error : ReadError) : String :=
  error.cause.message ++ " at line " ++ Text.decimal error.position.line ++ " column " ++
    Text.decimal error.position.column

/-- A fault with its place in the text that was read, or in the embedded text that is at fault. -/
def Fault.locate (chars : List Char) (fault : Fault) : ReadError :=
  match fault.cause with
  | .embedded cause position => ⟨cause, position⟩
  | cause => ⟨cause, Position.ofOffset (octetLength chars - fault.left) chars⟩

/-- An error in an embedded text as a fault of the text around it. -/
def Fault.ofEmbedded (error : ReadError) : Fault := ⟨.embedded error.cause error.position, 0⟩

end ExecutorRegistration.Json
