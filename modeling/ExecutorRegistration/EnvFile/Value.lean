import ExecutorRegistration.EnvFile.Basic
import ExecutorRegistration.Text.Alphanumeric

/-!
# Values in a file of variables

Within single quotes all characters stand for themselves. Elsewhere a backslash escapes the next
character, a double quote opens or closes a quotation, and a dollar sign starts a reference: the
letters and digits behind it, or all characters in braces behind it, name a variable whose value
is put in place. Outside of quotes a blank ends the value, and only a comment may follow.

A character that ends a bare reference is taken as it is, even if it is a quote.
-/

namespace ExecutorRegistration.EnvFile

/-- A quotation that is open. -/
inductive Quotation where
  /-- None. -/
  | none
  /-- One in single quotes. -/
  | single
  /-- One in double quotes. -/
  | double
deriving DecidableEq, Repr

/-- A reference that is open, with the reversed name so far. -/
inductive Reference where
  /-- None. -/
  | none
  /-- A bare name. -/
  | bare (name : List Char)
  /-- A name in braces. -/
  | braced (name : List Char)
deriving DecidableEq, Repr

/-- The state of a reader within a value. -/
structure ValueState where
  /-- The open quotation. -/
  quotation : Quotation := .none
  /-- The open reference. -/
  reference : Reference := .none
  /-- Whether the last character was a backslash that escapes. -/
  escaped : Bool := false
  /-- Whether the value has ended. -/
  ended : Bool := false
  /-- The value so far, reversed. -/
  output : List Char := []
deriving DecidableEq, Repr

/-- What becomes of the state with a character. -/
inductive Step where
  /-- The reader goes on. -/
  | next (state : ValueState)
  /-- A comment starts. -/
  | stop
  /-- The character may not stand here. -/
  | refuse
deriving DecidableEq, Repr

/-- The state with characters put out. -/
def ValueState.put (state : ValueState) (text : List Char) : ValueState :=
  { state with output := text.reverse ++ state.output }

/-- The character that stands for an escaped one. -/
def escaped? (c : Char) : Option Char :=
  if c = '\\' ∨ c = '\'' ∨ c = '"' ∨ c = '$' ∨ c = ' ' then some c
  else if c = 'n' then some '\n'
  else none

/-- The value under a name. A name with an equals sign stands for what follows the text behind the
sign, if the value of the variable before the sign starts with that text and another sign. -/
def namedValue? (lookup : String → Option String) (name : List Char) : Option (List Char) :=
  let value? (key : List Char) : Option (List Char) :=
    (lookup (String.ofList key)).map String.toList
  match name.dropWhile (· ≠ '=') with
  | [] => value? name
  | _ :: start => do
    let value ← value? (name.takeWhile (· ≠ '='))
    let behind := start ++ ['=']
    if behind.isPrefixOf value then some (value.drop behind.length) else none

/-- The characters that a reversed name refers to. -/
def referred (lookup : String → Option String) (name : List Char) : List Char :=
  (namedValue? lookup name.reverse).getD []

/-- A step outside of references and escapes. -/
def ValueState.stepPlain (state : ValueState) (c : Char) : ValueState :=
  match state.quotation with
  | .single => if c = '\'' then { state with quotation := .none } else state.put [c]
  | .double =>
    if c = '$' then { state with reference := .bare [] }
    else if c = '"' then { state with quotation := .none }
    else if c = '\\' then { state with escaped := true }
    else state.put [c]
  | .none =>
    if c = '$' then { state with reference := .bare [] }
    else if c = '\'' then { state with quotation := .single }
    else if c = '"' then { state with quotation := .double }
    else if c = '\\' then { state with escaped := true }
    else if c = ' ' ∨ c = '\t' then { state with ended := true }
    else state.put [c]

/-- A step within a bare reference. -/
def ValueState.stepBare (lookup : String → Option String) (state : ValueState) (name : List Char)
    (c : Char) : ValueState :=
  if Text.isAlphanumeric c then { state with reference := .bare (c :: name) }
  else if c = '\x7b' ∧ name = [] then { state with reference := .braced [] }
  else
    let filled := state.put (referred lookup name)
    if c = '$' then { filled with reference := .bare [] }
    else { filled with reference := .none }.put [c]

/-- A step within a reference in braces. -/
def ValueState.stepBraced (lookup : String → Option String) (state : ValueState)
    (name : List Char) (c : Char) : ValueState :=
  if c = '\x7d' then { state with reference := .none }.put (referred lookup name)
  else { state with reference := .braced (c :: name) }

/-- A step with any character. -/
def ValueState.step (lookup : String → Option String) (state : ValueState) (c : Char) : Step :=
  if state.ended then
    if c = ' ' ∨ c = '\t' then .next state else if c = '#' then .stop else .refuse
  else if state.escaped then
    match escaped? c with
    | some value => .next ({ state with escaped := false }.put [value])
    | none => .refuse
  else
    match state.reference with
    | .none => .next (state.stepPlain c)
    | .bare name => .next (state.stepBare lookup name c)
    | .braced name => .next (state.stepBraced lookup name c)

/-- The value, if nothing stands open at its end. -/
def ValueState.finish? (lookup : String → Option String) (state : ValueState) :
    Option (List Char) :=
  if state.quotation ≠ .none then none
  else
    match state.reference with
    | .none => some state.output.reverse
    | .bare name => some (state.put (referred lookup name)).output.reverse
    | .braced _ => none

/-- Reads a value from the `index`-th of its characters on. On failure the index of the character
at fault is returned, or none if the value is not finished. -/
def readFrom (lookup : String → Option String) (state : ValueState) (index : Nat) :
    List Char → Except (Option Nat) (List Char)
  | [] =>
    match state.finish? lookup with
    | some value => .ok value
    | none => .error none
  | c :: rest =>
    match state.step lookup c with
    | .next state => readFrom lookup state (index + 1) rest
    | .stop =>
      match state.finish? lookup with
      | some value => .ok value
      | none => .error none
    | .refuse => .error (some index)

/-- Reads a value; references are looked up. -/
def readValue (lookup : String → Option String) (text : List Char) :
    Except EnvFileFault String :=
  let shown := String.ofList text
  match readFrom lookup {} 0 text with
  | .ok value => .ok (String.ofList value)
  | .error (some index) => .error (.malformed shown index)
  | .error none => .error (.malformed shown (shown.utf8ByteSize - 1))

end ExecutorRegistration.EnvFile
