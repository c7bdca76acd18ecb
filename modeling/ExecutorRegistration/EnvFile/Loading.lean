import ExecutorRegistration.EnvFile.Lines
import ExecutorRegistration.EnvFile.Value

/-!
# Loading a file of variables

Each line sets a variable: `KEY = VALUE`, with or without `export` before it. Blank lines and
comments do not count. A variable that is set already, in the environment or by an earlier line,
keeps its value.
-/

namespace ExecutorRegistration.EnvFile

/-- The rest of a line and the number of octets before it. -/
structure Cursor where
  /-- The characters that are left. -/
  rest : List Char
  /-- How many octets were taken. -/
  taken : Nat

/-- Takes characters as long as they satisfy a test. -/
def Cursor.takeWhile (cursor : Cursor) (test : Char → Bool) : List Char × Cursor :=
  let front := cursor.rest.takeWhile test
  (front,
    ⟨cursor.rest.dropWhile test, cursor.taken + (String.ofList front).utf8ByteSize⟩)

/-- Skips white space. -/
def Cursor.skipBlanks (cursor : Cursor) : Cursor := (cursor.takeWhile Text.isBlank).2

/-- Whether a key may start with a character. -/
def isKeyStart (c : Char) : Bool :=
  ('A' ≤ c && c ≤ 'Z') || ('a' ≤ c && c ≤ 'z') || c = '_'

/-- Whether a character may stand within a key. -/
def isKeyPart (c : Char) : Bool := isKeyStart c || ('0' ≤ c && c ≤ '9') || c = '.'

/-- Takes a key and the white space behind it. -/
def Cursor.key (cursor : Cursor) : Except Nat (String × Cursor) :=
  if cursor.rest.head?.any isKeyStart then
    let (key, behind) := cursor.takeWhile isKeyPart
    .ok (String.ofList key, behind.skipBlanks)
  else .error cursor.taken

/-- Takes an equals sign. -/
def Cursor.equals (cursor : Cursor) : Except Nat Cursor :=
  match cursor.rest with
  | '=' :: rest => .ok ⟨rest, cursor.taken + 1⟩
  | _ => .error cursor.taken

/-- Takes a key, with or without `export` before it, and the equals sign. On failure the number
of octets before the fault is returned. -/
def Cursor.assignment (cursor : Cursor) : Except Nat (String × Cursor) := do
  let (first, behind) ← cursor.key
  match behind.equals with
  | .ok value => .ok (first, value)
  | .error taken =>
    if first = "export" then
      let (second, behind) ← behind.key
      let value ← behind.equals
      .ok (second, value)
    else .error taken

/-- The variable that a line sets, if it sets one. -/
def readLine (lookup : String → Option String) (line : List Char) :
    Except EnvFileFault (Option (String × String)) :=
  let trimmed := (line.reverse.dropWhile Text.isBlank).reverse
  let cursor := Cursor.skipBlanks ⟨trimmed, 0⟩
  if cursor.rest.head?.all (· = '#') then .ok none
  else
    match cursor.assignment with
    | .error taken => .error (.malformed (String.ofList line) taken)
    | .ok (key, behind) =>
      let value := behind.skipBlanks.rest
      if value.head?.all (· = '#') then .ok (some (key, ""))
      else (readValue lookup value).map fun value => some (key, value)

/-- The variables of an environment together with added ones, which come second. -/
def extended (environment : String → Option String) (added : List (String × String)) :
    String → Option String :=
  fun name => (environment name).orElse fun _ => added.lookup name

/-- The variables that lines add to an environment; `added` holds those of earlier lines. -/
def addLines (environment : String → Option String) (added : List (String × String)) :
    List LogicalLine → Except EnvFileFault (List (String × String))
  | [] => .ok added
  | .unfinished text :: _ =>
    let shown := String.ofList text
    .error (.malformed shown shown.utf8ByteSize)
  | .unreadable reason :: _ => .error (.unreadable reason)
  | .complete line :: rest =>
    match readLine (extended environment added) line with
    | .error fault => .error fault
    | .ok none => addLines environment added rest
    | .ok (some (key, value)) =>
      if (extended environment added key).isSome then addLines environment added rest
      else addLines environment (added ++ [(key, value)]) rest

/-- The variables that a file adds to an environment. -/
def load (environment : String → Option String) (contents : Contents) :
    Except EnvFileFault (List (String × String)) :=
  addLines environment [] (logicalLines contents)

end ExecutorRegistration.EnvFile
