import ExecutorRegistration.Text.Basic

/-!
# Files of variables

A file is read line by line. Reading ends early at a line whose octets are no text, or where the
file cannot be read at all; the lines before it count.
-/

namespace ExecutorRegistration

/-- Why a file of variables cannot be loaded. -/
inductive EnvFileFault where
  /-- A line, or the value in it, is malformed. The index says where: in octets within a line, in
  characters within a value. -/
  | malformed (text : String) (index : Nat)
  /-- The file cannot be read to its end, for a reason in words. -/
  | unreadable (reason : String)
deriving DecidableEq, Repr

/-- The wording of a fault. -/
def EnvFileFault.message : EnvFileFault → String
  | malformed text index =>
    "Error parsing line: '" ++ text ++ "', error at line index: " ++ Text.decimal index
  | unreadable reason => reason

namespace EnvFile

/-- What can be read of a file. -/
structure Contents where
  /-- The text of the lines that can be read. -/
  text : String
  /-- Why no more lines can be read, if there are more. -/
  fault? : Option String := none
deriving DecidableEq, Repr

/-- The lines of a file, each with its line feed; `line` holds the reversed line so far. -/
def splitLines {α : Type} [DecidableEq α] (lineFeed : α) (line : List α) : List α → List (List α)
  | [] => if line = [] then [] else [line.reverse]
  | c :: rest =>
    if c = lineFeed then (c :: line).reverse :: splitLines lineFeed [] rest
    else splitLines lineFeed (c :: line) rest

/-- Why a line of octets cannot be read that is no text. -/
def notText : String := "stream did not contain valid UTF-8"

/-- What can be read of lines of octets. -/
def Contents.ofLines : List (List UInt8) → Contents
  | [] => ⟨"", none⟩
  | line :: rest =>
    match Text.decodeUtf8? line with
    | none => ⟨"", some notText⟩
    | some text =>
      let behind := ofLines rest
      ⟨text ++ behind.text, behind.fault?⟩

/-- What can be read of octets. -/
def Contents.ofOctets (octets : List UInt8) : Contents :=
  ofLines (splitLines 0x0A [] octets)

end EnvFile

/-- A file of variables. -/
structure EnvFile where
  /-- Where it was found. -/
  path : String
  /-- What can be read of it. -/
  contents : EnvFile.Contents
deriving DecidableEq, Repr

end ExecutorRegistration
