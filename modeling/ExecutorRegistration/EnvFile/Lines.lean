import ExecutorRegistration.EnvFile.Basic

/-!
# Lines of a file of variables

A line ends at a line feed, unless a quote is open or the line feed stands behind a backslash
within quotes: quoted values may span lines. A number sign behind white space starts a comment,
which is cut off. Where something stands open at the very end of the file, be it only behind a
single white space, the line is unfinished, which is a fault.
-/

namespace ExecutorRegistration.EnvFile

/-- What stands open behind some characters of a line. -/
inductive LineState where
  /-- Nothing. -/
  | plain
  /-- Nothing, and the last character is white space within the line. -/
  | blank
  /-- A backslash. -/
  | escape
  /-- A single quote. -/
  | single
  /-- A backslash within single quotes. -/
  | singleEscape
  /-- A double quote. -/
  | double
  /-- A backslash within double quotes. -/
  | doubleEscape
  /-- A comment. -/
  | comment
deriving DecidableEq, Repr

/-- What stands open behind one more character that opens no comment. White space that follows
white space counts as plain. -/
def LineState.step (state : LineState) (c : Char) : LineState :=
  match state with
  | plain =>
    if Text.isBlank c && c ≠ '\n' && c ≠ '\r' then blank
    else if c = '\\' then escape else if c = '"' then double else if c = '\'' then single
    else plain
  | blank =>
    if c = '\\' then escape else if c = '"' then double else if c = '\'' then single else plain
  | escape => plain
  | single => if c = '\\' then singleEscape else if c = '\'' then plain else single
  | singleEscape => single
  | double => if c = '\\' then doubleEscape else if c = '"' then plain else double
  | doubleEscape => double
  | comment => comment

/-- What stands open behind the characters of a line, and the characters before a comment. -/
def scanLine : LineState → List Char → LineState × List Char
  | state, [] => (state, [])
  | state, c :: rest =>
    if state = .blank ∧ c = '#' then (.comment, [])
    else
      let (final, kept) := scanLine (state.step c) rest
      (final, c :: kept)

/-- A line without its end. -/
def dropLineEnd (line : List Char) : List Char :=
  match line.reverse with
  | '\n' :: '\r' :: rest => rest.reverse
  | '\n' :: rest => rest.reverse
  | _ => line

/-- One or more lines that belong together. -/
inductive LogicalLine where
  /-- A line in which nothing stands open at the end. -/
  | complete (text : List Char)
  /-- What is left of the file where something stands open at its end. -/
  | unfinished (text : List Char)
  /-- The first line that cannot be read, with the reason. -/
  | unreadable (reason : String)
deriving DecidableEq, Repr

/-- Joins lines as long as something stands open; `pending` holds what is joined so far. A fault of
the file shows behind the lines that can be read. -/
def joinLines (fault? : Option String) (state : LineState) (pending : List Char) :
    List (List Char) → List LogicalLine
  | [] =>
    match fault? with
    | some reason => [.unreadable reason]
    | none => if state = .plain then [] else [.unfinished pending]
  | line :: rest =>
    if (pending ++ line).dropWhile Text.isBlank |>.head? |>.any (· = '#') then
      .complete [] :: joinLines fault? .plain [] rest
    else
      let (final, kept) := scanLine state line
      match final with
      | .plain => .complete (dropLineEnd (pending ++ line)) :: joinLines fault? .plain [] rest
      | .comment => .complete (pending ++ kept) :: joinLines fault? .plain [] rest
      | opened => joinLines fault? opened (pending ++ line) rest

/-- The text without a byte order mark at its start. -/
def dropByteOrderMark : List Char → List Char
  | '\ufeff' :: rest => rest
  | text => text

/-- The lines of a file. -/
def logicalLines (contents : Contents) : List LogicalLine :=
  joinLines contents.fault? .plain [] (splitLines '\n' [] (dropByteOrderMark contents.text.toList))

end ExecutorRegistration.EnvFile
