import ExecutorRegistration.Url.Encoding

/-!
# Paths

A path is written segment by segment, percent-encoded. A segment of one dot is left out, and one
of two dots takes the segment before it away, unless that one names a drive. The path of a file
starts with one slash only, and a drive at its start has a colon and stands for the host.
-/

namespace ExecutorRegistration.Url

/-- A part of a path between slashes. -/
structure Segment where
  /-- The text of the segment. -/
  text : List Char
  /-- Whether a slash follows. -/
  closed : Bool
  /-- How many characters of the path stand behind the segment and its slash. -/
  left : Nat
deriving DecidableEq, Repr

/-- The parts between slashes of a path of `length` characters; `segment` holds the reversed
segment so far. -/
def splitSegments (kind : SchemeKind) (segment : List Char) :
    (length : Nat) → List Char → List Segment
  | _, [] => [⟨segment.reverse, false, 0⟩]
  | length, c :: rest =>
    if kind.isSlash c then
      ⟨segment.reverse, true, length - 1⟩ :: splitSegments kind [] (length - 1) rest
    else splitSegments kind (c :: segment) (length - 1) rest

/-- The segment with escaped dots written as dots. -/
def plainDots : List Char → List Char
  | '%' :: '2' :: 'e' :: rest => '.' :: plainDots rest
  | '%' :: '2' :: 'E' :: rest => '.' :: plainDots rest
  | c :: rest => c :: plainDots rest
  | [] => []

/-- Whether a text starts with a letter and a colon or bar, as drives are named, and no more of
the segment follows. -/
def startsWithDrive : List Char → Bool
  | letter :: mark :: rest =>
    letter.isAlpha && (mark = ':' || mark = '|') && rest.head?.all "/\\?#".toList.contains
  | _ => false

/-- Whether a text is a letter and a colon or bar. -/
def isDrive (text : List Char) : Bool := text.length = 2 && startsWithDrive text

/-- A path that is being written. -/
structure PathDraft where
  /-- The path so far, reversed; it ends in a slash wherever a segment may follow. -/
  written : List Char := ['/']
  /-- Whether a drive stands for the host. -/
  hasDrive : Bool := false
deriving DecidableEq, Repr

/-- The draft without its last segment, unless that is a drive or there is none. -/
def PathDraft.removeLast (draft : PathDraft) : PathDraft :=
  let front := draft.written.drop 1
  let segment := (front.takeWhile (· ≠ '/')).reverse
  let before := front.dropWhile (· ≠ '/')
  if before = [] ∨ startsWithDrive (segment ++ ['/']) then draft
  else { draft with written := before }

/-- The draft with characters behind it, and a slash behind them if the segment is closed. -/
def PathDraft.put (draft : PathDraft) (text : List Char) (closed : Bool) : PathDraft :=
  { draft with
    written := (if closed then ['/'] else []) ++ (text.reverse ++ draft.written) }

/-- Whether a segment starts with a letter and a colon that a tab or line break separates from
what follows. -/
def Segment.isBrokenDrive (breaks : List Nat) (segment : Segment) : Bool :=
  match segment.text with
  | letter :: ':' :: c :: rest =>
    letter.isAlpha &&
      breaks.contains ((c :: rest).length + segment.closed.toNat + segment.left)
  | _ => false

/-- The draft with one more segment; `breaks` lists how many characters of the path stand behind
each tab or line break that was left out. -/
def PathDraft.append (kind : SchemeKind) (breaks : List Nat) (draft : PathDraft)
    (segment : Segment) : PathDraft :=
  let encoded := percentEncode encodedInPath segment.text
  let isFirst := kind = .file ∧ draft.written = ['/']
  if isFirst ∧ segment.isBrokenDrive breaks then
    (draft.put (encoded.take 2) true).put (encoded.drop 2) segment.closed
  else if plainDots segment.text = ['.', '.'] then draft.removeLast
  else if plainDots segment.text = ['.'] then draft
  else if isFirst ∧ isDrive segment.text then
    { draft.put (segment.text.take 1 ++ [':']) segment.closed with hasDrive := true }
  else draft.put encoded segment.closed

/-- The draft of a path behind its first slash. -/
def PathDraft.of (kind : SchemeKind) (breaks : List Nat) (text : List Char) : PathDraft :=
  (splitSegments kind [] text.length text).foldl (PathDraft.append kind breaks) {}

/-- The path that was drafted. -/
def PathDraft.path (kind : SchemeKind) (draft : PathDraft) : List Char :=
  let path := draft.written.reverse
  if kind = .file then '/' :: path.dropWhile (· = '/') else path

end ExecutorRegistration.Url
