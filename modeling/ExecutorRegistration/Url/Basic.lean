import ExecutorRegistration.Url.Host
import ExecutorRegistration.Url.Path

/-!
# Absolute URLs

A text is read as a scheme, an authority where the scheme has one, a path, a query and a fragment.
Controls and blanks at the ends and all tabs and line breaks do not count. The schemes of the web
have domain names and always a host; for them a backslash is as good as a slash.
-/

namespace ExecutorRegistration

/-- An absolute URL. -/
structure Url where
  /-- The scheme in lower case. -/
  scheme : String
  /-- The credentials before the host, percent-encoded, with their sign; empty if there are none. -/
  credentials : List Char := []
  /-- The host, if there is an authority. -/
  host : Option Url.Host := none
  /-- The port, unless it is the usual one of the scheme. -/
  port : Option Nat := none
  /-- The path, percent-encoded. -/
  path : List Char
  /-- The query, percent-encoded. -/
  query : Option (List Char) := none
  /-- The fragment, percent-encoded. -/
  fragment : Option (List Char) := none
deriving DecidableEq, Repr

namespace Url

/-- The text without controls and blanks at its ends. -/
def trim (text : List Char) : List Char :=
  let isEnd (c : Char) : Bool := c.toNat ≤ 32
  ((text.dropWhile isEnd).reverse.dropWhile isEnd).reverse

/-- Whether a character is a tab or line break, which do not count. -/
def isBreak (c : Char) : Bool := c = '\t' || c = '\n' || c = '\r'

/-- The characters of a text that count. -/
def significant (text : List Char) : List Char := text.filter fun c => !isBreak c

/-- How many characters that count stand behind each tab or line break. -/
def breaksOf (text : List Char) : List Nat :=
  (text.foldr
    (fun c (count, breaks) => if isBreak c then (count, count :: breaks) else (count + 1, breaks))
    ((0, []) : Nat × List Nat)).2

/-! ## Path, query and fragment -/

/-- Splits a text before the first character that satisfies a test. -/
def splitBefore (test : Char → Bool) (text : List Char) : List Char × List Char :=
  (text.takeWhile fun c => !test c, text.dropWhile fun c => !test c)

/-- Reads a query and a fragment. -/
def splitTail (kind : SchemeKind) (text : List Char) : Option (List Char) × Option (List Char) :=
  let (front, behind) := splitBefore (· = '#') text
  let query :=
    match front with
    | '?' :: query => some (percentEncode (encodedInQuery kind) query)
    | _ => none
  let fragment :=
    match behind with
    | '#' :: fragment => some (percentEncode encodedInFragment fragment)
    | _ => none
  (query, fragment)

/-- A URL with the path, query and fragment that follow the first slash of the path; the breaks
are those of the whole text. -/
def withRootedPath (kind : SchemeKind) (breaks : List Nat) (url : Url) (text : List Char) : Url :=
  let (path, tail) := splitBefore (fun c => c = '?' || c = '#') text
  let draft := PathDraft.of kind (breaks.map (· - tail.length)) path
  let (query, fragment) := splitTail kind tail
  { url with
    host := if draft.hasDrive then some (.domain "") else url.host
    path := draft.path kind
    query
    fragment }

/-- A URL with the path, query and fragment that follow its authority. -/
def withPath (kind : SchemeKind) (breaks : List Nat) (url : Url) (text : List Char) : Url :=
  if kind = .other ∧ text.head?.all (fun c => c = '?' || c = '#') then
    let (query, fragment) := splitTail kind text
    { url with path := [], query, fragment }
  else
    withRootedPath kind breaks url (if text.head?.any kind.isSlash then text.drop 1 else text)

/-! ## Authority -/

/-- Splits off the credentials, which reach to the last at sign of the authority. There are none
if nothing stands before it; in that case a host has to follow. -/
def splitCredentials (kind : SchemeKind) (text : List Char) :
    Except UrlFault (List Char × List Char) :=
  let isEnd (c : Char) : Bool := kind.isSlash c || c = '?' || c = '#'
  let (authority, path) := splitBefore isEnd text
  let host := (authority.reverse.takeWhile (· ≠ '@')).reverse
  let credentials := authority.take (authority.length - host.length - 1)
  if host.length = authority.length then .ok ([], text)
  else if credentials = [] ∧ host = [] ∧ path ≠ [] then .error .emptyHost
  else .ok (credentials, host ++ path)

/-- Credentials as they are written: name, colon and password with what is empty left out, and
the at sign. -/
def renderCredentials (credentials : List Char) : List Char :=
  let (name, behind) := splitBefore (· = ':') credentials
  let password := behind.drop 1
  let encode := percentEncode encodedInCredentials
  if name = [] ∧ password = [] then []
  else
    encode name ++ (if password = [] then [] else ':' :: encode password) ++ ['@']

/-- Splits off the host: up to a slash, query, fragment, or a colon that is not in brackets. -/
def splitHost (kind : SchemeKind) (bracketed : Bool) : List Char → List Char × List Char
  | [] => ([], [])
  | c :: rest =>
    if (c = ':' ∧ !bracketed) ∨ kind.isSlash c ∨ c = '?' ∨ c = '#' then ([], c :: rest)
    else
      let bracketed := if c = '[' then true else if c = ']' then false else bracketed
      let (host, behind) := splitHost kind bracketed rest
      (c :: host, behind)

/-- Reads the digits of a port; none at all are no port. -/
def readPort (value : Option Nat) : List Char → Except UrlFault (Option Nat × List Char)
  | [] => .ok (value, [])
  | c :: rest =>
    match Text.decimalDigit? c with
    | some digit =>
      let next := 10 * value.getD 0 + digit
      if next < UInt16.size then readPort (some next) rest else .error .invalidPort
    | none =>
      if c = '/' ∨ c = '\\' ∨ c = '?' ∨ c = '#' then .ok (value, c :: rest)
      else .error .invalidPort

/-- Reads a port, if there is one. -/
def splitPort : List Char → Except UrlFault (Option Nat × List Char)
  | ':' :: rest => readPort none rest
  | text => .ok (none, text)

/-- Reads what follows the host of an authority. -/
def parseBehindHost (kind : SchemeKind) (scheme : String) (credentials : List Char) (host : Host)
    (text : List Char) : Except UrlFault Url :=
  if host = .domain "" ∧ text.head? = some ':' then .error .emptyHost
  else do
    let (port, text) ← splitPort text
    let credentials := renderCredentials credentials
    if host = .domain "" ∧ credentials ≠ [] then .error .emptyHost
    else
      .ok <| withPath kind []
        { scheme
          credentials
          host := some host
          port := port.filter fun port => usualPort? scheme ≠ some port
          path := [] }
        text

/-- Reads an authority and what follows it. -/
def parseAuthority (kind : SchemeKind) (scheme : String) (text : List Char) :
    Except UrlFault Url := do
  let (credentials, text) ← splitCredentials kind text
  let (hostText, text) := splitHost kind false text
  if hostText = [] ∧ kind ≠ .other then .error .emptyHost
  else
    let host ← if kind = .other then parseOpaqueHost hostText else parseDomainHost hostText
    parseBehindHost kind scheme credentials host text

/-- Reads what follows the scheme of files. Behind an empty host the first slash of the path does
not count as written, so that no drive can stand behind it. -/
def parseFile (breaks : List Nat) (text : List Char) : Except UrlFault Url :=
  let kind := SchemeKind.file
  let bare : Url := { scheme := "file", host := some (.domain ""), path := [] }
  match text with
  | first :: second :: rest =>
    if kind.isSlash first && kind.isSlash second then
      let (hostText, behind) := splitBefore (fun c => kind.isSlash c || c = '?' || c = '#') rest
      if isDrive hostText then .ok (withRootedPath kind breaks bare rest)
      else if hostText = [] then .ok (withRootedPath kind breaks bare behind)
      else do
        let host ← parseDomainHost hostText
        if host = .domain "localhost" then .ok (withRootedPath kind breaks bare behind)
        else .ok (withPath kind breaks { bare with host := some host } behind)
    else .ok (withPath kind breaks bare text)
  | text => .ok (withPath kind breaks bare text)

/-- Reads what follows any other scheme. -/
def parseOther (scheme : String) (text : List Char) : Except UrlFault Url :=
  match text with
  | '/' :: '/' :: rest => parseAuthority .other scheme rest
  | '/' :: rest => .ok (withRootedPath .other [] { scheme, path := [] } rest)
  | text =>
    let (path, tail) := splitBefore (fun c => c = '?' || c = '#') text
    let (query, fragment) := splitTail .other tail
    .ok { scheme, path := percentEncode (fun c => c.toNat < 32) path, query, fragment }

/-- Reads an absolute URL. -/
def parse (text : String) : Except UrlFault Url :=
  let trimmed := trim text.toList
  match splitScheme? (significant trimmed) with
  | none => .error .relative
  | some (scheme, rest) =>
    match SchemeKind.of scheme with
    | .file => parseFile (breaksOf trimmed) rest
    | .special => parseAuthority .special scheme (rest.dropWhile SchemeKind.special.isSlash)
    | .other => parseOther scheme rest

/-- What is asked of the host: path and query. -/
def target (url : Url) : List Char :=
  url.path ++ (url.query.map ('?' :: ·)).getD []

/-- The text of a URL. Without an authority, a path that starts with two slashes has a dot before
it. -/
def render (url : Url) : String :=
  let authority :=
    match url.host with
    | none => if url.path.take 2 = ['/', '/'] then ['/', '.'] else []
    | some host =>
      '/' :: '/' :: (url.credentials ++ host.render ++
        (url.port.map fun port => ':' :: Nat.toDigits 10 port).getD [])
  String.ofList (url.scheme.toList ++ ':' :: authority ++ url.target ++
    (url.fragment.map ('#' :: ·)).getD [])

end Url

end ExecutorRegistration
