/-!
# Schemes and faults of URLs

A URL starts with its scheme and a colon. The scheme decides what may follow: the schemes of the
web have an authority with a domain name, files have a host and drives, and other schemes have
what they like.

A text that is no absolute URL has one of few faults.
-/

namespace ExecutorRegistration

/-- Why a text is no absolute URL. -/
inductive UrlFault where
  /-- The text has no scheme. -/
  | relative
  /-- The host is empty where there has to be one. -/
  | emptyHost
  /-- The port is no number below `2 ^ 16`. -/
  | invalidPort
  /-- The host ends in a number and is no address of four octets. -/
  | invalidIpv4
  /-- The host is in brackets and no address of eight pieces. -/
  | invalidIpv6
  /-- The host is no domain name. -/
  | invalidDomain
  /-- The host of a scheme without domain names holds a character that no host may hold. -/
  | invalidCharacter
deriving DecidableEq, Repr

/-- The wording of a fault. -/
def UrlFault.message : UrlFault → String
  | relative => "relative URL without a base"
  | emptyHost => "empty host"
  | invalidPort => "invalid port number"
  | invalidIpv4 => "invalid IPv4 address"
  | invalidIpv6 => "invalid IPv6 address"
  | invalidDomain => "invalid international domain name"
  | invalidCharacter => "invalid domain character"

namespace Url

/-- What kind of authority and path a scheme has. -/
inductive SchemeKind where
  /-- The scheme of files. -/
  | file
  /-- A scheme of the web. -/
  | special
  /-- Any other scheme. -/
  | other
deriving DecidableEq, Repr

/-- The kind of a scheme. -/
def SchemeKind.of (scheme : String) : SchemeKind :=
  if scheme = "file" then file
  else if ["http", "https", "ws", "wss", "ftp"].contains scheme then special
  else other

/-- Whether a character stands for a slash. -/
def SchemeKind.isSlash (kind : SchemeKind) (c : Char) : Bool :=
  c = '/' || (kind ≠ other && c = '\\')

/-- The usual port of a scheme. -/
def usualPort? (scheme : String) : Option Nat :=
  [("http", 80), ("https", 443), ("ws", 80), ("wss", 443), ("ftp", 21)].lookup scheme

/-- Whether a character may stand within a scheme. -/
def isSchemePart (c : Char) : Bool := c.isAlphanum || c = '+' || c = '-' || c = '.'

/-- Splits off the scheme and its colon. -/
def splitScheme? (text : List Char) : Option (String × List Char) :=
  if text.head?.any Char.isAlpha then
    match text.dropWhile isSchemePart with
    | ':' :: rest => some (String.ofList ((text.takeWhile isSchemePart).map Char.toLower), rest)
    | _ => none
  else none

end Url

end ExecutorRegistration
