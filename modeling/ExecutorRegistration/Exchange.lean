import ExecutorRegistration.Submission

/-!
# Exchanges with an API

A request goes to a URL of the web that it can name. Credentials in the URL are sent apart and are
not part of the URL that a fault shows. What listens there decides whether a response comes back.
Interim responses do not count, and a response counts only with its whole body. A response is a
status and a body. It has no headers, so that a redirect leads nowhere here.

`exchange` is the transport to one listener; it records the requests as they arrive.
-/

namespace ExecutorRegistration

/-- What listens at the address of an API. -/
inductive Listener where
  /-- Nothing does. -/
  | absent
  /-- A server that answers each request alike; its bodies break off `missing` octets before the
  end that it announces. -/
  | answers (response : Response) (missing : Nat)
deriving DecidableEq, Repr

/-- A request as it arrives. -/
structure Arrival where
  /-- The method. -/
  method : String
  /-- The path and the query. -/
  target : String
  /-- The media type of the body. -/
  contentType : String
  /-- The body. -/
  body : String
deriving DecidableEq, Repr

/-- Why a request has no response. -/
inductive ExchangeFault where
  /-- The text is no URL. -/
  | malformedUrl
  /-- The URL is none of the web. -/
  | foreignUrl (url : Url)
  /-- No request can name the URL. -/
  | unsendableUrl (url : Url)
  /-- Nothing listens at the URL, or there is no final response. -/
  | unanswered (url : Url)
  /-- The body of the response breaks off. -/
  | incompleteBody
deriving DecidableEq, Repr

/-- The wording of a fault. -/
def ExchangeFault.message : ExchangeFault → String
  | malformedUrl => "builder error"
  | foreignUrl url => "builder error for url (" ++ url.render ++ ")"
  | unsendableUrl url => "builder error for url (" ++ url.render ++ ")"
  | unanswered url => "error sending request for url (" ++ url.render ++ ")"
  | incompleteBody => "error decoding response body"

/-- A part of credentials decoded, if it is text. -/
def decodeCredential? (text : List Char) : Option String :=
  Text.decodeUtf8? (Url.percentDecode text)

/-- The name within credentials. -/
def credentialName (credentials : List Char) : List Char :=
  credentials.takeWhile fun c => c ≠ ':' && c ≠ '@'

/-- The password within credentials, if there is one. -/
def credentialPassword? (credentials : List Char) : Option (List Char) :=
  match credentials.dropWhile fun c => c ≠ ':' && c ≠ '@' with
  | ':' :: rest => some (rest.takeWhile (· ≠ '@'))
  | _ => none

/-- Whether credentials can be sent apart: the name is text, and there is a name or the password
is text. -/
def credentialsSendable (credentials : List Char) : Bool :=
  match decodeCredential? (credentialName credentials) with
  | none => false
  | some name =>
    name ≠ "" || ((credentialPassword? credentials).bind decodeCredential?).isSome

/-- The URL without credentials that can be sent apart. -/
def Url.withoutCredentials (url : Url) : Url :=
  if credentialsSendable url.credentials then { url with credentials := [] } else url

/-- How many octets a request may need to name its URL. -/
def maxUrlLength : Nat := 65534

/-- Whether a request can name a URL: it is not too long, and its host holds no quotes or
braces. -/
def Url.isSendable (url : Url) : Bool :=
  url.render.utf8ByteSize ≤ maxUrlLength &&
    !((url.host.map Host.render).getD []).any "\"`\x7b\x7d".toList.contains

/-- The URL of the web that a text denotes. -/
def destination (text : String) : Except ExchangeFault Url :=
  match Url.parse text with
  | .error _ => .error .malformedUrl
  | .ok url =>
    let url := url.withoutCredentials
    if url.scheme ≠ "http" ∧ url.scheme ≠ "https" then .error (.foreignUrl url)
    else if !url.isSendable then .error (.unsendableUrl url)
    else .ok url

/-- A request as it arrives at its destination. -/
def Arrival.of (destination : Url) (request : Request) : Arrival where
  method := "POST"
  target := String.ofList destination.target
  contentType := "application/json"
  body := request.body.compact

/-- The text without a byte order mark at its start. -/
def dropByteOrderMark (text : String) : String :=
  match text.toList with
  | '\uFEFF' :: rest => String.ofList rest
  | _ => text

/-- Whether a response with a status is final: a status has three digits, and those below 200 are
interim but for the one that switches protocols. -/
def statusIsFinal (status : UInt16) : Bool :=
  status = 101 || (200 ≤ status && status ≤ 999)

/-- Whether a response with a status has a body. -/
def statusHasBody (status : UInt16) : Bool := status ≠ 101 && status ≠ 204 && status ≠ 304

/-- What is received of a response whose body lacks `missing` octets. -/
def receive (response : Response) (missing : Nat) : Except ExchangeFault Response :=
  if !statusHasBody response.status then .ok { response with body := "" }
  else if missing = 0 then .ok { response with body := dropByteOrderMark response.body }
  else .error .incompleteBody

/-- What comes back from a destination. -/
def Listener.reply (listener : Listener) (destination : Url) : Except ExchangeFault Response :=
  match listener with
  | absent => .error (.unanswered destination)
  | answers response missing =>
    if statusIsFinal response.status then receive response missing
    else .error (.unanswered destination)

/-- What arrives of a request at a destination. -/
def Listener.arrivals (listener : Listener) (destination : Url) (request : Request) :
    List Arrival :=
  match listener with
  | absent => []
  | answers _ _ => [Arrival.of destination request]

/-- The transport to a listener, with the requests that have arrived as its state. -/
def exchange (listener : Listener) : Transport (StateM (List Arrival)) := fun request arrivals =>
  match destination request.url with
  | .error fault => (.error ⟨fault.message⟩, arrivals)
  | .ok url =>
    ((listener.reply url).mapError fun fault => ⟨fault.message⟩,
      arrivals ++ listener.arrivals url request)

end ExecutorRegistration
