import ExecutorRegistration.Payload
import ExecutorRegistration.Signature
import ExecutorRegistration.Text.Basic

/-!
# Submitting a registration

A registration is sent by one request, and only if its signature and the base URL are accepted.
What comes back, or that nothing does, is an outcome and not a fault.

The transport is a parameter. `scriptedTransport` answers with prescribed replies and records the
requests.
-/

namespace ExecutorRegistration

/-- What an API answers to a request. -/
structure Response where
  /-- The status. -/
  status : UInt16
  /-- The body. -/
  body : String
deriving DecidableEq, Repr

/-- Whether the status is one of success, from 200 to 299. -/
def Response.isSuccess (response : Response) : Bool :=
  200 ≤ response.status && response.status < 300

/-- Why a request has no response. -/
structure TransportFault where
  /-- The reason in words. -/
  reason : String
deriving DecidableEq, Repr

/-- The wording of a fault. -/
def TransportFault.message (fault : TransportFault) : String :=
  "request failed: " ++ fault.reason

/-- A request that posts a JSON value. -/
structure Request where
  /-- Where it is sent. -/
  url : String
  /-- What is posted, with ascending keys. -/
  body : Json
deriving Repr

/-- What carries requests, with effects in `m`. -/
abbrev Transport (m : Type → Type) := Request → m (Except TransportFault Response)

/-- What became of a registration that was sent. -/
inductive Outcome where
  /-- The API accepted it. -/
  | registered (body : String)
  /-- The API answered with a status that is none of success. -/
  | rejected (status : UInt16) (body : String)
  /-- No response was received. -/
  | failed (message : String)
deriving DecidableEq, Repr

/-- What became of a registration, by what came back. -/
def Outcome.ofReply : Except TransportFault Response → Outcome
  | .ok response =>
    if response.isSuccess then .registered response.body
    else .rejected response.status response.body
  | .error fault => .failed fault.message

/-- Why nothing is sent. -/
inductive SubmissionFault where
  /-- The base URL is not set or not a URL. -/
  | settings (fault : SettingsFault)
  /-- The signature is refused. -/
  | signature (fault : SignatureFault)
deriving Repr

/-- The wording of a fault. -/
def SubmissionFault.message : SubmissionFault → String
  | settings fault => fault.message
  | signature fault => fault.message

/-- The path of the endpoint for registrations. -/
def registrationPath : String := "/v1/automations/executor"

/-- The URL of the endpoint for registrations under a base URL. -/
def endpoint (base : String) : String := Text.trimEnd '/' base ++ registrationPath

/-- The signed body for settings; the signature is normalized. -/
def prepare (settings : Settings) (signature : String) (timestamp : UInt64) :
    Except SubmissionFault Payload :=
  match Signature.normalize signature with
  | .error fault => .error (.signature fault)
  | .ok normalized => .ok ((Payload.unsigned settings).withSignature normalized timestamp)

/-- The request that sends a body to the endpoint of the settings. -/
def registrationRequest (settings : Settings) (payload : Payload) :
    Except SubmissionFault Request :=
  match settings.requireApiBaseUrl with
  | .error fault => .error (.settings fault)
  | .ok base => .ok ⟨endpoint base, payload.toJson.sorted⟩

/-- Sends a body by one request. -/
def send {m : Type → Type} [Monad m] (transport : Transport m) (settings : Settings)
    (payload : Payload) : m (Except SubmissionFault Outcome) :=
  match registrationRequest settings payload with
  | .error fault => return .error fault
  | .ok request => do
    let reply ← transport request
    return .ok (Outcome.ofReply reply)

/-- Builds the signed body for settings and sends it. -/
def submit {m : Type → Type} [Monad m] (transport : Transport m) (settings : Settings)
    (signature : String) (timestamp : UInt64) : m (Except SubmissionFault Outcome) :=
  match prepare settings signature timestamp with
  | .error fault => return .error fault
  | .ok payload => send transport settings payload

/-- Replies that are still to be given and requests that were made. -/
structure TransportLog where
  /-- The replies to the next requests. -/
  replies : List (Except TransportFault Response)
  /-- The requests made, first one first. -/
  requests : List Request

/-- The transport that gives prescribed replies, fails when there are none left, and records all
requests. -/
def scriptedTransport : Transport (StateM TransportLog) := fun request log =>
  match log.replies with
  | [] => (.error ⟨"no reply queued"⟩, ⟨[], log.requests ++ [request]⟩)
  | reply :: rest => (reply, ⟨rest, log.requests ++ [request]⟩)

end ExecutorRegistration
