import ExecutorRegistration.Console
import ExecutorRegistration.Json.Reader
import ExecutorRegistration.Submission
import ExecutorRegistration.Surroundings

/-!
# The command line

A run has one of two commands: `generate` reports what has to be signed, and `submit` sends the
signed registration. The arguments are read first; a run whose arguments ask for help or are
refused does nothing else. Then the clock is read, and then the settings.

`course` says what a run writes and with which status it ends, for any transport, with all that it
notes. Of this a `run` writes what the filter of the environment admits: it is chosen before
anything else, so a file of variables has no part in it.
-/

namespace ExecutorRegistration

/-! ## Completions -/

/-- What a run writes about its course. -/
inductive Remark where
  /-- An event of the log. -/
  | logged (event : LogEvent)
  /-- A text for those who have started the run. -/
  | told (text : String)
deriving DecidableEq, Repr

/-- The text that is told, if one is. -/
def Remark.told? : Remark → Option String
  | logged _ => none
  | told text => some text

/-- Whether a remark is written with a filter for the log. -/
def Remark.isWritten (admits : LogFilter) : Remark → Bool
  | logged event => admits event
  | told _ => true

/-- How a run ends and what it has written. -/
structure Completion where
  /-- The status: zero for success. -/
  exitCode : UInt8
  /-- What it has written as its result. -/
  stdout : String
  /-- What it has written about its course. -/
  stderr : List Remark
deriving DecidableEq, Repr

namespace Completion

/-- What a run has told about its course. -/
def told (completion : Completion) : String :=
  String.join (completion.stderr.filterMap Remark.told?)

/-- The completion with the events that a filter admits. -/
def admitted (admits : LogFilter) (completion : Completion) : Completion :=
  { completion with stderr := completion.stderr.filter (Remark.isWritten admits) }

/-- The completion of a run that has noted events before. -/
def behind (events : List LogEvent) (completion : Completion) : Completion :=
  { completion with stderr := events.map .logged ++ completion.stderr }

/-- A run that fails with a message after it has written something. -/
def failure (written message : String) : Completion where
  exitCode := 1
  stdout := written
  stderr := [.logged (.commandFailed message), .told ("Error: " ++ message ++ "\n")]

end Completion

/-- A body as it is shown: pretty if it is JSON, and else as it is. -/
def shownBody (body : String) : String :=
  match Json.parse body with
  | .ok value => value.pretty
  | .error _ => body

/-- A run that has sent a registration. -/
def Completion.ofOutcome (written : String) : Outcome → Completion
  | .registered body => ⟨0, written ++ "registered executor: " ++ shownBody body ++ "\n", []⟩
  | .rejected status body =>
    ⟨0, written,
      [.logged (.registrationRejected status),
       .told ("error registering executor (" ++ Text.decimal status.toNat ++ "): " ++
        shownBody body ++ "\n")]⟩
  | .failed message =>
    ⟨0, written,
      [.logged (.requestFailed message),
       .told ("error registering executor: " ++ message ++ "\n")]⟩

/-! ## Commands -/

/-- Reports what has to be signed. -/
def runGenerate (settings : Settings) : Completion :=
  let config := settings.executor
  let asked := LogEvent.digestAsked (config.query .registerExecutor)
  match Id.run (SigningReport.generate typedDataHasher settings) with
  | .error fault => (Completion.failure "" fault.message).behind [asked]
  | .ok report =>
    let digest := Hex.encode report.dataHash.toList
    let generated := config.executor.toList.map (LogEvent.reportGenerated config)
    Completion.behind (asked :: generated)
      ⟨0, "actual " ++ digest ++ "\n" ++ report.toJson.pretty ++ "\n", []⟩

/-- What is noted while a signature that is accepted is normalized. -/
def signatureEvents (signature : String) : List LogEvent :=
  match Signature.raised? signature with
  | some value => [.recoveryIdRaised value (value + Signature.recoveryOffset)]
  | none => []

/-- The transport of a body that notes what is sent and what comes back. -/
def Transport.noting {m : Type → Type} [Monad m] (transport : Transport m) (payload : Payload) :
    Transport (StateT (List LogEvent) m) := fun request events => do
  let reply ← transport request
  let answered : List LogEvent :=
    match reply with
    | .ok response => [.responded request.url response.status]
    | .error _ => []
  return (reply, events ++ .submitting request.url payload :: answered)

/-- Writes the signed body and sends it. -/
def runSubmit {m : Type → Type} [Monad m] (transport : Transport m) (settings : Settings)
    (signature : String) (timestamp : UInt64) : m Completion :=
  match prepare settings signature timestamp with
  | .error fault => return .failure "" fault.message
  | .ok payload => do
    let written := payload.toJson.pretty ++ "\n"
    let (sent, events) ← (send (transport.noting payload) settings payload).run
      (signatureEvents signature)
    match sent with
    | .error fault => return (Completion.failure written fault.message).behind events
    | .ok outcome => return (Completion.ofOutcome written outcome).behind events

/-- A run with settings. -/
def Command.run {m : Type → Type} [Monad m] (transport : Transport m) (settings : Settings) :
    Command → m Completion
  | generate => return runGenerate settings
  | submit signature timestamp => runSubmit transport settings signature timestamp

/-! ## Runs -/

/-- A run with all that it notes. -/
def course {m : Type → Type} [Monad m] (console : Console) (transport : Transport m)
    (surroundings : Surroundings) (arguments : List String) : m Completion :=
  match Invocation.read arguments with
  | .refused => return ⟨2, "", [.told (console.complaint arguments)]⟩
  | .help topic => return ⟨0, console.help topic, []⟩
  | .version => return ⟨0, console.version, []⟩
  | .command command =>
    match surroundings.settings with
    | .error fault => return (Completion.failure "" fault.message).behind surroundings.events
    | .ok settings => do
      let completion ← command.run transport settings
      return completion.behind surroundings.events

/-- A whole run. -/
def run {m : Type → Type} [Monad m] (console : Console) (transport : Transport m)
    (surroundings : Surroundings) (arguments : List String) : m Completion := do
  let completion ← course console transport surroundings arguments
  return completion.admitted (console.filter surroundings.environment)

end ExecutorRegistration
