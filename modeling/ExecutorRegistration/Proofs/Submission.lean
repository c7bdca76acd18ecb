import ExecutorRegistration.Proofs.Body
import ExecutorRegistration.Proofs.Registration.Report
import ExecutorRegistration.Proofs.Text.Trimming
import ExecutorRegistration.Submission

/-!
# What a submission sends

A submission sends one request or none. Nothing is sent unless the signature is accepted, a base
URL is set and its text is a URL, which are tested in this order; once a request is sent, the
outcome is what came back. The request holds the configuration that was signed.
-/

namespace ExecutorRegistration

open TypedData

variable {m : Type → Type} [Monad m]

/-! ## Requests that are sent -/

/-- The transport with the requests that it is given written down behind those before. -/
def Transport.recorded (transport : Transport m) : Transport (StateT (List Request) m) :=
  fun request requests => do
    let reply ← transport request
    return (reply, requests ++ [request])

/-- A submission with the requests that were sent before it and those sent after it. -/
def submitRecorded (transport : Transport m) (settings : Settings) (signature : String)
    (timestamp : UInt64) (requests : List Request) :
    m (Except SubmissionFault Outcome × List Request) :=
  (submit transport.recorded settings signature timestamp).run requests

/-- A request that registers settings under a base URL: it goes to the endpoint below the base
URL without slashes at its end, and holds the settings, a signature and a timestamp. -/
structure Request.Registers (request : Request) (settings : Settings) (base signature : String)
    (timestamp : UInt64) : Prop where
  url : ∃ stripped, Text.IsStripped '/' base stripped ∧
    request.url = stripped ++ "/v1/automations/executor"
  body : request.body =
    ((Payload.unsigned settings).withSignature signature timestamp).toJson.sorted
  signature : request.body.field? "signature" = some (.string signature)
  timestamp : request.body.field? "timestamp" = some (.ofUInt64 timestamp)

/-- What an outcome says of what came back. -/
inductive Outcome.Reports : Except TransportFault Response → Outcome → Prop where
  /-- A status from 200 to 299 is one of success. -/
  | registered (response : Response) (atLeast : 200 ≤ response.status.toNat)
      (below : response.status.toNat < 300) : Reports (.ok response) (.registered response.body)
  /-- Every other status is not. -/
  | rejected (response : Response)
      (other : response.status.toNat < 200 ∨ 300 ≤ response.status.toNat) :
      Reports (.ok response) (.rejected response.status response.body)
  /-- Without a response the reason is told. -/
  | failed (fault : TransportFault) : Reports (.error fault) (.failed fault.message)

/-- A submission ends with a fault and sends nothing. -/
def Refuses (submission : List Request → m (Except SubmissionFault Outcome × List Request))
    (fault : SubmissionFault) : Prop :=
  ∀ requests, submission requests = pure (.error fault, requests)

/-- A submission sends one request over a transport, and ends with what came back. -/
def SendsOnce (transport : Transport m)
    (submission : List Request → m (Except SubmissionFault Outcome × List Request))
    (request : Request) : Prop :=
  ∃ outcome : Except TransportFault Response → Outcome,
    (∀ reply, Outcome.Reports reply (outcome reply)) ∧
    ∀ requests, submission requests =
      (fun reply => (.ok (outcome reply), requests ++ [request])) <$> transport request

/-- Writing requests down does not change what becomes of a submission. -/
theorem fst_submitRecorded [LawfulMonad m] (transport : Transport m) (settings : Settings)
    (signature : String) (timestamp : UInt64) (requests : List Request) :
    Prod.fst <$> submitRecorded transport settings signature timestamp requests =
      submit transport settings signature timestamp := by
  rw [submitRecorded, submit, submit]
  cases prepare settings signature timestamp with
  | error fault => simp
  | ok payload =>
      dsimp only
      rw [send, send]
      cases registrationRequest settings payload with
      | error fault => simp
      | ok request =>
          dsimp only
          rw [StateT.run_bind]
          change Prod.fst <$> ((transport request >>= _) >>= _) = _
          simp

theorem Response.isSuccess_iff (response : Response) :
    response.isSuccess = true ↔ 200 ≤ response.status.toNat ∧ response.status.toNat < 300 := by
  rw [isSuccess, Bool.and_eq_true, decide_eq_true_iff, decide_eq_true_iff, UInt16.le_iff_toNat_le,
    UInt16.lt_iff_toNat_lt]
  exact Iff.rfl

theorem Outcome.reports_ofReply (reply : Except TransportFault Response) :
    Reports reply (ofReply reply) := by
  cases reply with
  | error fault => exact .failed fault
  | ok response =>
      rw [ofReply]
      by_cases success : response.isSuccess = true
      · rw [if_pos success]
        obtain ⟨atLeast, below⟩ := response.isSuccess_iff.mp success
        exact .registered response atLeast below
      · rw [if_neg success]
        have other := mt response.isSuccess_iff.mpr success
        exact .rejected response (by omega)

theorem send_of_error {transport : Transport m} {settings : Settings} {payload : Payload}
    {fault : SubmissionFault} (refused : registrationRequest settings payload = .error fault) :
    send transport settings payload = pure (.error fault) := by
  rw [send, refused]

theorem send_of_ok {transport : Transport m} {settings : Settings} {payload : Payload}
    {request : Request} (accepted : registrationRequest settings payload = .ok request) :
    send transport settings payload = do
      let reply ← transport request
      return .ok (Outcome.ofReply reply) := by
  rw [send, accepted]

theorem submit_of_error {transport : Transport m} {settings : Settings} {signature : String}
    {timestamp : UInt64} {fault : SignatureFault}
    (refused : Signature.normalize signature = .error fault) :
    submit transport settings signature timestamp = pure (.error (.signature fault)) := by
  rw [submit, prepare, refused]

theorem submit_of_ok {transport : Transport m} {settings : Settings} {signature : String}
    {timestamp : UInt64} {normalized : String}
    (accepted : Signature.normalize signature = .ok normalized) :
    submit transport settings signature timestamp =
      send transport settings ((Payload.unsigned settings).withSignature normalized timestamp) := by
  rw [submit, prepare, accepted]

/-- A request that is sent is written down once, and the outcome is what came back. -/
theorem run_send_recorded [LawfulMonad m] {transport : Transport m} {settings : Settings}
    {payload : Payload} {request : Request}
    (accepted : registrationRequest settings payload = .ok request) (requests : List Request) :
    (send transport.recorded settings payload).run requests =
      (fun reply => (.ok (Outcome.ofReply reply), requests ++ [request])) <$>
        transport request := by
  rw [send_of_ok accepted, StateT.run_bind]
  change (transport request >>= _) >>= _ = _
  simp only [bind_assoc, pure_bind, map_eq_pure_bind]
  rfl

/-- A base URL is accepted if it is set and a URL. -/
theorem Settings.requireApiBaseUrl_eq_ok_iff (settings : Settings) (base : String) :
    settings.requireApiBaseUrl = .ok base ↔
      settings.apiBaseUrl = some base ∧ ∃ url, Url.parse base = .ok url := by
  unfold requireApiBaseUrl
  cases settings.apiBaseUrl with
  | none => simp
  | some text =>
      dsimp only
      cases parsed : Url.parse text with
      | error fault =>
          simp only [Option.some.injEq, reduceCtorEq, false_iff, not_and, not_exists]
          rintro rfl url found
          cases parsed.symm.trans found
      | ok url =>
          simp only [Except.ok.injEq, Option.some.injEq]
          exact ⟨fun same => ⟨same, url, same ▸ parsed⟩, fun found => found.1⟩

/-- A base URL that is a URL is where a request goes. -/
theorem registrationRequest_of_base {settings : Settings} {base : String} {url : Url}
    (isSet : settings.apiBaseUrl = some base) (accepted : Url.parse base = .ok url)
    (payload : Payload) :
    registrationRequest settings payload = .ok ⟨endpoint base, payload.toJson.sorted⟩ := by
  rw [registrationRequest, (settings.requireApiBaseUrl_eq_ok_iff base).mpr ⟨isSet, url, accepted⟩]

theorem registrationRequest_registers {settings : Settings} {base : String} {url : Url}
    (isSet : settings.apiBaseUrl = some base) (accepted : Url.parse base = .ok url)
    (signature : String) (timestamp : UInt64) :
    ∃ request, registrationRequest settings
        ((Payload.unsigned settings).withSignature signature timestamp) = .ok request ∧
      request.Registers settings base signature timestamp := by
  let payload := (Payload.unsigned settings).withSignature signature timestamp
  obtain ⟨-, -, signatureField, -, timestampField, -⟩ := payload.fields_toJson
  exact ⟨_, registrationRequest_of_base isSet accepted payload,
    { url := ⟨_, Text.isStripped_trimEnd '/' base, rfl⟩
      body := rfl
      signature := signatureField
      timestamp := timestampField }⟩

theorem submitRecorded_refuses {transport : Transport m} {settings : Settings}
    {signature normalized : String} {timestamp : UInt64} {fault : SettingsFault}
    (accepted : Signature.normalize signature = .ok normalized)
    (refused : settings.requireApiBaseUrl = .error fault) :
    Refuses (submitRecorded transport settings signature timestamp) (.settings fault) := by
  have noRequest : registrationRequest settings
      ((Payload.unsigned settings).withSignature normalized timestamp) =
        .error (.settings fault) := by
    rw [registrationRequest, refused]
  intro requests
  rw [submitRecorded, submit_of_ok accepted, send_of_error noRequest]
  rfl

theorem submitRecorded_sendsOnce [LawfulMonad m] (transport : Transport m) {settings : Settings}
    {signature normalized base : String} (timestamp : UInt64) {url : Url}
    (accepted : Signature.normalize signature = .ok normalized)
    (isSet : settings.apiBaseUrl = some base) (isUrl : Url.parse base = .ok url) :
    ∃ request, request.Registers settings base normalized timestamp ∧
      SendsOnce transport (submitRecorded transport settings signature timestamp) request := by
  obtain ⟨request, sent, registers⟩ :=
    registrationRequest_registers isSet isUrl normalized timestamp
  refine ⟨request, registers, Outcome.ofReply, Outcome.reports_ofReply, fun requests => ?_⟩
  rw [submitRecorded, submit_of_ok accepted, run_send_recorded sent]

/-- A submission refuses the signature, then a base URL that is not set, then one that is no URL;
in these cases it sends nothing. Otherwise it sends one request, which registers the settings
with the normalized signature. So a fault is one of these three, and there is none once a request
is sent. -/
theorem submit_refuses_or_sends_once [LawfulMonad m] (transport : Transport m)
    (settings : Settings) (signature : String) (timestamp : UInt64) :
    (∀ fault, Signature.normalize signature = .error fault →
      Refuses (submitRecorded transport settings signature timestamp) (.signature fault)) ∧
    (∀ normalized, Signature.normalize signature = .ok normalized →
      (settings.apiBaseUrl = none →
        Refuses (submitRecorded transport settings signature timestamp)
          (.settings (.missingVariable .apiBaseUrl))) ∧
      ∀ base, settings.apiBaseUrl = some base →
        (∀ fault, Url.parse base = .error fault →
          Refuses (submitRecorded transport settings signature timestamp)
            (.settings (.invalidUrl .apiBaseUrl fault))) ∧
        ∀ url, Url.parse base = .ok url →
          ∃ request, request.Registers settings base normalized timestamp ∧
            SendsOnce transport (submitRecorded transport settings signature timestamp)
              request) ∧
    ((∃ fault,
        ((∃ refused, fault = .signature refused) ∨
          fault = .settings (.missingVariable .apiBaseUrl) ∨
          ∃ invalid, fault = .settings (.invalidUrl .apiBaseUrl invalid)) ∧
        Refuses (submitRecorded transport settings signature timestamp) fault) ∨
      ∃ request,
        SendsOnce transport (submitRecorded transport settings signature timestamp) request) := by
  have unset (isNone : settings.apiBaseUrl = none) :
      settings.requireApiBaseUrl = .error (.missingVariable .apiBaseUrl) := by
    rw [Settings.requireApiBaseUrl, isNone]
  have invalid {base : String} {fault : UrlFault} (isSet : settings.apiBaseUrl = some base)
      (refused : Url.parse base = .error fault) :
      settings.requireApiBaseUrl = .error (.invalidUrl .apiBaseUrl fault) := by
    rw [Settings.requireApiBaseUrl, isSet]
    dsimp only
    rw [refused]
  have refusesSignature (fault : SignatureFault)
      (refused : Signature.normalize signature = .error fault) :
      Refuses (submitRecorded transport settings signature timestamp) (.signature fault) := by
    intro requests
    rw [submitRecorded, submit_of_error refused]
    rfl
  refine ⟨refusesSignature, fun normalized accepted => ⟨fun isNone => ?_, fun base isSet =>
    ⟨fun fault refused => ?_, fun url isUrl => ?_⟩⟩, ?_⟩
  · exact submitRecorded_refuses accepted (unset isNone)
  · exact submitRecorded_refuses accepted (invalid isSet refused)
  · exact submitRecorded_sendsOnce transport timestamp accepted isSet isUrl
  · cases accepted : Signature.normalize signature with
    | error fault => exact .inl ⟨_, .inl ⟨fault, rfl⟩, refusesSignature fault accepted⟩
    | ok normalized =>
        cases isSet : settings.apiBaseUrl with
        | none =>
            exact .inl ⟨_, .inr (.inl rfl), submitRecorded_refuses accepted (unset isSet)⟩
        | some base =>
            cases parsed : Url.parse base with
            | error fault =>
                exact .inl ⟨_, .inr (.inr ⟨fault, rfl⟩),
                  submitRecorded_refuses accepted (invalid isSet parsed)⟩
            | ok url =>
                obtain ⟨request, -, sends⟩ :=
                  submitRecorded_sendsOnce transport timestamp accepted isSet parsed
                exact .inr ⟨request, sends⟩

/-- Settings with a base URL that ends in slashes. -/
def slashedSettings : Settings where
  executor := capitalMark
  apiBaseUrl := some "https://api.example.com//"

/-- A signature with a recovery id of 0. -/
def lowSignature : String :=
  "0x" ++ String.ofList (List.replicate 128 'a') ++ "00"

/-- The signature with its recovery id raised. -/
def raisedSignature : String :=
  "0x" ++ String.ofList (List.replicate 128 'a') ++ "1b"

theorem normalize_lowSignature : Signature.normalize lowSignature = .ok raisedSignature := by
  decide +kernel

theorem parse_slashed : ∃ url, Url.parse "https://api.example.com//" = .ok url :=
  (isSome_toOption_iff _).mp (by decide +kernel)

/-- One request goes to the endpoint, with the raised signature. -/
theorem submit_slashedSettings :
    ∃ request, request.url = "https://api.example.com/v1/automations/executor" ∧
      request.body.field? "signature" = some (.string raisedSignature) ∧
      SendsOnce (m := Id) (fun _ => .ok ⟨201, "created"⟩)
        (submitRecorded (m := Id) (fun _ => .ok ⟨201, "created"⟩) slashedSettings lowSignature
          1700000000000) request := by
  obtain ⟨url, parsed⟩ := parse_slashed
  have accepted := (submit_refuses_or_sends_once (m := Id) (fun _ => .ok ⟨201, "created"⟩)
    slashedSettings lowSignature 1700000000000).2.1 raisedSignature normalize_lowSignature
  obtain ⟨request, registers, sends⟩ := (accepted.2 _ rfl).2 url parsed
  obtain ⟨stripped, isStripped, url_eq⟩ := registers.url
  refine ⟨request, ?_, registers.signature, sends⟩
  rw [url_eq, (Text.isStripped_iff _ _ _).mp isStripped]
  decide +kernel

/-! ## What was signed -/

/-- What is sent is what was signed. The configuration can be read from every signed body, with
the timestamp that is submitted; and if the timestamp of a report is submitted, both digests of
the report are those of the configuration in the body that is sent. -/
theorem body_determines_digests :
    (∀ (settings : Settings) (signature normalized : String) (timestamp : UInt64),
      Signature.normalize signature = .ok normalized →
        ∃ payload, prepare settings signature timestamp = .ok payload ∧
          ExecutorConfig.ofBody? payload.toJson.sorted =
            some { settings.executor with timestamp }) ∧
    ∀ (m : Type → Type) [Monad m] [LawfulMonad m] (transport : Transport m) (settings : Settings)
      (report : SigningReport) (signature normalized base : String) (url : Url),
      (SigningReport.generate typedDataHasher settings).run = .ok report →
      Signature.normalize signature = .ok normalized →
      settings.apiBaseUrl = some base → Url.parse base = .ok url →
        ∃ request config text safe,
          SendsOnce transport (submitRecorded transport settings signature report.timestamp)
            request ∧
          ExecutorConfig.ofBody? request.body = some config ∧
          executorDigest config = .ok report.dataHash ∧
          config.safe = .ok (text, safe) ∧
          safeMessageDigest report.dataHash.toList config.chainId safe =
            .ok report.safeMessageHash := by
  constructor
  · intro settings signature normalized timestamp accepted
    refine ⟨_, ?_, ExecutorConfig.ofBody?_withSignature settings normalized timestamp⟩
    rw [prepare, accepted]
  · intro m _ _ transport settings report signature normalized base url generated accepted isSet
      isUrl
    obtain ⟨registration, text, denotes, safe, rfl⟩ := (generate_eq_ok_iff _ _).mp generated
    obtain ⟨request, registers, sends⟩ :=
      submitRecorded_sendsOnce transport registration.timestamp accepted isSet isUrl
    have config_eq : { settings.executor with timestamp := registration.timestamp } =
        settings.executor := by
      rw [← denotes.timestamp]
    refine ⟨request, settings.executor, text, registration.executor, sends, ?_,
      denotes.executorDigest, safe, ?_⟩
    · rw [registers.body, ExecutorConfig.ofBody?_withSignature, config_eq]
    · rw [denotes.chainId]
      exact safeMessageDigest_eq _ _ _

/-- A report and a submission of the same settings have the same digests. -/
theorem digests_of_slashedSettings :
    ∃ report request config,
      (SigningReport.generate typedDataHasher slashedSettings).run = .ok report ∧
      SendsOnce (m := Id) (fun _ => .error ⟨"refused"⟩)
        (submitRecorded (m := Id) (fun _ => .error ⟨"refused"⟩) slashedSettings lowSignature
          report.timestamp) request ∧
      ExecutorConfig.ofBody? request.body = some config ∧
      executorDigest config = .ok report.dataHash := by
  obtain ⟨registration, denotes⟩ := capitalMark.isSignable_iff.mp isSignable_capitalMark
  obtain ⟨executor, safe⟩ := denotes.safe
  have generated := (generate_eq_ok_iff slashedSettings _).mpr
    ⟨registration, executor, denotes, safe, rfl⟩
  obtain ⟨url, parsed⟩ := parse_slashed
  obtain ⟨request, config, -, -, sends, read, digest, -⟩ :=
    body_determines_digests.2 Id (fun _ => .error ⟨"refused"⟩) slashedSettings _ lowSignature
      raisedSignature _ url generated normalize_lowSignature rfl parsed
  exact ⟨_, request, config, generated, sends, read, digest⟩

end ExecutorRegistration
