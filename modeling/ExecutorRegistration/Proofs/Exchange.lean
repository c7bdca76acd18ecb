import ExecutorRegistration.Exchange
import ExecutorRegistration.Proofs.Submission

/-!
# What is reported of an exchange

A response that arrives whole is reported with its status. One whose body breaks off is reported as
failed whatever its status is, as if there had been no response, although the server has received
the request.
-/

namespace ExecutorRegistration

/-! ## Responses that arrive -/

/-- The status and the headers of a response arrive for what is posted to a URL, and `missing`
octets of the announced body do not. -/
structure Listener.Responds (listener : Listener) (target : String) (response : Response)
    (missing : Nat) : Prop where
  reached : ∃ url, destination target = .ok url
  answers : listener = .answers response missing
  final : statusIsFinal response.status = true

/-- Nothing is missing of the body of a response, or it has no body. -/
def Response.ArrivesWhole (response : Response) (missing : Nat) : Prop :=
  statusHasBody response.status = true → missing = 0

/-- The response as it is received: without a body, or without a byte order mark. -/
def Response.received (response : Response) : Response where
  status := response.status
  body := if statusHasBody response.status then dropByteOrderMark response.body else ""

theorem receive_of_whole {response : Response} {missing : Nat}
    (whole : response.ArrivesWhole missing) :
    receive response missing = .ok response.received := by
  unfold receive Response.received
  by_cases hasBody : statusHasBody response.status = true
  · simp [hasBody, whole hasBody]
  · simp [hasBody]

theorem receive_of_not_whole {response : Response} {missing : Nat}
    (broken : ¬ response.ArrivesWhole missing) :
    receive response missing = .error .incompleteBody := by
  obtain ⟨hasBody, isMissing⟩ := Classical.not_imp.mp broken
  simp [receive, hasBody, isMissing]

/-! ## Transports to a listener -/

/-- A server that responds has received the request, and what comes back is what it receives of
the response. -/
theorem Listener.Responds.run_exchange {listener : Listener} {response : Response} {missing : Nat}
    (request : Request) (responds : listener.Responds request.url response missing)
    (arrivals : List Arrival) :
    ∃ arrival, (exchange listener request).run arrivals =
      ((receive response missing).mapError fun fault => ⟨fault.message⟩,
        arrivals ++ [arrival]) := by
  obtain ⟨⟨url, reached⟩, rfl, final⟩ := responds
  refine ⟨Arrival.of url request, ?_⟩
  change exchange _ _ _ = _
  simp [exchange, reached, Listener.reply, final, Listener.arrivals]

/-- Where nobody responds, there is a fault. -/
theorem exists_fault_of_not_responds {listener : Listener} (request : Request)
    (silent : ∀ response missing, ¬ listener.Responds request.url response missing)
    (arrivals : List Arrival) :
    ∃ fault, ((exchange listener request).run arrivals).1 = .error fault := by
  change ∃ fault, (exchange listener request arrivals).1 = _
  unfold exchange
  cases reached : destination request.url with
  | error fault => exact ⟨_, rfl⟩
  | ok url =>
      cases listener with
      | absent => exact ⟨_, rfl⟩
      | answers response missing =>
          have notFinal : ¬ statusIsFinal response.status = true := fun final =>
            silent response missing ⟨⟨url, reached⟩, rfl, final⟩
          dsimp only [Listener.reply]
          rw [if_neg notFinal]
          exact ⟨_, rfl⟩

/-- There is a fault unless a response arrives whole. -/
theorem exchange_fails_iff (listener : Listener) (request : Request) (arrivals : List Arrival) :
    (∃ fault, ((exchange listener request).run arrivals).1 = .error fault) ↔
      ∀ response missing, listener.Responds request.url response missing →
        ¬ response.ArrivesWhole missing := by
  constructor
  · rintro ⟨fault, failed⟩ response missing responds whole
    obtain ⟨arrival, ran⟩ := responds.run_exchange request arrivals
    rw [ran, receive_of_whole whole] at failed
    cases failed
  · intro noWhole
    by_cases responds : ∃ response missing, listener.Responds request.url response missing
    · obtain ⟨response, missing, responds⟩ := responds
      obtain ⟨arrival, ran⟩ := responds.run_exchange request arrivals
      rw [ran, receive_of_not_whole (noWhole response missing responds)]
      exact ⟨_, rfl⟩
    · exact exists_fault_of_not_responds request
        (fun response missing found => responds ⟨response, missing, found⟩) arrivals

/-! ## What is reported -/

/-- A fault is reported as such, and a response never is. -/
theorem Outcome.Reports.exists_failed_iff {reply : Except TransportFault Response}
    {outcome : Outcome} (reports : Outcome.Reports reply outcome) :
    (∃ message, outcome = .failed message) ↔ ∃ fault, reply = .error fault := by
  cases reports with
  | registered response => simp
  | rejected response => simp
  | failed fault => simp

theorem run_send_exchange (listener : Listener) {settings : Settings} {payload : Payload}
    {request : Request} (sent : registrationRequest settings payload = .ok request)
    (arrivals : List Arrival) :
    (send (exchange listener) settings payload).run arrivals =
      (.ok (Outcome.ofReply ((exchange listener request).run arrivals).1),
        ((exchange listener request).run arrivals).2) := by
  rw [send_of_ok sent]
  rfl

/-- Whatever listens, a body that is sent under a base URL has an outcome. Of a response that
arrives whole it reports the status, as registered from 200 to 299 and as rejected else. A response
that breaks off is reported as failed, even if its status says that the registration has been
accepted; the server has received the registration in either case. So a registration is reported as
failed if there is no response, or one that breaks off, and only then. -/
theorem send_reports_whole_responses (listener : Listener) {settings : Settings} {base : String}
    {url : Url} (isSet : settings.apiBaseUrl = some base) (isUrl : Url.parse base = .ok url)
    (payload : Payload) (arrivals : List Arrival) :
    ∃ outcome last,
      (send (exchange listener) settings payload).run arrivals = (.ok outcome, last) ∧
      (∀ response missing, listener.Responds (endpoint base) response missing →
        (∃ arrival, last = arrivals ++ [arrival]) ∧
        (response.ArrivesWhole missing → Outcome.Reports (.ok response.received) outcome) ∧
        (¬ response.ArrivesWhole missing →
          outcome = .failed "request failed: error decoding response body")) ∧
      ((∃ message, outcome = .failed message) ↔
        ∀ response missing, listener.Responds (endpoint base) response missing →
          ¬ response.ArrivesWhole missing) := by
  let request : Request := ⟨endpoint base, payload.toJson.sorted⟩
  have sent : registrationRequest settings payload = .ok request :=
    registrationRequest_of_base isSet isUrl payload
  have reports := Outcome.reports_ofReply ((exchange listener request).run arrivals).1
  refine ⟨_, _, run_send_exchange listener sent arrivals, fun response missing responds => ?_, ?_⟩
  · obtain ⟨arrival, ran⟩ := responds.run_exchange request arrivals
    rw [ran] at reports ⊢
    refine ⟨⟨arrival, rfl⟩, fun whole => ?_, fun broken => ?_⟩
    · rw [receive_of_whole whole] at reports ⊢
      exact reports
    · rw [receive_of_not_whole broken]
      rfl
  · exact reports.exists_failed_iff.trans (exchange_fails_iff listener request arrivals)

/-- Settings for a server on this machine. -/
def loopbackSettings : Settings where
  executor := capitalMark
  apiBaseUrl := some "http://127.0.0.1:8080"

/-- The response to a registration that is accepted. -/
def createdResponse : Response := ⟨201, "created"⟩

/-- The URL to which registrations go for these settings can be reached. -/
theorem responds_loopback (response : Response) (missing : Nat)
    (final : statusIsFinal response.status = true) :
    (Listener.answers response missing).Responds (endpoint "http://127.0.0.1:8080") response
      missing where
  reached := (isSome_toOption_iff _).mp (by decide +kernel)
  answers := rfl
  final := final

theorem parse_loopback : ∃ url, Url.parse "http://127.0.0.1:8080" = .ok url :=
  (isSome_toOption_iff _).mp (by decide +kernel)

/-- The registration is reported as registered if the response arrives whole. -/
theorem send_createdResponse :
    createdResponse.ArrivesWhole 0 ∧
    ∃ last, (send (exchange (.answers createdResponse 0)) loopbackSettings
        (Payload.unsigned loopbackSettings)).run [] = (.ok (.registered "created"), last) := by
  have whole : createdResponse.ArrivesWhole 0 := fun _ => rfl
  obtain ⟨url, isUrl⟩ := parse_loopback
  have isSet : loopbackSettings.apiBaseUrl = some "http://127.0.0.1:8080" := rfl
  obtain ⟨outcome, last, ran, reports, -⟩ := send_reports_whole_responses
    (.answers createdResponse 0) isSet isUrl (Payload.unsigned loopbackSettings) []
  have reported := (reports _ _ (responds_loopback createdResponse 0 (by decide))).2.1 whole
  have received : createdResponse.received = ⟨201, "created"⟩ := by decide
  rw [received] at reported
  cases reported with
  | registered => exact ⟨whole, last, ran⟩
  | rejected _ other => exact absurd other (by decide)

/-- The registration is reported as failed if the body of the response breaks off, although the API
has received it and accepts it. -/
theorem send_brokenCreatedResponse :
    (Listener.answers createdResponse 5).Responds (endpoint "http://127.0.0.1:8080")
      createdResponse 5 ∧
    createdResponse.isSuccess = true ∧
    ∃ arrival, (send (exchange (.answers createdResponse 5)) loopbackSettings
        (Payload.unsigned loopbackSettings)).run [] =
      (.ok (.failed "request failed: error decoding response body"), [arrival]) := by
  have responds := responds_loopback createdResponse 5 (by decide)
  obtain ⟨url, isUrl⟩ := parse_loopback
  have isSet : loopbackSettings.apiBaseUrl = some "http://127.0.0.1:8080" := rfl
  have sent := registrationRequest_of_base isSet isUrl (Payload.unsigned loopbackSettings)
  obtain ⟨arrival, ran⟩ := responds.run_exchange
    ⟨endpoint "http://127.0.0.1:8080", (Payload.unsigned loopbackSettings).toJson.sorted⟩ []
  refine ⟨responds, by decide, arrival, ?_⟩
  rw [run_send_exchange _ sent, ran]
  rfl

end ExecutorRegistration
