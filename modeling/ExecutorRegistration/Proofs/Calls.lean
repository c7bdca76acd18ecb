import ExecutorRegistration.Proofs.Results
import ExecutorRegistration.Proofs.Submission

/-!
# Sequences of calls

Bodies are prepared, sent and submitted in any order, any number of times and with any settings.
The requests that are recorded are those of the calls that send, in the order of the calls. The
reply to the n-th of them decides what that call returns; a call that does not send takes no reply
and returns the same whatever happened before. Submitting is preparing and then sending.
-/

namespace ExecutorRegistration

/-- A call that prepares, sends or submits a registration. -/
inductive Call where
  /-- Builds the signed body for settings. -/
  | prepare (settings : Settings) (signature : String) (timestamp : UInt64)
  /-- Sends a body, which may have been built for other settings. -/
  | send (settings : Settings) (payload : Payload)
  /-- Builds the signed body for settings and sends it. -/
  | submit (settings : Settings) (signature : String) (timestamp : UInt64)

/-- What a call returns. -/
inductive CallResult where
  /-- A signed body, or why there is none. -/
  | prepared (result : Except SubmissionFault Payload)
  /-- What became of a registration, or why it was not sent. -/
  | answered (result : Except SubmissionFault Outcome)

namespace Call

variable {m : Type → Type} [Monad m]

/-- Makes a call over a transport. -/
def run (transport : Transport m) : Call → m CallResult
  | prepare settings signature timestamp =>
    return .prepared (ExecutorRegistration.prepare settings signature timestamp)
  | send settings payload =>
    .answered <$> ExecutorRegistration.send transport settings payload
  | submit settings signature timestamp =>
    .answered <$> ExecutorRegistration.submit transport settings signature timestamp

/-- Makes calls one after the other over prescribed replies. -/
def runAll (calls : List Call) : StateM TransportLog (List CallResult) :=
  calls.mapM (run scriptedTransport)

/-! ## Calls that send -/

/-- A call sends a request. A body goes to the endpoint of the settings if their base URL is set
and a URL; a submission needs an accepted signature besides. -/
inductive Sends : Call → Request → Prop where
  | send {settings : Settings} {base stripped : String} {url : Url} (payload : Payload)
      (isSet : settings.apiBaseUrl = some base) (isUrl : Url.parse base = .ok url)
      (isStripped : Text.IsStripped '/' base stripped) :
      Sends (.send settings payload)
        ⟨stripped ++ "/v1/automations/executor", payload.toJson.sorted⟩
  | submit {settings : Settings} {signature normalized base stripped : String} {url : Url}
      (timestamp : UInt64) (accepted : Signature.normalize signature = .ok normalized)
      (isSet : settings.apiBaseUrl = some base) (isUrl : Url.parse base = .ok url)
      (isStripped : Text.IsStripped '/' base stripped) :
      Sends (.submit settings signature timestamp)
        ⟨stripped ++ "/v1/automations/executor",
          ((Payload.unsigned settings).withSignature normalized timestamp).toJson.sorted⟩

/-- The request of a call that sends one, and what any other call returns. -/
def request : Call → Except CallResult Request
  | prepare settings signature timestamp =>
    .error (.prepared (ExecutorRegistration.prepare settings signature timestamp))
  | send settings payload =>
    (registrationRequest settings payload).mapError fun fault => .answered (.error fault)
  | submit settings signature timestamp =>
    match ExecutorRegistration.prepare settings signature timestamp with
    | .error fault => .error (.answered (.error fault))
    | .ok payload =>
      (registrationRequest settings payload).mapError fun fault => .answered (.error fault)

/-- The requests of the calls that send, in the order of the calls. -/
def requests (calls : List Call) : List Request :=
  calls.filterMap fun call => call.request.toOption

theorem requests_append (before after : List Call) :
    requests (before ++ after) = requests before ++ requests after :=
  List.filterMap_append

theorem registrationRequest_eq_ok_iff (settings : Settings) (payload : Payload)
    (request : Request) :
    registrationRequest settings payload = .ok request ↔
      Sends (.send settings payload) request := by
  unfold registrationRequest Settings.requireApiBaseUrl
  constructor
  · intro sends
    cases isSet : settings.apiBaseUrl with
    | none => simp [isSet] at sends
    | some base =>
        cases isUrl : Url.parse base with
        | error fault => simp [isSet, isUrl] at sends
        | ok url =>
            simp only [isSet, isUrl, Except.ok.injEq] at sends
            rw [← sends]
            exact .send payload isSet isUrl (Text.isStripped_trimEnd '/' base)
  · intro sends
    cases sends with
    | send payload isSet isUrl isStripped =>
        rw [(Text.isStripped_iff _ _ _).mp isStripped]
        simp only [isSet, isUrl]
        rfl

/-- A call has a request if it sends it. -/
theorem request_eq_ok_iff (call : Call) (request : Request) :
    call.request = .ok request ↔ call.Sends request := by
  cases call with
  | prepare settings signature timestamp => exact ⟨nofun, nofun⟩
  | send settings payload =>
      rw [Call.request, mapError_eq_ok_iff, registrationRequest_eq_ok_iff]
  | submit settings signature timestamp =>
      rw [Call.request, ExecutorRegistration.prepare]
      cases accepted : Signature.normalize signature with
      | error fault =>
          constructor
          · rintro ⟨⟩
          · intro sends
            cases sends with
            | submit _ accepted' => simp [accepted] at accepted'
      | ok normalized =>
          dsimp only
          rw [mapError_eq_ok_iff, registrationRequest_eq_ok_iff]
          constructor
          · rintro (⟨-, isSet, isUrl, isStripped⟩)
            exact .submit timestamp accepted isSet isUrl isStripped
          · intro sends
            cases sends with
            | submit _ accepted' isSet isUrl isStripped =>
                rw [accepted] at accepted'
                cases accepted'
                exact .send _ isSet isUrl isStripped

/-! ## One call -/

end Call

/-- The reply to the request with an index among those that are still to be made; there is none
behind the last reply. -/
def TransportLog.reply (log : TransportLog) (index : Nat) : Except TransportFault Response :=
  log.replies[index]?.getD (.error ⟨"no reply queued"⟩)

/-- The log once requests are recorded and have taken their replies. -/
def TransportLog.behind (log : TransportLog) (requests : List Request) : TransportLog :=
  ⟨log.replies.drop requests.length, log.requests ++ requests⟩

@[simp]
theorem TransportLog.behind_nil (log : TransportLog) : log.behind [] = log := by
  simp [behind]

theorem TransportLog.behind_append (log : TransportLog) (first second : List Request) :
    log.behind (first ++ second) = (log.behind first).behind second := by
  simp [behind, List.drop_drop]

theorem TransportLog.reply_behind (log : TransportLog) (requests : List Request) (index : Nat) :
    (log.behind requests).reply index = log.reply (requests.length + index) := by
  simp [behind, reply, List.getElem?_drop]

theorem run_scriptedTransport (request : Request) (log : TransportLog) :
    (scriptedTransport request).run log = (log.reply 0, log.behind [request]) := by
  obtain ⟨replies, requests⟩ := log
  cases replies <;> rfl

namespace Call

theorem run_send_eq (settings : Settings) (payload : Payload) (log : TransportLog) :
    (send settings payload |>.run scriptedTransport).run log =
      match registrationRequest settings payload with
      | .error fault => (.answered (.error fault), log)
      | .ok request =>
        (.answered (.ok (Outcome.ofReply (log.reply 0))), log.behind [request]) := by
  rw [Call.run, StateT.run_map]
  cases accepted : registrationRequest settings payload with
  | error fault =>
      rw [send_of_error accepted]
      rfl
  | ok request =>
      rw [send_of_ok accepted, StateT.run_bind, run_scriptedTransport]
      rfl

/-- What a call returns and what it leaves, by whether it sends. -/
theorem run_eq (call : Call) (log : TransportLog) :
    (call.run scriptedTransport).run log =
      match call.request with
      | .error result => (result, log)
      | .ok request =>
        (.answered (.ok (Outcome.ofReply (log.reply 0))), log.behind [request]) := by
  cases call with
  | prepare settings signature timestamp => rfl
  | send settings payload =>
      rw [run_send_eq, request]
      cases registrationRequest settings payload <;> rfl
  | submit settings signature timestamp =>
      rw [Call.run, request]
      cases accepted : Signature.normalize signature with
      | error fault =>
          rw [submit_of_error accepted, ExecutorRegistration.prepare, accepted]
          rfl
      | ok normalized =>
          have sends := run_send_eq settings
            ((Payload.unsigned settings).withSignature normalized timestamp) log
          rw [Call.run] at sends
          rw [submit_of_ok accepted, sends, ExecutorRegistration.prepare, accepted]
          dsimp only
          cases registrationRequest settings
            ((Payload.unsigned settings).withSignature normalized timestamp) <;> rfl

/-! ## Sequences of calls -/

theorem run_runAll_append (before after : List Call) (log : TransportLog) :
    (runAll (before ++ after)).run log =
      (((runAll before).run log).1 ++ ((runAll after).run ((runAll before).run log).2).1,
        ((runAll after).run ((runAll before).run log).2).2) := by
  rw [runAll, List.mapM_append, StateT.run_bind]
  rfl

theorem run_runAll_cons (call : Call) (calls : List Call) (log : TransportLog) :
    (runAll (call :: calls)).run log =
      (((call.run scriptedTransport).run log).1 ::
          ((runAll calls).run ((call.run scriptedTransport).run log).2).1,
        ((runAll calls).run ((call.run scriptedTransport).run log).2).2) := by
  rw [runAll, List.mapM_cons, StateT.run_bind]
  rfl

/-- Each call records its request, if it has one, and takes one reply for it. -/
theorem snd_run (call : Call) (log : TransportLog) :
    ((call.run scriptedTransport).run log).2 = log.behind (requests [call]) := by
  rw [run_eq, requests]
  cases sends : call.request <;> simp [sends, Except.toOption]

theorem snd_run_runAll (calls : List Call) (log : TransportLog) :
    ((runAll calls).run log).2 = log.behind (requests calls) := by
  induction calls generalizing log with
  | nil => exact log.behind_nil.symm
  | cons call calls ih =>
      have split : requests (call :: calls) = requests [call] ++ requests calls :=
        requests_append [call] calls
      rw [run_runAll_cons, split, TransportLog.behind_append, ← snd_run]
      exact ih _

theorem length_fst_run_runAll (calls : List Call) (log : TransportLog) :
    ((runAll calls).run log).1.length = calls.length := by
  induction calls generalizing log with
  | nil => rfl
  | cons call calls ih =>
      rw [run_runAll_cons, List.length_cons, ih, List.length_cons]

/-- What a call returns in a sequence is what it returns behind the requests before it. -/
theorem getElem?_fst_run_runAll (before : List Call) (call : Call) (after : List Call)
    (log : TransportLog) :
    ((runAll (before ++ call :: after)).run log).1[before.length]? =
      some ((call.run scriptedTransport).run (log.behind (requests before))).1 := by
  rw [run_runAll_append, List.getElem?_append_right (by rw [length_fst_run_runAll]),
    length_fst_run_runAll, Nat.sub_self, run_runAll_cons, snd_run_runAll]
  rfl

/-! ## Submitting in two steps -/

/-- A submission whose signature is refused does what preparing it does. -/
theorem run_runAll_submit_of_error {settings : Settings} {signature : String}
    {timestamp : UInt64} {fault : SubmissionFault}
    (refused : ExecutorRegistration.prepare settings signature timestamp = .error fault)
    (after : List Call) (log : TransportLog) :
    (runAll (submit settings signature timestamp :: after)).run log =
        (.answered (.error fault) :: ((runAll after).run log).1, ((runAll after).run log).2) ∧
      (runAll (prepare settings signature timestamp :: after)).run log =
        (.prepared (.error fault) :: ((runAll after).run log).1,
          ((runAll after).run log).2) := by
  rw [run_runAll_cons, run_runAll_cons, run_eq, run_eq, request, request, refused]
  exact ⟨rfl, rfl⟩

/-- A submission does what preparing a body and sending it does. -/
theorem run_runAll_submit_of_ok {settings : Settings} {signature : String} {timestamp : UInt64}
    {payload : Payload}
    (accepted : ExecutorRegistration.prepare settings signature timestamp = .ok payload)
    (after : List Call) (log : TransportLog) :
    ∃ result last final,
      (runAll (submit settings signature timestamp :: after)).run log =
        (.answered result :: last, final) ∧
      (runAll (prepare settings signature timestamp :: send settings payload :: after)).run log =
        (.prepared (.ok payload) :: .answered result :: last, final) := by
  have submitted : (submit settings signature timestamp).request =
      (send settings payload).request := by
    simp only [request, accepted]
  have prepared (log : TransportLog) :
      ((prepare settings signature timestamp).run scriptedTransport).run log =
        (.prepared (.ok payload), log) := by
    rw [run_eq, request, accepted]
  have sent : ∃ result middle, ((send settings payload).run scriptedTransport).run log =
      (.answered result, middle) := by
    rw [run_send_eq]
    cases registrationRequest settings payload <;> exact ⟨_, _, rfl⟩
  obtain ⟨result, middle, sent⟩ := sent
  refine ⟨result, ((runAll after).run middle).1, ((runAll after).run middle).2, ?_, ?_⟩
  · rw [run_runAll_cons, run_eq, submitted, ← run_eq, sent]
  · rw [run_runAll_cons, prepared, run_runAll_cons, sent]

/-! ## Which call takes which reply -/

theorem requests_of_sends {call : Call} {request : Request} (sends : call.Sends request)
    (before after : List Call) :
    requests (before ++ call :: after) = requests before ++ request :: requests after := by
  have found := (request_eq_ok_iff call request).mpr sends
  simp [requests, found, Except.toOption]

theorem exists_result_of_not_sends {call : Call} (idle : ∀ request, ¬ call.Sends request) :
    ∃ result, call.request = .error result := by
  cases found : call.request with
  | error result => exact ⟨result, rfl⟩
  | ok request => exact absurd ((request_eq_ok_iff call request).mp found) (idle request)

/-- Calls exchange requests for replies in their order. Each call that sends records one request,
and what it returns reports the reply to it; every other call leaves requests and replies alone.
The URL of a body that is sent is that of the settings, and the rest of the request is the body's.
A submission may be taken apart into preparing and, if that succeeds, sending. -/
theorem calls_exchange_in_order :
    (∀ (calls : List Call) (log : TransportLog),
      let run := (runAll calls).run log
      run.2.requests = log.requests ++ requests calls ∧
      run.2.replies = log.replies.drop (requests calls).length ∧
      run.1.length = calls.length ∧
      ∀ (before : List Call) (call : Call) (after : List Call), calls = before ++ call :: after →
        (∀ request, call.Sends request →
          requests calls = requests before ++ request :: requests after ∧
          ∃ outcome, Outcome.Reports (log.reply (requests before).length) outcome ∧
            run.1[before.length]? = some (.answered (.ok outcome))) ∧
        ((∀ request, ¬ call.Sends request) →
          requests calls = requests before ++ requests after ∧
          ∃ result, run.1[before.length]? = some result ∧
            ∀ log, (call.run scriptedTransport).run log = (result, log))) ∧
    (∀ (settings other : Settings) (payload otherPayload : Payload)
        (request otherRequest : Request),
      Sends (send settings payload) request →
      Sends (send other otherPayload) otherRequest →
        (settings.apiBaseUrl = other.apiBaseUrl → request.url = otherRequest.url) ∧
        (payload = otherPayload → request.body = otherRequest.body)) ∧
    ∀ (before after : List Call) (settings : Settings) (signature : String) (timestamp : UInt64)
        (log : TransportLog),
      ∃ first result last final, first.length = before.length ∧
        (runAll (before ++ submit settings signature timestamp :: after)).run log =
          (first ++ .answered result :: last, final) ∧
        (∀ fault, ExecutorRegistration.prepare settings signature timestamp = .error fault →
          result = .error fault ∧
          (runAll (before ++ prepare settings signature timestamp :: after)).run log =
            (first ++ .prepared (.error fault) :: last, final)) ∧
        ∀ payload, ExecutorRegistration.prepare settings signature timestamp = .ok payload →
          (runAll (before ++ prepare settings signature timestamp :: send settings payload ::
              after)).run log =
            (first ++ .prepared (.ok payload) :: .answered result :: last, final) := by
  refine ⟨fun calls log => ?_, ?_, ?_⟩
  · dsimp only
    rw [snd_run_runAll]
    refine ⟨rfl, rfl, length_fst_run_runAll calls log, ?_⟩
    rintro before call after rfl
    rw [getElem?_fst_run_runAll, run_eq]
    refine ⟨fun request sends => ⟨requests_of_sends sends before after, ?_⟩, fun idle => ?_⟩
    · rw [(request_eq_ok_iff call request).mpr sends]
      dsimp only
      rw [TransportLog.reply_behind]
      exact ⟨_, Outcome.reports_ofReply _, rfl⟩
    · obtain ⟨result, returned⟩ := exists_result_of_not_sends idle
      refine ⟨by simp [requests, returned, Except.toOption], result, ?_, fun log => ?_⟩
      · rw [returned]
      · rw [run_eq, returned]
  · rintro settings other payload otherPayload _ _ (⟨-, isSet, -, isStripped⟩)
      (⟨-, otherSet, -, otherStripped⟩)
    refine ⟨fun bases => ?_, fun payloads => by rw [payloads]⟩
    rw [isSet, otherSet, Option.some.injEq] at bases
    subst bases
    rw [(Text.isStripped_iff _ _ _).mp isStripped, (Text.isStripped_iff _ _ _).mp otherStripped]
  · intro before after settings signature timestamp log
    refine ⟨((runAll before).run log).1, ?_⟩
    simp only [run_runAll_append]
    cases prepared : ExecutorRegistration.prepare settings signature timestamp with
    | error fault =>
        obtain ⟨submitted, refused⟩ :=
          run_runAll_submit_of_error prepared after ((runAll before).run log).2
        refine ⟨.error fault, _, _, length_fst_run_runAll before log, by rw [submitted], ?_, ?_⟩
        · rintro _ ⟨rfl⟩
          exact ⟨rfl, by rw [refused]⟩
        · rintro _ ⟨⟩
    | ok payload =>
        obtain ⟨result, last, final, submitted, sent⟩ :=
          run_runAll_submit_of_ok prepared after ((runAll before).run log).2
        refine ⟨result, last, final, length_fst_run_runAll before log, by rw [submitted], ?_, ?_⟩
        · rintro _ ⟨⟩
        · rintro _ ⟨rfl⟩
          rw [sent]

/-- A body is sent and then a registration is submitted: the submission fails as the second reply
does. -/
theorem calls_of_slashedSettings :
    ∃ request, Sends (submit slashedSettings lowSignature 1700000000000) request ∧
      ((runAll [send slashedSettings (Payload.unsigned {}),
          submit slashedSettings lowSignature 1700000000000]).run
        ⟨[.ok ⟨201, "created"⟩, .error ⟨"refused"⟩], []⟩).1[1]? =
          some (.answered (.ok (.failed "request failed: refused"))) := by
  obtain ⟨url, isUrl⟩ := parse_slashed
  have isStripped := Text.isStripped_trimEnd '/' "https://api.example.com//"
  have sends : Sends (send slashedSettings (Payload.unsigned {})) _ :=
    .send (Payload.unsigned {}) rfl isUrl isStripped
  have submits : Sends (submit slashedSettings lowSignature 1700000000000) _ :=
    .submit 1700000000000 normalize_lowSignature rfl isUrl isStripped
  have first := requests_of_sends sends [] []
  obtain ⟨-, -, -, positions⟩ := calls_exchange_in_order.1
    [send slashedSettings (Payload.unsigned {}),
      submit slashedSettings lowSignature 1700000000000]
    ⟨[.ok ⟨201, "created"⟩, .error ⟨"refused"⟩], []⟩
  obtain ⟨-, outcome, reports, returned⟩ :=
    (positions [send slashedSettings (Payload.unsigned {})] _ [] rfl).1 _ submits
  rw [List.nil_append] at first
  rw [first] at reports
  refine ⟨_, submits, ?_⟩
  cases reports with
  | failed fault => exact returned

end Call

end ExecutorRegistration
