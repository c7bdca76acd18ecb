import ExecutorRegistration.Proofs.Completion
import ExecutorRegistration.Proofs.Submission

/-!
# What a run writes and sends

A run is seen from outside by its status, by what it writes as its result and about its course, and
by the requests that it makes. Whatever the API does, a run makes one request or none, and it fails
only if it has made none. What is written as the result is data alone: the report of what has to
be signed, or the signed body with the answer of an API that has accepted it. The log is written
only where the filter of the environment admits it.
-/

namespace ExecutorRegistration

variable {σ : Type} {console : Console} {transport : Transport (StateM σ)} {api : σ}
  {surroundings : Surroundings} {arguments : List String}

/-- What is seen of a run: how it ends and the requests that it makes, of an API that answers by a
transport from a state on. -/
def observe (console : Console) (transport : Transport (StateM σ)) (api : σ)
    (surroundings : Surroundings) (arguments : List String) : Completion × List Request :=
  (((run console transport.recorded surroundings arguments).run []).run api).1

/-! ## Run by run -/

/-- What a run of a command writes: what the filter admits of the events that were noted while the
settings were loaded, and of the command. -/
def Surroundings.written (surroundings : Surroundings) (console : Console)
    (completion : Completion) : Completion :=
  (completion.behind surroundings.events).admitted (console.filter surroundings.environment)

theorem observe_of_settings_error {command : Command} {fault : SettingsFault}
    (parsed : Invocation.read arguments = .command command)
    (failed : surroundings.settings = .error fault) :
    observe console transport api surroundings arguments =
      (surroundings.written console (.failure "" fault.message), []) := by
  rw [observe, run, course, parsed]
  dsimp only
  rw [failed]
  rfl

theorem observe_generate {settings : Settings}
    (parsed : Invocation.read arguments = .command .generate)
    (loaded : surroundings.settings = .ok settings) :
    observe console transport api surroundings arguments =
      (surroundings.written console (runGenerate settings), []) := by
  rw [observe, run, course, parsed]
  dsimp only
  rw [loaded]
  rfl

/-- A run that submits is the run of its command with the settings. -/
theorem observe_submit {settings : Settings} {signature : String} {timestamp : UInt64}
    (parsed : Invocation.read arguments = .command (.submit signature timestamp))
    (loaded : surroundings.settings = .ok settings) :
    observe console transport api surroundings arguments =
      Prod.map (surroundings.written console) id
        (((runSubmit transport.recorded settings signature timestamp).run []).run api).1 := by
  rw [observe, run, course, parsed]
  dsimp only
  rw [loaded]
  rfl

theorem observe_submit_of_send_error {settings : Settings} {signature : String}
    {timestamp : UInt64} {payload : Payload} {fault : SubmissionFault}
    (parsed : Invocation.read arguments = .command (.submit signature timestamp))
    (loaded : surroundings.settings = .ok settings)
    (prepared : prepare settings signature timestamp = .ok payload)
    (refused : registrationRequest settings payload = .error fault) :
    ∃ events, observe console transport api surroundings arguments =
      (surroundings.written console ((Completion.failure (payload.toJson.pretty ++ "\n")
        fault.message).behind events), []) := by
  rw [observe_submit parsed loaded, runSubmit, prepared]
  dsimp only
  rw [send_of_error refused]
  exact ⟨_, rfl⟩

theorem observe_submit_of_request {settings : Settings} {signature : String}
    {timestamp : UInt64} {payload : Payload} {request : Request}
    (parsed : Invocation.read arguments = .command (.submit signature timestamp))
    (loaded : surroundings.settings = .ok settings)
    (prepared : prepare settings signature timestamp = .ok payload)
    (sent : registrationRequest settings payload = .ok request) :
    ∃ events, observe console transport api surroundings arguments =
      (surroundings.written console ((Completion.ofOutcome (payload.toJson.pretty ++ "\n")
        (Outcome.ofReply ((transport request).run api).1)).behind events), [request]) := by
  rw [observe_submit parsed loaded, runSubmit, prepared]
  dsimp only
  rw [send_of_ok sent]
  exact ⟨_, rfl⟩

theorem Completion.Tells.written {completion : Completion} {exitCode : UInt8}
    {stdout told : String} (tells : completion.Tells exitCode stdout told)
    (surroundings : Surroundings) (console : Console) :
    (surroundings.written console completion).Tells exitCode stdout told :=
  (tells.behind _).admitted _

/-! ## Reporting what has to be signed -/

/-- What a run that reports owes to those who read its status and its outputs. -/
structure Completion.Reports (completion : Completion) (surroundings : Surroundings) : Prop where
  /-- The status is 0 if the settings load and there is a report. -/
  succeeds : completion.exitCode = 0 ↔ ∃ settings report,
    surroundings.settings = .ok settings ∧
      (SigningReport.generate typedDataHasher settings).run = .ok report
  /-- Otherwise the status is 1 and there is no result. -/
  fails : completion.exitCode ≠ 0 → completion.exitCode = 1 ∧ completion.stdout = ""
  /-- The first line shows the digest that stands in the report behind it. -/
  shows : ∀ settings, surroundings.settings = .ok settings →
    ∀ report, (SigningReport.generate typedDataHasher settings).run = .ok report →
      ∃ hash, completion.stdout = "actual " ++ hash ++ "\n" ++ report.toJson.pretty ++ "\n" ∧
        completion.stdout.toList.takeWhile (· ≠ '\n') = ("actual " ++ hash).toList ∧
        report.toJson.field? "dataHash" = some (.string hash) ∧
        hash = Hex.encode report.dataHash.toList
  /-- A fault of the settings is told before any fault of the report. -/
  settingsFault : ∀ fault, surroundings.settings = .error fault →
    completion.told = "Error: " ++ fault.message ++ "\n"
  /-- A fault of the report is told. -/
  reportFault : ∀ settings, surroundings.settings = .ok settings →
    ∀ fault, (SigningReport.generate typedDataHasher settings).run = .error fault →
      completion.told = "Error: " ++ fault.message ++ "\n"

theorem lineFeed_notMem_digits (octets : List UInt8) : '\n' ∉ Hex.digits octets := by
  have noDigit : ∀ value < 16, Hex.digit value ≠ '\n' := by decide
  intro member
  obtain ⟨octet, -, digit⟩ := List.mem_flatMap.mp member
  have octet_lt := octet.toNat_lt
  simp only [Hex.octetDigits, List.mem_cons, List.not_mem_nil, or_false] at digit
  obtain high | low := digit
  · exact noDigit _ (by omega) high.symm
  · exact noDigit _ (by omega) low.symm

/-- A line of text and a digest ends where the text behind it begins. -/
theorem takeWhile_line {line rest : List Char} (noLineFeed : '\n' ∉ line) :
    (line ++ '\n' :: rest).takeWhile (· ≠ '\n') = line := by
  have all : ∀ c ∈ line, decide (c ≠ '\n') = true := by
    rintro c member
    exact decide_eq_true fun c_eq => noLineFeed (c_eq ▸ member)
  rw [List.takeWhile_append_of_pos all]
  simp

theorem reports_of_settings_error {completion : Completion} {fault : SettingsFault}
    (failed : surroundings.settings = .error fault)
    (tells : completion.Tells 1 "" ("Error: " ++ fault.message ++ "\n")) :
    completion.Reports surroundings where
  succeeds := by simp [failed, tells.exitCode_eq]
  fails _ := ⟨tells.exitCode_eq, tells.stdout_eq⟩
  shows := by simp [failed]
  settingsFault := by simp [failed, tells.told_eq]
  reportFault := by simp [failed]

/-- What a report owes holds behind other events and with any filter. -/
theorem reports_runGenerate {settings : Settings} (loaded : surroundings.settings = .ok settings)
    (console : Console) :
    (surroundings.written console (runGenerate settings)).Reports surroundings := by
  unfold runGenerate
  cases generated : (SigningReport.generate typedDataHasher settings).run with
  | error fault =>
      have tells := (((Completion.failure_tells "" fault.message).behind
        [.digestAsked (settings.executor.query .registerExecutor)]).written surroundings console)
      exact
        { succeeds := by simp [loaded, generated, tells.exitCode_eq]
          fails := fun _ => ⟨tells.exitCode_eq, tells.stdout_eq⟩
          shows := by simp [loaded, generated]
          settingsFault := by simp [loaded]
          reportFault := by simp [loaded, generated, tells.told_eq] }
  | ok report =>
      have noLineFeed : '\n' ∉ ("actual " ++ Hex.encode report.dataHash.toList).toList := by
        simp [Hex.encode, lineFeed_notMem_digits]
      have line (rest : String) :
          ("actual " ++ Hex.encode report.dataHash.toList ++ "\n" ++ rest).toList.takeWhile
              (· ≠ '\n') =
            ("actual " ++ Hex.encode report.dataHash.toList).toList := by
        rw [String.toList_append, String.toList_append, List.append_assoc]
        exact takeWhile_line noLineFeed
      refine
        { succeeds := iff_of_true rfl ⟨settings, report, loaded, generated⟩
          fails := fun failed => absurd rfl failed
          shows := ?_
          settingsFault := by simp [loaded]
          reportFault := by simp [loaded, generated] }
      simp only [loaded, generated, Except.ok.injEq, forall_eq']
      refine ⟨Hex.encode report.dataHash.toList, rfl, ?_, rfl, rfl⟩
      refine Eq.trans ?_ (line (report.toJson.pretty ++ "\n"))
      rw [← String.append_assoc]
      rfl

/-! ## Submitting -/

theorem prepare_of_ok {settings : Settings} {signature normalized : String}
    (accepted : Signature.normalize signature = .ok normalized) (timestamp : UInt64) :
    prepare settings signature timestamp =
      .ok ((Payload.unsigned settings).withSignature normalized timestamp) := by
  rw [prepare, accepted]

theorem observe_generate_silent (parsed : Invocation.read arguments = .command .generate) :
    (observe console transport api surroundings arguments).2 = [] ∧
      (observe console transport api surroundings arguments).1.Reports surroundings := by
  cases loaded : surroundings.settings with
  | error fault =>
      rw [observe_of_settings_error parsed loaded]
      exact ⟨rfl, reports_of_settings_error loaded
        ((Completion.failure_tells "" fault.message).written surroundings console)⟩
  | ok settings =>
      rw [observe_generate parsed loaded]
      exact ⟨rfl, reports_runGenerate loaded console⟩

/-- The faults that keep settings from being loaded are tested in the order of the clock, the file
of variables and the variables. -/
theorem Surroundings.settings_eq (surroundings : Surroundings) :
    (∀ fault, unixMillis surroundings.clock = .error fault →
      surroundings.settings = .error (.clock fault)) ∧
    ∀ timestamp, unixMillis surroundings.clock = .ok timestamp →
      (∀ fault, surroundings.variables = .error fault → surroundings.settings = .error fault) ∧
      ∀ lookup, surroundings.variables = .ok lookup →
        surroundings.settings = Settings.load timestamp lookup := by
  refine ⟨fun fault early => ?_, fun timestamp read => ⟨fun fault malformed => ?_,
    fun lookup found => ?_⟩⟩
  · rw [settings, early]
    rfl
  · rw [settings, read, malformed]
    rfl
  · rw [settings, read, found]
    rfl

end ExecutorRegistration
