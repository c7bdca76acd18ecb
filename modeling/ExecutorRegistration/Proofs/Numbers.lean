import ExecutorRegistration.Proofs.Arguments
import ExecutorRegistration.Proofs.CommandLine
import ExecutorRegistration.Proofs.Settings.Values
import ExecutorRegistration.Proofs.Text.Numbers
import ExecutorRegistration.Proofs.TypedData.TypeTexts

/-!
# Numbers of a run

A run is given numbers in two variables and in an argument, and reads all of them alike. It prints
the timestamp that is signed in the digits from which a later run reads it, and this run puts it
into the body that it shows and sends.
-/

namespace ExecutorRegistration

/-! ## Numbers in variables -/

theorem Settings.load_eq_error_iff (timestamp : UInt64) (lookup : Lookup)
    (fault : SettingsFault) :
    Settings.load timestamp lookup = .error fault ↔ lookup.RefusesFirst Variable.parsed fault := by
  rw [load_eq, map_eq_error_iff, Lookup.parsed_eq_error_iff]

/-- A fault of a number is that of the text in its variable. -/
theorem Lookup.refuses_invalidNumber_iff (lookup : Lookup) {source other : Variable}
    (isNumber : source ∈ Variable.numbers) (fault : Text.NumberFault) :
    lookup.Refuses other (.invalidNumber source fault) ↔
      other = source ∧ ∃ text, lookup.value source = some text ∧
        Text.readNumber text = .error fault := by
  constructor
  · rintro ⟨-, given, unread⟩
    exact ⟨rfl, _, given, unread⟩
  · rintro ⟨rfl, text, given, unread⟩
    exact .number isNumber given unread

/-- No variable that is parsed before another one has a value that cannot be parsed. -/
def Lookup.ReadsBefore (lookup : Lookup) (source : Variable) : Prop :=
  ∃ before after, Variable.parsed = before ++ source :: after ∧
    ∀ earlier ∈ before, ∀ other, ¬ lookup.Refuses earlier other

/-- Settings are not loaded because of a number if its text is refused, and no variable that is
parsed before it has a fault. -/
theorem Settings.load_eq_invalidNumber_iff (timestamp : UInt64) {lookup : Lookup}
    {source : Variable} {text : String} (isNumber : source ∈ Variable.numbers)
    (given : lookup.value source = some text) (fault : Text.NumberFault) :
    Settings.load timestamp lookup = .error (.invalidNumber source fault) ↔
      Text.readNumber text = .error fault ∧ lookup.ReadsBefore source := by
  simp only [load_eq_error_iff, Lookup.RefusesFirst, lookup.refuses_invalidNumber_iff isNumber,
    given, Option.some.injEq]
  constructor
  · rintro ⟨before, other, after, split, ⟨rfl, text, rfl, unread⟩, earlier⟩
    exact ⟨unread, before, after, split, earlier⟩
  · rintro ⟨unread, before, after, split, earlier⟩
    exact ⟨before, source, after, split, ⟨rfl, text, rfl, unread⟩, earlier⟩

/-- Settings that are loaded have the numbers that are read from their variables. -/
theorem Settings.readNumber_of_load {timestamp : UInt64} {lookup : Lookup} {settings : Settings}
    (loaded : Settings.load timestamp lookup = .ok settings) :
    (∀ text, lookup.value .chainId = some text →
      Text.readNumber text = .ok settings.executor.chainId) ∧
    ∀ text, lookup.value .feeInBPS = some text →
      Text.readNumber text = .ok settings.executor.feeInBPS := by
  obtain ⟨-, takes⟩ := (Settings.load_eq_ok_iff timestamp lookup settings).mp loaded
  have chainId := takes .chainId
  have feeInBPS := takes .feeInBPS
  constructor
  · intro text given
    rw [given] at chainId
    exact chainId
  · intro text given
    rw [given] at feeInBPS
    exact feeInBPS

/-! ## The timestamp of a report -/

/-- An output has a timestamp in the given digits where the report behind its first line begins. -/
def PrintsTimestamp (output digits : String) : Prop :=
  ∃ line rest : List Char, '\n' ∉ line ∧ ',' ∉ digits.toList ∧
    output.toList =
      line ++ "\n\x7b\n  \"timestamp\": ".toList ++ (digits.toList ++ ",\n".toList ++ rest)

/-- An output has no more than one such timestamp. -/
theorem PrintsTimestamp.unique {output left right : String}
    (printsLeft : PrintsTimestamp output left) (printsRight : PrintsTimestamp output right) :
    left = right := by
  obtain ⟨line, rest, noLineFeed, noComma, same⟩ := printsLeft
  obtain ⟨otherLine, otherRest, noOtherLineFeed, noOtherComma, otherSame⟩ := printsRight
  rw [same] at otherSame
  simp only [List.append_assoc] at otherSame
  -- The first line ends at the first line feed, and the digits end at the first comma behind it.
  obtain ⟨-, behind⟩ := TypedData.eq_of_append_cons_eq noLineFeed noOtherLineFeed otherSame
  have digits := @List.append_cancel_left _ "\x7b\n  \"timestamp\": ".toList _ _ behind
  obtain ⟨chars, -⟩ := TypedData.eq_of_append_cons_eq noComma noOtherComma digits
  exact String.toList_inj.mp chars

theorem exists_toList_pretty (report : SigningReport) :
    ∃ rest, report.toJson.pretty.toList =
      "\x7b\n  \"timestamp\": ".toList ++
        ((Text.decimal report.timestamp.toNat).toList ++ ",\n".toList ++ rest) := by
  have start : "\x7b\n  \"timestamp\": ".toList =
      '{' :: (Json.newLine 1 ++ (Json.quoted "timestamp" ++ [':', ' '])) := by
    decide
  obtain ⟨rest, members⟩ : ∃ rest, Json.prettyMembers 0
      [("dataHash", .string (Hex.encode report.dataHash.toList)),
       ("safeMessageHash", .string (Hex.encode report.safeMessageHash.toList)),
       ("cmd", .string report.command)] = ",\n".toList ++ rest :=
    ⟨_, rfl⟩
  have digits : Json.prettyChars 1 (.ofUInt64 report.timestamp) =
      (Text.decimal report.timestamp.toNat).toList := by
    rw [Text.decimal, String.toList_ofList]
    rfl
  refine ⟨rest, ?_⟩
  rw [start, SigningReport.toJson, Json.pretty, String.toList_ofList, Json.prettyChars, members,
    digits]
  simp only [List.cons_append, List.append_assoc, List.nil_append]

theorem comma_notMem_decimal (number : Nat) : ',' ∉ (Text.decimal number).toList := by
  rw [Text.decimal, String.toList_ofList]
  intro comma
  have isDigit := Nat.isDigit_of_mem_toDigits (by decide) (by decide) comma
  exact absurd isDigit (by decide)

/-- The timestamp that is printed is that of the report, in decimal digits. -/
theorem printsTimestamp_iff {report : SigningReport} {hash output digits : String}
    (output_eq : output = "actual " ++ hash ++ "\n" ++ report.toJson.pretty ++ "\n")
    (noLineFeed : '\n' ∉ hash.toList) :
    PrintsTimestamp output digits ↔ digits = Text.decimal report.timestamp.toNat := by
  have prints : PrintsTimestamp output (Text.decimal report.timestamp.toNat) := by
    obtain ⟨rest, pretty_eq⟩ := exists_toList_pretty report
    refine ⟨("actual " ++ hash).toList, rest ++ "\n".toList, ?_, comma_notMem_decimal _, ?_⟩
    · simp [noLineFeed]
    · subst output_eq
      simp only [String.toList_append, pretty_eq, List.append_assoc]
      rfl
  constructor
  · exact fun printsDigits => printsDigits.unique prints
  · rintro rfl
    exact prints

/-! ## The timestamp of a body -/

/-- A run shows and sends a body with a timestamp: it shows one in front of all else, and sends one
in each request, of which there is one if the base URL is accepted. -/
structure PostsTimestamp (seen : Completion × List Request) (settings : Settings)
    (signature : String) (timestamp : UInt64) : Prop where
  shows : ∃ payload rest, prepare settings signature timestamp = .ok payload ∧
    payload.timestamp = timestamp ∧ seen.1.stdout = payload.toJson.pretty ++ "\n" ++ rest
  sends : ∀ request ∈ seen.2, request.body.field? "timestamp" = some (.ofUInt64 timestamp)
  sendsOnce : ∀ base, settings.requireApiBaseUrl = .ok base → seen.2.length = 1

theorem Completion.exists_stdout_ofOutcome (written : String) (outcome : Outcome) :
    ∃ rest, (ofOutcome written outcome).stdout = written ++ rest := by
  cases outcome with
  | registered body =>
      exact ⟨_, by rw [ofOutcome, String.append_assoc, String.append_assoc]⟩
  | rejected status body => exact ⟨"", (String.append_empty).symm⟩
  | failed message => exact ⟨"", (String.append_empty).symm⟩

/-- The timestamp of a run that submits is in its body. -/
theorem postsTimestamp_observe {σ : Type} {console : Console} {transport : Transport (StateM σ)}
    {api : σ} {surroundings : Surroundings} {arguments : List String} {settings : Settings}
    {signature normalized : String} {timestamp : UInt64}
    (parsed : Invocation.read arguments = .command (.submit signature timestamp))
    (loaded : surroundings.settings = .ok settings)
    (accepted : Signature.normalize signature = .ok normalized) :
    PostsTimestamp (observe console transport api surroundings arguments) settings signature
      timestamp := by
  have prepared := @prepare_of_ok settings signature normalized accepted timestamp
  cases reached : settings.requireApiBaseUrl with
  | error fault =>
      have refused : registrationRequest settings
          ((Payload.unsigned settings).withSignature normalized timestamp) =
            .error (.settings fault) := by
        rw [registrationRequest, reached]
      obtain ⟨events, seen⟩ := @observe_submit_of_send_error _ console transport api _ _ _ _ _ _ _
        parsed loaded prepared refused
      rw [seen]
      exact
        { shows := ⟨_, "", prepared, rfl, (String.append_empty).symm⟩
          sends := List.forall_mem_nil _
          sendsOnce := fun _ found => by cases reached.symm.trans found }
  | ok base =>
      obtain ⟨isSet, url, isUrl⟩ := (settings.requireApiBaseUrl_eq_ok_iff base).mp reached
      obtain ⟨request, sent, registers⟩ :=
        registrationRequest_registers isSet isUrl normalized timestamp
      obtain ⟨events, seen⟩ := @observe_submit_of_request _ console transport api _ _ _ _ _ _ _
        parsed loaded prepared sent
      rw [seen]
      obtain ⟨rest, written⟩ := Completion.exists_stdout_ofOutcome _ _
      exact
        { shows := ⟨_, rest, prepared, rfl, written⟩
          sends := List.forall_mem_singleton.mpr registers.timestamp
          sendsOnce := fun _ _ => rfl }

/-! ## Reading, printing and posting -/

/-- A report that a run prints has the timestamp of its settings, in decimal digits. -/
theorem exists_printsTimestamp_iff {σ : Type} {console : Console}
    {transport : Transport (StateM σ)} {api : σ} {surroundings : Surroundings}
    {arguments : List String} (parsed : Invocation.read arguments = .command .generate)
    (succeeds : (observe console transport api surroundings arguments).1.exitCode = 0) :
    ∃ settings, surroundings.settings = .ok settings ∧ ∀ digits,
      PrintsTimestamp (observe console transport api surroundings arguments).1.stdout digits ↔
        digits = Text.decimal settings.executor.timestamp.toNat := by
  have reports : (observe console transport api surroundings arguments).1.Reports surroundings :=
    (observe_generate_silent parsed).2
  obtain ⟨settings, report, loaded, generated⟩ := reports.succeeds.mp succeeds
  obtain ⟨hash, written, -, -, rfl⟩ := reports.shows settings loaded report generated
  obtain ⟨registration, text, denotes, -, rfl⟩ := (generate_eq_ok_iff _ _).mp generated
  have noLineFeed : '\n' ∉ (Hex.encode (registration.report settings.keyManagerPath
      text).dataHash.toList).toList := by
    simp [Hex.encode, lineFeed_notMem_digits]
  refine ⟨settings, loaded, fun digits => ?_⟩
  rw [denotes.timestamp]
  exact printsTimestamp_iff written noLineFeed

/-- A number is read from a text that denotes it. Any other text with characters has an invalid
digit, unless it begins with digits of a number that is too large. So are the numbers in variables
read and the timestamp in an argument: their faults keep settings from being loaded and end the
run. A number is read from its decimal text, whatever sign and zeros stand before it; and the
timestamp that a run prints, given to a later run in the same digits, is the one that this run puts
into the body that it shows and sends. -/
theorem run_reads_printed_numbers {σ : Type} (console : Console)
    (transport : Transport (StateM σ)) :
    (∀ (text : String) (number : UInt64),
      Text.readNumber text = .ok number ↔ Text.WritesNumber text number.toNat) ∧
    (∀ text, Text.readNumber text = .error .tooLarge ↔ Text.BeginsTooLarge text) ∧
    (∀ text, Text.readNumber text = .error .invalidDigit ↔
      text ≠ "" ∧ (∀ number < 2 ^ 64, ¬ Text.WritesNumber text number) ∧
        ¬ Text.BeginsTooLarge text) ∧
    (∀ number : UInt64, Text.readNumber (Text.decimal number.toNat) = .ok number ∧
      ∀ sign ∈ ["", "+"], ∀ zeros : Nat, Text.readNumber
        (sign ++ String.ofList (List.replicate zeros '0') ++ Text.decimal number.toNat) =
          .ok number) ∧
    (∀ (timestamp : UInt64) (lookup : Lookup),
      (∀ source ∈ Variable.numbers, ∀ text, lookup.value source = some text →
        ∀ fault, Settings.load timestamp lookup = .error (.invalidNumber source fault) ↔
          Text.readNumber text = .error fault ∧ lookup.ReadsBefore source) ∧
      ∀ settings, Settings.load timestamp lookup = .ok settings →
        (∀ text, lookup.value .chainId = some text →
          Text.readNumber text = .ok settings.executor.chainId) ∧
        ∀ text, lookup.value .feeInBPS = some text →
          Text.readNumber text = .ok settings.executor.feeInBPS) ∧
    (∀ arguments signature number,
      Invocation.read arguments = .command (.submit signature number) ↔
        ∃ given text, arguments = "submit" :: given ∧ GivesSubmission given signature text ∧
          Text.readNumber text = .ok number) ∧
    (∀ given signature text fault, GivesSubmission given signature text →
      Text.readNumber text = .error fault → Invocation.read ("submit" :: given) = .refused) ∧
    ∀ api surroundings arguments, Invocation.read arguments = .command .generate →
      (observe console transport api surroundings arguments).1.exitCode = 0 →
      ∃ printed : Settings, surroundings.settings = .ok printed ∧
        (∀ digits,
          PrintsTimestamp (observe console transport api surroundings arguments).1.stdout digits ↔
            digits = Text.decimal printed.executor.timestamp.toNat) ∧
        ∀ digits,
          PrintsTimestamp (observe console transport api surroundings arguments).1.stdout digits →
          ∀ laterApi laterSurroundings given signature normalized settings,
            GivesSubmission given signature digits →
            laterSurroundings.settings = .ok settings →
            Signature.normalize signature = .ok normalized →
            PostsTimestamp
              (observe console transport laterApi laterSurroundings ("submit" :: given))
              settings signature printed.executor.timestamp := by
  refine ⟨Text.readNumber_eq_ok_iff, Text.readNumber_eq_tooLarge_iff,
    Text.readNumber_eq_invalidDigit_iff, fun number => ⟨Text.readNumber_decimal number,
    fun sign isSign zeros => Text.readNumber_zeros isSign zeros number⟩,
    fun timestamp lookup => ⟨fun source isNumber text given fault =>
      Settings.load_eq_invalidNumber_iff timestamp isNumber given fault,
      fun settings loaded => Settings.readNumber_of_load loaded⟩,
    Invocation.read_eq_submit_iff,
    fun _ _ _ _ gives refused => Invocation.read_eq_refused_of_givesSubmission gives refused,
    fun api surroundings arguments parsed succeeds => ?_⟩
  obtain ⟨printed, loaded, prints⟩ := exists_printsTimestamp_iff parsed succeeds
  refine ⟨printed, loaded, prints, fun digits isPrinted => ?_⟩
  obtain rfl := (prints digits).mp isPrinted
  intro laterApi laterSurroundings given signature normalized settings gives laterLoaded accepted
  -- The later run reads the number from the digits, and puts it into its body.
  have submits := (Invocation.read_eq_submit_iff _ _ _).mpr
    ⟨given, _, rfl, gives, Text.readNumber_decimal printed.executor.timestamp⟩
  exact postsTimestamp_observe submits laterLoaded accepted

/-- Surroundings in which a registration is signed, with a sign and zeros before its numbers. -/
def signedSurroundings : Surroundings where
  environment
    | "EXECUTOR_REGISTRAR_SKIP_DOTENV" => some ""
    | "CHAIN_ID" => some "+0018446744073709551615"
    | "FEE_IN_BPS" => some " 007\n"
    | "EXECUTOR_ADDRESS" => capitalMark.executor
    | "FEE_TOKEN" => capitalMark.feeToken
    | "FEE_RECEIVER" => capitalMark.feeReceiver
    | "CLIENT_ID" => capitalMark.clientId
    | "API_BASE_URL" => some "https://api.example.com//"
    | _ => none
  envFiles := []
  clock := 1712345678901999999

/-- The settings in these surroundings. -/
def signedSettings : Settings where
  executor := { capitalMark with
    timestamp := 1712345678901
    chainId := 18446744073709551615
    feeInBPS := 7 }
  apiBaseUrl := some "https://api.example.com//"

theorem settings_signedSurroundings : signedSurroundings.settings = .ok signedSettings := by
  have loaded := (signedSurroundings.settings_eq.2 1712345678901 rfl).2 _ rfl
  rw [loaded, Settings.load_eq_ok_iff]
  refine ⟨rfl, fun source => ?_⟩
  cases source with
  | limitPerExecution => exact iff_of_false nofun nofun
  | _ => rfl

/-- There is a report in these surroundings. -/
theorem exitCode_signedSurroundings {σ : Type} (console : Console)
    (transport : Transport (StateM σ)) (api : σ) :
    (observe console transport api signedSurroundings ["generate"]).1.exitCode = 0 := by
  have denotes : signedSettings.executor.Denotes { capitalMarkRegistration with
      timestamp := 1712345678901, chainId := 18446744073709551615, feeInBPS := 7 } :=
    { denotes_capitalMark with chainId := rfl, timestamp := rfl, feeInBPS := rfl }
  obtain ⟨text, safe⟩ := denotes.safe
  have generated := (generate_eq_ok_iff signedSettings _).mpr ⟨_, text, denotes, safe, rfl⟩
  have reports : (observe console transport api signedSurroundings ["generate"]).1.Reports
      signedSurroundings :=
    (observe_generate_silent rfl).2
  exact reports.succeeds.mpr ⟨signedSettings, _, settings_signedSurroundings, generated⟩

/-- Variables of which one holds the least number that is too large. -/
def excessiveFee : Lookup
  | "FEE_IN_BPS" => some "18446744073709551616"
  | _ => none

theorem readsBefore_excessiveFee : excessiveFee.ReadsBefore .feeInBPS := by
  refine ⟨[.chainId, .inputTokens, .hopAddresses], [.addressTags], rfl, ?_⟩
  have unset : ∀ earlier ∈ [Variable.chainId, .inputTokens, .hopAddresses],
      excessiveFee.value earlier = none := by
    decide
  rintro earlier member other (⟨-, given, -⟩ | ⟨-, given, -⟩ | ⟨given, -⟩) <;>
    cases (unset _ member).symm.trans given

/-- The greatest number is read behind a sign and zeros. The next one is too large, and still is
with a letter behind it, but a letter within it is an invalid digit. The timestamp that is printed
is posted from the same digits. -/
theorem run_signedSurroundings :
    let transport : Transport (StateM Unit) := fun _ => pure (.ok ⟨201, "created"⟩)
    Text.WritesNumber "+0018446744073709551615" 18446744073709551615 ∧
    Text.readNumber "+0018446744073709551615" = .ok signedSettings.executor.chainId ∧
    Text.BeginsTooLarge "18446744073709551616x" ∧
    ¬ Text.BeginsTooLarge "1844674407370955161x6" ∧
    Text.readNumber "+0018446744073709551615" = .ok 18446744073709551615 ∧
    Settings.load 0 excessiveFee = .error (.invalidNumber .feeInBPS .tooLarge) ∧
    Invocation.read ["submit", "-s", lowSignature, "-t", "++5"] = .refused ∧
    PrintsTimestamp (observe .standard transport () signedSurroundings ["generate"]).1.stdout
      "1712345678901" ∧
    PostsTimestamp (observe .standard transport () signedSurroundings
      ["submit", "-t=1712345678901", "--signature", lowSignature]) signedSettings lowSignature
      1712345678901 := by
  intro transport
  obtain ⟨accepts, tooLarge, invalidDigit, renders, loads, -, refuses, prints⟩ :=
    run_reads_printed_numbers .standard transport
  have isValue : Argument.of lowSignature = .value lowSignature := by decide +kernel
  have signatureFirst : GivesSubmission ["-s", lowSignature, "-t", "++5"] lowSignature "++5" :=
    ⟨_, .separate rfl isValue (.separate rfl rfl .nothing), .refl _⟩
  have timestampFirst : GivesSubmission ["-t=1712345678901", "--signature", lowSignature]
      lowSignature "1712345678901" :=
    ⟨_, .attached rfl (.separate rfl isValue .nothing), .swap ..⟩
  have loaded : Settings.load 1712345678901 signedSurroundings.environment = .ok signedSettings :=
    settings_signedSurroundings
  obtain ⟨printed, isPrinted, printsDigits, posts⟩ :=
    prints () signedSurroundings ["generate"] rfl
      (exitCode_signedSurroundings .standard transport ())
  obtain rfl : signedSettings = printed :=
    Except.ok.inj (settings_signedSurroundings.symm.trans isPrinted)
  have digits := (printsDigits "1712345678901").mpr (by decide)
  exact ⟨(accepts _ 18446744073709551615).mp (by decide),
    ((loads 1712345678901 signedSurroundings.environment).2 signedSettings loaded).1 _ rfl,
    (tooLarge _).mp (by decide), ((invalidDigit "1844674407370955161x6").mp (by decide)).2.2,
    (renders 18446744073709551615).2 "+" (by decide) 2,
    ((loads 0 excessiveFee).1 .feeInBPS (by decide) _ rfl .tooLarge).mpr
      ⟨by decide, readsBefore_excessiveFee⟩,
    refuses _ _ _ .invalidDigit signatureFirst (by decide), digits,
    posts _ digits () signedSurroundings _ _ _ _ timestampFirst settings_signedSurroundings
      normalize_lowSignature⟩

end ExecutorRegistration
