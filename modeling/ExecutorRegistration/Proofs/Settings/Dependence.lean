import ExecutorRegistration.Proofs.Settings.RoundTrip
import ExecutorRegistration.Proofs.Submission

/-!
# Variables that a command does not depend on

A report is made of what is signed and of the path of the key manager; a body is made of what is
signed but its timestamp, of what is shown beside it, and of the base URL. Settings that differ
elsewhere are the same to the command, and so are the variables from which they are loaded.
-/

namespace ExecutorRegistration

variable {m : Type → Type} [Monad m] {left right : Settings}

/-! ## Reports -/

/-- All of a report but its command. -/
def SigningReport.hashes (report : SigningReport) : UInt64 × Digest × Digest :=
  (report.timestamp, report.dataHash, report.safeMessageHash)

theorem generate_congr (hasher : Hasher m) (executor : left.executor = right.executor)
    (keyManagerPath : left.keyManagerPath = right.keyManagerPath) :
    SigningReport.generate hasher left = SigningReport.generate hasher right := by
  unfold SigningReport.generate
  rw [executor, keyManagerPath]

/-- The path of the key manager is found in the command alone. -/
theorem map_hashes_generate [LawfulMonad m] (hasher : Hasher m)
    (executor : left.executor = right.executor) :
    Except.map SigningReport.hashes <$> SigningReport.generate hasher left =
      Except.map SigningReport.hashes <$> SigningReport.generate hasher right := by
  unfold SigningReport.generate
  rw [executor]
  simp only [map_bind]
  refine bind_congr fun answer => ?_
  cases answer with
  | error fault => rfl
  | ok dataHash =>
      dsimp only
      cases right.executor.safe with
      | error fault => rfl
      | ok safe =>
          simp only [map_bind]
          refine bind_congr fun answer => ?_
          cases answer with
          | error fault => rfl
          | ok safeMessageHash => simp only [map_pure, Except.map, SigningReport.hashes]

/-! ## Submissions -/

theorem prepare_congr (body : Payload.unsigned left = Payload.unsigned right)
    (signature : String) (timestamp : UInt64) :
    prepare left signature timestamp = prepare right signature timestamp := by
  unfold prepare
  rw [body]

theorem send_congr (transport : Transport m) (base : left.apiBaseUrl = right.apiBaseUrl)
    (payload : Payload) : send transport left payload = send transport right payload := by
  unfold send registrationRequest Settings.requireApiBaseUrl
  rw [base]

theorem submit_congr (transport : Transport m)
    (body : Payload.unsigned left = Payload.unsigned right)
    (base : left.apiBaseUrl = right.apiBaseUrl) (signature : String) (timestamp : UInt64) :
    submit transport left signature timestamp = submit transport right signature timestamp := by
  unfold submit
  rw [prepare_congr body]
  cases prepare right signature timestamp with
  | error fault => rfl
  | ok payload => exact send_congr transport base payload

/-! ## Variables -/

/-- Variables have the same values in both lookups, except for some. -/
def Lookup.AgreesBut (left right : Lookup) (others : List Variable) : Prop :=
  ∀ source : Variable, source ∉ others → left source.key = right source.key

/-- The variables that are neither parsed nor signed. -/
def Variable.unsigned : List Variable := [apiBaseUrl, executorName, executorLogo, keyManagerPath]

namespace Lookup.AgreesBut

variable {left right : Lookup} {others more : List Variable}

theorem mono (same : left.AgreesBut right others) (subset : others ⊆ more) :
    left.AgreesBut right more :=
  fun source isOther => same source fun member => isOther (subset member)

theorem value (same : left.AgreesBut right others) {source : Variable}
    (isOther : source ∉ others) : left.value source = right.value source :=
  Lookup.value_congr (same source isOther)

theorem parsed (same : left.AgreesBut right Variable.unsigned) : left.parsed = right.parsed :=
  Lookup.parsed_congr fun source member => same.value <| by
    revert source
    decide

/-- What is signed is read from all variables but four. -/
theorem executor (same : left.AgreesBut right Variable.unsigned) (parsed : Parsed)
    (timestamp : UInt64) :
    (parsed.settings timestamp left).executor = (parsed.settings timestamp right).executor := by
  simp only [Parsed.settings, same.value (show Variable.executorAddress ∉ _ by decide),
    same.value (show Variable.feeToken ∉ _ by decide),
    same.value (show Variable.feeReceiver ∉ _ by decide),
    same.value (show Variable.limitPerExecution ∉ _ by decide),
    same.value (show Variable.clientId ∉ _ by decide)]

/-- A body is read from all variables but the path of the key manager, at any time. -/
theorem unsignedPayload (same : left.AgreesBut right [.keyManagerPath]) (parsed : Parsed)
    (leftTime rightTime : UInt64) :
    Payload.unsigned (parsed.settings leftTime left) =
      Payload.unsigned (parsed.settings rightTime right) := by
  have signed := (same.mono (by decide)).executor parsed rightTime
  have untimed : (parsed.settings leftTime left).executor =
      { (parsed.settings rightTime left).executor with timestamp := leftTime } := rfl
  have shown : (parsed.settings leftTime left).metadata =
      (parsed.settings rightTime right).metadata := by
    simp only [Parsed.settings, same.value (show Variable.executorName ∉ _ by decide),
      same.value (show Variable.executorLogo ∉ _ by decide)]
  rw [Payload.unsigned, Payload.unsigned, untimed, signed, shown]

/-- Loading has the same result up to `view` if so has what is seen of the settings put together
from what is parsed. -/
theorem map_load {α : Type} {view : Settings → α} {leftTime rightTime : UInt64}
    (same : left.AgreesBut right Variable.unsigned)
    (views : ∀ parsed : Parsed, view (parsed.settings leftTime left) =
      view (parsed.settings rightTime right)) :
    (Settings.load leftTime left).map view = (Settings.load rightTime right).map view := by
  rw [Settings.load_eq, Settings.load_eq, same.parsed]
  cases right.parsed with
  | error fault => rfl
  | ok parsed => exact congrArg Except.ok (views parsed)

end Lookup.AgreesBut

/-- A report does not depend on the base URL and on what is only shown, and of the path of the key
manager only its command does, whether loading and hashing fail or not. What is prepared, sent and
submitted does not depend on that path, nor on when the settings were loaded: over any transport
it is the same computation, with the same requests. -/
theorem commands_ignore_other_variables :
    (∀ (m : Type → Type) [Monad m] (hasher : Hasher m) (timestamp : UInt64) (left right : Lookup),
      left.AgreesBut right [.apiBaseUrl, .executorName, .executorLogo] →
      (Settings.load timestamp left).map (SigningReport.generate hasher) =
        (Settings.load timestamp right).map (SigningReport.generate hasher)) ∧
    (∀ (m : Type → Type) [Monad m] [LawfulMonad m] (hasher : Hasher m) (timestamp : UInt64)
        (left right : Lookup),
      left.AgreesBut right [.apiBaseUrl, .executorName, .executorLogo, .keyManagerPath] →
      (Settings.load timestamp left).map
          (Except.map SigningReport.hashes <$> SigningReport.generate hasher ·) =
        (Settings.load timestamp right).map
          (Except.map SigningReport.hashes <$> SigningReport.generate hasher ·)) ∧
    ∀ (m : Type → Type) [Monad m] (transport : Transport m) (leftTime rightTime : UInt64)
        (left right : Lookup), left.AgreesBut right [.keyManagerPath] →
      (∀ signature timestamp,
        (Settings.load leftTime left).map (prepare · signature timestamp) =
          (Settings.load rightTime right).map (prepare · signature timestamp)) ∧
      (∀ payload,
        (Settings.load leftTime left).map (send transport · payload) =
          (Settings.load rightTime right).map (send transport · payload)) ∧
      ∀ signature timestamp,
        (Settings.load leftTime left).map (submit transport · signature timestamp) =
          (Settings.load rightTime right).map (submit transport · signature timestamp) := by
  refine ⟨fun m _ hasher timestamp left right same => ?_,
    fun m _ _ hasher timestamp left right same => ?_,
    fun m _ transport leftTime rightTime left right same => ?_⟩
  · have signed : left.AgreesBut right Variable.unsigned := same.mono (by decide)
    refine signed.map_load fun parsed => generate_congr hasher (signed.executor parsed timestamp) ?_
    exact congrArg (·.getD defaultKeyManagerPath)
      (same.value (show Variable.keyManagerPath ∉ _ by decide))
  · exact Lookup.AgreesBut.map_load same fun parsed =>
      map_hashes_generate hasher (Lookup.AgreesBut.executor same parsed timestamp)
  · have signed : left.AgreesBut right Variable.unsigned := same.mono (by decide)
    have body := fun parsed => same.unsignedPayload parsed leftTime rightTime
    have base : ∀ parsed : Parsed, (parsed.settings leftTime left).apiBaseUrl =
        (parsed.settings rightTime right).apiBaseUrl :=
      fun _ => same.value (show Variable.apiBaseUrl ∉ _ by decide)
    exact ⟨fun signature timestamp => signed.map_load fun parsed =>
        prepare_congr (body parsed) signature timestamp,
      fun payload => signed.map_load fun parsed => send_congr transport (base parsed) payload,
      fun signature timestamp => signed.map_load fun parsed =>
        submit_congr transport (body parsed) (base parsed) signature timestamp⟩

/-- Settings that can be signed, with a name and a base URL that is none. -/
def namedSettings : Settings where
  executor := capitalMark
  metadata := { name := some "Ada" }
  apiBaseUrl := some "registry"

/-- What can be signed of them. -/
def unnamedSettings : Settings where
  executor := capitalMark

theorem load_namedSettings :
    Settings.load 1700000000000 namedSettings.environment = .ok namedSettings := by
  refine Settings.load_of_plain namedSettings.environment_key ?_ nofun
  refine ⟨⟨fun text isSet => ?_, ⟨by decide, by decide, by decide⟩⟩, ?_, ?_, by decide⟩
  · simp only [namedSettings, capitalMark, Settings.optionalTexts, List.mem_cons, reduceCtorEq,
      Option.some.injEq, List.not_mem_nil, or_false, false_or] at isSet
    rcases isSet with rfl | rfl | rfl | rfl | rfl | rfl <;>
      exact ⟨by decide, by decide, by decide⟩
  · exact .object List.Pairwise.nil nofun
  · exact .object trivial nofun

/-- A report is the same without the name and the base URL, and its hashes are the same with
another path; a registration is submitted in the same way later and with that path. -/
theorem commands_of_namedSettings :
    let moved (settings : Settings) := { settings with keyManagerPath := "kv/signer" }
    let transport : Transport Id := fun _ => .error ⟨"refused"⟩
    (∃ report, ((Settings.load 1700000000000 namedSettings.environment).map
        (SigningReport.generate typedDataHasher)).map Id.run = .ok (.ok report) ∧
      ((Settings.load 1700000000000 unnamedSettings.environment).map
        (SigningReport.generate typedDataHasher)).map Id.run = .ok (.ok report)) ∧
    (Settings.load 0 namedSettings.environment).map
        (fun settings => (SigningReport.generate typedDataHasher settings).run.map
          SigningReport.hashes) =
      (Settings.load 0 (moved unnamedSettings).environment).map
        (fun settings => (SigningReport.generate typedDataHasher settings).run.map
          SigningReport.hashes) ∧
    (Settings.load 0 namedSettings.environment).map
        (submit transport.recorded · lowSignature 1700000000000) =
      (Settings.load 5 (moved namedSettings).environment).map
        (submit transport.recorded · lowSignature 1700000000000) := by
  intro moved transport
  have unnamed : namedSettings.environment.AgreesBut unnamedSettings.environment
      [.apiBaseUrl, .executorName, .executorLogo] := by
    intro source other
    rw [Settings.environment_key, Settings.environment_key]
    cases source <;> first | exact absurd (by decide) other | rfl
  have unnamedMoved : namedSettings.environment.AgreesBut (moved unnamedSettings).environment
      [.apiBaseUrl, .executorName, .executorLogo, .keyManagerPath] := by
    intro source other
    rw [Settings.environment_key, Settings.environment_key]
    cases source <;> first | exact absurd (by decide) other | rfl
  have onlyMoved : namedSettings.environment.AgreesBut (moved namedSettings).environment
      [.keyManagerPath] := by
    intro source other
    rw [Settings.environment_key, Settings.environment_key]
    cases source <;> first | exact absurd (by decide) other | rfl
  obtain ⟨registration, denotes⟩ := capitalMark.isSignable_iff.mp isSignable_capitalMark
  obtain ⟨executor, safe⟩ := denotes.safe
  have generated := (generate_eq_ok_iff namedSettings _).mpr
    ⟨registration, executor, denotes, safe, rfl⟩
  have named : ((Settings.load 1700000000000 namedSettings.environment).map
      (SigningReport.generate typedDataHasher)).map Id.run =
        .ok (.ok (registration.report namedSettings.keyManagerPath executor)) := by
    rw [load_namedSettings]
    exact congrArg Except.ok generated
  refine ⟨⟨_, named, ?_⟩, ?_, ?_⟩
  · rw [← commands_ignore_other_variables.1 Id typedDataHasher _ _ _ unnamed]
    exact named
  · exact commands_ignore_other_variables.2.1 Id typedDataHasher 0 _ _ unnamedMoved
  · exact (commands_ignore_other_variables.2.2 _ transport.recorded 0 5 _ _ onlyMoved).2.2 _ _

end ExecutorRegistration
