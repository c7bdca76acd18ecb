import ExecutorRegistration.Proofs.Registration.Report

/-!
# What a hasher is asked for a report

A hasher may answer by a state of its own, with a digest or a fault, and differently each time it
is asked. Which questions it is asked, and what becomes of its answers, is listed here case by case;
a run of the computation is one of these cases, and each of them is a run.
-/

namespace ExecutorRegistration

open TypedData

variable {σ : Type}

/-! ## Calls of a hasher -/

/-- A question with its answer. -/
structure HashCall where
  /-- What is asked. -/
  query : HashQuery
  /-- What is answered. -/
  answer : Except DigestFault Digest

/-- The hasher that answers as another one does, and keeps all calls beside the state. -/
def Hasher.recorded (hasher : Hasher (StateM σ)) : Hasher (StateM (σ × List HashCall)) :=
  fun query (state, calls) =>
    let (answer, next) := (hasher query).run state
    (answer, next, calls ++ [⟨query, answer⟩])

/-- Calls that a hasher answers one after the other, from a state to a state. -/
inductive Hasher.Answers (hasher : Hasher (StateM σ)) : σ → List HashCall → σ → Prop where
  | nil {state : σ} : Answers hasher state [] state
  | cons {state next last : σ} {query : HashQuery} {answer : Except DigestFault Digest}
      {calls : List HashCall} :
      (hasher query).run state = (answer, next) → Answers hasher next calls last →
      Answers hasher state (⟨query, answer⟩ :: calls) last

/-- Calls that a hasher answers are kept if it is recorded. -/
theorem Hasher.Answers.recorded {hasher : Hasher (StateM σ)} {state last : σ}
    {calls : List HashCall} (answers : hasher.Answers state calls last) (before : List HashCall) :
    Hasher.Answers (Hasher.recorded hasher) (state, before) calls (last, before ++ calls) := by
  induction answers generalizing before with
  | nil =>
      rw [List.append_nil]
      exact .nil
  | @cons state next last query answer calls answered rest ih =>
      have kept : (Hasher.recorded hasher query).run (state, before) =
          (answer, next, before ++ [⟨query, answer⟩]) := by
        unfold Hasher.recorded StateT.run at *
        simp only [answered]
      rw [List.append_cons]
      exact .cons kept (ih _)

/-! ## The calls for a report -/

/-- The first question: the message of a registration, under the domain of its chain. -/
def ExecutorConfig.question (config : ExecutorConfig) : HashQuery :=
  ⟨⟨config.chainId, none⟩, .registerExecutor, config.message.sorted⟩

/-- The second question: a digest in hexadecimal digits, under the domain of a wallet. -/
def ExecutorConfig.walletQuestion (config : ExecutorConfig) (dataHash : Digest) (safe : Address) :
    HashQuery :=
  ⟨⟨config.chainId, some safe⟩, .safeMessage,
    .object [("message", .string (Hex.encode dataHash.toList))]⟩

/-- The calls for a report, in order, and what they lead to. -/
inductive SigningReport.Asks (settings : Settings) :
    List HashCall → Except DigestFault SigningReport → Prop where
  | unhashed {fault : DigestFault} :
      Asks settings [⟨settings.executor.question, .error fault⟩] (.error fault)
  | noExecutor {dataHash : Digest} : settings.executor.executor = none →
      Asks settings [⟨settings.executor.question, .ok dataHash⟩] (.error (.missingValue "executor"))
  | noAddress {dataHash : Digest} {text : String} {fault : AddressFault} :
      settings.executor.executor = some text → ¬ Address.IsText text →
      Address.parse text = .error fault →
      Asks settings [⟨settings.executor.question, .ok dataHash⟩]
        (.error (.invalidAddress text fault))
  | unsigned {dataHash : Digest} {text : String} {safe : Address} {fault : DigestFault} :
      settings.executor.executor = some text → Address.Denotes text safe →
      Asks settings
        [⟨settings.executor.question, .ok dataHash⟩,
          ⟨settings.executor.walletQuestion dataHash safe, .error fault⟩] (.error fault)
  | reported {dataHash safeMessageHash : Digest} {text : String} {safe : Address} :
      settings.executor.executor = some text → Address.Denotes text safe →
      Asks settings
        [⟨settings.executor.question, .ok dataHash⟩,
          ⟨settings.executor.walletQuestion dataHash safe, .ok safeMessageHash⟩]
        (.ok ⟨settings.executor.timestamp, dataHash, safeMessageHash,
          signingCommand settings.keyManagerPath text safeMessageHash⟩)

/-- Calls that are answered make a run. -/
theorem SigningReport.run_of_asks {settings : Settings} {hasher : Hasher (StateM σ)}
    {state last : σ} {calls : List HashCall} {result : Except DigestFault SigningReport}
    (asks : Asks settings calls result) (answers : hasher.Answers state calls last) :
    (generate hasher settings).run state = (result, last) := by
  unfold generate
  cases asks with
  | unhashed =>
      obtain - | ⟨first, - | -⟩ := answers
      exact run_bind_eq first
  | noExecutor unset =>
      obtain - | ⟨first, - | -⟩ := answers
      have noSafe : settings.executor.safe = .error (.missingValue "executor") := by
        rw [ExecutorConfig.safe, unset]
      refine (run_bind_eq first).trans ?_
      simp only [noSafe]
      rfl
  | @noAddress _ text fault isSet noText refused =>
      obtain - | ⟨first, - | -⟩ := answers
      have noSafe : settings.executor.safe = .error (.invalidAddress text fault) := by
        rw [ExecutorConfig.safe, isSet]
        simp only [refused]
      refine (run_bind_eq first).trans ?_
      simp only [noSafe]
      rfl
  | @unsigned _ text safe _ isSet denotes =>
      obtain - | ⟨first, - | ⟨second, - | -⟩⟩ := answers
      have isSafe : settings.executor.safe = .ok (text, safe) :=
        (settings.executor.safe_eq_ok_iff _ _).mpr ⟨isSet, denotes⟩
      refine (run_bind_eq first).trans ?_
      simp only [isSafe]
      exact run_bind_eq second
  | @reported _ _ text safe isSet denotes =>
      obtain - | ⟨first, - | ⟨second, - | -⟩⟩ := answers
      have isSafe : settings.executor.safe = .ok (text, safe) :=
        (settings.executor.safe_eq_ok_iff _ _).mpr ⟨isSet, denotes⟩
      refine (run_bind_eq first).trans ?_
      simp only [isSafe]
      exact run_bind_eq second

/-- Whatever a hasher answers, there are calls for a report. -/
theorem SigningReport.exists_asks (settings : Settings) (hasher : Hasher (StateM σ)) (state : σ) :
    ∃ calls result last, Asks settings calls result ∧ hasher.Answers state calls last := by
  rcases first : (hasher settings.executor.question).run state with ⟨answer, next⟩
  cases answer with
  | error fault => exact ⟨_, _, _, .unhashed, .cons first .nil⟩
  | ok dataHash =>
      cases isSet : settings.executor.executor with
      | none => exact ⟨_, _, _, .noExecutor isSet, .cons first .nil⟩
      | some text =>
          cases parsed : Address.parse text with
          | error fault =>
              have noText : ¬ Address.IsText text := by
                intro isText
                obtain ⟨safe, denotes⟩ := (Address.isText_iff text).mp isText
                rw [(Address.parse_eq_ok_iff _ _).mpr denotes] at parsed
                cases parsed
              exact ⟨_, _, _, .noAddress isSet noText parsed, .cons first .nil⟩
          | ok safe =>
              have denotes := (Address.parse_eq_ok_iff _ _).mp parsed
              rcases second : (hasher (settings.executor.walletQuestion dataHash safe)).run next
                with ⟨answer, last⟩
              cases answer with
              | error fault =>
                  exact ⟨_, _, _, .unsigned isSet denotes, .cons first (.cons second .nil)⟩
              | ok safeMessageHash =>
                  exact ⟨_, _, _, .reported isSet denotes, .cons first (.cons second .nil)⟩

/-- A run has the result of calls that are answered. -/
theorem SigningReport.run_generate_iff (settings : Settings) (hasher : Hasher (StateM σ))
    (state last : σ) (result : Except DigestFault SigningReport) :
    (generate hasher settings).run state = (result, last) ↔
      ∃ calls, hasher.Answers state calls last ∧ Asks settings calls result := by
  constructor
  · intro ran
    obtain ⟨calls, result', last', asks, answers⟩ := exists_asks settings hasher state
    rw [run_of_asks asks answers] at ran
    obtain ⟨rfl, rfl⟩ := Prod.mk.inj ran
    exact ⟨calls, answers, asks⟩
  · rintro ⟨calls, answers, asks⟩
    exact run_of_asks asks answers

/-- A recorded run keeps the calls from which its result comes. -/
theorem SigningReport.run_recorded_iff (settings : Settings) (hasher : Hasher (StateM σ))
    (state last : σ) (calls : List HashCall) (result : Except DigestFault SigningReport) :
    (generate (Hasher.recorded hasher) settings).run (state, []) = (result, last, calls) ↔
      hasher.Answers state calls last ∧ Asks settings calls result := by
  constructor
  · intro ran
    obtain ⟨calls', result', last', asks, answers⟩ := exists_asks settings hasher state
    rw [run_of_asks asks (answers.recorded [])] at ran
    obtain ⟨rfl, same⟩ := Prod.mk.inj ran
    obtain ⟨rfl, rfl⟩ := Prod.mk.inj same
    exact ⟨answers, asks⟩
  · rintro ⟨answers, asks⟩
    exact run_of_asks asks (answers.recorded [])

/-! ## Digests as texts -/

/-- A text shows a digest: sixty-four lower-case digits behind a mark, which denote its octets. -/
def ShowsDigest (text : String) (digest : Digest) : Prop :=
  ∃ digits, text.toList = '0' :: 'x' :: digits ∧ digits.length = 64 ∧
    (∀ c ∈ digits, ('0' ≤ c ∧ c ≤ '9') ∨ ('a' ≤ c ∧ c ≤ 'f')) ∧
    Hex.decode? text = some digest.toList

theorem Hex.digit_isLower :
    ∀ value < 16, ('0' ≤ digit value ∧ digit value ≤ '9') ∨
      ('a' ≤ digit value ∧ digit value ≤ 'f') := by
  decide

theorem showsDigest_encode (digest : Digest) : ShowsDigest (Hex.encode digest.toList) digest := by
  refine ⟨Hex.digits digest.toList, String.toList_ofList, ?_, ?_, Hex.decode?_encode _⟩
  · rw [Hex.length_digits, digest.length_toList]
  · intro c member
    obtain ⟨octet, -, isDigit⟩ := List.mem_flatMap.mp member
    have octet_lt := octet.toNat_lt
    rw [Hex.octetDigits, List.mem_cons, List.mem_singleton] at isDigit
    rcases isDigit with rfl | rfl
    · exact Hex.digit_isLower _ (by omega)
    · exact Hex.digit_isLower _ (by omega)

/-- A hasher of any kind is asked for the registration first, and asked no more if it has no answer
or the executor is no address. Otherwise it is asked once more, under the domain of the executor and
for the digits of its first answer, and if it has an answer again, the report holds both. -/
theorem generate_asks_in_order (settings : Settings) (hasher : Hasher (StateM σ)) (state : σ) :
    (∀ result last calls,
      (SigningReport.generate (Hasher.recorded hasher) settings).run (state, []) =
          (result, last, calls) ↔
        hasher.Answers state calls last ∧ SigningReport.Asks settings calls result) ∧
    (∀ result last, (SigningReport.generate hasher settings).run state = (result, last) ↔
      ∃ calls, hasher.Answers state calls last ∧ SigningReport.Asks settings calls result) ∧
    (∀ report : SigningReport, report.toJson = .object
      [("timestamp", .ofUInt64 report.timestamp),
       ("dataHash", .string (Hex.encode report.dataHash.toList)),
       ("safeMessageHash", .string (Hex.encode report.safeMessageHash.toList)),
       ("cmd", .string report.command)]) ∧
    ∀ digest : Digest, ShowsDigest (Hex.encode digest.toList) digest :=
  ⟨fun result last calls =>
      SigningReport.run_recorded_iff settings hasher state last calls result,
    fun result last => SigningReport.run_generate_iff settings hasher state last result,
    fun _ => rfl, showsDigest_encode⟩

end ExecutorRegistration
