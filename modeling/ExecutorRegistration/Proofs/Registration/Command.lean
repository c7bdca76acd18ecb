import ExecutorRegistration.Proofs.Registration.Questions
import ExecutorRegistration.Proofs.Text.Trimming
import ExecutorRegistration.Proofs.TypedData.TypeTexts

/-!
# The command that signs

Nothing is escaped in the command: it holds the path of the key manager as it is set, but for
slashes at its end, then the executor and the digest between quotes. Neither of these two can hold a
quote, as the executor has been read as an address and the digest is written in digits. So the
quotes at the end of a command are those that were put there, and the command can be taken apart
from its end, whatever the path is.
-/

namespace ExecutorRegistration

open TypedData

/-! ## Parts of a command -/

/-- Two paths are the same but for slashes at their ends. -/
def SameButSlashes (left right : String) : Prop :=
  ∃ path, Text.IsStripped '/' left path ∧ Text.IsStripped '/' right path

/-- Lists are the same before and behind the last place of an item. -/
theorem eq_of_append_cons_eq_last {α : Type} [DecidableEq α] {separator : α}
    {left right leftRest rightRest : List α} (notLeft : separator ∉ leftRest)
    (notRight : separator ∉ rightRest)
    (same : left ++ separator :: leftRest = right ++ separator :: rightRest) :
    left = right ∧ leftRest = rightRest := by
  have reversed := congrArg List.reverse same
  simp only [List.reverse_append, List.reverse_cons, List.append_assoc,
    List.singleton_append] at reversed
  obtain ⟨behind, before⟩ := eq_of_append_cons_eq (mt List.mem_reverse.mp notLeft)
    (mt List.mem_reverse.mp notRight) reversed
  exact ⟨List.reverse_injective before, List.reverse_injective behind⟩

/-- An address text is made of digits and a mark. -/
theorem Address.IsText.notMem {text : String} (isText : Address.IsText text) {c : Char}
    (noDigit : ¬ Hex.IsDigit c) (noMark : c ≠ 'x' ∧ c ≠ 'X') : c ∉ text.toList := by
  obtain ⟨mark, isMark, digits, split, -, isDigit⟩ := isText
  rw [split, List.mem_append, not_or]
  constructor
  · have noZero : c ≠ '0' := by
      rintro rfl
      exact noDigit (by decide)
    simp only [Hex.marks, List.mem_cons, List.not_mem_nil, or_false] at isMark
    rcases isMark with rfl | rfl | rfl <;> simp [noZero, noMark]
  · exact fun member => noDigit (isDigit c member)

theorem ShowsDigest.notMem_quote {text : String} {digest : Digest}
    (shows : ShowsDigest text digest) : '\'' ∉ text.toList := by
  obtain ⟨digits, split, -, isDigit, -⟩ := shows
  rw [split]
  simp only [List.mem_cons, not_or]
  refine ⟨by decide, by decide, fun member => ?_⟩
  exact absurd (isDigit _ member) (by decide)

theorem ShowsDigest.unique {text : String} {left right : Digest} (showsLeft : ShowsDigest text left)
    (showsRight : ShowsDigest text right) : left = right := by
  obtain ⟨-, -, -, -, decodedLeft⟩ := showsLeft
  obtain ⟨-, -, -, -, decodedRight⟩ := showsRight
  exact Octets.ext (Option.some.inj (decodedLeft.symm.trans decodedRight))

/-- The command with the quotes around the executor and the digest in view. -/
theorem toList_command (path executor hash : String) :
    ("vault write " ++ path ++ "/sign address='" ++ executor ++ "' hash='" ++ hash ++ "'").toList =
      (((("vault write ".toList ++ path.toList ++ "/sign address=".toList) ++
        '\'' :: executor.toList) ++ "' hash=".toList) ++ '\'' :: hash.toList) ++ ['\''] := by
  have address : "/sign address='".toList = "/sign address=".toList ++ ['\''] := rfl
  have digest : "' hash='".toList = "' hash=".toList ++ ['\''] := rfl
  have quote : "'".toList = ['\''] := rfl
  simp only [String.toList_append, address, digest, quote, List.append_assoc,
    List.cons_append, List.nil_append]

/-- A command is made of one path, one executor and one digest. -/
theorem command_injective {path otherPath executor otherExecutor hash otherHash : String}
    (noQuote : '\'' ∉ executor.toList ∧ '\'' ∉ hash.toList)
    (noOtherQuote : '\'' ∉ otherExecutor.toList ∧ '\'' ∉ otherHash.toList)
    (same : "vault write " ++ path ++ "/sign address='" ++ executor ++ "' hash='" ++ hash ++ "'" =
      "vault write " ++ otherPath ++ "/sign address='" ++ otherExecutor ++ "' hash='" ++
        otherHash ++ "'") :
    path = otherPath ∧ executor = otherExecutor ∧ hash = otherHash := by
  have chars := congrArg String.toList same
  rw [toList_command, toList_command] at chars
  obtain ⟨front, hashes⟩ := eq_of_append_cons_eq_last noQuote.2 noOtherQuote.2
    (List.append_cancel_right chars)
  obtain ⟨paths, executors⟩ := eq_of_append_cons_eq_last noQuote.1 noOtherQuote.1
    (List.append_cancel_right front)
  have pathChars := List.append_cancel_left (List.append_cancel_right paths)
  exact ⟨String.toList_inj.mp pathChars, String.toList_inj.mp executors,
    String.toList_inj.mp hashes⟩

/-- Slashes at the end of a path are not seen in a command. -/
theorem signingCommand_congr {path otherPath : String}
    (same : Text.trimEnd '/' path = Text.trimEnd '/' otherPath) (executor : String)
    (digest : Digest) :
    signingCommand path executor digest = signingCommand otherPath executor digest := by
  unfold signingCommand
  rw [same]

/-! ## Commands of reports -/

/-- What the command of a report is made of: the path of the key manager without slashes at its
end, the text of the executor, which is that of an address, and the digest of the report in
digits. -/
structure SigningReport.Commands (report : SigningReport) (settings : Settings)
    (path executor hash : String) : Prop where
  isStripped : Text.IsStripped '/' settings.keyManagerPath path
  isSet : settings.executor.executor = some executor
  isText : Address.IsText executor
  shows : ShowsDigest hash report.safeMessageHash
  field : report.toJson.field? "safeMessageHash" = some (.string hash)
  command : report.command =
    "vault write " ++ path ++ "/sign address='" ++ executor ++ "' hash='" ++ hash ++ "'"

theorem SigningReport.exists_commands {σ : Type} {hasher : Hasher (StateM σ)} {settings : Settings}
    {state last : σ} {report : SigningReport}
    (ran : (generate hasher settings).run state = (.ok report, last)) :
    ∃ path executor hash, report.Commands settings path executor hash := by
  obtain ⟨calls, -, asks⟩ := (run_generate_iff settings hasher state last (.ok report)).mp ran
  cases asks with
  | @reported dataHash safeMessageHash text safe isSet denotes =>
      exact ⟨_, text, _, Text.isStripped_trimEnd '/' _, isSet,
        (Address.isText_iff text).mpr ⟨safe, denotes⟩, showsDigest_encode safeMessageHash, rfl, rfl⟩

/-- The command of a report names the path of the key manager without slashes at its end, the
executor as it is set, in which there are digits and a mark and so no quote, space or slash, and
the digest of the report. Two reports of hashers of any kind that have the same command have the
same digest, for the same executor, and their paths differ in slashes at their ends alone. -/
theorem generate_commands_unambiguous :
    (∀ (σ : Type) (hasher : Hasher (StateM σ)) (settings : Settings) (state last : σ)
      (report : SigningReport),
      (SigningReport.generate hasher settings).run state = (.ok report, last) →
        ∃ path executor hash, report.Commands settings path executor hash ∧
          ∀ c ∈ executor.toList, c ∉ ['\'', '"', ' ', '/']) ∧
    ∀ (σ τ : Type) (hasher : Hasher (StateM σ)) (otherHasher : Hasher (StateM τ))
      (settings otherSettings : Settings) (state last : σ) (otherState otherLast : τ)
      (report other : SigningReport),
      (SigningReport.generate hasher settings).run state = (.ok report, last) →
      (SigningReport.generate otherHasher otherSettings).run otherState = (.ok other, otherLast) →
      report.command = other.command →
        report.safeMessageHash = other.safeMessageHash ∧
        settings.executor.executor = otherSettings.executor.executor ∧
        SameButSlashes settings.keyManagerPath otherSettings.keyManagerPath := by
  constructor
  · intro σ hasher settings state last report ran
    obtain ⟨path, executor, hash, commands⟩ := SigningReport.exists_commands ran
    have apart : ∀ c ∈ ['\'', '"', ' ', '/'], ¬ Hex.IsDigit c ∧ c ≠ 'x' ∧ c ≠ 'X' := by
      simp only [List.forall_mem_cons]
      exact ⟨by decide, by decide, by decide, by decide, List.forall_mem_nil _⟩
    refine ⟨path, executor, hash, commands, fun c member isSpecial => ?_⟩
    exact commands.isText.notMem (apart c isSpecial).1 (apart c isSpecial).2 member
  · intro σ τ hasher otherHasher settings otherSettings state last otherState otherLast report
      other ran otherRan same
    obtain ⟨path, executor, hash, commands⟩ := SigningReport.exists_commands ran
    obtain ⟨otherPath, otherExecutor, otherHash, otherCommands⟩ :=
      SigningReport.exists_commands otherRan
    rw [commands.command, otherCommands.command] at same
    obtain ⟨rfl, rfl, rfl⟩ := command_injective
      ⟨commands.isText.notMem (by decide) (by decide), commands.shows.notMem_quote⟩
      ⟨otherCommands.isText.notMem (by decide) (by decide), otherCommands.shows.notMem_quote⟩ same
    exact ⟨commands.shows.unique otherCommands.shows,
      commands.isSet.trans otherCommands.isSet.symm, path, commands.isStripped,
      otherCommands.isStripped⟩

/-- Settings in which the executor stands behind a capital mark. -/
def keyedSettings (keyManagerPath : String) : Settings where
  executor := capitalMark
  keyManagerPath

/-- What is left of the prescribed answers is nothing, and a report is made. -/
theorem exists_run_keyedSettings (keyManagerPath : String) (first second : Digest) :
    ∃ last, (SigningReport.generate recordingHasher (keyedSettings keyManagerPath)).run
        ⟨[.ok first, .ok second], []⟩ =
      (.ok ⟨1700000000000, first, second,
        signingCommand keyManagerPath "0XAbC0000000000000000000000000000000000001" second⟩,
        last) := by
  obtain ⟨text, ⟨⟩, denotes⟩ := denotes_capitalMark.executor
  have asks := @SigningReport.Asks.reported (keyedSettings keyManagerPath) first second _ _ rfl
    denotes
  exact ⟨_, SigningReport.run_of_asks asks (.cons rfl (.cons rfl .nil))⟩

/-- Two paths with a quote in them, which differ in the slashes at their ends, are in the same
command. -/
theorem commands_of_keyedSettings :
    ∃ report other last otherLast,
      (SigningReport.generate recordingHasher (keyedSettings "keys/sign address='")).run
          ⟨[.ok (keccak256 [1]), .ok (keccak256 [])], []⟩ = (.ok report, last) ∧
      (SigningReport.generate recordingHasher (keyedSettings "keys/sign address='//")).run
          ⟨[.ok (keccak256 [2]), .ok (keccak256 [])], []⟩ = (.ok other, otherLast) ∧
      report.command = other.command ∧
      (∃ path executor hash, report.Commands (keyedSettings "keys/sign address='") path executor
        hash ∧ ∀ c ∈ executor.toList, c ∉ ['\'', '"', ' ', '/']) ∧
      SameButSlashes "keys/sign address='" "keys/sign address='//" := by
  obtain ⟨last, ran⟩ :=
    exists_run_keyedSettings "keys/sign address='" (keccak256 [1]) (keccak256 [])
  obtain ⟨otherLast, otherRan⟩ :=
    exists_run_keyedSettings "keys/sign address='//" (keccak256 [2]) (keccak256 [])
  have stripped : Text.trimEnd '/' "keys/sign address='" =
      Text.trimEnd '/' "keys/sign address='//" := by decide
  have same := signingCommand_congr stripped "0XAbC0000000000000000000000000000000000001"
    (keccak256 [])
  have apart := generate_commands_unambiguous.2 _ _ _ _ _ _ _ _ _ _ _ _ ran otherRan same
  exact ⟨_, _, _, _, ran, otherRan, same,
    generate_commands_unambiguous.1 _ _ _ _ _ _ ran, apart.2.2⟩

/-- A report is made for an executor that is no forty digits, alone or behind `0x`. -/
theorem generate_keyedSettings :
    (∃ report last,
      (SigningReport.generate recordingHasher (keyedSettings "keys")).run
          ⟨[.ok (keccak256 [1]), .ok (keccak256 [])], []⟩ = (.ok report, last)) ∧
    ∀ executor, (keyedSettings "keys").executor.executor = some executor →
      ¬ ∃ digits, (executor.toList = digits ∨ executor.toList = '0' :: 'x' :: digits) ∧
        digits.length = 40 ∧ ∀ c ∈ digits, Hex.IsDigit c := by
  constructor
  · obtain ⟨last, ran⟩ := exists_run_keyedSettings "keys" (keccak256 [1]) (keccak256 [])
    exact ⟨_, last, ran⟩
  · rintro _ ⟨⟩ ⟨digits, split, length_eq, -⟩
    -- The text has forty-two characters, so that two of them are the mark, and it is another one.
    rcases split with same | marked
    · rw [← same] at length_eq
      exact absurd length_eq (by decide)
    · have mark : "0XAbC0000000000000000000000000000000000001".toList[1]? = some 'x' :=
        congrArg (·[1]?) marked
      exact absurd mark (by decide)

end ExecutorRegistration
