import ExecutorRegistration.Arguments
import ExecutorRegistration.Proofs.Results
import Mathlib.Data.List.Permutation

/-!
# What arguments give

Arguments give values to flags, one after the other: in one argument with the flag, or in the one
behind it. A run submits if they give one signature and one timestamp, in any order, and the text
of the timestamp is read as a number. Help is given wherever it is asked for in place of a flag,
unless a value before is refused.
-/

namespace ExecutorRegistration

/-- Arguments give values to flags. Two dashes may stand behind the last value. -/
inductive Gives : List String → List (Flag × String) → Prop where
  | nothing : Gives [] []
  | ending {text : String} (ends : Argument.of text = .ending) : Gives [text] []
  | attached {text value : String} {flag : Flag} {rest : List String}
      {given : List (Flag × String)} (holds : Argument.of text = .flag flag (some value))
      (gives : Gives rest given) : Gives (text :: rest) ((flag, value) :: given)
  | separate {text next value : String} {flag : Flag} {rest : List String}
      {given : List (Flag × String)} (names : Argument.of text = .flag flag none)
      (isValue : Argument.of next = .value value) (gives : Gives rest given) :
      Gives (text :: next :: rest) ((flag, value) :: given)

/-- Arguments give a signature and the text of a timestamp, each once and nothing else. -/
def GivesSubmission (arguments : List String) (signature timestamp : String) : Prop :=
  ∃ given, Gives arguments given ∧
    given.Perm [(.signature, signature), (.timestamp, timestamp)]

namespace Options

variable {options next : Options} {value : String}

/-- Gives options their values one after the other. -/
def giveAll (options : Options) (given : List (Flag × String)) : Except Interruption Options :=
  given.foldlM (fun options entry => options.give entry.1 entry.2) options

@[simp]
theorem giveAll_nil (options : Options) : options.giveAll [] = .ok options := rfl

@[simp]
theorem giveAll_cons (options : Options) (flag : Flag) (value : String)
    (given : List (Flag × String)) :
    options.giveAll ((flag, value) :: given) =
      options.give flag value >>= fun next => next.giveAll given := rfl

/-- A signature is taken once, whatever it is. -/
theorem give_signature_eq_ok_iff :
    options.give .signature value = .ok next ↔
      options.signature = none ∧ next = { options with signature := some value } := by
  rw [give]
  cases options.signature <;> simp [eq_comm]

/-- A timestamp is taken once, and if its text is read as a number. -/
theorem give_timestamp_eq_ok_iff :
    options.give .timestamp value = .ok next ↔
      options.timestamp = none ∧ ∃ number, Text.readNumber value = .ok number ∧
        next = { options with timestamp := some number } := by
  rw [give]
  cases options.timestamp with
  | none => cases Text.readNumber value <;> simp [eq_comm]
  | some earlier => simp

/-- A value that is not taken is refused. -/
theorem give_eq_error {flag : Flag} {interruption : Interruption}
    (interrupted : options.give flag value = .error interruption) : interruption = .refusal := by
  cases flag <;> rw [give] at interrupted <;> split at interrupted
  case signature.isTrue => exact (Except.error.inj interrupted).symm
  case signature.isFalse => cases interrupted
  case timestamp.isTrue => exact (Except.error.inj interrupted).symm
  case timestamp.isFalse =>
    split at interrupted
    · exact (Except.error.inj interrupted).symm
    · cases interrupted

/-! ## Reading options -/

theorem read_attached {text : String} {flag : Flag}
    (holds : Argument.of text = .flag flag (some value)) (options : Options) (rest : List String) :
    options.read (text :: rest) = options.give flag value >>= fun next => next.read rest := by
  cases rest with
  | nil =>
      rw [read, holds]
      exact (bind_pure (options.give flag value)).symm
  | cons next rest => rw [read, holds]

/-- Options are read from arguments by giving them the values that the arguments give, up to an
argument that asks for help. -/
theorem read_of_gives {arguments : List String} {given : List (Flag × String)}
    (gives : Gives arguments given) (options : Options) :
    options.read arguments = options.giveAll given := by
  induction gives generalizing options with
  | nothing => rfl
  | ending ends => rw [read, ends, giveAll_nil]
  | attached holds gives ih => simp only [read_attached holds, giveAll_cons, ih]
  | separate names isValue gives ih => simp only [read, names, isValue, giveAll_cons, ih]

/-- Arguments from which options are read give values to flags. -/
theorem exists_gives_of_read {arguments : List String} {options final : Options}
    (isRead : options.read arguments = .ok final) : ∃ given, Gives arguments given := by
  fun_induction read options arguments with
  | case1 options => exact ⟨[], .nothing⟩
  | case3 options text ends => exact ⟨[], .ending ends⟩
  | case4 options text flag value holds => exact ⟨_, .attached holds .nothing⟩
  | case7 options text next rest flag value holds ih =>
      obtain ⟨between, -, others⟩ := (bind_eq_ok_iff _ _ _).mp isRead
      obtain ⟨given, gives⟩ := ih between others
      exact ⟨_, .attached holds gives⟩
  | case8 options text next rest flag names value isValue ih =>
      obtain ⟨between, -, others⟩ := (bind_eq_ok_iff _ _ _).mp isRead
      obtain ⟨given, gives⟩ := ih between others
      exact ⟨_, .separate names isValue gives⟩
  | case2 | case5 | case6 | case9 | case10 => cases isRead

/-! ## Options that are complete -/

/-- Options with both values take no other one. -/
theorem eq_nil_of_giveAll {signature : String} {number : UInt64} {final : Options}
    {given : List (Flag × String)}
    (complete : (⟨some signature, some number⟩ : Options).giveAll given = .ok final) :
    given = [] ∧ final = ⟨some signature, some number⟩ := by
  cases given with
  | nil => exact ⟨rfl, (Except.ok.inj complete).symm⟩
  | cons entry given => obtain ⟨_ | _, value⟩ := entry <;> cases complete

/-- Options with a signature are complete when the text of a number is given. -/
theorem exists_timestamp_of_giveAll {earlier signature : String} {number : UInt64}
    {given : List (Flag × String)}
    (complete : (⟨some earlier, none⟩ : Options).giveAll given =
      .ok ⟨some signature, some number⟩) :
    earlier = signature ∧
      ∃ text, given = [(.timestamp, text)] ∧ Text.readNumber text = .ok number := by
  cases given with
  | nil => cases complete
  | cons entry given =>
      obtain ⟨flag, text⟩ := entry
      obtain ⟨between, gave, others⟩ := (bind_eq_ok_iff _ _ _).mp complete
      cases flag with
      | signature => cases gave
      | timestamp =>
          obtain ⟨-, found, isRead, rfl⟩ := give_timestamp_eq_ok_iff.mp gave
          obtain ⟨rfl, same⟩ := eq_nil_of_giveAll others
          cases same
          exact ⟨rfl, text, rfl, isRead⟩

/-- Options with a number are complete when a signature is given. -/
theorem eq_signature_of_giveAll {signature : String} {earlier number : UInt64}
    {given : List (Flag × String)}
    (complete : (⟨none, some earlier⟩ : Options).giveAll given =
      .ok ⟨some signature, some number⟩) :
    earlier = number ∧ given = [(.signature, signature)] := by
  cases given with
  | nil => cases complete
  | cons entry given =>
      obtain ⟨flag, text⟩ := entry
      obtain ⟨between, gave, others⟩ := (bind_eq_ok_iff _ _ _).mp complete
      cases flag with
      | signature =>
          obtain ⟨-, rfl⟩ := give_signature_eq_ok_iff.mp gave
          obtain ⟨rfl, same⟩ := eq_nil_of_giveAll others
          cases same
          exact ⟨rfl, rfl⟩
      | timestamp => cases gave

/-- Options have both values if one signature and the text of one number are given. -/
theorem giveAll_eq_ok_iff (given : List (Flag × String)) (signature : String)
    (number : UInt64) :
    ({} : Options).giveAll given = .ok ⟨some signature, some number⟩ ↔
      ∃ text, given.Perm [(.signature, signature), (.timestamp, text)] ∧
        Text.readNumber text = .ok number := by
  constructor
  · intro complete
    cases given with
    | nil => cases complete
    | cons entry given =>
        obtain ⟨flag, text⟩ := entry
        obtain ⟨between, gave, others⟩ := (bind_eq_ok_iff _ _ _).mp complete
        cases flag with
        | signature =>
            obtain ⟨-, rfl⟩ := give_signature_eq_ok_iff.mp gave
            obtain ⟨rfl, timestamp, rfl, isRead⟩ := exists_timestamp_of_giveAll others
            exact ⟨timestamp, .refl _, isRead⟩
        | timestamp =>
            obtain ⟨-, found, isRead, rfl⟩ := give_timestamp_eq_ok_iff.mp gave
            obtain ⟨rfl, rfl⟩ := eq_signature_of_giveAll others
            exact ⟨text, .swap .., isRead⟩
  · rintro ⟨text, order, isRead⟩
    rcases List.perm_pair.mp order with rfl | rfl <;> simp [give, isRead, bind, Except.bind]

/-- Values alone ask for no help. -/
theorem giveAll_eq_error {given : List (Flag × String)} {interruption : Interruption}
    (interrupted : options.giveAll given = .error interruption) : interruption = .refusal := by
  induction given generalizing options with
  | nil => cases interrupted
  | cons entry given ih =>
      obtain ⟨flag, value⟩ := entry
      rw [giveAll_cons] at interrupted
      cases gave : options.give flag value with
      | error first =>
          rw [gave] at interrupted
          cases interrupted
          exact give_eq_error gave
      | ok next =>
          rw [gave] at interrupted
          exact ih interrupted

end Options

/-! ## Invocations -/

namespace Invocation

theorem ofOptions_eq_command_iff (result : Except Interruption Options) (command : Command) :
    ofOptions result = .command command ↔
      ∃ signature number, result = .ok ⟨some signature, some number⟩ ∧
        command = .submit signature number := by
  constructor
  · intro isCommand
    unfold ofOptions at isCommand
    split at isCommand <;> cases isCommand
    exact ⟨_, _, rfl, rfl⟩
  · rintro ⟨signature, number, rfl, rfl⟩
    rfl

theorem ofGenerate_ne_submit (arguments : List String) (signature : String) (number : UInt64) :
    ofGenerate arguments ≠ .command (.submit signature number) := by
  fun_cases ofGenerate arguments <;> simp

theorem ofHelp_ne_command (arguments : List String) (command : Command) :
    ofHelp arguments ≠ .command command := by
  fun_cases ofHelp arguments <;> simp

/-- A run submits if its arguments give a signature and the text of a number. -/
theorem read_eq_submit_iff (arguments : List String) (signature : String) (number : UInt64) :
    read arguments = .command (.submit signature number) ↔
      ∃ given text, arguments = "submit" :: given ∧ GivesSubmission given signature text ∧
        Text.readNumber text = .ok number := by
  constructor
  · fun_cases read arguments with
    | case1 given => exact fun isRead => (ofGenerate_ne_submit _ _ _ isRead).elim
    | case2 given =>
        intro isRead
        obtain ⟨_, _, complete, same⟩ := (ofOptions_eq_command_iff _ _).mp isRead
        cases same
        obtain ⟨values, gives⟩ := Options.exists_gives_of_read complete
        rw [Options.read_of_gives gives] at complete
        obtain ⟨text, order, isNumber⟩ := (Options.giveAll_eq_ok_iff _ _ _).mp complete
        exact ⟨given, text, rfl, ⟨values, gives, order⟩, isNumber⟩
    | case3 given => exact fun isRead => (ofHelp_ne_command _ _ isRead).elim
    | case4 | case5 | case6 | case7 => simp
  · rintro ⟨given, text, rfl, ⟨values, gives, order⟩, isNumber⟩
    refine (ofOptions_eq_command_iff _ _).mpr ⟨signature, number, ?_, rfl⟩
    rw [Options.read_of_gives gives]
    exact (Options.giveAll_eq_ok_iff _ _ _).mpr ⟨text, order, isNumber⟩

/-- A run that is given a signature and a text that is no number is refused. -/
theorem read_eq_refused_of_givesSubmission {arguments : List String} {signature text : String}
    (gives : GivesSubmission arguments signature text) {fault : Text.NumberFault}
    (refused : Text.readNumber text = .error fault) :
    read ("submit" :: arguments) = .refused := by
  obtain ⟨given, gives, order⟩ := gives
  change ofOptions (Options.read {} arguments) = .refused
  rw [Options.read_of_gives gives]
  unfold ofOptions
  split
  · rename_i other number complete
    obtain ⟨found, otherOrder, isNumber⟩ := (Options.giveAll_eq_ok_iff _ _ _).mp complete
    -- The arguments give one timestamp, so the number was read from the refused text.
    obtain rfl : text = found := by
      rcases List.perm_pair.mp (order.symm.trans otherOrder) with same | same <;> cases same
      rfl
    cases refused.symm.trans isNumber
  · rfl
  · rfl
  · rename_i asked
    cases Options.giveAll_eq_error asked

end Invocation

end ExecutorRegistration
