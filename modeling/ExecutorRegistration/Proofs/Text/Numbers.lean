import ExecutorRegistration.Proofs.Results
import ExecutorRegistration.Proofs.Text.Decimal
import ExecutorRegistration.Proofs.Text.Digits

/-!
# What is read as a number

A text is read as a number of 64 bits if it denotes one, in digits behind an optional plus sign.
It is too large if the digits with which it begins denote a number of more bits, whatever stands
behind them: the reader stops at the first digit that takes the value beyond `2 ^ 64`, and only a
character before this one can still be found to be no digit.
-/

namespace ExecutorRegistration.Text

/-! ## Digits behind digits -/

/-- Digits behind digits of value `value` denote a number together with them. -/
def DenotesBehind (value : Nat) (text : List Char) (number : Nat) : Prop :=
  ∃ digits : List Nat, List.Forall₂ (IsDigit 10) text digits ∧
    number = digits.foldl (fun value digit => 10 * value + digit) value

@[simp]
theorem denotesBehind_nil_iff (value number : Nat) :
    DenotesBehind value [] number ↔ number = value := by
  simp [DenotesBehind]

theorem denotesBehind_cons_iff (value : Nat) (c : Char) (text : List Char) (number : Nat) :
    DenotesBehind value (c :: text) number ↔
      ∃ digit, IsDigit 10 c digit ∧ DenotesBehind (10 * value + digit) text number := by
  simp only [DenotesBehind, List.forall₂_cons_left_iff]
  constructor
  · rintro ⟨_, ⟨digit, digits, isDigit, areDigits, rfl⟩, rfl⟩
    exact ⟨digit, isDigit, digits, areDigits, rfl⟩
  · rintro ⟨digit, isDigit, digits, areDigits, rfl⟩
    exact ⟨digit :: digits, ⟨digit, digits, isDigit, areDigits, rfl⟩, rfl⟩

theorem denotesBehind_zero_iff (text : List Char) (number : Nat) :
    DenotesBehind 0 text number ↔ DenotesNumber 10 text number := by
  simp only [DenotesBehind, foldl_eq_ofDigits]
  rfl

theorem DenotesBehind.le {value number : Nat} {text : List Char}
    (denotes : DenotesBehind value text number) : value ≤ number := by
  obtain ⟨digits, -, rfl⟩ := denotes
  exact le_foldl_digits digits value

/-- What is denoted behind a digit is denoted with the digit. -/
theorem denotesBehind_cons_of_digit {c : Char} {digit : Nat}
    (isDigit : decimalDigit? c = some digit) (value : Nat) (text : List Char) (number : Nat) :
    DenotesBehind value (c :: text) number ↔ DenotesBehind (10 * value + digit) text number := by
  rw [denotesBehind_cons_iff]
  constructor
  · rintro ⟨other, isOther, denotes⟩
    obtain rfl : digit = other :=
      Option.some.inj (isDigit.symm.trans ((decimalDigit?_eq_some_iff c other).mpr isOther))
    exact denotes
  · exact fun denotes => ⟨digit, (decimalDigit?_eq_some_iff c digit).mp isDigit, denotes⟩

theorem not_denotesBehind_of_noDigit {c : Char} (noDigit : decimalDigit? c = none) (value : Nat)
    (text : List Char) (number : Nat) : ¬ DenotesBehind value (c :: text) number := by
  rw [denotesBehind_cons_iff]
  rintro ⟨digit, isDigit, -⟩
  cases noDigit.symm.trans ((decimalDigit?_eq_some_iff c digit).mpr isDigit)

/-! ## Reading digits -/

/-- The digits of a number that fits are read, and nothing else is. -/
theorem readDigits_eq_ok_iff {value : Nat} (fits : value < UInt64.size) (text : List Char)
    (number : Nat) :
    readDigits value text = .ok number ↔
      number < UInt64.size ∧ DenotesBehind value text number := by
  induction text generalizing value with
  | nil =>
      rw [readDigits, Except.ok.injEq, denotesBehind_nil_iff]
      constructor
      · rintro rfl
        exact ⟨fits, rfl⟩
      · rintro ⟨-, rfl⟩
        rfl
  | cons c text ih =>
      rw [readDigits]
      cases isDigit : decimalDigit? c with
      | none =>
          have notDenoted := not_denotesBehind_of_noDigit isDigit value text number
          exact iff_of_false (by simp) fun denoted => notDenoted denoted.2
      | some digit =>
          rw [denotesBehind_cons_of_digit isDigit]
          dsimp only
          split_ifs with within
          · exact ih within
          · refine iff_of_false (by simp) ?_
            rintro ⟨small, denotes⟩
            exact within (denotes.le.trans_lt small)

/-- The digits with which a text begins, behind digits of value `value`, denote a number that does
not fit. -/
def Overflows (value : Nat) (text : List Char) : Prop :=
  ∃ first number, first <+: text ∧ DenotesBehind value first number ∧ UInt64.size ≤ number

theorem not_overflows_nil {value : Nat} (fits : value < UInt64.size) : ¬ Overflows value [] := by
  rintro ⟨first, number, isFirst, denotes, large⟩
  rw [List.prefix_nil.mp isFirst, denotesBehind_nil_iff] at denotes
  omega

/-- A number that does not fit takes one digit at least. -/
theorem overflows_cons_iff {value : Nat} (fits : value < UInt64.size) (c : Char)
    (text : List Char) :
    Overflows value (c :: text) ↔
      ∃ first number, first <+: text ∧ DenotesBehind value (c :: first) number ∧
        UInt64.size ≤ number := by
  constructor
  · rintro ⟨whole, number, isFirst, denotes, large⟩
    obtain rfl | ⟨first, rfl, behind⟩ := List.prefix_cons_iff.mp isFirst
    · rw [denotesBehind_nil_iff] at denotes
      omega
    · exact ⟨first, number, behind, denotes, large⟩
  · rintro ⟨first, number, isFirst, denotes, large⟩
    exact ⟨c :: first, number, (List.prefix_cons_inj c).mpr isFirst, denotes, large⟩

/-- Reading stops as soon as the digits that are read denote a number that does not fit. -/
theorem readDigits_eq_tooLarge_iff {value : Nat} (fits : value < UInt64.size) (text : List Char) :
    readDigits value text = .error .tooLarge ↔ Overflows value text := by
  induction text generalizing value with
  | nil => exact iff_of_false (by simp [readDigits]) (not_overflows_nil fits)
  | cons c text ih =>
      rw [overflows_cons_iff fits, readDigits]
      cases isDigit : decimalDigit? c with
      | none =>
          refine iff_of_false (by simp) ?_
          rintro ⟨first, number, -, denotes, -⟩
          exact not_denotesBehind_of_noDigit isDigit value first number denotes
      | some digit =>
          simp only [denotesBehind_cons_of_digit isDigit]
          split_ifs with within
          · exact ih within
          · refine iff_of_true rfl ⟨[], _, List.nil_prefix, ?_, Nat.le_of_not_lt within⟩
            rw [denotesBehind_nil_iff]

theorem readDigits_ne_empty (value : Nat) (text : List Char) :
    readDigits value text ≠ .error .empty := by
  induction text generalizing value with
  | nil => simp [readDigits]
  | cons c text ih =>
      rw [readDigits]
      cases decimalDigit? c with
      | none => simp
      | some digit =>
          dsimp only
          split_ifs
          · exact ih _
          · simp

/-! ## Texts -/

/-- Characters are those of a text, without a plus sign that may stand before them. -/
def BehindSign (text : String) (chars : List Char) : Prop :=
  text.toList = chars ∨ text.toList = '+' :: chars

/-- A text denotes a number: by digits, of which there is at least one, behind an optional plus
sign. -/
def WritesNumber (text : String) (number : Nat) : Prop :=
  ∃ digits, BehindSign text digits ∧ digits ≠ [] ∧ DenotesNumber 10 digits number

/-- The digits with which a text begins, behind an optional plus sign, denote a number of more
than 64 bits. -/
def BeginsTooLarge (text : String) : Prop :=
  ∃ chars digits number, BehindSign text chars ∧ digits <+: chars ∧
    DenotesNumber 10 digits number ∧ 2 ^ 64 ≤ number

/-- The characters that are read as digits. -/
def withoutSign : List Char → List Char
  | '+' :: rest => rest
  | chars => chars

theorem behindSign_withoutSign (text : String) : BehindSign text (withoutSign text.toList) := by
  unfold BehindSign withoutSign
  split
  · exact .inr ‹_›
  · exact .inl rfl

/-- Characters that begin with digits stand behind the sign, if there is one. -/
theorem BehindSign.eq_withoutSign {text : String} {chars first : List Char} {number : Nat}
    (behind : BehindSign text chars) (isFirst : first <+: chars) (nonempty : first ≠ [])
    (denotes : DenotesNumber 10 first number) : chars = withoutSign text.toList := by
  rcases behind with same | same
  · have noSign : ∀ rest, chars ≠ '+' :: rest := by
      rintro rest rfl
      obtain rfl | ⟨others, rfl, -⟩ := List.prefix_cons_iff.mp isFirst
      · exact nonempty rfl
      · exact absurd (denotes.bounds '+' List.mem_cons_self) (by decide)
    rw [same, withoutSign]
    exact noSign
  · rw [same]
    rfl

theorem writesNumber_iff (text : String) (number : Nat) :
    WritesNumber text number ↔
      withoutSign text.toList ≠ [] ∧ DenotesNumber 10 (withoutSign text.toList) number := by
  constructor
  · rintro ⟨digits, behind, nonempty, denotes⟩
    rw [← behind.eq_withoutSign List.prefix_rfl nonempty denotes]
    exact ⟨nonempty, denotes⟩
  · rintro ⟨nonempty, denotes⟩
    exact ⟨_, behindSign_withoutSign text, nonempty, denotes⟩

theorem beginsTooLarge_iff (text : String) :
    BeginsTooLarge text ↔ Overflows 0 (withoutSign text.toList) := by
  simp only [Overflows, denotesBehind_zero_iff]
  constructor
  · rintro ⟨chars, digits, number, behind, isFirst, denotes, large⟩
    have nonempty := denotes.ne_nil (lt_of_lt_of_le (by decide) large)
    rw [← behind.eq_withoutSign isFirst nonempty denotes]
    exact ⟨digits, number, isFirst, denotes, large⟩
  · rintro ⟨digits, number, isFirst, denotes, large⟩
    exact ⟨_, digits, number, behindSign_withoutSign text, isFirst, denotes, large⟩

/-! ## Reading numbers -/

theorem readNumber_of_characters {text : String} (nonempty : withoutSign text.toList ≠ []) :
    readNumber text = (readDigits 0 (withoutSign text.toList)).map UInt64.ofNat := by
  unfold readNumber
  split
  · rename_i nothing
    rw [nothing] at nonempty
    exact absurd rfl nonempty
  · rename_i signAlone
    rw [signAlone] at nonempty
    exact absurd rfl nonempty
  · rename_i signed
    rw [signed]
    rfl
  · rename_i noSign
    rw [withoutSign]
    exact noSign

/-- Without characters that could be digits there is no number. -/
theorem readNumber_of_no_characters {text : String} (noCharacters : withoutSign text.toList = []) :
    readNumber text = .error (if text = "" then .empty else .invalidDigit) := by
  unfold withoutSign at noCharacters
  split at noCharacters
  · rename_i signed
    rw [noCharacters] at signed
    have isSign : text = "+" := String.toList_inj.mp signed
    rw [isSign]
    rfl
  · have isEmpty : text = "" := String.toList_inj.mp noCharacters
    rw [isEmpty]
    rfl

/-- A text is read as a number of 64 bits if it denotes this number. -/
theorem readNumber_eq_ok_iff (text : String) (number : UInt64) :
    readNumber text = .ok number ↔ WritesNumber text number.toNat := by
  have start : 0 < UInt64.size := by decide
  rw [writesNumber_iff]
  by_cases noCharacters : withoutSign text.toList = []
  · rw [readNumber_of_no_characters noCharacters]
    exact iff_of_false nofun fun writes => writes.1 noCharacters
  · rw [readNumber_of_characters noCharacters, map_eq_ok_iff]
    simp only [readDigits_eq_ok_iff start, denotesBehind_zero_iff]
    constructor
    · rintro ⟨value, ⟨small, denotes⟩, rfl⟩
      rw [UInt64.toNat_ofNat_of_lt' small]
      exact ⟨noCharacters, denotes⟩
    · rintro ⟨-, denotes⟩
      exact ⟨number.toNat, ⟨number.toNat_lt, denotes⟩, UInt64.ofNat_toNat.symm⟩

/-- A text is too large if the digits with which it begins denote a number that is. -/
theorem readNumber_eq_tooLarge_iff (text : String) :
    readNumber text = .error .tooLarge ↔ BeginsTooLarge text := by
  have start : 0 < UInt64.size := by decide
  rw [beginsTooLarge_iff]
  by_cases noCharacters : withoutSign text.toList = []
  · rw [readNumber_of_no_characters noCharacters, noCharacters]
    refine iff_of_false ?_ (not_overflows_nil start)
    split_ifs <;> simp
  · rw [readNumber_of_characters noCharacters, map_eq_error_iff, readDigits_eq_tooLarge_iff start]

theorem readNumber_eq_empty_iff (text : String) :
    readNumber text = .error .empty ↔ text = "" := by
  by_cases noCharacters : withoutSign text.toList = []
  · rw [readNumber_of_no_characters noCharacters]
    split_ifs with isEmpty
    · exact iff_of_true rfl isEmpty
    · exact iff_of_false nofun isEmpty
  · have notEmpty : text ≠ "" := by
      rintro rfl
      exact noCharacters rfl
    rw [readNumber_of_characters noCharacters, map_eq_error_iff]
    exact iff_of_false (readDigits_ne_empty 0 _) notEmpty

/-- A text with characters that is refused, but not as too large, has an invalid digit. -/
theorem readNumber_eq_invalidDigit_iff (text : String) :
    readNumber text = .error .invalidDigit ↔
      text ≠ "" ∧ (∀ number < 2 ^ 64, ¬ WritesNumber text number) ∧ ¬ BeginsTooLarge text := by
  rw [← readNumber_eq_tooLarge_iff, Ne, ← readNumber_eq_empty_iff]
  have accepted : (∀ number < 2 ^ 64, ¬ WritesNumber text number) ↔
      ∀ number : UInt64, readNumber text ≠ .ok number := by
    simp only [ne_eq, readNumber_eq_ok_iff]
    constructor
    · exact fun refused number => refused number.toNat number.toNat_lt
    · intro refused number small
      rw [← UInt64.toNat_ofNat_of_lt' small]
      exact refused (UInt64.ofNat number)
  rw [accepted]
  cases readNumber text with
  | ok number => simp
  | error fault => cases fault <;> simp

/-! ## Decimal texts -/

/-- Zeros before the first digit do not count. -/
theorem denotesNumber_zeros (zeros : Nat) (digits : List Char) (number : Nat) :
    DenotesNumber 10 (List.replicate zeros '0' ++ digits) number ↔
      DenotesNumber 10 digits number := by
  simp only [← denotesBehind_zero_iff]
  have isZero : decimalDigit? '0' = some 0 := by decide
  induction zeros with
  | zero => exact Iff.rfl
  | succ zeros ih =>
      rw [List.replicate_succ, List.cons_append, denotesBehind_cons_of_digit isZero]
      exact ih

theorem denotesNumber_toDigits {number : Nat} (fits : number < UInt64.size) :
    DenotesNumber 10 (Nat.toDigits 10 number) number := by
  rw [← denotesBehind_zero_iff]
  exact ((readDigits_eq_ok_iff (by decide) _ _).mp (readDigits_toDigits fits)).2

/-- A number is read from its decimal text behind a sign or none and any number of zeros. -/
theorem readNumber_zeros {sign : String} (isSign : sign ∈ ["", "+"]) (zeros : Nat)
    (number : UInt64) :
    readNumber (sign ++ String.ofList (List.replicate zeros '0') ++ decimal number.toNat) =
      .ok number := by
  have denotes := (denotesNumber_zeros zeros _ _).mpr (denotesNumber_toDigits number.toNat_lt)
  refine (readNumber_eq_ok_iff _ _).mpr ⟨_, ?_, ?_, denotes⟩
  · rw [List.mem_pair] at isSign
    rcases isSign with rfl | rfl
    · exact .inl (by simp [decimal])
    · exact .inr (by simp [decimal])
  · exact List.append_ne_nil_of_right_ne_nil _ Nat.toDigits_ne_nil

end ExecutorRegistration.Text
