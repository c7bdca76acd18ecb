import ExecutorRegistration.Proofs.Signature
import ExecutorRegistration.Proofs.Submission

/-!
# How a posted signature ends

A signature of the right size is refused for its recovery id unless it ends in two digits, or in a
plus sign and one digit. The sign goes with the ids 0 and 1, which are raised. It stays before
every other digit, and a signature is posted with it.
-/

namespace ExecutorRegistration

namespace Signature

/-! ## Endings of two characters -/

/-- A plus sign and a digit. -/
def IsSigned (ending : List Char) : Prop :=
  ∃ low, ending = ['+', low] ∧ Hex.IsDigit low

/-- A character is a digit if it is the digit of a value. -/
theorem isDigit_iff_exists (c : Char) :
    Hex.IsDigit c ↔ ∃ digit, Text.IsDigit 16 c digit := by
  simp only [Hex.isDigit_iff, Hex.digitValue?_eq_some_iff, Text.IsDigit]

theorem not_isDigit_plus : ¬ Hex.IsDigit '+' := by
  decide

theorem IsSigned.not_digits {ending : List Char} (signed : IsSigned ending) :
    ¬ ∀ c ∈ ending, Hex.IsDigit c := by
  obtain ⟨low, rfl, -⟩ := signed
  exact fun digits => not_isDigit_plus (digits '+' (List.mem_cons_self ..))

theorem DenotesRecoveryId.digits_or_signed {ending : List Char} {value : Nat}
    (denotes : DenotesRecoveryId ending value) :
    (∀ c ∈ ending, Hex.IsDigit c) ∨ IsSigned ending := by
  cases denotes with
  | digits isHigh isLow =>
      refine .inl (List.forall_mem_cons.mpr ⟨?_, List.forall_mem_singleton.mpr ?_⟩)
      · exact (isDigit_iff_exists _).mpr ⟨_, isHigh⟩
      · exact (isDigit_iff_exists _).mpr ⟨_, isLow⟩
  | signed isLow => exact .inr ⟨_, rfl, (isDigit_iff_exists _).mpr ⟨_, isLow⟩⟩

/-- Two characters denote a recovery id if both are digits, or a plus sign and a digit. -/
theorem exists_denotesRecoveryId_iff {ending : List Char} (two : ending.length = 2) :
    (∃ value, DenotesRecoveryId ending value) ↔
      (∀ c ∈ ending, Hex.IsDigit c) ∨ IsSigned ending := by
  constructor
  · rintro ⟨value, denotes⟩
    exact denotes.digits_or_signed
  · rintro (digits | ⟨low, rfl, isLow⟩)
    · obtain ⟨high, low, rfl⟩ := List.length_eq_two.mp two
      obtain ⟨isHigh, isLow⟩ := List.forall_mem_cons.mp digits
      obtain ⟨highDigit, isHigh⟩ := (isDigit_iff_exists high).mp isHigh
      obtain ⟨lowDigit, isLow⟩ := (isDigit_iff_exists low).mp (List.forall_mem_singleton.mp isLow)
      exact ⟨_, .digits isHigh isLow⟩
    · obtain ⟨digit, isLow⟩ := (isDigit_iff_exists low).mp isLow
      exact ⟨_, .signed isLow⟩

/-- The characters of a recovery id have one octet each. -/
theorem DenotesRecoveryId.size {ending : List Char} {value : Nat}
    (denotes : DenotesRecoveryId ending value) : String.utf8Len ending = 2 := by
  have digitSize {c : Char} {digit : Nat} (isDigit : Text.IsDigit 16 c digit) : c.utf8Size = 1 :=
    ((isDigit_iff_exists c).mpr ⟨digit, isDigit⟩).utf8Size
  cases denotes with
  | digits isHigh isLow => simp [String.utf8Len_cons, digitSize isHigh, digitSize isLow]
  | signed isLow =>
      have plusSize : '+'.utf8Size = 1 := by decide
      simp [String.utf8Len_cons, plusSize, digitSize isLow]

/-! ## The ending of a signature -/

theorem length_rtake {text : String} (size : text.utf8ByteSize = 132) :
    (text.toList.rtake 2).length = 2 := by
  have long : 2 ≤ text.toList.length := by
    rw [← String.ofList_toList (s := text), String.utf8ByteSize_ofList] at size
    cases chars : text.toList with
    | nil => simp [chars] at size
    | cons first rest =>
        cases rest with
        | nil =>
            have small := first.utf8Size_le_four
            rw [chars, String.utf8Len_cons, String.utf8Len_nil] at size
            omega
        | cons second rest => exact Nat.le_add_left 2 rest.length
  rw [List.rtake, List.length_drop]
  omega

/-- A text of the right size splits before a recovery id at its end. -/
theorem splits_of_denotes {text : String} {value : Nat} (size : text.utf8ByteSize = 132)
    (denotes : DenotesRecoveryId (text.toList.rtake 2) value) :
    Splits text (text.toList.rdrop 2) (text.toList.rtake 2) := by
  have joined : text.toList.rdrop 2 ++ text.toList.rtake 2 = text.toList :=
    List.take_append_drop _ _
  refine ⟨by rw [joined, String.ofList_toList], ?_, denotes.size⟩
  rw [← String.ofList_toList (s := text), ← joined, String.utf8ByteSize_ofList,
    String.utf8Len_append, denotes.size] at size
  exact Nat.add_right_cancel (m := 2) size

/-- A text of the right size is refused for its recovery id if its last two characters are none. -/
theorem exists_invalidRecoveryId_iff {text : String} (size : text.utf8ByteSize = 132) :
    (∃ shown, normalize text = .error (.invalidRecoveryId shown)) ↔
      ∀ value, ¬ DenotesRecoveryId (text.toList.rtake 2) value := by
  constructor
  · rintro ⟨shown, refused⟩ value denotes
    have accepted := (normalize_eq_ok_iff text _).mpr
      ⟨_, _, value, splits_of_denotes size denotes, denotes, rfl⟩
    cases refused.symm.trans accepted
  · intro noId
    rcases normalize_cases text with ⟨otherSize, -⟩ | ⟨-, -, refused⟩ | ⟨_, _, -, -, refused⟩ |
      ⟨body, ending, value, splits, denotes, -⟩
    · exact absurd size otherSize
    · exact ⟨_, refused⟩
    · exact ⟨_, refused⟩
    · rw [← splits.rtake_toList denotes] at denotes
      exact absurd denotes (noId value)

theorem digits_octetDigits (octet : UInt8) : ∀ c ∈ Hex.octetDigits octet, Hex.IsDigit c := by
  rcases (denotesRecoveryId_octetDigits octet).digits_or_signed with digits | ⟨low, same, -⟩
  · exact digits
  · have high : Hex.digit (octet.toNat / 16) = '+' := (List.cons.inj same).1
    have small := octet.toNat_lt
    have codes := Hex.toNat_digit (octet.toNat / 16) (by omega)
    rw [high] at codes
    change 43 = _ at codes
    split_ifs at codes <;> omega

/-- A normalized signature ends in a recovery id other than 0 and 1. It ends in two digits unless
the given one has a plus sign before another digit than 0 and 1. -/
theorem ending_of_normalize {text normal : String} (accepted : normalize text = .ok normal) :
    (∃ value, 2 ≤ value ∧ value < 256 ∧ DenotesRecoveryId (normal.toList.rtake 2) value) ∧
      ((∀ c ∈ normal.toList.rtake 2, Hex.IsDigit c) ↔
        ¬ (IsSigned (text.toList.rtake 2) ∧
          ∃ value, 2 ≤ value ∧ DenotesRecoveryId (text.toList.rtake 2) value)) := by
  obtain ⟨body, ending, value, splits, denotes, rfl⟩ := (normalize_eq_ok_iff _ _).mp accepted
  obtain ⟨settled, high, denotesRaised⟩ := exists_denotesRecoveryId_raised denotes
  have splitsRaised := splits.replace (utf8Len_raised value splits.size_ending)
  rw [splitsRaised.rtake_toList denotesRaised, splits.rtake_toList denotes]
  refine ⟨⟨settled, high, denotesRaised.lt, denotesRaised⟩, ?_⟩
  constructor
  · rintro digits ⟨signed, other, highOther, denotesOther⟩
    rw [denotes.unique denotesOther, raised_of_le highOther] at digits
    exact signed.not_digits digits
  · intro notSigned
    by_cases low : value < 2
    · rw [raised, if_pos low]
      exact digits_octetDigits _
    · have kept := Nat.le_of_not_lt low
      rw [raised_of_le kept]
      exact denotes.digits_or_signed.resolve_right fun signed =>
        notSigned ⟨signed, value, kept, denotes⟩

end Signature

/-! ## Posted signatures -/

/-- A signature of the right size is refused for its recovery id if it ends neither in two digits
nor in a plus sign and a digit. A submission sends nothing, or one request with a signature that
ends in a recovery id other than 0 and 1. What is posted ends in two digits unless the given
signature ends in a plus sign and another digit than 0 and 1. -/
theorem posted_signature_ends_in_recoveryId {m : Type → Type} [Monad m] [LawfulMonad m]
    (transport : Transport m) (settings : Settings) (signature : String) (timestamp : UInt64) :
    (signature.utf8ByteSize = 132 →
      ((∃ shown, Signature.normalize signature = .error (.invalidRecoveryId shown)) ↔
        ¬ (∀ c ∈ signature.toList.rtake 2, Hex.IsDigit c) ∧
          ¬ Signature.IsSigned (signature.toList.rtake 2))) ∧
    ((∃ fault, Refuses (submitRecorded transport settings signature timestamp) fault) ∨
      ∃ request posted,
        SendsOnce transport (submitRecorded transport settings signature timestamp) request ∧
        request.body.field? "signature" = some (.string posted) ∧
        (∃ value, 2 ≤ value ∧ value < 256 ∧
          Signature.DenotesRecoveryId (posted.toList.rtake 2) value) ∧
        ((∀ c ∈ posted.toList.rtake 2, Hex.IsDigit c) ↔
          ¬ (Signature.IsSigned (signature.toList.rtake 2) ∧
            ∃ value, 2 ≤ value ∧
              Signature.DenotesRecoveryId (signature.toList.rtake 2) value))) := by
  constructor
  · intro size
    rw [Signature.exists_invalidRecoveryId_iff size, ← not_exists,
      Signature.exists_denotesRecoveryId_iff (Signature.length_rtake size), not_or]
  · cases accepted : Signature.normalize signature with
    | error fault =>
        refine .inl ⟨.signature fault, fun requests => ?_⟩
        rw [submitRecorded, submit_of_error accepted]
        rfl
    | ok posted =>
        cases required : settings.requireApiBaseUrl with
        | error fault => exact .inl ⟨_, submitRecorded_refuses accepted required⟩
        | ok base =>
            obtain ⟨isSet, url, isUrl⟩ := (settings.requireApiBaseUrl_eq_ok_iff base).mp required
            obtain ⟨request, registers, sends⟩ :=
              submitRecorded_sendsOnce transport timestamp accepted isSet isUrl
            obtain ⟨isId, digits_iff⟩ := Signature.ending_of_normalize accepted
            exact .inr ⟨request, posted, sends, registers.signature, isId, digits_iff⟩

/-- A signature with the given characters at its end. -/
def signatureEnding (ending : String) : String :=
  "0x" ++ String.ofList (List.replicate 128 'a') ++ ending

/-- A signature that ends in letters beyond the digits is refused. -/
theorem refuses_signatureEnding :
    (signatureEnding "zz").utf8ByteSize = 132 ∧
    ∃ shown, Signature.normalize (signatureEnding "zz") = .error (.invalidRecoveryId shown) := by
  have size : (signatureEnding "zz").utf8ByteSize = 132 := by decide +kernel
  have ending : (signatureEnding "zz").toList.rtake 2 = ['z', 'z'] := by decide +kernel
  have refuses := (posted_signature_ends_in_recoveryId (m := Id) (fun _ => .ok ⟨201, "created"⟩)
    slashedSettings (signatureEnding "zz") 1700000000000).1 size
  refine ⟨size, refuses.mpr ?_⟩
  rw [ending]
  constructor
  · intro digits
    exact absurd (digits 'z' (List.mem_cons_self ..)) (by decide)
  · rintro ⟨low, same, -⟩
    cases same

/-- A signature that ends in a plus sign and a digit is accepted and posted with the sign. -/
theorem posts_signatureEnding :
    (signatureEnding "+a").utf8ByteSize = 132 ∧
    ¬ (∀ c ∈ (signatureEnding "+a").toList.rtake 2, Hex.IsDigit c) ∧
    Signature.normalize (signatureEnding "+a") = .ok (signatureEnding "+a") ∧
    ∃ request, request.body.field? "signature" = some (.string (signatureEnding "+a")) ∧
      SendsOnce (m := Id) (fun _ => .ok ⟨201, "created"⟩)
        (submitRecorded (m := Id) (fun _ => .ok ⟨201, "created"⟩) slashedSettings
          (signatureEnding "+a") 1700000000000) request := by
  have accepted : Signature.normalize (signatureEnding "+a") = .ok (signatureEnding "+a") := by
    decide +kernel
  have ending : (signatureEnding "+a").toList.rtake 2 = ['+', 'a'] := by decide +kernel
  have signed : Signature.IsSigned ((signatureEnding "+a").toList.rtake 2) :=
    ⟨'a', ending, by decide⟩
  have isSet : slashedSettings.apiBaseUrl = some "https://api.example.com//" := rfl
  obtain ⟨url, parsed⟩ := parse_slashed
  obtain ⟨request, registers, sends⟩ := submitRecorded_sendsOnce (m := Id)
    (fun _ => .ok ⟨201, "created"⟩) 1700000000000 accepted isSet parsed
  exact ⟨by decide +kernel, signed.not_digits, accepted, request, registers.signature, sends⟩

end ExecutorRegistration
