import ExecutorRegistration.Proofs.Octets
import ExecutorRegistration.Proofs.Text.Digits
import ExecutorRegistration.Signature
import Mathlib.Data.List.DropRight

/-!
# Recovery ids of signatures

A signature is accepted if it has 132 octets and the last two of them are characters that denote a
recovery id. Normalizing keeps what stands before the id, and raises the ids 0 and 1; so two
signatures are normalized to the same text if they agree before the id and have the same id, or
ids that are raised to the same. Every other text is refused, with what shows its fault.
-/

namespace ExecutorRegistration.Signature

/-! ## Recovery ids -/

/-- Characters denote a recovery id: two hexadecimal digits of either case, or a plus sign and one
digit. -/
inductive DenotesRecoveryId : List Char → Nat → Prop where
  | digits {high low : Char} {highDigit lowDigit : Nat}
      (isHigh : Text.IsDigit 16 high highDigit) (isLow : Text.IsDigit 16 low lowDigit) :
      DenotesRecoveryId [high, low] (16 * highDigit + lowDigit)
  | signed {low : Char} {digit : Nat} (isLow : Text.IsDigit 16 low digit) :
      DenotesRecoveryId ['+', low] digit

/-- The reader of recovery ids reads what denotes one. -/
theorem recoveryId?_eq_some_iff (ending : List Char) (value : Nat) :
    recoveryId? ending = some value ↔ DenotesRecoveryId ending value := by
  constructor
  · intro read
    unfold recoveryId? at read
    split at read
    · exact .signed ((Hex.digitValue?_eq_some_iff _ _).mp read)
    · simp only [Option.bind_eq_bind, Option.bind_eq_some_iff, Option.pure_def,
        Option.some.injEq] at read
      obtain ⟨highDigit, high, lowDigit, low, rfl⟩ := read
      exact .digits ((Hex.digitValue?_eq_some_iff _ _).mp high)
        ((Hex.digitValue?_eq_some_iff _ _).mp low)
    · cases read
  · rintro (⟨isHigh, isLow⟩ | isLow)
    · have high := (Hex.digitValue?_eq_some_iff _ _).mpr isHigh
      have low := (Hex.digitValue?_eq_some_iff _ _).mpr isLow
      unfold recoveryId?
      split
      · have plus : Hex.digitValue? '+' = none := by decide
        simp_all
      · simp_all
      · simp_all
    · exact (Hex.digitValue?_eq_some_iff _ _).mpr isLow

theorem DenotesRecoveryId.length_eq {ending : List Char} {value : Nat}
    (denotes : DenotesRecoveryId ending value) : ending.length = 2 := by
  cases denotes <;> rfl

theorem DenotesRecoveryId.lt {ending : List Char} {value : Nat}
    (denotes : DenotesRecoveryId ending value) : value < 256 := by
  cases denotes with
  | digits isHigh isLow =>
      have high := isHigh.1
      have low := isLow.1
      omega
  | signed isLow =>
      have low := isLow.1
      omega

theorem DenotesRecoveryId.unique {ending : List Char} {value other : Nat}
    (denotes : DenotesRecoveryId ending value) (denotesOther : DenotesRecoveryId ending other) :
    value = other := by
  rw [← recoveryId?_eq_some_iff] at denotes denotesOther
  exact Option.some.inj (denotes.symm.trans denotesOther)

/-- The two digits of an octet denote it. -/
theorem denotesRecoveryId_octetDigits (octet : UInt8) :
    DenotesRecoveryId (Hex.octetDigits octet) octet.toNat := by
  have small := octet.toNat_lt
  have isHigh : Text.IsDigit 16 (Hex.digit (octet.toNat / 16)) (octet.toNat / 16) :=
    (Hex.digitValue?_eq_some_iff _ _).mp (Hex.digitValue?_digit _ (by omega))
  have isLow : Text.IsDigit 16 (Hex.digit (octet.toNat % 16)) (octet.toNat % 16) :=
    (Hex.digitValue?_eq_some_iff _ _).mp (Hex.digitValue?_digit _ (by omega))
  have denotes := DenotesRecoveryId.digits isHigh isLow
  rwa [Nat.div_add_mod] at denotes

/-- A digit below ten is written in one way. -/
theorem eq_digit_of_lt {c : Char} {digit : Nat} (isDigit : Text.IsDigit 16 c digit)
    (small : digit < 10) : c = Hex.digit digit := by
  have read := (Hex.digitValue?_eq_some_iff _ _).mpr isDigit
  rw [Hex.digitValue?_eq] at read
  refine Char.toNat_inj.mp ?_
  rw [Hex.toNat_digit digit isDigit.1, if_pos small]
  split_ifs at read <;> simp only [Option.some.injEq] at read <;> omega

theorem denotesRecoveryId_iff_of_lt (ending : List Char) {value : Nat} (small : value < 10) :
    DenotesRecoveryId ending value ↔
      ending = ['0', Hex.digit value] ∨ ending = ['+', Hex.digit value] := by
  have isDigit : ∀ digit < 10, Text.IsDigit 16 (Hex.digit digit) digit := fun digit below =>
    (Hex.digitValue?_eq_some_iff _ _).mp (Hex.digitValue?_digit digit (by omega))
  constructor
  · rintro (@⟨high, low, highDigit, lowDigit, isHigh, isLow⟩ | isLow)
    · obtain rfl : highDigit = 0 := by omega
      rw [Nat.mul_zero, Nat.zero_add] at small ⊢
      rw [eq_digit_of_lt isHigh (by decide), eq_digit_of_lt isLow small]
      exact .inl rfl
    · rw [eq_digit_of_lt isLow small]
      exact .inr rfl
  · rintro (rfl | rfl)
    · have denotes := DenotesRecoveryId.digits (isDigit 0 (by decide)) (isDigit value small)
      rwa [Nat.mul_zero, Nat.zero_add] at denotes
    · exact .signed (isDigit value small)

/-! ## Parts of a signature -/

/-- A text has 132 octets, and its characters fall into some of 130 octets and some of two. -/
structure Splits (text : String) (body ending : List Char) : Prop where
  joined : text = String.ofList (body ++ ending)
  size_body : String.utf8Len body = 130
  size_ending : String.utf8Len ending = 2

theorem splitOctets_eq_some_iff (octets : Nat) (chars front back : List Char) :
    splitOctets octets chars = some (front, back) ↔
      chars = front ++ back ∧ String.utf8Len front = octets := by
  fun_induction splitOctets octets chars generalizing front back with
  | case1 chars =>
      constructor
      · rintro ⟨⟩
        exact ⟨rfl, rfl⟩
      · rintro ⟨rfl, empty⟩
        rw [String.utf8Len_eq_zero.mp empty]
        rfl
  | case2 octets =>
      refine ⟨nofun, fun ⟨joined, size⟩ => ?_⟩
      rw [(List.append_eq_nil_iff.mp joined.symm).1] at size
      cases size
  | case3 octets c rest fits ih =>
      rw [Option.map_eq_some_iff]
      constructor
      · rintro ⟨⟨first, last⟩, split, ⟨⟩⟩
        obtain ⟨rfl, size⟩ := (ih first _).mp split
        refine ⟨rfl, ?_⟩
        rw [String.utf8Len_cons, size]
        omega
      · rintro ⟨joined, size⟩
        obtain _ | ⟨first, front⟩ := front
        · cases size
        · cases joined
          rw [String.utf8Len_cons] at size
          exact ⟨(front, back), (ih front back).mpr ⟨rfl, by omega⟩, rfl⟩
  | case4 octets c rest overhangs =>
      refine ⟨nofun, fun ⟨joined, size⟩ => ?_⟩
      obtain _ | ⟨first, front⟩ := front
      · cases size
      · cases joined
        rw [String.utf8Len_cons] at size
        omega

theorem Splits.size {text : String} {body ending : List Char} (splits : Splits text body ending) :
    text.utf8ByteSize = 132 := by
  rw [splits.joined, String.utf8ByteSize_ofList, String.utf8Len_append, splits.size_body,
    splits.size_ending]

theorem splits_iff {text : String} (size : text.utf8ByteSize = 132) (body ending : List Char) :
    splitOctets 130 text.toList = some (body, ending) ↔ Splits text body ending := by
  rw [splitOctets_eq_some_iff]
  constructor
  · rintro ⟨joined, size_body⟩
    have text_eq : text = String.ofList (body ++ ending) := by rw [← joined, String.ofList_toList]
    rw [text_eq, String.utf8ByteSize_ofList, String.utf8Len_append, size_body] at size
    exact ⟨text_eq, size_body, by omega⟩
  · intro splits
    exact ⟨by rw [splits.joined, String.toList_ofList], splits.size_body⟩

/-- No character of a text of 132 octets lies across the octet behind the first 130 if the text
splits there. -/
theorem isValid_iff_exists_splits {text : String} (size : text.utf8ByteSize = 132) :
    (String.Pos.Raw.mk 130).IsValid text ↔ ∃ body ending, Splits text body ending := by
  rw [String.Pos.Raw.isValid_iff_exists_append]
  constructor
  · rintro ⟨front, back, rfl, position⟩
    have size_front : front.utf8ByteSize = 130 := (congrArg String.Pos.Raw.byteIdx position).symm
    rw [String.utf8ByteSize_append] at size
    refine ⟨front.toList, back.toList, ?_, ?_, ?_⟩
    · rw [String.ofList_append, String.ofList_toList, String.ofList_toList]
    · rw [← String.utf8ByteSize_ofList, String.ofList_toList, size_front]
    · rw [← String.utf8ByteSize_ofList, String.ofList_toList]
      omega
  · rintro ⟨body, ending, splits⟩
    refine ⟨String.ofList body, String.ofList ending, ?_, ?_⟩
    · rw [splits.joined, String.ofList_append]
    · rw [String.rawEndPos, String.utf8ByteSize_ofList, splits.size_body]

namespace Splits

variable {text : String} {body ending : List Char} (splits : Splits text body ending)

include splits

/-- What stands before the ending is denoted by the first 130 octets. -/
theorem take_octets : text.toUTF8.toList.take 130 = (String.ofList body).toUTF8.toList := by
  have length_eq : (String.ofList body).toUTF8.toList.length = 130 := by
    rw [Text.length_octets, String.utf8ByteSize_ofList, splits.size_body]
  rw [splits.joined, String.ofList_append, Text.octets_append, List.take_left' length_eq]

/-- The ending is denoted by the octets behind the first 130. -/
theorem octets_eq_drop_iff (shown : String) :
    shown.toUTF8.toList = text.toUTF8.toList.drop 130 ↔ shown = String.ofList ending := by
  have length_eq : (String.ofList body).toUTF8.toList.length = 130 := by
    rw [Text.length_octets, String.utf8ByteSize_ofList, splits.size_body]
  rw [splits.joined, String.ofList_append, Text.octets_append, List.drop_left' length_eq]
  exact ⟨Text.eq_of_octets_eq, fun same => same ▸ rfl⟩

theorem rtake_toList {value : Nat} (denotes : DenotesRecoveryId ending value) :
    text.toList.rtake 2 = ending := by
  rw [splits.joined, String.toList_ofList, List.rtake, List.length_append, denotes.length_eq,
    Nat.add_sub_cancel, List.drop_left]

/-- Another ending of two octets can be put in place. -/
theorem replace {other : List Char} (size_other : String.utf8Len other = 2) :
    Splits (String.ofList (body ++ other)) body other :=
  ⟨rfl, splits.size_body, size_other⟩

end Splits

/-! ## Normalized signatures -/

/-- The ending of a normalized signature. -/
def raised (ending : List Char) (value : Nat) : List Char :=
  if value < 2 then Hex.octetDigits (UInt8.ofNat (value + recoveryOffset)) else ending

/-- A raised recovery id fits into an octet. -/
theorem toNat_raised {value : Nat} (low : value < 2) :
    (UInt8.ofNat (value + recoveryOffset)).toNat = value + recoveryOffset := by
  refine UInt8.toNat_ofNat_of_lt' ?_
  change value + 27 < 256
  omega

theorem normalize_of_splits {text : String} {body ending : List Char}
    (splits : Splits text body ending) :
    normalize text =
      match recoveryId? ending with
      | none => .error (.invalidRecoveryId (String.ofList ending))
      | some value => .ok (String.ofList (body ++ raised ending value)) := by
  have size : text.utf8ByteSize = length := splits.size
  have split : splitOctets (length - 2) text.toList = some (body, ending) :=
    (splits_iff splits.size body ending).mpr splits
  rw [normalize, if_neg (not_not_intro size), split]
  dsimp only
  cases recoveryId? ending with
  | none => rfl
  | some value =>
      dsimp only [raised]
      split_ifs
      · rfl
      · rw [splits.joined]

theorem normalize_of_size_ne {text : String} (size : text.utf8ByteSize ≠ 132) :
    normalize text = .error (.invalidLength text.utf8ByteSize) :=
  if_pos size

theorem normalize_of_not_splits {text : String} (size : text.utf8ByteSize = 132)
    (overhangs : ∀ body ending, ¬ Splits text body ending) :
    normalize text = .error (.invalidRecoveryId text) := by
  have split : splitOctets (length - 2) text.toList = none := by
    cases split : splitOctets (length - 2) text.toList with
    | none => rfl
    | some parts => exact absurd ((splits_iff size parts.1 parts.2).mp split) (overhangs _ _)
  have isLength : text.utf8ByteSize = length := size
  rw [normalize, if_neg (not_not_intro isLength), split]

/-- A text is of another size, or a character lies across the start of its ending, or its ending
is no recovery id, or it is accepted. -/
theorem normalize_cases (text : String) :
    (text.utf8ByteSize ≠ 132 ∧
      normalize text = .error (.invalidLength text.utf8ByteSize)) ∨
    (text.utf8ByteSize = 132 ∧ (∀ body ending, ¬ Splits text body ending) ∧
      normalize text = .error (.invalidRecoveryId text)) ∨
    (∃ body ending, Splits text body ending ∧ (∀ value, ¬ DenotesRecoveryId ending value) ∧
      normalize text = .error (.invalidRecoveryId (String.ofList ending))) ∨
    ∃ body ending value, Splits text body ending ∧ DenotesRecoveryId ending value ∧
      normalize text = .ok (String.ofList (body ++ raised ending value)) := by
  by_cases size : text.utf8ByteSize = 132
  · by_cases splits : ∃ body ending, Splits text body ending
    · obtain ⟨body, ending, splits⟩ := splits
      have normalized := normalize_of_splits splits
      cases read : recoveryId? ending with
      | none =>
          refine .inr (.inr (.inl ⟨body, ending, splits, fun value denotes => ?_, ?_⟩))
          · rw [← recoveryId?_eq_some_iff, read] at denotes
            cases denotes
          · rw [normalized, read]
      | some value =>
          refine .inr (.inr (.inr ⟨body, ending, value, splits, ?_, ?_⟩))
          · exact (recoveryId?_eq_some_iff ending value).mp read
          · rw [normalized, read]
    · have overhangs : ∀ body ending, ¬ Splits text body ending :=
        fun body ending isSplit => splits ⟨body, ending, isSplit⟩
      exact .inr (.inl ⟨size, overhangs, normalize_of_not_splits size overhangs⟩)
  · exact .inl ⟨size, normalize_of_size_ne size⟩

/-- A text is accepted if it splits and its ending is a recovery id, which may be raised. -/
theorem normalize_eq_ok_iff (text normal : String) :
    normalize text = .ok normal ↔
      ∃ body ending value, Splits text body ending ∧ DenotesRecoveryId ending value ∧
        normal = String.ofList (body ++ raised ending value) := by
  constructor
  · intro accepted
    rcases normalize_cases text with ⟨-, refused⟩ | ⟨-, -, refused⟩ | ⟨_, _, -, -, refused⟩ |
      ⟨body, ending, value, splits, denotes, normalized⟩
    · cases accepted.symm.trans refused
    · cases accepted.symm.trans refused
    · cases accepted.symm.trans refused
    · exact ⟨body, ending, value, splits, denotes,
        Except.ok.inj (accepted.symm.trans normalized)⟩
  · rintro ⟨body, ending, value, splits, denotes, rfl⟩
    rw [normalize_of_splits splits, (recoveryId?_eq_some_iff ending value).mpr denotes]

theorem normalize_eq_invalidLength_iff (text : String) (octets : Nat) :
    normalize text = .error (.invalidLength octets) ↔
      text.utf8ByteSize = octets ∧ octets ≠ 132 := by
  constructor
  · intro refused
    rcases normalize_cases text with ⟨size, found⟩ | ⟨-, -, found⟩ | ⟨_, _, -, -, found⟩ |
      ⟨_, _, _, -, -, found⟩ <;> cases refused.symm.trans found
    exact ⟨rfl, size⟩
  · rintro ⟨rfl, size⟩
    exact normalize_of_size_ne size

theorem normalize_eq_invalidRecoveryId_iff (text shown : String) :
    normalize text = .error (.invalidRecoveryId shown) ↔
      text.utf8ByteSize = 132 ∧
        ((∀ body ending, ¬ Splits text body ending) ∧ shown = text ∨
          ∃ body ending, Splits text body ending ∧ shown = String.ofList ending ∧
            ∀ value, ¬ DenotesRecoveryId ending value) := by
  constructor
  · intro refused
    rcases normalize_cases text with ⟨-, found⟩ | ⟨size, overhangs, found⟩ |
      ⟨body, ending, splits, noId, found⟩ | ⟨_, _, _, -, -, found⟩ <;>
      cases refused.symm.trans found
    · exact ⟨size, .inl ⟨overhangs, rfl⟩⟩
    · exact ⟨splits.size, .inr ⟨body, ending, splits, rfl, noId⟩⟩
  · rintro ⟨size, ⟨overhangs, rfl⟩ | ⟨body, ending, splits, rfl, noId⟩⟩
    · exact normalize_of_not_splits size overhangs
    · rw [normalize_of_splits splits]
      cases read : recoveryId? ending with
      | none => rfl
      | some value => exact absurd ((recoveryId?_eq_some_iff ending value).mp read) (noId value)

/-- A text is refused for its length with the number of its octets; it is refused for its recovery
id as a whole if a character lies across the start of the id, and else with its last two octets if
they are none; and it is accepted otherwise. Only whole characters are cut off, and no recovery id
that is read or raised leaves an octet. -/
theorem normalize_refuses_iff (text : String) :
    (∀ octets, normalize text = .error (.invalidLength octets) ↔
      text.utf8ByteSize = octets ∧ octets ≠ 132) ∧
    (∀ shown, normalize text = .error (.invalidRecoveryId shown) ↔
      text.utf8ByteSize = 132 ∧
        (¬ (String.Pos.Raw.mk 130).IsValid text ∧ shown = text ∨
          (String.Pos.Raw.mk 130).IsValid text ∧
            shown.toUTF8.toList = text.toUTF8.toList.drop 130 ∧
            ∀ value, ¬ DenotesRecoveryId shown.toList value)) ∧
    ((∃ normal, normalize text = .ok normal) ↔
      text.utf8ByteSize = 132 ∧ (String.Pos.Raw.mk 130).IsValid text ∧
        ∃ ending : String, ending.toUTF8.toList = text.toUTF8.toList.drop 130 ∧
          ∃ value, DenotesRecoveryId ending.toList value) ∧
    (∀ body ending, splitOctets (length - 2) text.toList = some (body, ending) →
      text = String.ofList body ++ String.ofList ending) ∧
    ∀ ending value, recoveryId? ending = some value → value < 256 ∧
      (value < 2 → (UInt8.ofNat (value + recoveryOffset)).toNat = value + recoveryOffset) := by
  refine ⟨normalize_eq_invalidLength_iff text, fun shown => ?_, ?_, fun body ending split => ?_,
    fun ending value read => ⟨((recoveryId?_eq_some_iff ending value).mp read).lt, fun low => ?_⟩⟩
  · rw [normalize_eq_invalidRecoveryId_iff]
    refine and_congr_right fun size => or_congr ?_ ?_
    · rw [isValid_iff_exists_splits size]
      simp only [not_exists]
    · rw [isValid_iff_exists_splits size]
      constructor
      · rintro ⟨body, ending, splits, rfl, noId⟩
        refine ⟨⟨body, ending, splits⟩, (splits.octets_eq_drop_iff _).mpr rfl, ?_⟩
        rwa [String.toList_ofList]
      · rintro ⟨⟨body, ending, splits⟩, octets, noId⟩
        obtain rfl := (splits.octets_eq_drop_iff shown).mp octets
        rw [String.toList_ofList] at noId
        exact ⟨body, ending, splits, rfl, noId⟩
  · simp only [normalize_eq_ok_iff]
    constructor
    · rintro ⟨_, body, ending, value, splits, denotes, -⟩
      have isValid := (isValid_iff_exists_splits splits.size).mpr ⟨body, ending, splits⟩
      refine ⟨splits.size, isValid, String.ofList ending, (splits.octets_eq_drop_iff _).mpr rfl,
        value, ?_⟩
      rwa [String.toList_ofList]
    · rintro ⟨size, isValid, shown, octets, value, denotes⟩
      obtain ⟨body, ending, splits⟩ := (isValid_iff_exists_splits size).mp isValid
      obtain rfl := (splits.octets_eq_drop_iff shown).mp octets
      rw [String.toList_ofList] at denotes
      exact ⟨_, body, ending, value, splits, denotes, rfl⟩
  · obtain ⟨joined, -⟩ := (splitOctets_eq_some_iff _ _ _ _).mp split
    rw [← String.ofList_append, ← joined, String.ofList_toList]
  · exact toNat_raised low

/-- A signature whose characters have two octets each before the recovery id. -/
def accentedSignature (ending : List Char) : String :=
  String.ofList (List.replicate 65 'é' ++ ending)

/-- The same characters one octet further on, so that one lies across the start of the id. -/
def shiftedSignature : String := String.ofList ('a' :: (List.replicate 65 'é' ++ ['b']))

/-- The shifted text is refused as a whole; the other one is cut between its characters, and its
recovery id is raised. -/
theorem normalize_shiftedSignature :
    normalize shiftedSignature = .error (.invalidRecoveryId shiftedSignature) ∧
    splitOctets (length - 2) (accentedSignature ['+', '1']).toList =
      some (List.replicate 65 'é', ['+', '1']) ∧
    accentedSignature ['+', '1'] =
      String.ofList (List.replicate 65 'é') ++ String.ofList ['+', '1'] ∧
    recoveryId? ['+', '1'] = some 1 ∧ (UInt8.ofNat (1 + recoveryOffset)).toNat = 28 := by
  have size : shiftedSignature.utf8ByteSize = 132 := by decide +kernel
  have inside : ¬ (String.Pos.Raw.mk 130).IsValid shiftedSignature := by decide +kernel
  have split : splitOctets (length - 2) (accentedSignature ['+', '1']).toList =
      some (List.replicate 65 'é', ['+', '1']) := by decide +kernel
  have read : recoveryId? ['+', '1'] = some 1 := by decide
  obtain ⟨-, -, -, cuts, reads⟩ := normalize_refuses_iff (accentedSignature ['+', '1'])
  exact ⟨((normalize_refuses_iff shiftedSignature).2.1 _).mpr ⟨size, .inl ⟨inside, rfl⟩⟩, split,
    cuts _ _ split, read, (reads _ 1 read).2 (by decide)⟩

/-! ## What is kept and what is raised -/

/-- A raised recovery id is neither 0 nor 1. -/
theorem exists_denotesRecoveryId_raised {ending : List Char} {value : Nat}
    (denotes : DenotesRecoveryId ending value) :
    ∃ settled, 2 ≤ settled ∧ DenotesRecoveryId (raised ending value) settled := by
  unfold raised
  split_ifs with low
  · refine ⟨_, ?_, denotesRecoveryId_octetDigits _⟩
    rw [toNat_raised low, recoveryOffset]
    omega
  · exact ⟨value, Nat.le_of_not_lt low, denotes⟩

theorem raised_of_le {value : Nat} (high : 2 ≤ value) (ending : List Char) :
    raised ending value = ending :=
  if_neg (Nat.not_lt.mpr high)

theorem raised_ne_iff {ending : List Char} {value : Nat}
    (denotes : DenotesRecoveryId ending value) :
    raised ending value ≠ ending ↔ DenotesRecoveryId ending 0 ∨ DenotesRecoveryId ending 1 := by
  constructor
  · intro differs
    have low : value < 2 := by
      by_contra high
      exact differs (raised_of_le (Nat.le_of_not_lt high) ending)
    rcases Nat.le_one_iff_eq_zero_or_eq_one.mp (Nat.le_of_lt_succ low) with rfl | rfl
    · exact .inl denotes
    · exact .inr denotes
  · intro isLow same
    obtain ⟨settled, high, denotesRaised⟩ := exists_denotesRecoveryId_raised denotes
    rw [same] at denotesRaised
    rcases isLow with isZero | isOne
    · exact absurd (denotesRaised.unique isZero) (by omega)
    · exact absurd (denotesRaised.unique isOne) (by omega)

/-- The endings that are normalized to the digits of 27. -/
def endingsOfZero : List (List Char) := [['0', '0'], ['+', '0'], ['1', 'b']]

/-- The endings that are normalized to the digits of 28. -/
def endingsOfOne : List (List Char) := [['0', '1'], ['+', '1'], ['1', 'c']]

/-- Two endings are the same once they are normalized. -/
def SameEnding (left right : List Char) : Prop :=
  left = right ∨ (left ∈ endingsOfZero ∧ right ∈ endingsOfZero) ∨
    (left ∈ endingsOfOne ∧ right ∈ endingsOfOne)

section Endings

variable {ending : List Char} {value : Nat} (denotes : DenotesRecoveryId ending value)

include denotes

theorem eq_zero_iff : value = 0 ↔ ending = ['0', '0'] ∨ ending = ['+', '0'] := by
  refine Iff.trans ⟨fun isZero => isZero ▸ denotes, denotes.unique⟩ ?_
  exact denotesRecoveryId_iff_of_lt ending (by decide)

theorem eq_one_iff : value = 1 ↔ ending = ['0', '1'] ∨ ending = ['+', '1'] := by
  refine Iff.trans ⟨fun isOne => isOne ▸ denotes, denotes.unique⟩ ?_
  exact denotesRecoveryId_iff_of_lt ending (by decide)

/-- An ending is normalized to that of a raised recovery id if it denotes the id or is that ending
already. -/
theorem raised_eq_iff {low : Nat} (isLow : low < 2) :
    raised ending value = Hex.octetDigits (UInt8.ofNat (low + recoveryOffset)) ↔
      value = low ∨ ending = Hex.octetDigits (UInt8.ofNat (low + recoveryOffset)) := by
  have denotesLow := denotesRecoveryId_octetDigits (UInt8.ofNat (low + recoveryOffset))
  rw [toNat_raised isLow] at denotesLow
  by_cases small : value < 2
  · have denotesRaised := denotesRecoveryId_octetDigits (UInt8.ofNat (value + recoveryOffset))
    rw [toNat_raised small] at denotesRaised
    rw [raised, if_pos small]
    constructor
    · intro same
      rw [same] at denotesRaised
      exact .inl (Nat.add_right_cancel (denotesRaised.unique denotesLow))
    · rintro (rfl | same)
      · rfl
      · have value_eq := (same ▸ denotes).unique denotesLow
        rw [recoveryOffset] at value_eq
        omega
  · rw [raised_of_le (Nat.le_of_not_lt small)]
    refine ⟨.inr, fun either => either.resolve_left fun same => ?_⟩
    exact small (same ▸ isLow)

theorem raised_eq_iff_mem_endingsOfZero :
    raised ending value = ['1', 'b'] ↔ ending ∈ endingsOfZero := by
  have raises : raised ending value = ['1', 'b'] ↔ value = 0 ∨ ending = ['1', 'b'] :=
    @raised_eq_iff ending value denotes 0 (by decide)
  rw [raises, eq_zero_iff denotes, or_assoc]
  simp only [endingsOfZero, List.mem_cons, List.not_mem_nil, or_false]

theorem raised_eq_iff_mem_endingsOfOne :
    raised ending value = ['1', 'c'] ↔ ending ∈ endingsOfOne := by
  have raises : raised ending value = ['1', 'c'] ↔ value = 1 ∨ ending = ['1', 'c'] :=
    @raised_eq_iff ending value denotes 1 (by decide)
  rw [raises, eq_one_iff denotes, or_assoc]
  simp only [endingsOfOne, List.mem_cons, List.not_mem_nil, or_false]

end Endings

/-- Recovery ids are raised to the same ending if they are the same once they are normalized. -/
theorem raised_eq_raised_iff {left right : List Char} {value otherValue : Nat}
    (denotesLeft : DenotesRecoveryId left value)
    (denotesRight : DenotesRecoveryId right otherValue) :
    raised left value = raised right otherValue ↔ SameEnding left right := by
  have zeroLeft := raised_eq_iff_mem_endingsOfZero denotesLeft
  have zeroRight := raised_eq_iff_mem_endingsOfZero denotesRight
  have oneLeft := raised_eq_iff_mem_endingsOfOne denotesLeft
  have oneRight := raised_eq_iff_mem_endingsOfOne denotesRight
  constructor
  · intro same
    by_cases isZero : raised left value = ['1', 'b']
    · exact .inr (.inl ⟨zeroLeft.mp isZero, zeroRight.mp (same ▸ isZero)⟩)
    by_cases isOne : raised left value = ['1', 'c']
    · exact .inr (.inr ⟨oneLeft.mp isOne, oneRight.mp (same ▸ isOne)⟩)
    -- What is raised has one of these two endings, so that both endings are kept.
    have keeps : ∀ ending value, raised ending value ≠ ['1', 'b'] →
        raised ending value ≠ ['1', 'c'] → raised ending value = ending := by
      intro ending value notZero notOne
      refine raised_of_le ?_ ending
      by_contra low
      rcases Nat.le_one_iff_eq_zero_or_eq_one.mp (Nat.le_of_lt_succ (not_le.mp low)) with rfl | rfl
      · exact notZero rfl
      · exact notOne rfl
    have leftKept := keeps left value isZero isOne
    have rightKept := keeps right otherValue (same ▸ isZero) (same ▸ isOne)
    exact .inl (leftKept.symm.trans (same.trans rightKept))
  · rintro (rfl | ⟨isLeft, isRight⟩ | ⟨isLeft, isRight⟩)
    · rw [denotesLeft.unique denotesRight]
    · rw [zeroLeft.mpr isLeft, zeroRight.mpr isRight]
    · rw [oneLeft.mpr isLeft, oneRight.mpr isRight]

theorem utf8Len_raised {ending : List Char} (value : Nat) (size : String.utf8Len ending = 2) :
    String.utf8Len (raised ending value) = 2 := by
  unfold raised
  split_ifs with low
  · rcases Nat.le_one_iff_eq_zero_or_eq_one.mp (Nat.le_of_lt_succ low) with rfl | rfl <;> rfl
  · exact size

/-- A signature keeps its 132 octets and the first 130 of them when it is normalized, and ends in a
recovery id other than 0 and 1; it is changed if its own id is one of these, and not again. Two
signatures are normalized to the same text if their first 130 octets agree and their last two
characters are the same, or are written for one of these ids or the digits of what it is raised
to. -/
theorem normalize_raises_recoveryId :
    (∀ text normal, normalize text = .ok normal →
      normal.utf8ByteSize = 132 ∧
      normal.toUTF8.toList.take 130 = text.toUTF8.toList.take 130 ∧
      (∃ value, DenotesRecoveryId (normal.toList.rtake 2) value) ∧
      ¬ DenotesRecoveryId (normal.toList.rtake 2) 0 ∧
      ¬ DenotesRecoveryId (normal.toList.rtake 2) 1 ∧
      (normal ≠ text ↔ DenotesRecoveryId (text.toList.rtake 2) 0 ∨
        DenotesRecoveryId (text.toList.rtake 2) 1) ∧
      normalize normal = .ok normal) ∧
    ∀ left right leftNormal rightNormal, normalize left = .ok leftNormal →
      normalize right = .ok rightNormal →
      (leftNormal = rightNormal ↔
        left.toUTF8.toList.take 130 = right.toUTF8.toList.take 130 ∧
          SameEnding (left.toList.rtake 2) (right.toList.rtake 2)) := by
  constructor
  · intro text normal accepted
    obtain ⟨body, ending, value, splits, denotes, rfl⟩ := (normalize_eq_ok_iff _ _).mp accepted
    obtain ⟨settled, high, denotesRaised⟩ := exists_denotesRecoveryId_raised denotes
    have splitsRaised := splits.replace (utf8Len_raised value splits.size_ending)
    rw [splitsRaised.take_octets, splits.take_octets, splitsRaised.rtake_toList denotesRaised,
      splits.rtake_toList denotes]
    refine ⟨splitsRaised.size, rfl, ⟨settled, denotesRaised⟩, fun isZero => ?_, fun isOne => ?_,
      ?_, ?_⟩
    · exact absurd (denotesRaised.unique isZero) (by omega)
    · exact absurd (denotesRaised.unique isOne) (by omega)
    · rw [← raised_ne_iff denotes, splits.joined, Ne, String.ofList_inj, List.append_right_inj]
    · refine (normalize_eq_ok_iff _ _).mpr ⟨body, _, settled, splitsRaised, denotesRaised, ?_⟩
      rw [raised_of_le high]
  · intro left right leftNormal rightNormal acceptedLeft acceptedRight
    obtain ⟨body, ending, value, splits, denotes, rfl⟩ := (normalize_eq_ok_iff _ _).mp acceptedLeft
    obtain ⟨otherBody, otherEnding, otherValue, otherSplits, otherDenotes, rfl⟩ :=
      (normalize_eq_ok_iff _ _).mp acceptedRight
    rw [splits.take_octets, otherSplits.take_octets, splits.rtake_toList denotes,
      otherSplits.rtake_toList otherDenotes, ← raised_eq_raised_iff denotes otherDenotes]
    constructor
    · intro same
      rw [String.ofList_append, String.ofList_append] at same
      have size : (String.ofList body).utf8ByteSize = (String.ofList otherBody).utf8ByteSize := by
        rw [String.utf8ByteSize_ofList, String.utf8ByteSize_ofList, splits.size_body,
          otherSplits.size_body]
      obtain ⟨sameBody, sameEnding⟩ := Text.append_inj same size
      exact ⟨by rw [sameBody], String.ofList_inj.mp sameEnding⟩
    · rintro ⟨octets, sameEnding⟩
      rw [String.ofList_inj.mp (Text.eq_of_octets_eq octets), sameEnding]

/-- A sign before the recovery id is normalized away with it, and a recovery id in capitals is
kept. -/
theorem normalize_accentedSignature :
    normalize (accentedSignature ['+', '0']) = .ok (accentedSignature ['1', 'b']) ∧
    normalize (accentedSignature ['1', 'B']) = .ok (accentedSignature ['1', 'B']) ∧
    ¬ DenotesRecoveryId ((accentedSignature ['1', 'b']).toList.rtake 2) 0 ∧
    ¬ SameEnding ((accentedSignature ['+', '0']).toList.rtake 2)
      ((accentedSignature ['1', 'B']).toList.rtake 2) := by
  have raised : normalize (accentedSignature ['+', '0']) =
      .ok (accentedSignature ['1', 'b']) := by decide +kernel
  have kept : normalize (accentedSignature ['1', 'B']) =
      .ok (accentedSignature ['1', 'B']) := by decide +kernel
  have notZero := (normalize_raises_recoveryId.1 _ _ raised).2.2.2.1
  refine ⟨raised, kept, notZero, fun same => ?_⟩
  have agree : (accentedSignature ['+', '0']).toUTF8.toList.take 130 =
      (accentedSignature ['1', 'B']).toUTF8.toList.take 130 := by decide +kernel
  have normals := (normalize_raises_recoveryId.2 _ _ _ _ raised kept).mpr ⟨agree, same⟩
  exact absurd normals (by decide +kernel)

end ExecutorRegistration.Signature
