import ExecutorRegistration.Address
import Mathlib.Data.String.Basic
import Mathlib.Tactic.SplitIfs

/-!
# Which texts denote which addresses

A text denotes an address if its digits, behind an optional mark and in lower case, are the
digits by which the address is written. The reader accepts exactly these texts, and they are the
texts of forty digits behind an optional mark.
-/

namespace ExecutorRegistration

namespace Hex

/-- What may stand before digits. -/
def marks : List (List Char) := [[], ['0', 'x'], ['0', 'X']]

/-- A hexadecimal digit of either case. -/
def IsDigit (c : Char) : Prop :=
  ('0' ≤ c ∧ c ≤ '9') ∨ ('a' ≤ c ∧ c ≤ 'f') ∨ ('A' ≤ c ∧ c ≤ 'F')

instance : DecidablePred IsDigit := fun c =>
  inferInstanceAs (Decidable (('0' ≤ c ∧ c ≤ '9') ∨ ('a' ≤ c ∧ c ≤ 'f') ∨ ('A' ≤ c ∧ c ≤ 'F')))

theorem toNat_toLower (c : Char) :
    c.toLower.toNat = if 65 ≤ c.toNat ∧ c.toNat ≤ 90 then c.toNat + 32 else c.toNat := by
  have bounds : (c.val ≥ 'A'.val ∧ c.val ≤ 'Z'.val) ↔ 65 ≤ c.toNat ∧ c.toNat ≤ 90 := by
    simp only [ge_iff_le, UInt32.le_iff_toNat_le]
    exact Iff.rfl
  unfold Char.toLower
  by_cases upper : c.val ≥ 'A'.val ∧ c.val ≤ 'Z'.val
  · rw [dif_pos upper, if_pos (bounds.mp upper)]
    have offset : ('a'.val - 'A'.val).toNat = 32 := rfl
    have small := (bounds.mp upper).2
    change (c.val + ('a'.val - 'A'.val)).toNat = c.val.toNat + 32
    change c.val.toNat ≤ 90 at small
    rw [UInt32.toNat_add, offset]
    omega
  · rw [dif_neg upper, if_neg (mt bounds.mpr upper)]

theorem toNat_digit :
    ∀ value < 16, (digit value).toNat = if value < 10 then 48 + value else 87 + value := by
  decide

theorem digitValue?_eq (c : Char) :
    digitValue? c =
      if 48 ≤ c.toNat ∧ c.toNat ≤ 57 then some (c.toNat - 48)
      else if 97 ≤ c.toNat ∧ c.toNat ≤ 102 then some (c.toNat - 87)
      else if 65 ≤ c.toNat ∧ c.toNat ≤ 70 then some (c.toNat - 55)
      else none := rfl

/-- A character has a value if its lower case is the digit of that value. -/
theorem digitValue?_eq_some_iff (c : Char) (value : Nat) :
    digitValue? c = some value ↔ value < 16 ∧ c.toLower = digit value := by
  rw [digitValue?_eq]
  constructor
  · intro read
    have small : value < 16 := by
      split_ifs at read <;> simp only [Option.some.injEq] at read <;> omega
    refine ⟨small, Char.toNat_inj.mp ?_⟩
    rw [toNat_toLower, toNat_digit value small]
    split_ifs at read <;> simp only [Option.some.injEq] at read <;> split_ifs <;> omega
  · rintro ⟨small, lower⟩
    have codes := congrArg Char.toNat lower
    rw [toNat_toLower, toNat_digit value small] at codes
    split_ifs at codes ⊢ <;> (try rw [Option.some.injEq]) <;> omega

theorem isDigit_iff (c : Char) : IsDigit c ↔ ∃ value, digitValue? c = some value := by
  have codes : IsDigit c ↔
      (48 ≤ c.toNat ∧ c.toNat ≤ 57) ∨ (97 ≤ c.toNat ∧ c.toNat ≤ 102) ∨
        (65 ≤ c.toNat ∧ c.toNat ≤ 70) := Iff.rfl
  rw [codes, digitValue?_eq]
  split_ifs <;> simp_all

theorem IsDigit.utf8Size {c : Char} (isDigit : IsDigit c) : c.utf8Size = 1 := by
  rw [Char.utf8Size_eq_one_iff, UInt32.le_iff_toNat_le]
  change c.toNat ≤ 127
  have codes : (48 ≤ c.toNat ∧ c.toNat ≤ 57) ∨ (97 ≤ c.toNat ∧ c.toNat ≤ 102) ∨
      (65 ≤ c.toNat ∧ c.toNat ≤ 70) := isDigit
  omega

theorem ofDigits?_pair_eq_some_iff (high low : Char) (rest : List Char) (octet : UInt8)
    (octets : List UInt8) :
    ofDigits? (high :: low :: rest) = some (octet :: octets) ↔
      ∃ highDigit lowDigit, digitValue? high = some highDigit ∧ digitValue? low = some lowDigit ∧
        octet = UInt8.ofNat (16 * highDigit + lowDigit) ∧ ofDigits? rest = some octets := by
  simp only [ofDigits?, Option.bind_eq_bind, Option.bind_eq_some_iff, Option.pure_def,
    Option.some.injEq, List.cons.injEq]
  constructor
  · rintro ⟨highDigit, highValue, lowDigit, lowValue, _, restRead, rfl, rfl⟩
    exact ⟨highDigit, lowDigit, highValue, lowValue, rfl, restRead⟩
  · rintro ⟨highDigit, lowDigit, highValue, lowValue, rfl, restRead⟩
    exact ⟨highDigit, highValue, lowDigit, lowValue, octets, restRead, rfl, rfl⟩

/-- Digits denote octets if in lower case they are the digits that are written for them. -/
theorem ofDigits?_eq_some_iff (text : List Char) (octets : List UInt8) :
    ofDigits? text = some octets ↔ text.map Char.toLower = digits octets := by
  -- The reader takes two characters at a time, and the writer makes two of each octet.
  induction text using ofDigits?.induct generalizing octets with
  | case1 => cases octets <;> simp [ofDigits?, digits, octetDigits]
  | case2 c => cases octets <;> simp [ofDigits?, digits, octetDigits]
  | case3 high low rest ih =>
      cases octets with
      | nil => simp [ofDigits?, digits, Option.bind_eq_some_iff]
      | cons octet octets =>
          have octet_lt := octet.toNat_lt
          have split : digits (octet :: octets) =
              digit (octet.toNat / 16) :: digit (octet.toNat % 16) :: digits octets := rfl
          rw [split, ofDigits?_pair_eq_some_iff]
          simp only [List.map_cons, List.cons.injEq, ← ih, digitValue?_eq_some_iff]
          constructor
          · rintro ⟨highDigit, lowDigit, ⟨high_lt, highLower⟩, ⟨low_lt, lowLower⟩, rfl, restRead⟩
            have value_eq : (UInt8.ofNat (16 * highDigit + lowDigit)).toNat =
                16 * highDigit + lowDigit :=
              UInt8.toNat_ofNat_of_lt' (by rw [UInt8.size]; omega)
            have quotient : (16 * highDigit + lowDigit) / 16 = highDigit := by omega
            have remainder : (16 * highDigit + lowDigit) % 16 = lowDigit := by omega
            rw [value_eq, quotient, remainder]
            exact ⟨highLower, lowLower, restRead⟩
          · rintro ⟨highLower, lowLower, restRead⟩
            refine ⟨_, _, ⟨by omega, highLower⟩, ⟨by omega, lowLower⟩, ?_, restRead⟩
            rw [Nat.div_add_mod, UInt8.ofNat_toNat]

theorem length_digits (octets : List UInt8) : (digits octets).length = 2 * octets.length := by
  induction octets with
  | nil => rfl
  | cons octet octets ih =>
      change (octetDigits octet ++ digits octets).length = 2 * (octets.length + 1)
      rw [List.length_append, ih]
      simp only [octetDigits, List.length_cons, List.length_nil]
      omega

theorem isDigit_of_toLower_mem_digits {c : Char} {octets : List UInt8}
    (member : c.toLower ∈ digits octets) : IsDigit c := by
  obtain ⟨octet, -, member⟩ := List.mem_flatMap.mp member
  have octet_lt := octet.toNat_lt
  simp only [octetDigits, List.mem_cons, List.not_mem_nil, or_false] at member
  refine (isDigit_iff c).mpr ?_
  rcases member with lower | lower
  · exact ⟨_, (digitValue?_eq_some_iff c _).mpr ⟨by omega, lower⟩⟩
  · exact ⟨_, (digitValue?_eq_some_iff c _).mpr ⟨by omega, lower⟩⟩

/-- Digits in pairs denote octets. -/
theorem exists_ofDigits? (text : List Char) (isDigit : ∀ c ∈ text, IsDigit c)
    (even : text.length % 2 = 0) : ∃ octets, ofDigits? text = some octets := by
  induction text using ofDigits?.induct with
  | case1 => exact ⟨[], rfl⟩
  | case2 c => simp at even
  | case3 high low rest ih =>
      simp only [List.length_cons] at even
      simp only [List.forall_mem_cons] at isDigit
      obtain ⟨octets, restRead⟩ := ih isDigit.2.2 (by omega)
      obtain ⟨highDigit, highValue⟩ := (isDigit_iff high).mp isDigit.1
      obtain ⟨lowDigit, lowValue⟩ := (isDigit_iff low).mp isDigit.2.1
      exact ⟨_, (ofDigits?_pair_eq_some_iff _ _ _ _ _).mpr
        ⟨highDigit, lowDigit, highValue, lowValue, rfl, restRead⟩⟩

/-- Digits do not start with a mark, as no mark ends in a digit. -/
theorem dropMark_append {mark digits : List Char} (isMark : mark ∈ marks)
    (isDigit : ∀ c ∈ digits, IsDigit c) : dropMark (mark ++ digits) = digits := by
  simp only [marks, List.mem_cons, List.not_mem_nil, or_false] at isMark
  rcases isMark with rfl | rfl | rfl
  · match digits, isDigit with
    | [], _ => rfl
    | [c], _ => unfold dropMark; split <;> simp_all
    | first :: second :: rest, isDigit =>
        have second_digit := isDigit second (by simp)
        have not_x : ¬ IsDigit 'x' := by decide
        have not_X : ¬ IsDigit 'X' := by decide
        rw [List.nil_append]
        unfold dropMark
        split
        · simp_all
        · simp_all
        · rfl
  · rfl
  · rfl

theorem exists_mark (text : List Char) : ∃ mark ∈ marks, text = mark ++ dropMark text := by
  unfold dropMark
  split
  · exact ⟨['0', 'x'], by simp [marks], rfl⟩
  · exact ⟨['0', 'X'], by simp [marks], rfl⟩
  · exact ⟨[], by simp [marks], rfl⟩

/-- A text denotes octets if its digits in lower case are those of the octets. -/
def Denotes (text : String) (octets : List UInt8) : Prop :=
  ∃ mark ∈ marks, ∃ digits, text.toList = mark ++ digits ∧
    digits.map Char.toLower = Hex.digits octets

theorem isDigit_of_denoting {text : List Char} {octets : List UInt8}
    (lower : text.map Char.toLower = digits octets) : ∀ c ∈ text, IsDigit c := by
  intro c member
  have lowerMember : c.toLower ∈ text.map Char.toLower := List.mem_map_of_mem member
  rw [lower] at lowerMember
  exact isDigit_of_toLower_mem_digits lowerMember

theorem denotes_iff (text : String) (octets : List UInt8) :
    Denotes text octets ↔ decode? text = some octets := by
  rw [decode?, ofDigits?_eq_some_iff]
  constructor
  · rintro ⟨mark, isMark, digits, split, lower⟩
    rw [split, dropMark_append isMark (isDigit_of_denoting lower), lower]
  · intro lower
    obtain ⟨mark, isMark, split⟩ := exists_mark text.toList
    exact ⟨mark, isMark, _, split, lower⟩

end Hex

theorem Octets.ofList?_eq_some_iff {size : Nat} (octets : List UInt8) (found : Octets size) :
    Octets.ofList? size octets = some found ↔ found.toList = octets := by
  unfold Octets.ofList?
  split_ifs with sized
  · rw [Option.some.injEq, Octets.ext_iff]
    exact eq_comm
  · rw [false_iff]
    rintro rfl
    exact sized found.length_toList

namespace Address

/-- A text of forty digits behind an optional mark. -/
def IsText (text : String) : Prop :=
  ∃ mark ∈ Hex.marks, ∃ digits, text.toList = mark ++ digits ∧ digits.length = 40 ∧
    ∀ c ∈ digits, Hex.IsDigit c

/-- A text denotes an address if its digits in lower case are those of the address. -/
def Denotes (text : String) (address : Address) : Prop :=
  ∃ mark ∈ Hex.marks, ∃ digits, text.toList = mark ++ digits ∧
    digits.map Char.toLower = Hex.digits address.toList

theorem utf8ByteSize_of_isDigit (digits : List Char) (isDigit : ∀ c ∈ digits, Hex.IsDigit c) :
    (String.ofList digits).utf8ByteSize = digits.length := by
  rw [String.utf8ByteSize_ofList]
  induction digits with
  | nil => rfl
  | cons c digits ih =>
      simp only [List.forall_mem_cons] at isDigit
      rw [String.utf8Len_cons, ih isDigit.2, isDigit.1.utf8Size, List.length_cons]

theorem denotes_iff (text : String) (address : Address) :
    Denotes text address ↔ Hex.decode? text = some address.toList :=
  Hex.denotes_iff text address.toList

/-- A text denotes at most one address. -/
theorem Denotes.unique {text : String} {left right : Address} (denotesLeft : Denotes text left)
    (denotesRight : Denotes text right) : left = right := by
  rw [denotes_iff] at denotesLeft denotesRight
  exact Octets.ext (Option.some.inj (denotesLeft.symm.trans denotesRight))

/-- The reader accepts the texts that denote addresses. -/
theorem parse_eq_ok_iff (text : String) (address : Address) :
    parse text = .ok address ↔ Denotes text address := by
  rw [denotes_iff]
  constructor
  · intro accepted
    unfold parse at accepted
    dsimp only at accepted
    split_ifs at accepted
    split at accepted
    next found read =>
      obtain ⟨octets, decoded, sized⟩ := Option.bind_eq_some_iff.mp read
      rw [Octets.ofList?_eq_some_iff] at sized
      rw [← Except.ok.inj accepted, sized, decoded]
    next => simp only [reduceCtorEq] at accepted
  · intro decoded
    -- Digits are single octets, so the two tests of the size are met.
    have lower := (Hex.ofDigits?_eq_some_iff _ _).mp decoded
    have size : (String.ofList (Hex.dropMark text.toList)).utf8ByteSize = 40 := by
      rw [utf8ByteSize_of_isDigit _ (Hex.isDigit_of_denoting lower)]
      have lengths := congrArg List.length lower
      rw [List.length_map, Hex.length_digits, address.length_toList] at lengths
      exact lengths
    unfold parse
    simp [size, decoded]

/-- The texts that denote addresses have forty digits behind an optional mark. -/
theorem isText_iff (text : String) : IsText text ↔ ∃ address, Denotes text address := by
  constructor
  · rintro ⟨mark, isMark, digits, split, length_eq, isDigit⟩
    obtain ⟨octets, read⟩ := Hex.exists_ofDigits? digits isDigit (by omega)
    have lower := (Hex.ofDigits?_eq_some_iff _ _).mp read
    have lengths := congrArg List.length lower
    rw [List.length_map, Hex.length_digits] at lengths
    exact ⟨⟨octets, by omega⟩, mark, isMark, digits, split, lower⟩
  · rintro ⟨address, mark, isMark, digits, split, lower⟩
    have lengths := congrArg List.length lower
    rw [List.length_map, Hex.length_digits, address.length_toList] at lengths
    exact ⟨mark, isMark, digits, split, lengths, Hex.isDigit_of_denoting lower⟩

end Address

end ExecutorRegistration
