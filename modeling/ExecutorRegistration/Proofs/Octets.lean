import ExecutorRegistration.Octets
import Mathlib.Data.List.Induction

/-!
# Octets determine what they encode

Texts, numbers of 64 bits and addresses are determined by their octets, and a sequence of octet
strings of one length is determined by the octets of all of them in a row.
-/

namespace ExecutorRegistration

/-! ## Texts -/

theorem toList_byteArray_loop (bytes : ByteArray) (start : Nat) (taken : List UInt8) :
    ByteArray.toList.loop bytes start taken = taken.reverse ++ bytes.data.toList.drop start := by
  induction start, taken using ByteArray.toList.loop.induct bytes with
  | case1 start taken inside ih =>
      have inside' : start < bytes.data.toList.length := inside
      have octet_eq : bytes.get! start = bytes.data.toList[start] :=
        getElem!_pos bytes.data start inside
      rw [ByteArray.toList.loop, if_pos inside, ih, List.drop_eq_getElem_cons inside',
        List.reverse_cons, octet_eq, List.append_assoc]
      rfl
  | case2 start taken outside =>
      have outside' : bytes.data.toList.length ≤ start := Nat.le_of_not_lt outside
      rw [ByteArray.toList.loop, if_neg outside, List.drop_eq_nil_of_le outside',
        List.append_nil]

theorem toList_byteArray (bytes : ByteArray) : bytes.toList = bytes.data.toList :=
  toList_byteArray_loop bytes 0 []

/-- A text is determined by its octets in UTF-8. -/
theorem Text.eq_of_octets_eq {left right : String}
    (octets : left.toUTF8.toList = right.toUTF8.toList) : left = right := by
  rw [toList_byteArray, toList_byteArray] at octets
  exact String.toByteArray_inj.mp (ByteArray.ext (Array.toList_inj.mp octets))

theorem Text.octets_append (left right : String) :
    (left ++ right).toUTF8.toList = left.toUTF8.toList ++ right.toUTF8.toList := by
  simp only [toList_byteArray]
  simp [String.toUTF8]

theorem Text.length_octets (text : String) : text.toUTF8.toList.length = text.utf8ByteSize := by
  rw [toList_byteArray]
  rfl

/-- Two texts in a row are told apart by the number of octets of the first. -/
theorem Text.append_inj {left left' right right' : String}
    (joined : left ++ right = left' ++ right') (size : left.utf8ByteSize = left'.utf8ByteSize) :
    left = left' ∧ right = right' := by
  have octets := congrArg (fun text : String => text.toUTF8.toList) joined
  simp only [octets_append] at octets
  have lengths : left.toUTF8.toList.length = left'.toUTF8.toList.length := by
    rw [length_octets, length_octets, size]
  obtain ⟨front, back⟩ := List.append_inj octets lengths
  exact ⟨eq_of_octets_eq front, eq_of_octets_eq back⟩

/-! ## Numbers and addresses -/

theorem ofBigEndian_append_singleton (octets : List UInt8) (last : UInt8) :
    ofBigEndian (octets ++ [last]) = ofBigEndian octets * 256 + last.toNat := by
  rw [ofBigEndian, List.foldl_append]
  rfl

/-- Octets are written again for the number that they denote. -/
theorem bigEndian_ofBigEndian (octets : List UInt8) :
    bigEndian octets.length (ofBigEndian octets) = octets := by
  induction octets using List.reverseRecOn with
  | nil => rfl
  | append_singleton octets last ih =>
      have last_lt := last.toNat_lt
      rw [List.length_append, List.length_singleton, bigEndian, ofBigEndian_append_singleton]
      have quotient : (ofBigEndian octets * 256 + last.toNat) / 256 = ofBigEndian octets := by
        omega
      have remainder : (ofBigEndian octets * 256 + last.toNat) % 256 = last.toNat := by omega
      rw [quotient, remainder, ih, UInt8.ofNat_toNat]

theorem ofBigEndian_zeros (count : Nat) (octets : List UInt8) :
    ofBigEndian (List.replicate count 0 ++ octets) = ofBigEndian octets := by
  induction count with
  | zero => rfl
  | succ count ih => exact ih

/-- Octets that are padded stand behind zeros. -/
theorem Word.toList_padStart {size : Nat} (octets : Octets size) (fits : size ≤ 32) :
    (Word.padStart octets).toList = List.replicate (32 - size) 0 ++ octets.toList := by
  have length_eq : (List.replicate (32 - size) 0 ++ octets.toList).length = 32 := by
    rw [List.length_append, List.length_replicate, octets.length_toList]
    omega
  have written := bigEndian_ofBigEndian (List.replicate (32 - size) 0 ++ octets.toList)
  rwa [length_eq, ofBigEndian_zeros] at written

theorem Word.padStart_injective {left right : Address}
    (words : Word.padStart left = Word.padStart right) : left = right := by
  have lists := congrArg Octets.toList words
  rw [Word.toList_padStart left (by decide), Word.toList_padStart right (by decide)] at lists
  exact Octets.ext (List.append_cancel_left lists)

theorem Word.ofNat_uint64_injective {left right : UInt64}
    (words : Word.ofNat left.toNat = Word.ofNat right.toNat) : left = right := by
  have bound (value : UInt64) : value.toNat < Word.size :=
    Nat.lt_of_lt_of_le value.toNat_lt (by decide)
  exact UInt64.toNat_inj.mp (Word.ofNat_injective (bound left) (bound right) words)

theorem Word.ofNat_bool_injective {left right : Bool}
    (words : Word.ofNat left.toNat = Word.ofNat right.toNat) : left = right := by
  have bound (value : Bool) : value.toNat < Word.size :=
    Nat.lt_of_lt_of_le value.toNat_lt (by decide)
  have values := Word.ofNat_injective (bound left) (bound right) words
  cases left <;> cases right <;> simp_all

/-! ## Sequences of words -/

/-- The octets of words in a row. -/
def concatWords (words : List Word) : List UInt8 := words.flatMap Octets.toList

@[simp]
theorem concatWords_nil : concatWords [] = [] := rfl

@[simp]
theorem concatWords_cons (word : Word) (words : List Word) :
    concatWords (word :: words) = word.toList ++ concatWords words := rfl

/-- Words are determined by their octets in a row. -/
theorem concatWords_injective {left right : List Word}
    (octets : concatWords left = concatWords right) : left = right := by
  induction left generalizing right with
  | nil =>
      cases right with
      | nil => rfl
      | cons word right =>
          have lengths := congrArg List.length octets
          rw [concatWords_cons, List.length_append, word.length_toList] at lengths
          simp at lengths
          omega
  | cons word left ih =>
      cases right with
      | nil =>
          have lengths := congrArg List.length octets
          simp [word.length_toList] at lengths
      | cons other right =>
          have sizes : word.toList.length = other.toList.length := by
            rw [word.length_toList, other.length_toList]
          obtain ⟨first, rest⟩ := List.append_inj octets sizes
          rw [Octets.ext first, ih rest]

end ExecutorRegistration
