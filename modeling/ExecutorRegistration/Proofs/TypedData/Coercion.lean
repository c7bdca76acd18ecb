import ExecutorRegistration.Proofs.AddressText
import ExecutorRegistration.Proofs.Results
import ExecutorRegistration.TypedData.Coercion

/-!
# Coercion, type by type

What a value is coerced to is said here by the values that are accepted: numbers of 64 bits,
truth values and texts stand for themselves, an address text for the address that it denotes, a
list of address texts for a list of addresses, and a written octet string for its octets.
-/

namespace ExecutorRegistration

namespace TypedData

theorem coerce_address_iff (json : Json) (value : TypedValue) :
    coerce .address json = .ok value ↔
      ∃ text address, json = .string text ∧ Address.Denotes text address ∧
        value = .word (Word.padStart address) := by
  constructor
  · intro accepted
    simp only [coerce, scalar?] at accepted
    cases json with
    | string text =>
        simp only [Address.ofText?] at accepted
        cases parsed : Address.parse text with
        | error fault => simp [parsed, Except.toOption] at accepted
        | ok address =>
            simp only [parsed, Except.toOption, Option.map_some, Except.ok.injEq] at accepted
            exact ⟨text, address, rfl, (Address.parse_eq_ok_iff _ _).mp parsed, accepted.symm⟩
    | _ => simp at accepted
  · rintro ⟨text, address, rfl, denotes, rfl⟩
    have parsed := (Address.parse_eq_ok_iff _ _).mpr denotes
    simp [coerce, scalar?, Address.ofText?, parsed, Except.toOption]

theorem coerce_string_iff (json : Json) (value : TypedValue) :
    coerce .string json = .ok value ↔
      ∃ text, json = .string text ∧ value = .octets text.toUTF8.toList := by
  cases json <;> simp [coerce, scalar?, eq_comm]

theorem coerce_uint_ofUInt64 (value : UInt64) :
    coerce (.uint 256) (.ofUInt64 value) = .ok (.word (Word.ofNat value.toNat)) := by
  have small : value.toNat < Word.size := Nat.lt_of_lt_of_le value.toNat_lt (by decide)
  have fits : fitsUnsigned 256 (value.toNat : Int) = true := decide_eq_true small
  have word : integerWord (value.toNat : Int) = Word.ofNat value.toNat := by
    rw [integerWord, ← Int.natCast_emod, Int.toNat_natCast, Nat.mod_eq_of_lt small]
  simp [coerce, scalar?, number?, Json.ofUInt64, Option.filter, fits, word]

theorem coerce_bool (value : Bool) :
    coerce .bool (.bool value) = .ok (.word (Word.ofNat value.toNat)) := rfl

theorem coerce_bytes_encode (octets : List UInt8) :
    coerce .bytes (.string (Hex.encode octets)) = .ok (.octets octets) := by
  simp [coerce, scalar?, octets?, Hex.decode?_encode]

/-- The value of a list of addresses. -/
def addressItems (addresses : List Address) : TypedValue :=
  .items (addresses.map fun address => .word (Word.padStart address))

theorem coerce_addresses_iff (texts : List String) (value : TypedValue) :
    coerce (.list .address) (.ofStrings texts) = .ok value ↔
      ∃ addresses, List.Forall₂ Address.Denotes texts addresses ∧
        value = addressItems addresses := by
  have mapped : coerce (.list .address) (.ofStrings texts) =
      ((texts.map Json.string).mapM (coerce .address)).map .items := by
    simp [coerce, Json.ofStrings]
  have items_iff (values : List TypedValue) :
      (texts.map Json.string).mapM (coerce .address) = .ok values ↔
        ∃ addresses, List.Forall₂ Address.Denotes texts addresses ∧
          values = addresses.map fun address => .word (Word.padStart address) := by
    rw [mapM_eq_ok_iff, List.forall₂_map_left_iff, ← forall₂_exists_iff]
    simp only [coerce_address_iff, Json.string.injEq, exists_and_left, exists_eq_left']
  rw [mapped, map_eq_ok_iff]
  simp only [items_iff]
  constructor
  · rintro ⟨_, ⟨addresses, denote, rfl⟩, rfl⟩
    exact ⟨addresses, denote, rfl⟩
  · rintro ⟨addresses, denote, rfl⟩
    exact ⟨_, ⟨addresses, denote, rfl⟩, rfl⟩

/-- Fields are coerced if an object has them all and each of their values is coerced. -/
theorem coerceFields_eq_ok_iff (fields : List (String × ValueType)) (json : Json)
    (values : List TypedValue) :
    coerceFields fields json = .ok values ↔
      List.Forall₂ (fun field value => ∃ found, json.field? field.1 = some found ∧
        coerce field.2 found = .ok value) fields values := by
  rw [coerceFields, mapM_eq_ok_iff]
  refine iff_of_eq (congrArg (fun related => List.Forall₂ related fields values) ?_)
  funext ⟨name, type⟩ value
  dsimp only
  cases json.field? name <;> simp

end TypedData

end ExecutorRegistration
