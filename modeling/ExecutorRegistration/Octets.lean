/-!
# Octet strings of fixed length

An `Octets n` is a string of exactly `n` octets: a digest has thirty-two, an address twenty.
`bigEndian n value` writes a natural number into `n` octets, most significant first, and reads
back as `value` modulo `256 ^ n`.
-/

namespace ExecutorRegistration

/-- A string of exactly `size` octets. -/
structure Octets (size : Nat) where
  /-- The octets, first one first. -/
  toList : List UInt8
  /-- There are exactly `size` of them. -/
  length_toList : toList.length = size
deriving DecidableEq, Repr

namespace Octets

@[ext]
theorem ext {size : Nat} {left right : Octets size} (h : left.toList = right.toList) :
    left = right := by
  cases left
  cases right
  simp_all

/-- The octet string with the given octets, if their number is right. -/
def ofList? (size : Nat) (octets : List UInt8) : Option (Octets size) :=
  if h : octets.length = size then some ⟨octets, h⟩ else none

@[simp]
theorem ofList?_toList {size : Nat} (octets : Octets size) :
    ofList? size octets.toList = some octets := by
  simp [ofList?, octets.length_toList]

end Octets

/-- The low `size` octets of `value`, most significant first. -/
def bigEndian : (size : Nat) → (value : Nat) → List UInt8
  | 0, _ => []
  | size + 1, value => bigEndian size (value / 256) ++ [UInt8.ofNat (value % 256)]

/-- The natural number that the octets denote, most significant first. -/
def ofBigEndian (octets : List UInt8) : Nat :=
  octets.foldl (fun value octet => value * 256 + octet.toNat) 0

@[simp]
theorem length_bigEndian (size value : Nat) : (bigEndian size value).length = size := by
  induction size generalizing value with
  | zero => rfl
  | succ size ih => simp [bigEndian, ih]

theorem ofBigEndian_bigEndian (size value : Nat) :
    ofBigEndian (bigEndian size value) = value % Nat.pow 256 size := by
  induction size generalizing value with
  | zero => simp [bigEndian, ofBigEndian, Nat.mod_one]
  | succ size ih =>
    have hlast : (UInt8.ofNat (value % 256)).toNat = value % 256 := by simp
    have hstep : ofBigEndian (bigEndian (size + 1) value) =
        ofBigEndian (bigEndian size (value / 256)) * 256 + value % 256 := by
      simp only [ofBigEndian, bigEndian, List.foldl_append, List.foldl_cons, List.foldl_nil, hlast]
    have hpow : Nat.pow 256 (size + 1) = 256 * Nat.pow 256 size := Nat.mul_comm _ _
    rw [hstep, ih, hpow, Nat.mod_mul]
    omega

/-- A thirty-two octet word, the unit in which typed data is encoded. -/
abbrev Word := Octets 32

/-- The digest of a hash function with 256-bit results. -/
abbrev Digest := Octets 32

/-- An account address. -/
abbrev Address := Octets 20

/-- The number of words. -/
def Word.size : Nat := Nat.pow 2 256

/-- The low 256 bits of a natural number as a word. -/
def Word.ofNat (value : Nat) : Word :=
  ⟨bigEndian 32 value, length_bigEndian 32 value⟩

/-- Octets with zeros behind them, up to the length of a word. -/
def Word.padEnd (octets : List UInt8) : Word :=
  ⟨(octets ++ List.replicate 32 0).take 32, by simp⟩

/-- Octets with zeros before them, up to the length of a word. -/
def Word.padStart {size : Nat} (octets : Octets size) : Word :=
  Word.ofNat (ofBigEndian octets.toList)

theorem Word.ofNat_injective {left right : Nat} (hleft : left < Word.size)
    (hright : right < Word.size) (h : Word.ofNat left = Word.ofNat right) : left = right := by
  have hlist := congrArg (fun word : Word => ofBigEndian word.toList) h
  have hsize : Nat.pow 256 32 = Word.size := rfl
  simp only [Word.ofNat, ofBigEndian_bigEndian, hsize] at hlist
  rwa [Nat.mod_eq_of_lt hleft, Nat.mod_eq_of_lt hright] at hlist

end ExecutorRegistration
