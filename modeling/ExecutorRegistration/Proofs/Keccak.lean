import ExecutorRegistration.Keccak
import Mathlib.Data.List.GetD

/-!
# Keccak-256 by numbers

Words that are looked up in lists are slow to compute with in proofs. Here a state is five rows of
five words, its permutation is written over any operations on words, and with those on natural
numbers it is shown to give the same digests, which the kernel evaluates by its own arithmetic.
-/

namespace ExecutorRegistration.Keccak

/-! ## Rows of words -/

/-- The operations on words of which the permutation is made. -/
structure WordOps (α : Type) where
  /-- The bits in which two words differ. -/
  xor : α → α → α
  /-- The bits of the second word that the first one does not have. -/
  mask : α → α → α
  /-- The bits of a word, turned left. -/
  turn : α → Nat → α
  /-- The word of a lane. -/
  ofLane : UInt64 → α

/-- The operations on words of 64 bits. -/
def laneOps : WordOps UInt64 where
  xor left right := left ^^^ right
  mask left right := ~~~left &&& right
  turn := turnLeft
  ofLane := id

/-- The operations on the numbers of such words. -/
def numberOps : WordOps Nat where
  xor left right := left ^^^ right
  mask left right := (UInt64.size - 1 - left) &&& right
  turn word amount := (word <<< amount) % UInt64.size ||| word >>> (64 - amount)
  ofLane := UInt64.toNat

/-- Five words. -/
structure Row (α : Type) where
  a : α
  b : α
  c : α
  d : α
  e : α

/-- Five rows. -/
structure Rows (α : Type) where
  a : Row α
  b : Row α
  c : Row α
  d : Row α
  e : Row α

section

variable {α : Type} (ops : WordOps α)

/-- The words of two rows, added. -/
def Row.add : Row α → Row α → Row α
  | ⟨a, b, c, d, e⟩, ⟨a', b', c', d', e'⟩ =>
    ⟨ops.xor a a', ops.xor b b', ops.xor c c', ops.xor d d', ops.xor e e'⟩

/-- What is added to each column, from the parities of all columns. -/
def Row.change : Row α → Row α
  | ⟨a, b, c, d, e⟩ =>
    ⟨ops.xor e (ops.turn b 1), ops.xor a (ops.turn c 1), ops.xor b (ops.turn d 1),
      ops.xor c (ops.turn e 1), ops.xor d (ops.turn a 1)⟩

/-- Each word of a row, combined with the next two. -/
def Row.mix : Row α → Row α
  | ⟨a, b, c, d, e⟩ =>
    ⟨ops.xor a (ops.mask b c), ops.xor b (ops.mask c d), ops.xor c (ops.mask d e),
      ops.xor d (ops.mask e a), ops.xor e (ops.mask a b)⟩

namespace Rows

/-- Two states, added. -/
def add : Rows α → Rows α → Rows α
  | ⟨a, b, c, d, e⟩, ⟨a', b', c', d', e'⟩ =>
    ⟨a.add ops a', b.add ops b', c.add ops c', d.add ops d', e.add ops e'⟩

/-- Adds to each word the parities of the two neighbouring columns. -/
def mixColumns : Rows α → Rows α
  | ⟨a, b, c, d, e⟩ =>
    let change := ((((a.add ops b).add ops c).add ops d).add ops e).change ops
    ⟨a.add ops change, b.add ops change, c.add ops change, d.add ops change, e.add ops change⟩

/-- Turns every word and moves it to its new place. -/
def move : Rows α → Rows α
  | ⟨⟨a0, a1, a2, a3, a4⟩, ⟨b0, b1, b2, b3, b4⟩, ⟨c0, c1, c2, c3, c4⟩, ⟨d0, d1, d2, d3, d4⟩,
      ⟨e0, e1, e2, e3, e4⟩⟩ =>
    ⟨⟨a0, ops.turn b1 44, ops.turn c2 43, ops.turn d3 21, ops.turn e4 14⟩,
      ⟨ops.turn a3 28, ops.turn b4 20, ops.turn c0 3, ops.turn d1 45, ops.turn e2 61⟩,
      ⟨ops.turn a1 1, ops.turn b2 6, ops.turn c3 25, ops.turn d4 8, ops.turn e0 18⟩,
      ⟨ops.turn a4 27, ops.turn b0 36, ops.turn c1 10, ops.turn d2 15, ops.turn e3 56⟩,
      ⟨ops.turn a2 62, ops.turn b3 55, ops.turn c4 39, ops.turn d0 41, ops.turn e1 2⟩⟩

/-- Combines the words of each row. -/
def mixRows : Rows α → Rows α
  | ⟨a, b, c, d, e⟩ => ⟨a.mix ops, b.mix ops, c.mix ops, d.mix ops, e.mix ops⟩

/-- Adds a round constant to the first word. -/
def addConstant (constant : α) : Rows α → Rows α
  | ⟨⟨a0, a1, a2, a3, a4⟩, b, c, d, e⟩ => ⟨⟨ops.xor a0 constant, a1, a2, a3, a4⟩, b, c, d, e⟩

/-- One round of the permutation. -/
def round (rows : Rows α) (constant : α) : Rows α :=
  addConstant ops constant (((rows.mixColumns ops).move ops).mixRows ops)

/-- The permutation: twenty-four rounds. -/
def permute (rows : Rows α) : Rows α := (roundConstants.map ops.ofLane).foldl (round ops) rows

/-- The lanes of a state. -/
def lanes : Rows α → List α
  | ⟨⟨a0, a1, a2, a3, a4⟩, ⟨b0, b1, b2, b3, b4⟩, ⟨c0, c1, c2, c3, c4⟩, ⟨d0, d1, d2, d3, d4⟩,
      ⟨e0, e1, e2, e3, e4⟩⟩ =>
    [a0, a1, a2, a3, a4, b0, b1, b2, b3, b4, c0, c1, c2, c3, c4, d0, d1, d2, d3, d4,
      e0, e1, e2, e3, e4]

/-- The state that begins with the given words, with zeros behind them. -/
def ofWords (words : List α) : Rows α :=
  let word (index : Nat) : α := words.getD index (ops.ofLane 0)
  ⟨⟨word 0, word 1, word 2, word 3, word 4⟩, ⟨word 5, word 6, word 7, word 8, word 9⟩,
    ⟨word 10, word 11, word 12, word 13, word 14⟩, ⟨word 15, word 16, word 17, word 18, word 19⟩,
    ⟨word 20, word 21, word 22, word 23, word 24⟩⟩

/-- Adds a block to the state and permutes it. -/
def absorb (rows : Rows α) (block : List UInt8) : Rows α :=
  let added := (pieces 8 (rate / 8) block).map fun octets => ops.ofLane (laneOfOctets octets)
  (rows.add ops (ofWords ops added)).permute ops

/-- The state after a whole padded message. -/
def sponge (message : List UInt8) : Rows α :=
  let padded := message ++ padding message.length
  (pieces rate (message.length / rate + 1) padded).foldl (absorb ops) (ofWords ops [])

end Rows

end

/-- The words of a row as numbers. -/
def Row.numbers : Row UInt64 → Row Nat
  | ⟨a, b, c, d, e⟩ => ⟨a.toNat, b.toNat, c.toNat, d.toNat, e.toNat⟩

/-- The words of a state as numbers. -/
def Rows.numbers : Rows UInt64 → Rows Nat
  | ⟨a, b, c, d, e⟩ => ⟨a.numbers, b.numbers, c.numbers, d.numbers, e.numbers⟩

/-! ## Rows of lanes -/

section

variable (rows : Rows UInt64)

theorem mixColumns_lanes : mixColumns rows.lanes = (rows.mixColumns laneOps).lanes := rfl

theorem moveLanes_lanes : moveLanes rows.lanes = (rows.move laneOps).lanes := rfl

theorem mixRows_lanes : mixRows rows.lanes = (rows.mixRows laneOps).lanes := rfl

theorem addConstant_lanes (constant : UInt64) :
    addConstant constant rows.lanes = (rows.addConstant laneOps constant).lanes := rfl

theorem round_lanes (constant : UInt64) :
    round rows.lanes constant = (rows.round laneOps constant).lanes := by
  rw [round, mixColumns_lanes, moveLanes_lanes, mixRows_lanes, addConstant_lanes, Rows.round]

theorem permute_lanes : permute rows.lanes = (rows.permute laneOps).lanes := by
  have constants_eq : roundConstants.map laneOps.ofLane = roundConstants := List.map_id _
  rw [permute, Rows.permute, constants_eq]
  induction roundConstants generalizing rows with
  | nil => rfl
  | cons constant constants ih => rw [List.foldl_cons, List.foldl_cons, round_lanes, ih]

theorem absorb_lanes (block : List UInt8) :
    absorb rows.lanes block = (rows.absorb laneOps block).lanes := by
  rw [Rows.absorb, ← permute_lanes]
  rfl

theorem foldl_absorb_lanes (blocks : List (List UInt8)) :
    blocks.foldl absorb rows.lanes = (blocks.foldl (Rows.absorb laneOps) rows).lanes := by
  induction blocks generalizing rows with
  | nil => rfl
  | cons block blocks ih => rw [List.foldl_cons, List.foldl_cons, absorb_lanes, ih]

end

/-- The state after a message is that of rows. -/
theorem sponge_eq_lanes (message : List UInt8) :
    sponge message = (Rows.sponge laneOps message).lanes :=
  foldl_absorb_lanes (.ofWords laneOps []) _

/-! ## Rows of numbers -/

section

variable (rows : Rows UInt64)

theorem numbers_add (left right : Rows UInt64) :
    (left.add laneOps right).numbers = left.numbers.add numberOps right.numbers := rfl

theorem numbers_mixColumns :
    (rows.mixColumns laneOps).numbers = rows.numbers.mixColumns numberOps := rfl

theorem numbers_move : (rows.move laneOps).numbers = rows.numbers.move numberOps := rfl

theorem numbers_mix (row : Row UInt64) :
    (row.mix laneOps).numbers = row.numbers.mix numberOps := by
  simp only [Row.mix, Row.numbers, laneOps, numberOps, UInt64.toNat_xor, UInt64.toNat_and,
    UInt64.toNat_not]

theorem numbers_mixRows : (rows.mixRows laneOps).numbers = rows.numbers.mixRows numberOps := by
  simp only [Rows.mixRows, Rows.numbers, numbers_mix]

theorem numbers_addConstant (constant : UInt64) :
    (rows.addConstant laneOps constant).numbers =
      rows.numbers.addConstant numberOps constant.toNat := rfl

theorem numbers_round (constant : UInt64) :
    (rows.round laneOps constant).numbers = rows.numbers.round numberOps constant.toNat := by
  rw [Rows.round, numbers_addConstant, numbers_mixRows, numbers_move, numbers_mixColumns]
  rfl

theorem numbers_permute : (rows.permute laneOps).numbers = rows.numbers.permute numberOps := by
  have constants_eq : roundConstants.map laneOps.ofLane = roundConstants := List.map_id _
  rw [Rows.permute, Rows.permute, constants_eq]
  induction roundConstants generalizing rows with
  | nil => rfl
  | cons constant constants ih =>
      rw [List.map_cons, List.foldl_cons, List.foldl_cons, ih, numbers_round]
      rfl

theorem numbers_ofWords (words : List UInt64) :
    (Rows.ofWords laneOps words).numbers = .ofWords numberOps (words.map UInt64.toNat) := by
  have word_eq (index : Nat) : (words.getD index 0).toNat = (words.map UInt64.toNat).getD index 0 :=
    (List.getD_map _ _ _).symm
  simp only [Rows.ofWords, Rows.numbers, Row.numbers, laneOps, numberOps, id, word_eq]
  rfl

theorem numbers_absorb (block : List UInt8) :
    (rows.absorb laneOps block).numbers = rows.numbers.absorb numberOps block := by
  rw [Rows.absorb, numbers_permute, numbers_add, numbers_ofWords, List.map_map]
  rfl

theorem numbers_foldl_absorb (blocks : List (List UInt8)) :
    (blocks.foldl (Rows.absorb laneOps) rows).numbers =
      blocks.foldl (Rows.absorb numberOps) rows.numbers := by
  induction blocks generalizing rows with
  | nil => rfl
  | cons block blocks ih => rw [List.foldl_cons, List.foldl_cons, ih, numbers_absorb]

end

theorem numbers_sponge (message : List UInt8) :
    (Rows.sponge laneOps message).numbers = Rows.sponge numberOps message := by
  rw [Rows.sponge, numbers_foldl_absorb, numbers_ofWords]
  rfl

theorem lanes_numbers (rows : Rows UInt64) : rows.numbers.lanes.map UInt64.ofNat = rows.lanes := by
  simp only [Rows.numbers, Row.numbers, Rows.lanes, List.map_cons, List.map_nil, UInt64.ofNat_toNat]

end Keccak

open Keccak

/-- The digest of a message, by numbers. -/
def keccakByNumbers (message : List UInt8) : Digest :=
  squeeze ((Rows.sponge numberOps message).lanes.map UInt64.ofNat)

/-- Digests may be evaluated by numbers. -/
theorem keccak256_eq : keccak256 = keccakByNumbers := by
  funext message
  rw [keccak256, keccakByNumbers, sponge_eq_lanes, ← numbers_sponge, lanes_numbers]

/-- The digest of nothing. -/
example : keccak256 [] = ⟨
    [0xc5, 0xd2, 0x46, 0x01, 0x86, 0xf7, 0x23, 0x3c,
     0x92, 0x7e, 0x7d, 0xb2, 0xdc, 0xc7, 0x03, 0xc0,
     0xe5, 0x00, 0xb6, 0x53, 0xca, 0x82, 0x27, 0x3b,
     0x7b, 0xfa, 0xd8, 0x04, 0x5d, 0x85, 0xa4, 0x70],
    rfl⟩ := by
  rw [keccak256_eq]
  decide +kernel

end ExecutorRegistration
