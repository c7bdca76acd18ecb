import ExecutorRegistration.Octets

/-!
# The hash function Keccak-256

The permutation works on twenty-five 64-bit lanes, lane `x + 5 * y` standing in column `x` of row
`y`. A message is padded with `0x01 … 0x80` to blocks of 136 octets, each block is added to the
state and the state permuted, and the digest is the first thirty-two octets of the last state.
-/

namespace ExecutorRegistration.Keccak

/-- The lanes of a state, lane `x + 5 * y` at that index. -/
abbrev Lanes := List UInt64

/-- The lane at an index; all states have twenty-five. -/
def lane (lanes : Lanes) (index : Nat) : UInt64 := lanes.getD index 0

/-- The bits of `word` turned left by `amount`. -/
def turnLeft (word : UInt64) (amount : Nat) : UInt64 :=
  if amount % 64 = 0 then word
  else (word <<< UInt64.ofNat (amount % 64)) ||| (word >>> UInt64.ofNat (64 - amount % 64))

/-- How far each lane is turned. -/
def turns : List Nat :=
  [0, 1, 62, 28, 27,
   36, 44, 6, 55, 20,
   3, 10, 43, 25, 39,
   41, 45, 15, 21, 8,
   18, 2, 61, 56, 14]

/-- The constant that each of the twenty-four rounds adds to the first lane. -/
def roundConstants : List UInt64 :=
  [0x0000000000000001, 0x0000000000008082, 0x800000000000808A, 0x8000000080008000,
   0x000000000000808B, 0x0000000080000001, 0x8000000080008081, 0x8000000000008009,
   0x000000000000008A, 0x0000000000000088, 0x0000000080008009, 0x000000008000000A,
   0x000000008000808B, 0x800000000000008B, 0x8000000000008089, 0x8000000000008003,
   0x8000000000008002, 0x8000000000000080, 0x000000000000800A, 0x800000008000000A,
   0x8000000080008081, 0x8000000000008080, 0x0000000080000001, 0x8000000080008008]

/-- Adds to each lane the parities of the two neighbouring columns. -/
def mixColumns (lanes : Lanes) : Lanes :=
  let parity := (List.range 5).map fun x =>
    lane lanes x ^^^ lane lanes (x + 5) ^^^ lane lanes (x + 10) ^^^ lane lanes (x + 15) ^^^
      lane lanes (x + 20)
  let change := (List.range 5).map fun x =>
    lane parity ((x + 4) % 5) ^^^ turnLeft (lane parity ((x + 1) % 5)) 1
  lanes.zipIdx.map fun (value, index) => value ^^^ lane change (index % 5)

/-- Turns every lane and moves it to its new place. -/
def moveLanes (lanes : Lanes) : Lanes :=
  let turned := List.zipWith turnLeft lanes turns
  (List.range 25).map fun index =>
    let x := index % 5
    let y := index / 5
    lane turned ((x + 3 * y) % 5 + 5 * x)

/-- Combines each lane with the next two of its row. -/
def mixRows (lanes : Lanes) : Lanes :=
  lanes.zipIdx.map fun (value, index) =>
    let row := index - index % 5
    value ^^^
      (~~~(lane lanes (row + (index + 1) % 5)) &&& lane lanes (row + (index + 2) % 5))

/-- Adds a round constant to the first lane. -/
def addConstant (constant : UInt64) : Lanes → Lanes
  | [] => []
  | first :: rest => (first ^^^ constant) :: rest

/-- One round of the permutation. -/
def round (lanes : Lanes) (constant : UInt64) : Lanes :=
  addConstant constant (mixRows (moveLanes (mixColumns lanes)))

/-- The permutation: twenty-four rounds. -/
def permute (lanes : Lanes) : Lanes := roundConstants.foldl round lanes

/-- Octets taken in per permutation. -/
def rate : Nat := 136

/-- The padding behind a message of the given length: a first bit, zeros, and a last bit. -/
def padding (length : Nat) : List UInt8 :=
  let missing := rate - length % rate
  if missing = 1 then [0x81]
  else 0x01 :: (List.replicate (missing - 2) 0x00 ++ [0x80])

/-- Eight octets as a lane, least significant first. -/
def laneOfOctets (octets : List UInt8) : UInt64 :=
  octets.foldr (fun octet value => value <<< 8 ||| octet.toUInt64) 0

/-- A lane as eight octets, least significant first. -/
def octetsOfLane (value : UInt64) : List UInt8 :=
  (List.range 8).map fun index => (value >>> (8 * UInt64.ofNat index)).toUInt8

/-- The list cut into pieces of `size`, given that it has `count` of them. -/
def pieces {α : Type} (size : Nat) : (count : Nat) → List α → List (List α)
  | 0, _ => []
  | count + 1, items => items.take size :: pieces size count (items.drop size)

/-- Adds a block to the state and permutes it. -/
def absorb (lanes : Lanes) (block : List UInt8) : Lanes :=
  let added := (pieces 8 (rate / 8) block).map laneOfOctets
  permute (lanes.zipIdx.map fun (value, index) => value ^^^ lane added index)

/-- The state in which every lane is zero. -/
def initial : Lanes := List.replicate 25 0

/-- The state after the whole padded message. -/
def sponge (message : List UInt8) : Lanes :=
  let padded := message ++ padding message.length
  (pieces rate (message.length / rate + 1) padded).foldl absorb initial

/-- The first thirty-two octets of a state. -/
def squeeze (lanes : Lanes) : Digest :=
  ⟨(List.range 4).flatMap fun index => octetsOfLane (lane lanes index),
    by simp [octetsOfLane, List.range, List.range.loop]⟩

end Keccak

/-- The Keccak-256 digest of a message. -/
def keccak256 (message : List UInt8) : Digest :=
  Keccak.squeeze (Keccak.sponge message)

/-- The Keccak-256 digest of the UTF-8 octets of a text. -/
def keccakText (text : String) : Digest :=
  keccak256 text.toUTF8.toList

end ExecutorRegistration
