/-!
# The 512-bit sponge

The Keccak permutation on twenty-five 64-bit lanes, and the sponge with 72-byte blocks
and the SHA-3 padding that turns a message into 64 bytes.
-/

namespace Lookout.Digest

/-- The state of the permutation; the lane of column `x` and row `y` is at `x + 5 * y`. -/
abbrev Lanes := Vector UInt64 25

/-- A lane of a state, by any index. -/
def Lanes.lane (state : Lanes) (index : Nat) : UInt64 :=
  state.toArray.getD index 0

/-- How far each lane is rotated. -/
def rotations : Array UInt64 :=
  #[0, 1, 62, 28, 27,
    36, 44, 6, 55, 20,
    3, 10, 43, 25, 39,
    41, 45, 15, 21, 8,
    18, 2, 61, 56, 14]

/-- The constants that tell the twenty-four rounds apart. -/
def roundConstants : List UInt64 :=
  [0x0000000000000001, 0x0000000000008082, 0x800000000000808a, 0x8000000080008000,
    0x000000000000808b, 0x0000000080000001, 0x8000000080008081, 0x8000000000008009,
    0x000000000000008a, 0x0000000000000088, 0x0000000080008009, 0x000000008000000a,
    0x000000008000808b, 0x800000000000008b, 0x8000000000008089, 0x8000000000008003,
    0x8000000000008002, 0x8000000000000080, 0x000000000000800a, 0x800000008000000a,
    0x8000000080008081, 0x8000000000008080, 0x0000000080000001, 0x8000000080008008]

/-- Rotate a lane to the left. -/
def rotateLeft (lane amount : UInt64) : UInt64 :=
  if amount = 0 then lane else (lane <<< amount) ||| (lane >>> (64 - amount))

/-- Add to each lane the parities of the two columns beside it. -/
def mixColumns (state : Lanes) : Lanes :=
  let parity : Vector UInt64 5 := Vector.ofFn fun x =>
    state.lane x.val ^^^ state.lane (x.val + 5) ^^^ state.lane (x.val + 10) ^^^
      state.lane (x.val + 15) ^^^ state.lane (x.val + 20)
  Vector.ofFn fun index =>
    let left := parity.toArray.getD ((index.val + 4) % 5) 0
    let right := parity.toArray.getD ((index.val + 1) % 5) 0
    state.lane index.val ^^^ left ^^^ rotateLeft right 1

/-- Rotate each lane and move it to its new place. -/
def scatter (state : Lanes) : Lanes :=
  Vector.ofFn fun index =>
    let column := index.val % 5
    let row := index.val / 5
    let source := (column + 3 * row) % 5 + 5 * column
    rotateLeft (state.lane source) (rotations.getD source 0)

/-- Combine each lane with the two to its right. -/
def combineRows (state : Lanes) : Lanes :=
  Vector.ofFn fun index =>
    let column := index.val % 5
    let row := index.val / 5
    state.lane index.val ^^^
      (~~~(state.lane ((column + 1) % 5 + 5 * row)) &&& state.lane ((column + 2) % 5 + 5 * row))

/-- One round of the permutation. -/
def round (state : Lanes) (constant : UInt64) : Lanes :=
  let mixed := combineRows (scatter (mixColumns state))
  mixed.set 0 (mixed.lane 0 ^^^ constant)

/-- The permutation. -/
def permute (state : Lanes) : Lanes :=
  roundConstants.foldl round state

/-- The bytes of a block. -/
def blockSize : Nat := 72

/-- The bytes that fill a message up to whole blocks. -/
def padding (length : Nat) : Array UInt8 :=
  match blockSize - length % blockSize with
  | 0 | 1 => #[0x86]
  | count => #[0x06] ++ Array.replicate (count - 2) 0 ++ #[0x80]

/-- Eight bytes from a position on, the first the least significant. -/
def laneAt (bytes : Array UInt8) (start : Nat) : UInt64 :=
  (List.range 8).foldr (fun offset lane => (lane <<< 8) ||| (bytes.getD (start + offset) 0).toUInt64) 0

/-- Take one block of the message into the state. -/
def absorbBlock (bytes : Array UInt8) (state : Lanes) (block : Nat) : Lanes :=
  permute <| Vector.ofFn fun index =>
    if index.val < 9 then state.lane index.val ^^^ laneAt bytes (blockSize * block + 8 * index.val)
    else state.lane index.val

/-- The 64-byte digest of a message. -/
def sponge (message : Array UInt8) : List UInt8 :=
  let bytes := message ++ padding message.size
  let final := (List.range (bytes.size / blockSize)).foldl (absorbBlock bytes) (Vector.replicate 25 0)
  (List.range 64).map fun index =>
    (final.lane (index / 8) >>> (8 * (index % 8)).toUInt64).toUInt8

end Lookout.Digest
