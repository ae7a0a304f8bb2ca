import NftExchange.Bytes

/-!
# Keccak-256

The sponge over the permutation Keccak-f[1600] with a rate of 136 bytes and the padding byte
`0x01`, and the two digests built on it: `keccak256` of a byte string, and `textHash`, the digest
of a text that a wallet signs, whose preimage starts with a fixed envelope and the length.
-/

namespace NftExchange

namespace Keccak

/-- Twenty-five lanes of 64 bits; the lane at column `x` of row `y` has index `x + 5 * y`. -/
abbrev State := Vector UInt64 25

/-- Rotation towards the high end; `n` is below 64. -/
def rotateLeft (a : UInt64) (n : UInt64) : UInt64 := (a <<< n) ||| (a >>> (64 - n))

/-- The lane at a column and a row, both taken modulo five. -/
def State.lane (a : State) (x y : Nat) : UInt64 :=
  a.get ⟨x % 5 + 5 * (y % 5), by omega⟩

/-- How far each lane is rotated, by index. -/
def rotations : Vector UInt64 25 :=
  #v[0, 1, 62, 28, 27, 36, 44, 6, 55, 20, 3, 10, 43, 25, 39, 41, 45, 15, 21, 8, 18, 2, 61, 56, 14]

/-- The constant of each round. -/
def roundConstants : List UInt64 := [
  0x0000000000000001, 0x0000000000008082, 0x800000000000808a, 0x8000000080008000,
  0x000000000000808b, 0x0000000080000001, 0x8000000080008081, 0x8000000000008009,
  0x000000000000008a, 0x0000000000000088, 0x0000000080008009, 0x000000008000000a,
  0x000000008000808b, 0x800000000000008b, 0x8000000000008089, 0x8000000000008003,
  0x8000000000008002, 0x8000000000000080, 0x000000000000800a, 0x800000008000000a,
  0x8000000080008081, 0x8000000000008080, 0x0000000080000001, 0x8000000080008008]

/-- Adds to each lane the parity of the column before it and of the rotated column after it. -/
def theta (a : State) : State :=
  let parity : Vector UInt64 5 :=
    .ofFn fun x => a.lane x 0 ^^^ a.lane x 1 ^^^ a.lane x 2 ^^^ a.lane x 3 ^^^ a.lane x 4
  let change : Vector UInt64 5 :=
    .ofFn fun x => parity[(x.val + 4) % 5] ^^^ rotateLeft parity[(x.val + 1) % 5] 1
  .ofFn fun i => a[i] ^^^ change[i.val % 5]

/-- Rotates every lane by its own distance and moves it to its new place. -/
def rhoPi (a : State) : State :=
  let turned : State := .ofFn fun i => rotateLeft a[i] rotations[i]
  .ofFn fun i => turned.lane (i.val % 5 + 3 * (i.val / 5)) (i.val % 5)

/-- Mixes each lane with the two lanes after it in its row. -/
def chi (a : State) : State :=
  .ofFn fun i =>
    let x := i.val % 5
    let y := i.val / 5
    a.lane x y ^^^ (~~~(a.lane (x + 1) y) &&& a.lane (x + 2) y)

/-- Adds the round's constant to the first lane. -/
def iota (a : State) (constant : UInt64) : State := a.set 0 (a[0] ^^^ constant)

/-- The permutation: twenty-four rounds. -/
def permute (a : State) : State :=
  roundConstants.foldl (fun a constant => iota (chi (rhoPi (theta a))) constant) a

/-- The number of bytes taken in between two permutations. -/
def rate : Nat := 136

/-- The lane that eight bytes spell, least significant byte first. -/
def laneOfBytes (bytes : Bytes) : UInt64 :=
  bytes.foldr (fun b lane => (lane <<< 8) ||| b.toUInt64) 0

/-- The eight bytes of a lane, least significant byte first. -/
def laneToBytes (lane : UInt64) : Bytes :=
  (List.range 8).map fun k => (lane >>> (8 * k).toUInt64).toUInt8

/-- Adds a block of `rate` bytes to the first lanes. -/
def State.xorBlock (a : State) (block : Bytes) : State :=
  let lanes : Array UInt64 := ((List.range 17).map fun k => laneOfBytes ((block.drop (8 * k)).take 8)).toArray
  .ofFn fun i => a[i] ^^^ lanes[i.val]?.getD 0

/-- The message filled up to a whole number of blocks. -/
def pad (message : Bytes) : Bytes :=
  let gap := rate - message.length % rate
  if gap = 1 then message ++ [0x81]
  else message ++ 0x01 :: List.replicate (gap - 2) 0 ++ [0x80]

/-- Takes in `count` blocks. -/
def absorb : (count : Nat) → State → Bytes → State
  | 0, a, _ => a
  | count + 1, a, message =>
    absorb count (permute (a.xorBlock (message.take rate))) (message.drop rate)

/-- The first four lanes as bytes. -/
def State.digest (a : State) : Hash :=
  ⟨laneToBytes a[0] ++ laneToBytes a[1] ++ laneToBytes a[2] ++ laneToBytes a[3], by
    simp [laneToBytes]⟩

end Keccak

/-- The Keccak-256 digest of a byte string. -/
def keccak256 (message : Bytes) : Hash :=
  let padded := Keccak.pad message
  (Keccak.absorb (padded.length / Keccak.rate) (Vector.replicate 25 0) padded).digest

/-- The fixed start of the envelope around a signed text. -/
def textEnvelope : String := "\x19Ethereum Signed Message:\n"

/-- What is hashed when a text is signed: the envelope, the length in decimal, and the text. -/
def textPreimage (text : Bytes) : Bytes :=
  Bytes.ofText (textEnvelope ++ toString text.length) ++ text

/-- The digest that is signed for a text. -/
def textHash (text : Bytes) : Hash := keccak256 (textPreimage text)

end NftExchange
