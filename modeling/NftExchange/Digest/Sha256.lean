import NftExchange.Bytes

/-!
# SHA-256 and its keyed form

The digest from which a signature's secret number is drawn: SHA-256 over blocks of 64 bytes, and
`hmacSha256`, the digest under a key.
-/

namespace NftExchange

namespace Sha256

/-- Eight words of 32 bits. -/
abbrev State := Vector UInt32 8

def initial : State :=
  #v[0x6a09e667, 0xbb67ae85, 0x3c6ef372, 0xa54ff53a, 0x510e527f, 0x9b05688c, 0x1f83d9ab, 0x5be0cd19]

/-- The constant of each of the sixty-four rounds. -/
def roundConstants : List UInt32 := [
  0x428a2f98, 0x71374491, 0xb5c0fbcf, 0xe9b5dba5, 0x3956c25b, 0x59f111f1, 0x923f82a4, 0xab1c5ed5,
  0xd807aa98, 0x12835b01, 0x243185be, 0x550c7dc3, 0x72be5d74, 0x80deb1fe, 0x9bdc06a7, 0xc19bf174,
  0xe49b69c1, 0xefbe4786, 0x0fc19dc6, 0x240ca1cc, 0x2de92c6f, 0x4a7484aa, 0x5cb0a9dc, 0x76f988da,
  0x983e5152, 0xa831c66d, 0xb00327c8, 0xbf597fc7, 0xc6e00bf3, 0xd5a79147, 0x06ca6351, 0x14292967,
  0x27b70a85, 0x2e1b2138, 0x4d2c6dfc, 0x53380d13, 0x650a7354, 0x766a0abb, 0x81c2c92e, 0x92722c85,
  0xa2bfe8a1, 0xa81a664b, 0xc24b8b70, 0xc76c51a3, 0xd192e819, 0xd6990624, 0xf40e3585, 0x106aa070,
  0x19a4c116, 0x1e376c08, 0x2748774c, 0x34b0bcb5, 0x391c0cb3, 0x4ed8aa4a, 0x5b9cca4f, 0x682e6ff3,
  0x748f82ee, 0x78a5636f, 0x84c87814, 0x8cc70208, 0x90befffa, 0xa4506ceb, 0xbef9a3f7, 0xc67178f2]

/-- Rotation towards the low end; `n` is between 1 and 31. -/
def rotateRight (a n : UInt32) : UInt32 := (a >>> n) ||| (a <<< (32 - n))

/-- One round with its constant and its word of the schedule. -/
def round (s : State) (constant word : UInt32) : State :=
  let a := s[0]
  let b := s[1]
  let c := s[2]
  let e := s[4]
  let mixE := rotateRight e 6 ^^^ rotateRight e 11 ^^^ rotateRight e 25
  let choice := (e &&& s[5]) ^^^ (~~~e &&& s[6])
  let first := s[7] + mixE + choice + constant + word
  let mixA := rotateRight a 2 ^^^ rotateRight a 13 ^^^ rotateRight a 22
  let majority := (a &&& b) ^^^ (a &&& c) ^^^ (b &&& c)
  #v[first + mixA + majority, a, b, c, s[3] + first, e, s[5], s[6]]

/-- The next word of the schedule, from the sixteen words before it, latest first. -/
def nextWord (latest : List UInt32) : UInt32 :=
  let word (k : Nat) : UInt32 := latest[k]?.getD 0
  let low := word 14
  let high := word 1
  let mixLow := rotateRight low 7 ^^^ rotateRight low 18 ^^^ (low >>> 3)
  let mixHigh := rotateRight high 17 ^^^ rotateRight high 19 ^^^ (high >>> 10)
  mixHigh + word 6 + mixLow + word 15

/-- The words of a schedule after those already there; `words` holds them latest first. -/
def extend : (count : Nat) → (words : List UInt32) → List UInt32
  | 0, words => words
  | count + 1, words => extend count (nextWord words :: words)

/-- The word that four bytes spell. -/
def wordOfBytes (bytes : Bytes) : UInt32 := .ofNat (Bytes.toNat bytes)

/-- The sixty-four words for a block of 64 bytes. -/
def schedule (block : Bytes) : List UInt32 :=
  let words := (List.range 16).map fun k => wordOfBytes ((block.drop (4 * k)).take 4)
  (extend 48 words.reverse).reverse

/-- Takes in one block. -/
def compress (s : State) (block : Bytes) : State :=
  let worked := (roundConstants.zip (schedule block)).foldl (fun t (k, w) => round t k w) s
  .ofFn fun i => s[i] + worked[i]

/-- The message filled up to a whole number of blocks; the last eight bytes hold its bit length. -/
def pad (message : Bytes) : Bytes :=
  let zeros := (119 - message.length % 64) % 64
  message ++ 0x80 :: List.replicate zeros 0 ++ Bytes.ofNat 8 (8 * message.length)

/-- Takes in `count` blocks. -/
def absorb : (count : Nat) → State → Bytes → State
  | 0, s, _ => s
  | count + 1, s, message => absorb count (compress s (message.take 64)) (message.drop 64)

end Sha256

/-- The SHA-256 digest of a byte string. -/
def sha256 (message : Bytes) : Bytes :=
  let padded := Sha256.pad message
  (Sha256.absorb (padded.length / 64) Sha256.initial padded).toList.flatMap fun word =>
    Bytes.ofNat 4 word.toNat

/-- The digest of a message under a key of at most 64 bytes. -/
def hmacSha256 (key message : Bytes) : Bytes :=
  let block := key ++ List.replicate (64 - key.length) 0
  let masked (mask : UInt8) : Bytes := block.map (· ^^^ mask)
  sha256 (masked 0x5c ++ sha256 (masked 0x36 ++ message))

end NftExchange
