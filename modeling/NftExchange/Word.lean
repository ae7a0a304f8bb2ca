import NftExchange.Bytes

/-!
# Words

The program counts in two widths: 64-bit numbers (`UInt64`) for heights, nonces and identifiers,
and 256-bit words (`UInt256`) for amounts, prices and the halves of a signature. A number that
does not fit is refused by `ofNat?`; where a sum has to go on, it stops at the largest word.
-/

namespace NftExchange

/-- An unsigned 256-bit word. -/
abbrev UInt256 := BitVec 256

namespace UInt256

theorem toNat_lt (a : UInt256) : a.toNat < Bytes.capacity 32 := a.isLt

/-- The word `n`, if it fits. -/
def ofNat? (n : Nat) : Option UInt256 :=
  if n < Bytes.capacity 32 then some (BitVec.ofNat 256 n) else none

@[simp] theorem ofNat?_toNat (a : UInt256) : ofNat? a.toNat = some a := by
  simp [ofNat?, toNat_lt]

/-- The sum, or the largest word if the sum does not fit. -/
def saturatingAdd (a b : UInt256) : UInt256 :=
  (ofNat? (a.toNat + b.toNat)).getD (BitVec.allOnes 256)

/-- The 32 big-endian bytes of a word. -/
def toBytes (a : UInt256) : FixedBytes 32 := .ofNat 32 a.toNat

/-- The word that 32 big-endian bytes spell. -/
def ofBytes (bytes : FixedBytes 32) : UInt256 := BitVec.ofNat 256 bytes.toNat

@[simp] theorem ofBytes_toBytes (a : UInt256) : ofBytes (toBytes a) = a := by
  simp [ofBytes, toBytes, FixedBytes.toNat, FixedBytes.ofNat, Bytes.toNat_ofNat a.toNat_lt]

end UInt256

end NftExchange

namespace UInt64

/-- The number `n` as 64 bits, if it fits. -/
def ofNat? (n : Nat) : Option UInt64 := if n < size then some (.ofNat n) else none

@[simp] theorem ofNat?_toNat (a : UInt64) : ofNat? a.toNat = some a := by
  simp [ofNat?, a.toNat_lt_size]

/-- The sum, or the largest 64-bit number if the sum does not fit. -/
def saturatingAdd (a b : UInt64) : UInt64 := (ofNat? (a.toNat + b.toNat)).getD (.ofNat (size - 1))

end UInt64
