import NftExchange.Bytes

/-!
# Scalars of the curve

The curve secp256k1 has a group of prime order `order`. A `Scalar` is a number from `1` to
`order - 1`: a secret key is one, and so is each half of a signature.
-/

namespace NftExchange

/-- The number of points of the group. -/
abbrev order : Nat := 0xfffffffffffffffffffffffffffffffebaaedce6af48a03bbfd25e8cd0364141

/-- A number from `1` to `order - 1`. -/
structure Scalar where
  toNat : Nat
  pos : 0 < toNat
  lt_order : toNat < order
deriving DecidableEq

namespace Scalar

@[ext] theorem ext {a b : Scalar} (h : a.toNat = b.toNat) : a = b := by
  cases a; cases b; cases h; rfl

/-- The scalar `n`, if it is one. -/
def ofNat? (n : Nat) : Option Scalar :=
  if h : 0 < n ∧ n < order then some ⟨n, h.1, h.2⟩ else none

@[simp] theorem ofNat?_toNat (a : Scalar) : ofNat? a.toNat = some a := by
  simp [ofNat?, a.pos, a.lt_order]

theorem toNat_lt (a : Scalar) : a.toNat < Bytes.capacity 32 :=
  Nat.lt_trans a.lt_order (by decide)

/-- The 32 big-endian bytes of a scalar. -/
def toBytes (a : Scalar) : Bytes := Bytes.ofNat 32 a.toNat

@[simp] theorem length_toBytes (a : Scalar) : a.toBytes.length = 32 := Bytes.length_ofNat 32 _

/-- The scalar that big-endian bytes spell, if it is one. -/
def ofBytes? (bytes : Bytes) : Option Scalar := ofNat? (Bytes.toNat bytes)

@[simp] theorem ofBytes?_toBytes (a : Scalar) : ofBytes? a.toBytes = some a := by
  rw [ofBytes?, toBytes, Bytes.toNat_ofNat a.toNat_lt, ofNat?_toNat]

end Scalar

end NftExchange
