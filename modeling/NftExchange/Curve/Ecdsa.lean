import NftExchange.Curve.Point
import NftExchange.Digest.Sha256
import NftExchange.Signature.Scheme

/-!
# Signatures on the curve

The scheme that the network uses: ECDSA on secp256k1 with the secret number of each signature
drawn deterministically from key and digest, and with `s` always in the lower half of the
scalars. A signature whose `s` is in the upper half recovers nothing.
-/

namespace NftExchange.Ecdsa

/-- The state of the deterministic generator: a key and a block, 32 bytes each. -/
structure Generator where
  key : Bytes
  block : Bytes

/-- Mixes data into the state. -/
def Generator.update (g : Generator) (data : Bytes) : Generator :=
  let key := hmacSha256 g.key (g.block ++ data)
  ⟨key, hmacSha256 key g.block⟩

/-- The generator seeded with a secret key and a digest. -/
def Generator.seeded (key : SecretKey) (digest : Hash) : Generator :=
  let seed := key.toBytes ++ digest.toBytes
  ((⟨List.replicate 32 0, List.replicate 32 1⟩ : Generator).update (0 :: seed)).update (1 :: seed)

/-- The first scalar that the generator draws within `attempts` blocks. -/
def Generator.draw? : (attempts : Nat) → Generator → Option Scalar
  | 0, _ => none
  | attempts + 1, g =>
    let block := hmacSha256 g.key g.block
    match Scalar.ofBytes? block with
    | some k => some k
    | none => draw? attempts ((⟨g.key, block⟩ : Generator).update [0])

/-- Signs a digest; a high `s` is replaced by its negative, which flips the parity. -/
def sign (key : SecretKey) (digest : Hash) : Option Signature := do
  let k ← (Generator.seeded key digest).draw? 256
  let (x, y) ← (Point.generator.smul k.toNat).toAffine?
  let r : Fin order := .ofNat order x.val
  let z : Fin order := .ofNat order digest.toNat
  let s := modularInverse (.ofNat order k.toNat) * (z + r * .ofNat order key.toNat)
  let odd := y.val % 2 == 1
  if s.val > order / 2 then
    return ⟨← Scalar.ofNat? r.val, ← Scalar.ofNat? (order - s.val), !odd⟩
  else
    return ⟨← Scalar.ofNat? r.val, ← Scalar.ofNat? s.val, odd⟩

/-- The coordinates of a point as a public key; the neutral point is none. -/
def toPublicKey? (p : Point) : Option PublicKey :=
  p.toAffine?.map fun (x, y) =>
    ⟨Bytes.ofNat 32 x.val ++ Bytes.ofNat 32 y.val, by simp⟩

/-- The public key of a secret key. -/
def publicKey (key : SecretKey) : PublicKey :=
  (toPublicKey? (Point.generator.smul key.toNat)).getD (.zero 64)

/-- The public key whose owner signed a digest. -/
def recover (digest : Hash) (sig : Signature) : Option PublicKey := do
  if sig.s.toNat > order / 2 then none
  else
    let p ← Point.lift? (FieldElement.ofNat sig.r.toNat) sig.odd
    let w := modularInverse (.ofNat order sig.r.toNat : Fin order)
    let z : Fin order := .ofNat order digest.toNat
    let s : Fin order := .ofNat order sig.s.toNat
    toPublicKey? ((Point.generator.smul (-(z * w)).val).add (p.smul (s * w).val))

instance : SignatureScheme where
  publicKey := publicKey
  sign := sign
  recover := recover

end NftExchange.Ecdsa
