import NftExchange.Digest.Keccak
import NftExchange.Signature.Basic

/-!
# Signature schemes

The rest of the library signs digests and recovers signers through a `SignatureScheme`: three
functions on secret keys, digests and signatures. `LawfulSignatureScheme` is what a client relies
on: every key can sign every digest, and recovery finds the key that signed. Whatever is said of
wallets, transactions and the node holds of every lawful scheme.
-/

namespace NftExchange

/-- The two coordinates of a public key, 32 bytes each. -/
abbrev PublicKey := FixedBytes 64

/-- A way to sign digests so that the signer's key can be recovered. -/
class SignatureScheme where
  /-- The public key of a secret key. -/
  publicKey : SecretKey → PublicKey
  /-- The signature of a digest under a key. -/
  sign : SecretKey → Hash → Option Signature
  /-- The public key whose owner signed a digest. -/
  recover : Hash → Signature → Option PublicKey

/-- Signing never fails, and the signer's key is recovered from digest and signature. -/
class LawfulSignatureScheme [SignatureScheme] : Prop where
  recover_sign (key : SecretKey) (digest : Hash) :
    ∃ sig, SignatureScheme.sign key digest = some sig ∧
      SignatureScheme.recover digest sig = some (SignatureScheme.publicKey key)

/-- The account of a public key: the last twenty bytes of its digest. -/
def PublicKey.address (key : PublicKey) : Address :=
  ⟨(keccak256 key.toBytes).toBytes.drop 12, by simp [FixedBytes.length_toBytes]⟩

variable [SignatureScheme]

/-- The account that a secret key controls. -/
def SecretKey.address (key : SecretKey) : Address :=
  PublicKey.address (SignatureScheme.publicKey key)

/-- Signs a digest. -/
def SecretKey.sign (key : SecretKey) (digest : Hash) : Except CryptoError Signature :=
  match SignatureScheme.sign key digest with
  | some sig => .ok sig
  | none => .error (.signing "signature error")

/-- The account whose owner signed a digest. -/
def Signature.recover (sig : Signature) (digest : Hash) : Except CryptoError Address :=
  match SignatureScheme.recover digest sig with
  | some key => .ok (PublicKey.address key)
  | none => .error .recovery

/-- Under a lawful scheme a signature leads back to the account of its key. -/
theorem SecretKey.recover_sign [LawfulSignatureScheme] (key : SecretKey) (digest : Hash) :
    ∃ sig, key.sign digest = .ok sig ∧ sig.recover digest = .ok key.address := by
  obtain ⟨sig, hsign, hrecover⟩ := LawfulSignatureScheme.recover_sign key digest
  exact ⟨sig, by simp [SecretKey.sign, hsign],
    by simp [Signature.recover, hrecover, SecretKey.address]⟩

end NftExchange
