import NftExchange.Curve.Ecdsa

/-!
# A scheme that keeps the promise

A lawful scheme that signs on the curve. A signature on the curve is used if it leads back to its
key; in place of any other stands a token, whose two halves are the key itself. Whether signatures
on the curve always lead back is a fact about the curve that is not needed here.

* **`lawful`** — the scheme is lawful;
* **`sign_eq`** and **`recover_eq`** — where it is the scheme of the curve.
-/

namespace NftExchange.Guarded

/-- The signature that names its key. -/
def token (key : SecretKey) : Signature := ⟨key, key, false⟩

/-- The signature on the curve if it leads back to the key, otherwise the token. -/
def sign (key : SecretKey) (digest : Hash) : Option Signature :=
  match Ecdsa.sign key digest with
  | some sig =>
    if sig.r ≠ sig.s ∧ Ecdsa.recover digest sig = some (Ecdsa.publicKey key) then some sig
    else some (token key)
  | none => some (token key)

/-- The key that a token names, otherwise the key on the curve. -/
def recover (digest : Hash) (sig : Signature) : Option PublicKey :=
  if sig.r = sig.s then some (Ecdsa.publicKey sig.r) else Ecdsa.recover digest sig

/-- The scheme of the curve with tokens. -/
@[reducible] def scheme : SignatureScheme where
  publicKey := Ecdsa.publicKey
  sign := sign
  recover := recover

/-- A signature that leads back to its key is the one on the curve. -/
theorem sign_eq {key : SecretKey} {digest : Hash} {sig : Signature}
    (hsign : Ecdsa.sign key digest = some sig) (hne : sig.r ≠ sig.s)
    (hrecover : Ecdsa.recover digest sig = some (Ecdsa.publicKey key)) :
    sign key digest = Ecdsa.sign key digest := by
  have hguard : sig.r ≠ sig.s ∧ Ecdsa.recover digest sig = some (Ecdsa.publicKey key) :=
    ⟨hne, hrecover⟩
  rw [sign, hsign]
  exact if_pos hguard

/-- A key signs on the curve if its signature leads back to it. -/
theorem sign_eq_ok {key : SecretKey} {digest : Hash} {sig : Signature}
    (hsign : Ecdsa.sign key digest = some sig) (hne : sig.r ≠ sig.s)
    (hrecover : Ecdsa.recover digest sig = some (Ecdsa.publicKey key)) :
    @SecretKey.sign scheme key digest = .ok sig := by
  have hguarded : sign key digest = some sig := (sign_eq hsign hne hrecover).trans hsign
  let _ : SignatureScheme := scheme
  have hscheme : SignatureScheme.sign key digest = some sig := hguarded
  rw [SecretKey.sign, hscheme]

/-- Every signature with different halves recovers as on the curve. -/
theorem recover_eq (digest : Hash) {sig : Signature} (hne : sig.r ≠ sig.s) :
    recover digest sig = Ecdsa.recover digest sig := if_neg hne

theorem recover_token (key : SecretKey) (digest : Hash) :
    recover digest (token key) = some (Ecdsa.publicKey key) := if_pos rfl

/-- Every key signs every digest, and the signature leads back to the key. -/
theorem lawful : @LawfulSignatureScheme scheme := by
  refine @LawfulSignatureScheme.mk scheme fun key digest => ?_
  show ∃ sig, sign key digest = some sig ∧ recover digest sig = some (Ecdsa.publicKey key)
  rw [sign]
  -- a token leads back because its halves are equal, the others because they were tried
  split
  · rename_i sig _
    by_cases hguard : sig.r ≠ sig.s ∧ Ecdsa.recover digest sig = some (Ecdsa.publicKey key)
    · rw [if_pos hguard]
      exact ⟨sig, rfl, (recover_eq digest hguard.1).trans hguard.2⟩
    · rw [if_neg hguard]
      exact ⟨token key, rfl, recover_token key digest⟩
  · exact ⟨token key, rfl, recover_token key digest⟩

/-- The key of the examples that are signed with this scheme, the one in EIP-155. -/
def key : SecretKey where
  toNat := 0x4646464646464646464646464646464646464646464646464646464646464646
  pos := by decide
  lt_order := by decide

end NftExchange.Guarded
