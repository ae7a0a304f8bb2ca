import NftExchange.Proofs.Payload.Transport
import NftExchange.Proofs.Signature.Guarded
import NftExchange.Proofs.Signature.Wire

/-!
# The signer of an authorization

Whoever holds an authorization finds the account that signed it. The text of the signature is read
back (`Signature.ofHex_toHex`) and transport keeps message and signature, so the check of a wallet's
authorization depends on the expected account alone, wherever the authorization comes from.

* **`isSignedBy_of_signer`** — the check passes for the signer and for nobody else;
* **`signer_authorize`** — a wallet is the signer of what it authorizes;
* **`authorize_spec`** — the authorization of a wallet, fresh, read from its transported text, and
  read from the data of a payload.
-/

namespace NftExchange

section Lawful

variable [SignatureScheme] {role : Role}

namespace Authorization

/-- The check passes for the account `signer`, and for any other account it names both. -/
structure IsSignedBy (a : Authorization role) (signer : Address) : Prop where
  accepts : a.verify signer = .ok ()
  rejects : ∀ other, other ≠ signer → a.verify other = .error (.signerMismatch other signer)

/-- The check passes for the signer and for nobody else. -/
theorem isSignedBy_of_signer {a : Authorization role} {account : Address}
    (h : a.signer = .ok account) : a.IsSignedBy account where
  accepts := by
    simp only [verify, h, bind, Except.bind, if_true]
    rfl
  rejects other hother := by
    simp only [verify, h, bind, Except.bind]
    exact if_neg fun heq => hother heq.symm

/-- The signer is the account that the signature recovers. -/
theorem signer_mk {m : Message role} {sig : Signature} {account : Address}
    (h : sig.recover m.digest = .ok account) : signer ⟨m, sig.toHex⟩ = .ok account := by
  simp only [signer, signature, sig.ofHex_toHex, Except.mapError, bind, Except.bind, h]

end Authorization

namespace Wallet

/-- What a wallet hands out is the message with the text of the signature over it. -/
theorem authorize_eq_ok {w : Wallet} {m : Message role} {sig : Signature}
    (hsign : w.key.sign m.digest = .ok sig) : w.authorize m = .ok ⟨m, sig.toHex⟩ := by
  simp only [authorize, signMessage, hsign, Except.mapError, bind, Except.bind]
  rfl

variable [LawfulSignatureScheme]

/-- A wallet authorizes every message, and is the signer of what it authorizes. -/
theorem signer_authorize (w : Wallet) (m : Message role) :
    ∃ sig : Signature, w.authorize m = .ok ⟨m, sig.toHex⟩
      ∧ Authorization.signer ⟨m, sig.toHex⟩ = .ok w.address := by
  obtain ⟨sig, hsign, hrecover⟩ := w.key.recover_sign m.digest
  exact ⟨sig, authorize_eq_ok hsign, Authorization.signer_mk hrecover⟩

/-- A wallet authorizes every message. The authorization holds the message and a signature of the
right shape, and its signer is the wallet and nobody else: in the authorization itself, in the one
that is read from its transported text, and in the one that is read from the data of any payload
that passes the check and embeds it. -/
theorem authorize_spec (w : Wallet) (m : Message role) :
    ∃ a, w.authorize m = .ok a ∧ a.message = m ∧ Signature.IsWireText a.sig
      ∧ a.IsSignedBy w.address
      ∧ (∃ b, Authorization.ofJson role a.toJson = .ok b ∧ b.IsSignedBy w.address)
      ∧ ∀ p : Payload, p.validate = .ok () → p.authorization? role = some a →
        ∃ data q b, p.toData = .ok data ∧ Payload.ofData data = .ok q
          ∧ q.authorization? role = some b ∧ b.IsSignedBy w.address := by
  obtain ⟨sig, hauthorize, hsigner⟩ := w.signer_authorize m
  have hsigned := Authorization.isSignedBy_of_signer hsigner
  refine ⟨_, hauthorize, rfl, sig.isWireText_toHex, hsigned, ?_, fun p hvalidate hembeds => ?_⟩
  · exact ⟨_, Authorization.ofJson_toJson _, hsigned⟩
  · exact ⟨_, p, _, Payload.toData_of_validate hvalidate, p.ofData_text, hembeds, hsigned⟩

end Wallet

end Lawful

/-- A listing. -/
def Message.listing : Message .seller1 :=
  .seller1 "0x38D7EA4C68000" "0x0000000000000000000000000000000000000003"
    "0x8b07aff2327a3B7e2876D899caFac99f7AE16B10" "0x677"

/-- The signature of the listing. -/
def Signature.listing : Signature where
  r := ⟨0x0b76f0c27fab4f25bcea4356e01f6c1ecb098fd9824f7c44e6af1b97bbdaf301, by decide, by decide⟩
  s := ⟨0x34c1f05d19b97f865821cf7a9c4f398c7503ca17763df6acc437d261934c34b5, by decide, by decide⟩
  odd := false

namespace Wallet

theorem digest_listing : Message.listing.digest
    = .ofNat 32 0xd33c1e1b7f9e50c0192590182b879182479bfdfe287ddbde31f0033ad1297e9b := by
  decide +kernel

/-- The listing is signed on the curve, and the signature leads back to the key. -/
theorem sign_listing :
    @SecretKey.sign Guarded.scheme Guarded.key Message.listing.digest = .ok .listing := by
  rw [digest_listing]
  exact Guarded.sign_eq_ok (by decide +kernel) (by decide) (by decide +kernel)

/-- The signature of the examples is by the account of their key. -/
theorem signer_listing :
    letI := Guarded.scheme
    Authorization.signer ⟨.listing, Signature.listing.toHex⟩ = .ok Guarded.key.address := by
  obtain ⟨sig, hsign, hrecover⟩ :=
    @SecretKey.recover_sign Guarded.scheme Guarded.lawful Guarded.key Message.listing.digest
  obtain rfl : Signature.listing = sig := Except.ok.inj (sign_listing.symm.trans hsign)
  exact @Authorization.signer_mk Guarded.scheme _ _ _ _ hrecover

/-- The listing is authorized on the curve, and the payload of a sale carries it to its reader. -/
theorem authorize_spec_listing :
    letI := Guarded.scheme
    let wallet : Wallet := ⟨Guarded.key⟩
    let a : Authorization .seller1 := ⟨.listing, Signature.listing.toHex⟩
    let p : Payload := { typeCode := 15, version := "v0.0.1", seller1 := some a }
    wallet.authorize .listing = .ok a ∧ a.IsSignedBy wallet.address
      ∧ ∃ data q b, p.toData = .ok data ∧ Payload.ofData data = .ok q
        ∧ q.seller1 = some b ∧ b.IsSignedBy wallet.address := by
  intro wallet a p
  obtain ⟨b, hauthorize, -, -, hsigned, -, hembedded⟩ :=
    @authorize_spec Guarded.scheme _ Guarded.lawful ⟨Guarded.key⟩ Message.listing
  have hok : @authorize Guarded.scheme _ ⟨Guarded.key⟩ Message.listing = .ok a :=
    @authorize_eq_ok Guarded.scheme _ ⟨Guarded.key⟩ _ _ sign_listing
  have hb : b = a := Except.ok.inj (hauthorize.symm.trans hok)
  rw [hb] at hsigned hembedded
  exact ⟨hok, hsigned, hembedded p rfl rfl⟩

end Wallet

end NftExchange
