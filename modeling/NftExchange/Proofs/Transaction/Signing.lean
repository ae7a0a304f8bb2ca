import NftExchange.Proofs.Signature.Guarded
import NftExchange.Proofs.Signature.Wire
import NftExchange.Proofs.Transaction.Reported
import NftExchange.Proofs.Transaction.RoundTrip

/-!
# Signing a transaction

The number `v` of a signed transaction is `2 * chain + 35 + recoveryId`. It has to fit in 64 bits,
so near `2^63` the parity of the signature decides whether a chain can be signed for; where it
fits, chain and parity are found in it again, and with them the signer.

* **`signatureNumber?_eq_some_iff`** — when the number exists;
* **`chainId_of_number`** and **`recoveryId_of_number`** — the number is split again;
* **`isSigned_signed`** — a signature that leads back to its key makes a signed transaction;
* **`sign_spec`** — when signing succeeds, and what the result is after every way back.
-/

namespace NftExchange

/-! ## The number of a signature

The number v of a signature holds the chain and the recovery number as 2c + 35 + ρ. It has to fit in
a word, which is what limits the chains that can be signed for; once it fits, both are found again
in it. -/

/-- A number is found exactly when it fits, and it is then the sum. -/
theorem Transaction.signatureNumber?_eq_some_iff {chain v : UInt64} {recoveryId : Nat} :
    Transaction.signatureNumber? chain recoveryId = some v
      ↔ v.toNat = 2 * chain.toNat + 35 + recoveryId :=
  UInt64.ofNat?_eq_some_iff

namespace SignedTransaction

variable {t : SignedTransaction} {chain : UInt64} {recoveryId : Nat}

private theorem toNat_sub_offset (hv : t.v.toNat = 2 * chain.toNat + 35 + recoveryId) :
    (t.v - 35).toNat = 2 * chain.toNat + recoveryId := by
  have hle : (35 : UInt64) ≤ t.v := by
    rw [UInt64.le_iff_toNat_le, hv]
    show 35 ≤ _
    omega
  rw [UInt64.toNat_sub_of_le _ _ hle, hv]
  show _ - 35 = _
  omega

/-- The chain is found again in the number. -/
theorem chainId_of_number (hv : t.v.toNat = 2 * chain.toNat + 35 + recoveryId)
    (hid : recoveryId ≤ 1) : t.chainId = some chain := by
  have hsmall : ¬ t.v < 35 := by
    rw [UInt64.lt_iff_toNat_lt, hv]
    show ¬ _ < 35
    omega
  -- the recovery identifier is at most one and falls to the division
  have hhalf : (t.v - 35) / 2 = chain := by
    rw [← UInt64.toNat_inj, UInt64.toNat_div, toNat_sub_offset hv]
    show _ / 2 = _
    omega
  rw [chainId, if_neg hsmall, hhalf]

/-- The recovery number is found again in the number. -/
theorem recoveryId_of_number (hv : t.v.toNat = 2 * chain.toNat + 35 + recoveryId)
    (hid : recoveryId ≤ 1) : ((t.v - 35) % 2).toNat = recoveryId := by
  rw [UInt64.toNat_mod, toNat_sub_offset hv]
  show _ % 2 = _
  omega

variable [SignatureScheme]

/-- What a key signs for a chain: the transaction is kept, its number holds the chain and the
recovery identifier, and the chain and the signer are found in it. -/
structure IsSigned (t : SignedTransaction) (tx : Transaction) (key : SecretKey) (chain : UInt64)
    (recoveryId : Nat) : Prop where
  body : t.toTransaction = tx
  number : t.v.toNat = 2 * chain.toNat + 35 + recoveryId
  chain : t.chainId = some chain
  sender : t.sender = .ok key.address

/-- A signature that leads back to its key makes a signed transaction. -/
theorem isSigned_signed {tx : Transaction} {key : SecretKey} {sig : Signature} {v : UInt64}
    (hv : v.toNat = 2 * chain.toNat + 35 + sig.recoveryId)
    (hrecover : sig.recover (tx.signingHash chain) = .ok key.address) :
    IsSigned ⟨tx, v, .ofNat 256 sig.r.toNat, .ofNat 256 sig.s.toNat⟩ tx key chain
      sig.recoveryId where
  body := rfl
  number := hv
  chain := chainId_of_number hv sig.recoveryId_le_one
  sender := by
    have hchain := chainId_of_number
      (t := ⟨tx, v, .ofNat 256 sig.r.toNat, .ofNat 256 sig.s.toNat⟩) hv sig.recoveryId_le_one
    have hid := recoveryId_of_number
      (t := ⟨tx, v, .ofNat 256 sig.r.toNat, .ofNat 256 sig.s.toNat⟩) hv sig.recoveryId_le_one
    simp only [sender, hchain, hid, sig.ofBytes_words, bind, Except.bind, hrecover]
    rfl

end SignedTransaction

namespace Transaction

section Lawful

variable [SignatureScheme]

/-- A transaction is signed when the number of its signature fits. -/
theorem sign_eq_ok {tx : Transaction} {key : SecretKey} {chain v : UInt64} {sig : Signature}
    (hsign : key.sign (tx.signingHash chain) = .ok sig)
    (hv : v.toNat = 2 * chain.toNat + 35 + sig.recoveryId) :
    tx.sign key chain = .ok ⟨tx, v, .ofNat 256 sig.r.toNat, .ofNat 256 sig.s.toNat⟩ := by
  simp only [sign, hsign, signatureNumber?_eq_some_iff.2 hv]

/-- A transaction is not signed when the number of its signature does not fit, and the error names
the chain. -/
theorem sign_eq_error {tx : Transaction} {key : SecretKey} {chain : UInt64} {sig : Signature}
    (hsign : key.sign (tx.signingHash chain) = .ok sig)
    (hbig : UInt64.size ≤ 2 * chain.toNat + 35 + sig.recoveryId) :
    tx.sign key chain = .error (.signing (.signing
      ("chain id " ++ toString chain.toNat ++ " does not fit an EIP-155 v value"))) := by
  simp only [sign, hsign, signatureNumber?, UInt64.ofNat?_eq_none_iff.2 hbig]

theorem toTransaction_of_sign {tx : Transaction} {key : SecretKey} {chain : UInt64}
    {t : SignedTransaction} (h : tx.sign key chain = .ok t) : t.toTransaction = tx := by
  rw [sign] at h
  split at h
  · cases h
  · split at h
    · cases h
      rfl
    · cases h

/-- The number fits and the transaction is signed, or it does not fit and the error says so. -/
theorem sign_cases [LawfulSignatureScheme] (tx : Transaction) (key : SecretKey) (chain : UInt64) :
    ∃ sig, key.sign (tx.signingHash chain) = .ok sig
      ∧ ((∃ t, tx.sign key chain = .ok t ∧ t.IsSigned tx key chain sig.recoveryId)
        ∨ UInt64.size ≤ 2 * chain.toNat + 35 + sig.recoveryId
          ∧ tx.sign key chain = .error (.signing (.signing
            ("chain id " ++ toString chain.toNat ++ " does not fit an EIP-155 v value")))) := by
  obtain ⟨sig, hsign, hrecover⟩ := key.recover_sign (tx.signingHash chain)
  refine ⟨sig, hsign, ?_⟩
  rcases Nat.lt_or_ge (2 * chain.toNat + 35 + sig.recoveryId) UInt64.size with hfits | hbig
  · have hv := UInt64.toNat_ofNat_of_lt' hfits
    exact .inl ⟨_, sign_eq_ok hsign hv, SignedTransaction.isSigned_signed hv hrecover⟩
  · exact .inr ⟨hbig, sign_eq_error hsign hbig⟩

/-- Far below the limit every transaction can be signed. -/
theorem exists_isSigned_of_lt [LawfulSignatureScheme] (tx : Transaction) (key : SecretKey)
    {chain : UInt64} (h : chain.toNat < 2 ^ 62) :
    ∃ t recoveryId, tx.sign key chain = .ok t ∧ t.IsSigned tx key chain recoveryId := by
  obtain ⟨sig, -, ⟨t, hsign, hsigned⟩ | ⟨hbig, -⟩⟩ := tx.sign_cases key chain
  · exact ⟨t, sig.recoveryId, hsign, hsigned⟩
  · have hid := sig.recoveryId_le_one
    have hsize : UInt64.size = 2 ^ 64 := rfl
    omega

/-- A key signs for a chain exactly if the number fits in 64 bits; otherwise the error is that of a
signature. What is signed keeps the transaction and leads to the chain and to the account of the
key, also after it was sent as bytes that 64 bits can count and after it was reported. -/
theorem sign_spec [LawfulSignatureScheme] (tx : Transaction) (key : SecretKey) (chain : UInt64) :
    ∃ sig, key.sign (tx.signingHash chain) = .ok sig ∧ sig.recoveryId ≤ 1
      ∧ ((∃ t, tx.sign key chain = .ok t)
        ↔ 2 * chain.toNat + 35 + sig.recoveryId ≤ UInt64.size - 1)
      ∧ (∀ e, tx.sign key chain = .error e → e = .signing (.signing
        ("chain id " ++ toString chain.toNat ++ " does not fit an EIP-155 v value")))
      ∧ ∀ t, tx.sign key chain = .ok t →
        t.IsSigned tx key chain sig.recoveryId
          ∧ (t.raw.length < UInt64.size → ∃ u, SignedTransaction.decode t.raw = .ok u
            ∧ u.IsSigned tx key chain sig.recoveryId)
          ∧ ∀ method, ∃ u, (ReportedTransaction.ofSigned t).toSigned method = .ok u
            ∧ u.IsSigned tx key chain sig.recoveryId := by
  obtain ⟨sig, hsign, hrecover⟩ := key.recover_sign (tx.signingHash chain)
  refine ⟨sig, hsign, sig.recoveryId_le_one, ?_⟩
  have hsize : 0 < UInt64.size := by decide
  -- which side the number falls on decides everything else
  rcases Nat.lt_or_ge (2 * chain.toNat + 35 + sig.recoveryId) UInt64.size with hfits | hbig
  · have hv := UInt64.toNat_ofNat_of_lt' hfits
    have hsigned := SignedTransaction.isSigned_signed hv hrecover
    rw [sign_eq_ok hsign hv]
    refine ⟨⟨fun _ => by omega, fun _ => ⟨_, rfl⟩⟩, nofun, fun t ht => ?_⟩
    cases ht
    refine ⟨hsigned, fun hraw => ?_, fun method => ?_⟩
    · have hitems := Nat.lt_of_le_of_lt (SignedTransaction.length_signedItems_le _) hraw
      exact ⟨_, SignedTransaction.decode_signedItems hitems, hsigned⟩
    · exact ⟨_, ReportedTransaction.toSigned_ofSigned (fun h => sig.r.word_ne_zero h.1) method,
        hsigned⟩
  · rw [sign_eq_error hsign hbig]
    refine ⟨⟨fun ⟨t, h⟩ => ?_, fun h => ?_⟩, fun e he => ?_, nofun⟩
    · cases h
    · omega
    · exact (Except.error.inj he).symm

end Lawful

/-- The signature of the example. -/
def eip155Signature : Signature where
  r := ⟨0x28ef61340bd939bc2195fe537567866003e1a15d3c71ff63e1590620aa636276, by decide, by decide⟩
  s := ⟨0x67cbe9d8997f761aecb703304b3800ccf555c9f3dc64214b297fb1966a3b6d83, by decide, by decide⟩
  odd := false

/-- The digest that the standard gives for its example. -/
theorem signingHash_eip155Example : eip155Example.signingHash 1
    = .ofNat 32 0xdaf5a779ae972f972197303d7b574746c7ef83eadac0f2791ad23db92e4c8e53 := by
  decide +kernel

/-- The example is signed on the curve, and the signature leads back to the key. -/
theorem sign_eip155Example :
    @SecretKey.sign Guarded.scheme Guarded.key (eip155Example.signingHash 1)
      = .ok eip155Signature := by
  rw [signingHash_eip155Example]
  exact Guarded.sign_eq_ok (by decide +kernel) (by decide) (by decide +kernel)

/-- The example is signed for the chain 1 as EIP-155 has it, and so it is found in its bytes. -/
theorem sign_spec_eip155Example :
    letI := Guarded.scheme
    eip155Example.sign Guarded.key 1 = .ok .eip155Example
      ∧ SignedTransaction.eip155Example.IsSigned eip155Example Guarded.key 1 0
      ∧ ∃ u, SignedTransaction.decode SignedTransaction.eip155Example.raw = .ok u
        ∧ u.IsSigned eip155Example Guarded.key 1 0 := by
  have hok : @sign Guarded.scheme eip155Example Guarded.key 1 = .ok .eip155Example :=
    @sign_eq_ok Guarded.scheme _ _ _ 37 _ sign_eip155Example rfl
  obtain ⟨sig, hsign, -, -, -, hsigned⟩ :=
    @sign_spec Guarded.scheme Guarded.lawful eip155Example Guarded.key 1
  have hsig : eip155Signature = sig := Except.ok.inj (sign_eip155Example.symm.trans hsign)
  rw [← hsig] at hsigned
  obtain ⟨hhere, hdecoded, -⟩ := hsigned _ hok
  exact ⟨hok, hhere, hdecoded (by decide +kernel)⟩

end Transaction

end NftExchange
