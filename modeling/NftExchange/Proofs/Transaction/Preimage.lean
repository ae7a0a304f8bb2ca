import NftExchange.Authorization.Role
import NftExchange.Proofs.Json.Numerals
import NftExchange.Proofs.Transaction.RoundTrip

/-!
# What a key signs

A key signs the digest of a text or the digest of a transaction for a chain. Both digests are made
of bytes that say which of the two it is and what it says: a text stands in an envelope that starts
with `0x19`, behind its own length, and a transaction is a list, whose first byte is another one.
So whoever finds two requests with the same digest has found two byte strings that Keccak-256 does
not tell apart.

* **`signingPayload_inj`** — a payload is that of one transaction and one chain;
* **`textPreimage_inj`** — an envelope holds one text;
* **`textPreimage_ne_signingPayload`** — and it is never the payload of a transaction;
* **`preimages_apart`** — all of it, and what it means for digests.
-/

namespace NftExchange

/-! ## Texts

The text that is signed begins with a fixed envelope and its length in decimal. The digits of two
lengths could run into the text behind them, so that different texts have different preimages takes
an argument about lengths. -/

/-- A larger number has no fewer digits. -/
theorem Decimal.length_ofNat_mono {m n : Nat} (h : m ≤ n) :
    (ofNat m).length ≤ (ofNat n).length := by
  induction n using Nat.strong_induction_on generalizing m with
  | _ n ih =>
    rcases Nat.lt_or_ge m 10 with hsmall | hlarge
    · rw [ofNat_of_lt hsmall]
      exact List.length_pos_iff.2 (ofNat_ne_nil n)
    · -- both numbers lose their last digit
      have hprev := ih (n / 10) (by omega) (Nat.div_le_div_right h)
      rw [ofNat_of_le hlarge, ofNat_of_le (Nat.le_trans hlarge h)]
      simp only [List.length_append, List.length_singleton]
      omega

theorem textPreimage_eq (text : Bytes) :
    textPreimage text = Bytes.ofText textEnvelope ++ (Decimal.ofNat text.length ++ text) := by
  unfold textPreimage Decimal.ofNat
  rw [Bytes.ofText_append, List.append_assoc]

/-- Two texts whose lengths have the same number of digits are split alike, and a text whose length
has more digits is longer itself. -/
theorem textPreimage_inj {text other : Bytes} (h : textPreimage text = textPreimage other) :
    text = other := by
  rw [textPreimage_eq, textPreimage_eq] at h
  have hrest := List.append_cancel_left h
  have htotal : (Decimal.ofNat text.length).length + text.length
      = (Decimal.ofNat other.length).length + other.length := by
    simpa using congrArg List.length hrest
  -- a longer text has no fewer digits in front, so equal totals mean equal lengths
  have hlength : text.length = other.length := by
    rcases Nat.lt_trichotomy text.length other.length with hlt | heq | hgt
    · have hmono := Decimal.length_ofNat_mono (Nat.le_of_lt hlt)
      omega
    · exact heq
    · have hmono := Decimal.length_ofNat_mono (Nat.le_of_lt hgt)
      omega
  exact (List.append_inj' hrest hlength).2

/-! ## Transactions

What is signed of a transaction is the encoding of a transaction, with the chain in place of the
signature. Its first byte is that of a list, which no text begins with. -/

/-- Neither a short nor a long list starts with the first byte of the envelope. -/
theorem Rlp.head?_encodeList_ne (items : List Bytes) : (encodeList items).head? ≠ some 0x19 := by
  have hfirst {n : Nat} (hn : n % 256 ≠ 0x19) : some (UInt8.ofNat n) ≠ some 0x19 := by
    intro heq
    apply hn
    simpa using congrArg UInt8.toNat (Option.some.inj heq)
  rw [encodeList]
  rcases Nat.lt_or_ge 55 items.flatten.length with hlong | hshort
  · -- a length of at most 32 bytes moves the first byte by no more than 32
    have hdigits : (Bytes.minimal items.flatten.length).length ≤ 32 :=
      Nat.le_trans (List.dropWhile_sublist _).length_le
        (Nat.le_of_eq (Bytes.length_ofNat 32 items.flatten.length))
    rw [header_long hlong, List.cons_append, List.head?_cons]
    apply hfirst
    omega
  · rw [header_short hshort, List.singleton_append, List.head?_cons]
    apply hfirst
    omega

namespace Transaction

/-- The chain stands where a signed transaction has its number, and zeros where it has the halves
of its signature. -/
theorem signingPayload_eq_raw (tx : Transaction) (chain : UInt64) :
    tx.signingPayload chain = SignedTransaction.raw ⟨tx, chain, 0, 0⟩ := rfl

/-- Different transactions or chains have different payloads. -/
theorem signingPayload_inj {tx other : Transaction} {chain otherChain : UInt64}
    (hdata : tx.data.length < UInt64.size) (hother : other.data.length < UInt64.size)
    (h : tx.signingPayload chain = other.signingPayload otherChain) :
    tx = other ∧ chain = otherChain := by
  rw [signingPayload_eq_raw, signingPayload_eq_raw] at h
  have hsigned := SignedTransaction.raw_inj hdata hother h
  injection hsigned with htx hchain
  exact ⟨htx, hchain⟩

/-- No text has the preimage of a transaction. -/
theorem textPreimage_ne_signingPayload (text : Bytes) (tx : Transaction) (chain : UInt64) :
    textPreimage text ≠ tx.signingPayload chain := by
  intro h
  apply Rlp.head?_encodeList_ne
  rw [← signingPayload, ← h, textPreimage_eq]
  rfl

end Transaction

/-! ## Digests

Equal digests come from equal preimages or are a collision of the hash, and preimages of different
kinds are never equal. -/

/-- Two byte strings that Keccak-256 does not tell apart. -/
def Keccak.Collide (a b : Bytes) : Prop := a ≠ b ∧ keccak256 a = keccak256 b

/-- What is hashed when a key signs says what is signed: one transaction for one chain, whose data
64 bits can count, or one text, and never both. So the digest of a message is that of a transaction,
or of another message's bytes, and the digest of a transaction that of another one or for another
chain, only where Keccak-256 has a collision. -/
theorem Transaction.preimages_apart :
    (∀ (tx other : Transaction) (chain otherChain : UInt64), tx.data.length < UInt64.size →
        other.data.length < UInt64.size →
        tx.signingPayload chain = other.signingPayload otherChain →
        tx = other ∧ chain = otherChain)
      ∧ (∀ text other : Bytes, textPreimage text = textPreimage other → text = other)
      ∧ (∀ (text : Bytes) (tx : Transaction) (chain : UInt64),
        textPreimage text ≠ tx.signingPayload chain)
      ∧ (∀ (role : Role) (m : Message role) (tx : Transaction) (chain : UInt64),
        m.digest = tx.signingHash chain →
        Keccak.Collide (textPreimage m.canonicalBytes) (tx.signingPayload chain))
      ∧ (∀ (role role' : Role) (m : Message role) (n : Message role'), m.digest = n.digest →
        m.canonicalBytes = n.canonicalBytes
          ∨ Keccak.Collide (textPreimage m.canonicalBytes) (textPreimage n.canonicalBytes))
      ∧ ∀ (tx other : Transaction) (chain otherChain : UInt64), tx.data.length < UInt64.size →
        other.data.length < UInt64.size →
        tx.signingHash chain = other.signingHash otherChain →
        (tx = other ∧ chain = otherChain)
          ∨ Keccak.Collide (tx.signingPayload chain) (other.signingPayload otherChain) := by
  refine ⟨fun _ _ _ _ => signingPayload_inj, fun _ _ => textPreimage_inj,
    textPreimage_ne_signingPayload, ?_, ?_, ?_⟩
  · intro role m tx chain h
    exact ⟨textPreimage_ne_signingPayload _ _ _, h⟩
  · -- equal digests of different preimages are a collision by definition
    intro role role' m n h
    by_cases hbytes : textPreimage m.canonicalBytes = textPreimage n.canonicalBytes
    · exact .inl (textPreimage_inj hbytes)
    · exact .inr ⟨hbytes, h⟩
  · intro tx other chain otherChain hdata hother h
    by_cases hbytes : tx.signingPayload chain = other.signingPayload otherChain
    · exact .inl (signingPayload_inj hdata hother hbytes)
    · exact .inr ⟨hbytes, h⟩

/-- The transaction that EIP-155 signs as an example has another payload for every other chain. -/
theorem Transaction.preimages_apart_eip155Example :
    eip155Example.data.length < UInt64.size
      ∧ ∀ chain : UInt64, chain ≠ 1 →
        eip155Example.signingPayload chain ≠ eip155Example.signingPayload 1 := by
  have hdata : eip155Example.data.length < UInt64.size := by decide
  refine ⟨hdata, fun chain hchain h => hchain ?_⟩
  obtain ⟨hpayload, -⟩ := preimages_apart
  exact (hpayload _ _ _ _ hdata hdata h).2

end NftExchange
