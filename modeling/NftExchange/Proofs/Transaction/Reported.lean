import NftExchange.Proofs.BigEndian
import NftExchange.Proofs.Except
import NftExchange.Proofs.Hex
import NftExchange.Proofs.Json.Parsed
import NftExchange.Proofs.Transaction.RoundTrip
import NftExchange.Transaction.Reported

/-!
# The reported form of a signed transaction

The reported form keeps every field of a signed transaction: numbers of 64 bits are widened to
words and fit again, and the data are marked digits.

* **`toSigned_eq_ok_iff`** — what is read from a report is what was reported, but for the spelling
  of the data and what a report adds;
* **`toSigned_ofSigned`** — a transaction with a signature is read from its reported form;
* **`readsBack`**, **`returns`** and **`readable`** — the reported form is read from its own text,
  directly and through a value;
* **`toSigned_spec`** — all of this, for one transaction.
-/

namespace NftExchange

open Except (bind_eq_ok_iff mapError_eq_ok_iff)

/-- A signature that was read has no zero in its first half. -/
theorem Signature.toNat_ne_zero_of_ofBytes {bytes : Bytes} {sig : Signature}
    (h : ofBytes bytes = .ok sig) : Bytes.toNat (bytes.take 32) ≠ 0 := by
  intro hzero
  -- zero is out of the range of the curve
  have hnone : Scalar.ofBytes? (bytes.take 32) = none := by
    rw [Scalar.ofBytes?, hzero]
    rfl
  rw [ofBytes] at h
  split at h
  · split at h
    · cases h
    · rw [hnone] at h
      cases h
  · cases h

/-- A transaction that leads to a signer has a signature. -/
theorem SignedTransaction.r_ne_zero_of_sender [SignatureScheme] {t : SignedTransaction}
    {account : Address} (h : t.sender = .ok account) : t.r ≠ 0 := by
  intro hzero
  rw [sender] at h
  split at h
  · cases h
  · obtain ⟨sig, hsig, -⟩ := bind_eq_ok_iff.1 (mapError_eq_ok_iff.1 h)
    refine Signature.toNat_ne_zero_of_ofBytes hsig ?_
    have hlength : t.r.toBytes.toBytes.length = 32 := t.r.toBytes.length_toBytes
    rw [List.append_assoc, List.take_append_of_le_length (Nat.le_of_eq hlength.symm),
      List.take_of_length_le (Nat.le_of_eq hlength), hzero]
    rfl

namespace ReportedTransaction

/-- A number of 64 bits loses nothing when it is widened, and no other number fits. -/
theorem narrow_eq_ok_iff {method field : String} {q : UInt256} {n : UInt64} :
    narrow method field q = .ok n ↔ q = .ofNat 256 n.toNat := by
  have hnarrow : narrow method field q = .ok n ↔ UInt64.ofNat? q.toNat = some n := by
    rw [narrow]
    cases UInt64.ofNat? q.toNat with
    | none => exact ⟨nofun, nofun⟩
    | some m => rw [Except.ok.injEq, Option.some.injEq]
  -- the field and the method only occur in the error
  rw [hnarrow, UInt64.ofNat?_eq_some_iff]
  constructor
  · intro h
    rw [h, BitVec.ofNat_toNat, BitVec.setWidth_eq]
  · rintro rfl
    exact (UInt256.toNat_ofNat n.toNat_lt_capacity).symm

/-- What is read agrees with the report in all but the spelling of the data and in what a report
may add to a transaction. -/
theorem toSigned_eq_ok_iff {reported : ReportedTransaction} {method : String}
    {t : SignedTransaction} :
    reported.toSigned method = .ok t
      ↔ ofSigned t = { reported with
            input := Hex.marked t.data
            blockHash := none
            sender := none }
        ∧ Hex.parseBytes reported.input = .ok t.data ∧ ¬ (t.r = 0 ∧ t.s = 0) := by
  constructor
  · intro h
    obtain ⟨nonce, gasPrice, gas, recipient, value, input, v, r, s, blockHash, sender⟩ := reported
    match v, r, s with
    | none, _, _ => cases h
    | some _, none, _ => cases h
    | some _, some _, none => cases h
    | some v, some r, some s =>
      simp only [toSigned] at h
      -- a zero signature is refused first, then a missing recipient, then field by field
      split at h
      · cases h
      · next hsigned =>
        cases recipient with
        | none => cases h
        | some recipient =>
          obtain ⟨n, hnonce, h⟩ := bind_eq_ok_iff.1 h
          obtain ⟨g, hgas, h⟩ := bind_eq_ok_iff.1 h
          obtain ⟨data, hdata, h⟩ := bind_eq_ok_iff.1 h
          obtain ⟨w, hv, h⟩ := bind_eq_ok_iff.1 h
          cases h
          rw [narrow_eq_ok_iff] at hnonce hgas hv
          rw [mapError_eq_ok_iff] at hdata
          refine ⟨?_, hdata, hsigned⟩
          rw [ofSigned, hnonce, hgas, hv]
  · rintro ⟨hform, hdata, hsigned⟩
    have hreported : reported = { ofSigned t with
        input := reported.input
        blockHash := reported.blockHash
        sender := reported.sender } := by
      rw [hform]
    have hnarrow (field : String) (n : UInt64) : narrow method field (.ofNat 256 n.toNat) = .ok n :=
      narrow_eq_ok_iff.2 rfl
    rw [hreported]
    simp only [toSigned, ofSigned, if_neg hsigned, hnarrow, hdata, Except.mapError]
    rfl

theorem toSigned_ofSigned {t : SignedTransaction} (h : ¬ (t.r = 0 ∧ t.s = 0)) (method : String) :
    (ofSigned t).toSigned method = .ok t :=
  toSigned_eq_ok_iff.2 ⟨rfl, Hex.parseBytes_marked t.data, h⟩

open Codec NftExchange.Field in
theorem returns (t : ReportedTransaction) : codec.Returns t := by
  have hquantity {name : String} (a : UInt256) : (required name quantity).Returns a :=
    returns_of_codec (returns_quantity a) nofun
  have hword {name : String} (value : Option UInt256) : (optional name quantity).Returns value :=
    returns_of_codec (returns_nullable_quantity value) nofun
  refine returns_record (by decide) ?_ rfl
  exact ⟨hquantity _, hquantity _, hquantity _,
    returns_of_codec (returns_nullable_fixedBytes _) nofun, hquantity _,
    returns_of_codec (returns_string _) nofun, hword _, hword _, hword _,
    returns_sparse (returns_nullable_fixedBytes _) _,
    returns_sparse (returns_nullable_fixedBytes _) _, trivial⟩

open Codec NftExchange.Field in
theorem readsBack (depth : Nat) : codec.ReadsBack (depth + 1) := by
  have hquantity (name : String) : (required name quantity).ReadsBack depth :=
    readsBack_required (readsBack_quantity depth) name
  have hword (name : String) : (optional name quantity).ReadsBack depth :=
    readsBack_optional (readsBack_quantity depth) nofun name
  refine readsBack_record ?_ fun _ => rfl
  exact ⟨hquantity _, by decide, hquantity _, by decide, hquantity _, by decide,
    readsBack_optional (readsBack_fixedBytes 20 depth) nofun _, by decide, hquantity _, by decide,
    readsBack_required (readsBack_string depth) _, by decide, hword _, by decide, hword _,
    by decide, hword _, by decide, readsBack_sparse (readsBack_fixedBytes 32 depth) nofun _,
    by decide, readsBack_sparse (readsBack_fixedBytes 20 depth) nofun _, by decide, trivial⟩

open Codec in
theorem readable (t : ReportedTransaction) (depth : Nat) :
    Json.Readable (depth + 1) (codec.encode t) := by
  have htext {text : String} : Json.Readable depth (.str text) := readable_str depth text
  have hword (value : Option UInt256) : Json.Readable depth (quantity.nullable.encode value) :=
    readable_nullable fun _ _ => htext
  have haddress (value : Option Address) : Json.Readable depth (address.nullable.encode value) :=
    readable_nullable fun _ _ => htext
  have hhash (value : Option Hash) : Json.Readable depth (hash.nullable.encode value) :=
    readable_nullable fun _ _ => htext
  refine readable_record (by decide) ?_
  exact ⟨htext, htext, htext, haddress _, htext, htext, hword _, hword _, hword _, hhash _,
    haddress _, trivial⟩

/-- A transaction that has a signature is read from its report, whatever the report adds to it, and
the report is read from its own text, directly and through a value. A transaction without signature
is not read. And a transaction is read only from a report that agrees with its own. -/
theorem toSigned_spec (t : SignedTransaction) (method : String) :
    (¬ (t.r = 0 ∧ t.s = 0) → ∀ (blockHash : Option Hash) (sender : Option Address),
        let reported := { ofSigned t with blockHash := blockHash, sender := sender }
        reported.toSigned method = .ok t
          ∧ codec.parse (codec.render reported) = .ok reported
          ∧ Json.parse (codec.render reported) >>= codec.decode = .ok reported)
      ∧ (t.r = 0 ∧ t.s = 0 → ∀ (blockHash : Option Hash) (sender : Option Address),
        ∃ reason, { ofSigned t with blockHash := blockHash, sender := sender }.toSigned method
          = .error (.undecodable method reason))
      ∧ ∀ reported : ReportedTransaction, reported.toSigned method = .ok t →
        ofSigned t = { reported with
            input := "0x" ++ Hex.encode t.data
            blockHash := none
            sender := none }
          ∧ (∀ c ∈ (Hex.encode t.data).toList, Hex.IsLowerDigit c)
          ∧ Hex.parseBytes reported.input = .ok t.data := by
  refine ⟨fun hsigned blockHash sender => ?_, fun hunsigned blockHash sender => ?_,
    fun reported h => ?_⟩
  · refine ⟨toSigned_eq_ok_iff.2 ⟨rfl, Hex.parseBytes_marked t.data, hsigned⟩,
      (readsBack 126).parse_render _, (returns _).parse (readable _ 126)⟩
  · refine ⟨"server returned transaction without signature", ?_⟩
    simp only [toSigned, ofSigned, if_pos hunsigned]
    rfl
  · obtain ⟨hform, hdata, -⟩ := toSigned_eq_ok_iff.1 h
    exact ⟨hform, fun _ => Hex.isLowerDigit_of_mem_encode, hdata⟩

/-- The example of the standard comes back out of its report, and the report out of its text. -/
theorem toSigned_spec_eip155Example :
    (ofSigned .eip155Example).toSigned "eth_getTransactionByHash" = .ok .eip155Example
      ∧ codec.parse (codec.render (ofSigned .eip155Example)) = .ok (ofSigned .eip155Example) := by
  obtain ⟨hsigned, -, -⟩ := toSigned_spec .eip155Example "eth_getTransactionByHash"
  obtain ⟨hread, hparse, -⟩ := hsigned (by decide) none none
  exact ⟨hread, hparse⟩

end ReportedTransaction

end NftExchange
