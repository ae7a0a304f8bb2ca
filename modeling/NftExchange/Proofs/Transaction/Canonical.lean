import NftExchange.Proofs.Rlp.Canonical
import NftExchange.Proofs.Transaction.RoundTrip

/-!
# Which bytes are read as a transaction

Every field of a transaction has one encoding, so the nine items in which a transaction is found
are its own. What stands around them is not looked at as closely: the bytes that are read as a
transaction are the frames around its items, of which its own bytes are the exact one.

* **`decode_eq_ok_iff`** — the frames around the items of a transaction are read as it, and
  nothing else is;
* **`decode_eq_ok_iff_frame`** — and the bytes of the transaction are the exact frame;
* **`decode_inexact_frames`** — other frames are read as well.
-/

namespace NftExchange.SignedTransaction

/-- The items of a transaction whose data can be counted can be announced. -/
theorem length_flatten_signedItems_lt {t : SignedTransaction}
    (hdata : t.data.length < UInt64.size) :
    t.signedItems.flatten.length < Bytes.capacity 32 := by
  have hle := t.length_flatten_signedItems_le
  have hcapacity : UInt64.size + 600 < Bytes.capacity 32 := by decide
  omega

/-- The items in which a transaction was found are the encodings of its fields. -/
theorem exists_frame_of_decode {raw : Bytes} {t : SignedTransaction} (h : decode raw = .ok t) :
    ∃ frame : Rlp.Frame t.signedItems, frame.bytes = raw := by
  obtain ⟨hlist, nonce, gasPrice, gasLimit, recipient, value, data, v, r, s, hitems, hnonce,
    hgasPrice, hgasLimit, hrecipient, hvalue, hdata, hv, hr, hs⟩ := items_of_decode h
  obtain ⟨hall, hframe⟩ := Rlp.exists_frame hlist hitems
  simp only [List.forall_mem_cons] at hall
  obtain ⟨hnonceItem, hgasPriceItem, hgasLimitItem, hrecipientItem, hvalueItem, hdataItem, hvItem,
    hrItem, hsItem, -⟩ := hall
  -- item by item: each is the only encoding of the value that was read from it
  have hsigned : t.signedItems
      = [nonce, gasPrice, gasLimit, recipient, value, data, v, r, s] := by
    rw [Rlp.eq_encodeNat_uint64 hnonceItem hnonce, Rlp.eq_encodeNat_uint256 hgasPriceItem hgasPrice,
      Rlp.eq_encodeNat_uint64 hgasLimitItem hgasLimit,
      Rlp.eq_encodeBytes_fixed hrecipientItem hrecipient,
      Rlp.eq_encodeNat_uint256 hvalueItem hvalue, Rlp.eq_encodeBytes hdataItem hdata,
      Rlp.eq_encodeNat_uint64 hvItem hv, Rlp.eq_encodeNat_uint256 hrItem hr,
      Rlp.eq_encodeNat_uint256 hsItem hs]
    rfl
  rwa [hsigned]

/-- A frame around the items of a transaction is read as the transaction. -/
theorem decode_frame {t : SignedTransaction} (hdata : t.data.length < UInt64.size)
    (frame : Rlp.Frame t.signedItems) : decode frame.bytes = .ok t := by
  have hne : t.signedItems ≠ [] := List.append_ne_nil_of_left_ne_nil (List.cons_ne_nil _ _) _
  have hitems := frame.items_bytes hne (complete_signedItems hdata)
  exact decode_of_items frame.isList_bytes hitems hdata

/-- Bytes are read as a transaction exactly if they are a frame around its items. -/
theorem decode_eq_ok_iff {raw : Bytes} {t : SignedTransaction} :
    decode raw = .ok t
      ↔ t.data.length < UInt64.size ∧ ∃ frame : Rlp.Frame t.signedItems, frame.bytes = raw := by
  constructor
  · intro h
    exact ⟨length_data_lt_of_decode h, exists_frame_of_decode h⟩
  · rintro ⟨hdata, frame, rfl⟩
    exact decode_frame hdata frame

/-- Bytes are read as a transaction exactly if they are a frame around its items: a list header
in its shortest form that announces at least the first item, the nine items, each in its one
encoding, and then no complete item. They are the bytes of the transaction, so that its hash is
their digest, exactly if the header announces the nine items and nothing follows them. -/
theorem decode_eq_ok_iff_frame (raw : Bytes) (t : SignedTransaction) :
    decode raw = .ok t
      ↔ t.data.length < UInt64.size ∧ ∃ frame : Rlp.Frame t.signedItems, frame.bytes = raw
          ∧ (t.raw = raw ↔ frame.announced = t.signedItems.flatten.length ∧ frame.rest = [])
          ∧ (frame.announced = t.signedItems.flatten.length → frame.rest = [] →
              t.hash = keccak256 raw) := by
  rw [decode_eq_ok_iff]
  refine and_congr_right fun hdata => exists_congr fun frame => ?_
  constructor
  · rintro rfl
    have hexact : t.raw = frame.bytes ↔ frame.IsExact :=
      frame.bytes_eq_encodeList_iff (length_flatten_signedItems_lt hdata)
    refine ⟨rfl, hexact, fun hannounced hrest => ?_⟩
    rw [hash, hexact.2 ⟨hannounced, hrest⟩]
  · exact And.left

/-- The same transaction is read from its items behind a header that announces the first of them
only, from its bytes with the start of another item behind them, and from a list that ends with
the start of another item. -/
theorem decode_inexact_frames :
    let items := eip155Example.signedItems.flatten
    let shortHeader := 0xc1 :: items
    let trailing := eip155Example.raw ++ [0x81]
    let leftover := 0xf8 :: 0x6d :: (items ++ [0x81])
    (decode shortHeader = .ok eip155Example ∧ eip155Example.raw ≠ shortHeader)
      ∧ (decode trailing = .ok eip155Example ∧ eip155Example.raw ≠ trailing)
      ∧ (decode leftover = .ok eip155Example ∧ eip155Example.raw ≠ leftover) := by
  decide +kernel

end NftExchange.SignedTransaction
