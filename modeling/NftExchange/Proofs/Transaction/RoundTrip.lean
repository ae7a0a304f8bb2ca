import NftExchange.Proofs.Rlp
import NftExchange.Transaction.Basic

/-!
# Reading a signed transaction

The nine items of a signed transaction are complete, so they are found again in its bytes, and each
gives back its field.

* **`decode_signedItems`** — the list of the nine items reads as the transaction;
* **`decode_raw`** — the bytes of a transaction read as the transaction;
* **`raw_inj`** — and no other transaction has them.
-/

namespace NftExchange

open Except (bind_eq_ok_iff)

/-- The transaction that EIP-155 signs as an example. -/
def Transaction.eip155Example : Transaction where
  nonce := 9
  gasPrice := 20000000000
  gasLimit := 21000
  recipient := ⟨List.replicate 20 0x35, List.length_replicate⟩
  value := 1000000000000000000
  data := []

namespace SignedTransaction

/-- The example with its signature. -/
def eip155Example : SignedTransaction where
  toTransaction := .eip155Example
  v := 37
  r := 0x28ef61340bd939bc2195fe537567866003e1a15d3c71ff63e1590620aa636276
  s := 0x67cbe9d8997f761aecb703304b3800ccf555c9f3dc64214b297fb1966a3b6d83

/-- The nine items of a signed transaction. -/
def signedItems (t : SignedTransaction) : List Bytes :=
  t.items ++ [Rlp.encodeNat t.v.toNat, Rlp.encodeNat t.r.toNat, Rlp.encodeNat t.s.toNat]

theorem raw_eq (t : SignedTransaction) : t.raw = Rlp.encodeList t.signedItems := rfl

theorem length_signedItems_le (t : SignedTransaction) :
    t.signedItems.flatten.length ≤ t.raw.length := by
  rw [raw_eq, Rlp.encodeList, List.length_append]
  exact Nat.le_add_left _ _

theorem length_data_le (t : SignedTransaction) :
    t.data.length ≤ t.signedItems.flatten.length := by
  have hitem : Rlp.encodeBytes t.data ∈ t.signedItems := by simp [signedItems, Transaction.items]
  have hdata : t.data.length ≤ (Rlp.encodeBytes t.data).length := Rlp.length_le_encodeBytes _
  exact Nat.le_trans hdata (List.Sublist.length_le (List.sublist_flatten_of_mem hitem))

/-- Every item can be split off the items after it. -/
theorem complete_signedItems {t : SignedTransaction} (hdata : t.data.length < UInt64.size) :
    ∀ item ∈ t.signedItems, Rlp.Complete item := by
  have hword (a : UInt256) : Rlp.Complete (Rlp.encodeNat a.toNat) :=
    Rlp.complete_encodeNat a.toNat_lt
  have hnumber (a : UInt64) : Rlp.Complete (Rlp.encodeNat a.toNat) :=
    Rlp.complete_encodeNat a.toNat_lt_capacity
  have haddress : Rlp.Complete (Rlp.encodeBytes t.recipient.toBytes) :=
    Rlp.complete_encodeBytes (by rw [t.recipient.length_toBytes]; decide)
  have hbytes : Rlp.Complete (Rlp.encodeBytes t.data) := Rlp.complete_encodeBytes hdata
  simp only [signedItems, Transaction.items, List.cons_append, List.nil_append,
    List.forall_mem_cons]
  exact ⟨hnumber _, hword _, hnumber _, haddress, hword _, hbytes, hnumber _, hword _, hword _,
    nofun⟩

/-- Bytes with the nine items of a transaction are read as it. -/
theorem decode_of_items {raw : Bytes} {t : SignedTransaction} (hlist : Rlp.isList raw = true)
    (hitems : Rlp.items raw = t.signedItems) (hdata : t.data.length < UInt64.size) :
    decode raw = .ok t := by
  rw [decode, hlist, hitems]
  simp only [signedItems, Transaction.items, List.cons_append, List.nil_append,
    Rlp.decodeUInt64_encodeNat, Rlp.decodeUInt256_encodeNat,
    Rlp.decodeFixed_encodeBytes t.recipient (by decide), Rlp.decodeBytes_encodeBytes hdata]
  rfl

/-- A transaction is decoded from the list of its items. -/
theorem decode_signedItems {t : SignedTransaction}
    (hfits : t.signedItems.flatten.length < UInt64.size) :
    decode (Rlp.encodeList t.signedItems) = .ok t := by
  have hdata : t.data.length < UInt64.size := Nat.lt_of_le_of_lt t.length_data_le hfits
  have hitems := Rlp.items_encodeList (complete_signedItems hdata) hfits
  exact decode_of_items (Rlp.isList_encodeList hfits) hitems hdata

/-- All items but the data of a transaction are short. -/
theorem length_flatten_signedItems_le (t : SignedTransaction) :
    t.signedItems.flatten.length ≤ t.data.length + 600 := by
  -- every item but the data has a bounded width, and the nine of them stay below the bound
  have hword (a : UInt256) : (Rlp.encodeNat a.toNat).length ≤ 32 + 33 :=
    Nat.le_trans (Rlp.length_encodeBytes_le _)
      (Nat.add_le_add_right (Bytes.length_minimal_uint256 a) 33)
  have hnumber (a : UInt64) : (Rlp.encodeNat a.toNat).length ≤ 8 + 33 :=
    Nat.le_trans (Rlp.length_encodeBytes_le _)
      (Nat.add_le_add_right (Bytes.length_minimal_uint64 a) 33)
  have haddress : (Rlp.encodeBytes t.recipient.toBytes).length ≤ 20 + 33 := by
    have hle := Rlp.length_encodeBytes_le t.recipient.toBytes
    rwa [t.recipient.length_toBytes] at hle
  have hbytes : (Rlp.encodeBytes t.data).length ≤ t.data.length + 33 := Rlp.length_encodeBytes_le _
  have hnonce := hnumber t.nonce
  have hgasPrice := hword t.gasPrice
  have hgasLimit := hnumber t.gasLimit
  have hvalue := hword t.value
  have hv := hnumber t.v
  have hr := hword t.r
  have hs := hword t.s
  simp only [signedItems, Transaction.items, List.cons_append, List.nil_append,
    List.flatten_cons, List.flatten_nil, List.length_append, List.length_nil]
  omega

/-- Data that a machine can hold makes bytes that 64 bits can count. -/
theorem length_raw_lt {t : SignedTransaction} (hdata : t.data.length < 2 ^ 63) :
    t.raw.length < UInt64.size := by
  have hheader := Rlp.length_header_le 0xc0 t.signedItems.flatten.length
  have hitems := t.length_flatten_signedItems_le
  rw [raw_eq, Rlp.encodeList, List.length_append]
  have hsize : UInt64.size = 2 ^ 64 := rfl
  omega

/-- The bytes of a transaction read as the transaction. -/
theorem decode_raw (t : SignedTransaction) (hfits : t.raw.length < UInt64.size) :
    decode t.raw = .ok t :=
  decode_signedItems (Nat.lt_of_le_of_lt t.length_signedItems_le hfits)

/-- The example of the standard is short enough, and is decoded from its bytes. -/
theorem decode_raw_eip155Example :
    eip155Example.raw.length < UInt64.size ∧ decode eip155Example.raw = .ok eip155Example :=
  ⟨by decide +kernel, decode_raw eip155Example (by decide +kernel)⟩

/-! ## Transactions of the same bytes

The bytes determine the transaction, by the items and then the values in them. In the other
direction, what was decoded has the items its fields were read from. -/

/-- A transaction is told from others by its bytes, even where its data make them too many for
64 bits. -/
theorem raw_inj {t other : SignedTransaction} (hdata : t.data.length < UInt64.size)
    (hother : other.data.length < UInt64.size) (h : t.raw = other.raw) : t = other := by
  have hfits {t : SignedTransaction} (hdata : t.data.length < UInt64.size) :
      t.signedItems.flatten.length < Bytes.capacity 32 := by
    have hle := t.length_flatten_signedItems_le
    have hcapacity : UInt64.size + 600 < Bytes.capacity 32 := by decide
    omega
  have hpayload := Rlp.flatten_eq_of_encodeList_eq (hfits hdata) (hfits hother) h
  have hitems := Rlp.eq_of_flatten_eq (complete_signedItems hdata) (complete_signedItems hother)
    hpayload
  simp only [signedItems, Transaction.items, List.cons_append, List.nil_append,
    List.cons.injEq, and_true] at hitems
  obtain ⟨hnonce, hgasPrice, hgasLimit, hrecipient, hvalue, hbytes, hv, hr, hs⟩ := hitems
  have hwidth (a : Address) : a.toBytes.length < UInt64.size := by
    rw [a.length_toBytes]
    decide
  obtain ⟨⟨nonce, gasPrice, gasLimit, recipient, value, data⟩, v, r, s⟩ := t
  obtain ⟨⟨nonce', gasPrice', gasLimit', recipient', value', data'⟩, v', r', s'⟩ := other
  -- item by item, each value is the only one that has it
  obtain rfl : nonce = nonce' := Rlp.encodeNat_uint64_inj hnonce
  obtain rfl : gasPrice = gasPrice' := Rlp.encodeNat_uint256_inj hgasPrice
  obtain rfl : gasLimit = gasLimit' := Rlp.encodeNat_uint64_inj hgasLimit
  obtain rfl : recipient = recipient' :=
    FixedBytes.ext (Rlp.encodeBytes_inj (hwidth recipient) (hwidth recipient') hrecipient)
  obtain rfl : value = value' := Rlp.encodeNat_uint256_inj hvalue
  obtain rfl : data = data' := Rlp.encodeBytes_inj hdata hother hbytes
  obtain rfl : v = v' := Rlp.encodeNat_uint64_inj hv
  obtain rfl : r = r' := Rlp.encodeNat_uint256_inj hr
  obtain rfl : s = s' := Rlp.encodeNat_uint256_inj hs
  rfl

theorem decodeField_eq_ok_iff {α : Type} {field : String} {result : Except Rlp.Error α} {a : α} :
    decodeField field result = .ok a ↔ result = .ok a := by
  cases result with
  | error e => simp [decodeField]
  | ok a => simp [decodeField]

/-- A transaction that was read stands in the nine items of a list, field by field. -/
theorem items_of_decode {raw : Bytes} {t : SignedTransaction} (h : decode raw = .ok t) :
    Rlp.isList raw = true ∧ ∃ nonce gasPrice gasLimit recipient value data v r s,
      Rlp.items raw = [nonce, gasPrice, gasLimit, recipient, value, data, v, r, s]
        ∧ Rlp.decodeUInt64 nonce = .ok t.nonce ∧ Rlp.decodeUInt256 gasPrice = .ok t.gasPrice
        ∧ Rlp.decodeUInt64 gasLimit = .ok t.gasLimit
        ∧ Rlp.decodeFixed 20 recipient = .ok t.recipient
        ∧ Rlp.decodeUInt256 value = .ok t.value ∧ Rlp.decodeBytes data = .ok t.data
        ∧ Rlp.decodeUInt64 v = .ok t.v ∧ Rlp.decodeUInt256 r = .ok t.r
        ∧ Rlp.decodeUInt256 s = .ok t.s := by
  rw [decode] at h
  split at h
  · cases h
  · rename_i hlist
    refine ⟨by rwa [Bool.not_eq_true', Bool.not_eq_false] at hlist, ?_⟩
    split at h
    · rename_i items nonceItem gasPriceItem gasLimitItem recipientItem valueItem dataItem vItem
        rItem sItem hitems
      -- each of the nine readers succeeded on its item
      obtain ⟨nonce, hnonce, h⟩ := bind_eq_ok_iff.1 h
      obtain ⟨gasPrice, hgasPrice, h⟩ := bind_eq_ok_iff.1 h
      obtain ⟨gasLimit, hgasLimit, h⟩ := bind_eq_ok_iff.1 h
      obtain ⟨recipient, hrecipient, h⟩ := bind_eq_ok_iff.1 h
      obtain ⟨value, hvalue, h⟩ := bind_eq_ok_iff.1 h
      obtain ⟨data, hdata, h⟩ := bind_eq_ok_iff.1 h
      obtain ⟨v, hv, h⟩ := bind_eq_ok_iff.1 h
      obtain ⟨r, hr, h⟩ := bind_eq_ok_iff.1 h
      obtain ⟨s, hs, h⟩ := bind_eq_ok_iff.1 h
      cases h
      rw [decodeField_eq_ok_iff] at hnonce hgasPrice hgasLimit hrecipient hvalue hdata hv hr hs
      exact ⟨_, _, _, _, _, _, _, _, _, hitems, hnonce, hgasPrice, hgasLimit, hrecipient, hvalue,
        hdata, hv, hr, hs⟩
    · cases h

/-- The data of a transaction that was read is no longer than 64 bits can count. -/
theorem length_data_lt_of_decode {raw : Bytes} {t : SignedTransaction} (h : decode raw = .ok t) :
    t.data.length < UInt64.size := by
  obtain ⟨-, _, _, _, _, _, _, _, _, _, -, -, -, -, -, -, hdata, -⟩ := items_of_decode h
  exact Rlp.length_lt_of_decodeBytes hdata

end SignedTransaction

end NftExchange
