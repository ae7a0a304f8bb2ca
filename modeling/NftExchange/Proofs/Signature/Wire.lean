import NftExchange.Proofs.BigEndian
import NftExchange.Proofs.Hex
import NftExchange.Signature.Basic

/-!
# Signatures on the wire

A signature is sent as text, with 27 or 28 as its last byte, or as two words and a bare parity
inside a transaction. Both forms lead back to it.

* **`ofHex_toHex`** — the text is read as the signature;
* **`isWireText_toHex`** — the shape of the text;
* **`ofBytes_words`** — the halves as words and the bare parity are read as the signature;
* **`ofBytes_parts`** — any two words and any byte are looked at in a fixed order.
-/

namespace NftExchange

namespace Scalar

theorem toNat_word (a : Scalar) : (BitVec.ofNat 256 a.toNat).toNat = a.toNat :=
  UInt256.toNat_ofNat a.toNat_lt

theorem toBytes_word (a : Scalar) : (UInt256.toBytes (.ofNat 256 a.toNat)).toBytes = a.toBytes := by
  show Bytes.ofNat 32 (BitVec.ofNat 256 a.toNat).toNat = _
  rw [toNat_word, toBytes]

theorem word_ne_zero (a : Scalar) : BitVec.ofNat 256 a.toNat ≠ 0 := by
  intro h
  have hvalue := a.toNat_word
  rw [h] at hvalue
  exact absurd hvalue (Nat.ne_of_lt a.pos)

/-- The numbers that are scalars. -/
def InRange (n : Nat) : Prop := 0 < n ∧ n < order

/-- Bytes are read as the scalar whose number they have. -/
theorem ofBytes?_eq_some_iff {bytes : Bytes} {a : Scalar} :
    ofBytes? bytes = some a ↔ Bytes.toNat bytes = a.toNat := by
  constructor
  · intro h
    unfold ofBytes? ofNat? at h
    split at h
    · cases h
      rfl
    · cases h
  · intro h
    rw [ofBytes?, h, ofNat?_toNat]

theorem inRange (a : Scalar) : InRange a.toNat := ⟨a.pos, a.lt_order⟩

/-- Bytes are no scalar exactly when their number is out of range. -/
theorem ofBytes?_eq_none_iff {bytes : Bytes} :
    ofBytes? bytes = none ↔ ¬ InRange (Bytes.toNat bytes) := by
  unfold ofBytes? ofNat? InRange
  split
  · next h => exact iff_of_false (Option.some_ne_none _) (not_not.2 h)
  · next h => exact iff_of_true rfl h

theorem exists_ofBytes? {bytes : Bytes} (h : InRange (Bytes.toNat bytes)) :
    ∃ a, ofBytes? bytes = some a :=
  ⟨⟨Bytes.toNat bytes, h.1, h.2⟩, ofBytes?_eq_some_iff.2 rfl⟩

theorem toNat_toBytes (a : Scalar) : Bytes.toNat a.toBytes = a.toNat :=
  Bytes.toNat_ofNat a.toNat_lt

/-- As many bytes as a scalar has are its own if they spell it. -/
theorem eq_toBytes {bytes : Bytes} {a : Scalar} (hlength : bytes.length = 32)
    (h : Bytes.toNat bytes = a.toNat) : bytes = a.toBytes :=
  Bytes.toNat_inj_of_length (by rw [hlength, length_toBytes]) (by rw [h, toNat_toBytes])

end Scalar

namespace Signature

/-! ## Bytes

A signature is two words of 32 bytes and a byte for the parity. The words are read first to last,
and the same words come back whether the byte is lifted or not. -/

theorem recoveryId_le_one (sig : Signature) : sig.recoveryId ≤ 1 := by
  unfold recoveryId
  split <;> omega

theorem parityOfByte?_recoveryId (sig : Signature) :
    parityOfByte? (.ofNat sig.recoveryId) = some sig.odd := by
  cases sig with
  | mk r s odd => cases odd <;> rfl

/-- The signature of two words and a parity, if both words are scalars. -/
def ofWords (r s : Bytes) (odd : Bool) : Except CryptoError Signature :=
  match Scalar.ofBytes? r, Scalar.ofBytes? s with
  | some r, some s => .ok ⟨r, s, odd⟩
  | _, _ => .error (.signatureFormat "signature error")

/-- Two words and a parity are a signature exactly when they are its scalars and its parity. -/
theorem ofWords_eq_ok_iff {r s : Bytes} {odd : Bool} {sig : Signature} :
    ofWords r s odd = .ok sig
      ↔ Scalar.ofBytes? r = some sig.r ∧ Scalar.ofBytes? s = some sig.s ∧ odd = sig.odd := by
  unfold ofWords
  constructor
  · intro h
    split at h
    · next hr hs =>
      cases h
      exact ⟨hr, hs, rfl⟩
    · cases h
  · rintro ⟨hr, hs, rfl⟩
    rw [hr, hs]

/-- Words that are no signature are refused with one message. -/
theorem ofWords_eq_error {r s : Bytes} {odd : Bool} (h : ∀ sig, ofWords r s odd ≠ .ok sig) :
    ofWords r s odd = .error (.signatureFormat "signature error") := by
  unfold ofWords at h ⊢
  split
  · next hr hs =>
    rw [hr, hs] at h
    exact absurd rfl (h _)
  · rfl

/-- Two words and a byte are taken apart again: the byte is looked at first, then the words. -/
theorem ofBytes_parts {r s : Bytes} (hr : r.length = 32) (hs : s.length = 32) (byte : UInt8) :
    ofBytes (r ++ s ++ [byte])
      = (parityOfByte? byte).elim (.error (.recoveryByte byte)) (ofWords r s) := by
  have hboth : (r ++ s).length = 64 := by
    rw [List.length_append, hr, hs]
  -- the reader cuts the bytes at 32 and 64, where the parts begin
  have hlast : (r ++ s ++ [byte]).drop 64 = [byte] := List.drop_left' hboth
  have hfirst : (r ++ s ++ [byte]).take 32 = r := by
    rw [List.append_assoc, List.take_left' hr]
  have hsecond : ((r ++ s ++ [byte]).drop 32).take 32 = s := by
    rw [List.append_assoc, List.drop_left' hr, List.take_left' hs]
  unfold ofBytes
  rw [hlast]
  cases hparity : parityOfByte? byte with
  | none => simp only [hparity, Option.elim_none]
  | some odd =>
    simp only [hparity, Option.elim_some]
    show ofWords ((r ++ s ++ [byte]).take 32) (((r ++ s ++ [byte]).drop 32).take 32) odd = _
    rw [hfirst, hsecond]

/-- The words of a signature and a byte of its parity are the signature. -/
theorem ofBytes_halves {sig : Signature} {byte : UInt8}
    (hbyte : parityOfByte? byte = some sig.odd) :
    ofBytes (sig.r.toBytes ++ sig.s.toBytes ++ [byte]) = .ok sig := by
  rw [ofBytes_parts sig.r.length_toBytes sig.s.length_toBytes, hbyte, Option.elim_some]
  exact ofWords_eq_ok_iff.2 ⟨sig.r.ofBytes?_toBytes, sig.s.ofBytes?_toBytes, rfl⟩

/-- The signature is found again in the words and the recovery number of a transaction. -/
theorem ofBytes_words (sig : Signature) :
    ofBytes ((UInt256.toBytes (.ofNat 256 sig.r.toNat)).toBytes
      ++ (UInt256.toBytes (.ofNat 256 sig.s.toNat)).toBytes ++ [.ofNat sig.recoveryId])
      = .ok sig := by
  rw [sig.r.toBytes_word, sig.s.toBytes_word]
  exact ofBytes_halves sig.parityOfByte?_recoveryId

/-! ## Text

The text of a signature has a mark, 130 digits and a lifted recovery byte at its end. -/

/-- A signature is read back from its text. -/
theorem ofHex_toHex (sig : Signature) : ofHex sig.toHex = .ok sig := by
  rw [ofHex, toHex, Text.withoutHexMark_append, Hex.decode_encode]
  exact ofBytes_toBytes sig

/-- The text of 65 bytes as signatures are sent: `0x`, 130 lower-case digits, and 27 or 28 as the
last byte. -/
def IsWireText (text : String) : Prop :=
  ∃ digits bytes, text = "0x" ++ digits ∧ digits.length = 130
    ∧ (∀ c ∈ digits.toList, Hex.IsLowerDigit c)
    ∧ Hex.decode digits = .ok bytes ∧ (bytes.getLast? = some 27 ∨ bytes.getLast? = some 28)

theorem getLast?_toBytes (sig : Signature) :
    sig.toBytes.getLast? = some 27 ∨ sig.toBytes.getLast? = some 28 := by
  have hlast : sig.toBytes.getLast? = some sig.recoveryByte := by
    rw [toBytes, List.getLast?_append, List.getLast?_singleton]
    rfl
  rw [hlast, recoveryByte]
  split
  · exact .inr rfl
  · exact .inl rfl

/-- The text of a signature is of the form in which it is transported. -/
theorem isWireText_toHex (sig : Signature) : IsWireText sig.toHex := by
  refine ⟨Hex.encode sig.toBytes, sig.toBytes, rfl, ?_, ?_, ?_, sig.getLast?_toBytes⟩
  · rw [Hex.length_encode, length_toBytes]
  · exact fun c hc => Hex.isLowerDigit_of_mem_encode hc
  · exact Hex.decode_encode _

end Signature

end NftExchange
