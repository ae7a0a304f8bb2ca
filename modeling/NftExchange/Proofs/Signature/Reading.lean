import NftExchange.Proofs.Hex.Spelling
import NftExchange.Proofs.Signature.Wire

/-!
# Signatures in texts of others

A signature arrives as text. It has to be hexadecimal, then 65 bytes long, then its last byte has to
be a recovery byte, and only then the two words before it are looked at. The recovery byte comes in
two conventions that say the same, so which one a text follows makes no difference.

* **`exists_parts`** — 65 bytes are two words and a byte;
* **`parityOfByte?_eq_some_iff`** — a signature comes with its recovery byte, lifted or not;
* **`reads_signatures`** — which texts are signatures, what they are read as, and how others are
  refused.
-/

namespace NftExchange.Signature

variable {text : String} {r s : FixedBytes 32} {byte : UInt8} {sig : Signature}

/-! ## Recovery bytes

Four bytes say which of two points is meant, two by themselves and two lifted by 27. A signature is
always written with a lifted one. -/

/-- A byte that says which parity a signature has: 0 or 1, or lifted by 27. -/
def IsRecoveryByte (byte : UInt8) : Prop := byte = 0 ∨ byte = 1 ∨ byte = 27 ∨ byte = 28

/-- A recovery byte as it is written: 0 and 1 are lifted by 27. -/
def lifted (byte : UInt8) : UInt8 := if byte < 27 then byte + 27 else byte

theorem parityOfByte?_eq_none_iff : parityOfByte? byte = none ↔ ¬ IsRecoveryByte byte := by
  unfold parityOfByte? IsRecoveryByte
  split_ifs with heven hodd
  · exact ⟨nofun, fun h => absurd (by tauto) h⟩
  · exact ⟨nofun, fun h => absurd (by tauto) h⟩
  · exact ⟨fun _ => by tauto, fun _ => rfl⟩

theorem exists_parity (h : IsRecoveryByte byte) : ∃ odd, parityOfByte? byte = some odd :=
  Option.ne_none_iff_exists'.1 (parityOfByte?_eq_none_iff.not_left.2 h)

/-- The parity, the byte written and the recovery number of a signature go together. -/
theorem recoveryByte_cases (sig : Signature) :
    sig.odd = false ∧ sig.recoveryByte = 27 ∧ sig.recoveryId = 0
      ∨ sig.odd = true ∧ sig.recoveryByte = 28 ∧ sig.recoveryId = 1 := by
  unfold recoveryByte recoveryId
  cases sig.odd
  · exact .inl ⟨rfl, rfl, rfl⟩
  · exact .inr ⟨rfl, rfl, rfl⟩

/-- The parity a byte gives and the byte it is lifted to go together. -/
theorem parity_cases (h : IsRecoveryByte byte) :
    parityOfByte? byte = some false ∧ lifted byte = 27
      ∨ parityOfByte? byte = some true ∧ lifted byte = 28 := by
  rcases h with rfl | rfl | rfl | rfl
  · exact .inl ⟨rfl, rfl⟩
  · exact .inr ⟨rfl, rfl⟩
  · exact .inl ⟨rfl, rfl⟩
  · exact .inr ⟨rfl, rfl⟩

/-- A byte gives the parity of a signature exactly when it is lifted to the byte the signature
writes. -/
theorem parityOfByte?_eq_some_iff :
    parityOfByte? byte = some sig.odd ↔ IsRecoveryByte byte ∧ sig.recoveryByte = lifted byte := by
  by_cases hbyte : IsRecoveryByte byte
  · rcases parity_cases hbyte with ⟨hparity, hlifted⟩ | ⟨hparity, hlifted⟩ <;>
      rcases sig.recoveryByte_cases with ⟨hodd, hwritten, -⟩ | ⟨hodd, hwritten, -⟩ <;>
      simp [hbyte, hparity, hlifted, hodd, hwritten]
  · rw [parityOfByte?_eq_none_iff.2 hbyte]
    exact ⟨nofun, fun h => absurd h.1 hbyte⟩

/-! ## The parts of a signature

Bytes are taken apart into two words and a byte. The checks come in an order: the length, the byte,
then the two words, and the first that fails decides the error. -/

/-- The text spells two words and a byte. -/
def Parts (text : String) (r s : FixedBytes 32) (byte : UInt8) : Prop :=
  Hex.Spells text (r.toBytes ++ s.toBytes ++ [byte])

/-- As many bytes as a signature has are two words and a byte. -/
theorem exists_parts {bytes : Bytes} (h : bytes.length = 65) :
    ∃ r s : FixedBytes 32, ∃ byte, bytes = r.toBytes ++ s.toBytes ++ [byte] := by
  have hlast : (bytes.drop 64).length = 1 := by
    rw [List.length_drop, h]
  obtain ⟨byte, hbyte⟩ := List.length_eq_one_iff.1 hlast
  refine ⟨⟨bytes.take 32, by simp [h]⟩, ⟨(bytes.drop 32).take 32, by simp [h]⟩, byte, ?_⟩
  show bytes = bytes.take 32 ++ (bytes.drop 32).take 32 ++ [byte]
  have hrest : (bytes.drop 32).drop 32 = [byte] := by
    rw [List.drop_drop, hbyte]
  rw [← hrest, List.append_assoc, List.take_append_drop, List.take_append_drop]

/-- Bytes of another length than 65 are no signature. -/
theorem ofBytes_of_length_ne {bytes : Bytes} (h : bytes.length ≠ 65) :
    ∃ reason, ofBytes bytes = .error (.signatureFormat reason) := by
  unfold ofBytes
  split
  · next byte hbyte =>
    have hlength := congrArg List.length hbyte
    rw [List.length_drop, List.length_singleton] at hlength
    omega
  · exact ⟨_, rfl⟩

/-- The recovery byte is looked at before the words. -/
theorem ofBytes_of_not_isRecoveryByte (r s : FixedBytes 32) (h : ¬ IsRecoveryByte byte) :
    ofBytes (r.toBytes ++ s.toBytes ++ [byte]) = .error (.recoveryByte byte) := by
  rw [ofBytes_parts r.length_toBytes s.length_toBytes, parityOfByte?_eq_none_iff.2 h,
    Option.elim_none]

/-- Two words that are not both in the range of the curve are no signature. -/
theorem ofBytes_of_not_inRange (hbyte : IsRecoveryByte byte)
    (hrange : ¬ (Scalar.InRange r.toNat ∧ Scalar.InRange s.toNat)) :
    ∃ reason, ofBytes (r.toBytes ++ s.toBytes ++ [byte]) = .error (.signatureFormat reason) := by
  obtain ⟨odd, hodd⟩ := exists_parity hbyte
  rw [ofBytes_parts r.length_toBytes s.length_toBytes, hodd, Option.elim_some]
  refine ⟨_, ofWords_eq_error fun sig hread => hrange ?_⟩
  -- words that are scalars are in range
  obtain ⟨hr, hs, -⟩ := ofWords_eq_ok_iff.1 hread
  have hra : r.toNat = sig.r.toNat := Scalar.ofBytes?_eq_some_iff.1 hr
  have hsb : s.toNat = sig.s.toNat := Scalar.ofBytes?_eq_some_iff.1 hs
  rw [hra, hsb]
  exact ⟨sig.r.inRange, sig.s.inRange⟩

/-- Two words in the range of the curve and a recovery byte are a signature. -/
theorem ofBytes_of_inRange (hbyte : IsRecoveryByte byte) (hr : Scalar.InRange r.toNat)
    (hs : Scalar.InRange s.toNat) :
    ∃ sig, ofBytes (r.toBytes ++ s.toBytes ++ [byte]) = .ok sig := by
  obtain ⟨odd, hodd⟩ := exists_parity hbyte
  obtain ⟨a, ha⟩ := Scalar.exists_ofBytes? hr
  obtain ⟨b, hb⟩ := Scalar.exists_ofBytes? hs
  rw [ofBytes_parts r.length_toBytes s.length_toBytes, hodd, Option.elim_some]
  exact ⟨⟨a, b, odd⟩, ofWords_eq_ok_iff.2 ⟨ha, hb, rfl⟩⟩

/-- The bytes that are read as a signature: its words, and its recovery byte, lifted or not. -/
theorem ofBytes_eq_ok_iff {bytes : Bytes} :
    ofBytes bytes = .ok sig ↔ ∃ byte, bytes = sig.r.toBytes ++ sig.s.toBytes ++ [byte]
      ∧ IsRecoveryByte byte ∧ sig.recoveryByte = lifted byte := by
  constructor
  · intro h
    have hlength : bytes.length = 65 := by
      by_contra hne
      obtain ⟨reason, hread⟩ := ofBytes_of_length_ne hne
      rw [hread] at h
      cases h
    obtain ⟨r, s, byte, rfl⟩ := exists_parts hlength
    rw [ofBytes_parts r.length_toBytes s.length_toBytes] at h
    -- the byte comes before the words
    cases hparity : parityOfByte? byte with
    | none =>
      rw [hparity, Option.elim_none] at h
      cases h
    | some odd =>
      rw [hparity, Option.elim_some] at h
      obtain ⟨hr, hs, rfl⟩ := ofWords_eq_ok_iff.1 h
      refine ⟨byte, ?_, parityOfByte?_eq_some_iff.1 hparity⟩
      rw [Scalar.eq_toBytes r.length_toBytes (Scalar.ofBytes?_eq_some_iff.1 hr),
        Scalar.eq_toBytes s.length_toBytes (Scalar.ofBytes?_eq_some_iff.1 hs)]
  · rintro ⟨byte, hbytes, hbyte⟩
    rw [hbytes]
    exact ofBytes_halves (parityOfByte?_eq_some_iff.2 hbyte)

/-- In one convention or the other, the recovery byte says the same. -/
theorem ofBytes_lifted (r s : FixedBytes 32) (h : byte = 0 ∨ byte = 1) :
    ofBytes (r.toBytes ++ s.toBytes ++ [byte + 27])
      = ofBytes (r.toBytes ++ s.toBytes ++ [byte]) := by
  rw [ofBytes_parts r.length_toBytes s.length_toBytes,
    ofBytes_parts r.length_toBytes s.length_toBytes]
  rcases h with rfl | rfl
  · rfl
  · rfl

/-! ## Texts

A text is read as the bytes it spells, so everything said of bytes holds of texts. A text that
spells no bytes is malformed like one that spells the wrong number of them. -/

/-- A text is read as the bytes it spells. -/
theorem ofHex_of_spells {bytes : Bytes} (h : Hex.Spells text bytes) :
    ofHex text = ofBytes bytes := by
  rw [ofHex, Hex.decode_withoutHexMark_eq_ok_iff.2 h]

/-- A text that is not hexadecimal is refused before anything else is looked at. -/
theorem ofHex_cases (text : String) :
    (∃ bytes, Hex.Spells text bytes ∧ ofHex text = ofBytes bytes)
      ∨ ∃ reason, ofHex text = .error (.signatureFormat reason) := by
  cases hread : Hex.decode (Text.withoutHexMark text) with
  | ok bytes =>
    have hspells := Hex.decode_withoutHexMark_eq_ok_iff.1 hread
    exact .inl ⟨bytes, hspells, ofHex_of_spells hspells⟩
  | error e =>
    rw [ofHex, hread]
    exact .inr ⟨_, rfl⟩

/-- A text that spells no 65 bytes is malformed. -/
theorem ofHex_of_malformed (h : ∀ bytes, Hex.Spells text bytes → bytes.length ≠ 65) :
    ∃ reason, ofHex text = .error (.signatureFormat reason) := by
  rcases ofHex_cases text with ⟨bytes, hspells, hread⟩ | hrefused
  · rw [hread]
    exact ofBytes_of_length_ne (h bytes hspells)
  · exact hrefused

/-- A text is read as a signature exactly when it spells its two words and a byte that is lifted to
its own. -/
theorem ofHex_eq_ok_iff :
    ofHex text = .ok sig ↔ ∃ byte, Hex.Spells text (sig.r.toBytes ++ sig.s.toBytes ++ [byte])
      ∧ IsRecoveryByte byte ∧ sig.recoveryByte = lifted byte := by
  constructor
  · intro h
    -- a text spells bytes or is malformed
    rcases ofHex_cases text with ⟨bytes, hspells, hread⟩ | ⟨reason, hread⟩
    · rw [hread] at h
      obtain ⟨byte, hbytes, hbyte⟩ := ofBytes_eq_ok_iff.1 h
      rw [hbytes] at hspells
      exact ⟨byte, hspells, hbyte⟩
    · rw [hread] at h
      cases h
  · rintro ⟨byte, hspells, hbyte⟩
    rw [ofHex_of_spells hspells]
    exact ofBytes_eq_ok_iff.2 ⟨byte, rfl, hbyte⟩

/-- A text is a signature if it has a recovery byte and both words are scalars. -/
theorem exists_ofHex_iff :
    (∃ sig, ofHex text = .ok sig) ↔ ∃ r s byte, Parts text r s byte ∧ IsRecoveryByte byte
      ∧ Scalar.InRange r.toNat ∧ Scalar.InRange s.toNat := by
  constructor
  · rintro ⟨sig, hread⟩
    obtain ⟨byte, hspells, hbyte, -⟩ := ofHex_eq_ok_iff.1 hread
    -- the two words of the signature are those of the text
    refine ⟨⟨sig.r.toBytes, sig.r.length_toBytes⟩, ⟨sig.s.toBytes, sig.s.length_toBytes⟩, byte,
      hspells, hbyte, ?_, ?_⟩
    · rw [FixedBytes.toNat, sig.r.toNat_toBytes]
      exact sig.r.inRange
    · rw [FixedBytes.toNat, sig.s.toNat_toBytes]
      exact sig.s.inRange
  · rintro ⟨r, s, byte, hparts, hbyte, hr, hs⟩
    obtain ⟨sig, hread⟩ := ofBytes_of_inRange hbyte hr hs
    exact ⟨sig, (ofHex_of_spells hparts).trans hread⟩

/-- How a text is read as a signature. -/
structure ReadsSignature (text : String) : Prop where
  succeeds_iff : (∃ sig, ofHex text = .ok sig)
    ↔ ∃ r s byte, Parts text r s byte ∧ IsRecoveryByte byte ∧ Scalar.InRange r.toNat
      ∧ Scalar.InRange s.toNat
  /-- The words are kept, and the recovery byte is lifted. -/
  ok_iff : ∀ sig, ofHex text = .ok sig
    ↔ ∃ byte, Hex.Spells text (sig.r.toBytes ++ sig.s.toBytes ++ [byte])
      ∧ IsRecoveryByte byte ∧ sig.recoveryByte = lifted byte
  malformed : (∀ bytes, Hex.Spells text bytes → bytes.length ≠ 65) →
    ∃ reason, ofHex text = .error (.signatureFormat reason)
  notRecoveryByte : ∀ r s byte, Parts text r s byte → ¬ IsRecoveryByte byte →
    ofHex text = .error (.recoveryByte byte)
  notInRange : ∀ r s byte, Parts text r s byte → IsRecoveryByte byte →
    ¬ (Scalar.InRange r.toNat ∧ Scalar.InRange s.toNat) →
    ∃ reason, ofHex text = .error (.signatureFormat reason)
  /-- Which convention the recovery byte follows makes no difference. -/
  convention : ∀ other r s byte, byte = 0 ∨ byte = 1 → Parts text r s byte →
    Parts other r s (byte + 27) → ofHex other = ofHex text

/-- How a signature is written. -/
structure WritesSignature (sig : Signature) : Prop where
  reads : ofHex sig.toHex = .ok sig
  recoveryByte : sig.recoveryByte = 27 ∨ sig.recoveryByte = 28
  recoveryId : sig.recoveryId = sig.recoveryByte.toNat - 27

/-- Every text is a signature or is refused by the first check that it fails, and every signature is
read back from its text. -/
theorem reads_signatures :
    (∀ text, ReadsSignature text) ∧ ∀ sig, WritesSignature sig := by
  refine ⟨fun text => ?_, fun sig => ⟨sig.ofHex_toHex, ?_, ?_⟩⟩
  · constructor
    · exact exists_ofHex_iff
    · exact fun sig => ofHex_eq_ok_iff
    · exact ofHex_of_malformed
    · intro r s byte hparts hbyte
      rw [ofHex_of_spells hparts]
      exact ofBytes_of_not_isRecoveryByte r s hbyte
    · intro r s byte hparts hbyte hrange
      rw [ofHex_of_spells hparts]
      exact ofBytes_of_not_inRange hbyte hrange
    · intro other r s byte hbare hparts hlifted
      rw [ofHex_of_spells hparts, ofHex_of_spells hlifted]
      exact ofBytes_lifted r s hbare
  · -- what is written ends in a lifted byte, for either parity
    rcases sig.recoveryByte_cases with ⟨-, hbyte, -⟩ | ⟨-, hbyte, -⟩
    · exact .inl hbyte
    · exact .inr hbyte
  · rcases sig.recoveryByte_cases with ⟨-, hbyte, hid⟩ | ⟨-, hbyte, hid⟩
    · rw [hbyte, hid]
      rfl
    · rw [hbyte, hid]
      rfl

-- words of zero are no scalars, but a byte that is no recovery byte is found first
example : ofBytes (List.replicate 64 0 ++ [35]) = .error (.recoveryByte 35) := by
  decide +kernel

example : ofBytes (List.replicate 64 0 ++ [27]) = .error (.signatureFormat "signature error") := by
  decide +kernel

end NftExchange.Signature
