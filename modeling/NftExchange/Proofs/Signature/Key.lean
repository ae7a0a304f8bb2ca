import NftExchange.Client.Basic
import NftExchange.Proofs.Hex.Spelling
import NftExchange.Proofs.Signature.Wire
import NftExchange.Proofs.Text.Trimmed

/-!
# Secret keys in texts

A secret key is given as 64 digits, with or without a mark and with any blanks around them. What is
wrong with a text is found in a fixed order: first whether it is hexadecimal, then its length, then
the number. Whoever reads a key passes the error on.

* **`withoutHexMark_trimmed_eq_iff`** — which digits are left when blanks and mark are gone;
* **`ofHex_eq_ok_iff`** — which texts hold a key;
* **`connect_of_ofHex`** — a client reports what is wrong with its key as that;
* **`reads_keys`** — all together.
-/

namespace NftExchange

namespace SecretKey

variable {text : String} {d : Hex.Digits} {bytes : Bytes} {key : SecretKey}

/-! ## Digits in a text

A key may be surrounded by blanks and marked. Both are taken off before the digits are read, first
the blanks, so a text gives at most one sequence of digits. -/

/-- Blanks around them apart, the text gives digits: bare, or behind the mark `0x`. -/
def Gives (text : String) (d : Hex.Digits) : Prop :=
  ∃ core, Text.Surrounds text core ∧ Hex.Gives core d

/-- Neither a digit nor a mark is blank. -/
theorem isTight_of_gives {core : String} (h : Hex.Gives core d) : Text.IsTight core := by
  have hdigit {c : Char} (hc : Hex.IsDigit c) : Text.isBlank c = false := by
    rw [Hex.IsDigit] at hc
    fin_cases hc <;> rfl
  have hall : ∀ c ∈ core.toList, Text.isBlank c = false := by
    intro c hc
    -- the digits are bare, or stand behind the two characters of the mark
    rcases h with rfl | rfl
    · rw [String.toList_ofList] at hc
      exact hdigit (d.isDigit c hc)
    · rw [d.toList_text, List.mem_cons, List.mem_cons] at hc
      rcases hc with rfl | rfl | hc
      · rfl
      · rfl
      · exact hdigit (d.isDigit c hc)
  exact ⟨fun c hc => hall c (List.mem_of_mem_head? hc),
    fun c hc => hall c (List.mem_of_mem_getLast? hc)⟩

/-- What is left of a text without blanks and mark are the digits it gives. -/
theorem withoutHexMark_trimmed_eq_iff :
    Text.withoutHexMark (Text.trimmed text) = String.ofList d.chars ↔ Gives text d := by
  rw [Hex.withoutHexMark_eq_iff]
  constructor
  · exact fun h => ⟨_, Text.surrounds_trimmed text, h⟩
  · rintro ⟨core, hsurrounds, h⟩
    rwa [(Text.trimmed_eq_iff (isTight_of_gives h)).2 hsurrounds]

/-- A text is decoded exactly when the digits it gives spell bytes. -/
theorem decode_eq_ok_iff : Hex.decode (Text.withoutHexMark (Text.trimmed text)) = .ok bytes
    ↔ ∃ d, Gives text d ∧ d.Spells bytes := by
  simp only [Hex.decode_eq_ok_iff, withoutHexMark_trimmed_eq_iff]

/-! ## Keys

A text holds a number when its 64 digits denote it. It is a key exactly when the number is in the
range of the curve, and each way of failing has an error of its own, tried in this order: digits,
length, range. -/

/-- Bytes are a key exactly when they are 32 and their number is that of the key. -/
theorem ofBytes_eq_ok_iff :
    ofBytes bytes = .ok key ↔ bytes.length = 32 ∧ Bytes.toNat bytes = key.toNat := by
  rw [← Scalar.ofBytes?_eq_some_iff]
  unfold ofBytes
  split
  · next hne => exact ⟨nofun, fun h => absurd h.1 hne⟩
  · next hlength =>
    rw [not_not] at hlength
    cases Scalar.ofBytes? bytes with
    | none => exact ⟨nofun, fun h => nomatch h.2⟩
    | some other => simp [hlength]

/-- A text is read as the bytes its digits spell. -/
theorem ofHex_of_spells (h : Gives text d) (hspells : d.Spells bytes) :
    ofHex text = ofBytes bytes := by
  rw [ofHex, decode_eq_ok_iff.2 ⟨d, h, hspells⟩]

/-- The text holds the number `n` as keys are given: 64 digits of either case. -/
def Holds (text : String) (n : Nat) : Prop :=
  ∃ d, Gives text d ∧ d.chars.length = 64 ∧ denoted 16 d.chars = n

/-- What the text holds is read from 32 bytes. -/
theorem Holds.exists_bytes {n : Nat} (h : Holds text n) :
    ∃ bytes, bytes.length = 32 ∧ Bytes.toNat bytes = n ∧ ofHex text = ofBytes bytes := by
  obtain ⟨d, hgives, hlength, rfl⟩ := h
  obtain ⟨bytes, hspells, -⟩ := Hex.Digits.exists_spells d.chars d.isDigit (by rw [hlength])
  have hbytes : d.chars.length = 2 * bytes.length := hspells.length
  exact ⟨bytes, by omega, hspells.value.symm, ofHex_of_spells hgives hspells⟩

/-- A text without an even number of digits is refused for its encoding. -/
theorem ofHex_of_not_even (h : ∀ d, Gives text d → d.chars.length % 2 ≠ 0) :
    ∃ reason, ofHex text = .error (.keyEncoding reason) := by
  unfold ofHex
  cases hread : Hex.decode (Text.withoutHexMark (Text.trimmed text)) with
  | error e => exact ⟨_, rfl⟩
  | ok bytes =>
    -- what is read as bytes has two digits for each of them
    obtain ⟨d, hgives, hspells⟩ := decode_eq_ok_iff.1 hread
    refine absurd ?_ (h d hgives)
    rw [hspells.length]
    omega

/-- A text with an even number of digits other than 64 is refused for its length, which the error
gives in bytes. -/
theorem ofHex_of_length_ne (h : Gives text d) (heven : d.chars.length % 2 = 0)
    (hne : d.chars.length ≠ 64) : ofHex text = .error (.keyLength (d.chars.length / 2)) := by
  obtain ⟨bytes, hspells, -⟩ := Hex.Digits.exists_spells d.chars d.isDigit heven
  have hlength : d.chars.length = 2 * bytes.length := hspells.length
  have hhalf : d.chars.length / 2 = bytes.length := by omega
  rw [ofHex_of_spells h hspells, ofBytes, if_pos (by omega), hhalf]

/-- A number outside the range of the curve is refused as no secret key. -/
theorem ofHex_of_not_inRange {n : Nat} (h : Holds text n) (hrange : ¬ Scalar.InRange n) :
    ofHex text = .error .secretKey := by
  obtain ⟨bytes, hlength, rfl, hread⟩ := h.exists_bytes
  rw [hread, ofBytes, if_neg (not_not.2 hlength), Scalar.ofBytes?_eq_none_iff.2 hrange]

/-- A text is read as a key exactly when it holds the number of the key. -/
theorem ofHex_eq_ok_iff : ofHex text = .ok key ↔ Holds text key.toNat := by
  constructor
  · intro h
    unfold ofHex at h
    split at h
    · cases h
    · next bytes hread =>
      -- the digits spell the bytes, so both have one number
      obtain ⟨d, hgives, hspells⟩ := decode_eq_ok_iff.1 hread
      obtain ⟨hlength, hvalue⟩ := ofBytes_eq_ok_iff.1 h
      exact ⟨d, hgives, by rw [hspells.length, hlength], hspells.value.trans hvalue⟩
  · intro h
    obtain ⟨bytes, hlength, hvalue, hread⟩ := h.exists_bytes
    exact hread.trans (ofBytes_eq_ok_iff.2 ⟨hlength, hvalue⟩)

/-- Whatever is wrong with the text of a key concerns the key. -/
theorem ofCrypto_of_ofHex {e : CryptoError} (h : ofHex text = .error e) :
    ClientError.ofCrypto e = .key e := by
  unfold ofHex at h
  -- each of the three errors is one about keys
  split at h
  · cases h
    rfl
  · unfold ofBytes at h
    split at h
    · cases h
      rfl
    · split at h
      · cases h
        rfl
      · cases h

end SecretKey

/-! ## Wallets and clients

Wallets and clients read their keys through the same function, and each wraps its errors in its own
way. -/

theorem Wallet.ofHex_of_ok {text : String} {key : SecretKey} (h : SecretKey.ofHex text = .ok key) :
    Wallet.ofHex text = .ok ⟨key⟩ := by
  rw [Wallet.ofHex, h]

theorem Wallet.ofHex_of_error {text : String} {e : CryptoError}
    (h : SecretKey.ofHex text = .error e) : Wallet.ofHex text = .error (.crypto e) := by
  rw [Wallet.ofHex, h]

/-- An error in reading the key of a client with a valid configuration is a key error of the client.
-/
theorem Client.connect_of_ofHex {text : String} {config : ClientConfig} {e : CryptoError}
    (hvalid : config.validate = .ok ()) (h : SecretKey.ofHex text = .error e) :
    Client.connect text config = .error (.key e) := by
  rw [connect, hvalid, Wallet.ofHex_of_error h, ← SecretKey.ofCrypto_of_ofHex h]
  rfl

namespace SecretKey

variable [SignatureScheme]

/-- How a text is read as a key, by wallets and clients too. -/
structure ReadsKey (text : String) : Prop where
  succeeds_iff : (∃ key, ofHex text = .ok key) ↔ ∃ n, Holds text n ∧ Scalar.InRange n
  ok_iff : ∀ key, ofHex text = .ok key ↔ Holds text key.toNat
  bytes : ∀ d bytes, Gives text d → d.Spells bytes → ofHex text = ofBytes bytes
  /-- All texts of one key lead to it and to its account. -/
  spellings : ∀ other (key : SecretKey), Holds text key.toNat → Holds other key.toNat →
    ofHex other = ofHex text
      ∧ (Wallet.ofHex other).map Wallet.address = (Wallet.ofHex text).map Wallet.address
  notEven : (∀ d, Gives text d → d.chars.length % 2 ≠ 0) →
    ∃ reason, ofHex text = .error (.keyEncoding reason)
  notLength : ∀ d, Gives text d → d.chars.length % 2 = 0 → d.chars.length ≠ 64 →
    ofHex text = .error (.keyLength (d.chars.length / 2))
  notInRange : ∀ n, Holds text n → ¬ Scalar.InRange n → ofHex text = .error .secretKey
  wallet : ∀ e, ofHex text = .error e → Wallet.ofHex text = .error (.crypto e)
  client : ∀ config : ClientConfig, config.validate = .ok () → ∀ e, ofHex text = .error e →
    Client.connect text config = .error (.key e)

/-- All that is said of texts and keys, for every text. -/
theorem reads_keys (text : String) : ReadsKey text := by
  constructor
  · constructor
    · rintro ⟨key, h⟩
      exact ⟨key.toNat, ofHex_eq_ok_iff.1 h, key.inRange⟩
    · rintro ⟨n, h, hpos, hlt⟩
      exact ⟨⟨n, hpos, hlt⟩, ofHex_eq_ok_iff.2 h⟩
  · exact fun key => ofHex_eq_ok_iff
  · exact fun d bytes => ofHex_of_spells
  · -- two texts that hold the same number give the same key, and the same wallet
    intro other key h hother
    have hread := ofHex_eq_ok_iff.2 h
    have hreadOther := ofHex_eq_ok_iff.2 hother
    rw [hread, hreadOther, Wallet.ofHex_of_ok hread, Wallet.ofHex_of_ok hreadOther]
    exact ⟨rfl, rfl⟩
  · exact ofHex_of_not_even
  · exact fun d => ofHex_of_length_ne
  · exact fun n => ofHex_of_not_inRange
  · exact fun e => Wallet.ofHex_of_error
  · exact fun config hvalid e => Client.connect_of_ofHex hvalid

example : ofHex " 0x1234\n" = .error (.keyLength 2) := by
  decide +kernel

end SecretKey

end NftExchange
