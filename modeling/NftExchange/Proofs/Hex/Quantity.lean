import Mathlib
import NftExchange.Json.Codec
import NftExchange.Proofs.BigEndian
import NftExchange.Proofs.Hex

/-!
# Quantities, addresses and digests as text

What a node and its clients exchange are quantities without leading zeros and byte strings of a
fixed width. Both are read back from the text that is written for them.

* **`parseQuantity_quantity`** and **`parseUInt64_quantity`** — a number is read from its quantity;
* **`parse_text`** — an address or a digest is read from its text;
* **`decode_fixedBytes`** — so is any value of fixed width that arrives in an answer.
-/

namespace NftExchange

namespace Hex

/-! ## Digits of a number

The digits of a number as bytes. The reader folds over them from the front, while the number is
taken apart from the back, so the induction is on the number with its last digit split off. -/

/-- A digit of a quantity is one byte, and that byte has the digit's value. -/
theorem utf8EncodeChar_digitChar (n : Nat) (h : n < 16) :
    ∃ b, String.utf8EncodeChar (Nat.digitChar n) = [b] ∧ value? b = some n := by
  refine ⟨UInt8.ofNat (Nat.digitChar n).toNat, ?_⟩
  revert n
  decide

/-- The bytes of the digits of a number. -/
def digitBytes (n : Nat) : Bytes := Bytes.ofText (String.ofList (Nat.toDigits 16 n))

theorem toNat?_append_singleton (digits : Bytes) (b : UInt8) :
    toNat? (digits ++ [b]) = (toNat? digits).bind fun n => (16 * n + ·) <$> value? b := by
  rw [toNat?, List.foldlM_append]
  simp only [List.foldlM_cons, List.foldlM_nil, bind_pure]
  rfl

/-- The bytes of a number from sixteen on are those of its sixteenth part and a last one. -/
theorem digitBytes_of_le {n : Nat} (h : 16 ≤ n) :
    ∃ b, digitBytes n = digitBytes (n / 16) ++ [b] ∧ value? b = some (n % 16) := by
  obtain ⟨b, hb, hvalue⟩ := utf8EncodeChar_digitChar (n % 16) (Nat.mod_lt n (by decide))
  refine ⟨b, ?_, hvalue⟩
  rw [digitBytes, digitBytes, Nat.toDigits_of_base_le (by decide) h, Bytes.ofText_ofList,
    List.flatMap_append, List.flatMap_singleton, hb, Bytes.ofText_ofList]

theorem digitBytes_of_lt {n : Nat} (h : n < 16) :
    ∃ b, digitBytes n = [b] ∧ value? b = some n := by
  obtain ⟨b, hb, hvalue⟩ := utf8EncodeChar_digitChar n h
  refine ⟨b, ?_, hvalue⟩
  rw [digitBytes, Nat.toDigits_of_lt_base h, Bytes.ofText_ofList, List.flatMap_singleton, hb]

/-- The digits of a number are read as the number. -/
theorem toNat?_digitBytes (n : Nat) : toNat? (digitBytes n) = some n := by
  -- the last digit is split off; those before it are the digits of `n / 16`
  induction n using Nat.strong_induction_on with
  | _ n ih =>
    rcases Nat.lt_or_ge n 16 with hlt | hge
    · obtain ⟨b, hb, hvalue⟩ := digitBytes_of_lt hlt
      have hone := toNat?_append_singleton [] b
      rw [hvalue] at hone
      rw [hb]
      exact hone.trans (by simp [toNat?])
    · obtain ⟨b, hb, hvalue⟩ := digitBytes_of_le hge
      rw [hb, toNat?_append_singleton, ih (n / 16) (by omega), hvalue]
      show some (16 * (n / 16) + n % 16) = some n
      rw [Nat.div_add_mod]

/-- Each digit takes one byte. -/
theorem length_digitBytes (n : Nat) : (digitBytes n).length = (Nat.toDigits 16 n).length := by
  induction n using Nat.strong_induction_on with
  | _ n ih =>
    rcases Nat.lt_or_ge n 16 with hlt | hge
    · obtain ⟨b, hb, -⟩ := digitBytes_of_lt hlt
      rw [hb, Nat.toDigits_of_lt_base hlt]
      rfl
    · obtain ⟨b, hb, -⟩ := digitBytes_of_le hge
      rw [hb, Nat.toDigits_of_base_le (by decide) hge, List.length_append, List.length_append,
        ih (n / 16) (by omega)]
      rfl

/-- A number of 256 bits has at most 64 digits. -/
theorem length_digitBytes_le {n : Nat} (h : n < Bytes.capacity 32) :
    (digitBytes n).length ≤ 64 := by
  rw [length_digitBytes, Nat.length_toDigits_le_iff (by decide) (by decide)]
  exact h

/-! ## Quantities

What is written for a number is read as the number, with either reader. -/

/-- Behind the mark of a quantity stand the digits of its number. -/
theorem afterMark?_quantity (n : Nat) : afterMark? (quantity n) = some (digitBytes n) := by
  rw [afterMark?, quantity, Bytes.ofText_append]
  rfl

/-- A quantity is read back. -/
theorem parseQuantity_quantity {n : Nat} (h : n < Bytes.capacity 32) :
    parseQuantity (quantity n) = .ok (.ofNat 256 n) := by
  have hpos : 0 < (digitBytes n).length := by
    rw [length_digitBytes]
    exact Nat.length_toDigits_pos
  have hle := length_digitBytes_le h
  have hshape : ¬ ((digitBytes n).isEmpty ∨ (digitBytes n).length > 64) := by
    rw [List.isEmpty_iff_length_eq_zero]
    omega
  simp only [parseQuantity, afterMark?_quantity, Option.bind_eq_bind, Option.bind_some,
    if_neg hshape, toNat?_digitBytes]

/-- A quantity of a word is read back as the word. -/
theorem parseUInt64_quantity (n : UInt64) : parseUInt64 (quantity n.toNat) = .ok n := by
  have hfits : n.toNat < Bytes.capacity 32 := n.toNat_lt_capacity
  rw [parseUInt64, parseQuantity_quantity hfits]
  simp only [bind, Except.bind, UInt256.toNat_ofNat hfits, UInt64.ofNat?_toNat]
  rfl

/-! ## Values of fixed width

Addresses and digests are written as the marked text of their bytes, and read back by any reader
that knows the width. -/

theorem parseFixed?_text {width : Nat} (a : FixedBytes width) :
    parseFixed? width a.text = some a := by
  rw [parseFixed?, FixedBytes.text, parseBytes_marked]
  exact a.ofBytes?_toBytes

end Hex

theorem Address.parse_text (a : Address) : Address.parse a.text = .ok a := by
  rw [Address.parse, Hex.parseFixed?_text]

theorem Hash.parse_text (a : Hash) : Hash.parse a.text = .ok a := by
  rw [Hash.parse, Hex.parseFixed?_text]

namespace Codec

/-- The two halves of each byte. -/
private def halves (bytes : Bytes) : List Nat :=
  bytes.flatMap fun b => [b.toNat / 16, b.toNat % 16]

/-- Written digits hold no blank, and each has its value. -/
private theorem nibbles?_encode (bytes : Bytes) :
    nibbles? (Bytes.ofText (Hex.encode bytes)) = some (halves bytes) := by
  induction bytes with
  | nil => rfl
  | cons b bytes ih =>
    obtain ⟨high, hhigh, vhigh⟩ := Hex.utf8EncodeChar_digit (b.toNat / 16) (by
      have := b.toNat_lt
      omega)
    obtain ⟨low, hlow, vlow⟩ := Hex.utf8EncodeChar_digit (b.toNat % 16) (by omega)
    have hsplit : Bytes.ofText (Hex.encode (b :: bytes))
        = high :: low :: Bytes.ofText (Hex.encode bytes) := by
      simp only [Hex.encode, Bytes.ofText_ofList, List.flatMap_cons, List.cons_append,
        List.nil_append, hhigh, hlow]
    -- a digit has a value, and no blank has one
    have hblank {d : UInt8} {n : Nat} (hd : Hex.value? d = some n) : Json.isBlank d = false := by
      by_contra h
      simp only [Bool.not_eq_false, Json.isBlank, Bool.or_eq_true, beq_iff_eq] at h
      rcases h with ((rfl | rfl) | rfl) | rfl <;> cases hd
    rw [nibbles?] at ih ⊢
    simp only [hsplit, List.filter_cons, hblank vhigh, hblank vlow, Bool.not_false, if_true,
      List.mapM_cons, vhigh, vlow, ih]
    rfl

/-- The halves of bytes make up the bytes. -/
private theorem bytesOfNibbles_halves (bytes : Bytes) : bytesOfNibbles (halves bytes) = bytes := by
  induction bytes with
  | nil => rfl
  | cons b bytes ih =>
    show UInt8.ofNat (16 * (b.toNat / 16) + b.toNat % 16) :: bytesOfNibbles (halves bytes) = _
    rw [ih, Nat.div_add_mod, UInt8.ofNat_toNat]

/-- A refined text is read by its check. -/
theorem decode_refine_string {β : Type} (toInner : β → String)
    (check : String → Except JsonError β) (text : String) :
    (string.refine toInner check).decode (.str text) = check text := rfl

/-- A value of fixed width is read back from its text in a value. -/
theorem decode_fixedBytes {width : Nat} (a : FixedBytes width) :
    (fixedBytes width).decode (.str a.text) = .ok a := by
  have hbytes : Bytes.ofText a.text = 0x30 :: 0x78 :: Bytes.ofText (Hex.encode a.toBytes) := by
    rw [FixedBytes.text, Hex.marked, Bytes.ofText_append]
    rfl
  have hlength : (Bytes.ofText (Hex.encode a.toBytes)).length = 2 * width := by
    rw [Hex.length_ofText_encode, a.length_toBytes]
  have htext : fixedOfText? width a.text = some a := by
    simp only [fixedOfText?, hbytes, hlength, ne_eq, not_true_eq_false, if_false,
      nibbles?_encode, Option.bind_eq_bind, Option.bind_some, bytesOfNibbles_halves,
      a.length_toBytes, Nat.sub_self, List.replicate_zero, List.append_nil, a.ofBytes?_toBytes]
  rw [fixedBytes, decode_refine_string, htext]

end Codec

end NftExchange
