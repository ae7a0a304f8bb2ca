import NftExchange.Proofs.Quantity.Number

/-!
# The forms of a quantity

A quantity can be written as a number, as decimal text and as hexadecimal text, and comes back from
each of these forms, straight from the document and through a value. A number takes the route that
its size and its digits give it; on all of them its digits are kept.

* **`decodes_number`** — a number of any size, too large ones included;
* **`quantityText_toString`** and **`quantityText_of_parseQuantity`** — texts that stand for a
  quantity;
* **`decodes_forms`** — all forms together.
-/

namespace NftExchange

open Json (StringDocument NumberDocument)

namespace Quantity

/-! ## Numbers

A bare number is a quantity on both paths when it is written without a sign, a fraction and an
exponent, and the paths agree on it. -/

/-- A number is read by its digits, whatever route it takes. -/
theorem decodes_number {n : Nat} {document : String} (h : NumberDocument (.ofNat n) document) :
    Codec.quantity.Decodes document (ofNat n) := by
  have hplain := Numeral.isPlain_ofNat n
  have hdigits : ofPlainNumeral (.ofNat n) = ofNat n := by
    rw [ofPlainNumeral_of_isPlain hplain]
    exact congrArg ofNat (Decimal.toNat_ofNat n)
  constructor
  · rw [h.direct_eq, hdigits]
  · rw [h.value_eq, ofNumeral_of_isPlain hplain, hdigits]

theorem ofNat_toNat (a : UInt256) : ofNat a.toNat = .ok a := ofNat_eq_ok_iff.2 rfl

/-- A number that needs more than 256 bits is refused, and the error gives it in decimal. -/
theorem ofNat_of_le {n : Nat} (h : 2 ^ 256 ≤ n) :
    ofNat n = .error (.wideQuantity (toString n)) := by
  have hnone : UInt256.ofNat? n = none := if_neg (Nat.not_lt.2 h)
  rw [ofNat, hnone]

/-! ## Texts

A string is a quantity when it is a decimal number or has a mark and hexadecimal digits. The
shortest spelling, which is the one written, is among them. -/

theorem decodes_text {text document : String} {a : UInt256} (htext : QuantityText text a.toNat)
    (h : StringDocument text document) : Codec.quantity.Decodes document (.ok a) := by
  rw [← htext.ofText_eq rfl]
  exact h.decodes

/-- A number in decimal is the text of a quantity. -/
theorem quantityText_toString {n : Nat} (h : n < 2 ^ 256) : QuantityText (toString n) n := by
  have hparse : Decimal.parse? (Bytes.ofText (toString n)) = some n := by
    show Decimal.parse? (Decimal.ofNat n) = some n
    rw [Decimal.parse?, if_pos (List.all_eq_true.2 (Decimal.isDigit_of_mem_ofNat n)),
      Decimal.toNat_ofNat]
  obtain ⟨digits, hdigits, htext, hvalue⟩ := Decimal.exists_of_parse? hparse
  -- even zero is written with a digit
  have hne : digits ≠ [] := by
    rintro rfl
    refine Decimal.ofNat_ne_nil n ?_
    rw [Decimal.ofNat, htext]
    rfl
  rw [htext, hvalue]
  rw [hvalue] at h
  exact .decimal hdigits hne h

/-- Every text that is read as the quantity of a field stands for the same quantity here. -/
theorem quantityText_of_parseQuantity {text : String} {a : UInt256}
    (h : Hex.parseQuantity text = .ok a) : QuantityText text a.toNat := by
  obtain ⟨mark, digits, hmark, rfl, -, hlength, hvalue⟩ := Hex.parseQuantity_eq_ok_iff.1 h
  rw [← hvalue]
  exact .hex hmark hlength

/-! ## All forms

The forms come together here: everything that denotes one quantity is decoded as it. -/

/-- The forms in which a quantity arrives, and the one in which it is written. -/
structure HasForms (a : UInt256) : Prop where
  number : ∀ document, NumberDocument (.ofNat a.toNat) document →
    Codec.quantity.Decodes document (.ok a)
  decimal : ∀ document, StringDocument (toString a.toNat) document →
    Codec.quantity.Decodes document (.ok a)
  /-- Hexadecimal digits of either case behind either mark, zeros in front of them included. -/
  hex : ∀ mark (digits : Hex.Digits) document, Hex.IsMark mark → digits.chars.length ≤ 64 →
    denoted 16 digits.chars = a.toNat →
    StringDocument (mark ++ String.ofList digits.chars) document →
    Codec.quantity.Decodes document (.ok a)
  /-- What is written is the shortest text in lower case. -/
  written : ∃ digits : Hex.Digits, digits.IsShortest a.toNat
    ∧ Codec.quantity.encode a = .str ("0x" ++ String.ofList digits.chars)
    ∧ Codec.quantity.Decodes (Codec.quantity.render a) (.ok a)
  field : ∀ text document, Hex.parseQuantity text = .ok a → StringDocument text document →
    Codec.quantity.Decodes document (.ok a)

/-- A quantity is read from each of its forms, directly and through a value, and a number that is
too large for one is refused on both ways. -/
theorem decodes_forms :
    (∀ a, HasForms a)
      ∧ ∀ n document, 2 ^ 256 ≤ n → NumberDocument (.ofNat n) document →
        Codec.quantity.Decodes document (.error (.wideQuantity (toString n))) := by
  refine ⟨fun a => ?_, fun n document hwide h => ?_⟩
  · have hhex {mark : String} {digits : Hex.Digits} {document : String} (hmark : Hex.IsMark mark)
        (hlength : digits.chars.length ≤ 64) (hvalue : denoted 16 digits.chars = a.toNat)
        (h : StringDocument (mark ++ String.ofList digits.chars) document) :
        Codec.quantity.Decodes document (.ok a) := by
      refine decodes_text ?_ h
      rw [← hvalue]
      exact .hex hmark hlength
    -- the forms of the structure in its order, the two hexadecimal ones by the fact above
    constructor
    · intro document h
      rw [← ofNat_toNat]
      exact decodes_number h
    · intro document h
      exact decodes_text (quantityText_toString a.isLt) h
    · intro mark digits document
      exact hhex
    · have hshortest := Hex.Digits.isShortest_ofNat a.toNat
      refine ⟨_, hshortest, rfl, ?_⟩
      exact hhex (.inl rfl) (Hex.Digits.length_ofNat_le (a.isLt.trans_eq (by norm_num)) (by decide))
        hshortest.denotes (Json.stringDocument_render _)
    · intro text document hparse h
      exact decodes_text (quantityText_of_parseQuantity hparse) h
  · rw [← ofNat_of_le hwide]
    exact decodes_number h

end Quantity

end NftExchange
