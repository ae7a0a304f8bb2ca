import Mathlib
import NftExchange.Hex.Marked

/-!
# Hexadecimal text with and without its mark

The mark `0x` comes off again, so bytes survive their marked text, and what stands after the mark
are two lower-case digits for each byte.

* **`Text.dropLead?_eq_some_iff`** — what comes off the front of a text;
* **`parseBytes_marked`** — a byte string is read from its marked text;
* **`isLowerDigit_of_mem_encode`** and **`length_encode`** — the shape of that text.
-/

namespace NftExchange

namespace Text

theorem dropLead?_append (lead text : String) : dropLead? lead (lead ++ text) = some text := by
  have hlead : lead.toList.isPrefixOf (lead.toList ++ text.toList) = true :=
    List.isPrefixOf_iff_prefix.2 (List.prefix_append _ _)
  rw [dropLead?, String.toList_append, if_pos hlead, ← String.length_toList, List.drop_left,
    String.ofList_toList]

/-- What comes off the front of a text is the lead, and nothing else does. -/
theorem dropLead?_eq_some_iff {lead text rest : String} :
    dropLead? lead text = some rest ↔ text = lead ++ rest := by
  constructor
  · intro h
    -- a result means that the lead was found
    have hlead : lead.toList.isPrefixOf text.toList = true := by
      by_contra hnone
      rw [dropLead?, if_neg hnone] at h
      cases h
    obtain ⟨tail, htail⟩ := List.isPrefixOf_iff_prefix.1 hlead
    have htext : text = lead ++ String.ofList tail := by
      rw [← String.toList_inj, String.toList_append, String.toList_ofList, htail]
    rw [htext, dropLead?_append] at h
    rw [htext, Option.some.inj h]
  · rintro rfl
    exact dropLead?_append lead rest

theorem withoutHexMark_append (text : String) : withoutHexMark ("0x" ++ text) = text := by
  rw [withoutHexMark, dropLead?_append]
  rfl

/-- At most one mark comes off a text. -/
theorem withoutHexMark_cases (text : String) :
    (∃ rest, text = "0x" ++ rest ∧ withoutHexMark text = rest) ∨ withoutHexMark text = text := by
  cases hlead : dropLead? "0x" text with
  | some rest =>
    refine .inl ⟨rest, dropLead?_eq_some_iff.1 hlead, ?_⟩
    rw [withoutHexMark, hlead]
    rfl
  | none =>
    refine .inr ?_
    rw [withoutHexMark, hlead]
    rfl

end Text

namespace Hex

/-! ## Digits

What is written has two digits for each byte, all of them in lower case. -/

/-- A digit in lower case. -/
def IsLowerDigit (c : Char) : Prop := c ∈ "0123456789abcdef".toList

theorem isLowerDigit_digit {n : Nat} (h : n < 16) : IsLowerDigit (digit n) := by
  have hall : ∀ n < 16, digit n ∈ "0123456789abcdef".toList := by decide
  exact hall n h

/-- Each byte is written with two digits, the high one first. -/
theorem toList_encode (bytes : Bytes) :
    (encode bytes).toList = bytes.flatMap fun b => [digit (b.toNat / 16), digit (b.toNat % 16)] :=
  String.toList_ofList

/-- So everything that is written is in lower case. -/
theorem isLowerDigit_of_mem_encode {bytes : Bytes} {c : Char} (h : c ∈ (encode bytes).toList) :
    IsLowerDigit c := by
  rw [toList_encode] at h
  obtain ⟨b, -, hc⟩ := List.mem_flatMap.1 h
  have hb : b.toNat < 256 := b.toNat_lt
  rcases List.mem_cons.1 hc with rfl | hc
  · exact isLowerDigit_digit (by omega)
  · rw [List.mem_singleton.1 hc]
    exact isLowerDigit_digit (by omega)

/-- And it is twice as long as the bytes. -/
theorem length_encode (bytes : Bytes) : (encode bytes).length = 2 * bytes.length := by
  rw [← String.length_toList, toList_encode]
  induction bytes with
  | nil => rfl
  | cons b bytes ih =>
    rw [List.flatMap_cons, List.length_append, ih]
    show 2 + 2 * bytes.length = 2 * (bytes.length + 1)
    omega

/-! ## Byte strings

With the mark in front the digits of a byte string are read back, whatever the bytes are. -/

/-- A byte string is read back from its marked text. -/
theorem parseBytes_marked (bytes : Bytes) : parseBytes (marked bytes) = .ok bytes := by
  rw [parseBytes, marked, Text.withoutHexMark_append, decode_encode]

end Hex

end NftExchange
