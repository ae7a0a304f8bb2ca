import Mathlib
import NftExchange.Bytes

/-!
# Characters as bytes

What readers of bytes need to know of UTF-8: a character below `0x80` is one byte, its own
number, and every byte of any other character is at least `0x80`. So a reader that looks for
ASCII marks never finds one inside a longer character.

* **`ofText_eq_flatMap`** — the bytes of a text are the bytes of its characters, one after the
  other.
* **`le_of_mem_utf8EncodeChar`** — no byte of a non-ASCII character is ASCII.
* **`exists_ofAscii`** — ASCII bytes are those of characters, one byte for each.
-/

namespace NftExchange.Bytes

open String (utf8EncodeChar)

/-! ## One character

An ASCII character is one byte below 0x80, and all bytes of any other character lie above. -/

/-- An ASCII character is encoded as its own number. -/
theorem utf8EncodeChar_of_ascii {c : Char} (h : c.toNat < 0x80) :
    utf8EncodeChar c = [UInt8.ofNat c.toNat] := by
  have hle : c.val.toNat ≤ 0x7f := by
    have : c.val.toNat = c.toNat := rfl
    omega
  -- the first of the four lengths that the encoding tells apart
  show (if c.val.toNat ≤ 0x7f then [UInt8.ofNat c.val.toNat] else _) = _
  rw [if_pos hle]
  rfl

private theorem le_ofNat {n : Nat} (h : 0x80 ≤ n % 256) : 0x80 ≤ (UInt8.ofNat n).toNat := by
  rw [UInt8.toNat_ofNat']
  exact h

/-- No byte of a character from `0x80` on is below `0x80`. -/
theorem le_of_mem_utf8EncodeChar {c : Char} (h : 0x80 ≤ c.toNat) {b : UInt8}
    (hb : b ∈ utf8EncodeChar c) : 0x80 ≤ b.toNat := by
  have hval : c.val.toNat = c.toNat := rfl
  unfold utf8EncodeChar at hb
  simp only [hval] at hb
  rw [if_neg (by omega)] at hb
  -- two, three or four bytes: a leading byte from `0xc0` on, then bytes from `0x80` on
  split at hb
  · simp only [List.mem_cons, List.not_mem_nil, or_false] at hb
    rcases hb with rfl | rfl <;> exact le_ofNat (by omega)
  · split at hb
    · simp only [List.mem_cons, List.not_mem_nil, or_false] at hb
      rcases hb with rfl | rfl | rfl <;> exact le_ofNat (by omega)
    · simp only [List.mem_cons, List.not_mem_nil, or_false] at hb
      rcases hb with rfl | rfl | rfl | rfl <;> exact le_ofNat (by omega)

/-! ## Texts

The bytes of a text are those of its characters, one after the other. -/

theorem ofText_singleton (c : Char) : ofText (String.singleton c) = utf8EncodeChar c := by
  have h : String.singleton c = String.ofList [c] := by simp
  rw [h, ofText_ofList, List.flatMap_cons, List.flatMap_nil, List.append_nil]

/-- The bytes of a text are those of its characters, one after the other. -/
theorem ofText_eq_flatMap (text : String) :
    ofText text = text.toList.flatMap utf8EncodeChar := by
  rw [← ofText_ofList, String.ofList_toList]

/-- The bytes of joined texts are those of the texts, joined. -/
theorem ofText_join (texts : List String) :
    ofText (String.join texts) = texts.flatMap ofText := by
  induction texts with
  | nil => rfl
  | cons text texts ih => rw [String.join_cons, ofText_append, ih, List.flatMap_cons]

/-! ## ASCII

Where only ASCII characters occur, texts and bytes are the same up to a renaming, in both
directions. -/

/-- ASCII characters as bytes. -/
def ofAscii (cs : List Char) : Bytes := cs.map fun c => UInt8.ofNat c.toNat

/-- ASCII characters are one byte each. -/
theorem ofText_ofList_of_ascii {cs : List Char} (h : ∀ c ∈ cs, c.toNat < 0x80) :
    ofText (String.ofList cs) = ofAscii cs := by
  rw [ofText_ofList]
  induction cs with
  | nil => rfl
  | cons c cs ih =>
    rw [List.flatMap_cons, utf8EncodeChar_of_ascii (h c List.mem_cons_self),
      ih fun x hx => h x (List.mem_cons_of_mem _ hx)]
    rfl

private theorem toNat_ofNat_of_ascii : ∀ n < 0x80, (Char.ofNat n).toNat = n := by
  decide

/-- ASCII bytes are those of the characters that they number. -/
theorem ofAscii_map {bytes : Bytes} (h : ∀ b ∈ bytes, b.toNat < 0x80) :
    ofAscii (bytes.map fun b => Char.ofNat b.toNat) = bytes := by
  rw [ofAscii, List.map_map]
  refine (List.map_congr_left fun b hb => ?_).trans (List.map_id bytes)
  show UInt8.ofNat (Char.ofNat b.toNat).toNat = b
  rw [toNat_ofNat_of_ascii b.toNat (h b hb), UInt8.ofNat_toNat]

/-- Bytes below 0x80 are those of the text they spell. -/
theorem ofText_ofList_ascii {bytes : Bytes} (h : ∀ b ∈ bytes, b.toNat < 0x80) :
    ofText (String.ofList (bytes.map fun b => Char.ofNat b.toNat)) = bytes := by
  rw [ofText_ofList_of_ascii, ofAscii_map h]
  intro c hc
  obtain ⟨b, hb, rfl⟩ := List.mem_map.1 hc
  rw [toNat_ofNat_of_ascii b.toNat (h b hb)]
  exact h b hb

/-- Bytes of ASCII characters of a kind are those of a list of such characters. -/
theorem exists_ofAscii (kind : Char → Prop) {bytes : Bytes}
    (h : ∀ b ∈ bytes, b.toNat < 0x80 ∧ kind (Char.ofNat b.toNat)) :
    ∃ cs, (∀ c ∈ cs, kind c) ∧ ofAscii cs = bytes := by
  refine ⟨_, fun c hc => ?_, ofAscii_map fun b hb => (h b hb).1⟩
  obtain ⟨b, hb, rfl⟩ := List.mem_map.1 hc
  exact (h b hb).2

end NftExchange.Bytes
