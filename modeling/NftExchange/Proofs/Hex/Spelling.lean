import NftExchange.Proofs.Digits
import NftExchange.Proofs.Except
import NftExchange.Proofs.Hex.Quantity

/-!
# Byte strings as digits

A byte string and the digits that spell it are one number in two bases, and of one width: two digits
for each byte. So the digits determine the bytes, and up to the case of their letters the bytes
determine the digits.

* **`decode_eq_ok_iff`** — the texts that are read are those of digits, and they are read as the
  bytes that the digits spell;
* **`withoutHexMark_eq_iff`** — one mark comes off, and none comes off digits;
* **`Digits.Spells.encode_eq`** — what is written of the bytes are their digits in lower case;
* **`reads_bytes`** — what follows for byte strings, addresses and digests in fields.
-/

namespace NftExchange

namespace Hex

/-! ## Digits that spell bytes

Digits spell bytes if they are twice as many and denote the same number. Said in this way no
recursion has to be followed: that the bytes are unique and that a pair of digits is one byte are
facts about numbers. -/

namespace Digits

/-- The digits spell the bytes: two for each byte, the high one first. As widths agree, this says
that both are the same number. -/
structure Spells (d : Digits) (bytes : Bytes) : Prop where
  length : d.chars.length = 2 * bytes.length
  value : denoted 16 d.chars = Bytes.toNat bytes

/-- Digits spell one byte string only. -/
theorem Spells.unique {d : Digits} {bytes other : Bytes} (h : d.Spells bytes)
    (h' : d.Spells other) : bytes = other := by
  have hlength := h.length
  rw [h'.length] at hlength
  exact Bytes.toNat_inj_of_length (by omega) (h.value.symm.trans h'.value)

/-- Two digits in front spell one byte more. -/
theorem Spells.cons {d : Digits} {bytes : Bytes} (h : d.Spells bytes) {high low : Char}
    (hhigh : IsDigit high) (hlow : IsDigit low) :
    Spells ⟨high :: low :: d.chars, List.forall_mem_cons.2 ⟨hhigh, List.forall_mem_cons.2
        ⟨hlow, d.isDigit⟩⟩⟩
      (.ofNat (16 * digitValue high + digitValue low) :: bytes) where
  length := by
    show d.chars.length + 2 = 2 * (bytes.length + 1)
    rw [h.length]
    omega
  value := by
    -- the pair counts for the capacity of the bytes that follow it
    have hsplit : denoted 16 (high :: low :: d.chars)
        = denoted 16 [high, low] * 16 ^ d.chars.length + denoted 16 d.chars :=
      denoted_append 16 [high, low] d.chars
    have hpair : denoted 16 [high, low] = 16 * digitValue high + digitValue low := by
      simp [denoted, Nat.ofDigits]
      omega
    have hcapacity : Bytes.capacity bytes.length = 16 ^ d.chars.length := by
      rw [h.length, pow_mul]
      rfl
    have hbyte : 16 * digitValue high + digitValue low < 256 := by
      have := hhigh.spec.2.1
      have := hlow.spec.2.1
      omega
    rw [hsplit, hpair, h.value, Bytes.toNat_cons, hcapacity, UInt8.toNat_ofNat_of_lt' hbyte]

/-- An even number of digits spells bytes, and is read as them. -/
theorem exists_spells (digits : List Char) (h : ∀ c ∈ digits, IsDigit c)
    (heven : digits.length % 2 = 0) :
    ∃ bytes, Spells ⟨digits, h⟩ bytes
      ∧ ∀ position, decodePairs position (Bytes.ofAscii digits) = .ok bytes := by
  -- digits come in pairs, so the induction takes two at a time
  induction digits using List.twoStepInduction with
  | nil => exact ⟨[], ⟨rfl, rfl⟩, fun _ => rfl⟩
  | singleton c => exact absurd heven (by simp)
  | cons_cons high low digits ih =>
    have hhigh : IsDigit high := h high (by simp)
    have hlow : IsDigit low := h low (by simp)
    have hrest : digits.length % 2 = 0 := by
      rw [List.length_cons, List.length_cons] at heven
      omega
    obtain ⟨bytes, hspells, hread⟩ := ih (fun c hc => h c (by simp [hc])) hrest
    refine ⟨_, hspells.cons hhigh hlow, fun position => ?_⟩
    show decodePairs position (_ :: _ :: Bytes.ofAscii digits) = _
    simp only [decodePairs, hhigh.spec.2.2, hlow.spec.2.2, hread]
    rfl

end Digits

/-! ## Texts of digits

The reader of bare digits takes them in pairs. It accepts a text exactly if its digits spell bytes,
and gives these bytes. -/

/-- An even number of bytes that are read are bytes of digits. -/
theorem isSome_of_mem_of_decodePairs {raw bytes : Bytes} {position : Nat}
    (heven : raw.length % 2 = 0) (h : decodePairs position raw = .ok bytes) :
    ∀ b ∈ raw, ∃ v, value? b = some v := by
  -- the reader takes two digits for a byte, and so does the induction
  induction raw using List.twoStepInduction generalizing position bytes with
  | nil => exact nofun
  | singleton b => exact absurd heven (by simp)
  | cons_cons high low raw ih =>
    rw [decodePairs] at h
    split at h
    · cases h
    · cases h
    · next hhigh hlow =>
      obtain ⟨rest, hrest, -⟩ := Except.map_eq_ok_iff.1 h
      intro b hb
      rcases List.mem_cons.1 hb with rfl | hb
      · exact ⟨_, hhigh⟩
      rcases List.mem_cons.1 hb with rfl | hb
      · exact ⟨_, hlow⟩
      · rw [List.length_cons, List.length_cons] at heven
        exact ih (by omega) hrest b hb

/-- The texts that are read are those of digits, two for each byte. -/
theorem decode_eq_ok_iff {text : String} {bytes : Bytes} :
    decode text = .ok bytes ↔ ∃ d : Digits, text = String.ofList d.chars ∧ d.Spells bytes := by
  unfold decode
  constructor
  · intro h
    dsimp only at h
    split at h
    · cases h
    · next hodd =>
      have heven : (Bytes.ofText text).length % 2 = 0 := by omega
      -- what was decoded had nothing but digits in it
      obtain ⟨digits, hdigits, hbytes⟩ := Bytes.exists_ofAscii IsDigit fun b hb => by
        obtain ⟨v, hv⟩ := isSome_of_mem_of_decodePairs heven h b hb
        exact isDigit_of_value? hv
      rw [← hbytes] at h heven
      obtain ⟨other, hspells, hread⟩ :=
        Digits.exists_spells digits hdigits (by simpa [Bytes.ofAscii] using heven)
      rw [hread] at h
      cases h
      refine ⟨⟨digits, hdigits⟩, Bytes.ofText_inj.1 ?_, hspells⟩
      rw [← hbytes, Digits.ofText_chars ⟨digits, hdigits⟩]
  · rintro ⟨d, rfl, hspells⟩
    have heven : d.chars.length % 2 = 0 := by
      rw [hspells.length]
      omega
    obtain ⟨other, hother, hread⟩ := Digits.exists_spells d.chars d.isDigit heven
    obtain rfl := hspells.unique hother
    have hshape : ¬ (Bytes.ofAscii d.chars).length % 2 = 1 := by
      rw [Bytes.ofAscii, List.length_map]
      omega
    dsimp only
    rw [d.ofText_chars, if_neg hshape, hread]

end Hex

/-! ## Marks

A mark in front may be there or not, and is dropped once. -/

namespace Hex

/-- The text gives digits: bare, or behind the mark `0x`. -/
def Gives (text : String) (d : Digits) : Prop := text = String.ofList d.chars ∨ text = d.text

/-- No digit is part of a mark. -/
theorem withoutHexMark_eq_iff {text : String} {d : Digits} :
    Text.withoutHexMark text = String.ofList d.chars ↔ Gives text d := by
  constructor
  · intro h
    rcases Text.withoutHexMark_cases text with ⟨rest, htext, hrest⟩ | hsame
    · rw [htext, ← hrest, h]
      exact .inr rfl
    · exact .inl (hsame.symm.trans h)
  · rintro (rfl | rfl)
    · rcases Text.withoutHexMark_cases (String.ofList d.chars) with ⟨rest, htext, -⟩ | hsame
      · have hlist := congrArg String.toList htext
        rw [String.toList_ofList, String.toList_append] at hlist
        -- digits from which a mark was dropped would have an `x` among them
        have hx : 'x' ∈ d.chars := by
          rw [hlist]
          exact List.mem_append_left _ (by decide)
        exact absurd (d.isDigit 'x' hx) (by decide)
      · exact hsame
    · exact Text.withoutHexMark_append _

/-- The text spells the bytes: it gives digits of either case, two for each byte. -/
def Spells (text : String) (bytes : Bytes) : Prop := ∃ d, Gives text d ∧ d.Spells bytes

/-- With the mark dropped, a text is decoded exactly if it spells bytes. -/
theorem decode_withoutHexMark_eq_ok_iff {text : String} {bytes : Bytes} :
    decode (Text.withoutHexMark text) = .ok bytes ↔ Spells text bytes := by
  simp only [decode_eq_ok_iff, withoutHexMark_eq_iff, Spells]

/-! ## Writing

What is written for bytes spells them with digits in lower case, and is the only such text. -/

/-- What is written of bytes are the digits that spell them, in lower case. -/
theorem Digits.Spells.encode_eq {d : Digits} {bytes : Bytes} (h : d.Spells bytes) :
    encode bytes = String.ofList (d.chars.map Char.toLower) := by
  obtain ⟨written, htext, hwritten⟩ := decode_eq_ok_iff.1 (decode_encode bytes)
  have hlower : ∀ c ∈ written.chars, IsLowerDigit c := by
    intro c hc
    have hmem : c ∈ (encode bytes).toList := by rwa [htext, String.toList_ofList]
    exact isLowerDigit_of_mem_encode hmem
  rw [htext]
  refine congrArg String.ofList ?_
  refine eq_of_denoted_eq hlower (fun c => d.isLowerDigit_of_mem_map_toLower) ?_ ?_
  · rw [hwritten.length, List.length_map, h.length]
  · rw [hwritten.value, d.denoted_map_toLower, h.value]

/-! ## Fields

Values of fixed width have readers that check the number of bytes; each has an error of its own for
whatever it does not read. -/

/-- The result of reading a text as a value of a fixed width: the bytes that it spells, if they are
as many, and otherwise a refusal. -/
structure ReadsFixed (width : Nat) (text : String) (refusal : EncodingError)
    (result : Except EncodingError (FixedBytes width)) : Prop where
  ok_iff : ∀ a, result = .ok a ↔ parseBytes text = .ok a.toBytes
  succeeds_iff : (∃ a, result = .ok a) ↔ ∃ bytes, parseBytes text = .ok bytes ∧ bytes.length = width
  refused : (∀ bytes, parseBytes text = .ok bytes → bytes.length ≠ width) → result = .error refusal

/-- A value of fixed width is read exactly if its bytes are. -/
theorem parseFixed?_eq_some_iff {width : Nat} {text : String} {a : FixedBytes width} :
    parseFixed? width text = some a ↔ parseBytes text = .ok a.toBytes := by
  unfold parseFixed?
  cases hread : parseBytes text with
  | error e => exact ⟨nofun, nofun⟩
  | ok bytes => exact FixedBytes.ofBytes?_eq_some_iff.trans (by rw [Except.ok.injEq])

/-- A reader that refuses what is not of its width has the properties asked of it. -/
theorem readsFixed_of_parseFixed? {width : Nat} {text : String} {refusal : EncodingError}
    {result : Except EncodingError (FixedBytes width)}
    (hsome : ∀ a, parseFixed? width text = some a → result = .ok a)
    (hnone : parseFixed? width text = none → result = .error refusal) :
    ReadsFixed width text refusal result := by
  cases hparse : parseFixed? width text with
  | some a =>
    have hread := parseFixed?_eq_some_iff.1 hparse
    have hresult := hsome a hparse
    refine ⟨fun b => ?_, ?_, fun h => absurd a.length_toBytes (h _ hread)⟩
    · rw [← parseFixed?_eq_some_iff, hparse, hresult, Except.ok.injEq, Option.some.injEq]
    · exact iff_of_true ⟨a, hresult⟩ ⟨a.toBytes, hread, a.length_toBytes⟩
  | none =>
    have hresult := hnone hparse
    -- bytes of the right number would have been read
    have hother (bytes : Bytes) (hread : parseBytes text = .ok bytes) : bytes.length ≠ width := by
      intro hlength
      have hfound := (parseFixed?_eq_some_iff (a := ⟨bytes, hlength⟩)).2 hread
      rw [hparse] at hfound
      cases hfound
    subst hresult
    refine ⟨fun b => ⟨nofun, fun hread => absurd b.length_toBytes (hother _ hread)⟩, ?_,
      fun _ => rfl⟩
    exact ⟨nofun, fun ⟨bytes, hread, hlength⟩ => absurd hlength (hother bytes hread)⟩

/-- How a text is read as bytes: it has to spell them, and then they are written as its digits in
lower case. -/
structure ReadsBytes (text : String) : Prop where
  ok_iff : ∀ bytes, parseBytes text = .ok bytes ↔ Spells text bytes
  rewritten : ∀ bytes d, parseBytes text = .ok bytes → Gives text d →
    marked bytes = "0x" ++ String.ofList (d.chars.map Char.toLower)
  address : ReadsFixed 20 text (.address text) (Address.parse text)
  hash : ReadsFixed 32 text (.hash text) (Hash.parse text)

/-- A byte string is read exactly if the text spells it. -/
theorem parseBytes_eq_ok_iff {text : String} {bytes : Bytes} :
    parseBytes text = .ok bytes ↔ Spells text bytes := by
  rw [← decode_withoutHexMark_eq_ok_iff, parseBytes]
  cases decode (Text.withoutHexMark text) with
  | error e => simp only [reduceCtorEq]
  | ok other => simp only [Except.ok.injEq]

/-- A text gives digits in one way only. -/
theorem Gives.unique {text : String} {d e : Digits} (h : Gives text d) (h' : Gives text e) :
    d = e := by
  have heq := (withoutHexMark_eq_iff.2 h).symm.trans (withoutHexMark_eq_iff.2 h')
  refine Digits.ext ?_
  rw [← String.toList_ofList (l := d.chars), heq, String.toList_ofList]

/-- A text is read as bytes exactly if it spells them, as an address or a digest if it spells as
many bytes as these have, and what is written is read back. -/
theorem reads_bytes :
    (∀ text, ReadsBytes text) ∧ (∀ bytes, parseBytes (marked bytes) = .ok bytes)
      ∧ (∀ a : Address, Address.parse a.text = .ok a) ∧ ∀ h : Hash, Hash.parse h.text = .ok h := by
  refine ⟨fun text => ?_, parseBytes_marked, Address.parse_text, Hash.parse_text⟩
  constructor
  · exact fun bytes => parseBytes_eq_ok_iff
  · intro bytes d hread hgives
    obtain ⟨e, hgiven, hspells⟩ := parseBytes_eq_ok_iff.1 hread
    rw [marked, hgives.unique hgiven, hspells.encode_eq]
  · exact readsFixed_of_parseFixed? (fun a h => by rw [Address.parse, h])
      fun h => by rw [Address.parse, h]
  · exact readsFixed_of_parseFixed? (fun a h => by rw [Hash.parse, h])
      fun h => by rw [Hash.parse, h]

example : parseBytes "0xDEad01" = .ok [0xde, 0xad, 0x01] := rfl

end Hex

end NftExchange
