import Mathlib
import NftExchange.Json.Scan
import NftExchange.Proofs.Utf8

/-!
# JSON strings are read back

A character may be spelled in a string in more than one way: raw, by a one-letter escape, or by
the numbers of its one or two UTF-16 units. `Spells` lists the ways, `Spelled` puts characters
together, and the scanner is followed once for each way:

* **`Spelled.rawString`** — the scanner finds the closing quote, and not an earlier one;
* **`Spelled.exactText`** — what stands in between is the text that was spelled;
* **`spelled_renderString`** — what the writer puts between the quotes spells the text.

Together they say that every text, whatever its characters, survives being written and read
(`stringAfterQuote_spelling`).
-/

namespace NftExchange.Json

open String (utf8EncodeChar)

/-! ## Spellings

A character may be spelled in a string by its own bytes, by a letter after a backslash, by its
number or by the numbers of two surrogates. The two relations say which bytes spell a character and
a text, apart from any function that reads them. -/

/-- The ways to spell a character between quotes. -/
inductive Spells (c : Char) : Bytes → Prop where
  /-- As itself; controls, the quote and the backslash have to be escaped. -/
  | raw (hcontrol : 0x20 ≤ c.toNat) (hquote : c ≠ '"') (hbackslash : c ≠ '\\') :
      Spells c (utf8EncodeChar c)
  /-- By a backslash and one letter. -/
  | letter (x b : UInt8) (hx : escapedByte? x = some b) (hc : utf8EncodeChar c = [b]) :
      Spells c [0x5c, x]
  /-- By a backslash, the letter `u` and four hexadecimal digits. -/
  | number (p q r s : UInt8) (hunit : unit? p q r s = some c.toNat) :
      Spells c [0x5c, 0x75, p, q, r, s]
  /-- By two such numbers, the surrogates of the character. -/
  | pair (p q r s p' q' r' s' : UInt8) (high low : Nat)
      (hhigh : unit? p q r s = some high) (hlow : unit? p' q' r' s' = some low)
      (hhighRange : isHighSurrogate high = true) (hlowRange : isLowSurrogate low = true)
      (hc : c.toNat = 0x10000 + (high - 0xd800) * 0x400 + (low - 0xdc00)) :
      Spells c [0x5c, 0x75, p, q, r, s, 0x5c, 0x75, p', q', r', s']

/-- The ways to spell a text between quotes. -/
inductive Spelled : List Char → Bytes → Prop where
  | nil : Spelled [] []
  | cons {c : Char} {cs : List Char} {bytes rest : Bytes}
      (hc : Spells c bytes) (hcs : Spelled cs rest) : Spelled (c :: cs) (bytes ++ rest)

/-! ## Bytes that stand for themselves

The reader of a string stops at the three marks only: the quotation mark, the backslash and the
control bytes. Over every other byte it walks on, and after a backslash it takes the next byte along
whatever it is. -/

/-- Whether a byte inside a string is neither its end nor the start of an escape, and allowed. -/
def IsPlain (b : UInt8) : Prop := b ≠ 0x22 ∧ b ≠ 0x5c ∧ ¬ b < 0x20

/-- No byte of a character is a mark when the character is none, so the bytes of a character spelled
raw never end the string. -/
theorem isPlain_of_mem {c : Char} (hcontrol : 0x20 ≤ c.toNat) (hquote : c ≠ '"')
    (hbackslash : c ≠ '\\') {b : UInt8} (hb : b ∈ utf8EncodeChar c) : IsPlain b := by
  rcases Nat.lt_or_ge c.toNat 0x80 with hascii | hlong
  · -- an ASCII character is its own byte: the byte is no mark because the character is none
    rw [Bytes.utf8EncodeChar_of_ascii hascii, List.mem_singleton] at hb
    have hval : b.toNat = c.toNat := by
      rw [hb, UInt8.toNat_ofNat']
      omega
    have hne (d : Char) (hd : c ≠ d) : b.toNat ≠ d.toNat := by
      rw [hval]
      exact fun h => hd (Char.toNat_inj.1 h)
    refine ⟨fun h => hne '"' hquote ?_, fun h => hne '\\' hbackslash ?_, fun h => ?_⟩
    · rw [h]; rfl
    · rw [h]; rfl
    · have : b.toNat < 0x20 := h
      omega
  · -- the bytes of a longer character lie above all the marks
    have hge := Bytes.le_of_mem_utf8EncodeChar hlong hb
    refine ⟨?_, ?_, fun h => ?_⟩
    · rintro rfl; exact absurd hge (by decide)
    · rintro rfl; exact absurd hge (by decide)
    · have : b.toNat < 0x20 := h
      omega

/-- A byte that is no mark is taken into the raw text and reading goes on behind it. -/
theorem rawString_cons {b : UInt8} (hb : IsPlain b) {input raw after : Bytes}
    (h : rawString input = some (raw, after)) :
    rawString (b :: input) = some (b :: raw, after) := by
  rw [rawString.eq_def]
  simp only [if_neg hb.1, if_neg hb.2.1, if_neg hb.2.2, h, Option.map_some]

/-- The walk over a stretch without marks takes it whole. -/
theorem rawString_plain {bytes : Bytes} (hbytes : ∀ b ∈ bytes, IsPlain b)
    {input raw after : Bytes} (h : rawString input = some (raw, after)) :
    rawString (bytes ++ input) = some (bytes ++ raw, after) := by
  -- the marks are looked for byte by byte, so the induction is on the bytes passed over
  induction bytes with
  | nil => exact h
  | cons b bytes ih =>
    exact rawString_cons (hbytes b (by simp)) (ih fun x hx => hbytes x (by simp [hx]))

/-- A backslash takes the byte behind it along, also a quotation mark or another backslash. -/
theorem rawString_escape (x : UInt8) {input raw after : Bytes}
    (h : rawString input = some (raw, after)) :
    rawString (0x5c :: x :: input) = some (0x5c :: x :: raw, after) := by
  have hquote : ¬ (0x5c : UInt8) = 0x22 := by decide
  rw [rawString.eq_def]
  simp only [if_neg hquote, if_true, h, Option.map_some]

/-! ## Finding the end

Whichever way the characters of a text are spelled, the reader finds the quotation mark that closes
the string and not one inside it. -/

/-- A hexadecimal digit is no mark. -/
theorem isPlain_of_value? {b : UInt8} {n : Nat} (h : Hex.value? b = some n) : IsPlain b := by
  unfold Hex.value? at h
  -- all digits lie above the controls and the quotation mark, and none is a backslash
  have hrange : 0x30 ≤ b.toNat ∧ b.toNat ≠ 0x5c := by
    split at h
    · omega
    · split at h
      · omega
      · split at h
        · omega
        · cases h
  refine ⟨?_, ?_, fun hlt => ?_⟩
  · rintro rfl; exact absurd hrange.1 (by decide)
  · rintro rfl; exact hrange.2 rfl
  · have : b.toNat < 0x20 := hlt
    omega

/-- The four bytes of a number that can be read are four hexadecimal digits. -/
theorem unit?_eq_some {p q r s : UInt8} {n : Nat} (h : unit? p q r s = some n) :
    ∃ a b c d, Hex.value? p = some a ∧ Hex.value? q = some b ∧ Hex.value? r = some c
      ∧ Hex.value? s = some d := by
  unfold unit? at h
  obtain ⟨a, ha, h⟩ := Option.bind_eq_some_iff.1 h
  obtain ⟨b, hb, h⟩ := Option.bind_eq_some_iff.1 h
  obtain ⟨c, hc, h⟩ := Option.bind_eq_some_iff.1 h
  obtain ⟨d, hd, -⟩ := Option.bind_eq_some_iff.1 h
  exact ⟨a, b, c, d, ha, hb, hc, hd⟩

/-- After the backslash and its letter the digits are passed over like any other bytes. -/
private theorem rawString_unit {p q r s : UInt8} {n : Nat} (hunit : unit? p q r s = some n)
    {input raw after : Bytes} (h : rawString input = some (raw, after)) :
    rawString (0x5c :: 0x75 :: p :: q :: r :: s :: input)
      = some (0x5c :: 0x75 :: p :: q :: r :: s :: raw, after) := by
  obtain ⟨_, _, _, _, hp, hq, hr, hs⟩ := unit?_eq_some hunit
  have hdigits : ∀ b ∈ [p, q, r, s], IsPlain b := by
    intro b hb
    simp only [List.mem_cons, List.not_mem_nil, or_false] at hb
    rcases hb with rfl | rfl | rfl | rfl
    · exact isPlain_of_value? hp
    · exact isPlain_of_value? hq
    · exact isPlain_of_value? hr
    · exact isPlain_of_value? hs
  exact rawString_escape 0x75 (rawString_plain hdigits h)

/-- Reading over the spelling of one character takes exactly its bytes. -/
theorem Spells.rawString {c : Char} {bytes : Bytes} (hc : Spells c bytes)
    {input raw after : Bytes} (h : rawString input = some (raw, after)) :
    rawString (bytes ++ input) = some (bytes ++ raw, after) := by
  cases hc with
  | raw hcontrol hquote hbackslash =>
    exact rawString_plain (fun b hb => isPlain_of_mem hcontrol hquote hbackslash hb) h
  | letter x b hx hc => exact rawString_escape x h
  | number p q r s hunit => exact rawString_unit hunit h
  | pair p q r s p' q' r' s' high low hhigh hlow _ _ _ =>
    exact rawString_unit hhigh (rawString_unit hlow h)

/-- The scanner takes a spelled text up to its closing quote. -/
theorem Spelled.rawString {cs : List Char} {bytes : Bytes} (h : Spelled cs bytes)
    (rest : Bytes) : rawString (bytes ++ 0x22 :: rest) = some (bytes, rest) := by
  induction h with
  | nil =>
    rw [List.nil_append, Json.rawString.eq_def]
    simp only [if_true]
  | cons hc _ ih =>
    rw [List.append_assoc]
    exact hc.rawString ih

/-! ## Resolving escapes

The raw text of a string is cut into pieces and the pieces are put together again, a pair of
surrogates into one character. `Stands` says that this succeeds with a given text, and it is
preserved when a spelling is put in front of the raw text. -/

/-- A raw string stands for these bytes. -/
def Stands (raw text : Bytes) : Prop := ∃ ps, pieces raw = some ps ∧ assemble ps = some text

/-- A byte that is no backslash stands for itself. -/
theorem stands_cons {b : UInt8} (hb : b ≠ 0x5c) {raw text : Bytes} (h : Stands raw text) :
    Stands (b :: raw) (b :: text) := by
  obtain ⟨ps, hps, htext⟩ := h
  refine ⟨.byte b :: ps, ?_, ?_⟩
  · rw [pieces.eq_def]
    simp only [ne_eq, hb, not_false_eq_true, if_true, hps, Option.map_eq_map, Option.map_some]
  · rw [assemble, htext]
    rfl

/-- Bytes without a backslash stand for themselves. -/
theorem stands_append {bytes : Bytes} (hbytes : ∀ b ∈ bytes, b ≠ 0x5c) {raw text : Bytes}
    (h : Stands raw text) : Stands (bytes ++ raw) (bytes ++ text) := by
  induction bytes with
  | nil => exact h
  | cons b bytes ih =>
    exact stands_cons (hbytes b (by simp)) (ih fun x hx => hbytes x (by simp [hx]))

/-- A letter behind a backslash stands for the byte the table gives it. -/
theorem stands_letter {x b : UInt8} (hx : escapedByte? x = some b) {raw text : Bytes}
    (h : Stands raw text) : Stands (0x5c :: x :: raw) (b :: text) := by
  obtain ⟨ps, hps, htext⟩ := h
  -- `u` is no letter of its own, so the reader does not look for four digits here
  have hne : x ≠ 0x75 := by
    rintro rfl
    have hnone : escapedByte? 0x75 = none := by decide
    rw [hnone] at hx
    cases hx
  refine ⟨.byte b :: ps, ?_, ?_⟩
  · rw [pieces.eq_def]
    simp only [ne_eq, not_true_eq_false, if_false, if_neg hne, hx, hps, Option.bind_eq_bind,
      Option.bind_some, Option.pure_def]
  · rw [assemble, htext]
    rfl

/-- A character is no surrogate, so its number is never taken for half of a pair. -/
theorem not_surrogate (c : Char) :
    isLowSurrogate c.toNat = false ∧ isHighSurrogate c.toNat = false := by
  -- a character has a number on either side of the surrogates
  have hvalid : c.toNat < 0xd800 ∨ 0xdfff < c.toNat := by
    rcases c.valid with h | h
    · exact Or.inl h
    · exact Or.inr h.1
  constructor
  · simp only [isLowSurrogate, Bool.and_eq_false_iff, decide_eq_false_iff_not]
    omega
  · simp only [isHighSurrogate, Bool.and_eq_false_iff, decide_eq_false_iff_not]
    omega

/-- The number of a character stands for the character. -/
theorem stands_number {c : Char} {p q r s : UInt8} (hunit : unit? p q r s = some c.toNat)
    {raw text : Bytes} (h : Stands raw text) :
    Stands (0x5c :: 0x75 :: p :: q :: r :: s :: raw) (utf8EncodeChar c ++ text) := by
  obtain ⟨ps, hps, htext⟩ := h
  obtain ⟨hlow, hhigh⟩ := not_surrogate c
  refine ⟨.unit c.toNat :: ps, ?_, ?_⟩
  · rw [pieces.eq_def]
    simp only [ne_eq, not_true_eq_false, if_false, if_true, hunit, hps, Option.bind_eq_bind,
      Option.bind_some, Option.pure_def]
  · rw [assemble.eq_def]
    simp only [hlow, hhigh, Bool.false_eq_true, if_false, htext, codePointBytes, Char.ofNat_toNat,
      Option.map_eq_map, Option.map_some]

/-- Surrogates come in pairs, and lie beside the numbers of characters. -/
theorem stands_pair {c : Char} {p q r s p' q' r' s' : UInt8} {high low : Nat}
    (hhigh : unit? p q r s = some high) (hlow : unit? p' q' r' s' = some low)
    (hhighRange : isHighSurrogate high = true) (hlowRange : isLowSurrogate low = true)
    (hc : c.toNat = 0x10000 + (high - 0xd800) * 0x400 + (low - 0xdc00))
    {raw text : Bytes} (h : Stands raw text) :
    Stands (0x5c :: 0x75 :: p :: q :: r :: s :: 0x5c :: 0x75 :: p' :: q' :: r' :: s' :: raw)
      (utf8EncodeChar c ++ text) := by
  obtain ⟨ps, hps, htext⟩ := h
  -- the first half is not taken for a second one
  have hnotLow : isLowSurrogate high = false := by
    simp only [isHighSurrogate, Bool.and_eq_true, decide_eq_true_eq] at hhighRange
    simp only [isLowSurrogate, Bool.and_eq_false_iff, decide_eq_false_iff_not]
    omega
  refine ⟨.unit high :: .unit low :: ps, ?_, ?_⟩
  · rw [pieces.eq_def]
    simp only [ne_eq, not_true_eq_false, if_false, if_true, hhigh, Option.bind_eq_bind,
      Option.bind_some]
    rw [pieces.eq_def]
    simp only [ne_eq, not_true_eq_false, if_false, if_true, hlow, hps, Option.bind_eq_bind,
      Option.bind_some, Option.pure_def]
  · -- a high half with a low one behind it is put together by the formula of the encoding
    rw [assemble.eq_def]
    simp only [hnotLow, hhighRange, hlowRange, Bool.false_eq_true, if_false, if_true, htext,
      codePointBytes, ← hc, Char.ofNat_toNat, Option.map_eq_map, Option.map_some]

/-- Every spelling of a character stands for its bytes. -/
theorem Spells.stands {c : Char} {bytes : Bytes} (hc : Spells c bytes) {raw text : Bytes}
    (h : Stands raw text) : Stands (bytes ++ raw) (utf8EncodeChar c ++ text) := by
  cases hc with
  | raw hcontrol hquote hbackslash =>
    exact stands_append (fun b hb => (isPlain_of_mem hcontrol hquote hbackslash hb).2.1) h
  | letter x b hx hc =>
    rw [hc]
    exact stands_letter hx h
  | number p q r s hunit => exact stands_number hunit h
  | pair p q r s p' q' r' s' high low hhigh hlow hhighRange hlowRange hc =>
    exact stands_pair hhigh hlow hhighRange hlowRange hc h

/-- Every spelling of a text stands for its bytes, by induction on the characters. -/
theorem Spelled.stands {cs : List Char} {bytes : Bytes} (h : Spelled cs bytes) :
    Stands bytes (cs.flatMap utf8EncodeChar) := by
  induction h with
  | nil => exact ⟨[], rfl, rfl⟩
  | cons hc _ ih => exact hc.stands ih

/-- The text of a string is the one its bytes spell. -/
theorem Spelled.exactText {text : String} {bytes : Bytes} (h : Spelled text.toList bytes) :
    exactText bytes = some text := by
  obtain ⟨ps, hps, htext⟩ := h.stands
  rw [← Bytes.ofText_eq_flatMap] at htext
  simp only [Json.exactText, hps, htext, Option.bind_eq_bind, Option.bind_some,
    Bytes.toText?_ofText]

/-! ## What the writer spells

The writer uses one spelling of each character: the letters for seven of them, the number for the
other controls, and the bytes themselves elsewhere. -/

private theorem unit?_control : ∀ n < 0x20,
    unit? 0x30 0x30 (UInt8.ofNat (Nat.digitChar (n / 16)).toNat)
      (UInt8.ofNat (Nat.digitChar (n % 16)).toNat) = some n := by
  decide

private theorem digitChar_ascii : ∀ n < 0x20, (Nat.digitChar n).toNat < 0x80 := by
  decide

/-- The bytes of the escape of a control character. -/
private theorem ofText_control {n : Nat} (h : n < 0x20) :
    Bytes.ofText ("\\u00" ++ String.ofList [Nat.digitChar (n / 16), Nat.digitChar (n % 16)])
      = [0x5c, 0x75, 0x30, 0x30, UInt8.ofNat (Nat.digitChar (n / 16)).toNat,
          UInt8.ofNat (Nat.digitChar (n % 16)).toNat] := by
  have hhigh := Bytes.utf8EncodeChar_of_ascii (digitChar_ascii (n / 16) (by omega))
  have hlow := Bytes.utf8EncodeChar_of_ascii (digitChar_ascii (n % 16) (by omega))
  have hdigits : Bytes.ofText (String.ofList [Nat.digitChar (n / 16), Nat.digitChar (n % 16)])
      = [UInt8.ofNat (Nat.digitChar (n / 16)).toNat,
          UInt8.ofNat (Nat.digitChar (n % 16)).toNat] := by
    rw [Bytes.ofText_ofList, List.flatMap_cons, List.flatMap_cons, List.flatMap_nil, hhigh, hlow]
    rfl
  rw [Bytes.ofText_append, hdigits]
  rfl

/-- What the writer puts down for a character is one of the spellings of it. -/
theorem spells_escape (c : Char) : Spells c (Bytes.ofText (escape c)) := by
  unfold escape
  -- seven characters have a letter; of the others the controls are spelled by their number
  split
  case h_1 => exact .letter 0x22 0x22 rfl rfl
  case h_2 => exact .letter 0x5c 0x5c rfl rfl
  case h_3 => exact .letter 0x62 0x08 rfl rfl
  case h_4 => exact .letter 0x66 0x0c rfl rfl
  case h_5 => exact .letter 0x6e 0x0a rfl rfl
  case h_6 => exact .letter 0x72 0x0d rfl rfl
  case h_7 => exact .letter 0x74 0x09 rfl rfl
  case h_8 hquote hbackslash _ _ _ _ _ =>
    split
    · next hcontrol =>
      rw [ofText_control hcontrol]
      exact .number _ _ _ _ (unit?_control c.toNat hcontrol)
    · next hcontrol =>
      rw [Bytes.ofText_singleton]
      exact .raw (Nat.le_of_not_lt hcontrol) hquote hbackslash

/-- What stands between the quotes of a written string. -/
def spelling (text : String) : Bytes := (text.toList.map escape).flatMap Bytes.ofText

/-- A written string is the spelling of its text between two quotation marks. -/
theorem ofText_renderString (text : String) :
    Bytes.ofText (renderString text) = 0x22 :: (spelling text ++ [0x22]) := by
  unfold renderString spelling
  rw [Bytes.ofText_append, Bytes.ofText_append, Bytes.ofText_join]
  rfl

/-- What the writer puts between the quotation marks spells the text. -/
theorem spelled_renderString (text : String) : Spelled text.toList (spelling text) := by
  unfold spelling
  induction text.toList with
  | nil => exact .nil
  | cons c cs ih =>
    rw [List.map_cons, List.flatMap_cons]
    exact .cons (spells_escape c) ih

/-- After its opening quote, a written string is read as the text that was written. -/
theorem stringAfterQuote_spelling (text : String) (rest : Bytes) :
    stringAfterQuote exactText (spelling text ++ 0x22 :: rest) = .ok (text, rest) := by
  have h := spelled_renderString text
  simp only [stringAfterQuote, h.rawString rest, h.exactText]

end NftExchange.Json
