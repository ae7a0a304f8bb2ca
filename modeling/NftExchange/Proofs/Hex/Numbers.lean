import NftExchange.Proofs.Digits

/-!
# Numbers as texts of fields

A field holds a number as hexadecimal digits behind a mark. Many texts hold one number; of those in
lower case exactly one is the shortest, and it is the one that is written.

* **`parseQuantity_eq_error_iff`** and **`parseUInt64_eq_error_iff`** — which texts are refused, and
  how;
* **`length_quantity_le`** and **`eq_quantity_of_isLower`** — no text of a number is shorter than
  the one that is written, and no other in lower case is as short;
* **`holds_numbers`** — how every text is read and every number is written.
-/

namespace NftExchange.Hex

variable {text : String} {n : Nat} {a : UInt256} {e : EncodingError}

/-- The text holds the number `n`: 1 to 64 digits of either case behind a mark. -/
def Holds (text : String) (n : Nat) : Prop :=
  ∃ mark, ∃ d : Digits, IsMark mark ∧ text = mark ++ String.ofList d.chars ∧ d.chars ≠ []
    ∧ d.chars.length ≤ 64 ∧ denoted 16 d.chars = n

/-- No text holds a number of more than 256 bits. -/
theorem Holds.lt (h : Holds text n) : n < Bytes.capacity 32 := by
  obtain ⟨mark, d, -, -, -, hlength, rfl⟩ := h
  exact Nat.lt_of_lt_of_le d.denoted_lt (Nat.pow_le_pow_right (by decide : 0 < 16) hlength)

/-! ## Reading

A text is read exactly if it holds a number, and refused with its own text in the error otherwise.
The narrow reader adds one more refusal, for numbers that are too wide. -/

/-- A text is read as the number that it holds. -/
theorem parseQuantity_eq_ok_iff_holds : parseQuantity text = .ok a ↔ Holds text a.toNat :=
  parseQuantity_eq_ok_iff

/-- There is only one error. -/
theorem eq_hexQuantity_of_parseQuantity (h : parseQuantity text = .error e) :
    e = .hexQuantity text := by
  unfold parseQuantity at h
  dsimp only at h
  split at h
  · cases h
  · exact (Except.error.inj h).symm

/-- It is the error of exactly those texts that hold no number. -/
theorem parseQuantity_eq_error_iff :
    parseQuantity text = .error e ↔ e = .hexQuantity text ∧ ∀ n, ¬ Holds text n := by
  constructor
  · intro h
    refine ⟨eq_hexQuantity_of_parseQuantity h, fun n hn => ?_⟩
    -- the number that the text holds fits, so it would have been read
    have hread : parseQuantity text = .ok (.ofNat 256 n) :=
      parseQuantity_eq_ok_iff_holds.2 (by rwa [UInt256.toNat_ofNat hn.lt])
    rw [hread] at h
    cases h
  · rintro ⟨rfl, hnone⟩
    cases hread : parseQuantity text with
    | ok a => exact absurd (parseQuantity_eq_ok_iff_holds.1 hread) (hnone a.toNat)
    | error e => rw [eq_hexQuantity_of_parseQuantity hread]

theorem parseUInt64_of_fits {b : UInt64} (h : parseQuantity text = .ok a)
    (hfits : a.toNat = b.toNat) : parseUInt64 text = .ok b := by
  have hread : UInt64.ofNat? a.toNat = some b := UInt64.ofNat?_eq_some_iff.2 hfits.symm
  simp only [parseUInt64, h, bind, Except.bind, hread, pure, Except.pure]

theorem parseUInt64_of_overflow (h : parseQuantity text = .ok a) (hwide : 2 ^ 64 ≤ a.toNat) :
    parseUInt64 text = .error (.overflow text 64) := by
  have hread : UInt64.ofNat? a.toNat = none := UInt64.ofNat?_eq_none_iff.2 hwide
  simp only [parseUInt64, h, bind, Except.bind, hread]

theorem parseUInt64_of_error (h : parseQuantity text = .error e) : parseUInt64 text = .error e := by
  rw [parseUInt64, h]
  rfl

/-- A number that is read fits in 64 bits or is too large for them. -/
theorem fits_or_overflow (a : UInt256) : (∃ b : UInt64, a.toNat = b.toNat) ∨ 2 ^ 64 ≤ a.toNat := by
  rcases Nat.lt_or_ge a.toNat (2 ^ 64) with hlt | hge
  · exact .inl ⟨.ofNat a.toNat, (UInt64.toNat_ofNat_of_lt' hlt).symm⟩
  · exact .inr hge

/-- The narrow reader gives the words whose numbers the wide one gives. -/
theorem parseUInt64_eq_ok_iff {b : UInt64} :
    parseUInt64 text = .ok b ↔ ∃ a, parseQuantity text = .ok a ∧ a.toNat = b.toNat := by
  refine ⟨fun h => ?_, fun ⟨a, ha, hfits⟩ => parseUInt64_of_fits ha hfits⟩
  -- the wide reader comes first, and what it gives either fits or is refused
  cases hread : parseQuantity text with
  | error e =>
    rw [parseUInt64_of_error hread] at h
    cases h
  | ok a =>
    rcases fits_or_overflow a with ⟨c, hfits⟩ | hwide
    · rw [parseUInt64_of_fits hread hfits] at h
      cases h
      exact ⟨a, rfl, hfits⟩
    · rw [parseUInt64_of_overflow hread hwide] at h
      cases h

/-- It refuses what the wide one refuses, and the numbers that are too wide. -/
theorem parseUInt64_eq_error_iff :
    parseUInt64 text = .error e ↔ parseQuantity text = .error e
      ∨ e = .overflow text 64 ∧ ∃ a, parseQuantity text = .ok a ∧ 2 ^ 64 ≤ a.toNat := by
  constructor
  · intro h
    -- an error is that of the wide reader, or is about a number that it did read
    cases hread : parseQuantity text with
    | error e' =>
      rw [parseUInt64_of_error hread] at h
      exact .inl (by rw [Except.error.inj h])
    | ok a =>
      rcases fits_or_overflow a with ⟨b, hfits⟩ | hwide
      · rw [parseUInt64_of_fits hread hfits] at h
        cases h
      · rw [parseUInt64_of_overflow hread hwide] at h
        exact .inr ⟨(Except.error.inj h).symm, a, rfl, hwide⟩
  · rintro (h | ⟨rfl, a, hread, hwide⟩)
    · exact parseUInt64_of_error h
    · exact parseUInt64_of_overflow hread hwide

/-! ## Writing

A quantity is written with as few digits as its number needs, and in lower case. No other text that
is read as the number has both. -/

/-- A text without upper-case letters. -/
def IsLower (text : String) : Prop := ∀ c ∈ text.toList, c.toLower = c

/-- What is written is in lower case. -/
theorem isLower_quantity (n : Nat) : IsLower (quantity n) := by
  intro c hc
  rw [← Digits.text_ofNat, Digits.toList_text, List.mem_cons, List.mem_cons] at hc
  rcases hc with rfl | rfl | hc
  · decide
  · decide
  · have hlower := (Digits.isShortest_ofNat n).lower c hc
    rw [IsLowerDigit] at hlower
    fin_cases hlower <;> decide

/-- A text that holds a number is its mark and the digits. -/
theorem Holds.length_eq (h : Holds text n) :
    ∃ d : Digits, text.length = d.chars.length + 2 ∧ d.chars ≠ [] ∧ denoted 16 d.chars = n := by
  obtain ⟨mark, d, hmark, rfl, hne, -, hvalue⟩ := h
  refine ⟨d, ?_, hne, hvalue⟩
  rw [String.length_append, String.length_ofList]
  rcases hmark with rfl | rfl
  · exact Nat.add_comm 2 _
  · exact Nat.add_comm 2 _

/-- No shorter text is read as the number. -/
theorem length_quantity_le (h : Holds text n) : (quantity n).length ≤ text.length := by
  obtain ⟨d, hlength, hne, hvalue⟩ := h.length_eq
  rw [← Digits.text_ofNat, Digits.length_text, hlength]
  exact Nat.add_le_add_right ((Digits.isShortest_ofNat n).length_le d hne hvalue) 2

/-- Digits of one number, as few as they can be and in lower case, are always the same, and of the
two marks one is in lower case. -/
theorem eq_quantity_of_isLower (h : Holds text n) (hlower : IsLower text)
    (hlength : text.length ≤ (quantity n).length) : text = quantity n := by
  obtain ⟨mark, d, hmark, rfl, hne, -, hvalue⟩ := h
  have hshortest := Digits.isShortest_ofNat n
  -- digits that lower case leaves alone are lower-case digits
  have hchar (c : Char) (hc : c ∈ d.chars) : IsLowerDigit c := by
    have hfixed : c.toLower = c := hlower c (by
      rw [String.toList_append, String.toList_ofList]
      exact List.mem_append_right _ hc)
    rw [← hfixed]
    exact (d.isDigit c hc).toLower.1
  rcases hmark with rfl | rfl
  · show d.text = _
    change d.text.length ≤ _ at hlength
    rw [← Digits.text_ofNat, Digits.length_text, Digits.length_text] at hlength
    have hle := hshortest.length_le d hne hvalue
    have heq : d = Digits.ofNat n := by
      refine Digits.ext (eq_of_denoted_eq hchar hshortest.lower (by omega) ?_)
      rw [hvalue, hshortest.denotes]
    rw [heq, Digits.text_ofNat]
  · -- the other mark is in upper case
    exact absurd (hlower 'X' (by simp)) (by decide)

/-! ## Both

Reading, for any text, and writing, for any value: the two sides of what is known about quantities.
-/

/-- How a text is read as a number. -/
structure ReadsNumber (text : String) : Prop where
  ok_iff : ∀ a, parseQuantity text = .ok a ↔ Holds text a.toNat
  error_iff : ∀ e, parseQuantity text = .error e ↔ e = .hexQuantity text ∧ ∀ n, ¬ Holds text n
  uint64_ok_iff : ∀ b : UInt64, parseUInt64 text = .ok b
    ↔ ∃ a, parseQuantity text = .ok a ∧ a.toNat = b.toNat
  uint64_error_iff : ∀ e, parseUInt64 text = .error e ↔ parseQuantity text = .error e
    ∨ e = .overflow text 64 ∧ ∃ a, parseQuantity text = .ok a ∧ 2 ^ 64 ≤ a.toNat

/-- How a number is written. -/
structure WritesNumber (a : UInt256) : Prop where
  digits : ∃ d : Digits, quantity a.toNat = d.text ∧ d.IsShortest a.toNat
  zero_iff : a = 0 ↔ quantity a.toNat = "0x0"
  reads : parseQuantity (quantity a.toNat) = .ok a
  isLower : IsLower (quantity a.toNat)
  shortest : ∀ text, parseQuantity text = .ok a → (quantity a.toNat).length ≤ text.length
  unique : ∀ text, parseQuantity text = .ok a → IsLower text →
    text.length ≤ (quantity a.toNat).length → text = quantity a.toNat
  uint64 : ∀ b : UInt64, a.toNat = b.toNat → quantity b.toNat = quantity a.toNat
    ∧ parseUInt64 (quantity a.toNat) = .ok b

/-- A text is read as the number that its digits denote, or refused, and what is written of a number
is the one shortest text in lower case that is read as it. -/
theorem holds_numbers : (∀ text, ReadsNumber text) ∧ ∀ a, WritesNumber a := by
  refine ⟨fun text => ?_, fun a => ?_⟩
  · exact ⟨fun a => parseQuantity_eq_ok_iff_holds, fun e => parseQuantity_eq_error_iff,
      fun b => parseUInt64_eq_ok_iff, fun e => parseUInt64_eq_error_iff⟩
  · -- what is written is read back, and the rest follows from what is known of readers
    have hread : parseQuantity (quantity a.toNat) = .ok a := by
      rw [parseQuantity_quantity (UInt256.toNat_lt a), BitVec.ofNat_toNat, BitVec.setWidth_eq]
    constructor
    · exact ⟨_, (Digits.text_ofNat a.toNat).symm, Digits.isShortest_ofNat a.toNat⟩
    · constructor
      · rintro rfl
        rfl
      · intro hzero
        rw [hzero] at hread
        cases hread
        rfl
    · exact hread
    · exact isLower_quantity a.toNat
    · exact fun text h => length_quantity_le (parseQuantity_eq_ok_iff_holds.1 h)
    · exact fun text h => eq_quantity_of_isLower (parseQuantity_eq_ok_iff_holds.1 h)
    · exact fun b hfits => ⟨by rw [hfits], parseUInt64_of_fits hread hfits⟩

example : parseQuantity "0X00fF" = .ok 255 := rfl

example : parseUInt64 "0x10000000000000000" = .error (.overflow "0x10000000000000000" 64) := rfl

end NftExchange.Hex
