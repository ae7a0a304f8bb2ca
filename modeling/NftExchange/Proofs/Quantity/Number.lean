import NftExchange.Proofs.Json.Documents
import NftExchange.Proofs.Json.Floating
import NftExchange.Proofs.Quantity.Text

/-!
# Quantities in numbers

Straight from text a number is a quantity if it is written with nothing but digits. Through a value
it also is one if it is minus zero, or if it is written the way in which a whole floating-point
number is written, with a point or an exponent: these numerals drift. What is read is in all cases
the number that the numeral denotes, so the two ways never give different quantities, but for a
numeral that drifts only one of them gives any.

* **`ofPlainNumeral_eq_ok_iff`** and **`ofNumeral_eq_ok_iff`** — which numerals are read, and as
  what;
* **`number_decodes`** — what that means for documents, and when both ways agree.
-/

namespace NftExchange

open Json (NumberDocument)

namespace Numeral

open Decimal (FloatingPoint)

/-- The numeral `-0`. -/
def IsMinusZero (n : Numeral) : Prop := n = ⟨true, [0x30], none, none⟩

/-- The numeral is how the floating-point number nearest to it is written, with a point or an
exponent. -/
def IsFloatingText (n : Numeral) : Prop :=
  n.negative = false ∧ ∃ x, n.floatingPoint? = some x ∧ n = floating false x.even

/-- The numeral is not written with digits only, and still may be read as a quantity through a
value. -/
def Drifts (n : Numeral) : Prop := n.IsMinusZero ∨ n.IsFloatingText

variable {n : Numeral}

theorem Drifts.not_isPlain (h : n.Drifts) : ¬ n.IsPlain := by
  intro hplain
  rcases h with rfl | ⟨-, x, -, hx⟩
  · exact absurd hplain.negative nofun
  · rw [hx] at hplain
    exact not_isPlain_floating false x.even hplain

theorem isInteger_of_isWord (h : n.isWord = true) : n.isInteger = true := by
  unfold isWord at h
  exact (Bool.and_eq_true_iff.1 h).1

theorem isPlain_of_isInteger (h : n.isInteger = true) (hsign : n.negative = false) :
    n.IsPlain := by
  simp only [isInteger, Bool.and_eq_true, Option.isNone_iff_eq_none] at h
  exact ⟨hsign, h.1, h.2⟩

/-- A numeral that is how a float is written fits in no word, since it has a point or an exponent.
-/
theorem IsFloatingText.isWord_eq (h : n.IsFloatingText) : n.isWord = false := by
  rw [Bool.eq_false_iff]
  intro hword
  exact Drifts.not_isPlain (.inr h) (isPlain_of_isInteger (isInteger_of_isWord hword) h.1)

/-- Digits all of which are zero, none of them in front of another, are one zero. -/
theorem WellFormed.whole_eq_zero (h : n.WellFormed) (hzero : Decimal.toNat n.whole = 0) :
    n.whole = [0x30] := by
  have hzeros {digits : Bytes} (hdigits : ∀ b ∈ digits, Decimal.isDigit b = true)
      (hvalue : Decimal.toNat digits = 0) : ∀ b ∈ digits, b = 0x30 := by
    -- the last digit is split off, since the number is built up from the left
    induction digits using List.reverseRecOn with
    | nil => exact nofun
    | append_singleton digits last ih =>
      rw [Decimal.toNat_append_singleton] at hvalue
      have hlast := hdigits last (by simp)
      simp only [Decimal.isDigit, Bool.and_eq_true, decide_eq_true_eq] at hlast
      intro b hb
      rcases List.mem_append.1 hb with hb | hb
      · exact ih (fun c hc => hdigits c (by simp [hc])) (by omega) b hb
      · rw [List.mem_singleton.1 hb]
        refine UInt8.toNat_inj.1 ?_
        show last.toNat = 48
        omega
  have hall := hzeros h.whole.2 hzero
  cases hwhole : n.whole with
  | nil => exact absurd hwhole h.whole.1
  | cons b rest =>
    rw [hwhole] at hall
    have hb : b = 0x30 := hall b List.mem_cons_self
    have hlength : n.whole.length = 1 := by
      by_contra hne
      exact h.noLeadingZero hne (by rw [hwhole, hb]; rfl)
    rw [hwhole, List.length_cons, Nat.add_eq_right, List.length_eq_zero_iff] at hlength
    rw [hb, hlength]

/-- The only well-formed integer with a sign and the value zero is `-0`. -/
theorem WellFormed.isMinusZero (h : n.WellFormed) (hinteger : n.isInteger = true)
    (hsign : n.negative = true) (hzero : Decimal.toNat n.whole = 0) : n.IsMinusZero := by
  have hwhole := h.whole_eq_zero hzero
  simp only [isInteger, Bool.and_eq_true, Option.isNone_iff_eq_none] at hinteger
  obtain ⟨negative, whole, fraction, exponent⟩ := n
  obtain ⟨rfl, rfl⟩ := hinteger
  obtain rfl : negative = true := hsign
  obtain rfl : whole = [0x30] := hwhole
  rfl

theorem IsMinusZero.value_eq (h : n.IsMinusZero) : n.value = 0 := by
  rw [h, value]
  simp [Decimal.toNat]

end Numeral

namespace Quantity

open Decimal (FloatingPoint)

variable {n : Numeral} {a : UInt256}

/-! ## Straight from text

Read straight from the text, a number is handed over with its digits. Only a plain numeral is a
quantity then, and it has to fit in 256 bits. -/

/-- A number is a quantity exactly when it fits. -/
theorem ofNat_eq_ok_iff {k : Nat} : ofNat k = .ok a ↔ k = a.toNat := by
  unfold ofNat
  -- the number fits exactly when narrowing it succeeds
  cases hnarrow : UInt256.ofNat? k with
  | none =>
    refine ⟨nofun, fun h => ?_⟩
    rw [UInt256.ofNat?_eq_some_iff.2 h.symm] at hnarrow
    cases hnarrow
  | some b =>
    rw [UInt256.ofNat?_eq_some_iff] at hnarrow
    show Except.ok b = Except.ok a ↔ _
    rw [Except.ok.injEq, ← hnarrow]
    exact ⟨fun h => by rw [h], BitVec.eq_of_toNat_eq⟩

/-- A plain numeral is read as the number of its digits. -/
theorem ofPlainNumeral_of_isPlain (h : n.IsPlain) :
    ofPlainNumeral n = ofNat (Decimal.toNat n.whole) := by
  rw [ofPlainNumeral, h.toNat?_eq]

/-- Digits are read as the number that they denote, and nothing else is read. -/
theorem ofPlainNumeral_eq_ok_iff : ofPlainNumeral n = .ok a ↔ n.IsPlain ∧ n.value = a.toNat := by
  constructor
  · intro h
    -- the reader looks for digits alone, which is what makes a numeral plain
    cases hdigits : n.toNat? with
    | none =>
      rw [ofPlainNumeral, hdigits] at h
      cases h
    | some k =>
      have hplain := Numeral.isPlain_of_toNat? hdigits
      rw [ofPlainNumeral_of_isPlain hplain, ofNat_eq_ok_iff] at h
      exact ⟨hplain, by rw [hplain.value_eq, h]⟩
  · rintro ⟨hplain, hvalue⟩
    rw [hplain.value_eq, Nat.cast_inj] at hvalue
    rw [ofPlainNumeral_of_isPlain hplain, ofNat_eq_ok_iff, hvalue]

/-! ## Through a value

A value that was parsed before keeps a number as a word, as a float or as its text, by its size and
its form. What comes out of it as a quantity is right whenever something comes out: the value of the
numeral, plain or not. -/

theorem isWhole_iff {x : FloatingPoint} : x.isWhole = true ↔ 2 ^ Decimal.unitPlaces ∣ x.units := by
  rw [FloatingPoint.isWhole, Nat.shiftLeft_eq, Nat.one_mul, beq_iff_eq]
  exact (Nat.dvd_iff_mod_eq_zero ..).symm

/-- A whole floating-point number that is not below zero is read from its positional text. -/
theorem ofFloatingPoint_of_isWhole {x : FloatingPoint} (h : x.isWhole = true) :
    ofFloatingPoint false x = ofPlainNumeral (.positional false x.upper) := by
  rw [ofFloatingPoint, if_neg]
  simp [h]

/-- Whatever way digits come, they are read in the same manner. -/
theorem ofNumeral_of_isPlain (h : n.IsPlain) : ofNumeral n = ofPlainNumeral n := by
  rw [ofNumeral]
  split
  · rw [if_neg (by rw [h.negative]; exact nofun), ofPlainNumeral_of_isPlain h]
  · -- a plain numeral that is read as a float is a whole number in positional form
    cases hfloating : n.floatingPoint? with
    | none => rfl
    | some x =>
      obtain ⟨m, hm, hnearest, -, -, htext | htext⟩ := Numeral.floatingPoint?_eq_some hfloating
      · exact absurd (htext ▸ h) (Numeral.not_isPlain_floating _ _)
      · rw [h.negative] at htext ⊢
        have hwhole := Numeral.dvd_units_of_value h.negative hm hnearest h.value_eq
        show ofFloatingPoint false x = _
        rw [ofFloatingPoint_of_isWhole (isWhole_iff.2 hwhole), ← htext]

/-- What a floating-point number is read as: its shortest decimal, which has no places. -/
theorem of_ofFloatingPoint_eq_ok {negative : Bool} {x : FloatingPoint}
    (h : ofFloatingPoint negative x = .ok a) :
    negative = false ∧ x.isWhole = true ∧ 0 ≤ x.upper.exponent ∧ x.upper.value = a.toNat := by
  unfold ofFloatingPoint at h
  split at h
  · cases h
  · next hwhole =>
    obtain ⟨hplain, hvalue⟩ := ofPlainNumeral_eq_ok_iff.1 h
    obtain rfl : negative = false := hplain.negative
    have hexponent := Numeral.nonneg_of_isPlain_positional hplain
    rw [Numeral.value_positional hexponent] at hvalue
    exact ⟨rfl, by simpa using hwhole, hexponent, hvalue⟩

/-- What goes through floating point and is read has one of the two texts of a whole number. -/
theorem of_floatingPoint? {x : FloatingPoint} (hfloating : n.floatingPoint? = some x)
    (h : ofFloatingPoint n.negative x = .ok a) :
    (n.IsPlain ∨ n.IsFloatingText) ∧ n.value = a.toNat := by
  obtain ⟨hsign, hwhole, hexponent, hvalue⟩ := of_ofFloatingPoint_eq_ok h
  obtain ⟨m, -, -, heven, hupper, htext⟩ := Numeral.floatingPoint?_eq_some hfloating
  rw [hsign] at htext
  rcases htext with htext | htext
  · -- for a whole number the two shortest decimals are the same
    rw [Decimal.shortest_even_eq_upper (isWhole_iff.1 hwhole), hupper, Option.some.injEq] at heven
    refine ⟨.inr ⟨hsign, x, hfloating, htext⟩, ?_⟩
    rw [htext, ← heven, Numeral.value_floating hexponent, hvalue]
  · refine ⟨.inl ?_, ?_⟩
    · rw [htext, Numeral.positional_of_nonneg hexponent]
      exact ⟨rfl, rfl, rfl⟩
    · rw [htext, Numeral.value_positional hexponent, hvalue]

/-- If a parsed number is a quantity, its numeral is plain or one of those that only this path
accepts, and the quantity is its value. The three cases are the three ways a value keeps a number.
-/
theorem of_ofNumeral_eq_ok (hn : n.WellFormed) (h : ofNumeral n = .ok a) :
    (n.IsPlain ∨ n.Drifts) ∧ n.value = a.toNat := by
  rw [ofNumeral] at h
  split at h
  · next hword =>
    have hinteger := Numeral.isInteger_of_isWord hword
    split at h
    · next hsign =>
      split at h
      · next hzero =>
        -- the only number below zero that is no refusal is minus zero
        cases h
        have hminus := hn.isMinusZero hinteger hsign hzero
        refine ⟨.inr (.inl hminus), ?_⟩
        rw [hminus.value_eq]
        simp
      · cases h
    · next hsign =>
      have hplain := Numeral.isPlain_of_isInteger hinteger (by simpa using hsign)
      rw [← ofPlainNumeral_of_isPlain hplain, ofPlainNumeral_eq_ok_iff] at h
      exact ⟨.inl hplain, h.2⟩
  · split at h
    · -- a float that is accepted has the value of its numeral, plain or not
      next x hfloating =>
      obtain ⟨hplain | htext, hvalue⟩ := of_floatingPoint? hfloating h
      · exact ⟨.inl hplain, hvalue⟩
      · exact ⟨.inr (.inr htext), hvalue⟩
    · rw [ofPlainNumeral_eq_ok_iff] at h
      exact ⟨.inl h.1, h.2⟩

/-- A numeral that is how a float is written is accepted as its value, if that is a quantity. -/
theorem ofNumeral_of_isFloatingText (h : n.IsFloatingText) (hvalue : n.value = a.toNat) :
    ofNumeral n = .ok a := by
  have hword : ¬ n.isWord = true := Bool.eq_false_iff.1 h.isWord_eq
  obtain ⟨hsign, x, hfloating, htext⟩ := h
  obtain ⟨m, hm, hnearest, heven, hupper, -⟩ := Numeral.floatingPoint?_eq_some hfloating
  -- the float is a whole number, so both writers give the same digits
  have hwhole := Numeral.dvd_units_of_value hsign hm hnearest hvalue
  have hexponent := Decimal.exponent_nonneg_of_shortest hwhole hnearest hupper
  rw [Decimal.shortest_even_eq_upper hwhole, hupper, Option.some.injEq] at heven
  rw [htext, ← heven, Numeral.value_floating hexponent] at hvalue
  rw [ofNumeral, if_neg hword, hfloating, hsign]
  show ofFloatingPoint false x = _
  rw [ofFloatingPoint_of_isWhole (isWhole_iff.2 hwhole), ofPlainNumeral_eq_ok_iff,
    Numeral.value_positional hexponent, Numeral.positional_of_nonneg hexponent]
  exact ⟨⟨rfl, rfl, rfl⟩, hvalue⟩

/-- Through a value the numerals that drift are read, too. -/
theorem ofNumeral_eq_ok_iff (hn : n.WellFormed) :
    ofNumeral n = .ok a ↔ (n.IsPlain ∨ n.Drifts) ∧ n.value = a.toNat := by
  refine ⟨of_ofNumeral_eq_ok hn, ?_⟩
  rintro ⟨hplain | rfl | hfloating, hvalue⟩
  · rw [ofNumeral_of_isPlain hplain, ofPlainNumeral_eq_ok_iff]
    exact ⟨hplain, hvalue⟩
  · rw [Numeral.IsMinusZero.value_eq rfl] at hvalue
    have hzero : a = 0 := BitVec.eq_of_toNat_eq (by exact_mod_cast hvalue.symm)
    rw [hzero]
    rfl
  · exact ofNumeral_of_isFloatingText hfloating hvalue

/-- Both ways have the same outcome unless the numeral drifts to a quantity. -/
theorem toOption_eq_iff (hn : n.WellFormed) : (ofPlainNumeral n).toOption = (ofNumeral n).toOption
    ↔ ¬ (n.Drifts ∧ ∃ a : UInt256, n.value = a.toNat) := by
  -- for a plain numeral the two ways are one; any other is refused on the direct one
  by_cases hplain : n.IsPlain
  · rw [ofNumeral_of_isPlain hplain]
    exact iff_of_true rfl fun h => h.1.not_isPlain hplain
  · have hdirect : (ofPlainNumeral n).toOption = none := by
      cases hread : ofPlainNumeral n with
      | ok a => exact absurd (ofPlainNumeral_eq_ok_iff.1 hread).1 hplain
      | error e => rfl
    rw [hdirect]
    cases hread : ofNumeral n with
    | ok a =>
      obtain ⟨hplain' | hdrifts, hvalue⟩ := (ofNumeral_eq_ok_iff hn).1 hread
      · exact absurd hplain' hplain
      · exact iff_of_false nofun fun h => h ⟨hdrifts, a, hvalue⟩
    | error e =>
      refine iff_of_true rfl ?_
      rintro ⟨hdrifts, a, hvalue⟩
      rw [(ofNumeral_eq_ok_iff hn).2 ⟨.inr hdrifts, hvalue⟩] at hread
      cases hread

/-- A number is read straight from its text if it is written with digits only, and through a value
also if its numeral drifts. Both ways have the same outcome exactly if it does not drift, or drifts
to what is no quantity; and what is read on either is the number that is written. -/
theorem number_decodes {document : String} (h : NumberDocument n document) :
    (∀ a, Codec.quantity.parse document = .ok a ↔ n.IsPlain ∧ n.value = a.toNat)
      ∧ (∀ a, Json.parse document >>= Codec.quantity.decode = .ok a
        ↔ (n.IsPlain ∨ n.Drifts) ∧ n.value = a.toNat)
      ∧ (n.Drifts → ¬ n.IsPlain)
      ∧ ((Codec.quantity.parse document).toOption
          = (Json.parse document >>= Codec.quantity.decode).toOption
        ↔ ¬ (n.Drifts ∧ ∃ a : UInt256, n.value = a.toNat)) := by
  have hn : n.WellFormed := by
    obtain ⟨-, ⟨hn, -⟩, -, -⟩ := h
    exact hn
  rw [h.direct_eq, h.value_eq]
  exact ⟨fun a => ofPlainNumeral_eq_ok_iff, fun a => ofNumeral_eq_ok_iff hn,
    Numeral.Drifts.not_isPlain, toOption_eq_iff hn⟩

/-- The document `1e16` drifts: it is a quantity, but only through a value. -/
theorem number_decodes_exponent :
    let n : Numeral := ⟨false, Decimal.ofNat 1, none, some (false, Decimal.ofNat 16)⟩
    NumberDocument n "1e16" ∧ n.Drifts ∧ n.value = 10 ^ 16
      ∧ (∀ a, Codec.quantity.parse "1e16" ≠ .ok a)
      ∧ Json.parse "1e16" >>= Codec.quantity.decode = .ok 0x2386f26fc10000 := by
  intro n
  have hexponent : IsDigits (Decimal.ofNat 16) := (Numeral.wellFormed_ofNat 16).whole
  have hn : n.WellFormed := {
    whole := (Numeral.wellFormed_ofNat 1).whole
    noLeadingZero := (Numeral.wellFormed_ofNat 1).noLeadingZero
    fraction := nofun
    exponent := fun part hpart => by
      cases hpart
      exact hexponent }
  have hdocument : NumberDocument n "1e16" :=
    .intro Json.isBlanks_nil (.intro hn (.unsigned (.inl rfl) hexponent)) Json.isBlanks_nil rfl
  obtain ⟨hdirect, hvalue, -, -⟩ := number_decodes hdocument
  -- reading the text goes through the rounding to a float, so it is computed
  have hread : Json.parse "1e16" >>= Codec.quantity.decode = .ok 0x2386f26fc10000 := by
    decide +kernel
  have hplain : ¬ n.IsPlain := fun h => absurd h.exponent nofun
  obtain ⟨hplain' | hdrifts, hdenotes⟩ := (hvalue _).1 hread
  · exact absurd hplain' hplain
  · refine ⟨hdocument, hdrifts, ?_, fun a ha => hplain ((hdirect a).1 ha).1, hread⟩
    have hnumber : (0x2386f26fc10000 : UInt256).toNat = 10 ^ 16 := rfl
    rw [hdenotes, hnumber]
    norm_num

/-- Three numbers that are refused straight from the text, and read through a value: minus zero, one
with a fraction and one with an exponent. -/
theorem not_same_outcome :
    (Codec.quantity.parse "-0" = .error .mismatch
        ∧ Json.parse "-0" >>= Codec.quantity.decode = .ok 0)
      ∧ (Codec.quantity.parse "1.0" = .error .mismatch
        ∧ Json.parse "1.0" >>= Codec.quantity.decode = .ok 1)
      ∧ Codec.quantity.parse "1e16" = .error .mismatch
        ∧ Json.parse "1e16" >>= Codec.quantity.decode = .ok 0x2386f26fc10000 := by
  refine ⟨⟨rfl, rfl⟩, ⟨rfl, ?_⟩, rfl, ?_⟩
  · decide +kernel
  · decide +kernel

end Quantity

end NftExchange
