import NftExchange.Json.Quantity
import NftExchange.Proofs.Decimal.Rounding
import NftExchange.Proofs.Json.Numerals

/-!
# What numerals denote

A numeral denotes a rational number, and so does a decimal. The numeral of a floating-point number
denotes its shortest decimal, positional or with an exponent, if that decimal has no places.

* **`value_floating`** and **`value_positional`** — what the two texts of a decimal denote;
* **`floatingPoint?_eq_some`** — what is known of a numeral that goes through floating point;
* **`dvd_units_of_value`** — if it denotes a natural number, then the floating-point number is
  whole.
-/

namespace NftExchange

namespace Decimal

/-- Zeros at the end multiply by a power of ten. -/
theorem toNat_append_zeros (digits : Bytes) (k : Nat) :
    toNat (digits ++ List.replicate k 0x30) = toNat digits * 10 ^ k := by
  induction k with
  | zero => rw [List.replicate_zero, List.append_nil, Nat.pow_zero, Nat.mul_one]
  | succ k ih =>
    rw [List.replicate_succ', ← List.append_assoc, toNat_append_singleton, ih, Nat.pow_succ,
      Nat.mul_assoc]
    rfl

/-- The number that a decimal denotes. -/
def Scientific.value (d : Scientific) : ℚ := d.digits * 10 ^ d.exponent

end Decimal

namespace Numeral

open Decimal (Scientific FloatingPoint)

variable {n : Numeral} {d : Scientific}

/-! ## Values

The number that a numeral denotes is a rational, apart from how any reader gets at it. Plain digits,
and they alone, denote it without a sign, a fraction or an exponent. -/

/-- The power of ten that an exponent gives. -/
def power : Option (Bool × Bytes) → ℤ
  | none => 0
  | some (true, digits) => -Decimal.toNat digits
  | some (false, digits) => Decimal.toNat digits

/-- The number that a numeral denotes: all of its digits, with the point moved by the exponent and
by the places after it. -/
def value (n : Numeral) : ℚ :=
  (if n.negative then -1 else 1) * Decimal.toNat (n.whole ++ n.fraction.getD [])
    * 10 ^ (power n.exponent - (n.fraction.getD []).length)

/-- Nothing but digits. -/
structure IsPlain (n : Numeral) : Prop where
  negative : n.negative = false
  fraction : n.fraction = none
  exponent : n.exponent = none

/-- Plain digits denote what they are read as. -/
theorem IsPlain.value_eq (h : n.IsPlain) : n.value = Decimal.toNat n.whole := by
  rw [value, h.negative, h.fraction, h.exponent]
  simp [power]

theorem IsPlain.toNat?_eq (h : n.IsPlain) : n.toNat? = some (Decimal.toNat n.whole) := by
  rw [toNat?, isInteger, h.negative, h.fraction, h.exponent]
  rfl

/-- Nothing but plain digits is read. -/
theorem isPlain_of_toNat? {k : Nat} (h : n.toNat? = some k) : n.IsPlain := by
  unfold toNat? isInteger at h
  split at h
  · next hplain =>
    simp only [Bool.and_eq_true, Option.isNone_iff_eq_none, Bool.not_eq_true'] at hplain
    exact ⟨hplain.2, hplain.1.1, hplain.1.2⟩
  · cases h

theorem isPlain_ofNat (k : Nat) : (ofNat k).IsPlain := ⟨rfl, rfl, rfl⟩

/-- A numeral without a sign has the value of its magnitude. -/
theorem value_eq_of_magnitude? (h : n.magnitude? = some d) (hsign : n.negative = false) :
    n.value = d.value := by
  unfold magnitude? at h
  dsimp only at h
  split at h
  · cases h
  · cases h
    rw [value, Scientific.value, hsign]
    match n.exponent with
    | none => simp [power, Decimal.toNat]
    | some (true, digits) => simp [power]
    | some (false, digits) => simp [power]

/-! ## The texts of a floating-point number

Two texts count as those of a floating-point number, the positional one and the one with a point or
an exponent. For a whole number both denote its shortest decimal, and only the first is plain
digits. -/

/-- Without decimal places the positional text is digits and zeros. -/
theorem positional_of_nonneg (h : 0 ≤ d.exponent) (negative : Bool) : positional negative d
    = ⟨negative, Decimal.ofNat d.digits ++ List.replicate d.exponent.toNat 0x30, none, none⟩ := by
  have hplaces : (-d.exponent).toNat = 0 := by omega
  have hpositive : 0 < (Decimal.ofNat d.digits ++ List.replicate d.exponent.toNat 0x30).length := by
    have := List.length_pos_of_ne_nil (Decimal.ofNat_ne_nil d.digits)
    rw [List.length_append]
    omega
  have hpadding : 0 + 1 - (Decimal.ofNat d.digits
      ++ List.replicate d.exponent.toNat 0x30).length = 0 := by omega
  rw [positional]
  simp only [hplaces, hpadding, List.replicate_zero, List.nil_append, Nat.sub_zero,
    List.take_length, if_true]

/-- It is plain digits only without decimal places. -/
theorem nonneg_of_isPlain_positional {negative : Bool} (h : (positional negative d).IsPlain) :
    0 ≤ d.exponent := by
  by_contra hneg
  have hplaces : (-d.exponent).toNat ≠ 0 := by omega
  have hfraction := h.fraction
  rw [positional] at hfraction
  simp only [if_neg hplaces] at hfraction
  cases hfraction

/-- The digits of a decimal without places, all written out, denote it. -/
theorem value_digits (h : 0 ≤ d.exponent) :
    (Decimal.toNat (Decimal.ofNat d.digits ++ List.replicate d.exponent.toNat 0x30) : ℚ)
      = d.value := by
  obtain ⟨k, hk⟩ := Int.eq_ofNat_of_zero_le h
  rw [Decimal.toNat_append_zeros, Decimal.toNat_ofNat, Scientific.value, hk]
  simp

/-- The positional text of a whole number denotes it. -/
theorem value_positional (h : 0 ≤ d.exponent) : (positional false d).value = d.value := by
  rw [positional_of_nonneg h, IsPlain.value_eq ⟨rfl, rfl, rfl⟩, value_digits h]

/-- So does the other one. -/
theorem value_floating (h : 0 ≤ d.exponent) : (floating false d).value = d.value := by
  rw [floating]
  dsimp only
  split
  · -- one place, and nothing but a zero in it
    rw [positional_of_nonneg h, value]
    have hzero := Decimal.toNat_append_zeros
      (Decimal.ofNat d.digits ++ List.replicate d.exponent.toNat 0x30) 1
    simp only [Option.getD_none, Option.getD_some, power]
    rw [show ([0x30] : Bytes) = List.replicate 1 0x30 from rfl, hzero, ← value_digits h]
    push_cast
    simp
  · -- the point stands behind the first digit, and the exponent moves it behind the last
    obtain ⟨k, hk⟩ := Int.eq_ofNat_of_zero_le h
    have hlength := List.length_pos_of_ne_nil (Decimal.ofNat_ne_nil d.digits)
    have hpoint : ¬ ((Decimal.ofNat d.digits).length + d.exponent < 1) := by omega
    have hmoves : (((Decimal.ofNat d.digits).length + d.exponent - 1).natAbs : ℤ)
        - ((Decimal.ofNat d.digits).length - 1 : ℕ) = d.exponent := by omega
    have hfraction : (if (Decimal.ofNat d.digits).length = 1 then none
        else some ((Decimal.ofNat d.digits).drop 1)).getD []
          = (Decimal.ofNat d.digits).drop 1 := by
      split
      · next hone => rw [Option.getD_none, List.drop_of_length_le (Nat.le_of_eq hone)]
      · rfl
    rw [value]
    simp only [hfraction, hpoint, decide_false, power, List.take_append_drop, List.length_drop,
      Decimal.toNat_ofNat, hmoves]
    simp [Scientific.value]

/-- The other one is never plain digits. -/
theorem not_isPlain_floating (negative : Bool) (d : Scientific) :
    ¬ (floating negative d).IsPlain := by
  intro h
  have hfraction := h.fraction
  have hexponent := h.exponent
  rw [floating] at hfraction hexponent
  dsimp only at hfraction hexponent
  split at hfraction
  · cases hfraction
  · next hpoint =>
    rw [if_neg hpoint] at hexponent
    cases hexponent

/-- What is known of a numeral that goes through floating point. -/
theorem floatingPoint?_eq_some {x : FloatingPoint} (h : n.floatingPoint? = some x) :
    ∃ m, n.magnitude? = some m ∧ m.nearest = some x.units
      ∧ Decimal.shortest .even x.units = some x.even
      ∧ Decimal.shortest .upper x.units = some x.upper
      ∧ (n = floating n.negative x.even ∨ n = positional n.negative x.upper) := by
  unfold floatingPoint? at h
  simp only [bind, Option.bind_eq_some_iff] at h
  obtain ⟨m, hm, f, hnearest, y, hy, htext⟩ := h
  unfold FloatingPoint.ofUnits? at hy
  simp only [bind, Option.bind_eq_some_iff] at hy
  obtain ⟨even, heven, upper, hupper, hy⟩ := hy
  cases hy
  -- only the text that one of the two writers gives back is accepted as the float
  split at htext
  · next hn =>
    cases htext
    exact ⟨m, hm, hnearest, heven, hupper, hn⟩
  · cases htext

/-- A numeral that denotes a natural number goes through a whole floating-point number. -/
theorem dvd_units_of_value {m : Scientific} {f k : ℕ} (hsign : n.negative = false)
    (hm : n.magnitude? = some m) (hnearest : m.nearest = some f) (hvalue : n.value = k) :
    2 ^ Decimal.unitPlaces ∣ f := by
  have hexact : m.digits * 10 ^ m.exponent.toNat = k * 10 ^ (-m.exponent).toNat := by
    rw [value_eq_of_magnitude? hm hsign, Scientific.value] at hvalue
    have hsplit : m.exponent = m.exponent.toNat - (-m.exponent).toNat := by omega
    rw [hsplit, zpow_sub₀ (by norm_num), zpow_natCast, zpow_natCast, ← mul_div_assoc,
      div_eq_iff (by positivity)] at hvalue
    exact_mod_cast hvalue
  rw [Scientific.nearest, Nat.pow_eq, Nat.pow_eq, hexact] at hnearest
  exact Decimal.dvd_of_nearest (Nat.pow_pos (by decide)) hnearest

end Numeral

end NftExchange
