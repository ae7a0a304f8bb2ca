import Mathlib
import NftExchange.Json.Scan
import NftExchange.Proofs.Stretches
import NftExchange.Proofs.Utf8

/-!
# JSON numerals are read back

A numeral ends where no digit, point or exponent follows, so what comes after it has to be known
before it can be read: `Stops` is that condition, and every mark that can follow a value meets it.
The same numeral has several texts, because an exponent can be written in several ways: `NumberText`
says which.

* **`NumberText.numeral?_append`** — a numeral is read from each of its texts, whatever stops it;
* **`numeral?_text`** — so it is from the text that is written for it;
* **`wellFormed_ofNat`**, **`toNat_ofNat`** — a natural number's numeral is well-formed and denotes
  the number.
-/

namespace NftExchange

/-! ## Decimal digits of a number

The digits of a number as bytes, most significant first. The induction splits off the last digit,
since the reader multiplies by ten and adds. -/

namespace Decimal

theorem ofNat_of_lt {n : Nat} (h : n < 10) : ofNat n = [UInt8.ofNat (48 + n)] := by
  have hchar : (Nat.digitChar n).toNat = 48 + n := Nat.toNat_digitChar_of_lt_ten h
  have hbytes := Bytes.utf8EncodeChar_of_ascii (c := Nat.digitChar n) (by omega)
  rw [ofNat, Nat.toString_eq_ofList_toDigits, Nat.toDigits_of_lt_base h, Bytes.ofText_ofList,
    List.flatMap_cons, List.flatMap_nil, List.append_nil, hbytes, hchar]

/-- Any other number has the digits of its tenth, and one more. -/
theorem ofNat_of_le {n : Nat} (h : 10 ≤ n) :
    ofNat n = ofNat (n / 10) ++ [UInt8.ofNat (48 + n % 10)] := by
  have hlast := ofNat_of_lt (Nat.mod_lt n (by decide : 10 > 0))
  rw [ofNat, Nat.toString_eq_ofList_toDigits, Nat.toDigits_of_lt_base (Nat.mod_lt n (by decide)),
    Bytes.ofText_ofList] at hlast
  rw [ofNat, Nat.toString_eq_ofList_toDigits, Nat.toDigits_of_base_le (by decide) h,
    Bytes.ofText_ofList, List.flatMap_append, hlast, ← Bytes.ofText_ofList,
    ← Nat.toString_eq_ofList_toDigits]
  rfl

/-- The byte of a digit is 48 above its value. -/
private theorem digitByte : ∀ d < 10, isDigit (UInt8.ofNat (48 + d)) = true
    ∧ (UInt8.ofNat (48 + d)).toNat - 48 = d := by
  decide

/-- A number is written with digits only. -/
theorem isDigit_of_mem_ofNat (n : Nat) : ∀ b ∈ ofNat n, isDigit b = true := by
  -- the last digit is split off; those before it are the digits of `n / 10`
  induction n using Nat.strong_induction_on with
  | _ n ih =>
    intro b hb
    rcases Nat.lt_or_ge n 10 with hlt | hge
    · rw [ofNat_of_lt hlt, List.mem_singleton] at hb
      rw [hb]
      exact (digitByte n hlt).1
    · rw [ofNat_of_le hge, List.mem_append, List.mem_singleton] at hb
      rcases hb with hb | rfl
      · exact ih (n / 10) (by omega) b hb
      · exact (digitByte (n % 10) (by omega)).1

theorem ofNat_ne_nil (n : Nat) : ofNat n ≠ [] := by
  rcases Nat.lt_or_ge n 10 with hlt | hge
  · rw [ofNat_of_lt hlt]
    exact List.cons_ne_nil _ _
  · rw [ofNat_of_le hge]
    exact List.append_ne_nil_of_right_ne_nil _ (List.cons_ne_nil _ _)

theorem toNat_append_singleton (digits : Bytes) (b : UInt8) :
    toNat (digits ++ [b]) = toNat digits * 10 + (b.toNat - 48) := by
  rw [toNat, List.foldl_append]
  rfl

/-- The digits of a number denote it. -/
theorem toNat_ofNat (n : Nat) : toNat (ofNat n) = n := by
  induction n using Nat.strong_induction_on with
  | _ n ih =>
    rcases Nat.lt_or_ge n 10 with hlt | hge
    · rw [ofNat_of_lt hlt, ← List.nil_append [UInt8.ofNat (48 + n)], toNat_append_singleton,
        (digitByte n hlt).2]
      exact Nat.zero_add n
    · rw [ofNat_of_le hge, toNat_append_singleton, ih (n / 10) (by omega),
        (digitByte (n % 10) (by omega)).2]
      omega

/-- No number but zero is written with a zero in front. -/
theorem head?_ofNat_ne_zero {n : Nat} (h : 0 < n) : (ofNat n).head? ≠ some 0x30 := by
  induction n using Nat.strong_induction_on with
  | _ n ih =>
    rcases Nat.lt_or_ge n 10 with hlt | hge
    · have hdigit : ∀ d < 10, 0 < d → UInt8.ofNat (48 + d) ≠ 0x30 := by decide
      rw [ofNat_of_lt hlt, List.head?_cons]
      exact fun heq => hdigit n hlt h (Option.some.inj heq)
    · rw [ofNat_of_le hge, List.head?_append_of_ne_nil _ (ofNat_ne_nil _)]
      exact ih (n / 10) (by omega) (by omega)

end Decimal

/-! ## Well-formed numerals

A numeral is taken apart into digits before the point, digits behind it and an exponent. Not every
such triple is one that a text has: there are digits in each part, and no zero in front of others.
-/

/-- Nonempty and nothing but digits. -/
def IsDigits (digits : Bytes) : Prop := digits ≠ [] ∧ ∀ b ∈ digits, Decimal.isDigit b = true

namespace Numeral

/-- Whether a numeral can be written: digits in every part that is there, and no zero in front of
other digits. -/
structure WellFormed (n : Numeral) : Prop where
  whole : IsDigits n.whole
  noLeadingZero : n.whole.length ≠ 1 → n.whole.head? ≠ some 0x30
  fraction : ∀ digits ∈ n.fraction, IsDigits digits
  exponent : ∀ part ∈ n.exponent, IsDigits part.2

/-- The numeral of a natural number is well-formed. -/
theorem wellFormed_ofNat (n : Nat) : (ofNat n).WellFormed where
  whole := ⟨Decimal.ofNat_ne_nil n, Decimal.isDigit_of_mem_ofNat n⟩
  noLeadingZero := by
    intro hlength
    rcases Nat.eq_zero_or_pos n with rfl | hpos
    · exact absurd (congrArg List.length (Decimal.ofNat_of_lt (n := 0) (by decide))) hlength
    · exact Decimal.head?_ofNat_ne_zero hpos
  fraction := by intro digits h; cases h
  exponent := by intro part h; cases h

theorem toNat?_ofNat (n : Nat) : (ofNat n).toNat? = some n := by
  show some (Decimal.toNat (Decimal.ofNat n)) = some n
  rw [Decimal.toNat_ofNat]

end Numeral

namespace Json

/-! ## What stops a numeral

Nothing marks the end of a number. It ends where a byte comes that cannot go on with it, and
wherever a number is written such a byte follows, or nothing does. -/

/-- Whether a numeral cannot go on with what follows. -/
def Stops (rest : Bytes) : Prop :=
  ∀ b ∈ rest.head?, Decimal.isDigit b = false ∧ b ≠ 0x2e ∧ b ≠ 0x65 ∧ b ≠ 0x45

theorem stops_nil : Stops [] := by intro b h; cases h

theorem stops_comma (rest : Bytes) : Stops (0x2c :: rest) := by
  intro b h
  cases h
  decide

theorem stops_brace (rest : Bytes) : Stops (0x7d :: rest) := by
  intro b h
  cases h
  decide

/-! ## Scanning the parts

Each part is scanned by a reader of its own, which takes the longest stretch that it can. That this
is the part and nothing more is a matter of the byte that follows it. -/

section Parts

variable {digits rest : Bytes}

/-- The text of a fraction, as bytes. -/
def fractionBytes : Option Bytes → Bytes
  | some digits => 0x2e :: digits
  | none => []

/-- The texts of an exponent: the letter in either case, and a sign that a positive one may lack. -/
inductive ExponentText : Option (Bool × Bytes) → Bytes → Prop where
  | absent : ExponentText none []
  | unsigned {letter : UInt8} {digits : Bytes} (hletter : letter = 0x65 ∨ letter = 0x45)
      (hdigits : IsDigits digits) : ExponentText (some (false, digits)) (letter :: digits)
  | plus {letter : UInt8} {digits : Bytes} (hletter : letter = 0x65 ∨ letter = 0x45)
      (hdigits : IsDigits digits) : ExponentText (some (false, digits)) (letter :: 0x2b :: digits)
  | minus {letter : UInt8} {digits : Bytes} (hletter : letter = 0x65 ∨ letter = 0x45)
      (hdigits : IsDigits digits) : ExponentText (some (true, digits)) (letter :: 0x2d :: digits)

/-- Digits in front have no sign. -/
private theorem exponentSign_digits (hdigits : IsDigits digits) :
    exponentSign (digits ++ rest) = (false, digits ++ rest) := by
  cases digits with
  | nil => exact absurd rfl hdigits.1
  | cons b digits =>
    have hb := hdigits.2 b (by simp)
    show exponentSign (b :: (digits ++ rest)) = _
    unfold exponentSign
    -- the first byte is a digit, so it is neither of the two signs
    split
    · next heq =>
      rw [(List.cons.inj heq).1] at hb
      exact absurd hb (by decide)
    · next heq =>
      rw [(List.cons.inj heq).1] at hb
      exact absurd hb (by decide)
    · rfl

/-- An exponent goes on to the end of its digits, whatever was found to be its sign. -/
private theorem exponent?_digits {letter : UInt8} {negative : Bool} {signed : Bytes}
    (hletter : letter = 0x65 ∨ letter = 0x45) (hdigits : IsDigits digits) (hrest : Stops rest)
    (hsign : exponentSign signed = (negative, digits ++ rest)) :
    exponent? (letter :: signed) = some (some (negative, digits), rest) := by
  obtain ⟨hne, hall⟩ := hdigits
  have hstop : ∀ b ∈ rest.head?, Decimal.isDigit b = false := fun b hb => (hrest b hb).1
  have hempty : digits.isEmpty = false := by simpa using hne
  simp only [exponent?, if_pos hletter, hsign, takeWhile_stretch hall hstop,
    dropWhile_stretch hall hstop, hempty, Bool.false_eq_true, if_false]

/-- An exponent is scanned whole. -/
theorem ExponentText.exponent?_append {exponent : Option (Bool × Bytes)} {bytes : Bytes}
    (h : ExponentText exponent bytes) (hrest : Stops rest) :
    exponent? (bytes ++ rest) = some (exponent, rest) := by
  cases h with
  | absent =>
    cases rest with
    | nil => rfl
    | cons b rest =>
      -- what follows is no `e`, so no exponent is begun
      obtain ⟨-, -, hsmall, hcapital⟩ := hrest b rfl
      show exponent? (b :: rest) = _
      rw [exponent?, if_neg (by simp [hsmall, hcapital])]
  | unsigned hletter hdigits =>
    exact exponent?_digits hletter hdigits hrest (exponentSign_digits hdigits)
  | plus hletter hdigits | minus hletter hdigits =>
    exact exponent?_digits hletter hdigits hrest rfl

/-- In front of an exponent, or of what stops the number, there are no more digits and no point. -/
theorem ExponentText.head? {exponent : Option (Bool × Bytes)} {bytes : Bytes}
    (h : ExponentText exponent bytes) (hrest : Stops rest) :
    ∀ b ∈ (bytes ++ rest).head?, Decimal.isDigit b = false ∧ b ≠ 0x2e := by
  intro b hb
  cases h with
  | absent => exact ⟨(hrest b hb).1, (hrest b hb).2.1⟩
  | unsigned hletter | plus hletter | minus hletter =>
    cases hb
    rcases hletter with rfl | rfl <;> decide

/-- A fraction is scanned whole. -/
theorem fraction?_bytes {fraction : Option Bytes}
    (hfraction : ∀ digits ∈ fraction, IsDigits digits)
    (hrest : ∀ b ∈ rest.head?, Decimal.isDigit b = false ∧ b ≠ 0x2e) :
    fraction? (fractionBytes fraction ++ rest) = some (fraction, rest) := by
  match fraction with
  | none =>
    cases rest with
    | nil => rfl
    | cons b rest =>
      -- what follows is no point, so no fraction is begun
      have hpoint := (hrest b rfl).2
      show fraction? (b :: rest) = _
      unfold fraction?
      split
      · next heq => exact absurd (List.cons.inj heq).1 hpoint
      · rfl
  | some digits =>
    obtain ⟨hne, hdigits⟩ := hfraction _ rfl
    have hstop : ∀ b ∈ rest.head?, Decimal.isDigit b = false := fun b hb => (hrest b hb).1
    have hempty : digits.isEmpty = false := by simpa using hne
    show fraction? (0x2e :: (digits ++ rest)) = _
    simp only [fraction?, takeWhile_stretch hdigits hstop, dropWhile_stretch hdigits hstop, hempty,
      Bool.false_eq_true, if_false]

/-- In front of a fraction there are no more digits. -/
theorem head?_fractionBytes (fraction : Option Bytes)
    (hrest : ∀ b ∈ rest.head?, Decimal.isDigit b = false ∧ b ≠ 0x2e) :
    ∀ b ∈ (fractionBytes fraction ++ rest).head?, Decimal.isDigit b = false := by
  intro b hb
  match fraction with
  | none => exact (hrest b hb).1
  | some digits =>
    cases hb
    decide

/-- The text of a sign, as bytes. -/
def signBytes (negative : Bool) : Bytes := if negative then [0x2d] else []

/-- A sign is told from the first digit. -/
theorem numeralSign_bytes (negative : Bool) (hdigits : IsDigits digits) :
    numeralSign (signBytes negative ++ (digits ++ rest)) = (negative, digits ++ rest) := by
  cases negative with
  | true => rfl
  | false =>
    cases digits with
    | nil => exact absurd rfl hdigits.1
    | cons b digits =>
      -- a digit in front is no minus sign
      have hb := hdigits.2 b (by simp)
      show numeralSign (b :: (digits ++ rest)) = _
      unfold numeralSign
      split
      · next heq =>
        rw [(List.cons.inj heq).1] at hb
        exact absurd hb (by decide)
      · rfl

end Parts

/-! ## Numerals

The parts put together: a text of a number is read as the number, whatever stops it. -/

/-- The texts of a numeral. -/
inductive NumberText (n : Numeral) : Bytes → Prop where
  | intro {exponent : Bytes} (hn : n.WellFormed) (hexponent : ExponentText n.exponent exponent) :
      NumberText n
        (signBytes n.negative ++ (n.whole ++ (fractionBytes n.fraction ++ exponent)))

/-- A text of a number is read as its numeral. -/
theorem NumberText.numeral?_append {n : Numeral} {bytes rest : Bytes} (h : NumberText n bytes)
    (hrest : Stops rest) : numeral? (bytes ++ rest) = some (n, rest) := by
  obtain ⟨hn, hexponent⟩ := h
  -- each part ends where the next begins: the condition on what follows is passed from the end
  have hafter := hexponent.head? hrest
  have hstop := head?_fractionBytes n.fraction hafter
  have hwhole : ¬ (n.whole.isEmpty = true ∨ (n.whole.length ≠ 1 ∧ n.whole.head? = some 0x30)) := by
    rintro (hempty | ⟨hlength, hzero⟩)
    · exact hn.whole.1 (List.isEmpty_iff.1 hempty)
    · exact hn.noLeadingZero hlength hzero
  simp only [List.append_assoc]
  unfold numeral?
  simp only [numeralSign_bytes n.negative hn.whole, takeWhile_stretch hn.whole.2 hstop,
    dropWhile_stretch hn.whole.2 hstop, if_neg hwhole,
    fraction?_bytes hn.fraction hafter, hexponent.exponent?_append hrest, Option.bind_eq_bind,
    Option.bind_some, Option.pure_def]

/-- It starts with a byte that no other value starts with. -/
theorem NumberText.startsNumber {n : Numeral} {bytes : Bytes} (h : NumberText n bytes) :
    ∃ b rest, bytes = b :: rest ∧ startsNumber b = true := by
  obtain ⟨hn, -⟩ := h
  -- a number starts with its sign, or else with a digit of its whole part
  cases hsign : n.negative with
  | true => exact ⟨_, _, rfl, rfl⟩
  | false =>
    obtain ⟨hne, hdigits⟩ := hn.whole
    cases hwhole : n.whole with
    | nil => exact absurd hwhole hne
    | cons b digits =>
      refine ⟨b, _, rfl, ?_⟩
      have hb := hdigits b (by simp [hwhole])
      simp only [Json.startsNumber, hb, Bool.or_true]

/-! ## What is written

What is written for a numeral is one of its texts, so it is read back. -/

theorem ofText_digitText {digits : Bytes} (h : ∀ b ∈ digits, Decimal.isDigit b = true) :
    Bytes.ofText (Numeral.digitText digits) = digits := by
  refine Bytes.ofText_ofList_ascii fun b hb => ?_
  have hdigit := h b hb
  simp only [Decimal.isDigit, Bool.and_eq_true, decide_eq_true_eq] at hdigit
  omega

private def fractionText : Option Bytes → String
  | some digits => "." ++ Numeral.digitText digits
  | none => ""

private def exponentText : Option (Bool × Bytes) → String
  | some (true, digits) => "e-" ++ Numeral.digitText digits
  | some (false, digits) => "e+" ++ Numeral.digitText digits
  | none => ""

/-- A fraction is written with its point. -/
private theorem ofText_fractionText {fraction : Option Bytes}
    (h : ∀ digits ∈ fraction, IsDigits digits) :
    Bytes.ofText (fractionText fraction) = fractionBytes fraction := by
  match fraction with
  | none => rfl
  | some digits =>
    rw [fractionText, Bytes.ofText_append, ofText_digitText (h digits rfl).2]
    rfl

/-- An exponent is written in one of its ways. -/
private theorem exponentText_exponentText {exponent : Option (Bool × Bytes)}
    (h : ∀ part ∈ exponent, IsDigits part.2) :
    ExponentText exponent (Bytes.ofText (exponentText exponent)) := by
  match exponent with
  | none => exact .absent
  | some (true, digits) =>
    rw [exponentText, Bytes.ofText_append, ofText_digitText (h _ rfl).2]
    exact .minus (.inl rfl) (h _ rfl)
  | some (false, digits) =>
    rw [exponentText, Bytes.ofText_append, ofText_digitText (h _ rfl).2]
    exact .plus (.inl rfl) (h _ rfl)

/-- A well-formed numeral is written in one of its ways. -/
theorem numberText_text {n : Numeral} (h : n.WellFormed) : NumberText n (Bytes.ofText n.text) := by
  have hsign : Bytes.ofText (if n.negative then "-" else "") = signBytes n.negative := by
    cases n.negative <;> rfl
  have htext : n.text = (if n.negative then "-" else "") ++ Numeral.digitText n.whole
      ++ fractionText n.fraction ++ exponentText n.exponent := rfl
  rw [htext, Bytes.ofText_append, Bytes.ofText_append, Bytes.ofText_append, hsign,
    ofText_digitText h.whole.2, ofText_fractionText h.fraction, List.append_assoc,
    List.append_assoc]
  exact .intro h (exponentText_exponentText h.exponent)

/-- And it is read back. -/
theorem numeral?_text {n : Numeral} (h : n.WellFormed) {rest : Bytes} (hrest : Stops rest) :
    numeral? (Bytes.ofText n.text ++ rest) = some (n, rest) :=
  (numberText_text h).numeral?_append hrest

/-- What is written starts with a byte that no other value starts with. -/
theorem startsNumber_text {n : Numeral} (h : n.WellFormed) :
    ∃ b rest, Bytes.ofText n.text = b :: rest ∧ startsNumber b = true :=
  (numberText_text h).startsNumber

end Json

end NftExchange
