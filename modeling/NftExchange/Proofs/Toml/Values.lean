import Mathlib
import NftExchange.Toml.Read
import NftExchange.Proofs.Digits

/-!
# TOML values are read back

A text can be quoted in four ways, and a number is written in decimal; `ValueText` says how values
are written where no escape is needed. A value ends where something follows that cannot belong to
it, so what comes after it has to be known before it can be read: `Stops` is that condition.

* **`Quoting.quotedText?_append`** — a quoted text is read, whatever stops it;
* **`bare?_toDigits`** — so is a number;
* **`ValueText.value?_append`** — so is every value that is written like this, at any depth.
-/

namespace NftExchange.Toml

/-! ## Ways to write a value

A text may be quoted in four ways, and a number is written in decimal. A text is plain when it
contains nothing that any of these would have to escape, apart from the quotation mark itself. -/

/-- The ways to quote a text. -/
inductive IsQuoting : Quoting → Prop where
  | basic : IsQuoting ⟨'"', true, false⟩
  | literal : IsQuoting ⟨'\'', false, false⟩
  | longBasic : IsQuoting ⟨'"', true, true⟩
  | longLiteral : IsQuoting ⟨'\'', false, true⟩

/-- The quotes on either side of a text. -/
def Quoting.marks (q : Quoting) : List Char := List.replicate (if q.long then 3 else 1) q.quote

/-- The ways to write a value without escapes. -/
inductive ValueText : Toml → List Char → Prop where
  | text {text : String} {q : Quoting} (hq : IsQuoting q) (hquote : q.quote ∉ text.toList) :
      ValueText (.string text) (q.marks ++ (text.toList ++ q.marks))
  | number (n : Nat) : ValueText (.integer n) (Nat.toDigits 10 n)

/-- Values for which no escape is needed and no number is too large. -/
def IsPlain : Toml → Prop
  | .string text => ∀ c ∈ text.toList, 0x20 ≤ c.toNat ∧ c.toNat ≠ 0x7f ∧ c ≠ '\\'
  | .integer n => n ≤ 2 ^ 63 - 1
  | _ => False

/-- What can follow a value on its line: a blank, a comment, or the end. -/
def Stops (rest : List Char) : Prop := ∀ c ∈ rest.head?, c = ' ' ∨ c = '\t' ∨ c = '#' ∨ c = '\n'

/-! ## Quoted texts

A quoted text is read up to the first closing mark, which is the one that was written, since the
text has no such character and none stands behind it. -/

theorem isVisible_of_le {c : Char} (hle : 0x20 ≤ c.toNat) (hne : c.toNat ≠ 0x7f) :
    isVisible c = true := by
  have hspace : ' ' ≤ c := hle
  have hdelete : c ≠ '\x7f' := fun h => hne (by rw [h]; rfl)
  simp [isVisible, hspace, hdelete]

theorem Stops.quote_ne {rest : List Char} (h : Stops rest) {q : Quoting} (hq : IsQuoting q) :
    ∀ c ∈ rest.head?, c ≠ q.quote := by
  intro c hc
  cases hq <;> rcases h c hc with rfl | rfl | rfl | rfl <;> decide

namespace Quoting

variable {q : Quoting} {cs rest : List Char}

/-- Where no quote and no backslash comes before them, the first quotes close the text. -/
theorem raw_append (hq : IsQuoting q) (hcs : ∀ c ∈ cs, c ≠ '\\' ∧ c ≠ q.quote)
    (hrest : ∀ c ∈ rest.head?, c ≠ q.quote) :
    q.raw (cs ++ (q.marks ++ rest)) = some (cs, rest) := by
  induction cs with
  | nil =>
    -- of the quotes that may stand before the closing three there are none
    have hextra : rest.takeWhile (· == q.quote) = [] :=
      takeWhile_stretch (List.forall_mem_nil _) fun c hc => beq_false_of_ne (hrest c hc)
    cases hq with
    | basic | literal => simp [marks, raw.eq_def]
    | longBasic | longLiteral => simp [marks, raw.eq_def, hextra]
  | cons c cs ih =>
    obtain ⟨⟨hescape, hquote⟩, hcs⟩ := List.forall_mem_cons.1 hcs
    rw [List.cons_append, raw.eq_def]
    simp only [hescape, hquote, false_and, if_false, ih hcs, Option.map_some]

/-- A text without escapes is resolved as itself. -/
theorem resolve_eq_some (hcs : ∀ c ∈ cs, isVisible c = true ∧ c ≠ '\\') :
    q.resolve false cs = some cs := by
  induction cs with
  | nil => rfl
  | cons c cs ih =>
    obtain ⟨⟨hvisible, hescape⟩, hcs⟩ := List.forall_mem_cons.1 hcs
    rw [resolve.eq_def]
    simp [hescape, hvisible, ih hcs]

/-- What is quoted is the text, and it does not begin with a line end that would be dropped. -/
theorem text?_append (hq : IsQuoting q)
    (hcs : ∀ c ∈ cs, isVisible c = true ∧ c ≠ '\\' ∧ c ≠ q.quote)
    (hrest : ∀ c ∈ rest.head?, c ≠ q.quote) :
    q.text? (cs ++ (q.marks ++ rest)) = some (String.ofList cs, rest) := by
  -- a text without controls does not begin with a line end that would be dropped
  have hline : dropLineEnd (cs ++ (q.marks ++ rest)) = cs ++ (q.marks ++ rest) := by
    cases cs with
    | nil => cases hq <;> rfl
    | cons c cs =>
      have hc : c ≠ '\n' := by
        rintro rfl
        exact absurd (hcs '\n' List.mem_cons_self).1 (by decide)
      rw [List.cons_append, dropLineEnd]
      exact fun rest h => hc (List.cons.inj h).1
  have hraw := raw_append hq (fun c hc => (hcs c hc).2) hrest
  have hresolve := resolve_eq_some (q := q) fun c hc => ⟨(hcs c hc).1, (hcs c hc).2.1⟩
  simp only [text?, hline, ite_self, hraw, hresolve, Option.bind_eq_bind, Option.bind_some]
  rfl

/-- Three quotes do not open a text on one line, not even an empty one. -/
theorem append_ne_quotes (hlong : q.long = false) (hcs : ∀ c ∈ cs, c ≠ q.quote)
    (hrest : ∀ c ∈ rest.head?, c ≠ q.quote) (tail : List Char) :
    cs ++ (q.marks ++ rest) ≠ q.quote :: q.quote :: tail := by
  intro h
  cases cs with
  | nil =>
    rw [marks, hlong] at h
    have hhead : rest = q.quote :: tail := (List.cons.inj h).2
    exact hrest q.quote (by rw [hhead]; rfl) rfl
  | cons c cs => exact hcs c List.mem_cons_self (List.cons.inj h).1

/-- The quotes tell in which way the text is quoted. -/
theorem quotedText?_append (hq : IsQuoting q)
    (hcs : ∀ c ∈ cs, isVisible c = true ∧ c ≠ '\\' ∧ c ≠ q.quote)
    (hrest : ∀ c ∈ rest.head?, c ≠ q.quote) :
    quotedText? (q.marks ++ (cs ++ (q.marks ++ rest))) = some (String.ofList cs, rest) := by
  have htext := text?_append hq hcs hrest
  have hshort (hlong : q.long = false) :=
    append_ne_quotes hlong (fun c hc => (hcs c hc).2.2) hrest
  -- three marks in a row would open a long text, so short ones must not look like that
  cases hq with
  | basic =>
    show quotedText? ('"' :: (cs ++ _)) = _
    rw [quotedText?]
    · exact htext
    · exact fun tail h => hshort rfl tail (List.cons.inj h).2
    · exact nofun
  | literal =>
    show quotedText? ('\'' :: (cs ++ _)) = _
    rw [quotedText?]
    · exact htext
    · exact nofun
    · exact fun tail h => hshort rfl tail (List.cons.inj h).2
  | longBasic | longLiteral => exact htext

end Quoting

/-! ## Numbers

A bare word may be a number, a float, a date or a time. Decimal digits alone are none of the others,
so they are read as a number; each lemma rules out one of them. -/

section Digits

variable {ds : List Char}

/-- What is no digit is not among digits. -/
theorem not_mem_digits (hds : ∀ c ∈ ds, c.isDigit = true) {c : Char} (hc : c.isDigit = false) :
    c ∉ ds := by
  intro h
  rw [hds c h] at hc
  cases hc

theorem splitSign_digits (hds : ∀ c ∈ ds, c.isDigit = true) : splitSign ds = (false, ds) := by
  have hplus := not_mem_digits hds (show '+'.isDigit = false by decide)
  have hminus := not_mem_digits hds (show '-'.isDigit = false by decide)
  unfold splitSign
  split
  · exact absurd List.mem_cons_self hplus
  · exact absurd List.mem_cons_self hminus
  · rfl

/-- Digits are not split where no digit stops. -/
theorem splitAtFirst_digits (hds : ∀ c ∈ ds, c.isDigit = true) {stops : Char → Bool}
    (hstops : ∀ c, stops c = true → c.isDigit = false) : splitAtFirst stops ds = (ds, none) := by
  have hdrop : (ds.dropWhile fun c => !stops c) = [] := by
    refine List.dropWhile_eq_nil_iff.2 fun c hc => ?_
    cases hstop : stops c with
    | false => rfl
    | true => exact absurd hc (not_mem_digits hds (hstops c hstop))
  rw [splitAtFirst, hdrop]

/-- Digits are one group. -/
theorem grouped?_digits (hds : ∀ c ∈ ds, c.isDigit = true) (hne : ds ≠ []) :
    grouped? Char.isDigit ds = some ds := by
  induction ds with
  | nil => exact absurd rfl hne
  | cons c ds ih =>
    obtain ⟨hc, htail⟩ := List.forall_mem_cons.1 hds
    cases ds with
    | nil => rw [grouped?, if_pos hc]
    | cons d ds =>
      -- there is no underscore between two digits
      have hd : d ≠ '_' := by
        rintro rfl
        exact absurd (htail '_' List.mem_cons_self) (by decide)
      rw [grouped?, if_pos hc, ih htail (List.cons_ne_nil d ds), Option.map_some]
      exact hd

theorem isFloat_digits (hds : ∀ c ∈ ds, c.isDigit = true) : isFloat ds = false := by
  have hexponent : ∀ c : Char, (c == 'e' || c == 'E') = true → c.isDigit = false := by
    intro c hc
    rcases (by simpa using hc : c = 'e' ∨ c = 'E') with rfl | rfl <;> decide
  have hpoint : ∀ c : Char, (c == '.') = true → c.isDigit = false := by
    intro c hc
    rw [beq_iff_eq.1 hc]
    decide
  -- neither an exponent nor a fraction splits off
  have hneither := splitAtFirst_digits hds hexponent
  have hwhole := splitAtFirst_digits hds hpoint
  simp only [isFloat, splitSign_digits hds, hneither, hwhole]
  cases wholePart? ds <;> rfl

theorem isDate_digits (hds : ∀ c ∈ ds, c.isDigit = true) : isDate ds = false := by
  have hminus := not_mem_digits hds (show '-'.isDigit = false by decide)
  unfold isDate
  split
  · exact absurd (by simp) hminus
  · rfl

theorem isDatetime_digits (hds : ∀ c ∈ ds, c.isDigit = true) : isDatetime ds = false := by
  have hcolon := not_mem_digits hds (show ':'.isDigit = false by decide)
  have htime : afterTime? ds = none := by
    unfold afterTime?
    split
    · exact absurd (by simp) hcolon
    · rfl
  rw [isDatetime, isDate_digits fun c hc => hds c (List.mem_of_mem_take hc), htime]
  rfl

/-- Digits are no word that has another character. -/
theorem ofList_digits_ne (hds : ∀ c ∈ ds, c.isDigit = true) {word : String}
    (hword : ∃ c ∈ word.toList, c.isDigit = false) : String.ofList ds ≠ word := by
  rintro rfl
  obtain ⟨c, hc, hdigit⟩ := hword
  rw [String.toList_ofList] at hc
  exact not_mem_digits hds hdigit hc

theorem isSpecialFloat_digits (hds : ∀ c ∈ ds, c.isDigit = true) : isSpecialFloat ds = false := by
  have hinf : String.ofList ds ≠ "inf" := ofList_digits_ne hds ⟨'i', by decide, by decide⟩
  have hnan : String.ofList ds ≠ "nan" := ofList_digits_ne hds ⟨'n', by decide, by decide⟩
  simp only [isSpecialFloat, splitSign_digits hds, beq_false_of_ne hinf, beq_false_of_ne hnan,
    Bool.or_self]

end Digits

theorem isDigit_of_mem_toDigits (n : Nat) : ∀ c ∈ Nat.toDigits 10 n, c.isDigit = true :=
  fun _ => Nat.isDigit_of_mem_toDigits (by decide) (by decide)

theorem ofDigits_toDigits (n : Nat) : ofDigits 10 (Nat.toDigits 10 n) = n := by
  have hfold : ofDigits 10 (Nat.toDigits 10 n) = Nat.ofDigitChars 10 (Nat.toDigits 10 n) 0 := by
    refine List.foldl_ext _ _ _ fun m c hc => ?_
    rw [digitValue, if_pos (isDigit_of_mem_toDigits n c hc), Nat.mul_comm]
  rw [hfold, Nat.ofDigitChars_toDigits (by decide) (by decide)]

/-- The digits of a number are a whole part, as they have no zero in front. -/
theorem wholePart?_toDigits (n : Nat) :
    wholePart? (Nat.toDigits 10 n) = some (Nat.toDigits 10 n) := by
  have hzero : ¬ ((Nat.toDigits 10 n).length > 1 ∧ (Nat.toDigits 10 n).head? = some '0') := by
    rintro ⟨hlength, hhead⟩
    rcases Nat.eq_zero_or_pos n with rfl | hpos
    · exact absurd hlength (by decide)
    · exact Hex.Digits.head?_toDigits_ne_zero (by decide) (by decide) hpos hhead
  rw [wholePart?, grouped?_digits (isDigit_of_mem_toDigits n) Nat.toDigits_ne_nil]
  exact if_neg hzero

/-- A number that fits is read from its digits. -/
theorem integer?_toDigits {n : Nat} (h : n ≤ 2 ^ 63 - 1) :
    integer? (Nat.toDigits 10 n) = some (n : Int) := by
  have hds := isDigit_of_mem_toDigits n
  have hdecimal : decimal? (Nat.toDigits 10 n) = some (n : Int) := by
    -- digits alone have no mark of a base in them
    simp only [decimal?, splitSign_digits hds, wholePart?_toDigits, ofDigits_toDigits,
      Option.bind_eq_bind, Option.bind_some, Bool.false_eq_true, if_false]
    rfl
  have hrange : Int64.minValue.toInt ≤ n ∧ (n : Int) ≤ Int64.maxValue.toInt := by
    have hmin : Int64.minValue.toInt = -9223372036854775808 := by decide
    have hmax : Int64.maxValue.toInt = 9223372036854775807 := by decide
    omega
  unfold integer?
  split
  · next heq => exact absurd (by rw [heq]; simp) (not_mem_digits hds (c := 'x') (by decide))
  · next heq => exact absurd (by rw [heq]; simp) (not_mem_digits hds (c := 'o') (by decide))
  · next heq => exact absurd (by rw [heq]; simp) (not_mem_digits hds (c := 'b') (by decide))
  · simp only [hdecimal, Option.bind_eq_bind, Option.bind_some, if_pos hrange]

/-- The digits of a number that fits are a bare value. -/
theorem ofBare?_toDigits {n : Nat} (h : n ≤ 2 ^ 63 - 1) :
    ofBare? (Nat.toDigits 10 n) = some (.integer n) := by
  have hds := isDigit_of_mem_toDigits n
  have htrue : String.ofList (Nat.toDigits 10 n) ≠ "true" :=
    ofList_digits_ne hds ⟨'t', by decide, by decide⟩
  have hfalse : String.ofList (Nat.toDigits 10 n) ≠ "false" :=
    ofList_digits_ne hds ⟨'f', by decide, by decide⟩
  simp only [ofBare?, if_neg htrue, if_neg hfalse, isSpecialFloat_digits hds, isFloat_digits hds,
    isDatetime_digits hds, integer?_toDigits h, Bool.or_self, Bool.false_eq_true, if_false,
    Option.map_some]

theorem Stops.not_bare {rest : List Char} (h : Stops rest) :
    ∀ c ∈ rest.head?, isBare c = false := by
  intro c hc
  rcases h c hc with rfl | rfl | rfl | rfl <;> decide

/-- A number is no date, so a blank after it does not join it with what follows. -/
theorem bare?_toDigits {n : Nat} (h : n ≤ 2 ^ 63 - 1) {rest : List Char} (hrest : Stops rest) :
    bare? (Nat.toDigits 10 n ++ rest) = some (.integer n, rest) := by
  have hbare : ∀ c ∈ Nat.toDigits 10 n, isBare c = true := by
    intro c hc
    simp [isBare, Char.isAlphanum, isDigit_of_mem_toDigits n c hc]
  simp only [bare?, takeWhile_stretch hbare hrest.not_bare, dropWhile_stretch hbare hrest.not_bare,
    isDate_digits (isDigit_of_mem_toDigits n), ofBare?_toDigits h]
  split <;> rfl

/-! ## Values

Both kinds of values at once: what is written in one of the ways is read as the value, at any depth,
and the rest is left. -/

/-- A plain value is read from any of its texts, if what follows stops it. -/
theorem ValueText.value?_append {v : Toml} {cs rest : List Char} (h : ValueText v cs)
    (hplain : v.IsPlain) (hrest : Stops rest) (depth : Nat) :
    value? depth (cs ++ rest) = some (v, rest) := by
  -- lists and tables inside play no part, so the depth is irrelevant
  suffices hwith : ∀ nested, valueWith? nested (cs ++ rest) = some (v, rest) by
    cases depth with
    | zero => exact hwith none
    | succ depth => exact hwith _
  intro nested
  cases h with
  | @text text q hq hquote =>
    have hcs : ∀ c ∈ text.toList, isVisible c = true ∧ c ≠ '\\' ∧ c ≠ q.quote := by
      intro c hc
      obtain ⟨hle, hne, hescape⟩ := hplain c hc
      refine ⟨isVisible_of_le hle hne, hescape, ?_⟩
      rintro rfl
      exact hquote hc
    have hread := Quoting.quotedText?_append hq hcs (hrest.quote_ne hq)
    rw [String.ofList_toList] at hread
    rw [List.append_assoc, List.append_assoc]
    -- the first characters say that this is a text
    have hdispatch : valueWith? nested (q.marks ++ (text.toList ++ (q.marks ++ rest)))
        = (quotedText? (q.marks ++ (text.toList ++ (q.marks ++ rest)))).map
            fun read => (.string read.1, read.2) := by
      cases hq <;> rfl
    rw [hdispatch, hread]
    rfl
  | number n =>
    have hle : n ≤ 2 ^ 63 - 1 := Int.ofNat_le.1 hplain
    -- what is no bare value begins with a mark that is no digit
    have hhead {d : Char} (hd : d.isDigit = false) (tail : List Char) :
        Nat.toDigits 10 n ++ rest ≠ d :: tail := by
      obtain ⟨c, cs, hcs⟩ := List.exists_cons_of_ne_nil (Nat.toDigits_ne_nil (n := n) (b := 10))
      rw [hcs]
      intro h
      have hc := isDigit_of_mem_toDigits n c (hcs ▸ List.mem_cons_self)
      rw [(List.cons.inj h).1, hd] at hc
      cases hc
    rw [← bare?_toDigits hle hrest, valueWith?]
    · exact hhead (by decide)
    · exact hhead (by decide)
    · exact hhead (by decide)
    · exact hhead (by decide)

end NftExchange.Toml
