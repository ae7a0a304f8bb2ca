import Mathlib
import NftExchange.Proofs.Hex
import NftExchange.Proofs.Hex.Joined
import NftExchange.Proofs.Hex.Quantity
import NftExchange.Proofs.Json.Numerals

/-!
# What digits denote

The readers of numbers fold bytes from the left and give up at the first that is no digit.
`denoted` is the number that characters denote in a base by their places, and the readers compute
it.

* **`Hex.toNat?_bytes`** and **`Hex.Digits.exists_of_toNat?`** — hexadecimal bytes are read if they
  are those of digits, of either case, and give what the digits denote;
* **`Hex.Digits.isShortest_ofNat`** — the digits that are written of a number are its shortest;
* **`Hex.eq_of_denoted_eq`** — so many digits in lower case denote a number in one way;
* **`Hex.parseQuantity_eq_ok_iff`** — the texts that are read as quantities;
* **`Decimal.parse?_bytes`** and **`Decimal.exists_of_parse?`** — the same for decimal texts.
-/

namespace NftExchange

/-- The value of a digit of a base up to sixteen; letters are of either case. -/
def digitValue (c : Char) : Nat := "0123456789abcdef".toList.idxOf c.toLower

/-- The number that digits denote in a base, the last of them the ones. -/
def denoted (base : Nat) (digits : List Char) : Nat :=
  Nat.ofDigits base (digits.reverse.map digitValue)

theorem denoted_append_singleton (base : Nat) (digits : List Char) (c : Char) :
    denoted base (digits ++ [c]) = denoted base digits * base + digitValue c := by
  rw [denoted, List.reverse_append, List.reverse_singleton, List.singleton_append, List.map_cons,
    Nat.ofDigits_cons, ← denoted]
  ring

/-- The digits in front count for a power of the base. -/
theorem denoted_append (base : Nat) (digits others : List Char) :
    denoted base (digits ++ others)
      = denoted base digits * base ^ others.length + denoted base others := by
  simp only [denoted, List.reverse_append, List.map_append, Nat.ofDigits_append, List.length_map,
    List.length_reverse]
  ring

/-- Digits denote less than the power of the base that belongs to their number. -/
theorem denoted_lt {base : Nat} {digits : List Char} (hbase : 1 < base)
    (h : ∀ c ∈ digits, digitValue c < base) : denoted base digits < base ^ digits.length := by
  have hlength : (digits.reverse.map digitValue).length = digits.length := by
    rw [List.length_map, List.length_reverse]
  rw [denoted, ← hlength]
  refine Nat.ofDigits_lt_base_pow_length hbase fun d hd => ?_
  obtain ⟨c, hc, rfl⟩ := List.mem_map.1 hd
  exact h c (List.mem_reverse.1 hc)

/-! ## Hexadecimal digits

The readers work on bytes and fold from the front. Here they are compared with digits as characters
and the number that these denote, so that whatever follows can be said of texts. -/

namespace Hex

/-- What stands in front of hexadecimal digits. -/
def IsMark (mark : String) : Prop := mark = "0x" ∨ mark = "0X"

/-- A text has a mark exactly if it starts with one of the two. -/
theorem afterMark?_eq_some_iff {text : String} {digits : Bytes} :
    afterMark? text = some digits
      ↔ ∃ mark, IsMark mark ∧ Bytes.ofText text = Bytes.ofText mark ++ digits := by
  unfold afterMark?
  constructor
  · intro h
    split at h
    · next heq =>
      cases h
      exact ⟨"0x", .inl rfl, heq⟩
    · next heq =>
      cases h
      exact ⟨"0X", .inr rfl, heq⟩
    · cases h
  · -- either mark is two bytes, at which the reader looks
    rintro ⟨mark, rfl | rfl, heq⟩
    · have hbytes : Bytes.ofText text = 0x30 :: 0x78 :: digits := heq
      rw [hbytes]
      rfl
    · have hbytes : Bytes.ofText text = 0x30 :: 0x58 :: digits := heq
      rw [hbytes]
      rfl

/-- A hexadecimal digit is a single byte, which is read as its value. -/
theorem IsDigit.spec {c : Char} (h : IsDigit c) : c.toNat < 0x80 ∧ digitValue c < 16
    ∧ value? (UInt8.ofNat c.toNat) = some (digitValue c) := by
  rw [IsDigit] at h
  fin_cases h <;> decide

/-- A byte with a value is the one of a digit. -/
theorem isDigit_of_value? {b : UInt8} {n : Nat} (h : value? b = some n) :
    b.toNat < 0x80 ∧ IsDigit (Char.ofNat b.toNat) := by
  have hrange : b.toNat < 0x80 := by
    simp only [value?] at h
    split_ifs at h <;> omega
  have hall : ∀ k < 0x80, value? (UInt8.ofNat k) ≠ none → IsDigit (Char.ofNat k) := by decide
  refine ⟨hrange, hall b.toNat hrange ?_⟩
  rw [UInt8.ofNat_toNat, h]
  exact nofun

/-- Digits are read as the number that they denote. -/
theorem toNat?_bytes {digits : List Char} (h : ∀ c ∈ digits, IsDigit c) :
    toNat? (Bytes.ofAscii digits) = some (denoted 16 digits) := by
  induction digits using List.reverseRecOn with
  | nil => rfl
  | append_singleton digits c ih =>
    have hlast := (h c (by simp)).spec.2.2
    rw [Bytes.ofAscii, List.map_append, List.map_singleton, toNat?_append_singleton, hlast,
      denoted_append_singleton]
    show (toNat? (Bytes.ofAscii digits)).bind _ = _
    rw [ih fun x hx => h x (by simp [hx])]
    show some (16 * denoted 16 digits + digitValue c) = _
    rw [Nat.mul_comm]

/-- Only bytes of digits are read. -/
theorem isSome_of_mem_of_toNat? {bytes : Bytes} {n : Nat} (h : toNat? bytes = some n) :
    ∀ b ∈ bytes, ∃ v, value? b = some v := by
  -- digits are read from the left, so the last one is split off
  induction bytes using List.reverseRecOn generalizing n with
  | nil => exact nofun
  | append_singleton bytes last ih =>
    rw [toNat?_append_singleton] at h
    obtain ⟨m, hm, hlast⟩ := Option.bind_eq_some_iff.1 h
    obtain ⟨v, hv, -⟩ := Option.map_eq_some_iff.1 hlast
    intro b hb
    rcases List.mem_append.1 hb with hb | hb
    · exact ih hm b hb
    · rw [List.mem_singleton.1 hb]
      exact ⟨v, hv⟩

namespace Digits

theorem toNat?_chars (d : Digits) : toNat? (Bytes.ofAscii d.chars) = some (denoted 16 d.chars) :=
  toNat?_bytes d.isDigit

theorem denoted_lt (d : Digits) : denoted 16 d.chars < 16 ^ d.chars.length :=
  NftExchange.denoted_lt (by decide) fun c hc => (d.isDigit c hc).spec.2.1

/-- As many digits as a word has room for denote a number that fits in 256 bits. -/
theorem toNat_ofNat (d : Digits) (h : d.chars.length ≤ 64) :
    (BitVec.ofNat 256 (denoted 16 d.chars)).toNat = denoted 16 d.chars := by
  refine UInt256.toNat_ofNat (Nat.lt_of_lt_of_le d.denoted_lt ?_)
  exact Nat.pow_le_pow_right (by decide : 0 < 16) h

theorem ofText_chars (d : Digits) :
    Bytes.ofText (String.ofList d.chars) = Bytes.ofAscii d.chars :=
  Bytes.ofText_ofList_of_ascii fun c hc => (d.isDigit c hc).spec.1

theorem ofText_append_chars (text : String) (d : Digits) :
    Bytes.ofText (text ++ String.ofList d.chars) = Bytes.ofText text ++ Bytes.ofAscii d.chars := by
  rw [Bytes.ofText_append, d.ofText_chars]

/-- Bytes that are read are those of digits. -/
theorem exists_of_toNat? {bytes : Bytes} {n : Nat} (h : toNat? bytes = some n) :
    ∃ d : Digits, bytes = Bytes.ofAscii d.chars ∧ n = denoted 16 d.chars := by
  obtain ⟨cs, hcs, rfl⟩ := Bytes.exists_ofAscii IsDigit fun b hb => by
    obtain ⟨v, hv⟩ := isSome_of_mem_of_toNat? h b hb
    exact isDigit_of_value? hv
  rw [toNat?_bytes hcs] at h
  exact ⟨⟨cs, hcs⟩, rfl, (Option.some.inj h).symm⟩

/-! ### The digits of a number

Every number has one shortest text of lower-case digits, which is the one that is written. -/

/-- The digits are the shortest that denote a number, and in lower case: only zero begins with a
zero. -/
structure IsShortest (d : Digits) (n : Nat) : Prop where
  denotes : denoted 16 d.chars = n
  lower : ∀ c ∈ d.chars, IsLowerDigit c
  ne_nil : d.chars ≠ []
  noLeadingZero : 0 < n → d.chars.head? ≠ some '0'
  length_le : ∀ e : Digits, e.chars ≠ [] → denoted 16 e.chars = n →
    d.chars.length ≤ e.chars.length

/-- The digits of a number denote it. -/
theorem denoted_ofNat (n : Nat) : denoted 16 (ofNat n).chars = n := by
  have hbytes : digitBytes n = Bytes.ofAscii (ofNat n).chars :=
    Bytes.ofText_ofList_of_ascii fun c hc => ((ofNat n).isDigit c hc).spec.1
  have hread := toNat?_digitBytes n
  rw [hbytes, toNat?_chars] at hread
  exact Option.some.inj hread

/-- The digits that are written are in lower case. -/
theorem isLowerDigit_digitChar : ∀ k < 16, IsLowerDigit (Nat.digitChar k) := by
  unfold IsLowerDigit
  decide

/-- No number but zero is written with a zero in front. -/
theorem head?_toDigits_ne_zero {base n : Nat} (hbase : 1 < base) (hle : base ≤ 16) (h : 0 < n) :
    (Nat.toDigits base n).head? ≠ some '0' := by
  have hfirst : ∀ k < 16, 0 < k → Nat.digitChar k ≠ '0' := by decide
  induction n using Nat.strong_induction_on with
  | _ n ih =>
    rcases Nat.lt_or_ge n base with hlt | hge
    · rw [Nat.toDigits_of_lt_base hlt, List.head?_cons]
      exact fun heq => hfirst n (by omega) h (Option.some.inj heq)
    · have hne : Nat.toDigits base (n / base) ≠ [] :=
        List.ne_nil_of_length_pos Nat.length_toDigits_pos
      rw [Nat.toDigits_of_base_le hbase hge, List.head?_append_of_ne_nil _ hne]
      exact ih (n / base) (Nat.div_lt_self h hbase) (Nat.div_pos hge (by omega))

/-- The digits that are written for a number are its shortest. -/
theorem isShortest_ofNat (n : Nat) : (ofNat n).IsShortest n where
  denotes := denoted_ofNat n
  lower _ := of_mem_toDigits isLowerDigit_digitChar
  ne_nil := List.ne_nil_of_length_pos Nat.length_toDigits_pos
  noLeadingZero := head?_toDigits_ne_zero (by decide) (by decide)
  length_le e hne hvalue := by
    have hlt := e.denoted_lt
    rw [hvalue] at hlt
    exact length_ofNat_le hlt (List.length_pos_of_ne_nil hne)

end Digits

/-! ### Lower case

Putting digits into lower case changes none of their values. -/

theorem IsLowerDigit.isDigit {c : Char} (h : IsLowerDigit c) : IsDigit c := by
  rw [IsLowerDigit] at h
  fin_cases h <;> decide

/-- A digit in lower case is the one that is written for its value. -/
theorem IsLowerDigit.digitChar_digitValue {c : Char} (h : IsLowerDigit c) :
    Nat.digitChar (digitValue c) = c := by
  rw [IsLowerDigit] at h
  fin_cases h <;> decide

/-- Lower case keeps the value of a digit. -/
theorem IsDigit.toLower {c : Char} (h : IsDigit c) :
    IsLowerDigit c.toLower ∧ digitValue c.toLower = digitValue c := by
  rw [IsDigit] at h
  unfold IsLowerDigit
  fin_cases h <;> decide

namespace Digits

/-- The case of its letters does not change what a text of digits denotes. -/
theorem denoted_map_toLower (d : Digits) :
    denoted 16 (d.chars.map Char.toLower) = denoted 16 d.chars := by
  rw [denoted, denoted, ← List.map_reverse, List.map_map]
  refine congrArg (Nat.ofDigits 16) (List.map_congr_left fun c hc => ?_)
  exact (d.isDigit c (List.mem_reverse.1 hc)).toLower.2

theorem isLowerDigit_of_mem_map_toLower (d : Digits) {c : Char}
    (h : c ∈ d.chars.map Char.toLower) : IsLowerDigit c := by
  obtain ⟨x, hx, rfl⟩ := List.mem_map.1 h
  exact (d.isDigit x hx).toLower.1

end Digits

/-- Digits in lower case are determined by their number and how many they are. -/
theorem eq_of_denoted_eq {digits others : List Char} (hdigits : ∀ c ∈ digits, IsLowerDigit c)
    (hothers : ∀ c ∈ others, IsLowerDigit c) (hlength : digits.length = others.length)
    (h : denoted 16 digits = denoted 16 others) : digits = others := by
  have hsmall {cs : List Char} (hcs : ∀ c ∈ cs, IsLowerDigit c) :
      ∀ v ∈ cs.reverse.map digitValue, v < 16 := by
    intro v hv
    obtain ⟨c, hc, rfl⟩ := List.mem_map.1 hv
    exact (hcs c (List.mem_reverse.1 hc)).isDigit.spec.2.1
  have hvalues : digits.reverse.map digitValue = others.reverse.map digitValue :=
    Nat.ofDigits_inj_of_len_eq (by decide) (by simpa using hlength) (hsmall hdigits)
      (hsmall hothers) h
  -- a digit in lower case is found again from its value
  have hback {cs : List Char} (hcs : ∀ c ∈ cs, IsLowerDigit c) :
      (cs.reverse.map digitValue).map Nat.digitChar = cs.reverse := by
    rw [List.map_map]
    refine (List.map_congr_left fun c hc => ?_).trans (List.map_id _)
    exact (hcs c (List.mem_reverse.1 hc)).digitChar_digitValue
  have hreverse : digits.reverse = others.reverse := by
    rw [← hback hdigits, hvalues, hback hothers]
  exact List.reverse_injective hreverse

/-! ### Quantities

The reader of quantities takes exactly the texts of so many digits behind a mark, which ties it to
the bytes it looks at. -/

/-- What the reader of quantities takes: a mark and 1 to 64 digits. -/
theorem parseQuantity_eq_ok_iff {text : String} {a : UInt256} :
    parseQuantity text = .ok a ↔ ∃ mark, ∃ digits : Digits, IsMark mark
      ∧ text = mark ++ String.ofList digits.chars ∧ digits.chars ≠ []
      ∧ digits.chars.length ≤ 64 ∧ denoted 16 digits.chars = a.toNat := by
  have hcount (digits : Digits) :
      (Bytes.ofAscii digits.chars).length = digits.chars.length := List.length_map _
  unfold parseQuantity
  dsimp only
  constructor
  · intro h
    split at h
    · next n hread =>
      cases h
      obtain ⟨bytes, hbytes, hread⟩ := Option.bind_eq_some_iff.1 hread
      split at hread
      · cases hread
      · next hshape =>
        -- the mark comes off, and what is left are 1 to 64 digits
        obtain ⟨mark, hmark, htext⟩ := afterMark?_eq_some_iff.1 hbytes
        obtain ⟨digits, rfl, rfl⟩ := Digits.exists_of_toNat? hread
        rw [← digits.ofText_append_chars, Bytes.ofText_inj] at htext
        rw [hcount, List.isEmpty_iff_length_eq_zero, hcount, not_or, Nat.not_lt] at hshape
        refine ⟨mark, digits, hmark, htext, ?_, hshape.2, (digits.toNat_ofNat hshape.2).symm⟩
        exact List.ne_nil_of_length_pos (Nat.pos_of_ne_zero hshape.1)
    · cases h
  · rintro ⟨mark, digits, hmark, rfl, hne, hlength, hvalue⟩
    have hshape : ¬ ((Bytes.ofAscii digits.chars).isEmpty
        ∨ (Bytes.ofAscii digits.chars).length > 64) := by
      rw [hcount, List.isEmpty_iff_length_eq_zero, hcount]
      have := List.length_pos_of_ne_nil hne
      omega
    rw [afterMark?_eq_some_iff.2 ⟨mark, hmark, digits.ofText_append_chars mark⟩]
    simp only [Option.bind_eq_bind, Option.bind_some, if_neg hshape, digits.toNat?_chars, hvalue,
      BitVec.ofNat_toNat, BitVec.setWidth_eq]

end Hex

/-! ## Decimal digits

The same for decimal digits, which have no mark and no case. -/

namespace Decimal

/-- A decimal digit. -/
def IsDigit (c : Char) : Prop := c ∈ "0123456789".toList

/-- A decimal digit is a single byte, 48 above its value. -/
theorem IsDigit.spec {c : Char} (h : IsDigit c) : c.toNat < 0x80 ∧ digitValue c < 10
    ∧ isDigit (UInt8.ofNat c.toNat) = true
    ∧ (UInt8.ofNat c.toNat).toNat - 48 = digitValue c := by
  rw [IsDigit] at h
  fin_cases h <;> decide

/-- A byte that passes for a digit is one. -/
theorem isDigit_of_byte {b : UInt8} (h : isDigit b = true) :
    b.toNat < 0x80 ∧ IsDigit (Char.ofNat b.toNat) := by
  have hrange : b.toNat < 0x80 := by
    simp only [isDigit, Bool.and_eq_true, decide_eq_true_eq] at h
    omega
  have hall : ∀ k < 0x80, isDigit (UInt8.ofNat k) = true →
      Char.ofNat k ∈ "0123456789".toList := by decide
  refine ⟨hrange, hall b.toNat hrange ?_⟩
  rw [UInt8.ofNat_toNat, h]

/-- Digits are read as the number that they denote. -/
theorem toNat_bytes {digits : List Char} (h : ∀ c ∈ digits, IsDigit c) :
    toNat (Bytes.ofAscii digits) = denoted 10 digits := by
  induction digits using List.reverseRecOn with
  | nil => rfl
  | append_singleton digits c ih =>
    have hlast := (h c (by simp)).spec.2.2.2
    rw [Bytes.ofAscii, List.map_append, List.map_singleton, toNat_append_singleton, hlast,
      denoted_append_singleton]
    show toNat (Bytes.ofAscii digits) * 10 + _ = _
    rw [ih fun x hx => h x (by simp [hx])]

/-- Digits are accepted, however many there are. -/
theorem parse?_bytes {digits : List Char} (h : ∀ c ∈ digits, IsDigit c) :
    parse? (Bytes.ofAscii digits) = some (denoted 10 digits) := by
  have hall : (Bytes.ofAscii digits).all isDigit = true := by
    rw [List.all_eq_true]
    intro b hb
    obtain ⟨c, hc, rfl⟩ := List.mem_map.1 hb
    exact (h c hc).spec.2.2.1
  rw [parse?, if_pos hall, toNat_bytes h]

theorem ofText_ofList {digits : List Char} (h : ∀ c ∈ digits, IsDigit c) :
    Bytes.ofText (String.ofList digits) = Bytes.ofAscii digits :=
  Bytes.ofText_ofList_of_ascii fun c hc => (h c hc).spec.1

/-- A text that is read consists of digits. -/
theorem exists_of_parse? {text : String} {n : Nat} (h : parse? (Bytes.ofText text) = some n) :
    ∃ digits, (∀ c ∈ digits, IsDigit c) ∧ text = String.ofList digits ∧ n = denoted 10 digits := by
  obtain ⟨cs, hcs, hbytes⟩ := Bytes.exists_ofAscii IsDigit fun b hb => by
    rw [parse?] at h
    split at h
    · next hall => exact isDigit_of_byte (List.all_eq_true.1 hall b hb)
    · cases h
  rw [← hbytes, parse?_bytes hcs] at h
  refine ⟨cs, hcs, Bytes.ofText_inj.1 ?_, (Option.some.inj h).symm⟩
  rw [ofText_ofList hcs, hbytes]

end Decimal

end NftExchange
