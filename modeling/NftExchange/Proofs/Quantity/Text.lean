import NftExchange.Proofs.Digits
import NftExchange.Proofs.Gateway.Exchange
import NftExchange.Proofs.Json.Documents

/-!
# Quantities in strings

A string that stands for a quantity is hexadecimal digits behind a mark, at most sixty-four of them,
or decimal digits, at least one. Everything of this kind is read as the number that its digits
denote. Two kinds of strings are read that should not be: the empty one, as zero, and digits behind
two marks. All others are refused, on every way to a reader.

* **`ofText_eq_ok_iff`** — the strings that are read, and as what;
* **`StrayText.not_quantityText`** — the two kinds are not among those that stand for a quantity;
* **`string_decodes`** — what follows for documents, and for the answers of a node.
-/

namespace NftExchange

open Json (StringDocument)

namespace Quantity

/-! ## The strings

Two lists of texts: those that are meant to be quantities, and those that are read as quantities
besides. Between them they hold every text that is accepted. -/

/-- The strings that stand for the quantity `n`. -/
inductive QuantityText : String → (n : Nat) → Prop where
  | hex {mark : String} {digits : Hex.Digits} (hmark : Hex.IsMark mark)
      (hlength : digits.chars.length ≤ 64) :
      QuantityText (mark ++ String.ofList digits.chars) (denoted 16 digits.chars)
  | decimal {digits : List Char} (hdigits : ∀ c ∈ digits, Decimal.IsDigit c) (hne : digits ≠ [])
      (hfits : denoted 10 digits < 2 ^ 256) :
      QuantityText (String.ofList digits) (denoted 10 digits)

/-- The strings that are read as the quantity `n` but do not stand for one. -/
inductive StrayText : String → (n : Nat) → Prop where
  | empty : StrayText "" 0
  | secondMark {mark : String} {digits : Hex.Digits} (hmark : Hex.IsMark mark)
      (hlength : digits.chars.length ≤ 64) :
      StrayText (mark ++ ("0x" ++ String.ofList digits.chars)) (denoted 16 digits.chars)

/-- Decimal digits have no mark in front. -/
theorem afterMark?_decimal {digits : List Char} (h : ∀ c ∈ digits, Decimal.IsDigit c) :
    Hex.afterMark? (String.ofList digits) = none := by
  rw [Option.eq_none_iff_forall_ne_some]
  intro rest hrest
  obtain ⟨mark, hmark, heq⟩ := Hex.afterMark?_eq_some_iff.1 hrest
  rw [Decimal.ofText_ofList h] at heq
  have hdigit (b : UInt8) (hb : b ∈ Bytes.ofText mark) : Decimal.isDigit b = true := by
    have hmem : b ∈ Bytes.ofAscii digits := heq ▸ List.mem_append_left rest hb
    obtain ⟨c, hc, rfl⟩ := List.mem_map.1 hmem
    exact (h c hc).spec.2.2.1
  -- an `x` is no digit
  rcases hmark with rfl | rfl
  · exact absurd (hdigit 0x78 (by decide)) (by decide)
  · exact absurd (hdigit 0x58 (by decide)) (by decide)

/-! ## Hexadecimal digits

The digits behind a mark may stand behind a second mark `0x`, which is skipped. No digit is an `x`,
so the two readings never meet. -/

/-- The quantity of digits without a mark. -/
private def ofBareDigits (bytes : Bytes) : Except JsonError UInt256 :=
  match (if bytes.length > 64 then none else Hex.toNat? bytes) with
  | some n => .ok (BitVec.ofNat 256 n)
  | none => .error .hexQuantity

private theorem ofHexDigits_mark (rest : Bytes) :
    ofHexDigits (0x30 :: 0x78 :: rest) = ofBareDigits rest := rfl

private theorem ofHexDigits_of_ne {bytes : Bytes} (h : ∀ rest, bytes ≠ 0x30 :: 0x78 :: rest) :
    ofHexDigits bytes = ofBareDigits bytes := by
  unfold ofHexDigits ofBareDigits
  split
  next rest => exact absurd rfl (h rest)
  next => rfl

/-- Bytes are read exactly when they are at most 64 hexadecimal digits. -/
private theorem ofBareDigits_eq_ok_iff {bytes : Bytes} {a : UInt256} :
    ofBareDigits bytes = .ok a ↔ ∃ digits : Hex.Digits, digits.chars.length ≤ 64
      ∧ denoted 16 digits.chars = a.toNat ∧ bytes = Bytes.ofAscii digits.chars := by
  have hcount (digits : Hex.Digits) :
      (Bytes.ofAscii digits.chars).length = digits.chars.length := List.length_map _
  unfold ofBareDigits
  constructor
  · intro h
    split at h
    · next n hread =>
      cases h
      -- too many digits are refused before they are read
      split at hread
      · cases hread
      · next hlength =>
        obtain ⟨digits, rfl, rfl⟩ := Hex.Digits.exists_of_toNat? hread
        rw [hcount, Nat.not_lt] at hlength
        exact ⟨digits, hlength, (digits.toNat_ofNat hlength).symm, rfl⟩
    · cases h
  · rintro ⟨digits, hlength, hvalue, rfl⟩
    rw [if_neg (by rw [hcount]; omega), digits.toNat?_chars]
    show Except.ok (BitVec.ofNat 256 (denoted 16 digits.chars)) = _
    rw [hvalue, BitVec.ofNat_toNat, BitVec.setWidth_eq]

/-- Digits after a mark are read if they are not too many; one more mark before them is passed
over. -/
theorem ofHexDigits_eq_ok_iff {bytes : Bytes} {a : UInt256} :
    ofHexDigits bytes = .ok a ↔ ∃ digits : Hex.Digits, digits.chars.length ≤ 64
      ∧ denoted 16 digits.chars = a.toNat
      ∧ (bytes = Bytes.ofAscii digits.chars
        ∨ bytes = Bytes.ofText "0x" ++ Bytes.ofAscii digits.chars) := by
  -- with a second mark the digits begin behind it, without one at the start
  by_cases hmark : ∃ rest, bytes = 0x30 :: 0x78 :: rest
  · obtain ⟨rest, rfl⟩ := hmark
    rw [ofHexDigits_mark, ofBareDigits_eq_ok_iff]
    constructor
    · rintro ⟨digits, hlength, hvalue, rfl⟩
      exact ⟨digits, hlength, hvalue, .inr rfl⟩
    · rintro ⟨digits, hlength, hvalue, hplain | hmarked⟩
      · -- a mark holds an `x`, and so does not consist of digits
        have hread := digits.toNat?_chars
        rw [← hplain] at hread
        cases hread
      · exact ⟨digits, hlength, hvalue, (List.cons.inj (List.cons.inj hmarked).2).2⟩
  · have hne : ∀ rest, bytes ≠ 0x30 :: 0x78 :: rest := fun rest heq => hmark ⟨rest, heq⟩
    rw [ofHexDigits_of_ne hne, ofBareDigits_eq_ok_iff]
    constructor
    · rintro ⟨digits, hlength, hvalue, rfl⟩
      exact ⟨digits, hlength, hvalue, .inl rfl⟩
    · rintro ⟨digits, hlength, hvalue, hplain | hmarked⟩
      · exact ⟨digits, hlength, hvalue, hplain⟩
      · exact absurd hmarked (hne _)

/-! ## All strings

What the reader accepts, in both directions: each text of the two lists gives its number, and a text
that gives a number is in one of them. -/

variable {text : String} {n : Nat} {a : UInt256}

/-- Behind a mark digits are expected. -/
theorem ofText_eq_ofHexDigits {mark : String} {bytes : Bytes} (hmark : Hex.IsMark mark)
    (htext : Bytes.ofText text = Bytes.ofText mark ++ bytes) : ofText text = ofHexDigits bytes := by
  rw [ofText, Hex.afterMark?_eq_some_iff.2 ⟨mark, hmark, htext⟩]

/-- The text of a quantity gives its number. -/
theorem QuantityText.ofText_eq (h : QuantityText text n) (ha : a.toNat = n) :
    ofText text = .ok a := by
  cases h with
  | @hex mark digits hmark hlength =>
    rw [ofText_eq_ofHexDigits hmark (digits.ofText_append_chars mark)]
    exact ofHexDigits_eq_ok_iff.2 ⟨digits, hlength, ha.symm, .inl rfl⟩
  | @decimal digits hdigits hne hfits =>
    rw [ofText, afterMark?_decimal hdigits, Decimal.ofText_ofList hdigits,
      Decimal.parse?_bytes hdigits, Option.bind_some, UInt256.ofNat?_eq_some_iff.2 ha]

/-- A stray text gives a number as well. -/
theorem StrayText.ofText_eq (h : StrayText text n) (ha : a.toNat = n) : ofText text = .ok a := by
  cases h with
  | empty =>
    have hzero : a = 0 := BitVec.eq_of_toNat_eq ha
    rw [hzero]
    rfl
  | @secondMark mark digits hmark hlength =>
    rw [ofText_eq_ofHexDigits hmark (by rw [Bytes.ofText_append, digits.ofText_append_chars])]
    exact ofHexDigits_eq_ok_iff.2 ⟨digits, hlength, ha.symm, .inr rfl⟩

/-- A text that is accepted is the text of a quantity or a stray one, of that number. -/
theorem of_ofText_eq_ok (h : ofText text = .ok a) :
    QuantityText text a.toNat ∨ StrayText text a.toNat := by
  rw [ofText] at h
  split at h
  · next bytes hbytes =>
    obtain ⟨mark, hmark, htext⟩ := Hex.afterMark?_eq_some_iff.1 hbytes
    obtain ⟨digits, hlength, hvalue, rfl | rfl⟩ := ofHexDigits_eq_ok_iff.1 h
    · -- the digits follow the mark
      rw [← digits.ofText_append_chars, Bytes.ofText_inj] at htext
      rw [htext, ← hvalue]
      exact .inl (.hex hmark hlength)
    · -- the digits follow a second mark
      rw [← digits.ofText_append_chars, ← Bytes.ofText_append, Bytes.ofText_inj] at htext
      rw [htext, ← hvalue]
      exact .inr (.secondMark hmark hlength)
  · split at h
    · next b hread =>
      cases h
      obtain ⟨n, hparse, hnarrow⟩ := Option.bind_eq_some_iff.1 hread
      obtain ⟨digits, hdigits, rfl, rfl⟩ := Decimal.exists_of_parse? hparse
      rw [UInt256.ofNat?_eq_some_iff] at hnarrow
      -- no digits at all are read, too
      rcases List.eq_nil_or_concat digits with rfl | ⟨front, last, rfl⟩
      · rw [hnarrow]
        exact .inr .empty
      · have hfits := a.isLt
        rw [hnarrow] at hfits ⊢
        exact .inl (.decimal hdigits (by simp) hfits)
    · cases h

/-- The strings that are read: those that stand for a quantity, and two kinds more. -/
theorem ofText_eq_ok_iff :
    ofText text = .ok a ↔ QuantityText text a.toNat ∨ StrayText text a.toNat := by
  refine ⟨of_ofText_eq_ok, ?_⟩
  rintro (h | h)
  · exact h.ofText_eq rfl
  · exact h.ofText_eq rfl

/-- Behind two characters a string that stands for a quantity has hexadecimal digits only. -/
theorem QuantityText.shape (h : QuantityText text n) :
    text ≠ "" ∧ ∀ c ∈ text.toList.drop 2, Hex.IsDigit c := by
  cases h with
  | @hex mark digits hmark =>
    rw [String.toList_append, String.toList_ofList]
    have hdrop : (mark.toList ++ digits.chars).drop 2 = digits.chars := by
      rcases hmark with rfl | rfl <;> rfl
    rw [hdrop]
    refine ⟨fun hempty => ?_, digits.isDigit⟩
    rcases hmark with rfl | rfl <;> simp at hempty
  | @decimal digits hdigits hne =>
    rw [String.toList_ofList]
    refine ⟨fun hempty => hne ?_, fun c hc => ?_⟩
    · rw [← String.toList_ofList (l := digits), hempty]
      rfl
    · -- decimal digits are hexadecimal ones
      have hmem := hdigits c (List.mem_of_mem_drop hc)
      rw [Decimal.IsDigit] at hmem
      fin_cases hmem <;> decide

/-- What is read without standing for a quantity does not stand for one. -/
theorem StrayText.not_quantityText {m : Nat} (h : StrayText text n) :
    ¬ QuantityText text m := by
  intro hquantity
  obtain ⟨hne, hdigits⟩ := hquantity.shape
  cases h with
  | empty => exact hne rfl
  | @secondMark mark digits hmark =>
    have hx : 'x' ∈ (mark ++ ("0x" ++ String.ofList digits.chars)).toList.drop 2 := by
      rw [String.toList_append, String.toList_append]
      rcases hmark with rfl | rfl <;> exact List.mem_cons_of_mem _ List.mem_cons_self
    exact absurd (hdigits 'x' hx) (by decide)

/-! ## What follows for readers

The same reader stands behind every result of a gateway that is a quantity and behind every member
of an object, on both paths. -/

/-- The result of reading a string: a quantity exactly if the string is read, and then the one that
its digits denote. -/
def Reads {ε : Type} (text : String) (result : Except ε UInt256) : Prop :=
  ∀ a, result = .ok a ↔ QuantityText text a.toNat ∨ StrayText text a.toNat

/-- The result of a question that a node answers with a string. -/
structure Answers (method text : String) (result : Except GatewayError UInt256) : Prop where
  reads : Reads text result
  undecodable : (∀ n, ¬ QuantityText text n ∧ ¬ StrayText text n) →
    ∃ reason, result = .error (.undecodable method reason)

/-- A result that is a string is decoded like any other string. -/
theorem answers_decode (method text : String) :
    Answers method text (Ask.decode method .quantity (.str text)) := by
  constructor
  · intro a
    rw [← ofText_eq_ok_iff]
    exact Except.mapError_eq_ok_iff
  · intro hnone
    show ∃ reason, (ofText text).mapError _ = _
    -- a text that is read is one of the two kinds
    cases hread : ofText text with
    | error e => exact ⟨e.message, rfl⟩
    | ok a =>
      rcases ofText_eq_ok_iff.1 hread with h | h
      · exact absurd h (hnone _).1
      · exact absurd h (hnone _).2

/-- A string is read as a quantity straight from a document, through a value, and in the answer of a
node, if it is hexadecimal digits behind a mark or decimal digits, and otherwise only if it is empty
or has a second mark. -/
theorem string_decodes (text : String) :
    (∀ document, StringDocument text document → Reads text (Codec.quantity.parse document)
        ∧ Reads text (Json.parse document >>= Codec.quantity.decode))
      ∧ (∀ n m, StrayText text n → ¬ QuantityText text m)
      ∧ ∀ (σ : Type) (g : Gateway σ) (start : σ),
        ((g.invoke "eth_gasPrice" [] start).1 = .ok (.str text) →
          Answers "eth_gasPrice" text (Ask.gasPrice.outcome g start))
        ∧ ∀ account block,
          (g.invoke "eth_getBalance" [Ask.fixed account, .str block.text] start).1
            = .ok (.str text) →
          Answers "eth_getBalance" text ((Ask.balanceAt account block).outcome g start) := by
  refine ⟨fun document hdocument => ?_, fun n m h => h.not_quantityText,
    fun σ g start => ⟨fun hanswer => ?_, fun account block hanswer => ?_⟩⟩
  · obtain ⟨hdirect, hvalue⟩ := hdocument.decodes
    rw [hdirect, hvalue]
    exact ⟨fun a => ofText_eq_ok_iff, fun a => ofText_eq_ok_iff⟩
  · rw [Ask.gasPrice, (Ask.plays_ask g _ _ _ start).outcome_eq, hanswer]
    exact answers_decode _ text
  · rw [Ask.balanceAt, (Ask.plays_ask g _ _ _ start).outcome_eq, hanswer]
    exact answers_decode _ text

/-- Two strings that are read though they stand for no quantity: an empty answer is a price of zero,
and a repeated mark is passed over. -/
theorem not_quantityText_of_decodes :
    (Codec.quantity.parse "\"\"" = .ok 0
        ∧ Json.parse "\"\"" >>= Codec.quantity.decode = .ok 0 ∧ ∀ n, ¬ QuantityText "" n)
      ∧ Codec.quantity.parse "\"0X0xff\"" = .ok 255
        ∧ Json.parse "\"0X0xff\"" >>= Codec.quantity.decode = .ok 255
        ∧ ∀ n, ¬ QuantityText "0X0xff" n := by
  refine ⟨⟨rfl, rfl, fun n => StrayText.empty.not_quantityText⟩, rfl, rfl, fun n h => ?_⟩
  exact absurd (h.shape.2 'x' (by decide)) (by decide)

end Quantity

end NftExchange
