import Mathlib
import NftExchange.Hex.Marked
import NftExchange.Proofs.Stretches

/-!
# Marked digits one after the other

Nothing is written between the fields of a message, so where one field ends has to follow from the
fields. Hexadecimal digits are found again by their mark: `x` is no digit, so the last mark of a
text shows where its last digits begin, and the next mark where those before it end, one character
early, because the `0` of a mark is a digit too.

* **`Digits.append_text_inj`** — marked digits at the end of a text can be taken off;
* **`Digits.text_append_inj`** and **`Digits.text_append_text_inj`** — so can those at its front,
  before what is no digit and before another mark;
* **`join_inj`** — a text that consists of marked digits is made of them in one way.
-/

namespace NftExchange

namespace Hex

/-- A hexadecimal digit of either case. -/
def IsDigit (c : Char) : Prop := c ∈ "0123456789abcdefABCDEF".toList

instance : DecidablePred IsDigit := fun c =>
  inferInstanceAs (Decidable (c ∈ "0123456789abcdefABCDEF".toList))

/-- Hexadecimal digits of either case, possibly none. -/
structure Digits where
  chars : List Char
  isDigit : ∀ c ∈ chars, IsDigit c

namespace Digits

@[ext] theorem ext {d e : Digits} (h : d.chars = e.chars) : d = e := by
  cases d; cases e; cases h; rfl

/-- The digits behind their mark. -/
def text (d : Digits) : String := "0x" ++ String.ofList d.chars

theorem toList_text (d : Digits) : d.text.toList = '0' :: 'x' :: d.chars := by
  simp [text]

theorem length_text (d : Digits) : d.text.length = d.chars.length + 2 := by
  rw [← String.length_toList, toList_text]
  rfl

theorem text_ne_empty (d : Digits) : d.text ≠ "" := by
  intro h
  have hlength := congrArg String.length h
  rw [length_text] at hlength
  exact absurd hlength (Nat.succ_ne_zero _)

/-! ## Numbers

A quantity is such a text, and how long it is depends on the number. -/

/-- What holds of every hexadecimal digit holds of those that are written of a number. -/
theorem of_mem_toDigits {kind : Char → Prop} (hkind : ∀ k < 16, kind (Nat.digitChar k)) {n : Nat}
    {c : Char} (h : c ∈ Nat.toDigits 16 n) : kind c := by
  induction n using Nat.strong_induction_on with
  | _ n ih =>
    rcases Nat.lt_or_ge n 16 with hlt | hge
    · rw [Nat.toDigits_of_lt_base hlt, List.mem_singleton] at h
      subst h
      exact hkind n hlt
    · rw [Nat.toDigits_of_base_le (by decide) hge, List.mem_append, List.mem_singleton] at h
      rcases h with h | rfl
      · exact ih (n / 16) (by omega) h
      · exact hkind (n % 16) (by omega)

theorem isDigit_digitChar : ∀ k < 16, IsDigit (Nat.digitChar k) := by decide

/-- The digits of a quantity. -/
def ofNat (n : Nat) : Digits := ⟨Nat.toDigits 16 n, fun _ => of_mem_toDigits isDigit_digitChar⟩

theorem text_ofNat (n : Nat) : (ofNat n).text = quantity n := rfl

/-- A number below a power of sixteen has no more digits than that power says. -/
theorem length_ofNat_le {n width : Nat} (h : n < 16 ^ width) (hwidth : 0 < width) :
    (ofNat n).chars.length ≤ width :=
  (Nat.length_toDigits_le_iff (by decide) hwidth).2 h

/-! ## Digits beside other text

Between digits and another text there is no mark of their end. The end can be found all the same if
the other text cannot be taken for more digits, or if it is the `x` of the next mark that comes
first. -/

/-- Read backwards, the digits end where their mark begins. -/
theorem append_text_inj {u v : String} {d e : Digits} (h : u ++ d.text = v ++ e.text) :
    u = v ∧ d = e := by
  have hlist : u.toList ++ '0' :: 'x' :: d.chars = v.toList ++ '0' :: 'x' :: e.chars := by
    simpa only [String.toList_append, toList_text] using congrArg String.toList h
  -- read backwards the digits come first, and the `x` of the mark ends them
  have hback : d.chars.reverse ++ 'x' :: '0' :: u.toList.reverse
      = e.chars.reverse ++ 'x' :: '0' :: v.toList.reverse := by
    simpa using congrArg List.reverse hlist
  have hmark {w : List Char} : ∀ c ∈ ('x' :: w).head?, ¬ IsDigit c := by
    rintro c ⟨⟩
    decide
  obtain ⟨hdigits, hrest⟩ := stretch_inj (fun c hc => d.isDigit c (List.mem_reverse.1 hc))
    (fun c hc => e.isDigit c (List.mem_reverse.1 hc)) hmark hmark hback
  have huv : u.toList = v.toList := by simpa using hrest
  exact ⟨String.toList_inj.1 huv, ext (List.reverse_injective hdigits)⟩

/-- Digits end where a text begins that does not start with a digit. -/
theorem text_append_inj {d e : Digits} {s t : String} (hs : ∀ c ∈ s.toList.head?, ¬ IsDigit c)
    (ht : ∀ c ∈ t.toList.head?, ¬ IsDigit c) (h : d.text ++ s = e.text ++ t) :
    d = e ∧ s = t := by
  have hlist : d.chars ++ s.toList = e.chars ++ t.toList := by
    simpa [toList_text] using congrArg String.toList h
  obtain ⟨hdigits, hrest⟩ := stretch_inj d.isDigit e.isDigit hs ht hlist
  exact ⟨ext hdigits, String.toList_inj.1 hrest⟩

/-- The `0` of the second mark stretches the first digits by one. -/
theorem text_append_text_inj {d e d' e' : Digits} {s t : String}
    (h : d.text ++ (d'.text ++ s) = e.text ++ (e'.text ++ t)) :
    d = e ∧ d'.text ++ s = e'.text ++ t := by
  -- the zero of the second mark is itself a digit, so the first stretch reaches up to its `x`
  have hlist : (d.chars ++ ['0']) ++ 'x' :: (d'.chars ++ s.toList)
      = (e.chars ++ ['0']) ++ 'x' :: (e'.chars ++ t.toList) := by
    simpa [toList_text] using congrArg String.toList h
  have hstretch (f : Digits) : ∀ c ∈ f.chars ++ ['0'], IsDigit c := by
    intro c hc
    rcases List.mem_append.1 hc with hc | hc
    · exact f.isDigit c hc
    · rw [List.mem_singleton.1 hc]
      decide
  have hmark {w : List Char} : ∀ c ∈ ('x' :: w).head?, ¬ IsDigit c := by
    rintro c ⟨⟩
    decide
  obtain ⟨hdigits, -⟩ := stretch_inj (hstretch d) (hstretch e) hmark hmark hlist
  have hde : d = e := ext (List.append_cancel_right hdigits)
  subst hde
  exact ⟨rfl, (String.append_right_inj _).1 h⟩

end Digits

/-! ## Texts of marked digits only

Texts that are all marked can be joined without losing where each begins: the `x` of a mark is no
digit, so it is found again, from the back. -/

/-- Digits behind a mark. -/
def IsMarked (text : String) : Prop := ∃ d : Digits, text = d.text

theorem IsMarked.ne_empty {text : String} (h : IsMarked text) : text ≠ "" := by
  obtain ⟨d, rfl⟩ := h
  exact d.text_ne_empty

/-- A marked text has no other characters than digits and the `x` of its mark. -/
theorem IsMarked.char {text : String} (h : IsMarked text) {c : Char} (hc : c ∈ text.toList) :
    c = 'x' ∨ IsDigit c := by
  obtain ⟨d, rfl⟩ := h
  rw [d.toList_text, List.mem_cons, List.mem_cons] at hc
  rcases hc with rfl | rfl | hc
  · exact .inr (by decide)
  · exact .inl rfl
  · exact .inr (d.isDigit c hc)

/-- The last one is taken off, then those before it. -/
theorem join_inj {texts others : List String} (htexts : ∀ text ∈ texts, IsMarked text)
    (hothers : ∀ text ∈ others, IsMarked text) (h : String.join texts = String.join others) :
    texts = others := by
  -- no text that is joined is empty, so both lists end together
  have hlast (front : List String) {text : String} (htext : IsMarked text) :
      String.join (front ++ [text]) ≠ "" := by
    intro hempty
    rw [String.join_append, String.append_eq_empty_iff] at hempty
    exact htext.ne_empty (by simpa using hempty.2)
  induction texts using List.reverseRecOn generalizing others with
  | nil =>
    cases others using List.reverseRecOn with
    | nil => rfl
    | append_singleton others other =>
      exact absurd h.symm (hlast others (hothers other (by simp)))
  | append_singleton texts text ih =>
    cases others using List.reverseRecOn with
    | nil => exact absurd h (hlast texts (htexts text (by simp)))
    | append_singleton others other =>
      obtain ⟨d, hd⟩ := htexts text (by simp)
      obtain ⟨e, he⟩ := hothers other (by simp)
      subst hd he
      have hjoined : String.join texts ++ d.text = String.join others ++ e.text := by
        simpa [String.join_append] using h
      -- the last text is cut off in front of its mark, and the induction goes on with the others
      obtain ⟨hfront, hde⟩ := Digits.append_text_inj hjoined
      rw [hde, ih (fun text htext => htexts text (by simp [htext]))
        (fun text htext => hothers text (by simp [htext])) hfront]

end Hex

end NftExchange
