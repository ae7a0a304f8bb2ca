import Mathlib
import NftExchange.Proofs.Json.Parsed

/-!
# Documents of one string or one number

A quantity arrives as a document of its own, however its string or number is written and with
blanks around it. There are two ways to read it, straight from the text and through a value, and
`Decodes` says what both have as their result.

* **`StringDocument.parse_eq`** and **`NumberDocument.parse_eq`** — the value that a document is;
* **`StringDocument.decodes`** — a string is read as a quantity in the same manner on both ways;
* **`NumberDocument.direct_eq`** and **`NumberDocument.value_eq`** — what a number is read as on
  either.
-/

namespace NftExchange

namespace Json

/-! ## Documents

A document that holds one string or one number, in any of its spellings and with blanks around it.
-/

/-- The document is a string, written in any way. -/
inductive StringDocument (value document : String) : Prop where
  | intro {quoted after : Bytes} (hquoted : QuotedText value quoted) (hafter : IsBlanks after)
      (hdocument : Bytes.ofText document = quoted ++ after)

/-- The document is a number, written in any way. -/
inductive NumberDocument (n : Numeral) (document : String) : Prop where
  | intro {before number after : Bytes} (hbefore : IsBlanks before)
      (hnumber : NumberText n number) (hafter : IsBlanks after)
      (hdocument : Bytes.ofText document = before ++ (number ++ after))

/-- The writer's way is one of them. -/
theorem stringDocument_render (value : String) : StringDocument value (render (.str value)) := by
  refine .intro (quotedText_render value) isBlanks_nil ?_
  rw [render, List.append_nil]

theorem IsBlanks.stops {blanks : Bytes} (h : IsBlanks blanks) : Stops blanks := by
  intro b hb
  have hblank := h b (List.mem_of_mem_head? hb)
  simp only [isBlank, Bool.or_eq_true, beq_iff_eq] at hblank
  rcases hblank with ((rfl | rfl) | rfl) | rfl <;> decide

/-! ## Reading all of a document

A document is read to its end: one value, and after it nothing but blanks. -/

/-- What a reader makes of the input before blanks is what it makes of the whole. -/
theorem readAll_eq {α : Type} {reader : Reader α} {input after : Bytes}
    {result : Except JsonError α} (hread : reader input = result.map (·, after))
    (hafter : IsBlanks after) : readAll reader input = result := by
  rw [readAll, hread]
  cases result with
  | error e => rfl
  | ok a =>
    simp only [Except.map, bind, Except.bind, hafter.skipBlank_eq_nil]
    rfl

/-- The document of a string is parsed as the string. -/
theorem StringDocument.parse_eq {value document : String} (h : StringDocument value document) :
    parse document = .ok (.str value) := by
  obtain ⟨hquoted, hafter, hdocument⟩ := h
  rw [parse, hdocument]
  exact readAll_eq (hquoted.readValue .parsed rfl depthLimit _) hafter

/-- A number is found behind blanks: by its first byte it is told apart from everything else. -/
theorem NumberText.skipBlank {n : Numeral} {number : Bytes} (h : NumberText n number)
    {before after : Bytes} (hbefore : IsBlanks before) (hafter : IsBlanks after) :
    ∃ b rest, Json.skipBlank (before ++ (number ++ after)) = b :: rest
      ∧ Json.startsNumber b = true ∧ readNumeral (b :: rest) = .ok (n, after) := by
  have hread := h.numeral?_append hafter.stops
  obtain ⟨b, rest, rfl, hb⟩ := h.startsNumber
  rw [List.cons_append] at hread ⊢
  refine ⟨b, rest ++ after, hbefore.skipBlank_mark (isBlank_of_startsNumber hb) _, hb, ?_⟩
  rw [readNumeral, hread]

/-- The reader of values passes over blanks itself. -/
theorem readValueWith_skipBlank (style : Style) (nested : Option (Reader Json)) (input : Bytes) :
    readValueWith style nested input = readValueWith style nested (Json.skipBlank input) := by
  have hagain : Json.skipBlank (Json.skipBlank input) = Json.skipBlank input :=
    List.dropWhile_idempotent _ input
  rw [readValueWith, readValueWith, hagain]

/-- The document of a number is parsed as its numeral. -/
theorem NumberDocument.parse_eq {n : Numeral} {document : String} (h : NumberDocument n document) :
    parse document = .ok (.num n) := by
  obtain @⟨before, number, after, hbefore, hnumber, hafter, hdocument⟩ := h
  obtain ⟨b, rest, hskip, hb, hread⟩ := hnumber.skipBlank hbefore hafter
  rw [parse, hdocument]
  refine readAll_eq ?_ hafter
  rw [depthLimit, readValue, readValueWith_skipBlank, hskip, readValueWith_number .parsed _ hb,
    hread]
  rfl

end Json

/-! ## Quantities

For a quantity both ways, straight from the text and through a value, come down to a function of
what the document holds. -/

open Json (StringDocument NumberDocument)

/-- A document is read with this result both straight from its text and through a value. -/
structure Codec.Decodes {α : Type} (c : Codec α) (document : String)
    (result : Except JsonError α) : Prop where
  direct : c.parse document = result
  value : Json.parse document >>= c.decode = result

/-- A string gives the same on both ways. -/
theorem Json.StringDocument.decodes {value document : String} (h : StringDocument value document) :
    Codec.quantity.Decodes document (Quantity.ofText value) := by
  constructor
  · obtain @⟨quoted, after, hquoted, hafter, hdocument⟩ := h
    rw [Codec.parse, Codec.parseBytes, hdocument]
    obtain ⟨inside, hskip, hread⟩ := hquoted.skipBlank after
    refine Json.readAll_eq ?_ hafter
    simp only [Codec.quantity, hskip, hread, bind, Except.bind]
    cases Quantity.ofText value with
    | error e => rfl
    | ok a => rfl
  · -- through a value the same text is checked
    rw [h.parse_eq]
    rfl

/-- Straight from the text a number counts by its numeral. -/
theorem Json.NumberDocument.direct_eq {n : Numeral} {document : String}
    (h : NumberDocument n document) :
    Codec.quantity.parse document = Quantity.ofPlainNumeral n := by
  obtain ⟨hbefore, hnumber, hafter, hdocument⟩ := h
  obtain ⟨b, rest, hskip, hb, hread⟩ := hnumber.skipBlank hbefore hafter
  rw [Codec.parse, Codec.parseBytes, hdocument]
  refine Json.readAll_eq ?_ hafter
  have hquote : b ≠ 0x22 := Json.ne_of_startsNumber hb (by decide)
  have hbrace : b ≠ 0x7b := Json.ne_of_startsNumber hb (by decide)
  simp only [Codec.quantity, hskip]
  -- the first byte decides which kind of value the reader takes it for
  split
  · next heq => exact absurd (List.cons.inj heq).1 hquote
  · next heq _ => exact absurd (List.cons.inj heq).1 hbrace
  · next heq _ => exact absurd (List.cons.inj heq).1 hbrace
  · next heq _ =>
    obtain ⟨rfl, rfl⟩ := List.cons.inj heq
    simp only [hb, if_true, hread, bind, Except.bind]
    cases Quantity.ofPlainNumeral n with
    | error e => rfl
    | ok a => rfl
  · next heq => exact absurd heq (List.cons_ne_nil _ _)

/-- Through a value it counts by what the value makes of it. -/
theorem Json.NumberDocument.value_eq {n : Numeral} {document : String}
    (h : NumberDocument n document) :
    Json.parse document >>= Codec.quantity.decode = Quantity.ofNumeral n := by
  rw [h.parse_eq]
  rfl

end NftExchange
