import Mathlib
import NftExchange.Proofs.Toml.Values

/-!
# Documents that list entries

A document without tables lists its entries, one on a line. `Listing entries text` says how it may
be written: there may be blanks around names and values, comments behind them, lines without an
entry, and line ends of either kind, where the last may be missing.

* **`LineText.statements?_append`** — one line is read, and then the lines after it;
* **`Listing.statements?_eq`** — all lines are read, in their order;
* **`ofStatements_entries`** — entries with different names fill a table in their order;
* **`Listing.parse?_eq`** — so the reader of documents gives back the entries that are listed.
-/

namespace NftExchange.Toml

/-! ## Ways to list entries

A document lists entries one on a line, each with blanks around it and a remark behind it, and with
empty lines between them. The relations say which texts list which entries; values may be written in
any of the ways they allow, and lines may end in either way. -/

/-- A name that needs no quotes. -/
structure IsName (name : String) : Prop where
  ne_nil : name.toList ≠ []
  isNameChar : ∀ c ∈ name.toList, isNameChar c = true

/-- Nothing but blanks. -/
def IsBlanks (cs : List Char) : Prop := ∀ c ∈ cs, c = ' ' ∨ c = '\t'

/-- What may end a line: a comment, or nothing. -/
inductive Remark : List Char → Prop where
  | none : Remark []
  | comment {text : List Char}
      (htext : ∀ c ∈ text, c = '\t' ∨ (0x20 ≤ c.toNat ∧ c.toNat ≠ 0x7f)) : Remark ('#' :: text)

/-- An entry: its name, the equals sign and its value, with blanks between them. -/
inductive EntryText (entry : String × Toml) : List Char → Prop where
  | intro {before after written : List Char} (hbefore : IsBlanks before) (hafter : IsBlanks after)
      (hwritten : ValueText entry.2 written) :
      EntryText entry (entry.1.toList ++ (before ++ '=' :: (after ++ written)))

/-- A line with an entry, or without one. -/
inductive LineText : Option (String × Toml) → List Char → Prop where
  | empty {front remark : List Char} (hfront : IsBlanks front) (hremark : Remark remark) :
      LineText none (front ++ remark)
  | entry {entry : String × Toml} {front text back remark : List Char} (hfront : IsBlanks front)
      (htext : EntryText entry text) (hback : IsBlanks back) (hremark : Remark remark) :
      LineText (some entry) (front ++ (text ++ (back ++ remark)))

/-- The two line ends. -/
inductive LineEnd : List Char → Prop where
  | feed : LineEnd ['\n']
  | both : LineEnd ['\r', '\n']

/-- A document that lists entries. -/
inductive Listing : Entries → List Char → Prop where
  | nil : Listing [] []
  | last {entry : Option (String × Toml)} {line : List Char} (hline : LineText entry line)
      (hne : line ≠ []) : Listing entry.toList line
  | line {entry : Option (String × Toml)} {line ending rest : List Char} {entries : Entries}
      (hline : LineText entry line) (hending : LineEnd ending) (hrest : Listing entries rest) :
      Listing (entry.toList ++ entries) (line ++ (ending ++ rest))

/-- An entry with a name and a value that need no quotes and no escapes. -/
structure IsReadable (entry : String × Toml) : Prop where
  name : IsName entry.1
  value : entry.2.IsPlain

/-- Entries that are read back as they are listed. -/
def Readable (entries : Entries) : Prop := ∀ entry ∈ entries, IsReadable entry

/-! ## Parts of a line

A reader skips blanks, takes a name, and looks for the equals sign. Each part is read to its end
because what follows begins with a character that does not belong to it. -/

theorem eq_of_isSpace {c : Char} (h : isSpace c = true) : c = ' ' ∨ c = '\t' := by
  simpa [isSpace] using h

theorem skipSpace_eq_self {cs : List Char} (h : ∀ c ∈ cs.head?, isSpace c = false) :
    skipSpace cs = cs :=
  dropWhile_stretch (List.forall_mem_nil _) h

theorem IsBlanks.isSpace {cs : List Char} (h : IsBlanks cs) : ∀ c ∈ cs, isSpace c = true := by
  intro c hc
  rcases h c hc with rfl | rfl <;> rfl

/-- What blanks and a rest begin with is a blank, or begins the rest. -/
theorem IsBlanks.head?_append {cs rest : List Char} (h : IsBlanks cs) {c : Char}
    (hc : c ∈ (cs ++ rest).head?) : c = ' ' ∨ c = '\t' ∨ c ∈ rest.head? := by
  cases cs with
  | nil => exact .inr (.inr hc)
  | cons d cs =>
    obtain rfl : d = c := Option.some.inj hc
    rcases h d List.mem_cons_self with rfl | rfl
    · exact .inl rfl
    · exact .inr (.inl rfl)

/-- Blanks are skipped up to what is no blank. -/
theorem IsBlanks.skipSpace_append {cs rest : List Char} (h : IsBlanks cs)
    (hrest : ∀ c ∈ rest.head?, Toml.isSpace c = false) : skipSpace (cs ++ rest) = rest :=
  dropWhile_stretch h.isSpace hrest

/-- The input begins as a name does, if it begins at all. -/
def BeginsName (cs : List Char) : Prop := ∀ c ∈ cs.head?, isNameChar c = true

theorem BeginsName.ne_cons {cs : List Char} (h : BeginsName cs) {c : Char}
    (hc : isNameChar c = false) (tail : List Char) : cs ≠ c :: tail := by
  rintro rfl
  have hname := h c rfl
  rw [hc] at hname
  cases hname

theorem BeginsName.not_isSpace {cs : List Char} (h : BeginsName cs) :
    ∀ c ∈ cs.head?, isSpace c = false := by
  intro c hc
  have hname := h c hc
  cases hspace : isSpace c with
  | false => rfl
  | true => rcases eq_of_isSpace hspace with rfl | rfl <;> cases hname

theorem IsName.beginsName {name : String} (h : IsName name) (rest : List Char) :
    BeginsName (name.toList ++ rest) := by
  intro c hc
  rw [List.head?_append_of_ne_nil _ h.ne_nil] at hc
  exact h.isNameChar c (List.mem_of_mem_head? hc)

/-- A name ends at the blanks or the equals sign behind it. -/
theorem IsName.name?_append {name : String} (h : IsName name) {rest : List Char}
    (hrest : ∀ c ∈ rest.head?, Toml.isNameChar c = false) :
    name? (name.toList ++ rest) = some (name, rest) := by
  have hempty : name.toList.isEmpty = false := by simpa using h.ne_nil
  unfold name?
  split
  · next heq => exact absurd heq ((h.beginsName rest).ne_cons (by decide) _)
  · next heq => exact absurd heq ((h.beginsName rest).ne_cons (by decide) _)
  · simp only [takeWhile_stretch h.isNameChar hrest, dropWhile_stretch h.isNameChar hrest, hempty,
      String.ofList_toList, Bool.false_eq_true, if_false]

/-- The key is the name alone, since no point follows. -/
theorem key?_append {name : String} (hname : IsName name) {before : List Char}
    (hbefore : IsBlanks before) (rest : List Char) :
    key? (name.toList ++ (before ++ '=' :: rest)) = some (⟨[], name⟩, '=' :: rest) := by
  have hequals : skipSpace (before ++ '=' :: rest) = '=' :: rest :=
    hbefore.skipSpace_append (by rintro c ⟨⟩; decide)
  -- the name ends at a blank or at the equals sign
  have hhead : ∀ c ∈ (before ++ '=' :: rest).head?, isNameChar c = false := by
    intro c hc
    rcases hbefore.head?_append hc with rfl | rfl | ⟨⟨⟩⟩ <;> decide
  have hnames : names? depthLimit (name.toList ++ (before ++ '=' :: rest))
      = some ([name], '=' :: rest) := by
    rw [depthLimit, names?, skipSpace_eq_self (hname.beginsName _).not_isSpace,
      hname.name?_append hhead]
    simp only [Option.bind_eq_bind, Option.bind_some, hequals]
    rfl
  rw [key?, hnames]
  rfl

/-- Neither a quote nor a digit is a blank. -/
theorem ValueText.not_isSpace {value : Toml} {written : List Char} (h : ValueText value written)
    (rest : List Char) : ∀ c ∈ (written ++ rest).head?, isSpace c = false := by
  intro c hc
  -- a value begins with its quotation mark or with a digit
  cases h with
  | text hq hquote =>
    cases hq <;> obtain rfl := Option.some.inj hc <;> rfl
  | number n =>
    have hhead : (Nat.toDigits 10 n ++ rest).head? = (Nat.toDigits 10 n).head? :=
      List.head?_append_of_ne_nil _ Nat.toDigits_ne_nil
    have hdigit := isDigit_of_mem_toDigits n c (List.mem_of_mem_head? (hhead ▸ hc))
    cases hspace : isSpace c with
    | false => rfl
    | true => rcases eq_of_isSpace hspace with rfl | rfl <;> cases hdigit

/-! ## Entries

An entry is a name, an equals sign and a value, with blanks in between. It is read as one statement
if what follows it stops the value. -/

/-- The statement of an entry. -/
def Statement.ofEntry (entry : String × Toml) : Statement := .entry ⟨[], entry.1⟩ entry.2

namespace EntryText

variable {entry : String × Toml} {text : List Char}

theorem beginsName (h : EntryText entry text) (hentry : IsReadable entry) (rest : List Char) :
    BeginsName (text ++ rest) := by
  cases h
  rw [List.append_assoc]
  exact hentry.name.beginsName _

/-- An entry is read off the front of what follows it. -/
theorem entry?_append (h : EntryText entry text) (hentry : IsReadable entry) {rest : List Char}
    (hrest : Stops rest) (depth : Nat) :
    entry? (value? depth) (text ++ rest) = some ((⟨[], entry.1⟩, entry.2), rest) := by
  obtain @⟨before, after, written, hbefore, hafter, hwritten⟩ := h
  have hskip : skipSpace (after ++ (written ++ rest)) = written ++ rest :=
    hafter.skipSpace_append (hwritten.not_isSpace rest)
  unfold entry?
  simp only [List.append_assoc, List.cons_append]
  rw [key?_append hentry.name hbefore]
  simp only [Option.bind_eq_bind, Option.bind_some, hskip,
    hwritten.value?_append hentry.value hrest depth]
  rfl

/-- A statement of one entry is read off the front of what follows it. -/
theorem statement?_append (h : EntryText entry text) (hentry : IsReadable entry)
    {rest : List Char} (hrest : Stops rest) :
    statement? (text ++ rest) = some (.ofEntry entry, rest) := by
  have hbegins := h.beginsName hentry rest
  have hread := h.entry?_append hentry hrest depthLimit
  unfold statement?
  split
  · next heq => exact absurd heq (hbegins.ne_cons (by decide) _)
  · next heq => exact absurd heq (hbegins.ne_cons (by decide) _)
  · rw [hread]
    rfl

end EntryText

/-! ## Ends of lines

Behind an entry there may be a remark, and then the line ends, or the document does. A remark runs
to the end of its line and nothing of it is read as an entry. -/

/-- What stands behind a line: its end and the lines after it, or nothing. -/
inductive Follows : List Char → List Char → Prop where
  | nothing : Follows [] []
  | lines (tail : List Char) : Follows tail ('\n' :: tail)

/-- What follows a line begins with the end of the line. -/
theorem Follows.head {tail rest : List Char} (h : Follows tail rest) :
    ∀ c ∈ rest.head?, c = '\n' := by
  cases h with
  | nothing => exact nofun
  | lines tail =>
    rintro c ⟨⟩
    rfl

/-- What follows the blanks behind an entry begins a remark or ends the line. -/
theorem Remark.head {remark rest tail : List Char} (h : Remark remark) (hrest : Follows tail rest) :
    ∀ c ∈ (remark ++ rest).head?, c = '#' ∨ c = '\n' := by
  intro c hc
  cases h with
  | none => exact .inr (hrest.head c hc)
  | comment htext =>
    cases hc
    exact .inl rfl

/-- What ends a line stops a value. -/
theorem Remark.stops {back remark rest tail : List Char} (h : Remark remark)
    (hback : IsBlanks back) (hrest : Follows tail rest) : Stops (back ++ (remark ++ rest)) := by
  intro c hc
  rcases hback.head?_append hc with rfl | rfl | hc
  · exact .inl rfl
  · exact .inr (.inl rfl)
  · exact .inr (.inr (h.head hrest c hc))

/-- A line is finished by blanks and a remark. -/
theorem Remark.finishLine?_append {back remark rest tail : List Char} (h : Remark remark)
    (hback : IsBlanks back) (hrest : Follows tail rest) :
    finishLine? (back ++ (remark ++ rest)) = some tail := by
  have hskip : skipSpace (back ++ (remark ++ rest)) = remark ++ rest := by
    refine hback.skipSpace_append fun c hc => ?_
    rcases h.head hrest c hc with rfl | rfl <;> rfl
  rw [finishLine?, hskip]
  -- without a remark the line ends at once, and a remark is passed over up to that end
  cases h with
  | none => cases hrest <;> rfl
  | @comment text htext =>
    have hvisible : ∀ c ∈ text, isVisible c = true := by
      intro c hc
      rcases htext c hc with rfl | ⟨hle, hne⟩
      · rfl
      · exact isVisible_of_le hle hne
    have hstop : ∀ c ∈ rest.head?, isVisible c = false := by
      intro c hc
      rw [hrest.head c hc]
      decide
    simp only [List.cons_append, dropWhile_stretch hvisible hstop]
    cases hrest <;> rfl

/-! ## Lines

A line gives the statement of its entry, or none, and the reader goes on with the next line. Each
line takes one unit of fuel, besides the one that sees the end. -/

/-- A line is read, and then the lines after it; fuel is left for the end of the document. -/
theorem LineText.statements?_append {entry : Option (String × Toml)} {line rest tail : List Char}
    (h : LineText entry line) (hreadable : Readable entry.toList) (hrest : Follows tail rest)
    (fuel : Nat) :
    statements? (fuel + 2) (line ++ rest)
      = (statements? (fuel + 1) tail).map (entry.toList.map Statement.ofEntry ++ ·) := by
  cases h with
  | @empty front remark hfront hremark =>
    have hskip : skipSpace (front ++ (remark ++ rest)) = remark ++ rest := by
      refine hfront.skipSpace_append fun c hc => ?_
      rcases hremark.head hrest c hc with rfl | rfl <;> rfl
    have hfinish := hremark.finishLine?_append (List.forall_mem_nil _) hrest
    rw [List.append_assoc, statements?, hskip]
    -- no statement comes of the line
    show _ = (statements? (fuel + 1) tail).map id
    rw [Option.map_id]
    cases hremark with
    | none => cases hrest <;> rfl
    | comment htext =>
      rw [List.nil_append, List.cons_append] at hfinish
      simp only [List.cons_append, hfinish, Option.bind_eq_bind, Option.bind_some, id]
  | @entry entry front text back remark hfront htext hback hremark =>
    have hentry := hreadable entry List.mem_cons_self
    have hbegins := htext.beginsName hentry (back ++ (remark ++ rest))
    have hstatement := htext.statement?_append hentry (hremark.stops hback hrest)
    simp only [List.append_assoc]
    rw [statements?, hfront.skipSpace_append hbegins.not_isSpace]
    -- neither the end of the document nor that of a line comes first, nor a comment
    split
    · next heq =>
      rw [heq] at hstatement
      cases hstatement
    · next heq => exact absurd heq (hbegins.ne_cons (by decide) _)
    · next heq => exact absurd heq (hbegins.ne_cons (by decide) _)
    · simp only [hstatement, hremark.finishLine?_append hback hrest, Option.bind_eq_bind,
        Option.bind_some]
      cases statements? (fuel + 1) tail <;> rfl

/-! ## Line ends

A carriage return before a line feed is dropped before anything else is read. No part of a line
contains one, so the lines themselves stay as they are. -/

/-- A stretch without carriage returns stays as it is. -/
theorem unifyLineEnds_append {line : List Char} (h : '\r' ∉ line) (rest : List Char) :
    unifyLineEnds (line ++ rest) = line ++ unifyLineEnds rest := by
  induction line with
  | nil => rfl
  | cons c line ih =>
    obtain ⟨hc, hline⟩ := not_or.1 (List.mem_cons.not.1 h)
    rw [List.cons_append, unifyLineEnds, ih hline]
    · rfl
    · exact fun _ heq _ => hc heq.symm

/-- Either end of a line becomes a line feed. -/
theorem LineEnd.unifyLineEnds_append {ending : List Char} (h : LineEnd ending) (rest : List Char) :
    unifyLineEnds (ending ++ rest) = '\n' :: unifyLineEnds rest := by
  cases h <;> rfl

theorem IsBlanks.not_mem_return {cs : List Char} (h : IsBlanks cs) : '\r' ∉ cs := by
  intro hc
  rcases h '\r' hc with heq | heq <;> exact absurd heq (by decide)

theorem Remark.not_mem_return {remark : List Char} (h : Remark remark) : '\r' ∉ remark := by
  cases h with
  | none => exact List.not_mem_nil
  | comment htext =>
    refine List.not_mem_cons_of_ne_of_not_mem (by decide) fun hc => ?_
    rcases htext '\r' hc with heq | ⟨hle, -⟩
    · exact absurd heq (by decide)
    · exact absurd hle (by decide)

theorem ValueText.not_mem_return {value : Toml} {written : List Char} (h : ValueText value written)
    (hplain : value.IsPlain) : '\r' ∉ written := by
  cases h with
  | @text text q hq _ =>
    have htext : '\r' ∉ text.toList := fun hc => absurd (hplain '\r' hc).1 (by decide)
    have hmarks : '\r' ∉ q.marks := by cases hq <;> decide
    simp only [List.mem_append, hmarks, htext, or_self, not_false_eq_true]
  | number n => exact fun hc => absurd (isDigit_of_mem_toDigits n _ hc) (by decide)

theorem EntryText.not_mem_return {entry : String × Toml} {text : List Char}
    (h : EntryText entry text) (hentry : IsReadable entry) : '\r' ∉ text := by
  obtain ⟨hbefore, hafter, hwritten⟩ := h
  have hname : '\r' ∉ entry.1.toList := fun hc =>
    absurd (hentry.name.isNameChar _ hc) (by decide)
  have hequals : '\r' ≠ '=' := by decide
  simp only [List.mem_append, List.mem_cons, hname, hbefore.not_mem_return, hequals,
    hafter.not_mem_return, hwritten.not_mem_return hentry.value, or_self, not_false_eq_true]

/-- No carriage return stands in a line, so its end is found where it is. -/
theorem LineText.not_mem_return {entry : Option (String × Toml)} {line : List Char}
    (h : LineText entry line) (hreadable : Readable entry.toList) : '\r' ∉ line := by
  cases h with
  | empty hfront hremark =>
    simp only [List.mem_append, hfront.not_mem_return, hremark.not_mem_return, or_self,
      not_false_eq_true]
  | @entry entry front text back remark hfront htext hback hremark =>
    have hentry := hreadable entry List.mem_cons_self
    simp only [List.mem_append, hfront.not_mem_return, htext.not_mem_return hentry,
      hback.not_mem_return, hremark.not_mem_return, or_self, not_false_eq_true]

/-- The last line stays as it is. -/
theorem LineText.unifyLineEnds_eq_self {entry : Option (String × Toml)} {line : List Char}
    (h : LineText entry line) (hreadable : Readable entry.toList) : unifyLineEnds line = line := by
  simpa [unifyLineEnds] using unifyLineEnds_append (h.not_mem_return hreadable) []

/-- A line stays as it is, and its end becomes a line feed. -/
theorem LineText.unifyLineEnds_append {entry : Option (String × Toml)} {line ending : List Char}
    (h : LineText entry line) (hreadable : Readable entry.toList) (hending : LineEnd ending)
    (rest : List Char) :
    unifyLineEnds (line ++ (ending ++ rest)) = line ++ '\n' :: unifyLineEnds rest := by
  rw [Toml.unifyLineEnds_append (h.not_mem_return hreadable), hending.unifyLineEnds_append]

/-! ## Documents

Line by line the statements of a document are read, and they make a table of the entries in the
order they are listed, provided no name occurs twice. -/

/-- One line takes at least one unit of fuel, and one is left at the end. -/
theorem Listing.statements?_eq {entries : Entries} {cs : List Char} (h : Listing entries cs)
    (hreadable : Readable entries) {fuel : Nat} (hfuel : (unifyLineEnds cs).length < fuel) :
    statements? fuel (unifyLineEnds cs) = some (entries.map Statement.ofEntry) := by
  induction h generalizing fuel with
  | nil =>
    cases fuel with
    | zero => exact absurd hfuel (Nat.not_lt_zero _)
    | succ fuel => rfl
  | @last entry line hline hne =>
    rw [hline.unifyLineEnds_eq_self hreadable] at hfuel ⊢
    have hpos := List.length_pos_of_ne_nil hne
    obtain ⟨fuel, rfl⟩ : ∃ k, fuel = k + 2 := ⟨fuel - 2, by omega⟩
    have hread := hline.statements?_append hreadable .nothing fuel
    rw [List.append_nil] at hread
    rw [hread]
    show some (entry.toList.map Statement.ofEntry ++ []) = _
    rw [List.append_nil]
  | @line entry line ending rest entries hline hending _ ih =>
    obtain ⟨hentry, hentries⟩ := List.forall_mem_append.1 hreadable
    rw [hline.unifyLineEnds_append hentry hending] at hfuel ⊢
    -- the line end alone pays for the line
    rw [List.length_append, List.length_cons] at hfuel
    obtain ⟨fuel, rfl⟩ : ∃ k, fuel = k + 2 := ⟨fuel - 2, by omega⟩
    rw [hline.statements?_append hentry (.lines _), ih hentries (by omega), Option.map_some,
      List.map_append]

/-- An entry with a new name comes behind the others. -/
theorem update_of_not_mem {entries : Entries} {name : String} (value : Toml)
    {change : Option Toml → Option Toml} (hname : name ∉ entries.map Prod.fst)
    (hchange : change none = some value) :
    entries.update name change = some (entries ++ [(name, value)]) := by
  induction entries with
  | nil => rw [Entries.update, hchange]; rfl
  | cons entry entries ih =>
    obtain ⟨hne, hrest⟩ := not_or.1 (List.mem_cons.not.1 hname)
    rw [Entries.update, if_neg (Ne.symm hne), ih hrest]
    rfl

/-- Entries with different names come into the table in their order. -/
theorem foldlM_step_entries {before entries : Entries}
    (hnames : ((before ++ entries).map Prod.fst).Nodup) :
    (entries.map Statement.ofEntry).foldlM Draft.step ⟨before, []⟩
      = some ⟨before ++ entries, []⟩ := by
  -- the header stays empty, so every entry comes into the table of the document itself
  induction entries generalizing before with
  | nil => rw [List.append_nil]; rfl
  | cons entry entries ih =>
    have hnew : entry.1 ∉ before.map Prod.fst := by
      rw [List.map_append, List.map_cons, List.nodup_middle, List.nodup_cons] at hnames
      exact fun h => hnames.1 (List.mem_append_left _ h)
    have hstep : Draft.step ⟨before, []⟩ (.ofEntry entry) = some ⟨before ++ [entry], []⟩ := by
      show (before.update entry.1 _).map _ = _
      rw [update_of_not_mem entry.2 hnew rfl]
      rfl
    rw [List.append_cons] at hnames ⊢
    rw [List.map_cons, List.foldlM_cons, hstep]
    exact ih hnames

/-- Statements of entries with distinct names make a table of just these entries. -/
theorem ofStatements_entries {entries : Entries} (hnames : (entries.map Prod.fst).Nodup) :
    ofStatements (entries.map Statement.ofEntry) = some entries := by
  have hfold : (entries.map Statement.ofEntry).foldlM Draft.step ⟨[], []⟩ = some ⟨entries, []⟩ :=
    foldlM_step_entries hnames
  show Option.map Draft.entries (List.foldlM Draft.step ⟨[], []⟩ _) = _
  rw [hfold]
  rfl

/-- A line begins with a blank, a mark or the first character of a name, and none of them is a byte
order mark. -/
theorem LineText.head_ne {entry : Option (String × Toml)} {line : List Char}
    (h : LineText entry line) (hreadable : Readable entry.toList) :
    ∀ c ∈ line.head?, c ≠ '\uFEFF' := by
  intro c hc
  -- a line begins with a blank, a comment or a name
  cases h with
  | empty hfront hremark =>
    rcases hfront.head?_append hc with rfl | rfl | hc
    · decide
    · decide
    · cases hremark with
      | none => cases hc
      | comment htext =>
        cases hc
        decide
  | @entry entry front text back remark hfront htext hback hremark =>
    have hbegins := htext.beginsName (hreadable entry List.mem_cons_self) (back ++ remark)
    rcases hfront.head?_append hc with rfl | rfl | hc
    · decide
    · decide
    · rintro rfl
      exact absurd (hbegins _ hc) (by decide)

/-- A listing does not begin with a byte order mark. -/
theorem Listing.head_ne {entries : Entries} {cs : List Char} (h : Listing entries cs)
    (hreadable : Readable entries) : ∀ c ∈ (unifyLineEnds cs).head?, c ≠ '\uFEFF' := by
  cases h with
  | nil => exact nofun
  | last hline hne =>
    rw [hline.unifyLineEnds_eq_self hreadable]
    exact hline.head_ne hreadable
  | @line entry line ending rest entries hline hending hrest =>
    obtain ⟨hentry, -⟩ := List.forall_mem_append.1 hreadable
    intro c hc
    rw [hline.unifyLineEnds_append hentry hending, List.head?_append, Option.mem_def,
      Option.or_eq_some_iff] at hc
    -- an empty line begins with its end
    rcases hc with hc | ⟨-, ⟨⟩⟩
    · exact hline.head_ne hentry c hc
    · decide

/-- The reader of documents gives back the entries that are listed. -/
theorem Listing.parse?_eq {entries : Entries} {text : String} (h : Listing entries text.toList)
    (hreadable : Readable entries) (hnames : (entries.map Prod.fst).Nodup) :
    parse? text = some entries := by
  have hstatements := h.statements?_eq hreadable (Nat.lt_succ_self _)
  unfold parse?
  dsimp only
  split
  · next heq => exact absurd rfl (h.head_ne hreadable '\uFEFF' (by rw [heq]; rfl))
  · rw [hstatements]
    exact ofStatements_entries hnames

end NftExchange.Toml
