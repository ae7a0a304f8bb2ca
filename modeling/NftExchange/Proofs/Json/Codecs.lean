import Mathlib
import NftExchange.Json.Record
import NftExchange.Proofs.Json.Members

/-!
# What a codec writes, it reads back

`Codec.ReadsBack c depth` says that the codec `c`, reading straight from text with `depth` levels
of nesting left, takes every value that it has written off the input and leaves what follows. It
holds of strings and bounded numbers at every depth, passes to values that may be `null`, and a
record has it one level above its fields:

* **`Codec.readsBack_record`** — if each field reads back, has a name of its own and is left out
  only where its stand-in is the same value, then the record reads back;
* **`Codec.ReadsBack.parse_render`** — a codec that reads back parses the text that it renders.
-/

namespace NftExchange

open Json (Stops Steps isBlank skipBlank skipBlank_cons)

/-! ## First bytes

A reader looks at one byte to know what it has before it. The first byte of a value that was written
is no blank and tells its kind, so a codec that tries several kinds takes the right one. -/

namespace Json

/-- A byte that begins a number is no mark of anything else. -/
theorem ne_of_startsNumber {b c : UInt8} (h : startsNumber b = true)
    (hc : c.toNat < 0x2d ∨ 0x39 < c.toNat) : b ≠ c := by
  have hrange : b.toNat = 0x2d ∨ (0x30 ≤ b.toNat ∧ b.toNat ≤ 0x39) := by
    simp only [startsNumber, Decimal.isDigit, Bool.or_eq_true, beq_iff_eq, Bool.and_eq_true,
      decide_eq_true_eq] at h
    rcases h with rfl | h
    · exact Or.inl rfl
    · exact Or.inr h
  rintro rfl
  omega

/-- And it is no blank. -/
theorem isBlank_of_startsNumber {b : UInt8} (h : startsNumber b = true) : isBlank b = false := by
  simp only [isBlank, Bool.or_eq_false_iff, beq_eq_false_iff_ne]
  exact ⟨⟨⟨ne_of_startsNumber h (by decide), ne_of_startsNumber h (by decide)⟩,
    ne_of_startsNumber h (by decide)⟩, ne_of_startsNumber h (by decide)⟩

/-- The first byte of a written value is neither blank nor a bracket that closes, and tells whether
the value is `null`. -/
theorem head_render (value : Json) (h : ∀ n, value = .num n → n.WellFormed) :
    ∃ b rest, Bytes.ofText value.render = b :: rest ∧ isBlank b = false ∧ b ≠ 0x5d
      ∧ (b = 0x6e ↔ value = .null) := by
  match value with
  | .null => exact ⟨0x6e, _, rfl, by decide, by decide, by simp⟩
  | .bool true => exact ⟨0x74, _, rfl, by decide, by decide, by simp⟩
  | .bool false => exact ⟨0x66, _, rfl, by decide, by decide, by simp⟩
  | .str s => exact ⟨0x22, _, by rw [render, ofText_renderString], by decide, by decide, by simp⟩
  | .arr items =>
    refine ⟨0x5b, Bytes.ofText (renderItems items ++ "]"), ?_, by decide, by decide, by simp⟩
    rw [render, String.append_assoc, Bytes.ofText_append]
    rfl
  | .obj members =>
    refine ⟨0x7b, Bytes.ofText (renderMembers members ++ "\x7d"), ?_, by decide, by decide, by simp⟩
    rw [render, String.append_assoc, Bytes.ofText_append]
    rfl
  | .num n =>
    -- a number begins with its sign or a digit, and none of the other values does
    obtain ⟨b, rest, htext, hb⟩ := startsNumber_text (h n rfl)
    have hne : b ≠ 0x6e := ne_of_startsNumber hb (by decide)
    exact ⟨b, rest, by rw [render, htext], isBlank_of_startsNumber hb,
      ne_of_startsNumber hb (by decide), by simp [hne]⟩

/-- A reader takes a written value off the input, whatever stops it. -/
structure Reads {α : Type} (reader : Reader α) (value : Json) (a : α) : Prop where
  wellFormed : ∀ n, value = .num n → n.WellFormed
  read : ∀ rest, Stops rest → reader (Bytes.ofText value.render ++ rest) = .ok (a, rest)

end Json

open Json (Reads)

/-! ## Single values

The law of a codec, that what it writes it reads, whatever stands behind it. It is stated for one
value and then for all; wrapping a codec keeps it. -/

namespace Codec

variable {α : Type}

/-- Every value that the codec has written is read back, whatever stops it. -/
structure ReadsBack (c : Codec α) (depth : Nat) : Prop where
  wellFormed : ∀ a n, c.encode a = .num n → n.WellFormed
  read : ∀ a rest, Stops rest →
    c.read depth (Bytes.ofText (c.render a) ++ rest) = .ok (a, rest)

/-- A codec with the law reads each of its values. -/
theorem ReadsBack.reads {c : Codec α} {depth : Nat} (h : c.ReadsBack depth) (a : α) :
    Reads (c.read depth) (c.encode a) a :=
  ⟨h.wellFormed a, h.read a⟩

theorem readsBack_of_reads {c : Codec α} {depth : Nat}
    (h : ∀ a, Reads (c.read depth) (c.encode a) a) : c.ReadsBack depth :=
  ⟨fun a => (h a).wellFormed, fun a => (h a).read⟩

/-- A value that is read back is also read back as a whole document. -/
theorem parse_render_of_reads {c : Codec α} {a : α}
    (h : Reads (c.read Json.depthLimit) (c.encode a) a) : c.parse (c.render a) = .ok a := by
  have hread := h.read [] Json.stops_nil
  rw [List.append_nil] at hread
  simp only [parse, parseBytes, render, Json.readAll, hread, bind, Except.bind]
  rfl

/-- So a codec with the law reads the documents that it writes. -/
theorem ReadsBack.parse_render {c : Codec α} (h : c.ReadsBack Json.depthLimit) (a : α) :
    c.parse (c.render a) = .ok a :=
  parse_render_of_reads (h.reads a)

/-- Texts are read back. -/
theorem readsBack_string (depth : Nat) : string.ReadsBack depth where
  wellFormed a n h := by cases h
  read a rest _ := by
    have hquote : isBlank 0x22 = false := by decide
    have htext : string.render a = Json.renderString a := rfl
    rw [htext, Json.ofText_renderString, List.cons_append, List.append_assoc]
    simp only [string, skipBlank_cons hquote]
    exact Json.stringAfterQuote_spelling a rest

/-- Numbers are read back if narrowing keeps them. -/
theorem readsBack_nat {toNat : α → Nat} {narrow : Nat → Option α}
    (h : ∀ a, narrow (toNat a) = some a) (depth : Nat) :
    (nat toNat narrow).ReadsBack depth where
  wellFormed a n hn := by
    cases hn
    exact Numeral.wellFormed_ofNat (toNat a)
  read a rest hrest := by
    have hwell := Numeral.wellFormed_ofNat (toNat a)
    have hread := Json.numeral?_text hwell hrest
    have htext : (nat toNat narrow).render a = (Numeral.ofNat (toNat a)).text := by
      show Json.render (.num (Numeral.ofNat (toNat a))) = _
      rw [Json.render]
    -- the codec looks at the first byte before it reads the numeral
    obtain ⟨b, text, hhead, hb⟩ := Json.startsNumber_text hwell
    rw [htext]
    rw [hhead, List.cons_append] at hread ⊢
    simp only [nat, skipBlank_cons (Json.isBlank_of_startsNumber hb), hb, if_true, Json.readNumeral,
      hread, narrowing, Numeral.toNat?_ofNat, h, bind, Except.bind, Option.bind]
    rfl

theorem readsBack_uint64 (depth : Nat) : uint64.ReadsBack depth :=
  readsBack_nat UInt64.ofNat?_toNat depth

theorem readsBack_uint32 (depth : Nat) : uint32.ReadsBack depth :=
  readsBack_nat (fun a => by simp [a.toNat_lt_size]) depth

theorem readsBack_uint8 (depth : Nat) : uint8.ReadsBack depth :=
  readsBack_nat (fun a => by simp [a.toNat_lt_size]) depth

/-- A check that passes what was written changes nothing. -/
theorem ReadsBack.refine {β : Type} {c : Codec α} {depth : Nat} (h : c.ReadsBack depth)
    {toInner : β → α} {check : α → Except JsonError β} (hcheck : ∀ b, check (toInner b) = .ok b) :
    (c.refine toInner check).ReadsBack depth where
  wellFormed b n hn := h.wellFormed (toInner b) n hn
  read b rest hrest := by
    have hread := h.read (toInner b) rest hrest
    have htext : (c.refine toInner check).render b = c.render (toInner b) := rfl
    rw [htext]
    simp only [Codec.refine, hread, hcheck, bind, Except.bind]
    rfl

/-- A value that may be `null` is read if the codec beneath does not write `null` for it. -/
theorem reads_nullable {c : Codec α} {depth : Nat} {value : Option α}
    (h : ∀ a ∈ value, Reads (c.read depth) (c.encode a) a ∧ c.encode a ≠ .null) :
    Reads (c.nullable.read depth) (c.nullable.encode value) value := by
  cases value with
  | none =>
    refine ⟨nofun, fun rest _ => ?_⟩
    have hblank : isBlank 0x6e = false := by decide
    show c.nullable.read depth (0x6e :: 0x75 :: 0x6c :: 0x6c :: rest) = _
    simp only [Codec.nullable, skipBlank_cons hblank]
    rfl
  | some a =>
    obtain ⟨hreads, hnull⟩ := h a rfl
    refine ⟨hreads.wellFormed, fun rest hrest => ?_⟩
    have hread := hreads.read rest hrest
    -- the first byte is not the `n` of `null`, so the codec beneath gets the input
    obtain ⟨b, text, hhead, hblank, -, hb⟩ := Json.head_render (c.encode a) hreads.wellFormed
    have hne : b ≠ 0x6e := fun heq => hnull (hb.1 heq)
    have hencode : c.nullable.encode (some a) = c.encode a := rfl
    rw [hencode]
    rw [hhead, List.cons_append] at hread ⊢
    simp only [Codec.nullable, skipBlank_cons hblank]
    split
    · next heq => exact absurd (List.cons.inj heq).1 hne
    · simp only [hread, bind, Except.bind]
      rfl

/-- A value that may be `null` reads back if the codec beneath never writes `null` itself. -/
theorem ReadsBack.nullable {c : Codec α} {depth : Nat} (h : c.ReadsBack depth)
    (hnull : ∀ a, c.encode a ≠ .null) : c.nullable.ReadsBack depth :=
  readsBack_of_reads fun _ => reads_nullable fun a _ => ⟨h.reads a, hnull a⟩

end Codec

/-! ## Records

A record is written member by member and read into slots, one for each field. That all slots are
filled at the end, each with what was written for its field, follows by induction on the fields,
because no two of them share a name. -/

/-- Whether a field reads back and, where it is left out, its stand-in is the value left out. -/
structure Field.ReadsBack {α : Type} (field : Field α) (depth : Nat) : Prop where
  codec : field.codec.ReadsBack depth
  whenMissing : ∀ a, field.omitted a = true → field.whenMissing = some a

theorem Field.readsBack_required {α : Type} {c : Codec α} {depth : Nat} (h : c.ReadsBack depth)
    (name : String) : (required name c).ReadsBack depth where
  codec := h
  whenMissing a ha := by cases ha

/-- A field that may be `null` is read back if nothing that is there is written as `null`. -/
theorem Field.readsBack_optional {α : Type} {c : Codec α} {depth : Nat} (h : c.ReadsBack depth)
    (hnull : ∀ a, c.encode a ≠ .null) (name : String) : (optional name c).ReadsBack depth where
  codec := h.nullable hnull
  whenMissing a ha := by cases ha

/-- A field that may be left out is read back under the same condition. -/
theorem Field.readsBack_sparse {α : Type} {c : Codec α} {depth : Nat} (h : c.ReadsBack depth)
    (hnull : ∀ a, c.encode a ≠ .null) (name : String) : (sparse name c).ReadsBack depth where
  codec := h.nullable hnull
  whenMissing a ha := by
    cases a with
    | none => rfl
    | some a => cases ha

namespace Fields

def names : {αs : List Type} → Fields αs → List String
  | _, nil => []
  | _, cons field rest => field.name :: rest.names

/-- Whether every field reads back and no two share a name. -/
def ReadBack (depth : Nat) : {αs : List Type} → Fields αs → Prop
  | _, nil => True
  | _, cons field rest => field.ReadsBack depth ∧ field.name ∉ rest.names ∧ rest.ReadBack depth

/-- Whether each value of a row is read where it is written. -/
def ReadRow (depth : Nat) : {αs : List Type} → Fields αs → Row αs → Prop
  | _, nil, _ => True
  | _, cons field rest, (a, row) =>
    Reads (field.codec.read depth) (field.codec.encode a) a ∧ rest.ReadRow depth row

theorem ReadBack.nodup_names {depth : Nat} {αs : List Type} {fields : Fields αs}
    (h : fields.ReadBack depth) : fields.names.Nodup := by
  induction fields with
  | nil => exact .nil
  | cons field rest ih => exact List.nodup_cons.2 ⟨h.2.1, ih h.2.2⟩

/-- Fields with the law read each row back. -/
theorem ReadBack.readRow {depth : Nat} {αs : List Type} {fields : Fields αs}
    (h : fields.ReadBack depth) (row : Row αs) : fields.ReadRow depth row := by
  induction fields with
  | nil => trivial
  | cons field rest ih => exact ⟨h.1.codec.reads row.1, ih h.2.2 row.2⟩

/-- The slots that the written members of a row fill. -/
def written : {αs : List Type} → Fields αs → Row αs → Slots αs
  | _, nil, _ => ()
  | _, cons field rest, (a, row) =>
    (if field.omitted a then none else some a, rest.written row)

/-- Only fields are written. -/
theorem mem_names_of_mem_members {αs : List Type} (fields : Fields αs) (row : Row αs) :
    ∀ member ∈ fields.members row, member.1 ∈ fields.names := by
  induction fields with
  | nil => intro member h; cases h
  | cons field rest ih =>
    intro member h
    obtain ⟨a, row⟩ := row
    rw [members] at h
    -- a field that is left out has no member
    split at h
    · exact List.mem_cons_of_mem _ (ih row member h)
    · rcases List.mem_cons.1 h with rfl | h
      · exact List.mem_cons_self
      · exact List.mem_cons_of_mem _ (ih row member h)

section Cons

variable {α : Type} {αs : List Type} {field : Field α} {rest : Fields αs} {depth : Nat}
  {key : String} {input after : Bytes}

/-- A member of the first field's name fills the first slot. -/
theorem readMember_here {slots : Slots αs} {a : α}
    (h : field.codec.read depth input = .ok (a, after)) :
    (cons field rest).readMember depth (none, slots) field.name input
      = .ok ((some a, slots), after) := by
  simp only [readMember, fill, if_true, h, bind, Except.bind]
  rfl

/-- A member of another name leaves the first slot as it is. -/
theorem readMember_later (hkey : key ≠ field.name) {slot : Option α} {slots slots' : Slots αs}
    (h : rest.readMember depth slots key input = .ok (slots', after)) :
    (cons field rest).readMember depth (slot, slots) key input
      = .ok ((slot, slots'), after) := by
  simp only [readMember, fill, if_neg hkey] at h ⊢
  -- a name that no field has is skipped by the fields after the first as by all of them
  cases hfill : rest.fill key (fun _ codec => codec.read depth input) slots with
  | some result =>
    rw [hfill] at h
    simp only at h
    simp only [Option.map_some, h, bind, Except.bind]
    rfl
  | none =>
    rw [hfill] at h
    simp only [Option.map_none] at h ⊢
    cases hskip : Json.skipValue input with
    | error e =>
      rw [hskip] at h
      cases h
    | ok after' =>
      rw [hskip] at h
      cases h
      rfl

/-- And so do many members of other names. -/
theorem steps_later {members : List (String × Json)} (slot : Option α) {slots slots' : Slots αs}
    (hkeys : ∀ member ∈ members, member.1 ≠ field.name)
    (h : Steps (rest.readMember depth) slots members slots') :
    Steps ((cons field rest).readMember depth) (slot, slots) members (slot, slots') := by
  induction h with
  | nil => exact .nil _
  | @cons _ _ _ member members hstep _ ih =>
    refine .cons (fun after hafter => ?_) (ih fun m hm => hkeys m (by simp [hm]))
    exact readMember_later (hkeys member (by simp)) (hstep after hafter)

end Cons

/-- The members of a row fill exactly the slots of what was written. -/
theorem steps_members {depth : Nat} {αs : List Type} {fields : Fields αs} {row : Row αs}
    (hnames : fields.names.Nodup) (h : fields.ReadRow depth row) :
    Steps (fields.readMember depth) fields.noSlots (fields.members row) (fields.written row) := by
  induction fields with
  | nil => exact .nil _
  | cons field rest ih =>
    obtain ⟨a, row⟩ := row
    obtain ⟨hfield, hrest⟩ := h
    rw [names, List.nodup_cons] at hnames
    have hkeys : ∀ member ∈ rest.members row, member.1 ≠ field.name := by
      intro member hmember heq
      exact hnames.1 (heq ▸ rest.mem_names_of_mem_members row member hmember)
    rw [noSlots, members, written]
    -- the first field is left out or written first; the others never touch its slot
    split
    · exact steps_later none hkeys (ih hnames.2 hrest)
    · refine .cons (fun after hafter => ?_) (steps_later (some a) hkeys (ih hnames.2 hrest))
      exact readMember_here (hfield.read after hafter)

/-- Whether what is left out of a row is what stands in for it. -/
def StandsIn : {αs : List Type} → Fields αs → Row αs → Prop
  | _, nil, _ => True
  | _, cons field rest, (a, row) =>
    (field.omitted a = true → field.whenMissing = some a) ∧ rest.StandsIn row

/-- A field that was left out has the value that stands in for it. -/
theorem ReadBack.standsIn {depth : Nat} {αs : List Type} {fields : Fields αs}
    (h : fields.ReadBack depth) (row : Row αs) : fields.StandsIn row := by
  induction fields with
  | nil => trivial
  | cons field rest ih => exact ⟨h.1.whenMissing row.1, ih h.2.2 row.2⟩

/-- The slots that were filled from a row give the row. -/
theorem finish_written {αs : List Type} (fields : Fields αs) {row : Row αs}
    (h : fields.StandsIn row) : fields.finish (fields.written row) = .ok row := by
  induction fields with
  | nil => rfl
  | cons field rest ih =>
    obtain ⟨a, row⟩ := row
    obtain ⟨hfield, hrest⟩ := h
    -- what was left out is what stands in for it
    have hslot : ((if field.omitted a then none else some a) <|> field.whenMissing) = some a := by
      split
      · next homitted => exact hfield homitted
      · rfl
    rw [written, finish, hslot]
    simp only [ih hrest, bind, Except.bind]
    rfl

end Fields

/-- A written record is read one level above its fields. -/
theorem Codec.reads_record {σ : Type} {αs : List Type} {fields : Fields αs}
    {toRow : σ → Row αs} {ofRow : Row αs → σ} {s : σ} {depth : Nat} (hnames : fields.names.Nodup)
    (h : fields.ReadRow depth (toRow s)) (hstandsIn : fields.StandsIn (toRow s))
    (hrow : ofRow (toRow s) = s) :
    Reads ((record fields toRow ofRow).read (depth + 1)) ((record fields toRow ofRow).encode s)
      s where
  wellFormed n hn := by cases hn
  read rest _ := by
    have hbrace : isBlank 0x7b = false := by decide
    -- the members are read one by one and fill the slots of the row
    have hread := Json.readMembers_render (Fields.steps_members hnames h) rest
    have htext : Bytes.ofText ((record fields toRow ofRow).encode s).render ++ rest
        = 0x7b :: (Bytes.ofText (Json.renderMembers (fields.members (toRow s)))
            ++ 0x7d :: rest) := by
      rw [record, Json.render, Bytes.ofText_append, Bytes.ofText_append,
        List.append_assoc, List.append_assoc]
      rfl
    rw [htext]
    simp only [record, skipBlank_cons hbrace, hread, fields.finish_written hstandsIn, bind,
      Except.bind, hrow]
    rfl

/-- A record reads back, one level above its fields. -/
theorem Codec.readsBack_record {σ : Type} {αs : List Type} {fields : Fields αs}
    {toRow : σ → Row αs} {ofRow : Row αs → σ} {depth : Nat} (h : fields.ReadBack depth)
    (hrow : ∀ s, ofRow (toRow s) = s) : (record fields toRow ofRow).ReadsBack (depth + 1) :=
  readsBack_of_reads fun s =>
    reads_record h.nodup_names (h.readRow (toRow s)) (h.standsIn (toRow s)) (hrow s)

end NftExchange
