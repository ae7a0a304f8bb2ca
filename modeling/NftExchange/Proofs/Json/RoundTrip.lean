import Mathlib
import NftExchange.Proofs.Json.Canonical
import NftExchange.Proofs.Json.Documents

/-!
# Values that survive both ways

What a codec writes is read in two ways, straight from the text and through a value, and the two
share no code. `Codec.RoundTrips c depth a` says that what `c` writes of `a` is `a` again on both,
with `depth` levels of nesting left. It holds of single values at every depth, and each of lists and
records takes up one level.

* **`RoundTrips.nullable`**, **`RoundTrips.list`** and **`roundTrips_record`** — the parts of a
  value that survive make up a value that does;
* **`RoundTrips.decodes`** — then the document of the value is decoded as the value.
-/

namespace NftExchange

open Json (Reads isBlank skipBlank_cons)

namespace Codec

variable {α : Type} {c : Codec α} {depth : Nat}

/-- What is written of a value is read as the value, straight from its text and through a value. -/
structure RoundTrips (c : Codec α) (depth : Nat) (a : α) : Prop where
  reads : Reads (c.read depth) (c.encode a) a
  returns : c.Returns a
  readable : Json.Readable depth (c.encode a)

/-- A value that comes back comes back from a document, on both ways. -/
theorem RoundTrips.decodes {a : α} (h : c.RoundTrips Json.depthLimit a) :
    c.Decodes (c.render a) (.ok a) where
  direct := parse_render_of_reads h.reads
  value := h.returns.parse h.readable

/-! ## Single values

The values that records are made of, one codec after the other. Each takes part in both ways,
straight from the text and through a parsed value. -/

theorem roundTrips_string (depth : Nat) (text : String) : string.RoundTrips depth text where
  reads := (readsBack_string depth).reads text
  returns := returns_string text
  readable := readable_str depth text

theorem roundTrips_fixedBytes {width : Nat} (depth : Nat) (a : FixedBytes width) :
    (fixedBytes width).RoundTrips depth a where
  reads := (readsBack_fixedBytes width depth).reads a
  returns := returns_fixedBytes a
  readable := readable_str depth _

theorem roundTrips_quantity (depth : Nat) (a : UInt256) : quantity.RoundTrips depth a where
  reads := (readsBack_quantity depth).reads a
  returns := returns_quantity a
  readable := readable_str depth _

/-- A truth value comes back. -/
theorem roundTrips_bool (depth : Nat) (b : Bool) : bool.RoundTrips depth b where
  reads := by
    refine ⟨nofun, fun rest _ => ?_⟩
    -- both words are read byte by byte
    cases b with
    | true =>
      show bool.read depth (0x74 :: 0x72 :: 0x75 :: 0x65 :: rest) = _
      simp only [bool, skipBlank_cons (show isBlank 0x74 = false by decide)]
      rfl
    | false =>
      show bool.read depth (0x66 :: 0x61 :: 0x6c :: 0x73 :: 0x65 :: rest) = _
      simp only [bool, skipBlank_cons (show isBlank 0x66 = false by decide)]
      rfl
  returns := rfl
  readable := by cases depth <;> trivial

/-- A number comes back if narrowing keeps it. -/
theorem roundTrips_nat {toNat : α → Nat} {narrow : Nat → Option α}
    (h : ∀ a, narrow (toNat a) = some a) (depth : Nat) (a : α) :
    (nat toNat narrow).RoundTrips depth a where
  reads := (readsBack_nat h depth).reads a
  returns := by
    show narrowing narrow (Numeral.ofNat (toNat a)) = .ok a
    simp only [narrowing, Numeral.toNat?_ofNat, Option.bind, h]
  readable := by
    have hwell := Numeral.wellFormed_ofNat (toNat a)
    cases depth <;> exact hwell

theorem roundTrips_uint64 (depth : Nat) (a : UInt64) : uint64.RoundTrips depth a :=
  roundTrips_nat UInt64.ofNat?_toNat depth a

theorem roundTrips_uint32 (depth : Nat) (a : UInt32) : uint32.RoundTrips depth a :=
  roundTrips_nat (fun a => by simp [a.toNat_lt_size]) depth a

theorem roundTrips_uint16 (depth : Nat) (a : UInt16) : uint16.RoundTrips depth a :=
  roundTrips_nat (fun a => by simp [a.toNat_lt_size]) depth a

theorem roundTrips_uint8 (depth : Nat) (a : UInt8) : uint8.RoundTrips depth a :=
  roundTrips_nat (fun a => by simp [a.toNat_lt_size]) depth a

/-- A value of any shape survives if there is nothing about it that a reader would change. -/
theorem roundTrips_json {value : Json} (h : value.Canonical depth) :
    json.RoundTrips depth value where
  reads := by
    have hreads := Json.readValue_render h.readable
    rw [h.sorted_eq] at hreads
    exact hreads
  returns := by
    show Json.renewed value.sorted = .ok value
    rw [h.sorted_eq, h.renewed_eq]
  readable := h.readable

/-! ## Values that may be absent, and lists

Wrapping a codec keeps the law: `null` is told apart from what is there, and a list is its items one
by one, one level deeper. -/

/-- A value that may be absent comes back if what is there is never written as `null`. -/
theorem RoundTrips.nullable {value : Option α}
    (h : ∀ a ∈ value, c.RoundTrips depth a ∧ c.encode a ≠ .null) :
    c.nullable.RoundTrips depth value where
  reads := reads_nullable fun a ha => ⟨(h a ha).1.reads, (h a ha).2⟩
  returns := .nullable fun a ha => ⟨(h a ha).1.returns, (h a ha).2⟩
  readable := readable_nullable fun a ha => (h a ha).1.readable

theorem roundTrips_nullable_quantity (depth : Nat) (value : Option UInt256) :
    quantity.nullable.RoundTrips depth value :=
  .nullable fun a _ => ⟨roundTrips_quantity depth a, nofun⟩

theorem roundTrips_nullable_fixedBytes {width : Nat} (depth : Nat)
    (value : Option (FixedBytes width)) : (fixedBytes width).nullable.RoundTrips depth value :=
  .nullable fun a _ => ⟨roundTrips_fixedBytes depth a, nofun⟩

/-- A list is read if each of its items is. -/
theorem reads_list {as : List α} (h : ∀ a ∈ as, Reads (c.read depth) (c.encode a) a) :
    Reads ((list c).read (depth + 1)) ((list c).encode as) as where
  wellFormed := nofun
  read rest _ := by
    -- each item is read as its own value
    have hitems : List.Forall₂ (Reads (c.read depth)) (as.map c.encode) as := by
      rw [List.forall₂_map_left_iff, List.forall₂_same]
      exact h
    have hread := Json.readItems_render hitems rest
    have htext : Bytes.ofText ((list c).encode as).render ++ rest
        = 0x5b :: (Bytes.ofText (Json.renderItems (as.map c.encode)) ++ 0x5d :: rest) := by
      rw [list, Json.render, Bytes.ofText_append, Bytes.ofText_append, List.append_assoc,
        List.append_assoc]
      rfl
    rw [htext]
    simp only [list, skipBlank_cons (show isBlank 0x5b = false by decide)]
    exact hread

/-- A list is returned if each of its items is. -/
theorem returns_list {as : List α} (h : ∀ a ∈ as, c.Returns a) : (list c).Returns as := by
  have hencode : ((list c).encode as).sorted
      = .arr (as.map fun a => (c.encode a).sorted) := by
    rw [list, Json.sorted, Json.sortedItems_eq_map, List.map_map]
    rfl
  have hitems : as.mapM (fun a => c.decode (c.encode a).sorted) = .ok (as.map id) :=
    Except.mapM_eq_ok_map_iff.2 h
  rw [Returns, hencode]
  show (as.map fun a => (c.encode a).sorted).mapM c.decode = .ok as
  rw [List.mapM_map]
  rwa [List.map_id] at hitems

/-- A list comes back if each of its items does, one level deeper. -/
theorem RoundTrips.list {as : List α} (h : ∀ a ∈ as, c.RoundTrips depth a) :
    (list c).RoundTrips (depth + 1) as where
  reads := reads_list fun a ha => (h a ha).reads
  returns := returns_list fun a ha => (h a ha).returns
  readable := by
    intro item hitem
    obtain ⟨a, ha, rfl⟩ := List.mem_map.1 hitem
    exact (h a ha).readable

end Codec

/-! ## Records

A record comes back if each of its fields does. This is the law of the records that nodes report,
whose fields are all of the kinds above. -/

/-- Whether the value of a field survives and, where it is not written, is what stands in for it. -/
structure Field.RoundTrips {α : Type} (field : Field α) (depth : Nat) (a : α) : Prop where
  codec : field.codec.RoundTrips depth a
  whenMissing : field.omitted a = true → field.whenMissing = some a

namespace Fields

variable {αs : List Type} {fields : Fields αs} {row : Row αs} {depth : Nat}

/-- Whether the values of a row survive. -/
def RoundTrip (depth : Nat) : {αs : List Type} → Fields αs → Row αs → Prop
  | _, nil, _ => True
  | _, cons field rest, (a, row) => field.RoundTrips depth a ∧ rest.RoundTrip depth row

theorem RoundTrip.readRow (h : fields.RoundTrip depth row) : fields.ReadRow depth row := by
  induction fields with
  | nil => trivial
  | cons field rest ih => exact ⟨h.1.codec.reads, ih h.2⟩

theorem RoundTrip.return (h : fields.RoundTrip depth row) : fields.Return row := by
  induction fields with
  | nil => trivial
  | cons field rest ih =>
    exact ⟨Field.returns_of_codec h.1.codec.returns h.1.whenMissing, ih h.2⟩

theorem RoundTrip.allReadable (h : fields.RoundTrip depth row) : fields.AllReadable depth row := by
  induction fields with
  | nil => trivial
  | cons field rest ih => exact ⟨h.1.codec.readable, ih h.2⟩

end Fields

/-- A record survives if its fields do and have names of their own. -/
theorem Codec.roundTrips_record {σ : Type} {αs : List Type} {fields : Fields αs}
    {toRow : σ → Row αs} {ofRow : Row αs → σ} {s : σ} {depth : Nat}
    (hnames : fields.names.Nodup ∧ Json.numberKey ∉ fields.names)
    (h : fields.RoundTrip depth (toRow s)) (hrow : ofRow (toRow s) = s) :
    (record fields toRow ofRow).RoundTrips (depth + 1) s where
  reads := reads_record hnames.1 h.readRow h.return.standsIn hrow
  returns := returns_record hnames.1 h.return hrow
  readable := readable_record hnames.2 h.allReadable

end NftExchange
