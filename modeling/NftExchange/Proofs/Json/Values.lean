import NftExchange.Json.Quantity
import NftExchange.Proofs.Except
import NftExchange.Proofs.Hex.Quantity
import NftExchange.Proofs.Json.Codecs

/-!
# What arrives as a value

Between a node and its clients the members of every object are sorted by name. `Codec.Returns c a`
says that what the codec `c` writes of `a` is still decoded as `a` after that. A record finds its
fields by name, so the order of its members does not matter as long as no two share a name.

* **`sortMembers_perm`** — sorting only reorders;
* **`Fields.foldlM_decodeMember`** — members fill the slots of the fields that they name;
* **`Codec.returns_record`** — a record returns if its fields do.
-/

namespace NftExchange

open Except (bind_eq_ok_iff)

/-! ## Sorted members

A value that is parsed has its objects sorted by key. Sorting permutes the members of an object when
no key occurs twice, so a reader that takes the members by name finds the same ones. -/

namespace Json

/-- A member under a new key is inserted, and none is replaced. -/
theorem insertMember_perm {key : String} {value : Json} {members : List (String × Json)}
    (h : key ∉ members.map Prod.fst) :
    (insertMember key value members).Perm ((key, value) :: members) := by
  induction members with
  | nil => exact .refl _
  | cons member members ih =>
    obtain ⟨first, v⟩ := member
    rw [List.map_cons, List.mem_cons, not_or] at h
    rw [insertMember]
    split
    · exact .refl _
    · rw [if_neg h.1]
      exact ((ih h.2).cons (first, v)).trans (.swap ..)

/-- Inserting members one by one into a sorted list keeps them all, as long as the keys of both
lists are apart. -/
private theorem foldl_insertMember_perm (members sorted : List (String × Json))
    (h : ((members ++ sorted).map Prod.fst).Nodup) :
    (members.foldl (fun sorted (key, value) => insertMember key value sorted) sorted).Perm
      (members ++ sorted) := by
  -- the list already sorted is held general: it grows by one member at each step
  induction members generalizing sorted with
  | nil => exact .refl _
  | cons member members ih =>
    obtain ⟨key, value⟩ := member
    rw [List.cons_append, List.map_cons, List.nodup_cons] at h
    have hkey : key ∉ sorted.map Prod.fst := by
      intro hmem
      refine h.1 ?_
      rw [List.map_append]
      exact List.mem_append_right _ hmem
    have hinsert : (insertMember key value sorted).Perm ((key, value) :: sorted) :=
      insertMember_perm hkey
    have hlater : (members ++ insertMember key value sorted).Perm
        ((key, value) :: (members ++ sorted)) :=
      (hinsert.append_left members).trans List.perm_middle
    have hnodup : ((members ++ insertMember key value sorted).map Prod.fst).Nodup :=
      (hlater.map Prod.fst).nodup_iff.2 (List.nodup_cons.2 h)
    exact (ih _ hnodup).trans hlater

/-- Members that have names of their own are only reordered. -/
theorem sortMembers_perm {members : List (String × Json)} (h : (members.map Prod.fst).Nodup) :
    (sortMembers members).Perm members := by
  have hperm := foldl_insertMember_perm members [] (by rwa [List.append_nil])
  rwa [List.append_nil] at hperm

/-- The members of an object are sorted inside before the object itself is. -/
theorem sortedMembers_eq_map (members : List (String × Json)) :
    sortedMembers members = members.map fun member => (member.1, member.2.sorted) := by
  induction members with
  | nil => rfl
  | cons member members ih => rw [sortedMembers, ih, List.map_cons]

theorem sorted_ne_null {value : Json} (h : value ≠ .null) : value.sorted ≠ .null := by
  cases value with
  | null => exact absurd rfl h
  | arr items => simp [sorted]
  | obj members => simp [sorted]
  | _ => simp [sorted]

end Json

/-! ## Single values

A codec returns a value when decoding what it encoded, once parsed, gives the value again. Texts,
byte strings and quantities are written as strings, which sorting leaves alone. -/

namespace Codec

variable {α : Type}

/-- What is written of a value is decoded as the value when it arrives. -/
def Returns (c : Codec α) (a : α) : Prop := c.decode (c.encode a).sorted = .ok a

theorem returns_string (a : String) : string.Returns a := rfl

theorem returns_fixedBytes {width : Nat} (a : FixedBytes width) : (fixedBytes width).Returns a :=
  decode_fixedBytes a

/-- Digits are not passed over like a second mark. -/
theorem ofHexDigits_digitBytes {n : Nat} (h : n < Bytes.capacity 32) :
    Quantity.ofHexDigits (Hex.digitBytes n) = .ok (.ofNat 256 n) := by
  have hnumber := Hex.toNat?_digitBytes n
  have hlength : ¬ (Hex.digitBytes n).length > 64 := Nat.not_lt.2 (Hex.length_digitBytes_le h)
  have hmark : ∀ rest, Hex.digitBytes n ≠ 0x30 :: 0x78 :: rest := by
    intro rest heq
    rw [heq] at hnumber
    cases hnumber
  rw [Quantity.ofHexDigits]
  · simp only [if_neg hlength, hnumber]
  · exact hmark

theorem returns_quantity (a : UInt256) : quantity.Returns a := by
  show Quantity.ofText (Hex.quantity a.toNat) = .ok a
  rw [Quantity.ofText, Hex.afterMark?_quantity]
  show Quantity.ofHexDigits (Hex.digitBytes a.toNat) = .ok a
  rw [ofHexDigits_digitBytes a.toNat_lt, BitVec.ofNat_toNat, BitVec.setWidth_eq]

theorem encode_nullable_some (c : Codec α) (a : α) : c.nullable.encode (some a) = c.encode a := rfl

/-- A value that may be `null` returns if the codec beneath never writes `null` for it. -/
theorem Returns.nullable {c : Codec α} {value : Option α}
    (h : ∀ a ∈ value, c.Returns a ∧ c.encode a ≠ .null) : c.nullable.Returns value := by
  cases value with
  | none => rfl
  | some a =>
    obtain ⟨hreturns, hnull⟩ := h a rfl
    have hpresent := Json.sorted_ne_null hnull
    show c.nullable.decode (c.encode a).sorted = .ok (some a)
    -- what is not written as null is decoded by the codec itself
    have hdecode : c.nullable.decode (c.encode a).sorted
        = some <$> c.decode (c.encode a).sorted := by
      rw [Codec.nullable]
      cases hvalue : (c.encode a).sorted with
      | null => exact absurd hvalue hpresent
      | _ => rfl
    rw [hdecode, hreturns]
    rfl

theorem returns_nullable_quantity (value : Option UInt256) : quantity.nullable.Returns value :=
  .nullable fun a _ => ⟨returns_quantity a, nofun⟩

theorem returns_nullable_fixedBytes {width : Nat} (value : Option (FixedBytes width)) :
    (fixedBytes width).nullable.Returns value :=
  .nullable fun a _ => ⟨returns_fixedBytes a, nofun⟩

end Codec

/-! ## Records

A record is read member by member, and each member goes into the slot of the field it names. The
slots fill up to those of the written record whatever the order of the members, because the names of
the fields are distinct and each key occurs once. -/

/-- What is written of the value of a field is decoded as the value, and what is not written is
what stands in for it. -/
def Field.Returns {α : Type} (field : Field α) (a : α) : Prop :=
  if field.omitted a then field.whenMissing = some a else field.codec.Returns a

/-- A field comes back when its codec returns the value and a value left out is the one filled in
for a missing member. -/
theorem Field.returns_of_codec {α : Type} {field : Field α} {a : α} (h : field.codec.Returns a)
    (homitted : field.omitted a = true → field.whenMissing = some a) : field.Returns a := by
  rw [Field.Returns]
  split
  · exact homitted ‹_›
  · exact h

/-- A field that is left out when empty comes back either way. -/
theorem Field.returns_sparse {α : Type} {c : Codec α} {value : Option α}
    (h : c.nullable.Returns value) (name : String) : (sparse name c).Returns value :=
  returns_of_codec h fun homitted => by rw [Option.isNone_iff_eq_none.1 homitted]; rfl

namespace Fields

variable {αs : List Type} {members : List (String × Json)}

/-- The slots of fields after members were decoded: a slot has the value of the member that its
field names, or is empty if there is no such member. -/
def Filled (members : List (String × Json)) : {αs : List Type} → Fields αs → Slots αs → Prop
  | _, nil, _ => True
  | _, cons field rest, (slot, slots) =>
    (match slot with
      | some a => ∃ value, (field.name, value) ∈ members ∧ field.codec.decode value = .ok a
      | none => field.name ∉ members.map Prod.fst)
    ∧ rest.Filled members slots

/-- A key that names no field fills no slot. -/
theorem fill_of_not_mem {ρ : Type} {key : String}
    {get : (α : Type) → Codec α → Except JsonError (α × ρ)} (fields : Fields αs) {slots : Slots αs}
    (h : key ∉ fields.names) : fields.fill key get slots = none := by
  induction fields with
  | nil => rfl
  | cons field rest ih =>
    obtain ⟨slot, slots⟩ := slots
    rw [names, List.mem_cons, not_or] at h
    simp only [fill, if_neg h.1, ih h.2, Option.map_none]

/-- A member under an unknown key is passed over. -/
theorem decodeMember_of_not_mem {fields : Fields αs} {slots : Slots αs} {member : String × Json}
    (h : member.1 ∉ fields.names) : fields.decodeMember slots member = .ok slots := by
  rw [decodeMember, fields.fill_of_not_mem h]

section Cons

variable {α : Type} {field : Field α} {rest : Fields αs}

/-- A member under the name of the first field fills the first slot. -/
theorem decodeMember_here {slots : Slots αs} {value : Json} {a : α}
    (h : field.codec.decode value = .ok a) :
    (cons field rest).decodeMember (none, slots) (field.name, value) = .ok (some a, slots) := by
  simp only [decodeMember, fill, if_true, h, bind, Except.bind]
  rfl

/-- A member under another name is left to the later fields, and the first slot stays. -/
theorem decodeMember_later {member : String × Json} (hkey : member.1 ≠ field.name)
    {slot : Option α} {slots slots' : Slots αs} (h : rest.decodeMember slots member = .ok slots') :
    (cons field rest).decodeMember (slot, slots) member = .ok (slot, slots') := by
  simp only [decodeMember, fill, if_neg hkey] at h ⊢
  -- a name that no field has is passed over by the fields after the first as by all of them
  cases hfill : rest.fill member.1 (fun _ codec => (·, ()) <$> codec.decode member.2) slots with
  | none =>
    rw [hfill] at h
    cases h
    rfl
  | some result =>
    simp only [hfill] at h
    cases result with
    | error e => cases h
    | ok found =>
      cases h
      rfl

/-- Members none of which names the first field leave its slot as it is. -/
theorem foldlM_decodeMember_later {slot : Option α} {slots slots' : Slots αs}
    (hkeys : field.name ∉ members.map Prod.fst)
    (h : members.foldlM rest.decodeMember slots = .ok slots') :
    members.foldlM (cons field rest).decodeMember (slot, slots) = .ok (slot, slots') := by
  induction members generalizing slots with
  | nil =>
    cases h
    rfl
  | cons member members ih =>
    rw [List.map_cons, List.mem_cons, not_or] at hkeys
    rw [List.foldlM_cons] at h ⊢
    obtain ⟨middle, hmember, hmembers⟩ := bind_eq_ok_iff.1 h
    exact bind_eq_ok_iff.2
      ⟨_, decodeMember_later (Ne.symm hkeys.1) hmember, ih hkeys.2 hmembers⟩

end Cons

/-- Members that have names of their own fill the slots of the fields that they name. -/
theorem foldlM_decodeMember (fields : Fields αs) (hnames : fields.names.Nodup)
    (hkeys : (members.map Prod.fst).Nodup) {slots : Slots αs} (h : fields.Filled members slots) :
    members.foldlM fields.decodeMember fields.noSlots = .ok slots := by
  induction fields with
  | nil =>
    -- with no field left, every member is passed over
    clear hkeys h
    induction members with
    | nil => rfl
    | cons member members ih =>
      rw [List.foldlM_cons]
      exact ih
  | cons field rest ih =>
    obtain ⟨slot, slots⟩ := slots
    obtain ⟨hslot, hrest⟩ := h
    rw [names, List.nodup_cons] at hnames
    have hlater := ih hnames.2 hrest
    -- a slot stays empty when no member names the field; otherwise the one that does stands
    -- somewhere in the middle
    cases slot with
    | none => exact foldlM_decodeMember_later hslot hlater
    | some a =>
      obtain ⟨value, hmember, hdecode⟩ := hslot
      -- the member of the field is passed over by the other fields
      obtain ⟨before, after, rfl⟩ := List.append_of_mem hmember
      rw [List.foldlM_append] at hlater ⊢
      obtain ⟨middle, hbefore, hlater⟩ := bind_eq_ok_iff.1 hlater
      rw [List.foldlM_cons, decodeMember_of_not_mem hnames.1] at hlater
      have hkey : field.name ∉ before.map Prod.fst ∧ field.name ∉ after.map Prod.fst := by
        rw [List.map_append, List.map_cons, List.nodup_middle, List.nodup_cons, List.mem_append,
          not_or] at hkeys
        exact hkeys.1
      refine bind_eq_ok_iff.2 ⟨_, foldlM_decodeMember_later hkey.1 hbefore, ?_⟩
      rw [List.foldlM_cons]
      refine bind_eq_ok_iff.2 ⟨_, decodeMember_here hdecode, ?_⟩
      exact foldlM_decodeMember_later hkey.2 hlater

/-- Whether the values of a row return. -/
def Return : {αs : List Type} → Fields αs → Row αs → Prop
  | _, nil, _ => True
  | _, cons field rest, (a, row) => field.Returns a ∧ rest.Return row

/-- Fields that come back are in particular fields that a missing member stands in for where one is
left out. -/
theorem Return.standsIn {fields : Fields αs} {row : Row αs} (h : fields.Return row) :
    fields.StandsIn row := by
  induction fields with
  | nil => trivial
  | cons field rest ih =>
    obtain ⟨a, row⟩ := row
    refine ⟨fun homitted => ?_, ih h.2⟩
    have hfield : field.Returns a := h.1
    rwa [Field.Returns, if_pos homitted] at hfield

/-- What is written of a row fills its slots, in whatever order it arrives. -/
theorem filled_written {fields : Fields αs} (hnames : fields.names.Nodup) {row : Row αs}
    (h : fields.Return row)
    (hwritten : ∀ member ∈ fields.members row, (member.1, member.2.sorted) ∈ members)
    (honly : ∀ key ∈ members.map Prod.fst, key ∈ fields.names →
      key ∈ (fields.members row).map Prod.fst) :
    fields.Filled members (fields.written row) := by
  induction fields with
  | nil => trivial
  | cons field rest ih =>
    obtain ⟨a, row⟩ := row
    obtain ⟨hfield, hrest⟩ := h
    rw [names, List.nodup_cons] at hnames
    rw [Fields.members] at hwritten honly
    rw [written]
    rw [Field.Returns] at hfield
    by_cases homitted : field.omitted a = true
    · simp only [if_pos homitted] at hfield hwritten honly ⊢
      refine ⟨fun hkey => ?_, ih hnames.2 hrest hwritten fun key hkey hname =>
        honly key hkey (List.mem_cons_of_mem _ hname)⟩
      -- no other field writes under the name of the one that is left out
      obtain ⟨member, hmember, hname⟩ := List.mem_map.1 (honly _ hkey List.mem_cons_self)
      exact hnames.1 (hname ▸ rest.mem_names_of_mem_members row member hmember)
    · simp only [if_neg homitted] at hfield hwritten honly ⊢
      refine ⟨⟨_, hwritten _ List.mem_cons_self, hfield⟩, ih hnames.2 hrest
        (fun member hmember => hwritten member (List.mem_cons_of_mem _ hmember)) ?_⟩
      intro key hkey hname
      rcases List.mem_cons.1 (honly key hkey (List.mem_cons_of_mem _ hname)) with rfl | hmember
      · exact absurd hname hnames.1
      · exact hmember

/-- The keys written are names of fields, in the order of the fields. -/
theorem map_fst_members_sublist (fields : Fields αs) (row : Row αs) :
    ((fields.members row).map Prod.fst).Sublist fields.names := by
  induction fields with
  | nil => exact .slnil
  | cons field rest ih =>
    obtain ⟨a, row⟩ := row
    rw [members, names]
    split
    · exact (ih row).cons _
    · exact (ih row).cons_cons _

end Fields

theorem Codec.encode_record_ne_null {σ : Type} {αs : List Type} (fields : Fields αs)
    (toRow : σ → Row αs) (ofRow : Row αs → σ) (s : σ) :
    (record fields toRow ofRow).encode s ≠ .null := nofun

/-- A record returns if its fields do, even though its members arrive in another order. -/
theorem Codec.returns_record {σ : Type} {αs : List Type} {fields : Fields αs}
    {toRow : σ → Row αs} {ofRow : Row αs → σ} {s : σ} (hnames : fields.names.Nodup)
    (h : fields.Return (toRow s)) (hrow : ofRow (toRow s) = s) :
    (record fields toRow ofRow).Returns s := by
  have hmembers := Json.sortedMembers_eq_map (fields.members (toRow s))
  have hkeys : ((Json.sortedMembers (fields.members (toRow s))).map Prod.fst).Nodup := by
    rw [hmembers, List.map_map]
    exact hnames.sublist (fields.map_fst_members_sublist (toRow s))
  have hperm := Json.sortMembers_perm hkeys
  -- sorting permuted the members, so each is found again and none came in addition
  have hfilled : fields.Filled (Json.sortMembers (Json.sortedMembers (fields.members (toRow s))))
      (fields.written (toRow s)) := by
    refine Fields.filled_written hnames h (fun member hmember => ?_) fun key hkey _ => ?_
    · rw [hperm.mem_iff, hmembers]
      exact List.mem_map_of_mem hmember
    · rw [(hperm.map Prod.fst).mem_iff, hmembers, List.map_map] at hkey
      exact hkey
  have hdecode := fields.foldlM_decodeMember hnames ((hperm.map Prod.fst).nodup_iff.2 hkeys) hfilled
  have hfinish := fields.finish_written h.standsIn
  have hencode : ((record fields toRow ofRow).encode s).sorted
      = .obj (Json.sortMembers (Json.sortedMembers (fields.members (toRow s)))) := by
    rw [record, Json.sorted]
  rw [Returns, hencode]
  simp only [record, hdecode, hfinish, bind, Except.bind, hrow]
  rfl

end NftExchange
