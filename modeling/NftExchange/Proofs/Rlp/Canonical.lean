import NftExchange.Proofs.Rlp

/-!
# What the reader takes for an item

The reader takes a header only in its shortest form, and a value only with the header that the
writer would give it. So whatever it reads has one encoding. The frame around the items of a list
is looked at less closely: the header has to announce the first item, and what follows the items
must not be an item itself.

* **`isItem_of_splitItem?`** — what is split off is a small byte, or a value with its header;
* **`eq_encodeBytes`** — an item that reads as a byte string is its encoding; numbers and fixed
  widths follow;
* **`Frame.items_bytes`** and **`exists_frame`** — the items of a list are those of its frame, and
  there is always a frame;
* **`Frame.bytes_eq_encodeList_iff`** — which frame is the one that is written.
-/

namespace NftExchange.Rlp

open Except (bind_eq_ok_iff)

/-! ## Headers

The other direction: a header that is accepted is the one that would have been written. Leading
zeros and long forms of short lengths are refused, so a length has one header. -/

/-- A length that stands in bytes of its own stands there in its shortest form. -/
private theorem long_eq_ok {width : Nat} {bytes : Bytes} {e : Extent} (hpos : 0 < width)
    (hwidth : width ≤ 8) (h : Extent.long width bytes = .ok e) :
    e.headerLength = 1 + width ∧ 55 < e.valueLength
      ∧ (Bytes.minimal e.valueLength).length = width
      ∧ ∃ rest, bytes = Bytes.minimal e.valueLength ++ rest := by
  rw [Extent.long.eq_def] at h
  split at h
  · cases h
  · cases h
  · rename_i hnil hzero
    split at h
    · cases h
    · rename_i hroom
      dsimp only at h
      split at h
      · cases h
      · rename_i hbig
        cases h
        have hlength : (bytes.take width).length = width := by
          rw [List.length_take]
          omega
        -- a leading zero was refused, so the digits are the shortest ones
        have hhead : (bytes.take width).head? ≠ some 0 := by
          cases bytes with
          | nil => exact absurd rfl hnil
          | cons b rest =>
            obtain ⟨width, rfl⟩ := Nat.exists_eq_add_of_lt hpos
            rw [Nat.zero_add, List.take_succ_cons, List.head?_cons]
            intro hb
            exact hzero rest (by rw [Option.some.inj hb])
        have hminimal := Bytes.minimal_toNat hhead (by omega)
        refine ⟨rfl, Nat.lt_of_not_le hbig, by rw [hminimal, hlength], bytes.drop width, ?_⟩
        rw [hminimal, List.take_append_drop]

/-- What announces an extent is a small byte or the header that the writer would give it. -/
theorem announced_eq_ok {bytes : Bytes} {e : Extent} (h : Extent.announced bytes = .ok e) :
    (∃ b rest, b < 0x80 ∧ bytes = b :: rest ∧ e = ⟨0, 1⟩)
      ∨ ∃ base rest, IsBase base ∧ bytes = header base e.valueLength ++ rest
          ∧ e.headerLength = (header base e.valueLength).length := by
  cases bytes with
  | nil => cases h
  | cons first rest =>
    have hfirst := first.toNat_lt
    have hshort {base : Nat} (hbase : base ≤ first.toNat) (hle : first.toNat ≤ base + 55) :
        first :: rest = header base (first.toNat - base) ++ rest
          ∧ 1 = (header base (first.toNat - base)).length := by
      rw [header_short (by omega), Nat.add_sub_cancel' hbase, UInt8.ofNat_toNat]
      exact ⟨rfl, rfl⟩
    have hlong (base : Nat) (hlt : base + 55 < first.toNat) (hle : first.toNat ≤ base + 63)
        (h : Extent.long (first.toNat - (base + 55)) rest = .ok e) :
        ∃ after, first :: rest = header base e.valueLength ++ after
          ∧ e.headerLength = (header base e.valueLength).length := by
      obtain ⟨hheader, hvalue, hwidth, after, hrest⟩ := long_eq_ok (by omega) (by omega) h
      refine ⟨after, ?_, ?_⟩
      · rw [header_long hvalue, hwidth, Nat.add_sub_cancel' (by omega), UInt8.ofNat_toNat,
          List.cons_append, ← hrest]
      · rw [header_long hvalue, List.length_cons, hwidth, hheader, Nat.add_comm]
    -- one range of the first byte after the other: a byte by itself, then short and long forms of
    -- byte strings and of lists
    rw [Extent.announced] at h
    split at h
    · rename_i hsmall
      cases h
      exact .inl ⟨first, rest, UInt8.lt_iff_toNat_lt.2 hsmall, rfl, rfl⟩
    · split at h
      · cases h
        exact .inr ⟨0x80, rest, isBase_bytes, hshort (by omega) (by omega)⟩
      · split at h
        · obtain ⟨after, hbytes⟩ := hlong 0x80 (by omega) (by omega) h
          exact .inr ⟨0x80, after, isBase_bytes, hbytes⟩
        · split at h
          · cases h
            exact .inr ⟨0xc0, rest, isBase_list, hshort (by omega) (by omega)⟩
          · obtain ⟨after, hbytes⟩ := hlong 0xc0 (by omega) (by omega) h
            exact .inr ⟨0xc0, after, isBase_list, hbytes⟩

/-- Headers of the same kind in front of the same bytes announce the same length. -/
theorem header_inj {m n : Nat} (hm : m < Bytes.capacity 32) (hn : n < Bytes.capacity 32)
    {bytes other : Bytes} (h : header 0xc0 m ++ bytes = header 0xc0 n ++ other) : m = n := by
  have hwidth {n : Nat} (hn : n < Bytes.capacity 32) (hlong : 55 < n) :
      0 < (Bytes.minimal n).length ∧ (Bytes.minimal n).length ≤ 32 :=
    ⟨List.length_pos_iff.2 (Bytes.minimal_ne_nil (by omega) hn),
      Bytes.length_minimal_le (Nat.le_refl 32) hn⟩
  have hbyte {a b : Nat} (h : UInt8.ofNat a = UInt8.ofNat b) : a % 256 = b % 256 := by
    have := congrArg UInt8.toNat h
    rwa [UInt8.toNat_ofNat', UInt8.toNat_ofNat'] at this
  -- the first byte tells short from long, and how many digits a long length has
  rcases Nat.lt_or_ge 55 m with hlong | hshort
  · obtain ⟨hpos, hle⟩ := hwidth hm hlong
    rcases Nat.lt_or_ge 55 n with hlong' | hshort'
    · obtain ⟨hpos', hle'⟩ := hwidth hn hlong'
      rw [header_long hlong, header_long hlong', List.cons_append, List.cons_append] at h
      obtain ⟨hfirst, hrest⟩ := List.cons.inj h
      have hdigits : (Bytes.minimal m).length = (Bytes.minimal n).length := by
        have := hbyte hfirst
        omega
      rw [← Bytes.toNat_minimal hm, ← Bytes.toNat_minimal hn, (List.append_inj hrest hdigits).1]
    · rw [header_long hlong, header_short hshort', List.cons_append, List.cons_append] at h
      have := hbyte (List.cons.inj h).1
      omega
  · rcases Nat.lt_or_ge 55 n with hlong' | hshort'
    · obtain ⟨hpos', hle'⟩ := hwidth hn hlong'
      rw [header_short hshort, header_long hlong', List.cons_append, List.cons_append] at h
      have := hbyte (List.cons.inj h).1
      omega
    · rw [header_short hshort, header_short hshort', List.cons_append, List.cons_append] at h
      have := hbyte (List.cons.inj h).1
      omega

/-! ## Items

What is split off the front of some bytes is an item in its only form, either a small byte or a
header with as many bytes as it announces. -/

/-- One small byte, or a value behind the header that announces its length. -/
inductive IsItem : Bytes → Prop where
  | small {b : UInt8} (hb : b < 0x80) : IsItem [b]
  | headed {base : Nat} {value : Bytes} (hbase : IsBase base) (hfits : value.length < UInt64.size) :
      IsItem (header base value.length ++ value)

/-- An item is complete. -/
theorem IsItem.complete {item : Bytes} (h : IsItem item) : Complete item := by
  cases h with
  | small hb => exact complete_of_extent rfl (ofBytes_small hb)
  | headed hbase hfits =>
    refine complete_of_extent ?_ (ofBytes_header hbase hfits)
    rw [List.length_append]
    rfl

/-- What is split off is an item, and the rest follows it. -/
theorem isItem_of_splitItem? {bytes item rest : Bytes} (h : splitItem? bytes = some (item, rest)) :
    IsItem item ∧ bytes = item ++ rest := by
  rw [splitItem?] at h
  split at h
  · rename_i e hextent
    cases h
    refine ⟨?_, (List.take_append_drop _ _).symm⟩
    obtain ⟨found, hannounced, hroom⟩ := bind_eq_ok_iff.1 hextent
    split at hroom
    · rename_i hle
      cases hroom
      have hvalue := Extent.valueLength_lt hannounced
      rcases announced_eq_ok hannounced with
        ⟨b, after, hb, rfl, rfl⟩ | ⟨base, after, hbase, hbytes, hlen⟩
      · exact .small hb
      · -- the item ends where the announced value ends
        have htake : bytes.take e.total
            = header base e.valueLength ++ after.take e.valueLength := by
          rw [Extent.total, hlen]
          conv_lhs => rw [hbytes]
          exact List.take_length_add_append _
        have hlength : (after.take e.valueLength).length = e.valueLength := by
          have htotal : bytes.length = e.headerLength + after.length := by
            rw [hlen]
            conv_lhs => rw [hbytes]
            exact List.length_append
          rw [Extent.total] at hle
          rw [List.length_take]
          omega
        rw [htake]
        have hfits : (after.take e.valueLength).length < UInt64.size := by rwa [hlength]
        have hitem := IsItem.headed hbase hfits
        rwa [hlength] at hitem
    · cases hroom
  · cases h

/-! ## Values

A value is decoded from one item only: the one it is encoded as. For numbers this takes the refusal
of leading zeros, for bytes the refusal of a header before a small byte. -/

/-- An item that reads as a byte string is its encoding. -/
theorem eq_encodeBytes {item value : Bytes} (hitem : IsItem item)
    (h : decodeBytes item = .ok value) : item = encodeBytes value := by
  -- a small byte is decoded as itself, and a headed item by its header
  cases hitem with
  | @small b hb =>
    have hsize : [b].length < UInt64.size := by
      rw [List.length_singleton]
      decide
    have hdecode := decodeBytes_encodeBytes hsize
    have hencode : encodeBytes [b] = [b] := if_pos hb
    rw [hencode, h] at hdecode
    rw [Except.ok.inj hdecode, hencode]
  | @headed base bytes hbase hfits =>
    obtain ⟨first, rest, hheader, hkind⟩ := head_header hbase hfits
    have hextent := ofBytes_header hbase hfits []
    rw [List.append_nil] at hextent
    have hvalue : ((header base bytes.length ++ bytes).drop (header base bytes.length).length).take
        bytes.length = bytes := by
      rw [List.drop_left, List.take_length]
    have hcons : header base bytes.length ++ bytes = first :: (rest ++ bytes) := by
      rw [hheader, List.cons_append]
    rw [hcons] at hextent hvalue h
    rw [decodeBytes] at h
    split at h
    · cases h
    · rename_i hbytes
      have hbase : base = 0x80 := by
        rcases hbase with rfl | rfl
        · rfl
        · exact absurd (hkind.2 rfl) hbytes
      subst hbase
      rw [hextent] at h
      simp only [bind, Except.bind, hvalue] at h
      -- a small byte was refused with a header, and every other value has one
      rcases encodeBytes_cases bytes with ⟨b, hb, rfl, -⟩ | ⟨-, hencode⟩
      · have hfirst : first = 0x81 := (List.cons.inj hheader).1.symm
        subst hfirst
        simp only [if_pos hb] at h
        cases h
      · have hread : value = bytes := by
          split at h
          · split at h
            · cases h
            · cases h
              rfl
          · cases h
            rfl
        rw [hread, hencode]

theorem eq_encodeNat_uint64 {item : Bytes} {a : UInt64} (hitem : IsItem item)
    (h : decodeUInt64 item = .ok a) : item = encodeNat a.toNat := by
  obtain ⟨value, hvalue, h⟩ := bind_eq_ok_iff.1 h
  split at h
  · cases h
  · rename_i hwidth
    split at h
    · cases h
    · rename_i hhead
      cases h
      -- eight bytes at most, and no zero in front of them
      have hfits : Bytes.toNat value < UInt64.size :=
        Nat.lt_of_lt_of_le (Bytes.toNat_lt value) (Bytes.capacity_le (b := 8) (by omega))
      rw [UInt64.toNat_ofNat_of_lt' hfits, encodeNat, Bytes.minimal_toNat hhead (by omega)]
      exact eq_encodeBytes hitem hvalue

theorem eq_encodeNat_uint256 {item : Bytes} {a : UInt256} (hitem : IsItem item)
    (h : decodeUInt256 item = .ok a) : item = encodeNat a.toNat := by
  obtain ⟨value, hvalue, h⟩ := bind_eq_ok_iff.1 h
  split at h
  · cases h
  · rename_i hhead
    split at h
    · cases h
    · rename_i hwidth
      cases h
      -- 32 bytes at most, and no zero in front of them
      have hfits : Bytes.toNat value < Bytes.capacity 32 :=
        Nat.lt_of_lt_of_le (Bytes.toNat_lt value) (Bytes.capacity_le (by omega))
      rw [UInt256.toNat_ofNat hfits, encodeNat, Bytes.minimal_toNat hhead (by omega)]
      exact eq_encodeBytes hitem hvalue

theorem eq_encodeBytes_fixed {width : Nat} {item : Bytes} {a : FixedBytes width}
    (hitem : IsItem item) (h : decodeFixed width item = .ok a) :
    item = encodeBytes a.toBytes := by
  obtain ⟨value, hvalue, h⟩ := bind_eq_ok_iff.1 h
  split at h
  · cases h
    exact eq_encodeBytes hitem hvalue
  · split at h
    · cases h
    · cases h

/-! ## Lists

The items of a list are followed to the end of the input, and not to the end that the header
announces. The frame of some items records what the header says and what stands behind the last
item; among all frames of the same items one is exact, and it is the encoding. -/

/-- What is followed are items, up to bytes that are no complete item if there is fuel enough. -/
theorem exists_followItems (fuel : Nat) (bytes : Bytes) :
    ∃ rest, bytes = (followItems fuel bytes).flatten ++ rest
      ∧ (∀ item ∈ followItems fuel bytes, IsItem item)
      ∧ (bytes.length ≤ fuel → splitItem? rest = none) := by
  induction fuel generalizing bytes with
  | zero =>
    refine ⟨bytes, rfl, List.forall_mem_nil _, fun hle => ?_⟩
    rw [List.eq_nil_of_length_eq_zero (Nat.le_zero.1 hle)]
    rfl
  | succ fuel ih =>
    rw [followItems]
    cases hsplit : splitItem? bytes with
    | none => exact ⟨bytes, rfl, List.forall_mem_nil _, fun _ => hsplit⟩
    | some found =>
      obtain ⟨item, after⟩ := found
      obtain ⟨hitem, hbytes⟩ := isItem_of_splitItem? hsplit
      obtain ⟨rest, hafter, hitems, hrest⟩ := ih after
      refine ⟨rest, ?_, ?_, fun hle => hrest ?_⟩
      · rw [List.flatten_cons, List.append_assoc, ← hafter, hbytes]
      · intro x hx
        rcases List.mem_cons.1 hx with rfl | hx
        · exact hitem
        · exact hitems x hx
      · -- every item takes up bytes, so the fuel lasts
        have hpos := List.length_pos_iff.2 hitem.complete.ne_nil
        rw [hbytes, List.length_append] at hle
        omega

/-- What stands around items where a list is read. Nothing is asked of the header but that it
announces the first item and no more bytes than there are, and nothing of what follows the items
but that it is no complete item. -/
structure Frame (items : List Bytes) where
  /-- The length that the header announces. -/
  announced : Nat
  /-- What follows the items. -/
  rest : Bytes
  first_le : ∀ item ∈ items.head?, item.length ≤ announced
  announced_le : announced ≤ (items.flatten ++ rest).length
  announced_lt : announced < UInt64.size
  incomplete : splitItem? rest = none

namespace Frame

variable {items : List Bytes}

/-- The items in their frame. -/
def bytes (frame : Frame items) : Bytes :=
  header 0xc0 frame.announced ++ (items.flatten ++ frame.rest)

/-- Whether the items fill what the header announces, and nothing follows. -/
def IsExact (frame : Frame items) : Prop :=
  frame.announced = items.flatten.length ∧ frame.rest = []

theorem isList_bytes (frame : Frame items) : isList frame.bytes = true := by
  obtain ⟨first, rest, hheader, hfirst⟩ := head_header isBase_list frame.announced_lt
  rw [bytes, hheader, List.cons_append, isList]
  exact decide_eq_true (hfirst.2 rfl)

theorem extent_bytes (frame : Frame items) :
    Extent.ofBytes frame.bytes = .ok ⟨(header 0xc0 frame.announced).length, frame.announced⟩ := by
  have hvalue : ((items.flatten ++ frame.rest).take frame.announced).length = frame.announced :=
    List.length_take_of_le frame.announced_le
  have hfits : ((items.flatten ++ frame.rest).take frame.announced).length < UInt64.size := by
    rw [hvalue]
    exact frame.announced_lt
  have hextent := ofBytes_header isBase_list hfits
    ((items.flatten ++ frame.rest).drop frame.announced)
  rwa [hvalue, List.append_assoc, List.take_append_drop] at hextent

/-- The items that are found in a frame are those that stand in it. -/
theorem items_bytes (frame : Frame items) (hne : items ≠ []) (h : ∀ item ∈ items, Complete item) :
    Rlp.items frame.bytes = items := by
  cases items with
  | nil => exact absurd rfl hne
  | cons item items =>
    have hitem : Complete item := h item (List.mem_cons_self ..)
    have hlater : ∀ item ∈ items, Complete item := fun x hx => h x (List.mem_cons_of_mem _ hx)
    have hfirst : item.length ≤ frame.announced := frame.first_le item rfl
    have hbytes : frame.bytes = header 0xc0 frame.announced
        ++ (item ++ (items.flatten ++ frame.rest)) := by
      rw [bytes, List.flatten_cons, List.append_assoc]
    -- the first item lies in what the header announces
    have hsplit : splitItem? ((item ++ (items.flatten ++ frame.rest)).take frame.announced)
        = some (item, (items.flatten ++ frame.rest).take (frame.announced - item.length)) := by
      rw [List.take_append, List.take_of_length_le hfirst, hitem]
    have hfuel : items.length ≤ frame.bytes.length := by
      have hle := length_le_flatten hlater
      rw [hbytes]
      simp only [List.length_append]
      omega
    rw [Rlp.items, frame.extent_bytes]
    simp only
    generalize frame.bytes.length = fuel at hfuel
    rw [hbytes, List.drop_left, hsplit]
    simp only
    rw [← List.drop_drop, List.drop_left, List.drop_left,
      followItems_append hlater frame.incomplete hfuel]

/-- The frame that is written is the exact one. -/
theorem bytes_eq_encodeList_iff (frame : Frame items)
    (hfits : items.flatten.length < Bytes.capacity 32) :
    encodeList items = frame.bytes ↔ frame.IsExact := by
  rw [encodeList, bytes]
  constructor
  · intro h
    have hannounced : items.flatten.length = frame.announced :=
      header_inj hfits (Nat.lt_trans frame.announced_lt (by decide)) h
    rw [hannounced] at h
    have hrest := List.append_cancel_left h
    exact ⟨hannounced.symm, (List.append_right_eq_self.1 hrest.symm)⟩
  · rintro ⟨hannounced, hrest⟩
    rw [hannounced, hrest, List.append_nil]

end Frame

/-- What starts like a list and announces an extent starts with a list's header. -/
private theorem eq_header_of_isList {bytes : Bytes} {e : Extent} (hlist : isList bytes = true)
    (h : Extent.announced bytes = .ok e) :
    e.headerLength = (header 0xc0 e.valueLength).length
      ∧ ∃ rest, bytes = header 0xc0 e.valueLength ++ rest := by
  have hvalue := Extent.valueLength_lt h
  rcases announced_eq_ok h with ⟨b, rest, hb, rfl, -⟩ | ⟨base, rest, hbase, hbytes, hlength⟩
  · have hkind : 0xc0 ≤ b := of_decide_eq_true hlist
    rw [UInt8.le_iff_toNat_le] at hkind
    rw [UInt8.lt_iff_toNat_lt] at hb
    exact absurd (Nat.lt_of_le_of_lt hkind hb) (by decide)
  · obtain ⟨first, after, hheader, hkind⟩ := head_header hbase hvalue
    rw [hbytes, hheader, List.cons_append, isList] at hlist
    obtain rfl : base = 0xc0 := hkind.1 (of_decide_eq_true hlist)
    exact ⟨hlength, rest, hbytes⟩

/-- Whatever has items is a frame around them. -/
theorem exists_frame {bytes item : Bytes} {items : List Bytes} (hlist : isList bytes = true)
    (h : Rlp.items bytes = item :: items) :
    (∀ x ∈ item :: items, IsItem x) ∧ ∃ frame : Frame (item :: items), frame.bytes = bytes := by
  rw [Rlp.items] at h
  split at h
  · cases h
  · rename_i e hextent
    split at h
    · cases h
    · rename_i first later hsplit
      obtain ⟨hfirst, hitems⟩ := List.cons.inj h
      subst hfirst
      obtain ⟨hitem, hvalue⟩ := isItem_of_splitItem? hsplit
      obtain ⟨found, hannounced, hroom⟩ := bind_eq_ok_iff.1 hextent
      split at hroom
      · rename_i hle
        cases hroom
        obtain ⟨hlength, payload, hbytes⟩ := eq_header_of_isList hlist hannounced
        have hdrop : bytes.drop e.headerLength = payload := by
          rw [hlength]
          conv_lhs => rw [hbytes]
          exact List.drop_left
        rw [hdrop] at hvalue
        -- the items after the first are followed to the end of the input
        obtain ⟨after, hafter⟩ : ∃ after, payload = first ++ after :=
          ⟨later ++ payload.drop e.valueLength, by
            rw [← List.append_assoc, ← hvalue, List.take_append_drop]⟩
        have hfirst : first.length ≤ e.valueLength := by
          have hlength := congrArg List.length hvalue
          rw [List.length_take, List.length_append] at hlength
          omega
        have hroom : payload.length = bytes.length - e.headerLength := by
          rw [← hdrop, List.length_drop]
        obtain ⟨rest, hrest, hall, hincomplete⟩ := exists_followItems bytes.length after
        rw [← List.drop_drop, hdrop, hafter, List.drop_left] at hitems
        rw [hitems] at hrest hall
        have hframe : payload = (first :: items).flatten ++ rest := by
          rw [hafter, hrest, List.flatten_cons, List.append_assoc]
        refine ⟨List.forall_mem_cons.2 ⟨hitem, hall⟩,
          ⟨e.valueLength, rest, ?_, ?_, Extent.valueLength_lt hannounced, hincomplete ?_⟩, ?_⟩
        · intro x hx
          rwa [← Option.some.inj hx]
        · rw [← hframe, hroom]
          rw [Extent.total] at hle
          omega
        · have hlength := congrArg List.length hafter
          rw [List.length_append] at hlength
          omega
        · show header 0xc0 e.valueLength ++ ((first :: items).flatten ++ rest) = bytes
          rw [← hframe, ← hbytes]
      · cases hroom

end NftExchange.Rlp
