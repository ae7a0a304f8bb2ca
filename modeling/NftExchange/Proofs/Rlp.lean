import NftExchange.Proofs.BigEndian
import NftExchange.Proofs.Except
import NftExchange.Rlp

/-!
# Reading what was encoded

Every header announces the length it was made of, short and long alike. So an item can be split off
whatever follows it, the items of a list are found one after the other, and every value is read
back from its item.

* **`announced_header`** — a header announces its length, whatever stands after it;
* **`items_encodeList`** — a list has the items it was made of;
* **`decodeBytes_encodeBytes`** — a byte string is read back; numbers and fixed widths follow;
* **`flatten_eq_of_encodeList_eq`** and **`eq_of_flatten_eq`** — lists of the same bytes are the
  same.
-/

namespace NftExchange.Rlp

open Except (bind_eq_ok_iff)

/-! ## Headers

An item other than a small byte begins with a header that announces how long its value is: one byte
for up to 55, otherwise the length of the length and then the length itself without leading zeros.
Reading the header back gives the two lengths, whatever follows. -/

/-- The two first bytes of an empty item: a byte string and a list. -/
def IsBase (base : Nat) : Prop := base = 0x80 ∨ base = 0xc0

theorem isBase_bytes : IsBase 0x80 := .inl rfl

theorem isBase_list : IsBase 0xc0 := .inr rfl

/-- A length without leading zeros that is above 55 is read back. -/
private theorem long_minimal {length : Nat} (hlong : 55 < length) (hfits : length < UInt64.size)
    (rest : Bytes) :
    Extent.long (Bytes.minimal length).length (Bytes.minimal length ++ rest)
      = .ok ⟨1 + (Bytes.minimal length).length, length⟩ := by
  have hsize : length < Bytes.capacity 32 := Nat.lt_trans hfits (by decide)
  have hvalue := Bytes.toNat_minimal hsize
  have hhead := Bytes.head?_minimal_ne_zero length
  cases hdigits : Bytes.minimal length with
  | nil => exact absurd hdigits (Bytes.minimal_ne_nil (by omega) hsize)
  | cons b digits =>
    rw [hdigits] at hvalue hhead
    have hb : b ≠ 0 := fun hb => hhead (by rw [hb, List.head?_cons])
    have hroom : ¬ ((b :: digits) ++ rest).length < (b :: digits).length := by
      rw [List.length_append]
      omega
    have hbig : ¬ length ≤ 55 := by omega
    -- neither empty nor led by a zero byte, the digits come to the last arm
    rw [Extent.long.eq_def]
    split
    · rename_i h
      exact absurd h (List.cons_ne_nil b (digits ++ rest))
    · rename_i h
      exact absurd (List.cons.inj h).1 hb
    · rw [if_neg hroom, List.take_left, hvalue]
      exact if_neg hbig

theorem header_short {base length : Nat} (h : length ≤ 55) :
    header base length = [.ofNat (base + length)] := if_pos h

theorem header_long {base length : Nat} (h : 55 < length) :
    header base length
      = .ofNat (base + 55 + (Bytes.minimal length).length) :: Bytes.minimal length :=
  if_neg (Nat.not_le_of_lt h)

private theorem toNat_first {n : Nat} (h : n < 256) : (UInt8.ofNat n).toNat = n :=
  UInt8.toNat_ofNat_of_lt' h

private theorem length_digits {length : Nat} (hlong : 55 < length) (hfits : length < UInt64.size) :
    0 < (Bytes.minimal length).length ∧ (Bytes.minimal length).length ≤ 8 := by
  have hsize : length < Bytes.capacity 32 := Nat.lt_trans hfits (by decide)
  constructor
  · exact List.length_pos_iff.2 (Bytes.minimal_ne_nil (by omega) hsize)
  · exact Bytes.length_minimal_le (by decide) hfits

/-- A header announces the length it was made of, whatever stands after it. -/
theorem announced_header {base length : Nat} (hbase : IsBase base) (hfits : length < UInt64.size)
    (rest : Bytes) :
    Extent.announced (header base length ++ rest)
      = .ok ⟨(header base length).length, length⟩ := by
  by_cases hlong : 55 < length
  · -- one to eight digits keep the first byte inside its range of eight
    obtain ⟨hpos, hwidth⟩ := length_digits hlong hfits
    have hread := long_minimal hlong hfits rest
    have hlen : (header base length).length = 1 + (Bytes.minimal length).length := by
      rw [header_long hlong, List.length_cons, Nat.add_comm]
    rw [hlen, header_long hlong, List.cons_append, Extent.announced]
    rcases hbase with rfl | rfl
    · rw [toNat_first (by omega), if_neg (by omega), if_neg (by omega), if_pos (by omega),
        Nat.add_sub_cancel_left, hread]
    · rw [toNat_first (by omega), if_neg (by omega), if_neg (by omega), if_neg (by omega),
        if_neg (by omega), Nat.add_sub_cancel_left, hread]
  · have hshort : length ≤ 55 := Nat.le_of_not_lt hlong
    rw [header_short hshort, List.singleton_append, Extent.announced]
    rcases hbase with rfl | rfl
    · rw [toNat_first (by omega), if_neg (by omega), if_pos (by omega), Nat.add_sub_cancel_left,
        List.length_singleton]
    · rw [toNat_first (by omega), if_neg (by omega), if_neg (by omega), if_neg (by omega),
        if_pos (by omega), Nat.add_sub_cancel_left, List.length_singleton]

/-- The first byte tells a list from a byte string. -/
private theorem le_first_iff {base n : Nat} (hbase : IsBase base) (hn : n ≤ 63) :
    0xc0 ≤ UInt8.ofNat (base + n) ↔ base = 0xc0 := by
  rw [UInt8.le_iff_toNat_le]
  rcases hbase with rfl | rfl
  · rw [toNat_first (by omega)]
    show 192 ≤ _ ↔ _
    omega
  · rw [toNat_first (by omega)]
    show 192 ≤ _ ↔ _
    omega

/-- The first byte of a header tells which of the two kinds the item is. -/
theorem head_header {base length : Nat} (hbase : IsBase base) (hfits : length < UInt64.size) :
    ∃ first rest, header base length = first :: rest ∧ (0xc0 ≤ first ↔ base = 0xc0) := by
  by_cases hlong : 55 < length
  · obtain ⟨-, hwidth⟩ := length_digits hlong hfits
    refine ⟨_, _, header_long hlong, ?_⟩
    rw [Nat.add_assoc]
    exact le_first_iff hbase (by omega)
  · refine ⟨_, _, header_short (Nat.le_of_not_lt hlong), ?_⟩
    exact le_first_iff hbase (by omega)

private theorem ofBytes_of_announced {bytes : Bytes} {e : Extent}
    (hannounced : Extent.announced bytes = .ok e) (hroom : e.total ≤ bytes.length) :
    Extent.ofBytes bytes = .ok e := by
  rw [Extent.ofBytes, hannounced]
  exact if_pos hroom

/-- The extent of an item with a header is that of the header and the value. -/
theorem ofBytes_header {base : Nat} (hbase : IsBase base) {value : Bytes}
    (hfits : value.length < UInt64.size) (rest : Bytes) :
    Extent.ofBytes (header base value.length ++ value ++ rest)
      = .ok ⟨(header base value.length).length, value.length⟩ := by
  rw [List.append_assoc]
  refine ofBytes_of_announced (announced_header hbase hfits _) ?_
  show (header base value.length).length + value.length ≤ _
  rw [List.length_append, List.length_append]
  omega

/-! ## Items

An item is complete when it can be split off whatever follows it. Complete items that are laid end
to end can be taken apart again, which is all a list needs. -/

/-- An item that can be split off whatever follows it. -/
def Complete (item : Bytes) : Prop := ∀ rest, splitItem? (item ++ rest) = some (item, rest)

theorem Complete.ne_nil {item : Bytes} (h : Complete item) : item ≠ [] := by
  rintro rfl
  cases h []

/-- An item is complete when its extent is its length. -/
theorem complete_of_extent {item : Bytes} {e : Extent} (htotal : e.total = item.length)
    (hextent : ∀ rest, Extent.ofBytes (item ++ rest) = .ok e) : Complete item := by
  intro rest
  rw [splitItem?, hextent rest]
  show some (_, _) = _
  rw [htotal, List.take_left, List.drop_left]

/-- A byte string is one small byte, which is its own item, or gets a header. -/
theorem encodeBytes_cases (bytes : Bytes) :
    (∃ b : UInt8, b < 0x80 ∧ bytes = [b] ∧ encodeBytes bytes = [b])
      ∨ ((∀ b : UInt8, bytes = [b] → ¬ b < 0x80)
        ∧ encodeBytes bytes = header 0x80 bytes.length ++ bytes) := by
  match bytes with
  | [] => exact .inr ⟨nofun, rfl⟩
  | [b] =>
    by_cases hb : b < 0x80
    · exact .inl ⟨b, hb, rfl, if_pos hb⟩
    · refine .inr ⟨?_, if_neg hb⟩
      intro c hc
      cases hc
      exact hb
  | b :: c :: bytes => exact .inr ⟨nofun, rfl⟩

theorem length_le_encodeBytes (bytes : Bytes) : bytes.length ≤ (encodeBytes bytes).length := by
  rcases encodeBytes_cases bytes with ⟨b, _, rfl, hitem⟩ | ⟨_, hitem⟩
  · rw [hitem]
  · rw [hitem, List.length_append]
    exact Nat.le_add_left _ _

/-- A header is its first byte and at most the 32 bytes of a length. -/
theorem length_header_le (base length : Nat) : (header base length).length ≤ 33 := by
  have hdigits : (Bytes.minimal length).length ≤ 32 :=
    Nat.le_trans (List.dropWhile_sublist _).length_le (Nat.le_of_eq (Bytes.length_ofNat 32 length))
  rcases Nat.lt_or_ge 55 length with hlong | hshort
  · rw [header_long hlong, List.length_cons]
    omega
  · rw [header_short hshort, List.length_singleton]
    omega

/-- A longer value never has a shorter header. -/
theorem length_header_mono (base : Nat) {m n : Nat} (h : m ≤ n) (hfits : n < Bytes.capacity 32) :
    (header base m).length ≤ (header base n).length := by
  rcases Nat.lt_or_ge 55 m with hlong | hshort
  · -- a larger length has as many digits or more
    have hdigits : (Bytes.minimal m).length ≤ (Bytes.minimal n).length := by
      have hwidth : (Bytes.minimal n).length ≤ 32 := Bytes.length_minimal_le (Nat.le_refl 32) hfits
      have hn : n < Bytes.capacity (Bytes.minimal n).length := by
        have hlt := Bytes.toNat_lt (Bytes.minimal n)
        rwa [Bytes.toNat_minimal hfits] at hlt
      exact Bytes.length_minimal_le hwidth (Nat.lt_of_le_of_lt h hn)
    rw [header_long hlong, header_long (Nat.lt_of_lt_of_le hlong h), List.length_cons,
      List.length_cons]
    omega
  · rw [header_short hshort, List.length_singleton]
    rcases Nat.lt_or_ge 55 n with hlong | hshort'
    · rw [header_long hlong, List.length_cons]
      omega
    · rw [header_short hshort', List.length_singleton]

/-- An encoding adds 33 bytes at most. -/
theorem length_encodeBytes_le (bytes : Bytes) : (encodeBytes bytes).length ≤ bytes.length + 33 := by
  rcases encodeBytes_cases bytes with ⟨b, _, rfl, hitem⟩ | ⟨_, hitem⟩
  · rw [hitem]
    omega
  · have hheader := length_header_le 0x80 bytes.length
    rw [hitem, List.length_append]
    omega

/-- A small byte is an item by itself. -/
theorem ofBytes_small {b : UInt8} (hb : b < 0x80) (rest : Bytes) :
    Extent.ofBytes ([b] ++ rest) = .ok ⟨0, 1⟩ := by
  refine ofBytes_of_announced (if_pos hb) ?_
  show 0 + 1 ≤ _
  rw [List.length_append, List.length_singleton]
  omega

/-- Encoded bytes are complete. -/
theorem complete_encodeBytes {bytes : Bytes} (hfits : bytes.length < UInt64.size) :
    Complete (encodeBytes bytes) := by
  rcases encodeBytes_cases bytes with ⟨b, hb, rfl, hitem⟩ | ⟨_, hitem⟩
  · rw [hitem]
    exact complete_of_extent rfl (ofBytes_small hb)
  · rw [hitem]
    refine complete_of_extent ?_ (ofBytes_header isBase_bytes hfits)
    rw [List.length_append]
    rfl

private theorem length_minimal_lt_size {n : Nat} (h : n < Bytes.capacity 32) :
    (Bytes.minimal n).length < UInt64.size :=
  Nat.lt_of_le_of_lt (Bytes.length_minimal_le (Nat.le_refl 32) h) (by decide)

theorem complete_encodeNat {n : Nat} (h : n < Bytes.capacity 32) : Complete (encodeNat n) :=
  complete_encodeBytes (length_minimal_lt_size h)

/-- Complete items are followed up to bytes that are no complete item, as long as the fuel lasts. -/
theorem followItems_append {items : List Bytes} (h : ∀ item ∈ items, Complete item) {rest : Bytes}
    (hrest : splitItem? rest = none) {fuel : Nat} (hfuel : items.length ≤ fuel) :
    followItems fuel (items.flatten ++ rest) = items := by
  induction items generalizing fuel with
  | nil =>
    -- each item takes one unit of the fuel
    cases fuel with
    | zero => rfl
    | succ fuel =>
      rw [List.flatten_nil, List.nil_append, followItems, hrest]
  | cons item items ih =>
    cases fuel with
    | zero => exact absurd hfuel (Nat.not_succ_le_zero _)
    | succ fuel =>
      have hitem : Complete item := h item (List.mem_cons_self ..)
      have hlater : ∀ item ∈ items, Complete item := fun x hx => h x (List.mem_cons_of_mem _ hx)
      rw [List.flatten_cons, List.append_assoc, followItems, hitem (items.flatten ++ rest)]
      show item :: followItems fuel (items.flatten ++ rest) = _
      rw [ih hlater (Nat.le_of_succ_le_succ hfuel)]

/-- Complete items are followed to the last, as long as the fuel lasts. -/
theorem followItems_flatten {items : List Bytes} (h : ∀ item ∈ items, Complete item) {fuel : Nat}
    (hfuel : items.length ≤ fuel) : followItems fuel items.flatten = items := by
  have hempty : splitItem? [] = none := rfl
  have hfollow := followItems_append h hempty hfuel
  rwa [List.append_nil] at hfollow

/-- Complete items are told apart by their bytes. -/
theorem eq_of_flatten_eq {items others : List Bytes} (hitems : ∀ item ∈ items, Complete item)
    (hothers : ∀ item ∈ others, Complete item) (h : items.flatten = others.flatten) :
    items = others := by
  have hfollow := followItems_flatten hitems (Nat.le_max_left items.length others.length)
  rw [h, followItems_flatten hothers (Nat.le_max_right items.length others.length)] at hfollow
  exact hfollow.symm

/-- There are no more items than bytes. -/
theorem length_le_flatten {items : List Bytes} (h : ∀ item ∈ items, Complete item) :
    items.length ≤ items.flatten.length := by
  induction items with
  | nil => exact Nat.le_refl 0
  | cons item items ih =>
    have hpos := List.length_pos_iff.2 (h item (List.mem_cons_self ..)).ne_nil
    have hrest := ih fun x hx => h x (List.mem_cons_of_mem _ hx)
    rw [List.flatten_cons, List.length_cons, List.length_append]
    omega

/-! ## Lists

A list is the header of all its items laid end to end. The items come back in their order as long as
their lengths together can be announced. -/

theorem isList_encodeList {items : List Bytes} (hfits : items.flatten.length < UInt64.size) :
    isList (encodeList items) = true := by
  obtain ⟨first, rest, hheader, hfirst⟩ := head_header isBase_list hfits
  rw [encodeList, hheader, List.cons_append, isList]
  exact decide_eq_true (hfirst.2 rfl)

/-- The items of an encoded list are the ones it was made of. -/
theorem items_encodeList {items : List Bytes} (h : ∀ item ∈ items, Complete item)
    (hfits : items.flatten.length < UInt64.size) : Rlp.items (encodeList items) = items := by
  have hextent : Extent.ofBytes (encodeList items)
      = .ok ⟨(header 0xc0 items.flatten.length).length, items.flatten.length⟩ := by
    have := ofBytes_header isBase_list hfits []
    rwa [List.append_nil] at this
  rw [Rlp.items, hextent]
  simp only [encodeList]
  rw [List.drop_left, List.take_length]
  cases items with
  | nil => rfl
  | cons item items =>
    have hitem : Complete item := h item (List.mem_cons_self ..)
    have hrest : ∀ item ∈ items, Complete item := fun x hx => h x (List.mem_cons_of_mem _ hx)
    have hfuel := length_le_flatten hrest
    -- the first item is split off the list's value, the others are followed after it
    rw [List.flatten_cons, hitem items.flatten]
    simp only
    rw [← List.drop_drop, List.drop_left, List.drop_left]
    have hroom : items.length ≤ (header 0xc0 (item ++ items.flatten).length
        ++ (item ++ items.flatten)).length := by
      rw [List.length_append, List.length_append]
      omega
    rw [followItems_flatten hrest hroom]

/-- Lists of the same bytes have the same payload. -/
theorem flatten_eq_of_encodeList_eq {items others : List Bytes}
    (hitems : items.flatten.length < Bytes.capacity 32)
    (hothers : others.flatten.length < Bytes.capacity 32)
    (h : encodeList items = encodeList others) : items.flatten = others.flatten := by
  have hlength := congrArg List.length h
  simp only [encodeList, List.length_append] at h hlength
  -- the payloads are as long as each other, since the header of the longer one is no shorter
  have hpayload : items.flatten.length = others.flatten.length := by
    rcases Nat.le_total items.flatten.length others.flatten.length with hle | hle
    · have hmono := length_header_mono 0xc0 hle hothers
      omega
    · have hmono := length_header_mono 0xc0 hle hitems
      omega
  exact (List.append_inj' h hpayload).2

/-! ## Values

Bytes, numbers and fixed widths come back out of their items, and no two values share an item. -/

/-- Bytes come back out of their item. -/
theorem decodeBytes_encodeBytes {bytes : Bytes} (hfits : bytes.length < UInt64.size) :
    decodeBytes (encodeBytes bytes) = .ok bytes := by
  -- a small byte stands for itself, and everything else has a header
  rcases encodeBytes_cases bytes with ⟨b, hb, rfl, hitem⟩ | ⟨hbare, hitem⟩
  · have hextent : Extent.ofBytes [b] = .ok ⟨0, 1⟩ := ofBytes_small hb []
    have hkind : ¬ 0xc0 ≤ b := by
      rw [UInt8.le_iff_toNat_le]
      rw [UInt8.lt_iff_toNat_lt] at hb
      exact Nat.not_le_of_lt (Nat.lt_trans hb (by decide))
    rw [hitem, decodeBytes, if_neg hkind, hextent]
    simp only [bind, Except.bind]
    -- `0x81` is no byte of this range
    split
    · exact absurd hb (by decide)
    · rfl
  · obtain ⟨first, rest, hheader, hkind⟩ := head_header isBase_bytes hfits
    have hextent : Extent.ofBytes (encodeBytes bytes)
        = .ok ⟨(header 0x80 bytes.length).length, bytes.length⟩ := by
      rw [hitem, ← List.append_nil (_ ++ _)]
      exact ofBytes_header isBase_bytes hfits []
    have hvalue : (((encodeBytes bytes).drop (header 0x80 bytes.length).length).take bytes.length)
        = bytes := by
      rw [hitem, List.drop_left, List.take_length]
    have hcons : encodeBytes bytes = first :: (rest ++ bytes) := by
      rw [hitem, hheader, List.cons_append]
    rw [hcons] at hextent hvalue ⊢
    rw [decodeBytes, if_neg (by rw [hkind]; decide), hextent]
    simp only [bind, Except.bind, hvalue]
    -- a byte with a header is refused if it could do without, which the writer rules out
    split
    · rename_i b
      exact if_neg (hbare b rfl)
    · rfl

/-- The item of a number holds its shortest form. -/
theorem decodeBytes_encodeNat {n : Nat} (h : n < Bytes.capacity 32) :
    decodeBytes (encodeNat n) = .ok (Bytes.minimal n) :=
  decodeBytes_encodeBytes (length_minimal_lt_size h)

theorem decodeUInt64_encodeNat (a : UInt64) : decodeUInt64 (encodeNat a.toNat) = .ok a := by
  have hwidth := Bytes.length_minimal_uint64 a
  rw [decodeUInt64, decodeBytes_encodeNat a.toNat_lt_capacity]
  simp only [bind, Except.bind]
  rw [if_neg (Nat.not_lt_of_le hwidth), if_neg (Bytes.head?_minimal_ne_zero _),
    Bytes.ofNat_toNat_minimal_uint64]
  rfl

theorem decodeUInt256_encodeNat (a : UInt256) : decodeUInt256 (encodeNat a.toNat) = .ok a := by
  have hwidth := Bytes.length_minimal_uint256 a
  rw [decodeUInt256, decodeBytes_encodeNat a.toNat_lt]
  simp only [bind, Except.bind]
  rw [if_neg (Bytes.head?_minimal_ne_zero _), if_neg (Nat.not_lt_of_le hwidth),
    Bytes.ofNat_toNat_minimal_uint256]
  rfl

theorem decodeFixed_encodeBytes {width : Nat} (a : FixedBytes width) (h : width < UInt64.size) :
    decodeFixed width (encodeBytes a.toBytes) = .ok a := by
  have hfits : a.toBytes.length < UInt64.size := by rwa [a.length_toBytes]
  rw [decodeFixed, decodeBytes_encodeBytes hfits]
  simp only [bind, Except.bind]
  rw [dif_pos a.length_toBytes]
  rfl

theorem encodeNat_uint64_inj {a b : UInt64}
    (h : encodeNat a.toNat = encodeNat b.toNat) : a = b := by
  have hdecode := decodeUInt64_encodeNat a
  rw [h, decodeUInt64_encodeNat] at hdecode
  exact (Except.ok.inj hdecode).symm

theorem encodeNat_uint256_inj {a b : UInt256}
    (h : encodeNat a.toNat = encodeNat b.toNat) : a = b := by
  have hdecode := decodeUInt256_encodeNat a
  rw [h, decodeUInt256_encodeNat] at hdecode
  exact (Except.ok.inj hdecode).symm

theorem encodeBytes_inj {a b : Bytes} (ha : a.length < UInt64.size) (hb : b.length < UInt64.size)
    (h : encodeBytes a = encodeBytes b) : a = b := by
  have hdecode := decodeBytes_encodeBytes ha
  rw [h, decodeBytes_encodeBytes hb] at hdecode
  exact (Except.ok.inj hdecode).symm

/-! ## Bounds

What can be announced fits in 64 bits, so nothing that was decoded is longer. -/

/-- No header announces more bytes than 64 bits can count. -/
theorem Extent.valueLength_lt {bytes : Bytes} {e : Extent} (h : announced bytes = .ok e) :
    e.valueLength < UInt64.size := by
  have hlong {width : Nat} {rest : Bytes} (hwidth : width ≤ 8) (h : long width rest = .ok e) :
      e.valueLength < UInt64.size := by
    rw [long.eq_def] at h
    split at h
    · cases h
    · cases h
    · split at h
      · cases h
      · dsimp only at h
        split at h
        · cases h
        · cases h
          have hlt := Bytes.toNat_lt (rest.take width)
          exact Nat.lt_of_lt_of_le hlt
            (Bytes.capacity_le (Nat.le_trans (List.length_take_le ..) hwidth))
  -- the first byte falls in one of five ranges
  cases bytes with
  | nil => cases h
  | cons first rest =>
    have hfirst := first.toNat_lt
    rw [announced] at h
    split at h
    · cases h
      decide
    · split at h
      · cases h
        show first.toNat - 0x80 < 2 ^ 64
        omega
      · split at h
        · exact hlong (by omega) h
        · split at h
          · cases h
            show first.toNat - 0xc0 < 2 ^ 64
            omega
          · exact hlong (by omega) h

/-- So no byte string that is read is longer than 64 bits can count. -/
theorem length_lt_of_decodeBytes {item value : Bytes} (h : decodeBytes item = .ok value) :
    value.length < UInt64.size := by
  -- a value is cut out at the length that its header announces
  have htake {e : Extent} (hextent : Extent.ofBytes item = .ok e) :
      ((item.drop e.headerLength).take e.valueLength).length < UInt64.size := by
    obtain ⟨found, hannounced, hroom⟩ := bind_eq_ok_iff.1 hextent
    split at hroom
    · cases hroom
      exact Nat.lt_of_le_of_lt (List.length_take_le ..) (Extent.valueLength_lt hannounced)
    · cases hroom
  cases item with
  | nil => cases h
  | cons first rest =>
    rw [decodeBytes] at h
    split at h
    · cases h
    · obtain ⟨e, hextent, hvalue⟩ := bind_eq_ok_iff.1 h
      have hlt := htake hextent
      dsimp only at hvalue
      split at hvalue
      · split at hvalue
        · cases hvalue
        · cases hvalue
          exact hlt
      · cases hvalue
        exact hlt
end NftExchange.Rlp
