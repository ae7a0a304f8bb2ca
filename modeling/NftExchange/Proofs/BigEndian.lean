import Mathlib
import NftExchange.Word

/-!
# Big-endian bytes

What the leading byte of a big-endian number tells about its size, and from that how many bytes the
shortest form of a number has.

* **`toNat_minimal`** — the shortest form spells the number;
* **`length_minimal_le`** — a number that `width` bytes can spell has a shortest form of at most
  `width` bytes;
* **`minimal_toNat`** — bytes without leading zeros are the shortest form of their number.
-/

/-! ## Words

A natural number fits into a word of 64 or 256 bits exactly if it is below the word's range, and
then the word denotes it. -/

namespace UInt64

theorem toNat_lt_capacity (a : UInt64) : a.toNat < NftExchange.Bytes.capacity 32 :=
  Nat.lt_trans a.toNat_lt (by decide)

/-- A number is narrowed to a word exactly if the word denotes it. -/
theorem ofNat?_eq_some_iff {n : Nat} {a : UInt64} : ofNat? n = some a ↔ a.toNat = n := by
  constructor
  · intro h
    unfold ofNat? at h
    split at h
    · next hfits =>
      cases h
      exact toNat_ofNat_of_lt' hfits
    · cases h
  · rintro rfl
    exact ofNat?_toNat a

/-- A number is not narrowed exactly if it is out of range. -/
theorem ofNat?_eq_none_iff {n : Nat} : ofNat? n = none ↔ UInt64.size ≤ n := by
  unfold ofNat?
  split
  · next hfits => exact ⟨nofun, fun h => absurd h (Nat.not_le_of_lt hfits)⟩
  · next hbig => exact ⟨fun _ => Nat.le_of_not_lt hbig, fun _ => rfl⟩

end UInt64

namespace NftExchange

theorem UInt256.toNat_ofNat {n : Nat} (h : n < Bytes.capacity 32) :
    (BitVec.ofNat 256 n).toNat = n := by
  rw [BitVec.toNat_ofNat]
  exact Nat.mod_eq_of_lt h

/-- A number is narrowed to a wide word exactly if the word denotes it. -/
theorem UInt256.ofNat?_eq_some_iff {n : Nat} {a : UInt256} : ofNat? n = some a ↔ a.toNat = n := by
  constructor
  · intro h
    unfold ofNat? at h
    split at h
    · next hfits =>
      cases h
      exact UInt256.toNat_ofNat hfits
    · cases h
  · rintro rfl
    exact ofNat?_toNat a

namespace Bytes

/-! ## Capacities

The capacity of a width is the number of values that it can hold; wider means more. -/

theorem capacity_le {a b : Nat} (h : a ≤ b) : capacity a ≤ capacity b :=
  Nat.pow_le_pow_right (by decide) h

theorem lt_of_capacity_lt {a b : Nat} (h : capacity a < capacity b) : a < b := by
  by_contra hle
  have := capacity_le (Nat.le_of_not_lt hle)
  omega

/-! ## The leading byte

A number is read from the front, so its leading byte counts for a whole capacity of the bytes behind
it. From this its range follows, and its size once the leading byte is not zero. -/

/-- Reading on from a number shifts it by the bytes read. -/
private theorem foldl_bytes (bytes : Bytes) (n : Nat) :
    bytes.foldl (fun n b => n * 256 + b.toNat) n = n * capacity bytes.length + toNat bytes := by
  induction bytes generalizing n with
  | nil =>
    show n = n * capacity 0 + 0
    rw [show capacity 0 = 1 from rfl]
    omega
  | cons b bytes ih =>
    -- the start value is general in the induction, so the leading byte can become part of it
    have hcons : toNat (b :: bytes) = b.toNat * capacity bytes.length + toNat bytes := by
      show bytes.foldl (fun n b => n * 256 + b.toNat) (0 * 256 + b.toNat) = _
      rw [ih, Nat.zero_mul, Nat.zero_add]
    rw [List.foldl_cons, ih, hcons, List.length_cons, capacity_succ]
    ring

/-- The leading byte counts for the capacity of the others. -/
theorem toNat_cons (b : UInt8) (bytes : Bytes) :
    toNat (b :: bytes) = b.toNat * capacity bytes.length + toNat bytes := by
  show bytes.foldl (fun n b => n * 256 + b.toNat) (0 * 256 + b.toNat) = _
  rw [foldl_bytes, Nat.zero_mul, Nat.zero_add]

/-- Bytes denote less than their capacity. -/
theorem toNat_lt (bytes : Bytes) : toNat bytes < capacity bytes.length := by
  induction bytes with
  | nil => decide
  | cons b bytes ih =>
    have hb : b.toNat + 1 ≤ 256 := b.toNat_lt
    have hmul := Nat.mul_le_mul_right (capacity bytes.length) hb
    rw [Nat.add_mul, Nat.one_mul] at hmul
    rw [toNat_cons, List.length_cons, capacity_succ]
    omega

/-- With a leading byte that is not zero they denote at least the capacity of the others. -/
theorem capacity_le_toNat_cons {b : UInt8} (hb : b ≠ 0) (bytes : Bytes) :
    capacity bytes.length ≤ toNat (b :: bytes) := by
  have hpos : 0 < b.toNat := by
    rw [Nat.pos_iff_ne_zero]
    exact fun h => hb (UInt8.toNat_inj.1 h)
  rw [toNat_cons]
  exact Nat.le_trans (Nat.le_mul_of_pos_left _ hpos) (Nat.le_add_right _ _)

/-! ## The shortest form

Zeros in front do not count, and without them a number has exactly one form. Dropping them from the
form of full width therefore gives the shortest bytes of a number. -/

/-- Zeros in front do not count. -/
theorem toNat_dropWhile_zero (bytes : Bytes) : toNat (bytes.dropWhile (· == 0)) = toNat bytes := by
  induction bytes with
  | nil => rfl
  | cons b bytes ih =>
    by_cases hb : b = 0
    · rw [List.dropWhile_cons_of_pos (by simpa using hb), ih, toNat_cons, hb, UInt8.toNat_zero]
      omega
    · rw [List.dropWhile_cons_of_neg (by simpa using hb)]

/-- The shortest bytes of a number denote it. -/
theorem toNat_minimal {n : Nat} (h : n < capacity 32) : toNat (minimal n) = n := by
  rw [minimal, toNat_dropWhile_zero, toNat_ofNat h]

/-- What is left has no zero in front. -/
private theorem head?_dropWhile_zero (bytes : Bytes) :
    (bytes.dropWhile (· == 0)).head? ≠ some 0 := by
  induction bytes with
  | nil => exact nofun
  | cons b bytes ih =>
    by_cases hb : b = 0
    · rw [List.dropWhile_cons_of_pos (by simpa using hb)]
      exact ih
    · rw [List.dropWhile_cons_of_neg (by simpa using hb), List.head?_cons]
      exact fun h => hb (Option.some.inj h)

/-- The shortest bytes of a number have no zero in front. -/
theorem head?_minimal_ne_zero (n : Nat) : (minimal n).head? ≠ some 0 :=
  head?_dropWhile_zero (ofNat 32 n)

/-- They are no wider than any width that can hold the number. -/
theorem length_minimal_le {n width : Nat} (hwidth : width ≤ 32) (h : n < capacity width) :
    (minimal n).length ≤ width := by
  have hvalue := toNat_minimal (Nat.lt_of_lt_of_le h (capacity_le hwidth))
  have hhead := head?_minimal_ne_zero n
  cases hbytes : minimal n with
  | nil => exact Nat.zero_le width
  | cons b bytes =>
    rw [hbytes] at hvalue hhead
    have hb : b ≠ 0 := fun hb => hhead (by rw [hb, List.head?_cons])
    -- with its leading byte not zero, the number is too large for fewer bytes
    have hle := capacity_le_toNat_cons hb bytes
    rw [hvalue] at hle
    exact lt_of_capacity_lt (Nat.lt_of_le_of_lt hle h)

/-- Bytes of one width are determined by the number that they denote. -/
theorem toNat_inj_of_length {bytes other : Bytes} (hlength : bytes.length = other.length)
    (h : toNat bytes = toNat other) : bytes = other := by
  induction bytes generalizing other with
  | nil => exact (List.eq_nil_of_length_eq_zero hlength.symm).symm
  | cons b bytes ih =>
    cases other with
    | nil => cases hlength
    | cons c other =>
      have htail : bytes.length = other.length := Nat.succ.inj hlength
      have hlt := toNat_lt bytes
      have hlt' := toNat_lt other
      rw [toNat_cons, toNat_cons, ← htail] at h
      rw [← htail] at hlt'
      -- the leading byte is the quotient by the capacity of the others, which are the remainder
      have hlead : b.toNat = c.toNat := by
        have hdiv := congrArg (· / capacity bytes.length) h
        simp only [Nat.mul_comm _ (capacity bytes.length)] at hdiv
        rwa [Nat.mul_add_div (by omega), Nat.mul_add_div (by omega), Nat.div_eq_of_lt hlt,
          Nat.div_eq_of_lt hlt'] at hdiv
      rw [hlead] at h
      rw [UInt8.toNat_inj.1 hlead, ih htail (Nat.add_left_cancel h)]

/-- Two spellings of a number without leading zeros are as long as each other. -/
private theorem length_le_of_toNat_eq {bytes other : Bytes} (hhead : bytes.head? ≠ some 0)
    (h : toNat bytes = toNat other) : bytes.length ≤ other.length := by
  cases bytes with
  | nil => exact Nat.zero_le _
  | cons b bytes =>
    have hb : b ≠ 0 := fun hb => hhead (by rw [hb, List.head?_cons])
    have hle := capacity_le_toNat_cons hb bytes
    have hlt := toNat_lt other
    rw [h] at hle
    exact lt_of_capacity_lt (Nat.lt_of_le_of_lt hle hlt)

/-- Bytes without leading zeros are the shortest form of the number that they spell. -/
theorem minimal_toNat {bytes : Bytes} (hhead : bytes.head? ≠ some 0) (hwidth : bytes.length ≤ 32) :
    minimal (toNat bytes) = bytes := by
  have hfits : toNat bytes < capacity 32 :=
    Nat.lt_of_lt_of_le (toNat_lt bytes) (capacity_le hwidth)
  have hvalue := toNat_minimal hfits
  refine toNat_inj_of_length (Nat.le_antisymm ?_ ?_) hvalue
  · exact length_le_of_toNat_eq (head?_minimal_ne_zero _) hvalue
  · exact length_le_of_toNat_eq hhead hvalue.symm

theorem minimal_ne_nil {n : Nat} (hpos : 0 < n) (h : n < capacity 32) : minimal n ≠ [] := by
  intro hnil
  have hvalue := toNat_minimal h
  rw [hnil] at hvalue
  exact absurd hvalue (by have : toNat [] = 0 := rfl; omega)

/-! ## Shortest forms of words

The words that are sent have 64 and 256 bits. Their shortest forms fit into 8 and 32 bytes and are
read back. -/

theorem length_minimal_uint64 (a : UInt64) : (minimal a.toNat).length ≤ 8 :=
  length_minimal_le (by decide) a.toNat_lt

theorem length_minimal_uint256 (a : UInt256) : (minimal a.toNat).length ≤ 32 :=
  length_minimal_le (by decide) a.toNat_lt

theorem ofNat_toNat_minimal_uint64 (a : UInt64) : UInt64.ofNat (toNat (minimal a.toNat)) = a := by
  rw [toNat_minimal a.toNat_lt_capacity, UInt64.ofNat_toNat]

theorem ofNat_toNat_minimal_uint256 (a : UInt256) :
    BitVec.ofNat 256 (toNat (minimal a.toNat)) = a := by
  rw [toNat_minimal (UInt256.toNat_lt a), BitVec.ofNat_toNat, BitVec.setWidth_eq]

end Bytes

end NftExchange
