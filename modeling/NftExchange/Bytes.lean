/-!
# Byte strings

Everything that is hashed, signed or sent is a `Bytes`: the UTF-8 bytes of a text, the
big-endian bytes of a number, or bytes of a fixed width (`FixedBytes`), such as an address or a
digest. The lemmas say that no text and no fixed-width value is lost on the way.
-/

namespace NftExchange

/-- A string of bytes. -/
abbrev Bytes := List UInt8

namespace Bytes

/-- The UTF-8 bytes of a text. -/
def ofText (text : String) : Bytes := text.toByteArray.data.toList

/-- The text whose UTF-8 bytes these are, if they are well-formed UTF-8. -/
def toText? (bytes : Bytes) : Option String := String.fromUTF8? ⟨bytes.toArray⟩

theorem ofText_ofList (cs : List Char) :
    ofText (String.ofList cs) = cs.flatMap String.utf8EncodeChar := by
  simp [ofText, List.utf8Encode]

@[simp] theorem ofText_append (s t : String) : ofText (s ++ t) = ofText s ++ ofText t := by
  simp [ofText]

theorem ofText_inj {s t : String} : ofText s = ofText t ↔ s = t := by
  constructor
  · intro h
    have hd : s.toByteArray.data = t.toByteArray.data := Array.toList_inj.1 h
    exact String.toByteArray_inj.1 (ByteArray.ext hd)
  · rintro rfl; rfl

@[simp] theorem toText?_ofText (text : String) : toText? (ofText text) = some text := by
  simp [toText?, ofText, String.fromUTF8?, String.fromUTF8, text.isValidUTF8]

/-- The number that the bytes spell, most significant byte first. -/
def toNat (bytes : Bytes) : Nat := bytes.foldl (fun n b => n * 256 + b.toNat) 0

/-- The last `width` big-endian bytes of `n`. -/
def ofNat : (width : Nat) → (n : Nat) → Bytes
  | 0, _ => []
  | width + 1, n => ofNat width (n / 256) ++ [UInt8.ofNat n]

@[simp] theorem length_ofNat (width n : Nat) : (ofNat width n).length = width := by
  induction width generalizing n with
  | zero => rfl
  | succ w ih => simp [ofNat, ih]

@[simp] theorem toNat_append_singleton (bytes : Bytes) (b : UInt8) :
    toNat (bytes ++ [b]) = toNat bytes * 256 + b.toNat := by
  simp [toNat]

/-- How many numbers `width` bytes can spell. -/
def capacity (width : Nat) : Nat := Nat.pow 256 width

theorem capacity_succ (width : Nat) : capacity (width + 1) = capacity width * 256 := rfl

/-- Big-endian bytes that are wide enough spell the number they were made of. -/
theorem toNat_ofNat {width n : Nat} (h : n < capacity width) : toNat (ofNat width n) = n := by
  induction width generalizing n with
  | zero =>
    have : n = 0 := Nat.lt_one_iff.1 h
    subst this; rfl
  | succ w ih =>
    have hq : n / 256 < capacity w := by
      rw [Nat.div_lt_iff_lt_mul (by decide), ← capacity_succ]
      exact h
    simp only [ofNat, toNat_append_singleton, ih hq, UInt8.toNat_ofNat']
    omega

/-- The big-endian bytes of `n` without leading zero bytes; `n` has to fit in 32 bytes. -/
def minimal (n : Nat) : Bytes := (ofNat 32 n).dropWhile (· == 0)

end Bytes

/-- A byte string of exactly `width` bytes. -/
structure FixedBytes (width : Nat) where
  toBytes : Bytes
  length_toBytes : toBytes.length = width
deriving DecidableEq

namespace FixedBytes

variable {width : Nat}

@[ext] theorem ext {a b : FixedBytes width} (h : a.toBytes = b.toBytes) : a = b := by
  cases a; cases b; cases h; rfl

/-- The bytes as a value of width `width`, if there are that many. -/
def ofBytes? (width : Nat) (bytes : Bytes) : Option (FixedBytes width) :=
  if h : bytes.length = width then some ⟨bytes, h⟩ else none

theorem ofBytes?_eq_some_iff {bytes : Bytes} {a : FixedBytes width} :
    ofBytes? width bytes = some a ↔ bytes = a.toBytes := by
  constructor
  · intro h
    unfold ofBytes? at h
    split at h
    · cases h; rfl
    · cases h
  · rintro rfl
    simp [ofBytes?, a.length_toBytes]

@[simp] theorem ofBytes?_toBytes (a : FixedBytes width) : ofBytes? width a.toBytes = some a :=
  ofBytes?_eq_some_iff.2 rfl

/-- The last `width` big-endian bytes of `n`. -/
def ofNat (width n : Nat) : FixedBytes width := ⟨Bytes.ofNat width n, Bytes.length_ofNat width n⟩

/-- The number that the bytes spell, most significant byte first. -/
def toNat (a : FixedBytes width) : Nat := Bytes.toNat a.toBytes

/-- Every byte is zero. -/
def zero (width : Nat) : FixedBytes width := ⟨List.replicate width 0, List.length_replicate⟩

instance : Inhabited (FixedBytes width) := ⟨zero width⟩

end FixedBytes

/-- An account: twenty bytes. -/
abbrev Address := FixedBytes 20

/-- A Keccak-256 digest, or anything else that is named by one. -/
abbrev Hash := FixedBytes 32

end NftExchange
