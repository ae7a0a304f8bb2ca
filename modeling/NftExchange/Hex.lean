import NftExchange.Bytes
import NftExchange.Text.Quoted

/-!
# Hexadecimal

Two digits for each byte, the high one first. Writing uses lower case, reading takes either case
and names the first thing that is wrong. `decode_encode` says that what is written is read back.
-/

namespace NftExchange.Hex

/-- The digit of a number below sixteen, in lower case. -/
def digit (n : Nat) : Char :=
  if n < 10 then Char.ofNat (48 + n) else Char.ofNat (87 + n)

/-- The value of an ASCII digit of either case. -/
def value? (b : UInt8) : Option Nat :=
  if 48 ≤ b.toNat ∧ b.toNat ≤ 57 then some (b.toNat - 48)
  else if 97 ≤ b.toNat ∧ b.toNat ≤ 102 then some (b.toNat - 87)
  else if 65 ≤ b.toNat ∧ b.toNat ≤ 70 then some (b.toNat - 55)
  else none

/-- Whether a byte is an ASCII hexadecimal digit. -/
def isDigit (b : UInt8) : Bool := (value? b).isSome

/-- What can be wrong with hexadecimal text. -/
inductive Error where
  /-- The text has an odd number of bytes. -/
  | oddLength
  /-- The byte at a position is not a digit; it is the first such byte. -/
  | badDigit (byte : UInt8) (position : Nat)
deriving DecidableEq, Repr

/-- The wording of an error; a bad byte is shown as the Latin-1 character of its value. -/
def Error.message : Error → String
  | .oddLength => "Odd number of digits"
  | .badDigit byte position =>
    "Invalid character " ++ Text.quotedChar (Char.ofNat byte.toNat) ++ " at position "
      ++ toString position

/-- The digits of a byte string. -/
def encode (bytes : Bytes) : String :=
  String.ofList (bytes.flatMap fun b => [digit (b.toNat / 16), digit (b.toNat % 16)])

/-- Reads pairs of digits; `position` is where the text stands in the whole. -/
def decodePairs (position : Nat) : Bytes → Except Error Bytes
  | high :: low :: rest =>
    match value? high, value? low with
    | none, _ => .error (.badDigit high position)
    | _, none => .error (.badDigit low (position + 1))
    | some h, some l => (UInt8.ofNat (16 * h + l) :: ·) <$> decodePairs (position + 2) rest
  | _ => .ok []

/-- The bytes that a text of hexadecimal digits spells. The length is looked at first. -/
def decode (text : String) : Except Error Bytes :=
  let digits := Bytes.ofText text
  if digits.length % 2 = 1 then .error .oddLength else decodePairs 0 digits

/-- A digit is one byte, and that byte has the digit's value. -/
theorem utf8EncodeChar_digit (n : Nat) (h : n < 16) :
    ∃ b, String.utf8EncodeChar (digit n) = [b] ∧ value? b = some n := by
  refine ⟨UInt8.ofNat (digit n).toNat, ?_⟩
  revert n
  decide

theorem decodePairs_encode (bytes : Bytes) (position : Nat) :
    decodePairs position (Bytes.ofText (encode bytes)) = .ok bytes := by
  induction bytes generalizing position with
  | nil => rfl
  | cons b bs ih =>
    obtain ⟨h, hh, vh⟩ := utf8EncodeChar_digit (b.toNat / 16) (by have := b.toNat_lt; omega)
    obtain ⟨l, hl, vl⟩ := utf8EncodeChar_digit (b.toNat % 16) (by omega)
    -- the first two bytes of the text are the digits of `b`
    have split : Bytes.ofText (encode (b :: bs)) = h :: l :: Bytes.ofText (encode bs) := by
      simp only [encode, Bytes.ofText_ofList, List.flatMap_cons, List.cons_append,
        List.nil_append, hh, hl]
    have whole : UInt8.ofNat (16 * (b.toNat / 16) + b.toNat % 16) = b := by
      rw [Nat.div_add_mod]; exact UInt8.ofNat_toNat
    rw [split]
    simp only [decodePairs, vh, vl, ih, whole]
    rfl

theorem length_ofText_encode (bytes : Bytes) :
    (Bytes.ofText (encode bytes)).length = 2 * bytes.length := by
  induction bytes with
  | nil => rfl
  | cons b bs ih =>
    obtain ⟨h, hh, -⟩ := utf8EncodeChar_digit (b.toNat / 16) (by have := b.toNat_lt; omega)
    obtain ⟨l, hl, -⟩ := utf8EncodeChar_digit (b.toNat % 16) (by omega)
    have split : Bytes.ofText (encode (b :: bs)) = h :: l :: Bytes.ofText (encode bs) := by
      simp only [encode, Bytes.ofText_ofList, List.flatMap_cons, List.cons_append,
        List.nil_append, hh, hl]
    simp only [split, List.length_cons, ih]
    omega

/-- What is written is read back. -/
theorem decode_encode (bytes : Bytes) : decode (encode bytes) = .ok bytes := by
  have even : (Bytes.ofText (encode bytes)).length % 2 ≠ 1 := by
    rw [length_ofText_encode]; omega
  simp only [decode, if_neg even, decodePairs_encode]

end NftExchange.Hex
