import NftExchange.Hex.Marked
import NftExchange.Json.Codec

/-!
# Quantities in JSON

A quantity is written as hexadecimal text. It is read from text in hexadecimal or decimal and from
numbers. Straight from text a number has to be plain digits. From a value it comes as a word of at
most 128 bits, as a floating-point number or by its text, whichever loses nothing: an integer stays
what it is on each of these ways, and a number with a fraction or an exponent also counts if it is
the shortest text of a floating-point number and whole.
-/

namespace NftExchange

namespace Quantity

/-- The hexadecimal digits of a quantity after its mark; a second `0x` is passed over and no
digits denote zero. -/
def ofHexDigits (digits : Bytes) : Except JsonError UInt256 :=
  let digits := match digits with
    | 0x30 :: 0x78 :: rest => rest
    | _ => digits
  match (if digits.length > 64 then none else Hex.toNat? digits) with
  | some n => .ok (BitVec.ofNat 256 n)
  | none => .error .hexQuantity

/-- The quantity of a text: hexadecimal after a mark, otherwise decimal, where no digits denote
zero. -/
def ofText (text : String) : Except JsonError UInt256 :=
  match Hex.afterMark? text with
  | some digits => ofHexDigits digits
  | none =>
    match (Decimal.parse? (Bytes.ofText text)).bind UInt256.ofNat? with
    | some a => .ok a
    | none => .error .decimalQuantity

/-- The quantity that a natural number is. -/
def ofNat (n : Nat) : Except JsonError UInt256 :=
  match UInt256.ofNat? n with
  | some a => .ok a
  | none => .error (.wideQuantity (toString n))

/-- The quantity of a numeral in text: plain digits only. -/
def ofPlainNumeral (n : Numeral) : Except JsonError UInt256 :=
  match n.toNat? with
  | some value => ofNat value
  | none => .error .mismatch

/-- The quantity of a floating-point number, which has to be whole and not below zero; it is read
from its positional text. -/
def ofFloatingPoint (negative : Bool) (x : Decimal.FloatingPoint) : Except JsonError UInt256 :=
  if negative ∧ x.units ≠ 0 ∨ ¬ x.isWhole then .error .mismatch
  else ofPlainNumeral (.positional negative x.upper)

/-- The quantity of a numeral in a value. A word is taken as it is, where minus zero is zero; any
other number goes through floating point if nothing is lost by it, and otherwise counts by its
text. -/
def ofNumeral (n : Numeral) : Except JsonError UInt256 :=
  if n.isWord then
    if n.negative then (if Decimal.toNat n.whole = 0 then .ok 0 else .error .mismatch)
    else ofNat (Decimal.toNat n.whole)
  else
    match n.floatingPoint? with
    | some x => ofFloatingPoint n.negative x
    | none => ofPlainNumeral n

/-- The quantity that an object with the number key carries as text. -/
def ofCarriedText (text : String) : Except JsonError UInt256 :=
  match Bytes.ofText text with
  | [] => .error .mismatch
  | digits =>
    match Decimal.parse? digits with
    | some value =>
      match UInt256.ofNat? value with
      | some a => .ok a
      | none => .error (.wideQuantity text)
    | none => .error .mismatch

/-- Reads an object with the number key, after its opening brace. -/
def readCarried : Json.Reader UInt256 := fun input => do
  match ← Json.nextItem 0x7d true input with
  | .closed _ => .error .mismatch
  | .item input =>
    let (key, rest) ← Json.readKey Json.exactText input
    if key ≠ Json.numberKey then .error .mismatch
    else
      let (text, rest) ← Codec.string.read 0 rest
      let a ← ofCarriedText text
      match Json.skipBlank rest with
      | 0x7d :: rest => return (a, rest)
      | _ => .error .malformed

/-- The quantity of an object among values: never one, though the text under a leading number key
is looked at first. -/
def ofMembers : List (String × Json) → Except JsonError UInt256
  | (key, .str text) :: _ =>
    if key = Json.numberKey then do
      let _ ← ofCarriedText text
      .error .mismatch
    else .error .mismatch
  | _ => .error .mismatch

end Quantity

/-- Quantities. -/
def Codec.quantity : Codec UInt256 where
  encode a := .str (Hex.quantity a.toNat)
  read depth input :=
    match Json.skipBlank input, depth with
    | 0x22 :: rest, _ => do
      let (text, rest) ← Json.stringAfterQuote Json.exactText rest
      return (← Quantity.ofText text, rest)
    | 0x7b :: _, 0 => .error .tooDeep
    | 0x7b :: rest, _ => Quantity.readCarried rest
    | b :: rest, _ =>
      if Json.startsNumber b then do
        let (n, rest) ← Json.readNumeral (b :: rest)
        return (← Quantity.ofPlainNumeral n, rest)
      else .error .mismatch
    | [], _ => .error .mismatch
  decode
    | .str text => Quantity.ofText text
    | .num n => Quantity.ofNumeral n
    | .obj members => Quantity.ofMembers members
    | _ => .error .mismatch

end NftExchange
