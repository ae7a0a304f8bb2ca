import NftExchange.Bytes

/-!
# Decimal digits

Numbers written in ASCII digits, as byte strings: which bytes are digits, what they denote, and
how a number is written.
-/

namespace NftExchange.Decimal

/-- Whether a byte is an ASCII digit. -/
def isDigit (b : UInt8) : Bool := 48 ≤ b.toNat && b.toNat ≤ 57

/-- The number that digits denote; no digits denote zero. -/
def toNat (digits : Bytes) : Nat := digits.foldl (fun n b => n * 10 + (b.toNat - 48)) 0

/-- The digits of a number without leading zeros. -/
def ofNat (n : Nat) : Bytes := Bytes.ofText (toString n)

/-- The number that a text of digits denotes, if it holds nothing else; no digits denote zero. -/
def parse? (digits : Bytes) : Option Nat :=
  if digits.all isDigit then some (toNat digits) else none

/-- The number that a nonempty text of digits denotes; one `+` in front is allowed. -/
def parseSigned? (text : Bytes) : Option Nat :=
  let digits := match text with
    | 0x2b :: rest => rest
    | _ => text
  if digits.isEmpty then none else parse? digits

end NftExchange.Decimal
