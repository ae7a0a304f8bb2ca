import NftExchange.Decimal.Shortest
import NftExchange.Json.Read

/-!
# Numerals that went through floating point

A value that is read from another value is made anew, its numbers included. An integer of at most
128 bits keeps its text, except that minus zero becomes zero. Any other number goes through
floating point if nothing is lost by it, that is, if its text is one of the two shortest texts of
a floating-point number: the positional one or the one with an exponent. It then gets the text of
`Numeral.floating`. All other numbers keep their texts.
-/

namespace NftExchange

namespace Numeral

/-- The number without its sign; an exponent of more than three digits is out of range. -/
def magnitude? (n : Numeral) : Option Decimal.Scientific :=
  let fraction := n.fraction.getD []
  let (shrinks, exponentDigits) := n.exponent.getD (false, [])
  let exponent : Int := Decimal.toNat exponentDigits
  if exponentDigits.length > 3 then none
  else
    some ⟨Decimal.toNat (n.whole ++ fraction),
      (if shrinks then -exponent else exponent) - fraction.length⟩

/-- The numeral with all digits of a decimal and without an exponent. -/
def positional (negative : Bool) (d : Decimal.Scientific) : Numeral :=
  let digits := Decimal.ofNat d.digits ++ List.replicate d.exponent.toNat 0x30
  let places := (-d.exponent).toNat
  let padded := List.replicate (places + 1 - digits.length) 0x30 ++ digits
  let whole := padded.length - places
  ⟨negative, padded.take whole, if places = 0 then none else some (padded.drop whole), none⟩

/-- The numeral of a floating-point number with a decimal as its shortest: positional with at
least one decimal place from `0.00001` up to sixteen digits before the point, otherwise with one
digit before the point and an exponent. -/
def floating (negative : Bool) (d : Decimal.Scientific) : Numeral :=
  let digits := Decimal.ofNat d.digits
  let point := digits.length + d.exponent
  if -5 < point ∧ point ≤ 16 then
    let n := positional negative d
    { n with fraction := some (n.fraction.getD [0x30]) }
  else
    ⟨negative, digits.take 1, if digits.length = 1 then none else some (digits.drop 1),
      some (point < 1, Decimal.ofNat (point - 1).natAbs)⟩

/-- The floating-point number that is nearest, if the numeral is one of that number's two texts. The
positional text has the upper of two decimals that are equally short and near, the other text the
even one. -/
def floatingPoint? (n : Numeral) : Option Decimal.FloatingPoint := do
  let x ← Decimal.FloatingPoint.ofUnits? (← (← n.magnitude?).nearest)
  if n = floating n.negative x.even ∨ n = positional n.negative x.upper then some x else none

/-- Whether the numeral is an integer of at most 128 bits, one of them the sign if it is
negative. -/
def isWord (n : Numeral) : Bool :=
  let limit := Bytes.capacity 16
  let whole := Decimal.toNat n.whole
  n.isInteger && if n.negative then whole ≤ limit / 2 else whole < limit

/-- The numeral of the same number in a value that is made anew. -/
def renewed (n : Numeral) : Numeral :=
  if n.isWord then
    if Decimal.toNat n.whole = 0 then ofNat 0 else n
  else
    match n.floatingPoint? with
    | some x => floating n.negative x.even
    | none => n

end Numeral

namespace Json

mutual

/-- The value that is read from a value of any shape. An object with the number key in front is
refused: it has more members than a number needs. -/
def renewed : Json → Except JsonError Json
  | num n => .ok (num n.renewed)
  | arr items => arr <$> renewedItems items
  | obj members =>
    if (members.head?.map Prod.fst) = some numberKey then .error .mismatch
    else obj <$> renewedMembers members
  | value => .ok value

/-- The items, each read anew. -/
def renewedItems : List Json → Except JsonError (List Json)
  | [] => .ok []
  | item :: rest => do
    let item ← renewed item
    return item :: (← renewedItems rest)

/-- The members in their order, each value read anew. -/
def renewedMembers : List (String × Json) → Except JsonError (List (String × Json))
  | [] => .ok []
  | (key, value) :: rest => do
    let value ← renewed value
    return (key, value) :: (← renewedMembers rest)

end

end Json

end NftExchange
