/-!
# Shortest decimals

A number that a binary floating-point format cannot hold is rounded to one that it can, and is
then written with the fewest digits that round back to it. Floating-point numbers are counted in
units of the least of them, `2 ^ -1074`, so that both steps are exact arithmetic on natural
numbers: `nearest` rounds a quotient to 53 significant bits, half to even, and `shortest` finds
the neighbour on the coarsest decimal grid that still rounds to the same number.
-/

namespace NftExchange.Decimal

/-- The number `digits * 10 ^ exponent`. -/
structure Scientific where
  digits : Nat
  exponent : Int
deriving DecidableEq

/-! ## Rounding to floating point

A decimal is rounded to the nearest double, with ties to the even one. Doubles are counted in units
of the smallest of them, so they are natural numbers here. -/

/-- The number of bits of a significand. -/
def precision : Nat := 53

/-- The number of binary places of a unit. -/
def unitPlaces : Nat := 1074

/-- The exponent of the unit in the last place of `n`. -/
def lastPlace (n : Nat) : Nat := n.log2 + 1 - precision

/-- `a / b` rounded to nearest, half to even. -/
def roundQuotient (a b : Nat) : Nat :=
  let quotient := a / b
  let twice := 2 * (a % b)
  if twice < b ∨ (twice = b ∧ quotient % 2 = 0) then quotient else quotient + 1

/-- The floating-point number nearest to `a / b`, in units, if `a / b` is in range. -/
def nearest (a b : Nat) : Option Nat :=
  let units := a <<< unitPlaces
  let place := lastPlace (units / b)
  let f := roundQuotient units (b <<< place) <<< place
  if f.log2 < 1024 + unitPlaces then some f else none

/-- The floating-point number nearest to a decimal, in units, if the decimal is in range. -/
def Scientific.nearest (d : Scientific) : Option Nat :=
  Decimal.nearest (d.digits * Nat.pow 10 d.exponent.toNat) (Nat.pow 10 (-d.exponent).toNat)

/-! ## The fewest digits

The shortest decimal that rounds to a double is searched for on coarser grids first. Where two
decimals of one grid are equally near, writers differ in the one they choose, so the rule is a
parameter. -/

/-- Which of two decimals that are equally near comes first. -/
inductive Tie where
  | even
  | upper
deriving DecidableEq

/-- The multiples of `10 ^ exponent` on either side of `f` units, the nearer first. -/
def neighbours (tie : Tie) (f : Nat) (exponent : Int) : List Scientific :=
  let units := f * Nat.pow 10 (-exponent).toNat
  let step := Nat.pow 10 exponent.toNat <<< unitPlaces
  let low := units / step
  let twice := 2 * (units % step)
  if twice < step ∨ (twice = step ∧ tie = .even ∧ low % 2 = 0) then
    [⟨low, exponent⟩, ⟨low + 1, exponent⟩]
  else [⟨low + 1, exponent⟩, ⟨low, exponent⟩]

/-- An exponent of ten that `f` units do not reach; the fraction is the logarithm of two. -/
def exponentAbove (f : Nat) : Int := ((f.log2 : Int) - unitPlaces) * 30103 / 100000 + 2

/-- How many decimal grids are tried: seventeen digits always suffice. -/
def gridCount : Nat := 24

/-- The decimal with the fewest digits that rounds to `f` units; of two such decimals the
nearer. -/
def shortest (tie : Tie) (f : Nat) : Option Scientific :=
  if f = 0 then some ⟨0, 0⟩
  else
    (List.range gridCount).findSome? fun (k : Nat) =>
      (neighbours tie f (exponentAbove f - k)).find? fun d =>
        d.digits ≠ 0 && d.nearest == some f

/-! ## Floating-point numbers

A double as it is found in a parsed value, together with both of its shortest decimals. -/

/-- A floating-point number without its sign, in units, and its two shortest decimals, which differ
only where two decimals are equally short and near. -/
structure FloatingPoint where
  units : Nat
  even : Scientific
  upper : Scientific

namespace FloatingPoint

/-- The floating-point number of so many units. -/
def ofUnits? (units : Nat) : Option FloatingPoint := do
  return ⟨units, ← shortest .even units, ← shortest .upper units⟩

/-- Whether the number has no fraction. -/
def isWhole (x : FloatingPoint) : Bool := x.units % (1 <<< unitPlaces) == 0

end FloatingPoint

end NftExchange.Decimal
