import NftExchange.Curve.Scalar

/-!
# Points of the curve

The group of secp256k1, the curve `y² = x³ + 7` over the integers modulo `fieldSize`. A point is
kept as three field elements `(x, y, z)` that stand for `(x / z², y / z³)`, so that adding points
needs no division; `z = 0` is the neutral point.
-/

namespace NftExchange

/-- The prime below `2 ^ 256` modulo which coordinates are taken. -/
abbrev fieldSize : Nat := 0xfffffffffffffffffffffffffffffffffffffffffffffffffffffffefffffc2f

/-- A coordinate. -/
abbrev FieldElement := Fin fieldSize

/-- The coordinate that a number is modulo `fieldSize`. -/
def FieldElement.ofNat (n : Nat) : FieldElement := Fin.ofNat fieldSize n

/-- `a` to the power `e` modulo `n + 1`, by squaring. -/
def modularPower {n : Nat} (a : Fin (n + 1)) (e : Nat) : Fin (n + 1) :=
  if e = 0 then 1
  else
    let rest := modularPower (a * a) (e / 2)
    if e % 2 = 1 then a * rest else rest
termination_by e
decreasing_by omega

/-- The inverse modulo a prime: the power whose exponent is two less. -/
def modularInverse {n : Nat} (a : Fin (n + 1)) : Fin (n + 1) := modularPower a (n - 1)

/-- A point in coordinates scaled by `z`. -/
structure Point where
  x : FieldElement
  y : FieldElement
  z : FieldElement

namespace Point

/-- The neutral point. -/
def infinity : Point := ⟨1, 1, 0⟩

/-- The point with plain coordinates. -/
def ofAffine (x y : FieldElement) : Point := ⟨x, y, 1⟩

/-- The generator of the group. -/
def generator : Point :=
  ofAffine (.ofNat 0x79be667ef9dcbbac55a06295ce870b07029bfcdb2dce28d959f2815b16f81798)
    (.ofNat 0x483ada7726a3c4655da4fbfc0e1108a8fd17b448a68554199c47d08ffb10d4b8)

/-- A point added to itself. -/
def double (p : Point) : Point :=
  let xx := p.x * p.x
  let yy := p.y * p.y
  let yyyy := yy * yy
  let d := 2 * ((p.x + yy) * (p.x + yy) - xx - yyyy)
  let e := 3 * xx
  let x := e * e - 2 * d
  ⟨x, e * (d - x) - 8 * yyyy, 2 * p.y * p.z⟩

/-- The sum of two points. -/
def add (p q : Point) : Point :=
  if p.z = 0 then q
  else if q.z = 0 then p
  else
    let pzz := p.z * p.z
    let qzz := q.z * q.z
    let px := p.x * qzz
    let py := p.y * q.z * qzz
    let h := q.x * pzz - px
    let r := q.y * p.z * pzz - py
    if h = 0 then (if r = 0 then p.double else infinity)
    else
      let hh := h * h
      let hhh := h * hh
      let v := px * hh
      let x := r * r - hhh - 2 * v
      ⟨x, r * (v - x) - py * hhh, p.z * q.z * h⟩

/-- The point added to itself `k` times, for `k` below `2 ^ 256`; bits are taken from the top. -/
def smul (k : Nat) (p : Point) : Point :=
  ((List.range 256).reverse.map k.testBit).foldl
    (fun sum bit => if bit then sum.double.add p else sum.double) infinity

/-- The plain coordinates, except of the neutral point. -/
def toAffine? (p : Point) : Option (FieldElement × FieldElement) :=
  if p.z = 0 then none
  else
    let w := modularInverse p.z
    let ww := w * w
    some (p.x * ww, p.y * w * ww)

/-- The point with a given first coordinate whose second coordinate is odd or even as asked. -/
def lift? (x : FieldElement) (odd : Bool) : Option Point :=
  let square := x * x * x + 7
  let root := modularPower square ((fieldSize + 1) / 4)
  if root * root = square then
    some (ofAffine x (if (root.val % 2 == 1) == odd then root else -root))
  else none

end Point

end NftExchange
