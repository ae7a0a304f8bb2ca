import NftExchange.Decimal.Shortest
import NftExchange.Toml.Value

/-!
# Bare values in TOML

Truth values, numbers and points in time stand without quotes. They are told apart by their text:
`Toml.ofBare?` takes the whole of it.
-/

namespace NftExchange.Toml

/-- Whether a character can be part of a bare value. -/
def isBare (c : Char) : Bool :=
  c.isAlphanum || c == '_' || c == '+' || c == '-' || c == '.' || c == ':'

/-! ## Numbers

A whole number may have a sign, a base and underscores between its digits, and has to fit in 64
bits. A number with a fraction or an exponent is only recognised, since no configuration holds one.
-/

/-- The sign in front of a number, and the rest; true means negative. -/
def splitSign : List Char → Bool × List Char
  | '+' :: cs => (false, cs)
  | '-' :: cs => (true, cs)
  | cs => (false, cs)

/-- Digits that may be grouped by single underscores between two of them; the digits alone. -/
def grouped? (isDigit : Char → Bool) : List Char → Option (List Char)
  | [] => none
  | [c] => if isDigit c then some [c] else none
  | c :: '_' :: cs => if isDigit c then (grouped? isDigit cs).map (c :: ·) else none
  | c :: d :: cs => if isDigit c then (grouped? isDigit (d :: cs)).map (c :: ·) else none

/-- Grouped decimal digits without a zero in front of others. -/
def wholePart? (cs : List Char) : Option (List Char) := do
  let digits ← grouped? Char.isDigit cs
  if digits.length > 1 ∧ digits.head? = some '0' then none else some digits

/-- The value of a digit of either case. -/
def digitValue (c : Char) : Nat :=
  if c.isDigit then c.toNat - '0'.toNat else c.toLower.toNat - 'a'.toNat + 10

/-- The number that digits denote in a base. -/
def ofDigits (base : Nat) (digits : List Char) : Nat :=
  digits.foldl (fun n c => n * base + digitValue c) 0

/-- The number without sign that grouped digits denote in a base. -/
def radix? (base : Nat) (cs : List Char) : Option Int :=
  (grouped? (fun c => (c.isDigit || c.isAlpha) && digitValue c < base) cs).map
    fun digits => (ofDigits base digits : Int)

/-- A decimal number with a sign. -/
def decimal? (cs : List Char) : Option Int := do
  let (negative, cs) := splitSign cs
  let n : Int := ofDigits 10 (← wholePart? cs)
  return if negative then -n else n

/-- The exponent of a number, zero if there is none. -/
def exponent? : Option (List Char) → Option Int
  | none => some 0
  | some cs => do
    let (shrinks, cs) := splitSign cs
    let n : Int := ofDigits 10 (← grouped? Char.isDigit cs)
    return if shrinks then -n else n

/-- A whole number; it has to fit in 64 bits with sign. -/
def integer? (cs : List Char) : Option Int := do
  let n ← match cs with
    | '0' :: 'x' :: cs => radix? 16 cs
    | '0' :: 'o' :: cs => radix? 8 cs
    | '0' :: 'b' :: cs => radix? 2 cs
    | cs => decimal? cs
  if Int64.minValue.toInt ≤ n ∧ n ≤ Int64.maxValue.toInt then some n else none

/-- Whether the number of `digits`, scaled by a power of ten, is below the range's upper end when
it is rounded to floating point. -/
def isFinite (digits : List Char) (exponent : Int) : Bool :=
  let significant := digits.dropWhile (· == '0')
  let magnitude : Int := significant.length + exponent
  if significant.isEmpty ∨ magnitude ≤ 308 then true
  else if magnitude > 400 then false
  else
    (Decimal.Scientific.mk (ofDigits 10 significant) exponent).nearest.isSome

/-- Splits a text at the first character that `stops`; the second part lacks that character. -/
def splitAtFirst (stops : Char → Bool) (cs : List Char) : List Char × Option (List Char) :=
  match cs.dropWhile fun c => !stops c with
  | [] => (cs, none)
  | _ :: rest => (cs.takeWhile fun c => !stops c, some rest)

/-- Whether a text is a number with a fraction or an exponent; it must not exceed the range. -/
def isFloat (cs : List Char) : Bool :=
  let (negative, unsigned) := splitSign cs
  let (mantissa, exponent) := splitAtFirst (fun c => c == 'e' || c == 'E') unsigned
  let (whole, fraction) := splitAtFirst (· == '.') mantissa
  let valid := do
    let whole ← wholePart? whole
    let fraction ← match fraction with
      | some cs => grouped? Char.isDigit cs
      | none => if exponent.isSome then some [] else none
    let exponent ← exponent? exponent
    return negative || isFinite (whole ++ fraction) (exponent - fraction.length)
  valid == some true

/-- Whether a text is an infinity or no number. -/
def isSpecialFloat (cs : List Char) : Bool :=
  let unsigned := String.ofList (splitSign cs).2
  unsigned == "inf" || unsigned == "nan"

/-! ## Points in time

Dates and times of day are recognised by their form and checked against the calendar. Like
floating-point numbers they have no value here. -/

/-- The number of two digits. -/
def twoDigits? (a b : Char) : Option Nat :=
  if a.isDigit && b.isDigit then some (ofDigits 10 [a, b]) else none

/-- Whether two digits denote a number from `low` to `high`. -/
def isBetween (low high : Nat) (a b : Char) : Bool :=
  match twoDigits? a b with
  | some n => low ≤ n && n ≤ high
  | none => false

/-- The number of days of a month. -/
def daysIn (year month : Nat) : Nat :=
  if month = 2 then
    if year % 4 = 0 ∧ (year % 100 ≠ 0 ∨ year % 400 = 0) then 29 else 28
  else if month = 4 ∨ month = 6 ∨ month = 9 ∨ month = 11 then 30
  else 31

/-- Whether a text is a day of the calendar. -/
def isDate : List Char → Bool
  | [y₁, y₂, y₃, y₄, '-', m₁, m₂, '-', d₁, d₂] =>
    [y₁, y₂, y₃, y₄].all Char.isDigit && isBetween 1 12 m₁ m₂
      && isBetween 1 (daysIn (ofDigits 10 [y₁, y₂, y₃, y₄]) (ofDigits 10 [m₁, m₂])) d₁ d₂
  | _ => false

/-- What follows a time of day, which may have a fraction of a second. -/
def afterTime? : List Char → Option (List Char)
  | h₁ :: h₂ :: ':' :: m₁ :: m₂ :: ':' :: s₁ :: s₂ :: rest =>
    if isBetween 0 23 h₁ h₂ && isBetween 0 59 m₁ m₂ && isBetween 0 60 s₁ s₂ then
      match rest with
      | '.' :: c :: rest => if c.isDigit then some (rest.dropWhile Char.isDigit) else none
      | rest => some rest
    else none
  | _ => none

/-- Whether a text is the distance from universal time. -/
def isOffset : List Char → Bool
  | ['Z'] | ['z'] => true
  | [sign, h₁, h₂, ':', m₁, m₂] =>
    (sign == '+' || sign == '-') && isBetween 0 23 h₁ h₂ && isBetween 0 59 m₁ m₂
  | _ => false

/-- Whether a text is a date, a time of day, or both; only both together can have an offset. -/
def isDatetime (cs : List Char) : Bool :=
  if isDate (cs.take 10) then
    match cs.drop 10 with
    | [] => true
    | c :: cs =>
      (c == 'T' || c == 't' || c == ' ') &&
        match afterTime? cs with
        | some rest => rest.isEmpty || isOffset rest
        | none => false
  else afterTime? cs == some []

/-! ## All bare values

A bare text is a truth value, a float, a point in time or a whole number, tried in this order. -/

/-- The value of a bare text. -/
def ofBare? (cs : List Char) : Option Toml :=
  let text := String.ofList cs
  if text = "true" then some (.boolean true)
  else if text = "false" then some (.boolean false)
  else if isSpecialFloat cs || isFloat cs then some (.float text)
  else if isDatetime cs then some (.datetime text)
  else (integer? cs).map .integer

end NftExchange.Toml
