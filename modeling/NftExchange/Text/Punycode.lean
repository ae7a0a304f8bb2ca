import NftExchange.Bytes

/-!
# Punycode

A label with characters beyond ASCII has an ASCII form: its ASCII characters, a hyphen, and digits
in base 36 that tell which characters are inserted and where. `decode?` gives the label of such a
form.
-/

namespace NftExchange.Text.Punycode

/-- The value of a digit; the letters come before the figures. -/
def digit? (c : Char) : Option Nat :=
  if c.isLower then some (c.toNat - 'a'.toNat)
  else if c.isDigit then some (c.toNat - '0'.toNat + 26)
  else none

/-- How far the reading of insertions has come. -/
structure State where
  /-- The label so far. -/
  label : List Char
  /-- The code point that was inserted last. -/
  codePoint : Nat := 0x80
  /-- Where the next insertion is counted from. -/
  index : Nat := 0
  bias : Nat := 72
  /-- Whether nothing is inserted yet. -/
  first : Bool := true
  /-- The value of the digits read of the present number. -/
  delta : Nat := 0
  /-- What the next digit counts for. -/
  weight : Nat := 1
  /-- Thirty-six times the place of the next digit. -/
  place : Nat := 36

/-- A digit below this is the last one of its number. -/
def State.threshold (s : State) : Nat := max 1 (min 26 (s.place - s.bias))

/-- Divides a distance until it is small; `scale` grows with every division. -/
def biasFrom (scale distance : Nat) : Nat :=
  if 455 < distance then biasFrom (scale + 36) (distance / 35)
  else scale + 36 * distance / (distance + 38)
termination_by distance
decreasing_by exact Nat.div_lt_self (by omega) (by omega)

/-- The bias after an insertion at a distance into a label that is then `length` long. -/
def nextBias (first : Bool) (distance length : Nat) : Nat :=
  let damped := distance / (if first then 700 else 2)
  biasFrom 0 (damped + damped / length)

/-- Inserts the character that the present number, now `delta`, stands for. -/
def State.insert (s : State) (delta : Nat) : Option State :=
  let length := s.label.length + 1
  let codePoint := s.codePoint + (s.index + delta) / length
  let index := (s.index + delta) % length
  if codePoint.isValidChar then
    some {
      label := s.label.insertIdx index (Char.ofNat codePoint)
      codePoint
      index := index + 1
      bias := nextBias s.first delta length
      first := false }
  else none

/-- Reads a digit. -/
def State.read (s : State) (c : Char) : Option State := do
  let digit ← digit? c
  let delta := s.delta + digit * s.weight
  if digit < s.threshold then s.insert delta
  else
    return { s with
      delta, weight := s.weight * (36 - s.threshold), place := s.place + 36 }

/-- Splits a form at its last hyphen, if that is not the first character. -/
def splitForm (form : List Char) : List Char × List Char :=
  let digits := (form.reverse.takeWhile (· != '-')).reverse
  let label := form.take (form.length - digits.length - 1)
  if label.isEmpty then ([], form) else (label, digits)

/-- The label with at least one inserted character whose ASCII form this is. -/
def decode? (form : List Char) : Option (List Char) := do
  let (label, digits) := splitForm form
  let s ← digits.foldlM State.read { label }
  if s.first || s.place != 36 then none else some s.label

end NftExchange.Text.Punycode
