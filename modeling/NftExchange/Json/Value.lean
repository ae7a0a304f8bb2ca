import NftExchange.Decimal.Digits

/-!
# JSON values

The values of JSON, their compact text, and the order in which an object of unknown shape keeps
its members. A number is its numeral, so that no digit is lost.
-/

namespace NftExchange

/-- A number as it is written: ASCII digits before the point, after it, and in the exponent. -/
structure Numeral where
  negative : Bool
  whole : Bytes
  /-- The digits after the point, if there is a point. -/
  fraction : Option Bytes
  /-- The sign of the exponent and its digits, if there is one; true means negative. -/
  exponent : Option (Bool × Bytes)
deriving DecidableEq

namespace Numeral

/-- The numeral of a natural number. -/
def ofNat (n : Nat) : Numeral := ⟨false, Decimal.ofNat n, none, none⟩

/-- Digits as text. -/
def digitText (digits : Bytes) : String :=
  String.ofList (digits.map fun b => Char.ofNat b.toNat)

/-- The text of a numeral; an exponent always has a sign. -/
def text (n : Numeral) : String :=
  let sign := if n.negative then "-" else ""
  let fraction := match n.fraction with
    | some digits => "." ++ digitText digits
    | none => ""
  let exponent := match n.exponent with
    | some (true, digits) => "e-" ++ digitText digits
    | some (false, digits) => "e+" ++ digitText digits
    | none => ""
  sign ++ digitText n.whole ++ fraction ++ exponent

/-- Whether the numeral has neither fraction nor exponent. -/
def isInteger (n : Numeral) : Bool := n.fraction.isNone && n.exponent.isNone

/-- The natural number that the numeral is, if it is plain digits. -/
def toNat? (n : Numeral) : Option Nat :=
  if n.isInteger && !n.negative then some (Decimal.toNat n.whole) else none

end Numeral

/-- A JSON value. The members of an object stand in the order in which they are written. -/
inductive Json where
  | null
  | bool (b : Bool)
  | num (n : Numeral)
  | str (s : String)
  | arr (items : List Json)
  | obj (members : List (String × Json))

namespace Json

instance : Inhabited Json := ⟨null⟩

/-- The number `n`. -/
def ofNat (n : Nat) : Json := .num (.ofNat n)

/-- One character of a string: quote, backslash and controls are escaped, all else is raw. -/
def escape (c : Char) : String :=
  match c with
  | '"' => "\\\""
  | '\\' => "\\\\"
  | '\x08' => "\\b"
  | '\x0c' => "\\f"
  | '\n' => "\\n"
  | '\r' => "\\r"
  | '\t' => "\\t"
  | c =>
    if c.toNat < 0x20 then
      "\\u00" ++ String.ofList [Nat.digitChar (c.toNat / 16), Nat.digitChar (c.toNat % 16)]
    else String.singleton c

/-- The text of a string value. -/
def renderString (s : String) : String := "\"" ++ String.join (s.toList.map escape) ++ "\""

mutual

/-- The compact text of a value. -/
def render : Json → String
  | null => "null"
  | bool true => "true"
  | bool false => "false"
  | num n => n.text
  | str s => renderString s
  | arr items => "[" ++ renderItems items ++ "]"
  | obj members => "\x7b" ++ renderMembers members ++ "\x7d"

/-- The items of an array with commas between them. -/
def renderItems : List Json → String
  | [] => ""
  | [item] => render item
  | item :: rest => render item ++ "," ++ renderItems rest

/-- The members of an object with commas between them. -/
def renderMembers : List (String × Json) → String
  | [] => ""
  | [(key, value)] => renderString key ++ ":" ++ render value
  | (key, value) :: rest => renderString key ++ ":" ++ render value ++ "," ++ renderMembers rest

end

/-- Puts a member into members that are sorted by key; a member with the same key is replaced. -/
def insertMember (key : String) (value : Json) : List (String × Json) → List (String × Json)
  | [] => [(key, value)]
  | (k, v) :: rest =>
    if key < k then (key, value) :: (k, v) :: rest
    else if key = k then (key, value) :: rest
    else (k, v) :: insertMember key value rest

/-- The members sorted by key; of members with the same key the last one stays. -/
def sortMembers (members : List (String × Json)) : List (String × Json) :=
  members.foldl (fun sorted (key, value) => insertMember key value sorted) []

mutual

/-- The value with the members of every object sorted by key. -/
def sorted : Json → Json
  | arr items => arr (sortedItems items)
  | obj members => obj (sortMembers (sortedMembers members))
  | value => value

/-- The items, each with its objects sorted. -/
def sortedItems : List Json → List Json
  | [] => []
  | item :: rest => sorted item :: sortedItems rest

/-- The members in their order, each value with its objects sorted. -/
def sortedMembers : List (String × Json) → List (String × Json)
  | [] => []
  | (key, value) :: rest => (key, sorted value) :: sortedMembers rest

end

end Json

end NftExchange
