import NftExchange.Hex

/-!
# Tables of characters

Some properties of characters follow no rule and are given by tables. A table is kept as text:
rows that end in semicolons, each with numbers in hexadecimal. The first number of a row is a code
point, the second says how many of the code points after it the row is about as well, and the
others are what the row says about them.
-/

namespace NftExchange.Text

/-- Splits a list before every element that `separates`, which is left out; there is always one
part at least. -/
def parts {α : Type} (separates : α → Bool) : List α → List (List α)
  | [] => [[]]
  | a :: as =>
    if separates a then [] :: parts separates as
    else
      match parts separates as with
      | [] => [[a]]
      | part :: rest => (a :: part) :: rest

/-- The number of hexadecimal digits. -/
def hexNumber (digits : Bytes) : Nat :=
  digits.foldl (fun n b => n * 16 + (Hex.value? b).getD 0) 0

/-- The numbers in the rows of a line. -/
def numberRows (line : String) : List (List Nat) :=
  (parts (· == 0x3b) (Bytes.ofText line)).dropLast.map fun row =>
    (parts (· == 0x20) row).map hexNumber

/-- What a table says about the characters from `first` to `last`. -/
structure Row where
  first : Nat
  last : Nat
  values : List Nat

namespace Row

/-- The row with the given numbers. -/
def ofNumbers? : List Nat → Option Row
  | first :: more :: values => some ⟨first, first + more, values⟩
  | _ => none

/-- Whether the row is about a character. -/
def covers (row : Row) (c : Char) : Bool := row.first ≤ c.toNat && c.toNat ≤ row.last

end Row

/-- The rows of a table. -/
def rows (lines : List String) : List Row :=
  (lines.flatMap numberRows).filterMap Row.ofNumbers?

/-- The row of a table about a character. -/
def row? (table : List Row) (c : Char) : Option Row := table.find? (·.covers c)

end NftExchange.Text
