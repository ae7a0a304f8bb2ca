/-!
# Blank space

The characters with the property `White_Space`, and texts without them at either end.
-/

namespace NftExchange.Text

/-- Whether a character is white space. -/
def isBlank (c : Char) : Bool :=
  let n := c.toNat
  (0x9 ≤ n && n ≤ 0xd) || n == 0x20 || n == 0x85 || n == 0xa0 || n == 0x1680
    || (0x2000 ≤ n && n ≤ 0x200a) || n == 0x2028 || n == 0x2029 || n == 0x202f || n == 0x205f
    || n == 0x3000

/-- A text without the white space around it. -/
def trimmed (text : String) : String :=
  String.ofList ((text.toList.dropWhile isBlank).reverse.dropWhile isBlank).reverse

/-- What follows `lead` in a text that starts with it. -/
def dropLead? (lead text : String) : Option String :=
  if lead.toList.isPrefixOf text.toList then some (String.ofList (text.toList.drop lead.length))
  else none

/-- A text without one leading `0x`, if it has one. -/
def withoutHexMark (text : String) : String := (dropLead? "0x" text).getD text

end NftExchange.Text
