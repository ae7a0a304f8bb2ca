import NftExchange.Text.Unprintable

/-!
# Quoted text

How a message shows a text that it speaks about: between quotes, with the quote, the backslash
and whatever would not be visible written as escapes. A single character stands between
apostrophes and escapes the apostrophe in place of the quote.
-/

namespace NftExchange.Text

/-- The digits of a code point in an escape: lower-case hexadecimal without leading zeros. -/
def codePointDigits (c : Char) : String := String.ofList (Nat.toDigits 16 c.toNat)

/-- One character inside quotes of the kind `quote`. -/
def escaped (quote : Char) (c : Char) : String :=
  match c with
  | '\x00' => "\\0"
  | '\t' => "\\t"
  | '\n' => "\\n"
  | '\r' => "\\r"
  | '\\' => "\\\\"
  | c =>
    if c == quote then String.ofList ['\\', c]
    else if isUnprintable c then "\\u\x7b" ++ codePointDigits c ++ "\x7d"
    else String.singleton c

/-- A text between quotes. -/
def quoted (text : String) : String :=
  "\"" ++ String.join (text.toList.map (escaped '"')) ++ "\""

/-- A character between apostrophes. -/
def quotedChar (c : Char) : String := "'" ++ escaped '\'' c ++ "'"

end NftExchange.Text
