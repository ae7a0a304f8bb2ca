import NftExchange.Hex.Marked

/-!
# Quoted text in TOML

Four ways to quote a text: with `"` or with `'`, on one line with one quote on either side or over
several lines with three. Between double quotes a backslash starts an escape; before the end of a
line it drops that end and all blanks that follow.

A quoted text is scanned in two steps: `raw` finds its end, and `resolve` checks its characters and
resolves the escapes. Line ends are single line feeds here.
-/

namespace NftExchange.Toml

/-- Takes a value off the front of the input. -/
abbrev Scanner (α : Type) := List Char → Option (α × List Char)

/-- Whether a character is a blank inside a line. -/
def isSpace (c : Char) : Bool := c == ' ' || c == '\t'

/-- Whether a character may stand for itself in a line. -/
def isVisible (c : Char) : Bool := c == '\t' || (' ' ≤ c && c != '\x7f')

/-- The input after a line end in front, if there is one. -/
def dropLineEnd : List Char → List Char
  | '\n' :: cs => cs
  | cs => cs

/-- The character of an escape of one letter. -/
def escapedChar? (c : Char) : Option Char :=
  match c with
  | 'b' => some '\x08'
  | 't' => some '\t'
  | 'n' => some '\n'
  | 'f' => some '\x0c'
  | 'r' => some '\r'
  | '"' => some '"'
  | '\\' => some '\\'
  | _ => none

/-- The character whose code point hexadecimal digits denote. -/
def charOfDigits? (digits : List Char) : Option Char := do
  let n ← Hex.toNat? (Bytes.ofText (String.ofList digits))
  if n.isValidChar then some (Char.ofNat n) else none

/-- A way to quote a text. -/
structure Quoting where
  quote : Char
  /-- A backslash starts an escape. -/
  escapes : Bool
  /-- The text may have several lines and stands between three quotes. -/
  long : Bool

namespace Quoting

/-- What stands before the closing quotes, and the rest. Up to two quotes right before the closing
three belong to the text. -/
def raw (q : Quoting) : Scanner (List Char)
  | [] => none
  | c :: cs =>
    if c = '\\' ∧ q.escapes then
      match cs with
      | [] => none
      | d :: cs => (raw q cs).map fun (text, rest) => (c :: d :: text, rest)
    else if c = q.quote ∧ !q.long then some ([], cs)
    else if c = q.quote ∧ [q.quote, q.quote].isPrefixOf cs then
      let extra := ((cs.drop 2).takeWhile (· == q.quote)).take 2
      some (extra, cs.drop (2 + extra.length))
    else (raw q cs).map fun (text, rest) => (c :: text, rest)

/-- Whether only blanks come before the end of the line. -/
def endsLine (cs : List Char) : Bool := (cs.dropWhile isSpace).head? == some '\n'

/-- The text that raw text stands for. Blanks and line ends are dropped while `skips` holds, which
is after a backslash at the end of a line. -/
def resolve (q : Quoting) : (skips : Bool) → List Char → Option (List Char)
  | _, [] => some []
  | skips, c :: cs =>
    if skips && (isSpace c || c == '\n') then resolve q true cs
    else if c = '\\' ∧ q.escapes then
      if q.long && endsLine cs then resolve q true cs
      else
        match cs with
        | 'u' :: d₁ :: d₂ :: d₃ :: d₄ :: cs => do
          let c ← charOfDigits? [d₁, d₂, d₃, d₄]
          return c :: (← resolve q false cs)
        | 'U' :: d₁ :: d₂ :: d₃ :: d₄ :: d₅ :: d₆ :: d₇ :: d₈ :: cs => do
          let c ← charOfDigits? [d₁, d₂, d₃, d₄, d₅, d₆, d₇, d₈]
          return c :: (← resolve q false cs)
        | c :: cs => do
          let c ← escapedChar? c
          return c :: (← resolve q false cs)
        | [] => none
    else if isVisible c || (q.long && c == '\n') then (resolve q false cs).map (c :: ·)
    else none

/-- The text after its opening quotes. -/
def text? (q : Quoting) : Scanner String := fun cs => do
  let (raw, rest) ← q.raw (if q.long then dropLineEnd cs else cs)
  return (String.ofList (← q.resolve false raw), rest)

end Quoting

/-- A text on one line. -/
def shortText? : Scanner String
  | '"' :: cs => Quoting.text? ⟨'"', true, false⟩ cs
  | '\'' :: cs => Quoting.text? ⟨'\'', false, false⟩ cs
  | _ => none

/-- A text in any quotes. -/
def quotedText? : Scanner String
  | '"' :: '"' :: '"' :: cs => Quoting.text? ⟨'"', true, true⟩ cs
  | '\'' :: '\'' :: '\'' :: cs => Quoting.text? ⟨'\'', false, true⟩ cs
  | cs => shortText? cs

end NftExchange.Toml
