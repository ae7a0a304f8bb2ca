import NftExchange.Toml.Bare
import NftExchange.Toml.Quoted

/-!
# Reading TOML

The grammar of statements, keys and values, and `Toml.parse?`, which reads a whole document.
Nothing is said about where or why a document is refused.
-/

namespace NftExchange.Toml

/-- The text with every line end a single line feed. -/
def unifyLineEnds : List Char → List Char
  | '\r' :: '\n' :: cs => '\n' :: unifyLineEnds cs
  | c :: cs => c :: unifyLineEnds cs
  | [] => []

/-- The input after its leading blanks. -/
def skipSpace (cs : List Char) : List Char := cs.dropWhile isSpace

/-- The input after blanks, line ends and comments; `inComment` says that a comment is open. -/
def skipTrivia : (inComment : Bool) → List Char → List Char
  | _, [] => []
  | true, c :: cs =>
    if c = '\n' then skipTrivia false cs
    else if isVisible c then skipTrivia true cs
    else c :: cs
  | false, c :: cs =>
    if c = '#' then skipTrivia true cs
    else if isSpace c || c == '\n' then skipTrivia false cs
    else c :: cs

/-- The input after the rest of a line, in which only a comment may stand. -/
def finishLine? (cs : List Char) : Option (List Char) :=
  let rest := match skipSpace cs with
    | '#' :: cs => cs.dropWhile isVisible
    | cs => cs
  match rest with
  | [] => some []
  | '\n' :: rest => some rest
  | _ => none

/-! ## Keys

A key is a row of names with points between them, each bare or quoted. Their number is limited, as
is the depth of values. -/

/-- Whether a character can be part of a name without quotes. -/
def isNameChar (c : Char) : Bool := c.isAlphanum || c == '_' || c == '-'

/-- One name. -/
def name? (cs : List Char) : Option (String × List Char) :=
  match cs with
  | '"' :: _ | '\'' :: _ => shortText? cs
  | _ =>
    let name := cs.takeWhile isNameChar
    if name.isEmpty then none else some (String.ofList name, cs.dropWhile isNameChar)

/-- How deep values may be nested, and how many names a key may have. -/
def depthLimit : Nat := 79

/-- Names with points between them and blanks around them, at most `count`. -/
def names? : (count : Nat) → Scanner (List String)
  | 0, _ => none
  | count + 1, cs => do
    let (name, rest) ← name? (skipSpace cs)
    match skipSpace rest with
    | '.' :: rest => do
      let (names, rest) ← names? count rest
      return (name :: names, rest)
    | rest => return ([name], rest)

/-- A key; its last name is that of the entry. -/
def key? : Scanner Key := fun cs => do
  let (names, rest) ← names? depthLimit cs
  return (⟨names.dropLast, ← names.getLast?⟩, rest)

/-! ## Values

What follows the equals sign. The scanner of nested values is handed in, so that the depth is
counted in one place. -/

/-- A bare value; date and time may have one blank between them. -/
def bare? : Scanner Toml := fun cs => do
  let text := cs.takeWhile isBare
  match cs.dropWhile isBare with
  | ' ' :: c :: rest =>
    if isDate text && c.isDigit then
      let time := (c :: rest).takeWhile isBare
      return (← ofBare? (text ++ ' ' :: time), (c :: rest).dropWhile isBare)
    else return (← ofBare? text, ' ' :: c :: rest)
  | rest => return (← ofBare? text, rest)

/-- An entry: key, equals sign, value. -/
def entry? (value : Scanner Toml) : Scanner (Key × Toml) := fun cs => do
  let (key, rest) ← key? cs
  match rest with
  | '=' :: rest => do
    let (v, rest) ← value (skipSpace rest)
    return ((key, v), rest)
  | _ => none

/-- The items of an array after its opening bracket; `fuel` bounds their number. -/
def items? (value : Scanner Toml) : (fuel : Nat) → Scanner (List Toml)
  | 0, _ => none
  | fuel + 1, cs =>
    match skipTrivia false cs with
    | ']' :: rest => some ([], rest)
    | cs => do
      let (item, rest) ← value cs
      match skipTrivia false rest with
      | ']' :: rest => return ([item], rest)
      | ',' :: rest => do
        let (items, rest) ← items? value fuel rest
        return (item :: items, rest)
      | _ => none

/-- The entries between braces after the first of them starts; `fuel` bounds their number. -/
def entries? (value : Scanner Toml) : (fuel : Nat) → Scanner (List (Key × Toml))
  | 0, _ => none
  | fuel + 1, cs => do
    let (entry, rest) ← entry? value cs
    match skipSpace rest with
    | '}' :: rest => return ([entry], rest)
    | ',' :: rest => do
      let (entries, rest) ← entries? value fuel rest
      return (entry :: entries, rest)
    | _ => none

/-- A table between braces, after the opening one. -/
def bracedTable? (value : Scanner Toml) : Scanner Toml := fun cs =>
  match skipSpace cs with
  | '}' :: rest => some (.table .braces [], rest)
  | cs => do
    let (entries, rest) ← entries? value cs.length cs
    return (← ofBraces entries, rest)

/-- A value; arrays and tables hold what `nested` reads, and are refused without it. -/
def valueWith? (nested : Option (Scanner Toml)) : Scanner Toml := fun cs =>
  match cs with
  | '"' :: _ | '\'' :: _ => (quotedText? cs).map fun (text, rest) => (.string text, rest)
  | '[' :: cs => do
    let (items, rest) ← items? (← nested) (cs.length + 1) cs
    return (.array items, rest)
  | '{' :: cs => do bracedTable? (← nested) cs
  | _ => bare? cs

/-- A value with at most `depth` arrays and tables inside one another. -/
def value? : (depth : Nat) → Scanner Toml
  | 0 => valueWith? none
  | depth + 1 => valueWith? (some (value? depth))

/-! ## Statements

A document is read line by line: a header of a table, an entry, or nothing but blanks and a comment.
The statements are turned into entries once they have all been read. -/

/-- One statement, without the rest of its line. -/
def statement? : Scanner Statement
  | '[' :: '[' :: cs => do
    match ← key? cs with
    | (key, ']' :: ']' :: rest) => return (.itemHeader key, rest)
    | _ => none
  | '[' :: cs => do
    match ← key? cs with
    | (key, ']' :: rest) => return (.header key, rest)
    | _ => none
  | cs => do
    let ((key, value), rest) ← entry? (value? depthLimit) cs
    return (.entry key value, rest)

/-- The statements of a document, each on its own line; `fuel` bounds the number of lines. -/
def statements? : (fuel : Nat) → List Char → Option (List Statement)
  | 0, _ => none
  | fuel + 1, cs =>
    match skipSpace cs with
    | [] => some []
    | '\n' :: rest => statements? fuel rest
    | '#' :: rest => do statements? fuel (← finishLine? ('#' :: rest))
    | cs => do
      let (statement, rest) ← statement? cs
      return statement :: (← statements? fuel (← finishLine? rest))

/-- The entries of a document; a byte order mark in front is passed over. -/
def parse? (text : String) : Option Entries := do
  let cs := match unifyLineEnds text.toList with
    | '\uFEFF' :: cs => cs
    | cs => cs
  ofStatements (← statements? (cs.length + 1) cs)

end NftExchange.Toml
