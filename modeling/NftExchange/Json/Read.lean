import NftExchange.Json.Scan

/-!
# Reading JSON values

A value of any shape is read in one of three ways. `parsed` gives the value itself, with sorted
members. `collected` keeps the members of objects as they are written, repeated keys included.
`skipped` only finds the end of the value; it may be nested to any depth, while the other two stop
at `depthLimit`.
-/

namespace NftExchange.Json

/-- How many arrays and objects may stand inside one another. -/
def depthLimit : Nat := 127

/-- An object with this key in front stands for the number whose text is the key's value. -/
def numberKey : String := "$serde_json::private::Number"

/-- What is made of the strings and the objects of a value. -/
structure Style where
  /-- The text of a raw string. -/
  text : Bytes → Option String
  /-- The value of an object with these members. -/
  object : List (String × Json) → Option Json

/-- The object with the given members, sorted, or the number that they stand for. -/
def objectOfMembers (members : List (String × Json)) : Option Json :=
  match members with
  | (key, value) :: rest =>
    if key = numberKey then
      match value, rest with
      | .str text, [] => (numeralOfText? text).map .num
      | _, _ => none
    else some (.obj (sortMembers members))
  | [] => some (.obj [])

def Style.parsed : Style := ⟨exactText, objectOfMembers⟩

def Style.collected : Style := ⟨exactText, fun members => some (.obj members)⟩

def Style.skipped : Style := ⟨skippedText, fun _ => some .null⟩

/-- Reads a value; `nested` reads the values inside it, and is missing at the depth limit. -/
def readValueWith (style : Style) (nested : Option (Reader Json)) : Reader Json := fun input =>
  match skipBlank input with
  | [] => .error .malformed
  | b :: rest =>
    if b = 0x22 then do
      let (s, rest) ← stringAfterQuote style.text rest
      return (.str s, rest)
    else if b = 0x5b then
      match nested with
      | none => .error .tooDeep
      | some nested => do
        let (items, rest) ← readItems nested (rest.length + 1) true rest
        return (.arr items, rest)
    else if b = 0x7b then
      match nested with
      | none => .error .tooDeep
      | some nested => do
        let step : List (String × Json) → String → Reader (List (String × Json)) :=
          fun members key input => do
            let (value, rest) ← nested input
            return ((key, value) :: members, rest)
        let (members, rest) ← readMembers style.text step (rest.length + 1) true [] rest
        match style.object members.reverse with
        | some value => return (value, rest)
        | none => .error .malformed
    else if b = 0x6e then return (.null, ← dropWord "null" (b :: rest))
    else if b = 0x74 then return (.bool true, ← dropWord "true" (b :: rest))
    else if b = 0x66 then return (.bool false, ← dropWord "false" (b :: rest))
    else if startsNumber b then do
      let (n, rest) ← readNumeral (b :: rest)
      return (.num n, rest)
    else .error .malformed

/-- Reads a value with at most `depth` arrays and objects inside one another. -/
def readValue (style : Style) : (depth : Nat) → Reader Json
  | 0 => readValueWith style none
  | depth + 1 => readValueWith style (some (readValue style depth))

/-- The input after a value of any shape and depth. -/
def skipValue (input : Bytes) : Except JsonError Bytes :=
  Prod.snd <$> readValue .skipped (input.length + 1) input

/-- Reads all of the input with a reader; only blanks may follow. -/
def readAll {α : Type} (reader : Reader α) (input : Bytes) : Except JsonError α := do
  let (a, rest) ← reader input
  if (skipBlank rest).isEmpty then return a else .error .malformed

/-- The value that a text is. -/
def parse (text : String) : Except JsonError Json :=
  readAll (readValue .parsed depthLimit) (Bytes.ofText text)

end NftExchange.Json
