import NftExchange.Hex
import NftExchange.Json.Error
import NftExchange.Json.Value

/-!
# Scanning JSON text

The parts of JSON text that are not nested: blanks, words, strings and numerals. Every scanner
takes what it reads off the front of the input and returns it with the rest.

A string is scanned in two steps. `rawString` finds its end; `pieces` then resolves the escapes
and `assemble` joins surrogates. Where a value is only skipped, a string has to be well-formed up
to `pieces`: whether its escapes make up characters is not looked at.
-/

namespace NftExchange.Json

/-- Takes a value off the front of the input. -/
abbrev Reader (α : Type) := Bytes → Except JsonError (α × Bytes)

/-- Whether a byte is blank between tokens. -/
def isBlank (b : UInt8) : Bool := b == 0x20 || b == 0x09 || b == 0x0a || b == 0x0d

/-- The input after its leading blanks. -/
def skipBlank (input : Bytes) : Bytes := input.dropWhile isBlank

/-- The input after a word that has to stand in front. -/
def dropWord (word : String) (input : Bytes) : Except JsonError Bytes :=
  let bytes := Bytes.ofText word
  if bytes.isPrefixOf input then .ok (input.drop bytes.length) else .error .malformed

/-- What stands between the opening quote, already taken, and the closing one, and the rest. -/
def rawString : Bytes → Option (Bytes × Bytes)
  | [] => none
  | b :: rest =>
    if b = 0x22 then some ([], rest)
    else if b = 0x5c then
      match rest with
      | [] => none
      | c :: rest => (rawString rest).map fun (raw, after) => (b :: c :: raw, after)
    else if b < 0x20 then none
    else (rawString rest).map fun (raw, after) => (b :: raw, after)

/-- A byte of a string, or a UTF-16 unit that an escape gives by number. -/
inductive Piece where
  | byte (b : UInt8)
  | unit (n : Nat)

/-- The byte that a one-letter escape stands for. -/
def escapedByte? (c : UInt8) : Option UInt8 :=
  if c = 0x22 ∨ c = 0x5c ∨ c = 0x2f then some c
  else if c = 0x62 then some 0x08
  else if c = 0x66 then some 0x0c
  else if c = 0x6e then some 0x0a
  else if c = 0x72 then some 0x0d
  else if c = 0x74 then some 0x09
  else none

/-- The number of four hexadecimal digits. -/
def unit? (a b c d : UInt8) : Option Nat := do
  return (← Hex.value? a) * 4096 + (← Hex.value? b) * 256 + (← Hex.value? c) * 16 + (← Hex.value? d)

/-- The pieces of a raw string, if every escape is complete. -/
def pieces : Bytes → Option (List Piece)
  | [] => some []
  | b :: rest =>
    if b ≠ 0x5c then (.byte b :: ·) <$> pieces rest
    else
      match rest with
      | [] => none
      | c :: rest =>
        if c = 0x75 then
          match rest with
          | p :: q :: r :: s :: rest => do
            let n ← unit? p q r s
            return .unit n :: (← pieces rest)
          | _ => none
        else do
          let e ← escapedByte? c
          return .byte e :: (← pieces rest)

/-- Whether a unit is the first of a surrogate pair. -/
def isHighSurrogate (n : Nat) : Bool := 0xd800 ≤ n && n ≤ 0xdbff

/-- Whether a unit is the second of a surrogate pair. -/
def isLowSurrogate (n : Nat) : Bool := 0xdc00 ≤ n && n ≤ 0xdfff

/-- The bytes of a code point. -/
def codePointBytes (n : Nat) : Bytes := String.utf8EncodeChar (Char.ofNat n)

/-- The bytes of a string; surrogates have to come in pairs. -/
def assemble : List Piece → Option Bytes
  | [] => some []
  | .byte b :: rest => (b :: ·) <$> assemble rest
  | .unit n :: rest =>
    if isLowSurrogate n then none
    else if isHighSurrogate n then
      match rest with
      | .unit m :: rest =>
        if isLowSurrogate m then
          (codePointBytes (0x10000 + (n - 0xd800) * 0x400 + (m - 0xdc00)) ++ ·) <$> assemble rest
        else none
      | _ => none
    else (codePointBytes n ++ ·) <$> assemble rest

/-- The text of a raw string. -/
def exactText (raw : Bytes) : Option String := do
  Bytes.toText? (← assemble (← pieces raw))

/-- Stands for the text of a raw string that is only skipped. -/
def skippedText (raw : Bytes) : Option String := (pieces raw).map fun _ => ""

/-- The string after its opening quote; `text` says which raw strings are texts. -/
def stringAfterQuote (text : Bytes → Option String) : Reader String := fun input =>
  match rawString input with
  | none => .error .malformed
  | some (raw, rest) =>
    match text raw with
    | none => .error .malformed
    | some s => .ok (s, rest)

/-- The digits after a point, if a point comes first; then there has to be a digit. -/
def fraction? : Bytes → Option (Option Bytes × Bytes)
  | 0x2e :: rest =>
    let digits := rest.takeWhile Decimal.isDigit
    if digits.isEmpty then none else some (some digits, rest.dropWhile Decimal.isDigit)
  | rest => some (none, rest)

/-- The sign in front of an exponent's digits; true means negative. -/
def exponentSign : Bytes → Bool × Bytes
  | 0x2b :: rest => (false, rest)
  | 0x2d :: rest => (true, rest)
  | rest => (false, rest)

/-- The exponent, if one comes first; then there has to be a digit. -/
def exponent? : Bytes → Option (Option (Bool × Bytes) × Bytes)
  | b :: rest =>
    if b = 0x65 ∨ b = 0x45 then
      let (negative, rest) := exponentSign rest
      let digits := rest.takeWhile Decimal.isDigit
      if digits.isEmpty then none
      else some (some (negative, digits), rest.dropWhile Decimal.isDigit)
    else some (none, b :: rest)
  | [] => some (none, [])

/-- The sign in front of a number; true means negative. -/
def numeralSign : Bytes → Bool × Bytes
  | 0x2d :: rest => (true, rest)
  | rest => (false, rest)

/-- The numeral in front; a zero before other digits is refused. -/
def numeral? (input : Bytes) : Option (Numeral × Bytes) := do
  let (negative, rest) := numeralSign input
  let whole := rest.takeWhile Decimal.isDigit
  if whole.isEmpty ∨ (whole.length ≠ 1 ∧ whole.head? = some 0x30) then none
  else
    let (fraction, rest) ← fraction? (rest.dropWhile Decimal.isDigit)
    let (exponent, rest) ← exponent? rest
    return (⟨negative, whole, fraction, exponent⟩, rest)

/-- The numeral that a text is. -/
def numeralOfText? (text : String) : Option Numeral :=
  match numeral? (Bytes.ofText text) with
  | some (n, []) => some n
  | _ => none

/-- Reads a numeral. -/
def readNumeral : Reader Numeral := fun input =>
  match numeral? input with
  | some result => .ok result
  | none => .error .malformed

/-- Whether a byte can start a number. -/
def startsNumber (b : UInt8) : Bool := b == 0x2d || Decimal.isDigit b

/-- What comes next inside brackets: their end, or an item that starts at the given input. -/
inductive Next where
  | closed (rest : Bytes)
  | item (input : Bytes)

/-- Looks for the next item before the bracket `close`; after the first, a comma leads to it. -/
def nextItem (close : UInt8) (first : Bool) (input : Bytes) : Except JsonError Next :=
  match skipBlank input with
  | [] => .error .malformed
  | b :: rest =>
    if b = close then .ok (.closed rest)
    else if first then .ok (.item (b :: rest))
    else if b = 0x2c then
      match skipBlank rest with
      | [] => .error .malformed
      | c :: rest => if c = close then .error .malformed else .ok (.item (c :: rest))
    else .error .malformed

/-- The items up to the end of an array; `fuel` bounds their number. -/
def readItems {α : Type} (item : Reader α) : (fuel : Nat) → (first : Bool) → Reader (List α)
  | 0, _, _ => .error .malformed
  | fuel + 1, first, input => do
    match ← nextItem 0x5d first input with
    | .closed rest => return ([], rest)
    | .item input =>
      let (a, rest) ← item input
      let (as, rest) ← readItems item fuel false rest
      return (a :: as, rest)

/-- The key of a member and the input after the colon. -/
def readKey (text : Bytes → Option String) : Reader String
  | 0x22 :: rest => do
    let (key, rest) ← stringAfterQuote text rest
    match skipBlank rest with
    | 0x3a :: rest => return (key, rest)
    | _ => .error .malformed
  | _ => .error .malformed

/-- Folds the members up to the end of an object into a state; `step` takes the value of a member
off the input. -/
def readMembers {σ : Type} (text : Bytes → Option String) (step : σ → String → Reader σ) :
    (fuel : Nat) → (first : Bool) → σ → Reader σ
  | 0, _, _, _ => .error .malformed
  | fuel + 1, first, state, input => do
    match ← nextItem 0x7d first input with
    | .closed rest => return (state, rest)
    | .item input =>
      let (key, rest) ← readKey text input
      let (state, rest) ← step state key rest
      readMembers text step fuel false state rest

end NftExchange.Json
