import NftExchange.Json.Floating
import NftExchange.Word

/-!
# Codecs

A `Codec α` says how a value of type `α` is written as JSON and how it is read: straight from
text, left to right, or from a JSON value. The two readers share no code, and differ where the
format does: on text a member may be repeated only if it is unknown, while a value holds no
repeated members.

This module has the codecs of single values; `Record` puts them together.
-/

namespace NftExchange

open Json (Reader skipBlank)

/-- How values of a type are written and read. -/
structure Codec (α : Type) where
  encode : α → Json
  /-- Reads from text, with a bound on how deep the text may be nested. -/
  read : (depth : Nat) → Reader α
  decode : Json → Except JsonError α

namespace Codec

variable {α β : Type}

/-- Reads all of a byte string. -/
def parseBytes (c : Codec α) (bytes : Bytes) : Except JsonError α :=
  Json.readAll (c.read Json.depthLimit) bytes

/-- Reads all of a text. -/
def parse (c : Codec α) (text : String) : Except JsonError α := c.parseBytes (Bytes.ofText text)

/-- The JSON text of a value. -/
def render (c : Codec α) (a : α) : String := (c.encode a).render

/-- Passes each value that is read through a check. -/
def refine (c : Codec α) (toInner : β → α) (check : α → Except JsonError β) : Codec β where
  encode b := c.encode (toInner b)
  read depth input := do
    let (a, rest) ← c.read depth input
    return (← check a, rest)
  decode value := do check (← c.decode value)

/-- A string. -/
def string : Codec String where
  encode := .str
  read _ input :=
    match skipBlank input with
    | 0x22 :: rest => Json.stringAfterQuote Json.exactText rest
    | _ => .error .mismatch
  decode
    | .str s => .ok s
    | _ => .error .mismatch

/-- A truth value. -/
def bool : Codec Bool where
  encode := .bool
  read _ input :=
    match skipBlank input with
    | 0x74 :: rest => do return (true, ← Json.dropWord "true" (0x74 :: rest))
    | 0x66 :: rest => do return (false, ← Json.dropWord "false" (0x66 :: rest))
    | _ => .error .mismatch
  decode
    | .bool b => .ok b
    | _ => .error .mismatch

/-- The check that a natural number passes if `narrow` finds a place for it. -/
def narrowing (narrow : Nat → Option α) (n : Numeral) : Except JsonError α :=
  match n.toNat?.bind narrow with
  | some a => .ok a
  | none => .error .mismatch

/-- A natural number of a bounded type. -/
def nat (toNat : α → Nat) (narrow : Nat → Option α) : Codec α where
  encode a := .ofNat (toNat a)
  read _ input :=
    match skipBlank input with
    | [] => .error .mismatch
    | b :: rest =>
      if Json.startsNumber b then do
        let (n, rest) ← Json.readNumeral (b :: rest)
        return (← narrowing narrow n, rest)
      else .error .mismatch
  decode
    | .num n => narrowing narrow n
    | _ => .error .mismatch

def uint64 : Codec UInt64 := nat UInt64.toNat UInt64.ofNat?

def uint32 : Codec UInt32 :=
  nat UInt32.toNat fun n => if n < UInt32.size then some (.ofNat n) else none

def uint16 : Codec UInt16 :=
  nat UInt16.toNat fun n => if n < UInt16.size then some (.ofNat n) else none

def uint8 : Codec UInt8 :=
  nat UInt8.toNat fun n => if n < UInt8.size then some (.ofNat n) else none

/-- A value of any shape; straight from text its numbers keep their texts. -/
def json : Codec Json where
  encode value := value
  read := Json.readValue .parsed
  decode := Json.renewed

/-- A value that may be `null`. -/
def nullable (c : Codec α) : Codec (Option α) where
  encode
    | some a => c.encode a
    | none => .null
  read depth input :=
    match skipBlank input with
    | 0x6e :: rest => do return (none, ← Json.dropWord "null" (0x6e :: rest))
    | rest => do
      let (a, rest) ← c.read depth rest
      return (some a, rest)
  decode
    | .null => .ok none
    | value => some <$> c.decode value

/-- An array. -/
def list (c : Codec α) : Codec (List α) where
  encode as := .arr (as.map c.encode)
  read depth input :=
    match skipBlank input, depth with
    | 0x5b :: _, 0 => .error .tooDeep
    | 0x5b :: rest, depth + 1 => Json.readItems (c.read depth) (rest.length + 1) true rest
    | _, _ => .error .mismatch
  decode
    | .arr items => items.mapM c.decode
    | _ => .error .mismatch

/-- One of a few words: the word itself, or an object whose one member has it as key and `null`
as value. -/
def word (toWord : α → String) (ofWord? : String → Option α) : Codec α where
  encode a := .str (toWord a)
  read depth input :=
    let known (w : String) : Except JsonError α :=
      match ofWord? w with
      | some a => .ok a
      | none => .error .mismatch
    match skipBlank input, depth with
    | 0x22 :: rest, _ => do
      let (w, rest) ← Json.stringAfterQuote Json.exactText rest
      return (← known w, rest)
    | 0x7b :: _, 0 => .error .tooDeep
    | 0x7b :: rest, _ => do
      let (w, rest) ← Json.readKey Json.exactText (skipBlank rest)
      let a ← known w
      match skipBlank (← Json.dropWord "null" (skipBlank rest)) with
      | 0x7d :: rest => return (a, rest)
      | _ => .error .malformed
    | _, _ => .error .mismatch
  decode
    | .str w | .obj [(w, .null)] =>
      match ofWord? w with
      | some a => .ok a
      | none => .error .mismatch
    | _ => .error .mismatch

/-- The nibbles of hexadecimal text; blanks between them are passed over. -/
def nibbles? (digits : Bytes) : Option (List Nat) :=
  (digits.filter fun b => !Json.isBlank b).mapM Hex.value?

/-- The bytes of nibbles in pairs; a last nibble without a partner is dropped. -/
def bytesOfNibbles : List Nat → Bytes
  | high :: low :: rest => UInt8.ofNat (16 * high + low) :: bytesOfNibbles rest
  | _ => []

/-- The bytes of a text of exactly `2 * width` digits and blanks, with or without `0x`; each blank
leaves half a byte of zeros at the end. -/
def fixedOfText? (width : Nat) (text : String) : Option (FixedBytes width) := do
  let digits := match Bytes.ofText text with
    | 0x30 :: 0x78 :: digits => digits
    | digits => digits
  if digits.length ≠ 2 * width then none
  else
    let bytes := bytesOfNibbles (← nibbles? digits)
    FixedBytes.ofBytes? width (bytes ++ List.replicate (width - bytes.length) 0)

/-- Bytes of a fixed width, as hexadecimal text with `0x`. -/
def fixedBytes (width : Nat) : Codec (FixedBytes width) :=
  string.refine (fun a => "0x" ++ Hex.encode a.toBytes) fun text =>
    match fixedOfText? width text with
    | some a => .ok a
    | none => .error .mismatch

def address : Codec Address := fixedBytes 20

def hash : Codec Hash := fixedBytes 32

end Codec

end NftExchange
