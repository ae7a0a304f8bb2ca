import NftExchange.Word

/-!
# Recursive length prefix

The binary format of transactions. A byte string below `0x80` of one byte is its own item; every
other item has a header that tells its kind and length. Lengths up to 55 are in the header's first
byte, longer ones in the bytes after it.

Reading follows headers from item to item. The first item of a list has to lie inside the list;
the items after it are followed to the end of the input, and what is no complete item there is
left alone.
-/

namespace NftExchange.Rlp

/-- Why an item does not decode. -/
inductive Error where
  | tooBig
  | tooShort
  | invalidIndirection
  | lengthWithZero
  | expectedData
deriving DecidableEq

/-- The name of an error. -/
def Error.name : Error → String
  | .tooBig => "RlpIsTooBig"
  | .tooShort => "RlpIsTooShort"
  | .invalidIndirection => "RlpInvalidIndirection"
  | .lengthWithZero => "RlpDataLenWithZeroPrefix"
  | .expectedData => "RlpExpectedToBeData"

/-! ## Writing

An item is a header and its bytes, and a list is a header and its items. A single byte below 0x80 is
its own item. -/

/-- The header of an item of `length` bytes; `base` is its first byte for length zero. -/
def header (base : Nat) (length : Nat) : Bytes :=
  if length ≤ 55 then [.ofNat (base + length)]
  else
    let digits := Bytes.minimal length
    .ofNat (base + 55 + digits.length) :: digits

/-- A byte string as an item. -/
def encodeBytes (bytes : Bytes) : Bytes :=
  match bytes with
  | [b] => if b < 0x80 then [b] else header 0x80 1 ++ [b]
  | bytes => header 0x80 bytes.length ++ bytes

/-- A number as an item: its big-endian bytes without leading zeros. -/
def encodeNat (n : Nat) : Bytes := encodeBytes (Bytes.minimal n)

/-- A list of items that are already encoded. -/
def encodeList (items : List Bytes) : Bytes :=
  let payload := items.flatten
  header 0xc0 payload.length ++ payload

/-! ## Reading

The header in front says where an item ends. The items of a list are followed to the end of the
input, and each of them is decoded by its own reader. -/

/-- How long an item's header is and how many bytes follow it. -/
structure Extent where
  headerLength : Nat
  valueLength : Nat

namespace Extent

/-- The length of the whole item. -/
def total (e : Extent) : Nat := e.headerLength + e.valueLength

/-- The extent of an item whose length stands in the `width` bytes after its first byte. -/
def long (width : Nat) (afterFirst : Bytes) : Except Error Extent :=
  match afterFirst with
  | [] => .error .tooShort
  | 0 :: _ => .error .lengthWithZero
  | _ =>
    if afterFirst.length < width then .error .tooShort
    else
      let length := Bytes.toNat (afterFirst.take width)
      if length ≤ 55 then .error .invalidIndirection else .ok ⟨1 + width, length⟩

/-- The extent that the bytes in front announce. -/
def announced : Bytes → Except Error Extent
  | [] => .error .tooShort
  | first :: rest =>
    let n := first.toNat
    if n < 0x80 then .ok ⟨0, 1⟩
    else if n ≤ 0xb7 then .ok ⟨1, n - 0x80⟩
    else if n ≤ 0xbf then long (n - 0xb7) rest
    else if n ≤ 0xf7 then .ok ⟨1, n - 0xc0⟩
    else long (n - 0xf7) rest

/-- The extent of the item in front, all of which has to be there. -/
def ofBytes (bytes : Bytes) : Except Error Extent := do
  let e ← announced bytes
  if e.total ≤ bytes.length then return e else .error .tooShort

end Extent

/-- Splits the item in front off the bytes. -/
def splitItem? (bytes : Bytes) : Option (Bytes × Bytes) :=
  match Extent.ofBytes bytes with
  | .ok e => some (bytes.take e.total, bytes.drop e.total)
  | .error _ => none

/-- The items in front, one after the other, as long as they are complete; at most `fuel`. -/
def followItems : (fuel : Nat) → Bytes → List Bytes
  | 0, _ => []
  | fuel + 1, bytes =>
    match splitItem? bytes with
    | some (item, rest) => item :: followItems fuel rest
    | none => []

/-- Whether the bytes start like a list. -/
def isList : Bytes → Bool
  | [] => false
  | b :: _ => 0xc0 ≤ b

/-- The items of a list. -/
def items (bytes : Bytes) : List Bytes :=
  match Extent.ofBytes bytes with
  | .error _ => []
  | .ok e =>
    match splitItem? ((bytes.drop e.headerLength).take e.valueLength) with
    | none => []
    | some (first, _) =>
      first :: followItems bytes.length (bytes.drop (e.headerLength + first.length))

/-- The byte string of an item; a byte that could be its own item must not have a header. -/
def decodeBytes (item : Bytes) : Except Error Bytes := do
  match item with
  | [] => .error .tooShort
  | first :: _ =>
    if 0xc0 ≤ first then .error .expectedData
    else
      let e ← Extent.ofBytes item
      let value := (item.drop e.headerLength).take e.valueLength
      match first, value with
      | 0x81, [b] => if b < 0x80 then .error .invalidIndirection else return value
      | _, value => return value

/-- The 64-bit number of an item; a width of more than eight bytes is reported first. -/
def decodeUInt64 (item : Bytes) : Except Error UInt64 := do
  let value ← decodeBytes item
  if value.length > 8 then .error .tooBig
  else if value.head? = some 0 then .error .invalidIndirection
  else return .ofNat (Bytes.toNat value)

/-- The 256-bit word of an item; a leading zero is reported first. -/
def decodeUInt256 (item : Bytes) : Except Error UInt256 := do
  let value ← decodeBytes item
  if value.head? = some 0 then .error .invalidIndirection
  else if value.length > 32 then .error .tooBig
  else return .ofNat 256 (Bytes.toNat value)

/-- The byte string of an item that has to have a fixed width. -/
def decodeFixed (width : Nat) (item : Bytes) : Except Error (FixedBytes width) := do
  let value ← decodeBytes item
  if h : value.length = width then return ⟨value, h⟩
  else if value.length < width then .error .tooShort
  else .error .tooBig

end NftExchange.Rlp
