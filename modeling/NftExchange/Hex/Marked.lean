import NftExchange.Hex
import NftExchange.Text.Blank
import NftExchange.Word

/-!
# Marked hexadecimal

Field values travel as hexadecimal text with a `0x` in front: quantities without leading zeros,
byte strings with two digits for each byte, and among those addresses and digests. Writing is
canonical. Reading takes digits of either case; a quantity may also have leading zeros and the
mark `0X`, a byte string may lack the mark.
-/

namespace NftExchange

/-- A text is not the encoding that it should be. -/
inductive EncodingError where
  | hexQuantity (text : String)
  | overflow (text : String) (bits : Nat)
  | address (text : String)
  | hash (text : String)
  | hexBytes (reason : String)
deriving DecidableEq

/-- The wording of an error. -/
def EncodingError.message : EncodingError → String
  | .hexQuantity text => "Invalid hex quantity: " ++ Text.quoted text
  | .overflow text bits =>
    "Quantity overflows " ++ toString bits ++ "-bit integer: " ++ text
  | .address text => "Invalid address: " ++ Text.quoted text
  | .hash text => "Invalid hash: " ++ Text.quoted text
  | .hexBytes reason => "Invalid hex bytes: " ++ reason

namespace Hex

/-- The number that digits of either case denote, if they are digits. -/
def toNat? (digits : Bytes) : Option Nat :=
  digits.foldlM (fun n b => (16 * n + ·) <$> value? b) 0

/-- What follows the mark `0x` or `0X`. -/
def afterMark? (text : String) : Option Bytes :=
  match Bytes.ofText text with
  | 0x30 :: 0x78 :: digits | 0x30 :: 0x58 :: digits => some digits
  | _ => none

/-- The quantity `n`: lower-case digits without leading zeros. -/
def quantity (n : Nat) : String := "0x" ++ String.ofList (Nat.toDigits 16 n)

/-- Reads a quantity of 1 to 64 digits. -/
def parseQuantity (text : String) : Except EncodingError UInt256 :=
  let value := do
    let digits ← afterMark? text
    if digits.isEmpty ∨ digits.length > 64 then none else toNat? digits
  match value with
  | some n => .ok (BitVec.ofNat 256 n)
  | none => .error (.hexQuantity text)

/-- Reads a quantity that fits in 64 bits. -/
def parseUInt64 (text : String) : Except EncodingError UInt64 := do
  match UInt64.ofNat? (← parseQuantity text).toNat with
  | some n => return n
  | none => .error (.overflow text 64)

/-- A byte string with its mark. -/
def marked (bytes : Bytes) : String := "0x" ++ encode bytes

/-- Reads a byte string with or without its mark. -/
def parseBytes (text : String) : Except EncodingError Bytes :=
  match decode (Text.withoutHexMark text) with
  | .ok bytes => .ok bytes
  | .error e => .error (.hexBytes (Text.quoted text ++ ": " ++ e.message))

/-- Reads a byte string of a fixed width. -/
def parseFixed? (width : Nat) (text : String) : Option (FixedBytes width) :=
  match parseBytes text with
  | .ok bytes => FixedBytes.ofBytes? width bytes
  | .error _ => none

end Hex

/-- The text of a value of fixed width. -/
def FixedBytes.text {width : Nat} (a : FixedBytes width) : String := Hex.marked a.toBytes

/-- Reads an address. -/
def Address.parse (text : String) : Except EncodingError Address :=
  match Hex.parseFixed? 20 text with
  | some a => .ok a
  | none => .error (.address text)

/-- Reads a digest. -/
def Hash.parse (text : String) : Except EncodingError Hash :=
  match Hex.parseFixed? 32 text with
  | some h => .ok h
  | none => .error (.hash text)

end NftExchange
