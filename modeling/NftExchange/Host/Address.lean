import NftExchange.Decimal.Digits
import NftExchange.Text.Table

/-!
# Addresses of hosts

A host may be given by its address instead of a name: an IPv4 address in any of its spellings, or
an IPv6 address in brackets.
-/

namespace NftExchange.Host

open Text (parts)

/-! ## IPv4

A dotted address has one to four parts, each in one of three bases. A host whose last part is a
number has to be such an address. -/

/-- The value of an ASCII digit in a base. -/
def digitIn? (base : Nat) (b : UInt8) : Option Nat := do
  let n ← Hex.value? b
  if n < base then some n else none

/-- The number of a part: hexadecimal after `0x`, octal after `0`, otherwise decimal. -/
def partNumber? (part : Bytes) : Option Nat :=
  let inBase (base : Nat) (digits : Bytes) : Option Nat :=
    digits.foldlM (fun n b => (n * base + ·) <$> digitIn? base b) 0
  match part with
  | [] => none
  | 0x30 :: 0x78 :: digits | 0x30 :: 0x58 :: digits => inBase 16 digits
  | 0x30 :: digits => inBase 8 digits
  | digits => inBase 10 digits

/-- The parts of a host between dots; an empty last part does not count. -/
def addressParts (host : Bytes) : List Bytes :=
  let all := parts (· == 0x2e) host
  match all.reverse with
  | [] :: first :: rest => (first :: rest).reverse
  | _ => all

/-- Whether a host has to be an IPv4 address, because its last part is a number. -/
def endsInNumber (host : Bytes) : Bool :=
  match (addressParts host).getLast? with
  | none | some [] => false
  | some part => part.all Decimal.isDigit || (part.take 2 == [0x30, 0x78]
      && (part.drop 2).all Hex.isDigit)

/-- Whether a host is an IPv4 address: up to four numbers, of which the last fills the rest. -/
def isIpv4 (host : Bytes) : Bool :=
  match (addressParts host).mapM partNumber? with
  | none => false
  | some numbers =>
    numbers.length ≤ 4 && numbers.dropLast.all (· < 256)
      && (numbers.getLast?.getD 0) < Bytes.capacity (5 - numbers.length)

/-! ## IPv6

An address in brackets has eight groups. One gap may stand for some of them, and the last two may be
written as a dotted address. -/

/-- Whether a group is one to four hexadecimal digits. -/
def isGroup (group : Bytes) : Bool :=
  !group.isEmpty && group.length ≤ 4 && group.all Hex.isDigit

/-- Whether a part is a decimal number below 256 without a zero in front of others. -/
def isOctet (part : Bytes) : Bool :=
  !part.isEmpty && part.all Decimal.isDigit && Decimal.toNat part < 256
    && (part.length == 1 || part.head? != some 0x30)

/-- How many groups the parts between colons make up; the last may be a dotted address if
`dotted` allows it. -/
def groupCount? (dotted : Bool) (groups : List Bytes) : Option Nat :=
  match groups.getLast? with
  | none => some 0
  | some last =>
    let octets := parts (· == 0x2e) last
    if groups.all isGroup then some groups.length
    else if dotted && groups.dropLast.all isGroup && octets.length == 4 && octets.all isOctet then
      some (groups.length + 1)
    else none

/-- The groups on one side of a gap. -/
def sideGroups (side : Bytes) : List Bytes :=
  if side.isEmpty then [] else parts (· == 0x3a) side

/-- Splits at the first pair of colons. -/
def splitGap : Bytes → Bytes × Option Bytes
  | 0x3a :: 0x3a :: rest => ([], some rest)
  | b :: rest =>
    let (before, after) := splitGap rest
    (b :: before, after)
  | [] => ([], none)

/-- Whether the text between brackets is an IPv6 address: eight groups, or fewer with one gap. -/
def isIpv6 (text : Bytes) : Bool :=
  match splitGap text with
  | (all, none) => groupCount? true (sideGroups all) == some 8
  | (before, some after) =>
    match groupCount? false (sideGroups before), groupCount? true (sideGroups after) with
    | some m, some n => m + n ≤ 7
    | _, _ => false

end NftExchange.Host
