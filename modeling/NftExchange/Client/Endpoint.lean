import NftExchange.Host.Address
import NftExchange.Host.Label

/-!
# Node endpoints

Whether the text behind `http://` or `https://` is a URL that a client can connect to. Only the
part up to the path matters: it has to name a host, and a port has to fit in 16 bits.
-/

namespace NftExchange.Endpoint

open Text (parts)

/-! ## Hosts and ports

The part of a URL between the slashes and the path. A user and a password may stand in front of it;
a host may be a name, with percent escapes in it, or an address. -/

/-- The byte that a percent sign and two digits stand for. -/
def escapedByte? (percent high low : UInt8) : Option UInt8 := do
  let h ← Hex.value? high
  let l ← Hex.value? low
  if percent = 0x25 then some (.ofNat (16 * h + l)) else none

/-- The bytes of a host with its percent escapes resolved. -/
def unescaped : Bytes → Bytes
  | b :: high :: low :: rest =>
    match escapedByte? b high low with
    | some c => c :: unescaped rest
    | none => b :: unescaped (high :: low :: rest)
  | rest => rest

/-- Whether a text is a host: an IPv6 address in brackets or a name. A name that ends in a number
has to be an IPv4 address. -/
def isHost (host : Bytes) : Bool :=
  match host with
  | 0x5b :: rest => rest.getLast? == some 0x5d && Host.isIpv6 rest.dropLast
  | _ =>
    match (Bytes.toText? (unescaped host)).bind fun text => Host.labels? text.toList with
    | none => false
    | some labels =>
      let name := Bytes.ofText (String.ofList (['.'].intercalate labels))
      !name.isEmpty && (!Host.endsInNumber name || Host.isIpv4 name)

/-- Whether a text is a port; no digits stand for the usual port. -/
def isPort (port : Bytes) : Bool := port.all Decimal.isDigit && Decimal.toNat port < 65536

/-- Splits host and port at the first colon outside brackets. -/
def splitPort : (inBrackets : Bool) → Bytes → Bytes × Option Bytes
  | _, [] => ([], none)
  | inBrackets, b :: rest =>
    if b = 0x3a ∧ !inBrackets then ([], some rest)
    else
      let (host, port) := splitPort (b == 0x5b || (inBrackets && b != 0x5d)) rest
      (b :: host, port)

/-- What follows the last `@`, before which user and password stand. -/
def afterUser (authority : Bytes) : Bytes := (parts (· == 0x40) authority).getLast?.getD []

/-- Whether a byte is a slash of either kind. -/
def isSlash (b : UInt8) : Bool := b == 0x2f || b == 0x5c

/-- Whether a text with one of the schemes is a URL with a host. Blanks at its end and line ends
and tabs anywhere do not count. -/
def isUrl (text : String) : Bool :=
  let trimmed := ((Bytes.ofText text).reverse.dropWhile (· ≤ 0x20)).reverse
  let kept := trimmed.filter fun b => b != 0x09 && b != 0x0a && b != 0x0d
  let afterScheme := (kept.dropWhile (· != 0x3a)).drop 1
  let authority := (afterScheme.dropWhile isSlash).takeWhile fun b =>
    !isSlash b && b != 0x3f && b != 0x23
  let (host, port) := splitPort false (afterUser authority)
  isHost host && isPort (port.getD [])

end NftExchange.Endpoint
