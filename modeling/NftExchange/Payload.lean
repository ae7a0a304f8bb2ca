import NftExchange.Authorization.Basic

/-!
# Payloads

The data of an action's transaction: the mark `wormholes:` and an object with the action's code, a
version, the parameters that the action takes and the authorizations that it embeds. Parameters
and authorizations that are absent are not written. A payload is written only if its action is
known and embeds exactly the authorizations that are present.
-/

namespace NftExchange

/-- The payload of an action. -/
structure Payload where
  typeCode : UInt8
  version : String
  nftAddress : Option String := none
  exchanger : Option String := none
  royalty : Option UInt32 := none
  metaUrl : Option String := none
  feeRate : Option UInt32 := none
  name : Option String := none
  url : Option String := none
  dir : Option String := none
  startIndex : Option String := none
  number : Option UInt64 := none
  creator : Option String := none
  proxyAddress : Option String := none
  proxySign : Option String := none
  buyer : Option (Authorization .buyer) := none
  seller1 : Option (Authorization .seller1) := none
  seller2 : Option (Authorization .seller2) := none
  exchangerAuth : Option (Authorization .exchangerAuth) := none
  buyerAuth : Option (Authorization .buyerAuth) := none
  sellerAuth : Option (Authorization .sellerAuth) := none
deriving DecidableEq

namespace Payload

/-- The fields in the order in which they are written. -/
def fields :=
  Fields.cons (.required "type" .uint8) <|
  .cons (.required "version" .string) <|
  .cons (.sparse "nft_address" .string) <|
  .cons (.sparse "exchanger" .string) <|
  .cons (.sparse "royalty" .uint32) <|
  .cons (.sparse "meta_url" .string) <|
  .cons (.sparse "fee_rate" .uint32) <|
  .cons (.sparse "name" .string) <|
  .cons (.sparse "url" .string) <|
  .cons (.sparse "dir" .string) <|
  .cons (.sparse "start_index" .string) <|
  .cons (.sparse "number" .uint64) <|
  .cons (.sparse "creator" .string) <|
  .cons (.sparse "proxy_address" .string) <|
  .cons (.sparse "proxy_sign" .string) <|
  .cons (.sparse "buyer" (Authorization.codec .buyer)) <|
  .cons (.sparse "seller1" (Authorization.codec .seller1)) <|
  .cons (.sparse "seller2" (Authorization.codec .seller2)) <|
  .cons (.sparse "exchanger_auth" (Authorization.codec .exchangerAuth)) <|
  .cons (.sparse "buyer_auth" (Authorization.codec .buyerAuth)) <|
  .cons (.sparse "seller_auth" (Authorization.codec .sellerAuth)) <|
  .nil

def codec : Codec Payload :=
  .record fields
    (fun p => (
      p.typeCode, p.version, p.nftAddress, p.exchanger, p.royalty, p.metaUrl, p.feeRate, p.name,
      p.url, p.dir, p.startIndex, p.number, p.creator, p.proxyAddress, p.proxySign, p.buyer,
      p.seller1, p.seller2, p.exchangerAuth, p.buyerAuth, p.sellerAuth, ()))
    (fun (a, b, c, d, e, f, g, h, i, j, k, l, m, n, o, p, q, r, s, t, u, ()) =>
      ⟨a, b, c, d, e, f, g, h, i, j, k, l, m, n, o, p, q, r, s, t, u⟩)

/-- The payload of an action without parameters. -/
def ofAction (action : Action) (version : String) : Except AuthorizationError Payload :=
  match action.code? with
  | some code => .ok { typeCode := code, version := version }
  | none => .error (.noPayload action)

/-- The action of the payload. -/
def action (p : Payload) : Except AuthorizationError Action :=
  match Action.ofCode? p.typeCode with
  | some action => .ok action
  | none => .error (.unknownAction p.typeCode)

/-- The authorization that is embedded for a role. -/
def authorization? (p : Payload) : (role : Role) → Option (Authorization role)
  | .buyer => p.buyer
  | .seller1 => p.seller1
  | .seller2 => p.seller2
  | .exchangerAuth => p.exchangerAuth
  | .buyerAuth => p.buyerAuth
  | .sellerAuth => p.sellerAuth
  | .delegate => none

/-- The roles that can be embedded, in the order in which they are looked at. -/
def roleOrder : List Role :=
  [.buyer, .seller1, .seller2, .buyerAuth, .sellerAuth, .exchangerAuth]

/-- The roles that are embedded. -/
def presentRoles (p : Payload) : List Role :=
  roleOrder.filter fun role => (p.authorization? role).isSome

/-- Checks that the embedded roles are exactly those of the action. -/
def validate (p : Payload) : Except AuthorizationError Unit := do
  let action ← p.action
  match action.roles.find? fun role => !p.presentRoles.contains role with
  | some role => .error (.missingRole action role)
  | none =>
    match p.presentRoles.find? fun role => !action.roles.contains role with
    | some role => .error (.unexpectedRole action role)
    | none => return ()

/-- What transaction data starts with if it holds a payload. -/
def mark : String := "wormholes:"

/-- The text of the transaction data. -/
def text (p : Payload) : String := mark ++ codec.render p

/-- The transaction data. -/
def toData (p : Payload) : Except AuthorizationError Bytes := do
  p.validate
  return Bytes.ofText p.text

/-- Whether transaction data starts with the mark. -/
def isMarked (data : Bytes) : Bool := (Bytes.ofText mark).isPrefixOf data

/-- Reads transaction data. -/
def ofData (data : Bytes) : Except AuthorizationError Payload :=
  if isMarked data then
    (codec.parseBytes (data.drop (Bytes.ofText mark).length)).mapError fun e => .json e.message
  else .error .missingMark

end Payload

/-- What the transaction of an action needs apart from nonce and prices. -/
structure Intent where
  action : Action
  recipient : Address
  value : UInt256
  data : Bytes
deriving DecidableEq

namespace Intent

/-- The transaction that carries a payload. -/
def ofPayload (p : Payload) (recipient : Address) (value : UInt256) :
    Except AuthorizationError Intent := do
  let action ← p.action
  let data ← p.toData
  return ⟨action, recipient, value, data⟩

/-- A transfer of value with data of any kind. -/
def plain (recipient : Address) (value : UInt256) (data : Bytes) : Intent :=
  ⟨.normalTransaction, recipient, value, data⟩

end Intent

end NftExchange
