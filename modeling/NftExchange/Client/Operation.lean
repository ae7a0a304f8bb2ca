import NftExchange.Chain.OfficialBatch
import NftExchange.Payload

/-!
# Operations

What a user can ask a client to do with a payload: an action with everything that it takes. An
operation says which slots of the payload it fills, to whom its transaction goes and what value
the transaction carries; nonce, prices and signature are the client's business.
-/

namespace NftExchange

/-- An action with what it takes. -/
inductive Operation where
  /-- Makes an NFT that belongs to the caller; no `exchanger` means that any may trade it. -/
  | mint (royalty : UInt32) (metaUrl exchanger : String)
  | transfer (nftAddress : String) (recipient : Address)
  | author (nftAddress : String) (recipient : Address)
  | authorRevoke (nftAddress : String) (recipient : Address)
  | accountAuthor (recipient : Address)
  | accountAuthorRevoke (recipient : Address)
  | snftToErb (nftAddress : String)
  | insertNftBlock (batch : OfficialBatch)
  | voteOfficialNft (batch : OfficialBatch)
  | voteOfficialNftByApprovedExchanger (batch : OfficialBatch)
      (exchangerAuth : Authorization .exchangerAuth)
  /-- A seller takes a buyer's offer. -/
  | transactionNft (buyer : Authorization .buyer) (recipient : Address)
  /-- A buyer takes a seller's listing and pays its amount. -/
  | buyerInitiatingTransaction (seller1 : Authorization .seller1)
  /-- A buyer takes the listing of an NFT that is minted with the trade, and pays its amount. -/
  | foundryTradeBuyer (seller2 : Authorization .seller2)
  | foundryExchange (buyer : Authorization .buyer) (seller2 : Authorization .seller2)
      (recipient : Address)
  | nftExchangeMatch (buyer : Authorization .buyer) (seller1 : Authorization .seller1)
      (exchangerAuth : Authorization .exchangerAuth) (recipient : Address)
  | foundryExchangeInitiated (buyer : Authorization .buyer) (seller2 : Authorization .seller2)
      (exchangerAuth : Authorization .exchangerAuth) (recipient : Address)
  | nftDoesNotAuthorizeExchanges (buyer : Authorization .buyer) (seller1 : Authorization .seller1)
      (recipient : Address)
  | batchSellTransfer (buyer : Authorization .buyer) (seller1 : Authorization .seller1)
      (buyerAuth : Authorization .buyerAuth) (sellerAuth : Authorization .sellerAuth)
      (exchangerAuth : Authorization .exchangerAuth) (recipient : Address)
  | forceBuyingTransfer (buyer : Authorization .buyer) (buyerAuth : Authorization .buyerAuth)
      (exchangerAuth : Authorization .exchangerAuth) (recipient : Address)
  /-- Pledges value, for the caller itself or with a proxy that agreed. -/
  | tokenPledge (proxyAddress : String) (proxySign : Option Signature) (name url : String)
      (feeRate : UInt32) (value : UInt256)
  | tokenRevokesPledge (value : UInt256)
  | openExchange (feeRate : UInt32) (name url : String)
  | closeExchange
  | additionalPledgeAmount (value : UInt256)
  | revokesPledgeAmount (value : UInt256)
  | unfrozenAccount
  | weightRedemption
  | extractErb
  | accountDelegate (proxySign : Signature) (proxyAddress : String)

namespace Operation

/-- The action of an operation. -/
def action : Operation → Action
  | mint .. => .mint
  | transfer .. => .transfer
  | author .. => .author
  | authorRevoke .. => .authorRevoke
  | accountAuthor .. => .accountAuthor
  | accountAuthorRevoke .. => .accountAuthorRevoke
  | snftToErb .. => .snftToErb
  | insertNftBlock .. => .insertNftBlock
  | voteOfficialNft .. => .voteOfficialNft
  | voteOfficialNftByApprovedExchanger .. => .voteOfficialNftByApprovedExchanger
  | transactionNft .. => .transactionNft
  | buyerInitiatingTransaction .. => .buyerInitiatingTransaction
  | foundryTradeBuyer .. => .foundryTradeBuyer
  | foundryExchange .. => .foundryExchange
  | nftExchangeMatch .. => .nftExchangeMatch
  | foundryExchangeInitiated .. => .foundryExchangeInitiated
  | nftDoesNotAuthorizeExchanges .. => .nftDoesNotAuthorizeExchanges
  | batchSellTransfer .. => .batchSellTransfer
  | forceBuyingTransfer .. => .forceBuyingTransfer
  | tokenPledge .. => .tokenPledge
  | tokenRevokesPledge .. => .tokenRevokesPledge
  | openExchange .. => .openExchange
  | closeExchange => .closeExchange
  | additionalPledgeAmount .. => .additionalPledgeAmount
  | revokesPledgeAmount .. => .revokesPledgeAmount
  | unfrozenAccount => .unfrozenAccount
  | weightRedemption => .weightRedemption
  | extractErb => .extractErb
  | accountDelegate .. => .accountDelegate

/-- The payload with a batch in its slots. -/
def withBatch (p : Payload) (batch : OfficialBatch) : Payload :=
  { p with
    dir := some batch.dir
    startIndex := some batch.startIndex
    number := some batch.number
    royalty := some batch.royalty
    creator := some batch.creator }

/-- The payload with the operation's arguments in their slots. -/
def fill (p : Payload) : Operation → Payload
  | mint royalty metaUrl exchanger =>
    { p with royalty := some royalty, metaUrl := some metaUrl, exchanger := some exchanger }
  | transfer nftAddress _ | author nftAddress _ | authorRevoke nftAddress _
  | snftToErb nftAddress => { p with nftAddress := some nftAddress }
  | insertNftBlock batch | voteOfficialNft batch => withBatch p batch
  | voteOfficialNftByApprovedExchanger batch exchangerAuth =>
    { withBatch p batch with exchangerAuth := some exchangerAuth }
  | transactionNft buyer _ => { p with buyer := some buyer }
  | buyerInitiatingTransaction seller1 => { p with seller1 := some seller1 }
  | foundryTradeBuyer seller2 => { p with seller2 := some seller2 }
  | foundryExchange buyer seller2 _ => { p with buyer := some buyer, seller2 := some seller2 }
  | nftExchangeMatch buyer seller1 exchangerAuth _ =>
    { p with
      buyer := some buyer, seller1 := some seller1, exchangerAuth := some exchangerAuth }
  | foundryExchangeInitiated buyer seller2 exchangerAuth _ =>
    { p with
      buyer := some buyer, seller2 := some seller2, exchangerAuth := some exchangerAuth }
  | nftDoesNotAuthorizeExchanges buyer seller1 _ =>
    { p with buyer := some buyer, seller1 := some seller1 }
  | batchSellTransfer buyer seller1 buyerAuth sellerAuth exchangerAuth _ =>
    { p with
      buyer := some buyer, seller1 := some seller1, buyerAuth := some buyerAuth,
      sellerAuth := some sellerAuth, exchangerAuth := some exchangerAuth }
  | forceBuyingTransfer buyer buyerAuth exchangerAuth _ =>
    { p with
      buyer := some buyer, buyerAuth := some buyerAuth, exchangerAuth := some exchangerAuth }
  | tokenPledge proxyAddress proxySign name url feeRate _ =>
    { p with
      proxyAddress := some proxyAddress, proxySign := some ((proxySign.map Signature.toHex).getD ""),
      name := some name, url := some url, feeRate := some feeRate }
  | openExchange feeRate name url =>
    { p with feeRate := some feeRate, name := some name, url := some url }
  | accountDelegate proxySign proxyAddress =>
    { p with proxySign := some proxySign.toHex, proxyAddress := some proxyAddress }
  | accountAuthor _ | accountAuthorRevoke _ | tokenRevokesPledge _ | closeExchange
  | additionalPledgeAmount _ | revokesPledgeAmount _ | unfrozenAccount | weightRedemption
  | extractErb => p

/-- To whom the transaction goes, if not to the caller. -/
def recipient? : Operation → Option Address
  | transfer _ recipient | author _ recipient | authorRevoke _ recipient
  | accountAuthor recipient | accountAuthorRevoke recipient | transactionNft _ recipient
  | foundryExchange _ _ recipient | nftExchangeMatch _ _ _ recipient
  | foundryExchangeInitiated _ _ _ recipient | nftDoesNotAuthorizeExchanges _ _ recipient
  | batchSellTransfer _ _ _ _ _ recipient | forceBuyingTransfer _ _ _ recipient => some recipient
  | _ => none

/-- The value that the transaction carries. A buyer who takes a listing pays the amount that the
listing names. -/
def value : Operation → Except EncodingError UInt256
  | buyerInitiatingTransaction seller1 => Hex.parseQuantity (seller1.message.get "amount")
  | foundryTradeBuyer seller2 => Hex.parseQuantity (seller2.message.get "amount")
  | tokenPledge _ _ _ _ _ value | tokenRevokesPledge value | additionalPledgeAmount value
  | revokesPledgeAmount value => .ok value
  | _ => .ok 0

/-- The payload of an operation. -/
def payload (op : Operation) (version : String) : Except AuthorizationError Payload := do
  return op.fill (← Payload.ofAction op.action version)

end Operation

end NftExchange
