import NftExchange.Json.Quantity
import NftExchange.Json.Record

/-!
# Accounts

What the node reports of an account: its balance, the state of pledges, exchange and votes that
is attached to it, and the NFT that it is if its address is that of an NFT. The node leaves out
what it has no value for, so every field has a default.
-/

namespace NftExchange

/-- Pledges, exchange and votes of an account. -/
structure PledgeState where
  pledgedBalance : Option UInt256 := none
  pledgedBlockNumber : Option UInt256 := none
  exchangerFlag : Bool := false
  blockNumber : Option UInt256 := none
  exchangerBalance : Option UInt256 := none
  snftAgentRecipient : Option Address := none
  voteBlockNumber : Option UInt256 := none
  voteWeight : Option UInt256 := none
  coefficient : UInt8 := 0
  feeRate : UInt16 := 0
  exchangerName : String := ""
  exchangerUrl : String := ""
  approveAddressList : List Address := []
  snftNoMerge : Bool := false
  lockSnftFlag : Bool := false
  nftBalance : UInt64 := 0
deriving DecidableEq

namespace PledgeState

/-- The fields in the order in which they are written. -/
def fields :=
  Fields.cons (.defaulted "PledgedBalance" (.nullable .quantity) none) <|
  .cons (.defaulted "PledgedBlockNumber" (.nullable .quantity) none) <|
  .cons (.defaulted "ExchangerFlag" .bool false) <|
  .cons (.defaulted "BlockNumber" (.nullable .quantity) none) <|
  .cons (.defaulted "ExchangerBalance" (.nullable .quantity) none) <|
  .cons (.defaulted "SNFTAgentRecipient" (.nullable .address) none) <|
  .cons (.defaulted "VoteBlockNumber" (.nullable .quantity) none) <|
  .cons (.defaulted "VoteWeight" (.nullable .quantity) none) <|
  .cons (.defaulted "Coefficient" .uint8 0) <|
  .cons (.defaulted "FeeRate" .uint16 0) <|
  .cons (.defaulted "ExchangerName" .string "") <|
  .cons (.defaulted "ExchangerURL" .string "") <|
  .cons (.defaulted "ApproveAddressList" (.list .address) []) <|
  .cons (.defaulted "SNFTNoMerge" .bool false) <|
  .cons (.defaulted "LockSNFTFlag" .bool false) <|
  .cons (.defaulted "NFTBalance" .uint64 0) <|
  .nil

def codec : Codec PledgeState :=
  .record fields
    (fun p => (p.pledgedBalance, p.pledgedBlockNumber, p.exchangerFlag, p.blockNumber,
      p.exchangerBalance, p.snftAgentRecipient, p.voteBlockNumber, p.voteWeight, p.coefficient,
      p.feeRate, p.exchangerName, p.exchangerUrl, p.approveAddressList, p.snftNoMerge,
      p.lockSnftFlag, p.nftBalance, ()))
    (fun (a, b, c, d, e, f, g, h, i, j, k, l, m, n, o, p, ()) =>
      ⟨a, b, c, d, e, f, g, h, i, j, k, l, m, n, o, p⟩)

end PledgeState

/-- The NFT that an account is. -/
structure AccountNft where
  name : String := ""
  symbol : String := ""
  price : Option UInt256 := none
  /-- Zero: not traded, one: by the buyer, two: by the seller. -/
  direction : UInt8 := 0
  owner : Option Address := none
  approveAddress : Option Address := none
  mergeLevel : UInt8 := 0
  creator : Option Address := none
  royalty : UInt32 := 0
  exchanger : Option Address := none
  metaUrl : String := ""
deriving DecidableEq

namespace AccountNft

/-- The fields in the order in which they are written. -/
def fields :=
  Fields.cons (.defaulted "Name" .string "") <|
  .cons (.defaulted "Symbol" .string "") <|
  .cons (.defaulted "Price" (.nullable .quantity) none) <|
  .cons (.defaulted "Direction" .uint8 0) <|
  .cons (.defaulted "Owner" (.nullable .address) none) <|
  .cons (.defaulted "NFTApproveAddressList" (.nullable .address) none) <|
  .cons (.defaulted "MergeLevel" .uint8 0) <|
  .cons (.defaulted "Creator" (.nullable .address) none) <|
  .cons (.defaulted "Royalty" .uint32 0) <|
  .cons (.defaulted "Exchanger" (.nullable .address) none) <|
  .cons (.defaulted "MetaURL" .string "") <|
  .nil

def codec : Codec AccountNft :=
  .record fields
    (fun n => (n.name, n.symbol, n.price, n.direction, n.owner, n.approveAddress, n.mergeLevel,
      n.creator, n.royalty, n.exchanger, n.metaUrl, ()))
    (fun (a, b, c, d, e, f, g, h, i, j, k, ()) => ⟨a, b, c, d, e, f, g, h, i, j, k⟩)

end AccountNft

/-- The state of an account. -/
structure AccountInfo where
  nonce : UInt64 := 0
  balance : Option UInt256 := none
  root : Option Hash := none
  pledges : Option PledgeState := none
  nft : AccountNft := {}
deriving DecidableEq

namespace AccountInfo

/-- The fields in the order in which they are written. -/
def fields :=
  Fields.cons (.defaulted "Nonce" .uint64 0) <|
  .cons (.defaulted "Balance" (.nullable .quantity) none) <|
  .cons (.defaulted "Root" (.nullable .hash) none) <|
  .cons (.defaulted "Worm" (.nullable PledgeState.codec) none) <|
  .cons (.defaulted "Nft" AccountNft.codec {}) <|
  .nil

def codec : Codec AccountInfo :=
  .record fields
    (fun a => (a.nonce, a.balance, a.root, a.pledges, a.nft, ()))
    (fun (a, b, c, d, e, ()) => ⟨a, b, c, d, e⟩)

end AccountInfo

end NftExchange
