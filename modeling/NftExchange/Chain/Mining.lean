import NftExchange.Json.Quantity
import NftExchange.Json.Record

/-!
# Validators and miners

What the node reports of the accounts that produce blocks: the validators at a height, who was
rewarded, which miners are active and which proxies they have.
-/

namespace NftExchange

/-- A validator with its stake. -/
structure Validator where
  address : Option Address := none
  balance : Option UInt256 := none
  proxy : Option Address := none
  weight : List UInt256 := []
deriving DecidableEq

namespace Validator

def fields :=
  Fields.cons (.defaulted "Addr" (.nullable .address) none) <|
  .cons (.defaulted "Balance" (.nullable .quantity) none) <|
  .cons (.defaulted "Proxy" (.nullable .address) none) <|
  .cons (.defaulted "Weight" (.list .quantity) []) <|
  .nil

def codec : Codec Validator :=
  .record fields (fun v => (v.address, v.balance, v.proxy, v.weight, ()))
    (fun (a, b, c, d, ()) => ⟨a, b, c, d⟩)

end Validator

/-- The validators at a height. -/
structure ValidatorList where
  validators : List Validator := []
deriving DecidableEq

namespace ValidatorList

def fields :=
  Fields.cons (.defaulted "Validators" (.list Validator.codec) []) <|
  .nil

def codec : Codec ValidatorList :=
  .record fields (fun l => (l.validators, ())) (fun (a, ()) => ⟨a⟩)

end ValidatorList

/-- The recipient of a block's reward and the NFT that it received. -/
structure Beneficiary where
  address : Address
  nftAddress : Address
deriving DecidableEq

namespace Beneficiary

def fields :=
  Fields.cons (.required "Address" .address) <|
  .cons (.required "NftAddress" .address) <|
  .nil

def codec : Codec Beneficiary :=
  .record fields (fun b => (b.address, b.nftAddress, ())) (fun (a, b, ()) => ⟨a, b⟩)

end Beneficiary

/-- A miner in the active pool. -/
structure ActiveMiner where
  address : Address
  balance : Option UInt256
  height : UInt64
deriving DecidableEq

namespace ActiveMiner

def fields :=
  Fields.cons (.required "Address" .address) <|
  .cons (.optional "Balance" .quantity) <|
  .cons (.required "Height" .uint64) <|
  .nil

def codec : Codec ActiveMiner :=
  .record fields (fun m => (m.address, m.balance, m.height, ())) (fun (a, b, c, ()) => ⟨a, b, c⟩)

end ActiveMiner

/-- The active pool. -/
structure ActiveMinerList where
  activeMiners : List ActiveMiner := []
deriving DecidableEq

namespace ActiveMinerList

def fields :=
  Fields.cons (.defaulted "ActiveMiners" (.list ActiveMiner.codec) []) <|
  .nil

def codec : Codec ActiveMinerList :=
  .record fields (fun l => (l.activeMiners, ())) (fun (a, ()) => ⟨a⟩)

end ActiveMinerList

/-- A miner and its registered proxy. -/
structure MinerProxy where
  address : Address
  proxy : Address
deriving DecidableEq

namespace MinerProxy

def fields :=
  Fields.cons (.required "Address" .address) <|
  .cons (.required "Proxy" .address) <|
  .nil

def codec : Codec MinerProxy :=
  .record fields (fun m => (m.address, m.proxy, ())) (fun (a, b, ()) => ⟨a, b⟩)

end MinerProxy

end NftExchange
