import NftExchange.Json.Quantity
import NftExchange.Json.Record

/-!
# Receipts

What the node reports of a transaction that it has executed.
-/

namespace NftExchange

/-- The receipt of a transaction. Only the digest is always there. -/
structure Receipt where
  transactionHash : Hash
  transactionIndex : Option UInt256
  blockHash : Option Hash
  blockNumber : Option UInt256
  sender : Option Address
  recipient : Option Address
  cumulativeGasUsed : Option UInt256
  gasUsed : Option UInt256
  contractAddress : Option Address
  /-- One if the execution succeeded, zero if it failed. -/
  status : Option UInt256
  logs : List Json

namespace Receipt

/-- Whether the node reports success. -/
def succeeded (r : Receipt) : Bool := r.status == some 1

/-- The fields in the order in which they are written. -/
def fields :=
  Fields.cons (.required "transactionHash" .hash) <|
  .cons (.defaulted "transactionIndex" (.nullable .quantity) none) <|
  .cons (.defaulted "blockHash" (.nullable .hash) none) <|
  .cons (.defaulted "blockNumber" (.nullable .quantity) none) <|
  .cons (.defaulted "from" (.nullable .address) none) <|
  .cons (.defaulted "to" (.nullable .address) none) <|
  .cons (.defaulted "cumulativeGasUsed" (.nullable .quantity) none) <|
  .cons (.defaulted "gasUsed" (.nullable .quantity) none) <|
  .cons (.defaulted "contractAddress" (.nullable .address) none) <|
  .cons (.defaulted "status" (.nullable .quantity) none) <|
  .cons (.defaulted "logs" (.list .json) []) <|
  .nil

def codec : Codec Receipt :=
  .record fields
    (fun r => (r.transactionHash, r.transactionIndex, r.blockHash, r.blockNumber, r.sender,
      r.recipient, r.cumulativeGasUsed, r.gasUsed, r.contractAddress, r.status, r.logs, ()))
    (fun (a, b, c, d, e, f, g, h, i, j, k, ()) => ⟨a, b, c, d, e, f, g, h, i, j, k⟩)

end Receipt

end NftExchange
