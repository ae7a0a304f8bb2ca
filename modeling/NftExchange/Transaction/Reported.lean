import NftExchange.Json.Quantity
import NftExchange.Json.Record
import NftExchange.Transaction.Basic

/-!
# Reported transactions

The form in which the node reports a transaction: an object of quantities. `ofSigned` writes a
signed transaction in this form and `toSigned` reads it back; transactions without signature and
those that create a contract have no signed form here.
-/

namespace NftExchange

/-- A transaction as the node reports it. -/
structure ReportedTransaction where
  nonce : UInt256
  gasPrice : UInt256
  gas : UInt256
  recipient : Option Address
  value : UInt256
  /-- The data as hexadecimal text. -/
  input : String
  v : Option UInt256
  r : Option UInt256
  s : Option UInt256
  blockHash : Option Hash
  sender : Option Address
deriving DecidableEq

namespace ReportedTransaction

/-- The fields in the order in which they are written. -/
def fields :=
  Fields.cons (.required "nonce" .quantity) <|
  .cons (.required "gasPrice" .quantity) <|
  .cons (.required "gas" .quantity) <|
  .cons (.optional "to" .address) <|
  .cons (.required "value" .quantity) <|
  .cons (.required "input" .string) <|
  .cons (.optional "v" .quantity) <|
  .cons (.optional "r" .quantity) <|
  .cons (.optional "s" .quantity) <|
  .cons (.sparse "blockHash" .hash) <|
  .cons (.sparse "from" .address) <|
  .nil

def codec : Codec ReportedTransaction :=
  .record fields
    (fun t => (t.nonce, t.gasPrice, t.gas, t.recipient, t.value, t.input, t.v, t.r, t.s,
      t.blockHash, t.sender, ()))
    (fun (a, b, c, d, e, f, g, h, i, j, k, ()) => ⟨a, b, c, d, e, f, g, h, i, j, k⟩)

/-- A signed transaction in the reported form. -/
def ofSigned (tx : SignedTransaction) : ReportedTransaction where
  nonce := .ofNat 256 tx.nonce.toNat
  gasPrice := tx.gasPrice
  gas := .ofNat 256 tx.gasLimit.toNat
  recipient := some tx.recipient
  value := tx.value
  input := Hex.marked tx.data
  v := some (.ofNat 256 tx.v.toNat)
  r := some tx.r
  s := some tx.s
  blockHash := none
  sender := none

/-- A quantity as a 64-bit number; `method` and `field` name it in the error. -/
def narrow (method field : String) (q : UInt256) : Except GatewayError UInt64 :=
  match UInt64.ofNat? q.toNat with
  | some n => .ok n
  | none =>
    .error (.undecodable method (field ++ " " ++ Hex.quantity q.toNat ++ " does not fit in u64"))

/-- The signed transaction that was reported in answer to `method`. -/
def toSigned (method : String) (t : ReportedTransaction) : Except GatewayError SignedTransaction :=
  match t.v, t.r, t.s with
  | some v, some r, some s =>
    if r = 0 ∧ s = 0 then unsigned
    else
      match t.recipient with
      | none => .error (.undecodable method "contract creation is not supported")
      | some recipient => do
        return {
          nonce := ← narrow method "nonce" t.nonce
          gasPrice := t.gasPrice
          gasLimit := ← narrow method "gas" t.gas
          recipient := recipient
          value := t.value
          data := ← (Hex.parseBytes t.input).mapError fun e => .undecodable method e.message
          v := ← narrow method "v" v
          r := r
          s := s }
  | _, _, _ => unsigned
where
  unsigned : Except GatewayError SignedTransaction :=
    .error (.undecodable method "server returned transaction without signature")

end ReportedTransaction

end NftExchange
