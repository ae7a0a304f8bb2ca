import NftExchange.Gateway.Session
import NftExchange.Node.Basic
import NftExchange.Transaction.Reported

/-!
# The methods of the node

What a node answers to the methods that a client calls: its chain, accounts and accepted
transactions. Only sending a transaction changes the node. `Node.gateway` is the node as a gateway
for sessions.
-/

namespace NftExchange.Node

/-- How an accepted transaction is reported. -/
def reported (e : Executed) : ReportedTransaction :=
  { ReportedTransaction.ofSigned e.transaction with
    blockHash := some (blockHash e.block)
    sender := some e.sender }

/-- A quantity as an answer. -/
def quantity (n : Nat) : Json := .str (Hex.quantity n)

/-- Refuses the parameters of a call. -/
def badParameters (method message : String) : GatewayError := .rejected method (-32602) message

/-- The text at an index of the parameters. -/
def textParameter (method : String) (params : List Json) (index : Nat) :
    Except GatewayError String :=
  match params[index]? with
  | some (.str text) => .ok text
  | _ => .error (badParameters method ("missing string parameter " ++ toString index))

/-- The value that a text at an index of the parameters spells. -/
def parameter {α : Type} (method : String) (params : List Json) (index : Nat)
    (parse : String → Except EncodingError α) : Except GatewayError α := do
  let text ← textParameter method params index
  (parse text).mapError fun e => badParameters method e.message

/-- Answers a call that only looks at the node. -/
def answer (node : Node) (method : String) (params : List Json) : Answer :=
  match method with
  | "eth_chainId" => return quantity chainId.toNat
  | "net_version" => return .str (toString chainId.toNat)
  | "eth_blockNumber" => return quantity node.height.toNat
  | "eth_gasPrice" => return quantity gasPrice.toNat
  | "eth_getTransactionCount" => do
    let account ← parameter method params 0 Address.parse
    return quantity (node.ledger.get account).nonce.toNat
  | "eth_getBalance" => do
    let account ← parameter method params 0 Address.parse
    return quantity (node.ledger.get account).balance.toNat
  | "eth_getTransactionReceipt" => do
    let hash ← parameter method params 0 Hash.parse
    match node.receipts.get? hash with
    | some receipt => return (Receipt.codec.encode receipt).sorted
    | none => return .null
  | "eth_getTransactionByBlockHashAndIndex" => do
    let block ← parameter method params 0 Hash.parse
    let index ← parameter method params 1 Hex.parseUInt64
    match node.executed.find? fun e => index == 0 && blockHash e.block == block with
    | some e => return (ReportedTransaction.codec.encode (reported e)).sorted
    | none => return .null
  | _ => .error (.rejected method (-32601) "the method does not exist/is not available")

/-- Mines the transaction that the parameters carry; its digest is the answer. -/
def acceptRaw [SignatureScheme] (method : String) (params : List Json) :
    ExceptT GatewayError (StateM Node) Json := do
  let raw ← ofExcept (parameter method params 0 Hex.parseBytes)
  let hash ← (execute raw).adapt fun r => .rejected method (-32000) r.message
  return .str hash.text

/-- Answers a call. -/
def invoke [SignatureScheme] (method : String) (params : List Json) (node : Node) :
    Answer × Node :=
  if method = "eth_sendRawTransaction" then (acceptRaw method params).run.run node
  else (node.answer method params, node)

/-- A node as a gateway. -/
def gateway [SignatureScheme] : Gateway Node := ⟨invoke⟩

end NftExchange.Node
