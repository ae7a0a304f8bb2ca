import NftExchange.Chain.Account
import NftExchange.Chain.Mining
import NftExchange.Chain.Receipt
import NftExchange.Gateway.Session
import NftExchange.Transaction.Reported

/-!
# Questions to a node

Each question is one call: a method, its parameters, and how the answer is read. Where a node
answers `null`, the question says whether that means that the thing is not there, that there are
none of it, or that the answer is wrong.
-/

namespace NftExchange

/-- The state that a question is about: named by a word or by its height. -/
inductive BlockId where
  | latest
  | earliest
  | pending
  | height (number : UInt64)
deriving DecidableEq

/-- The parameter that names a state. -/
def BlockId.text : BlockId → String
  | latest => "latest"
  | earliest => "earliest"
  | pending => "pending"
  | height number => Hex.quantity number.toNat

namespace Ask

variable {α : Type}

/-- Reads an answer. -/
def decode (method : String) (codec : Codec α) (answer : Json) : Except GatewayError α :=
  (codec.decode answer).mapError fun e => .undecodable method e.message

/-- Reads an answer that is `null` if the thing does not exist; `what` names it then. -/
def decodePresent (method what : String) (codec : Codec α) : Json → Except GatewayError α
  | .null => .error (.notFound what)
  | answer => decode method codec answer

/-- Reads an answer that is `null` if there is nothing to list. -/
def decodeOrEmpty (method : String) (codec : Codec α) (empty : α) : Json → Except GatewayError α
  | .null => .ok empty
  | answer => decode method codec answer

/-- Reads an answer that is the text of a 64-bit quantity. -/
def decodeUInt64 (method : String) (answer : Json) : Except GatewayError UInt64 := do
  let text ← decode method .string answer
  (Hex.parseUInt64 text).mapError fun e => .undecodable method e.message

/-- Reads an answer that is a decimal text. -/
def decodeDecimal (method : String) (answer : Json) : Except GatewayError UInt64 := do
  let text ← decode method .string answer
  match (Decimal.parseSigned? (Bytes.ofText text)).bind UInt64.ofNat? with
  | some n => return n
  | none => .error (.undecodable method ("invalid net_version " ++ Text.quoted text))

/-- Calls a method and reads the answer. -/
def ask (method : String) (params : List Json) (read : String → Json → Except GatewayError α) :
    Attempt GatewayError α := do
  let answer ← Attempt.call method params
  Attempt.ofExcept (read method answer)

/-- The parameter for a height or an index. -/
def number (n : UInt64) : Json := .str (Hex.quantity n.toNat)

/-- The parameter for an address or a digest. -/
def fixed {width : Nat} (a : FixedBytes width) : Json := .str a.text

/-- The chain that the node serves. -/
def chainId : Attempt GatewayError UInt64 := ask "eth_chainId" [] decodeUInt64

/-- The network that the node is in. -/
def networkId : Attempt GatewayError UInt64 := ask "net_version" [] decodeDecimal

/-- The height of the chain. -/
def blockNumber : Attempt GatewayError UInt64 := ask "eth_blockNumber" [] decodeUInt64

/-- The next nonce of an account, transactions that wait included. -/
def pendingNonce (account : Address) : Attempt GatewayError UInt64 :=
  ask "eth_getTransactionCount" [fixed account, .str BlockId.pending.text] decodeUInt64

/-- The price of gas. -/
def gasPrice : Attempt GatewayError UInt256 :=
  ask "eth_gasPrice" [] fun method => decode method .quantity

/-- The balance of an account in a state. -/
def balanceAt (account : Address) (block : BlockId) : Attempt GatewayError UInt256 :=
  ask "eth_getBalance" [fixed account, .str block.text] fun method => decode method .quantity

/-- The balance of an account, transactions that wait included. -/
def balance (account : Address) : Attempt GatewayError UInt256 := balanceAt account .pending

/-- The receipt of a transaction that is in a block. -/
def receipt (hash : Hash) : Attempt GatewayError Receipt :=
  ask "eth_getTransactionReceipt" [fixed hash] fun method =>
    decodePresent method ("receipt " ++ hash.text) Receipt.codec

/-- The transaction at an index of a block. -/
def transactionInBlock (blockHash : Hash) (index : UInt64) :
    Attempt GatewayError SignedTransaction :=
  ask "eth_getTransactionByBlockHashAndIndex" [fixed blockHash, number index]
    fun method answer => do
      let reported ← decodePresent method
        ("transaction " ++ toString index.toNat ++ " of block " ++ blockHash.text)
        ReportedTransaction.codec answer
      reported.toSigned method

/-- The state of an account at a height. -/
def accountInfo (account : Address) (height : UInt64) : Attempt GatewayError AccountInfo :=
  ask "eth_getAccountInfo" [fixed account, number height] fun method =>
    decodePresent method ("account " ++ account.text) AccountInfo.codec

/-- The validators at a height. -/
def validators (height : UInt64) : Attempt GatewayError ValidatorList :=
  ask "eth_getValidator" [number height] fun method =>
    decodePresent method ("validators at " ++ toString height.toNat) ValidatorList.codec

/-- Who was rewarded for a block. -/
def beneficiaries (height : UInt64) : Attempt GatewayError (List Beneficiary) :=
  ask "eth_getBlockBeneficiaryAddressByNumber" [number height, .bool true] fun method =>
    decodePresent method ("beneficiaries of block " ++ toString height.toNat)
      (.list Beneficiary.codec)

/-- The proxies of an account at a height. -/
def minerProxies (height : UInt64) (account : Address) : Attempt GatewayError (List MinerProxy) :=
  ask "eth_queryMinerProxy" [number height, fixed account] fun method =>
    decodeOrEmpty method (.list MinerProxy.codec) []

/-- The active pool at a height. -/
def activePool (height : UInt64) : Attempt GatewayError ActiveMinerList :=
  ask "eth_getActiveLivePool" [number height] fun method =>
    decodeOrEmpty method ActiveMinerList.codec {}

/-- Submits a signed transaction; the node answers with its digest. -/
def sendRaw (raw : Bytes) : Attempt GatewayError Hash :=
  ask "eth_sendRawTransaction" [.str (Hex.marked raw)] fun method => decode method .hash

end Ask

end NftExchange
