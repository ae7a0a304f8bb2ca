import NftExchange.Chain.Receipt
import NftExchange.Node.Ledger
import NftExchange.Payload
import NftExchange.Transaction.Basic

/-!
# The node

A node in memory, which checks what a real one checks and mines every transaction that it accepts
into a block of its own. `execute` does so step by step on the state of the node. `examine` says
whether raw bytes are acceptable and what is learned from them, and `record` what becomes of the
node then. Gas is not charged.
-/

namespace NftExchange

/-- Why a node does not accept a transaction. -/
inductive Rejection where
  | undecodable (cause : GatewayError)
  | chain (actual : Option UInt64)
  | sender (cause : GatewayError)
  | nonce (actual expected : UInt64)
  | funds
  | payload (cause : AuthorizationError)
  | deadline (role : Role) (cause : EncodingError)
  | expired (role : Role) (deadline : UInt64)
  | signature (role : Role) (cause : AuthorizationError)
  /-- An account that the owner's authorization names cannot be read. -/
  | party (cause : EncodingError)
  /-- The owner's authorization was signed by someone else. -/
  | owner (owner : Address)
  /-- The owner's authorization is for another submitter. -/
  | submitter (grantee : Address)
deriving DecidableEq

/-- The wording of a rejection. -/
def Rejection.message : Rejection → String
  | .undecodable cause => cause.message
  | .chain none => "invalid chain id None"
  | .chain (some chainId) => "invalid chain id Some(" ++ toString chainId.toNat ++ ")"
  | .sender cause => "invalid sender: " ++ cause.message
  | .nonce actual expected =>
    "invalid nonce: have " ++ toString actual.toNat ++ ", want " ++ toString expected.toNat
  | .funds => "insufficient funds for gas * price + value"
  | .payload cause => "invalid payload: " ++ cause.message
  | .deadline role cause => role.name ++ " deadline: " ++ cause.message
  | .expired role height =>
    role.name ++ " authorization expired at block " ++ toString height.toNat
  | .signature role cause => role.name ++ " signature: " ++ cause.message
  | .party cause => cause.message
  | .owner account => "exchanger_auth not signed by owner " ++ account.text
  | .submitter account => "exchanger_auth is for " ++ account.text ++ ", not the sender"

/-- A transaction that was accepted, with what was learned when it was checked. -/
structure Executed where
  block : UInt64
  sender : Address
  transaction : SignedTransaction
  payload : Option Payload
  /-- The signer of each embedded authorization. -/
  signers : List (Role × Address)
deriving DecidableEq

/-- The state of a node. -/
structure Node where
  height : UInt64
  ledger : Ledger := {}
  /-- The receipts of what was accepted, by the digest of the transaction. -/
  receipts : Table Hash Receipt := {}
  /-- What was accepted, in order. -/
  executed : List Executed := []

namespace Node

/-- The chain that the node serves. -/
def chainId : UInt64 := 51888

/-- The price of gas at the node. -/
def gasPrice : UInt256 := 1000000000

/-- A node at its first height. -/
def fresh : Node := { height := 0x670 }

/-- Gives an account an amount. -/
def fund (node : Node) (account : Address) (amount : UInt256) : Node :=
  { node with ledger := node.ledger.credit account amount }

/-- Adds blocks without transactions. -/
def mine (node : Node) (blocks : UInt64) : Node := { node with height := node.height + blocks }

/-- Changes the ledger of a node. -/
def onLedger (node : Node) (f : Ledger → Ledger) : Node := { node with ledger := f node.ledger }

/-- The digest that names the block at a height: the height in its last eight bytes. -/
def blockHash (height : UInt64) : Hash := .ofNat 32 height.toNat

/-- The receipt of an accepted transaction. -/
def receipt (e : Executed) : Receipt where
  transactionHash := e.transaction.hash
  transactionIndex := some 0
  blockHash := some (blockHash e.block)
  blockNumber := some (.ofNat 256 e.block.toNat)
  sender := some e.sender
  recipient := some e.transaction.recipient
  cumulativeGasUsed := some 21000
  gasUsed := some 21000
  contractAddress := none
  status := some 1
  logs := []

variable [SignatureScheme]

/-- The signer of an authorization that holds at a height. -/
def signerAt {role : Role} (height : UInt64) (a : Authorization role) :
    Except Rejection Address := do
  let deadline ← (Hex.parseUInt64 a.message.deadline).mapError (.deadline role)
  if deadline < height then .error (.expired role deadline)
  else a.signer.mapError (.signature role)

/-- Checks that the owner's authorization was signed by the owner and is for the submitter. -/
def checkGrant (a : Authorization .exchangerAuth) (signer submitter : Address) :
    Except Rejection Unit := do
  let owner ← (Address.parse (a.message.get "exchanger_owner")).mapError .party
  if signer ≠ owner then .error (.owner owner)
  else
    let grantee ← (Address.parse (a.message.get "to")).mapError .party
    if grantee ≠ submitter then .error (.submitter grantee) else return ()

/-- Checks what an authorization says about its signer and the submitter; only that of an owner
says anything. -/
def checkParties (submitter signer : Address) :
    (role : Role) → Authorization role → Except Rejection Unit
  | .exchangerAuth, a => checkGrant a signer submitter
  | _, _ => .ok ()

/-- Checks an authorization of any role and finds its signer. -/
def verify (height : UInt64) (submitter : Address) (role : Role) (a : Authorization role) :
    Except Rejection Address := do
  let signer ← signerAt height a
  checkParties submitter signer role a
  return signer

/-- The signers of the embedded authorizations, all of which have to hold. -/
def signers (height : UInt64) (submitter : Address) (p : Payload) :
    Except Rejection (List (Role × Address)) :=
  Payload.roleOrder.filterMapM fun role =>
    (p.authorization? role).mapM fun a => do return (role, ← verify height submitter role a)

/-- The payload in transaction data, if the data is marked as one, with its signers. -/
def examineData (height : UInt64) (submitter : Address) (data : Bytes) :
    Except Rejection (Option Payload × List (Role × Address)) :=
  if Payload.isMarked data then do
    let p ← (Payload.ofData data).mapError .payload
    p.validate.mapError .payload
    return (some p, ← signers height submitter p)
  else return (none, [])

/-! ## Execution

The checks and changes of a transaction in their order. Nothing is undone on a refusal, so it
matters that all checks come before the first change. -/

/-- A computation on the state of a node. A refusal takes back nothing that was written before. -/
abbrev Execution (α : Type) := ExceptT Rejection (StateM Node) α

/-- Refuses if the condition holds. -/
def refuseIf (condition : Prop) [Decidable condition] (r : Rejection) : Execution Unit :=
  if condition then throw r else return ()

/-- Moves the value of a transaction whose sender has `available`. -/
def pay (tx : SignedTransaction) (sender : Address) (available : UInt256) : Execution Unit := do
  if tx.recipient ≠ sender then
    modify (·.onLedger (·.setBalance sender (available - tx.value)))
    modify (·.onLedger (·.credit tx.recipient tx.value))

/-- Checks raw bytes and mines them; the digest of the transaction is the result. -/
def execute (raw : Bytes) : Execution Hash := do
  let tx ← ofExcept ((SignedTransaction.decode raw).mapError .undecodable)
  refuseIf (tx.chainId ≠ some chainId) (.chain tx.chainId)
  let sender ← ofExcept (tx.sender.mapError .sender)
  let account := (← get).ledger.get sender
  refuseIf (tx.nonce ≠ account.nonce) (.nonce tx.nonce account.nonce)
  refuseIf (account.balance < tx.value) .funds
  let (payload, signers) ← ofExcept (examineData (← get).height sender tx.data)
  pay tx sender account.balance
  modify fun node => { node with height := node.height + 1 }
  let e : Executed := ⟨(← get).height, sender, tx, payload, signers⟩
  modify (·.onLedger (·.setNonce sender (account.nonce + 1)))
  modify fun node => { node with receipts := node.receipts.insert tx.hash (receipt e) }
  modify fun node => { node with executed := node.executed ++ [e] }
  return tx.hash

/-! ## What execution amounts to

The checks by themselves and the changes by themselves. That execution is the one after the other is
a theorem. -/

/-- Checks raw bytes against the state of the node. -/
def examine (node : Node) (raw : Bytes) : Except Rejection Executed := do
  let tx ← (SignedTransaction.decode raw).mapError .undecodable
  if tx.chainId ≠ some chainId then .error (.chain tx.chainId)
  else
    let sender ← tx.sender.mapError .sender
    let account := node.ledger.get sender
    if tx.nonce ≠ account.nonce then .error (.nonce tx.nonce account.nonce)
    else if account.balance < tx.value then .error .funds
    else
      let (payload, signers) ← examineData node.height sender tx.data
      return ⟨node.height + 1, sender, tx, payload, signers⟩

/-- The node after an accepted transaction was mined. -/
def record (node : Node) (e : Executed) : Node where
  height := e.block
  ledger := (node.ledger.transfer e.sender e.transaction.recipient e.transaction.value).countNonce
    e.sender
  receipts := node.receipts.insert e.transaction.hash (receipt e)
  executed := node.executed ++ [e]

end Node

end NftExchange
