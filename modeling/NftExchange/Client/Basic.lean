import NftExchange.Client.Endpoint
import NftExchange.Client.Error
import NftExchange.Client.Operation
import NftExchange.Gateway.Ask

/-!
# The client

A wallet with a configuration. Every transaction leaves through `submit`: the chain, the nonce and
the gas price are asked for, the transaction is signed, and only then is it sent. `perform` puts an
operation into a transaction, and `authorizeUntilDeadline` signs a message that holds for the
configured number of blocks.
-/

namespace NftExchange

/-- One account at one node. -/
structure Client where
  wallet : Wallet
  config : ClientConfig
deriving DecidableEq

namespace Client

variable {α : Type}

/-- A client for a key and a configuration; first the configuration is checked, then the key, then
whether the endpoint is a URL. -/
def connect (keyText : String) (config : ClientConfig) : Except ClientError Client := do
  config.validate.mapError .config
  let wallet ← (Wallet.ofHex keyText).mapError .ofAuthorization
  if Endpoint.isUrl config.endpoint then return ⟨wallet, config⟩
  else .error (.remote (.transport "connect" "endpoint is no URL with a host"))

/-- A question to the node, with its errors sorted. -/
def query (question : Attempt GatewayError α) : Attempt ClientError α :=
  question.mapError .ofGateway

/-- The chain to sign for: the configured one, or that of the node. -/
def resolveChainId (c : Client) : Attempt ClientError UInt64 :=
  match c.config.chainId with
  | some chainId => pure chainId
  | none => query Ask.chainId

variable [SignatureScheme]

/-- The account of the client. -/
def address (c : Client) : Address := c.wallet.address

/-- Builds the transaction of an intent, signs it and sends it. -/
def submit (c : Client) (intent : Intent) : Attempt ClientError Hash := do
  let chainId ← c.resolveChainId
  let nonce ← query (Ask.pendingNonce c.address)
  let gasPrice ← query Ask.gasPrice
  let tx : Transaction := {
    nonce := nonce
    gasPrice := gasPrice
    gasLimit := c.config.gasLimit
    recipient := intent.recipient
    value := intent.value
    data := intent.data }
  let signed ← Attempt.ofExcept ((tx.sign c.wallet.key chainId).mapError .ofGateway)
  query (Ask.sendRaw signed.raw)

/-- Transfers value, with data of any kind. -/
def transferValue (c : Client) (recipient : Address) (value : UInt256) (data : Bytes) :
    Attempt ClientError Hash :=
  c.submit (.plain recipient value data)

/-- The intent of an operation; the caller is its recipient if it names no other. -/
def intent (c : Client) (op : Operation) : Except ClientError Intent := do
  let value ← op.value.mapError .ofEncoding
  let payload ← (op.payload c.config.payloadVersion).mapError .ofAuthorization
  (Intent.ofPayload payload (op.recipient?.getD c.address) value).mapError .ofAuthorization

/-- Carries out an operation. -/
def perform (c : Client) (op : Operation) : Attempt ClientError Hash := do
  c.submit (← Attempt.ofExcept (c.intent op))

/-- The last height at which a message holds that is signed now. -/
def blockDeadline (c : Client) : Attempt ClientError String := do
  let height ← query Ask.blockNumber
  return Hex.quantity (height.saturatingAdd c.config.deadlineOffset).toNat

/-- Signs the message that `message` makes with the deadline. -/
def authorizeUntilDeadline {role : Role} (c : Client) (message : String → Message role) :
    Attempt ClientError (Authorization role) := do
  let deadline ← c.blockDeadline
  Attempt.ofExcept ((c.wallet.authorize (message deadline)).mapError .ofAuthorization)

end Client

end NftExchange
