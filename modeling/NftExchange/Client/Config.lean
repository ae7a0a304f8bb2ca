import NftExchange.Decimal.Digits
import NftExchange.Text.Blank
import NftExchange.Text.Quoted
import NftExchange.Toml.Read
import NftExchange.Word

/-!
# Client configuration

What a client has to know before it can start. There is no endpoint by default, so a configuration
always comes from somewhere: a TOML document (`ofToml`) or named variables (`ofLookup`). Both
readers end with `validate`, so what they return is usable.
-/

namespace NftExchange

/-- Why there is no usable configuration. -/
inductive ConfigError where
  | missingEndpoint
  | invalidEndpoint (endpoint : String)
  | invalidValue (reason : String)
  /-- A document is no TOML, or has a field of the wrong kind. -/
  | unreadable (reason : String)
deriving DecidableEq

/-- The wording of an error. -/
def ConfigError.message : ConfigError → String
  | .missingEndpoint => "No node endpoint configured"
  | .invalidEndpoint endpoint => "Endpoint must be an http(s) URL: " ++ endpoint
  | .invalidValue reason => "Invalid value: " ++ reason
  | .unreadable reason => "Cannot parse configuration: " ++ reason

/-- The configuration of a client. -/
structure ClientConfig where
  endpoint : String := ""
  requestTimeoutMs : UInt64 := 30000
  /-- The chain to sign for; without it the node is asked. -/
  chainId : Option UInt64 := none
  /-- The gas limit of every transaction. -/
  gasLimit : UInt64 := 500000
  /-- How many blocks an authorization holds from the height at which it is signed. -/
  deadlineOffset : UInt64 := 10
  /-- The version that payloads carry. -/
  payloadVersion : String := "v0.0.1"
deriving DecidableEq

namespace ClientConfig

/-- The default configuration for an endpoint. -/
def forEndpoint (endpoint : String) : ClientConfig := { endpoint := endpoint }

/-- What any transaction costs at least. -/
def leastGas : UInt64 := 21000

/-- Checks a configuration; the first thing that is wrong is reported. -/
def validate (c : ClientConfig) : Except ConfigError Unit :=
  if (Text.trimmed c.endpoint).isEmpty then .error .missingEndpoint
  else if (Text.dropLead? "http://" c.endpoint).isNone
      && (Text.dropLead? "https://" c.endpoint).isNone then
    .error (.invalidEndpoint c.endpoint)
  else if c.requestTimeoutMs = 0 then .error (.invalidValue "request_timeout_ms cannot be 0")
  else if c.gasLimit < leastGas then
    .error (.invalidValue ("gas_limit " ++ toString c.gasLimit.toNat ++ " is below 21000"))
  else if c.deadlineOffset = 0 then .error (.invalidValue "deadline_offset cannot be 0")
  else if c.chainId = some 0 then .error (.invalidValue "chain_id cannot be 0")
  else if c.payloadVersion.isEmpty then .error (.invalidValue "payload_version cannot be empty")
  else .ok ()

/-- A configuration that passes its check. -/
def validated (c : ClientConfig) : Except ConfigError ClientConfig := do
  c.validate
  return c

/-! ## From a document

The entries of a document are looked up by name. Each of them may be missing, but not have a value
of another kind. -/

/-- The text under a name. -/
def textEntry? (entries : Toml.Entries) (name : String) : Except ConfigError (Option String) :=
  match entries.get? name with
  | none => .ok none
  | some (.string text) => .ok (some text)
  | some _ => .error (.unreadable (name ++ " is no text"))

/-- The number under a name; it must not be negative. -/
def numberEntry? (entries : Toml.Entries) (name : String) : Except ConfigError (Option UInt64) :=
  match entries.get? name with
  | none => .ok none
  | some (.integer (.ofNat n)) => .ok (some (.ofNat n))
  | some _ => .error (.unreadable (name ++ " is no number"))

/-- Reads a TOML document; missing fields have their defaults and others are ignored. -/
def ofToml (text : String) : Except ConfigError ClientConfig :=
  match Toml.parse? text with
  | none => .error (.unreadable "no TOML document")
  | some entries => do
    let unset : ClientConfig := {}
    validated {
      endpoint := (← textEntry? entries "endpoint").getD unset.endpoint
      requestTimeoutMs :=
        (← numberEntry? entries "request_timeout_ms").getD unset.requestTimeoutMs
      chainId := ← numberEntry? entries "chain_id"
      gasLimit := (← numberEntry? entries "gas_limit").getD unset.gasLimit
      deadlineOffset := (← numberEntry? entries "deadline_offset").getD unset.deadlineOffset
      payloadVersion := (← textEntry? entries "payload_version").getD unset.payloadVersion }

/-! ## From variables

The same fields under the names of variables, in which every value is a text. -/

/-- The number in a variable, with blanks around it dropped. -/
def numberVariable? (lookup : String → Option String) (name : String) :
    Except ConfigError (Option UInt64) :=
  match lookup name with
  | none => .ok none
  | some raw =>
    match (Decimal.parseSigned? (Bytes.ofText (Text.trimmed raw))).bind UInt64.ofNat? with
    | some n => .ok (some n)
    | none => .error (.invalidValue (name ++ "=" ++ Text.quoted raw ++ " is not a number"))

/-- Reads named variables; missing ones have their defaults. -/
def ofLookup (lookup : String → Option String) : Except ConfigError ClientConfig := do
  let unset : ClientConfig := {}
  validated {
    endpoint := (lookup "EX_RPC_ENDPOINT").getD unset.endpoint
    requestTimeoutMs :=
      (← numberVariable? lookup "EX_RPC_TIMEOUT_MS").getD unset.requestTimeoutMs
    chainId := ← numberVariable? lookup "EX_CHAIN_ID"
    gasLimit := (← numberVariable? lookup "EX_GAS_LIMIT").getD unset.gasLimit
    deadlineOffset := (← numberVariable? lookup "EX_DEADLINE_OFFSET").getD unset.deadlineOffset }

end ClientConfig

end NftExchange
