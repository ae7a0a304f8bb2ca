import NftExchange.Authorization.Error
import NftExchange.Client.Config
import NftExchange.Gateway.Error

/-!
# Client errors

The kinds of failure that a user of a client has to tell apart. Errors of the other parts are
sorted into them once, by the functions here, and are not looked into again.
-/

namespace NftExchange

/-- Why an operation of a client failed. -/
inductive ClientError where
  /-- The secret key is malformed or cannot sign. -/
  | key (cause : CryptoError)
  /-- A call failed, or the node refused it. -/
  | remote (cause : GatewayError)
  /-- What was asked for is not there, or not yet. -/
  | notFound (what : String)
  /-- A field or an authorization cannot be represented. -/
  | encoding (reason : String)
  | config (cause : ConfigError)
deriving DecidableEq

namespace ClientError

/-- The wording of an error. -/
def message : ClientError → String
  | key cause => "Key error: " ++ cause.message
  | remote cause => "Remote error: " ++ cause.message
  | notFound what => "Not found: " ++ what
  | encoding reason => "Encoding error: " ++ reason
  | config cause => "Configuration error: " ++ cause.message

/-- Whether something was asked for that is not there. -/
def isNotFound : ClientError → Bool
  | notFound _ => true
  | _ => false

/-- What concerns the own key is told apart from what concerns a signature of others. -/
def ofCrypto (cause : CryptoError) : ClientError :=
  match cause with
  | .keyLength _ | .keyEncoding _ | .secretKey | .signing _ => key cause
  | .signatureFormat _ | .recoveryByte _ | .recovery => encoding cause.message

def ofAuthorization : AuthorizationError → ClientError
  | .crypto cause => ofCrypto cause
  | cause => encoding cause.message

def ofGateway : GatewayError → ClientError
  | .notFound what => notFound what
  | .signing cause => ofCrypto cause
  | cause => remote cause

def ofEncoding (cause : EncodingError) : ClientError := encoding cause.message

end ClientError

end NftExchange
