import NftExchange.Authorization.Action
import NftExchange.Hex.Marked
import NftExchange.Signature.Basic

/-!
# Authorization errors

What can go wrong when messages are built and signed and payloads are put together.
-/

namespace NftExchange

/-- Why there is no authorization or no payload. -/
inductive AuthorizationError where
  | crypto (cause : CryptoError)
  /-- The number of fields is not that of the role's schema. -/
  | fieldCount (role : Role) (expected actual : Nat)
  | json (reason : String)
  /-- Transaction data does not start like a payload. -/
  | missingMark
  /-- Another account signed than the expected one. -/
  | signerMismatch (expected actual : Address)
  /-- A payload lacks an authorization that its action embeds. -/
  | missingRole (action : Action) (role : Role)
  /-- A payload embeds an authorization that its action does not take. -/
  | unexpectedRole (action : Action) (role : Role)
  | noPayload (action : Action)
  | unknownAction (code : UInt8)
deriving DecidableEq

/-- The wording of an error. -/
def AuthorizationError.message : AuthorizationError → String
  | .crypto cause => "Crypto error: " ++ cause.message
  | .fieldCount role expected actual =>
    "Role " ++ role.name ++ " expects " ++ toString expected ++ " fields, got " ++ toString actual
  | .json reason => "Malformed JSON: " ++ reason
  | .missingMark => "Transaction data is not a wormholes payload"
  | .signerMismatch expected actual =>
    "Signer mismatch: expected " ++ expected.text ++ ", got " ++ actual.text
  | .missingRole action role => action.name ++ " requires a " ++ role.name ++ " authorization"
  | .unexpectedRole action role =>
    action.name ++ " does not take a " ++ role.name ++ " authorization"
  | .noPayload action => action.name ++ " carries no exchange payload"
  | .unknownAction code => "Unknown action type code: " ++ toString code.toNat

end NftExchange
