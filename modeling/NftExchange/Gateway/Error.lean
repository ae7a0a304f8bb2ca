import NftExchange.Signature.Basic

/-!
# Gateway errors

What can go wrong between a client and its node.
-/

namespace NftExchange

/-- Why a call to the node has no result. -/
inductive GatewayError where
  /-- The node answered with an error of its own. -/
  | rejected (method : String) (code : Int) (message : String)
  /-- No answer of the node arrived. -/
  | transport (method reason : String)
  /-- The node knows no such thing. -/
  | notFound (what : String)
  /-- An answer does not have the expected shape. -/
  | undecodable (method reason : String)
  /-- A transaction could not be signed, or has no valid signature. -/
  | signing (cause : CryptoError)
deriving DecidableEq

/-- The wording of an error. -/
def GatewayError.message : GatewayError → String
  | .rejected method code message =>
    method ++ " rejected by node (" ++ toString code ++ "): " ++ message
  | .transport method reason => method ++ " transport failure: " ++ reason
  | .notFound what => what ++ " not found"
  | .undecodable method reason => method ++ " returned an undecodable result: " ++ reason
  | .signing cause => "Transaction signing failed: " ++ cause.message

end NftExchange
