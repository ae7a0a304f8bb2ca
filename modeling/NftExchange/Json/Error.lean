/-!
# Faults of JSON input

Why a text or a value does not decode. Position and wording of most faults are left open, so they
share one placeholder as their text; the few whose text names a cause have wordings of their own.
-/

namespace NftExchange

/-- Why decoding failed. -/
inductive JsonError where
  /-- The text is not JSON. -/
  | malformed
  /-- Arrays and objects are nested too deeply. -/
  | tooDeep
  /-- A value has the wrong kind or is out of range. -/
  | mismatch
  /-- A field occurs twice. -/
  | duplicateField (name : String)
  /-- A field that has to be there is missing. -/
  | missingField (name : String)
  /-- A quantity's digits after `0x` are not hexadecimal or too many. -/
  | hexQuantity
  /-- A quantity's text is not decimal or too large. -/
  | decimalQuantity
  /-- A whole number is too large for a quantity. -/
  | wideQuantity (digits : String)
deriving DecidableEq

/-- The wording of a fault. -/
def JsonError.message : JsonError → String
  | .malformed | .tooDeep | .mismatch | .duplicateField _ => "<json>"
  | .missingField name => "missing field `" ++ name ++ "`"
  | .hexQuantity => "invalid hex string for quantity"
  | .decimalQuantity => "invalid decimal string for quantity"
  | .wideQuantity digits => "quantity " ++ digits ++ " does not fit in 256 bits"

end NftExchange
