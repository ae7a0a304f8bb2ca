import NftExchange.Gateway.Error
import NftExchange.Rlp
import NftExchange.Signature.Scheme

/-!
# Transactions

Every action travels in a transaction of the oldest form, a list of nine items. What is signed is
the digest of `signingPayload`, in which the identifier of the chain stands in the place of the
signature. In a signed transaction the number `v` holds the chain and the recovery identifier:
`v = 2 * chain + 35 + recoveryId`.
-/

namespace NftExchange

/-- A transaction before it is signed. -/
structure Transaction where
  nonce : UInt64
  gasPrice : UInt256
  gasLimit : UInt64
  recipient : Address
  value : UInt256
  data : Bytes
deriving DecidableEq

/-- A transaction with its signature. -/
structure SignedTransaction extends Transaction where
  v : UInt64
  r : UInt256
  s : UInt256
deriving DecidableEq

namespace Transaction

/-- The items of the body. -/
def items (tx : Transaction) : List Bytes :=
  [Rlp.encodeNat tx.nonce.toNat, Rlp.encodeNat tx.gasPrice.toNat, Rlp.encodeNat tx.gasLimit.toNat,
    Rlp.encodeBytes tx.recipient.toBytes, Rlp.encodeNat tx.value.toNat, Rlp.encodeBytes tx.data]

/-- The bytes whose digest is signed for a chain. -/
def signingPayload (tx : Transaction) (chainId : UInt64) : Bytes :=
  Rlp.encodeList (tx.items ++ [Rlp.encodeNat chainId.toNat, Rlp.encodeNat 0, Rlp.encodeNat 0])

/-- The digest that is signed for a chain. -/
def signingHash (tx : Transaction) (chainId : UInt64) : Hash := keccak256 (tx.signingPayload chainId)

/-- The number `v` for a chain and a recovery identifier, if it fits in 64 bits. -/
def signatureNumber? (chainId : UInt64) (recoveryId : Nat) : Option UInt64 :=
  UInt64.ofNat? (2 * chainId.toNat + 35 + recoveryId)

/-- Signs a transaction for a chain. -/
def sign [SignatureScheme] (tx : Transaction) (key : SecretKey) (chainId : UInt64) :
    Except GatewayError SignedTransaction :=
  match key.sign (tx.signingHash chainId) with
  | .error e => .error (.signing e)
  | .ok sig =>
    match signatureNumber? chainId sig.recoveryId with
    | some v => .ok ⟨tx, v, .ofNat 256 sig.r.toNat, .ofNat 256 sig.s.toNat⟩
    | none =>
      .error (.signing (.signing
        ("chain id " ++ toString chainId.toNat ++ " does not fit an EIP-155 v value")))

end Transaction

namespace SignedTransaction

/-- The bytes that are submitted. -/
def raw (tx : SignedTransaction) : Bytes :=
  Rlp.encodeList (tx.items
    ++ [Rlp.encodeNat tx.v.toNat, Rlp.encodeNat tx.r.toNat, Rlp.encodeNat tx.s.toNat])

/-- The digest that names the transaction. -/
def hash (tx : SignedTransaction) : Hash := keccak256 tx.raw

/-- The operation that errors of `decode` name. -/
def decodeContext : String := "decode_raw_transaction"

/-- Attributes an error of an item to its field. -/
def decodeField {α : Type} (field : String) (result : Except Rlp.Error α) : Except GatewayError α :=
  match result with
  | .ok a => .ok a
  | .error e => .error (.undecodable decodeContext ("RLP error in " ++ field ++ ": " ++ e.name))

/-- Reads the bytes of a signed transaction. -/
def decode (raw : Bytes) : Except GatewayError SignedTransaction :=
  if !Rlp.isList raw then .error (.undecodable decodeContext "transaction must be an RLP list")
  else
    match Rlp.items raw with
    | [nonce, gasPrice, gasLimit, recipient, value, data, v, r, s] => do
      return {
        nonce := ← decodeField "nonce" (Rlp.decodeUInt64 nonce)
        gasPrice := ← decodeField "gas_price" (Rlp.decodeUInt256 gasPrice)
        gasLimit := ← decodeField "gas_limit" (Rlp.decodeUInt64 gasLimit)
        recipient := ← decodeField "to" (Rlp.decodeFixed 20 recipient)
        value := ← decodeField "value" (Rlp.decodeUInt256 value)
        data := ← decodeField "data" (Rlp.decodeBytes data)
        v := ← decodeField "v" (Rlp.decodeUInt64 v)
        r := ← decodeField "r" (Rlp.decodeUInt256 r)
        s := ← decodeField "s" (Rlp.decodeUInt256 s) }
    | items =>
      .error (.undecodable decodeContext
        ("legacy transaction must have 9 fields, got " ++ toString items.length))

/-- The chain that the transaction was signed for. -/
def chainId (tx : SignedTransaction) : Option UInt64 :=
  if tx.v < 35 then none else some ((tx.v - 35) / 2)

/-- The account that signed the transaction. -/
def sender [SignatureScheme] (tx : SignedTransaction) : Except GatewayError Address :=
  match tx.chainId with
  | none => .error (.undecodable "recover_sender" "v is not EIP-155")
  | some chainId =>
    let recoveryId : UInt8 := .ofNat ((tx.v - 35) % 2).toNat
    let signature := do
      let sig ← Signature.ofBytes (tx.r.toBytes.toBytes ++ tx.s.toBytes.toBytes ++ [recoveryId])
      sig.recover (tx.signingHash chainId)
    signature.mapError .signing

end SignedTransaction

end NftExchange
