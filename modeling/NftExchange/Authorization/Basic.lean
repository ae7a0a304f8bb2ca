import NftExchange.Authorization.Error
import NftExchange.Json.Record
import NftExchange.Signature.Scheme

/-!
# Authorizations

An authorization is a message of a role with the text of a signature over it. It is transported as
one flat object: the role's fields by their declared names, and `sig`. A party that receives one
finds the signer in it, whoever sent it.
-/

namespace NftExchange

/-- A message and the text of a signature over its digest. -/
structure Authorization (role : Role) where
  message : Message role
  sig : String
deriving DecidableEq

namespace Authorization

variable {role : Role}

/-! ## Transport

An authorization travels as an object of texts: the fields of its message and the signature. It is
collected member by member, so the order in which problems are noticed is that of the members. -/

/-- The members of the transported object. -/
def members (a : Authorization role) : List (String × Json) :=
  role.declared.map (fun name => (name, .str (a.message.get name))) ++ [("sig", .str a.sig)]

/-- The text of the field `name` among members; it has to be there once and to be a string. -/
def fieldOf (members : List (String × Json)) (name : String) : Except JsonError String :=
  match members.find? fun member => member.1 == name with
  | some (_, .str text) => .ok text
  | some _ => .error .mismatch
  | none => .error (.missingField name)

/-- Whether a member is one of the role's fields with a value that is no text. -/
def isBadField (role : Role) (member : String × Json) : Bool :=
  role.declared.contains member.1 &&
    match member.2 with
    | .str _ => false
    | _ => true

/-- The first of the role's fields that occurs twice among members, if one does. -/
def repeatedField? (role : Role) : List (String × Json) → Option String
  | [] => none
  | (key, _) :: rest =>
    if role.declared.contains key && rest.any (fun member => member.1 == key) then some key
    else repeatedField? role rest

/-- The message among collected members, unknown members left aside. A field with the wrong value
or a repeated one is reported before a missing one. -/
def messageOf (role : Role) (members : List (String × Json)) :
    Except JsonError (Message role) := do
  if members.any (isBadField role) then .error .mismatch
  else
    match repeatedField? role members with
    | some key => .error (.duplicateField key)
    | none =>
      let texts ← role.declared.mapM (fieldOf members)
      return .ofTexts role fun name => ((role.declared.zip texts).lookup name).getD ""

/-- The signature text and the other members, found so far. -/
structure Collected where
  sig : Option String := none
  /-- Latest first. -/
  members : List (String × Json) := []

/-- Reads one member: the signature text, or anything else to be collected. -/
def Collected.readMember (depth : Nat) (found : Collected) (key : String) :
    Json.Reader Collected := fun input => do
  if key = "sig" then
    match found.sig with
    | some _ => .error (.duplicateField key)
    | none =>
      let (sig, rest) ← Codec.string.read depth input
      return ({ found with sig := some sig }, rest)
  else
    let (value, rest) ← Json.readValue .collected depth input
    return ({ found with members := (key, value) :: found.members }, rest)

/-- The authorization that was collected; the signature is missed first. -/
def Collected.finish (role : Role) (found : Collected) :
    Except JsonError (Authorization role) := do
  match found.sig with
  | none => .error (.missingField "sig")
  | some sig => return ⟨← messageOf role found.members.reverse, sig⟩

/-- Authorizations of a role; they have to be objects. -/
def codec (role : Role) : Codec (Authorization role) where
  encode a := .obj a.members
  read depth input :=
    match Json.skipBlank input, depth with
    | 0x7b :: _, 0 => .error .tooDeep
    | 0x7b :: rest, depth + 1 => do
      let (found, rest) ← Json.readMembers Json.exactText (Collected.readMember depth)
        (rest.length + 1) true {} rest
      return (← found.finish role, rest)
    | _, _ => .error .mismatch
  decode
    | .obj members => do
      let (sigs, others) := members.partition fun member => member.1 == "sig"
      let sig ← fieldOf sigs "sig"
      return ⟨← messageOf role others, sig⟩
    | _ => .error .mismatch

/-- The transported text. -/
def toJson (a : Authorization role) : String := (codec role).render a

/-- Reads the transported text. -/
def ofJson (role : Role) (text : String) : Except AuthorizationError (Authorization role) :=
  ((codec role).parse text).mapError fun e => .json e.message

/-! ## Signer

The signature is kept as text until somebody asks for the signer, which is recovered from it and the
digest of the message. -/

/-- The signature that the text spells. -/
def signature (a : Authorization role) : Except AuthorizationError Signature :=
  (Signature.ofHex a.sig).mapError .crypto

variable [SignatureScheme]

/-- The account that signed the message. -/
def signer (a : Authorization role) : Except AuthorizationError Address := do
  let sig ← a.signature
  (sig.recover a.message.digest).mapError .crypto

/-- Checks that `expected` signed the message. -/
def verify (a : Authorization role) (expected : Address) : Except AuthorizationError Unit := do
  let actual ← a.signer
  if actual = expected then return () else .error (.signerMismatch expected actual)

end Authorization

/-- One secret key, which signs messages. -/
structure Wallet where
  key : SecretKey
deriving DecidableEq

namespace Wallet

/-- The wallet of the key that a text spells. -/
def ofHex (text : String) : Except AuthorizationError Wallet :=
  match SecretKey.ofHex text with
  | .ok key => .ok ⟨key⟩
  | .error e => .error (.crypto e)

variable [SignatureScheme]

/-- The account of the wallet. -/
def address (w : Wallet) : Address := w.key.address

/-- Signs a message. -/
def signMessage {role : Role} (w : Wallet) (m : Message role) :
    Except AuthorizationError Signature :=
  (w.key.sign m.digest).mapError .crypto

/-- Signs a message and packs it for transport. -/
def authorize {role : Role} (w : Wallet) (m : Message role) :
    Except AuthorizationError (Authorization role) := do
  let sig ← w.signMessage m
  return ⟨m, sig.toHex⟩

/-- Signs any bytes as a text. -/
def signText (w : Wallet) (text : Bytes) : Except AuthorizationError Signature :=
  (w.key.sign (textHash text)).mapError .crypto

end Wallet

end NftExchange
