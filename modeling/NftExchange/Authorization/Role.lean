import NftExchange.Digest.Keccak
import NftExchange.Json.Codec

/-!
# Roles and their messages

Each party to a trade signs in a role, and each role has a fixed list of fields, its schema. A
`Message role` holds one text for each field. What is signed is the digest of `canonicalBytes`:
the texts one after the other, with nothing between them.

Three tables name the fields of a role. The schema is what parties agree on; a message lists its
texts in the order of `signed`; and a transported message has the names of `declared`, in that
order. That the three agree is for the theory to show: nothing here reads one of them off another.
-/

namespace NftExchange

/-- The roles in which a key signs. -/
inductive Role where
  | buyer
  /-- The seller of an NFT that exists. -/
  | seller1
  /-- The seller of an NFT that is minted when it is bought. -/
  | seller2
  | exchangerAuth
  | buyerAuth
  | sellerAuth
  | delegate
deriving DecidableEq, Repr

namespace Role

/-- All roles. -/
def all : List Role :=
  [buyer, seller1, seller2, exchangerAuth, buyerAuth, sellerAuth, delegate]

/-- The name under which a role's authorization is embedded. -/
def name : Role → String
  | buyer => "buyer"
  | seller1 => "seller1"
  | seller2 => "seller2"
  | exchangerAuth => "exchanger_auth"
  | buyerAuth => "buyer_auth"
  | sellerAuth => "seller_auth"
  | delegate => "delegate"

/-- The role with a given name. -/
def ofName? (name : String) : Option Role := all.find? fun role => role.name == name

/-- The names of the fields as all parties know them, in the order in which they are signed. -/
def schema : Role → List String
  | buyer => ["amount", "nft_address", "exchanger", "block_number", "seller"]
  | seller1 => ["amount", "nft_address", "exchanger", "block_number"]
  | seller2 => ["amount", "royalty", "meta_url", "exclusive_flag", "exchanger", "block_number"]
  | exchangerAuth => ["exchanger_owner", "to", "block_number"]
  | buyerAuth | sellerAuth => ["exchanger", "block_number"]
  | delegate => ["address", "pledge_account"]

/-- The names of the texts that a message lists for signing. -/
def signed : Role → List String
  | buyer => ["amount", "nft_address", "exchanger", "block_number", "seller"]
  | seller1 => ["amount", "nft_address", "exchanger", "block_number"]
  | seller2 => ["amount", "royalty", "meta_url", "exclusive_flag", "exchanger", "block_number"]
  | exchangerAuth => ["exchanger_owner", "to", "block_number"]
  | buyerAuth => ["exchanger", "block_number"]
  | sellerAuth => ["exchanger", "block_number"]
  | delegate => ["address", "pledge_account"]

/-- The names under which a message is transported, in the order in which they are written. -/
def declared : Role → List String
  | buyer => ["amount", "nft_address", "exchanger", "block_number", "seller"]
  | seller1 => ["amount", "nft_address", "exchanger", "block_number"]
  | seller2 => ["amount", "royalty", "meta_url", "exclusive_flag", "exchanger", "block_number"]
  | exchangerAuth => ["exchanger_owner", "to", "block_number"]
  | buyerAuth => ["exchanger", "block_number"]
  | sellerAuth => ["exchanger", "block_number"]
  | delegate => ["address", "pledge_account"]

/-- A message lists as many texts as the schema has names. -/
theorem length_signed (role : Role) : role.signed.length = role.schema.length := by
  cases role <;> rfl

theorem ofName?_name (role : Role) : ofName? role.name = some role := by
  cases role <;> rfl

/-- A role as the word that names it. -/
def codec : Codec Role := .word name ofName?

end Role

/-- One text for each field of a role, in the order in which they are signed. -/
structure Message (role : Role) where
  fields : List String
  length_fields : fields.length = role.schema.length
deriving DecidableEq

namespace Message

variable {role : Role}

@[ext] theorem ext {m n : Message role} (h : m.fields = n.fields) : m = n := by
  cases m; cases n; cases h; rfl

/-- The message with these fields, if their number is right. -/
def ofFields? (role : Role) (fields : List String) : Option (Message role) :=
  if h : fields.length = role.schema.length then some ⟨fields, h⟩ else none

theorem ofFields?_fields (m : Message role) : ofFields? role m.fields = some m := by
  simp [ofFields?, m.length_fields]

/-- The text of a field by its name; the empty text if the role has no such field. -/
def get (m : Message role) (name : String) : String :=
  ((role.signed.zip m.fields).lookup name).getD ""

/-- The message whose fields have these texts under their names. -/
def ofTexts (role : Role) (text : String → String) : Message role :=
  ⟨role.signed.map text, by rw [List.length_map, role.length_signed]⟩

/-- The last height at which the message holds. -/
def deadline (m : Message role) : String := m.get "block_number"

/-- The fields one after the other. -/
def canonicalText (m : Message role) : String := String.join m.fields

/-- The bytes that are signed. -/
def canonicalBytes (m : Message role) : Bytes := Bytes.ofText m.canonicalText

/-- The digest that is signed. -/
def digest (m : Message role) : Hash := textHash m.canonicalBytes

/-- An offer for an NFT. No `nftAddress` means that it does not exist yet, no `seller` that any
seller will do. -/
def buyer (amount nftAddress exchanger deadline seller : String) : Message .buyer :=
  ⟨[amount, nftAddress, exchanger, deadline, seller], rfl⟩

/-- The listing of an NFT that exists. -/
def seller1 (amount nftAddress exchanger deadline : String) : Message .seller1 :=
  ⟨[amount, nftAddress, exchanger, deadline], rfl⟩

/-- The listing of an NFT that is minted when it is bought. -/
def seller2 (amount royalty metaUrl exclusiveFlag exchanger deadline : String) :
    Message .seller2 :=
  ⟨[amount, royalty, metaUrl, exclusiveFlag, exchanger, deadline], rfl⟩

/-- The owner of an exchange lets another account act for it. -/
def exchangerAuth (owner recipient deadline : String) : Message .exchangerAuth :=
  ⟨[owner, recipient, deadline], rfl⟩

/-- A buyer lets an exchange settle for it. -/
def buyerAuth (exchanger deadline : String) : Message .buyerAuth := ⟨[exchanger, deadline], rfl⟩

/-- A seller lets an exchange settle for it. -/
def sellerAuth (exchanger deadline : String) : Message .sellerAuth := ⟨[exchanger, deadline], rfl⟩

/-- An account agrees to be a pledger's proxy. -/
def delegate (address pledgeAccount : String) : Message .delegate := ⟨[address, pledgeAccount], rfl⟩

end Message

end NftExchange
