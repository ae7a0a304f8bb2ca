import NftExchange.Client.Basic

/-!
# Signing with a deadline

What a party to a trade signs, role by role, with all fields from the caller but the last height
at which it holds: that one the client derives from the height of its node.
-/

namespace NftExchange.Client

variable [SignatureScheme]

/-- Offers an amount for an NFT; no `seller` means that any seller will do. -/
def signBuyer (c : Client) (amount nftAddress exchanger seller : String) :
    Attempt ClientError (Authorization .buyer) :=
  c.authorizeUntilDeadline fun deadline => .buyer amount nftAddress exchanger deadline seller

/-- Lists an NFT that exists. -/
def signSeller1 (c : Client) (amount nftAddress exchanger : String) :
    Attempt ClientError (Authorization .seller1) :=
  c.authorizeUntilDeadline fun deadline => .seller1 amount nftAddress exchanger deadline

/-- Lists an NFT that is minted when it is bought. -/
def signSeller2 (c : Client) (amount royalty metaUrl exclusiveFlag exchanger : String) :
    Attempt ClientError (Authorization .seller2) :=
  c.authorizeUntilDeadline fun deadline =>
    .seller2 amount royalty metaUrl exclusiveFlag exchanger deadline

/-- Lets `recipient` settle trades for the exchange of `owner`. -/
def signExchangerAuth (c : Client) (owner recipient : String) :
    Attempt ClientError (Authorization .exchangerAuth) :=
  c.authorizeUntilDeadline fun deadline => .exchangerAuth owner recipient deadline

/-- Lets an exchange settle for the buyer. -/
def signBuyerAuth (c : Client) (exchanger : String) :
    Attempt ClientError (Authorization .buyerAuth) :=
  c.authorizeUntilDeadline fun deadline => .buyerAuth exchanger deadline

/-- Lets an exchange settle for the seller. -/
def signSellerAuth (c : Client) (exchanger : String) :
    Attempt ClientError (Authorization .sellerAuth) :=
  c.authorizeUntilDeadline fun deadline => .sellerAuth exchanger deadline

end NftExchange.Client
