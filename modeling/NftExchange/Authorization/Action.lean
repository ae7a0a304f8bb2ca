import NftExchange.Authorization.Role

/-!
# Actions

What a transaction asks the exchange to do. Every action but a plain transfer has a code and
carries a payload; the trades embed the authorizations of the roles that take part.
-/

namespace NftExchange

/-- The actions of the exchange, and the plain transfer. -/
inductive Action where
  | mint
  | transfer
  | author
  | authorRevoke
  | accountAuthor
  | accountAuthorRevoke
  | snftToErb
  | tokenPledge
  | tokenRevokesPledge
  | openExchange
  | closeExchange
  | insertNftBlock
  | transactionNft
  | buyerInitiatingTransaction
  | foundryTradeBuyer
  | foundryExchange
  | nftExchangeMatch
  | foundryExchangeInitiated
  | nftDoesNotAuthorizeExchanges
  | additionalPledgeAmount
  | revokesPledgeAmount
  | voteOfficialNft
  | voteOfficialNftByApprovedExchanger
  | unfrozenAccount
  | weightRedemption
  | batchSellTransfer
  | forceBuyingTransfer
  | extractErb
  | accountDelegate
  | normalTransaction
deriving DecidableEq, Repr

namespace Action

/-- All actions, in the order of their codes. -/
def all : List Action :=
  [mint, transfer, author, authorRevoke, accountAuthor, accountAuthorRevoke, snftToErb,
    tokenPledge, tokenRevokesPledge, openExchange, closeExchange, insertNftBlock, transactionNft,
    buyerInitiatingTransaction, foundryTradeBuyer, foundryExchange, nftExchangeMatch,
    foundryExchangeInitiated, nftDoesNotAuthorizeExchanges, additionalPledgeAmount,
    revokesPledgeAmount, voteOfficialNft, voteOfficialNftByApprovedExchanger, unfrozenAccount,
    weightRedemption, batchSellTransfer, forceBuyingTransfer, extractErb, accountDelegate,
    normalTransaction]

/-- The code that stands for the action in a payload. -/
def code? : Action → Option UInt8
  | mint => some 0
  | transfer => some 1
  | author => some 2
  | authorRevoke => some 3
  | accountAuthor => some 4
  | accountAuthorRevoke => some 5
  | snftToErb => some 6
  | tokenPledge => some 9
  | tokenRevokesPledge => some 10
  | openExchange => some 11
  | closeExchange => some 12
  | insertNftBlock => some 13
  | transactionNft => some 14
  | buyerInitiatingTransaction => some 15
  | foundryTradeBuyer => some 16
  | foundryExchange => some 17
  | nftExchangeMatch => some 18
  | foundryExchangeInitiated => some 19
  | nftDoesNotAuthorizeExchanges => some 20
  | additionalPledgeAmount => some 21
  | revokesPledgeAmount => some 22
  | voteOfficialNft => some 23
  | voteOfficialNftByApprovedExchanger => some 24
  | unfrozenAccount => some 25
  | weightRedemption => some 26
  | batchSellTransfer => some 27
  | forceBuyingTransfer => some 28
  | extractErb => some 29
  | accountDelegate => some 31
  | normalTransaction => none

/-- The action with a given code. -/
def ofCode? (code : UInt8) : Option Action := all.find? fun action => action.code? == some code

theorem ofCode?_eq_some_iff {code : UInt8} {action : Action} :
    ofCode? code = some action ↔ action.code? = some code := by
  constructor
  · intro h
    have := List.find?_some h
    simpa using this
  · intro h
    cases action <;> simp only [code?, Option.some.injEq, reduceCtorEq] at h <;> subst h <;> rfl

/-- The name of an action. -/
def name : Action → String
  | mint => "Mint"
  | transfer => "Transfer"
  | author => "Author"
  | authorRevoke => "AuthorRevoke"
  | accountAuthor => "AccountAuthor"
  | accountAuthorRevoke => "AccountAuthorRevoke"
  | snftToErb => "SNFTToERB"
  | tokenPledge => "TokenPledge"
  | tokenRevokesPledge => "TokenRevokesPledge"
  | openExchange => "Open"
  | closeExchange => "Close"
  | insertNftBlock => "InsertNFTBlock"
  | transactionNft => "TransactionNFT"
  | buyerInitiatingTransaction => "BuyerInitiatingTransaction"
  | foundryTradeBuyer => "FoundryTradeBuyer"
  | foundryExchange => "FoundryExchange"
  | nftExchangeMatch => "NftExchangeMatch"
  | foundryExchangeInitiated => "FoundryExchangeInitiated"
  | nftDoesNotAuthorizeExchanges => "NFTDoesNotAuthorizeExchanges"
  | additionalPledgeAmount => "AdditionalPledgeAmount"
  | revokesPledgeAmount => "RevokesPledgeAmount"
  | voteOfficialNft => "VoteOfficialNFT"
  | voteOfficialNftByApprovedExchanger => "VoteOfficialNFTByApprovedExchanger"
  | unfrozenAccount => "UnfrozenAccount"
  | weightRedemption => "WeightRedemption"
  | batchSellTransfer => "BatchSellTransfer"
  | forceBuyingTransfer => "ForceBuyingTransfer"
  | extractErb => "ExtractERB"
  | accountDelegate => "AccountDelegate"
  | normalTransaction => "NormalTransaction"

/-- The action with a given name. -/
def ofName? (name : String) : Option Action := all.find? fun action => action.name == name

/-- The roles whose authorizations the payload of the action embeds. -/
def roles : Action → List Role
  | transactionNft => [.buyer]
  | buyerInitiatingTransaction => [.seller1]
  | foundryTradeBuyer => [.seller2]
  | foundryExchange => [.buyer, .seller2]
  | nftExchangeMatch => [.buyer, .seller1, .exchangerAuth]
  | foundryExchangeInitiated => [.buyer, .seller2, .exchangerAuth]
  | nftDoesNotAuthorizeExchanges => [.buyer, .seller1]
  | voteOfficialNftByApprovedExchanger => [.exchangerAuth]
  | batchSellTransfer => [.buyer, .seller1, .buyerAuth, .sellerAuth, .exchangerAuth]
  | forceBuyingTransfer => [.buyer, .buyerAuth, .exchangerAuth]
  | _ => []

/-- Whether the transaction of the action carries a payload. -/
def carriesPayload (action : Action) : Bool := action.code?.isSome

end Action

end NftExchange
