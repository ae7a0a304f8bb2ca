import NftExchange.Proofs.Authorization.Signer
import NftExchange.Proofs.Client.Submission

/-!
# What an operation sends

An operation becomes a payload, the payload becomes the data of a transaction, and the transaction
travels as text. Here the way is followed back: a reader of what was sent finds every argument in
its own slot. The slots are listed one by one, each with the operations that fill it, so that two
operations cannot have been mixed up in the same way on both sides.

* **`holds_filled`** and **`Holds.complete`** — the payload of an operation holds its arguments and
  nothing else, and embeds the authorizations that its action needs;
* **`intent_eq_ok`** and **`intent_eq_error`** — when an operation becomes a transaction;
* **`perform_spec`** — what reaches the node, whatever the node answers.
-/

namespace NftExchange

namespace Operation

/-! ## The slots

Which operation fills which slot of a payload, slot by slot. The operations themselves are put
together the other way round, each with all of its slots, so a slot that was mixed up there does not
agree with its table here. -/

/-- The code of an operation. -/
def typeCode : Operation → UInt8
  | mint .. => 0
  | transfer .. => 1
  | author .. => 2
  | authorRevoke .. => 3
  | accountAuthor .. => 4
  | accountAuthorRevoke .. => 5
  | snftToErb .. => 6
  | tokenPledge .. => 9
  | tokenRevokesPledge .. => 10
  | openExchange .. => 11
  | closeExchange => 12
  | insertNftBlock .. => 13
  | transactionNft .. => 14
  | buyerInitiatingTransaction .. => 15
  | foundryTradeBuyer .. => 16
  | foundryExchange .. => 17
  | nftExchangeMatch .. => 18
  | foundryExchangeInitiated .. => 19
  | nftDoesNotAuthorizeExchanges .. => 20
  | additionalPledgeAmount .. => 21
  | revokesPledgeAmount .. => 22
  | voteOfficialNft .. => 23
  | voteOfficialNftByApprovedExchanger .. => 24
  | unfrozenAccount => 25
  | weightRedemption => 26
  | batchSellTransfer .. => 27
  | forceBuyingTransfer .. => 28
  | extractErb => 29
  | accountDelegate .. => 31

def nftAddress? : Operation → Option String
  | transfer nftAddress _ => some nftAddress
  | author nftAddress _ => some nftAddress
  | authorRevoke nftAddress _ => some nftAddress
  | snftToErb nftAddress => some nftAddress
  | _ => none

def exchanger? : Operation → Option String
  | mint _ _ exchanger => some exchanger
  | _ => none

def metaUrl? : Operation → Option String
  | mint _ metaUrl _ => some metaUrl
  | _ => none

def feeRate? : Operation → Option UInt32
  | tokenPledge _ _ _ _ feeRate _ => some feeRate
  | openExchange feeRate _ _ => some feeRate
  | _ => none

def name? : Operation → Option String
  | tokenPledge _ _ name _ _ _ => some name
  | openExchange _ name _ => some name
  | _ => none

def url? : Operation → Option String
  | tokenPledge _ _ _ url _ _ => some url
  | openExchange _ _ url => some url
  | _ => none

/-- The batch of an operation, which has five slots. -/
def batch? : Operation → Option OfficialBatch
  | insertNftBlock batch => some batch
  | voteOfficialNft batch => some batch
  | voteOfficialNftByApprovedExchanger batch _ => some batch
  | _ => none

/-- The royalty of what is minted, or that of the batch. -/
def royalty? : Operation → Option UInt32
  | mint royalty _ _ => some royalty
  | op => op.batch?.map OfficialBatch.royalty

def proxyAddress? : Operation → Option String
  | tokenPledge proxyAddress _ _ _ _ _ => some proxyAddress
  | accountDelegate _ proxyAddress => some proxyAddress
  | _ => none

/-- The text of a proxy's signature; a pledge without one has the empty text. -/
def proxySign? : Operation → Option String
  | tokenPledge _ none _ _ _ _ => some ""
  | tokenPledge _ (some proxySign) _ _ _ _ => some proxySign.toHex
  | accountDelegate proxySign _ => some proxySign.toHex
  | _ => none

/-- The authorization that an operation takes for a role. -/
def authorization? : (role : Role) → Operation → Option (Authorization role)
  | .buyer, transactionNft buyer _ => some buyer
  | .buyer, foundryExchange buyer _ _ => some buyer
  | .buyer, nftExchangeMatch buyer _ _ _ => some buyer
  | .buyer, foundryExchangeInitiated buyer _ _ _ => some buyer
  | .buyer, nftDoesNotAuthorizeExchanges buyer _ _ => some buyer
  | .buyer, batchSellTransfer buyer _ _ _ _ _ => some buyer
  | .buyer, forceBuyingTransfer buyer _ _ _ => some buyer
  | .seller1, buyerInitiatingTransaction seller1 => some seller1
  | .seller1, nftExchangeMatch _ seller1 _ _ => some seller1
  | .seller1, nftDoesNotAuthorizeExchanges _ seller1 _ => some seller1
  | .seller1, batchSellTransfer _ seller1 _ _ _ _ => some seller1
  | .seller2, foundryTradeBuyer seller2 => some seller2
  | .seller2, foundryExchange _ seller2 _ => some seller2
  | .seller2, foundryExchangeInitiated _ seller2 _ _ => some seller2
  | .exchangerAuth, voteOfficialNftByApprovedExchanger _ exchangerAuth => some exchangerAuth
  | .exchangerAuth, nftExchangeMatch _ _ exchangerAuth _ => some exchangerAuth
  | .exchangerAuth, foundryExchangeInitiated _ _ exchangerAuth _ => some exchangerAuth
  | .exchangerAuth, batchSellTransfer _ _ _ _ exchangerAuth _ => some exchangerAuth
  | .exchangerAuth, forceBuyingTransfer _ _ exchangerAuth _ => some exchangerAuth
  | .buyerAuth, batchSellTransfer _ _ buyerAuth _ _ _ => some buyerAuth
  | .buyerAuth, forceBuyingTransfer _ buyerAuth _ _ => some buyerAuth
  | .sellerAuth, batchSellTransfer _ _ _ sellerAuth _ _ => some sellerAuth
  | _, _ => none

/-- The amount of the listing that an operation takes, as the seller wrote it. -/
def listedAmount? : Operation → Option String
  | buyerInitiatingTransaction seller1 => some (seller1.message.get "amount")
  | foundryTradeBuyer seller2 => some (seller2.message.get "amount")
  | _ => none

/-- The account that an operation names for its transaction to go to. -/
def destination? : Operation → Option Address
  | transfer _ recipient => some recipient
  | author _ recipient => some recipient
  | authorRevoke _ recipient => some recipient
  | accountAuthor recipient => some recipient
  | accountAuthorRevoke recipient => some recipient
  | transactionNft _ recipient => some recipient
  | foundryExchange _ _ recipient => some recipient
  | nftExchangeMatch _ _ _ recipient => some recipient
  | foundryExchangeInitiated _ _ _ recipient => some recipient
  | nftDoesNotAuthorizeExchanges _ _ recipient => some recipient
  | batchSellTransfer _ _ _ _ _ recipient => some recipient
  | forceBuyingTransfer _ _ _ recipient => some recipient
  | _ => none

/-! ## Recipient and value

The rest of a transaction that depends on the operation: whom it goes to and what it carries. Both
are said operation by operation, without the functions that compute them. -/

/-- To whom a transaction goes that `own` sends: to the account that the operation names, and
to `own` if operations of its kind name none. -/
inductive GoesTo (own : Address) : Operation → Address → Prop where
  | named {op : Operation} {recipient : Address} (h : op.destination? = some recipient) :
      GoesTo own op recipient
  | own {op : Operation} (h : op.typeCode ∉ [1, 2, 3, 4, 5, 14, 17, 18, 19, 20, 27, 28]) :
      GoesTo own op own

/-- What an operation pays: a pledge its value, a buyer the amount of the listing, and all others
nothing. -/
inductive Pays : Operation → UInt256 → Prop where
  | tokenPledge {proxyAddress name url : String} {proxySign : Option Signature} {feeRate : UInt32}
      (value : UInt256) : Pays (.tokenPledge proxyAddress proxySign name url feeRate value) value
  | tokenRevokesPledge (value : UInt256) : Pays (.tokenRevokesPledge value) value
  | additionalPledgeAmount (value : UInt256) : Pays (.additionalPledgeAmount value) value
  | revokesPledgeAmount (value : UInt256) : Pays (.revokesPledgeAmount value) value
  | listed {op : Operation} {text : String} {value : UInt256} (h : op.listedAmount? = some text)
      (hparse : Hex.parseQuantity text = .ok value) : Pays op value
  | nothing {op : Operation} (h : op.typeCode ∉ [9, 10, 15, 16, 21, 22]) : Pays op 0

/-- The recipient of a transaction is the account that its operation names, and the sender itself
only for operations that cannot name one. -/
theorem goesTo_recipient (op : Operation) (own : Address) :
    op.GoesTo own (op.recipient?.getD own) := by
  cases op with
  | transfer | author | authorRevoke | accountAuthor | accountAuthorRevoke | transactionNft
  | foundryExchange | nftExchangeMatch | foundryExchangeInitiated | nftDoesNotAuthorizeExchanges
  | batchSellTransfer | forceBuyingTransfer => exact .named rfl
  | _ => exact .own (by simp [typeCode])

/-- What an operation is found to be worth is what it pays. -/
theorem pays_of_value {op : Operation} {value : UInt256} (h : op.value = .ok value) :
    op.Pays value := by
  -- two operations pay what a listing asks for, four name their amount, and the others pay nothing
  cases op with
  | buyerInitiatingTransaction | foundryTradeBuyer => exact .listed rfl h
  | tokenPledge _ _ _ _ _ value =>
    cases h
    exact .tokenPledge value
  | tokenRevokesPledge value =>
    cases h
    exact .tokenRevokesPledge value
  | additionalPledgeAmount value =>
    cases h
    exact .additionalPledgeAmount value
  | revokesPledgeAmount value =>
    cases h
    exact .revokesPledgeAmount value
  | _ =>
    cases h
    exact .nothing (by simp [typeCode])

/-- Only the amount of a listing can be no value. -/
theorem value_eq_error_iff {op : Operation} {e : EncodingError} : op.value = .error e
    ↔ ∃ text, op.listedAmount? = some text ∧ Hex.parseQuantity text = .error e := by
  constructor
  · intro h
    -- only an amount that is read from a listing can be wrong
    cases op with
    | buyerInitiatingTransaction | foundryTradeBuyer => exact ⟨_, rfl, h⟩
    | _ => cases h
  · rintro ⟨text, hlisted, hparse⟩
    cases op with
    | buyerInitiatingTransaction | foundryTradeBuyer =>
      cases hlisted
      exact hparse
    | _ => cases hlisted

end Operation

/-! ## The payload

All the slots together. That a payload holds an operation is a statement about every slot, those
that stay empty included. -/

/-- The payload has the code of an operation, a version and the operation's arguments, each in its
own slot, and nothing else. -/
structure Payload.Holds (p : Payload) (op : Operation) (version : String) : Prop where
  typeCode : p.typeCode = op.typeCode
  version : p.version = version
  nftAddress : p.nftAddress = op.nftAddress?
  exchanger : p.exchanger = op.exchanger?
  royalty : p.royalty = op.royalty?
  metaUrl : p.metaUrl = op.metaUrl?
  feeRate : p.feeRate = op.feeRate?
  name : p.name = op.name?
  url : p.url = op.url?
  dir : p.dir = op.batch?.map OfficialBatch.dir
  startIndex : p.startIndex = op.batch?.map OfficialBatch.startIndex
  number : p.number = op.batch?.map OfficialBatch.number
  creator : p.creator = op.batch?.map OfficialBatch.creator
  proxyAddress : p.proxyAddress = op.proxyAddress?
  proxySign : p.proxySign = op.proxySign?
  authorization (role : Role) : p.authorization? role = op.authorization? role

namespace Operation

theorem code?_action (op : Operation) : op.action.code? = some op.typeCode := by
  cases op <;> rfl

/-- The payload that an operation is put into. -/
def filled (op : Operation) (version : String) : Payload :=
  op.fill { typeCode := op.typeCode, version := version }

theorem payload_eq (op : Operation) (version : String) :
    op.payload version = .ok (op.filled version) := by
  simp only [payload, Payload.ofAction, op.code?_action, bind, Except.bind]
  rfl

/-- The payload of an operation holds its arguments and nothing else. -/
theorem holds_filled (op : Operation) (version : String) :
    (op.filled version).Holds op version := by
  -- each slot of each operation is looked up; only a pledge has to know whether there is a proxy
  cases op with
  | tokenPledge _ proxySign =>
    cases proxySign <;> exact {
      typeCode := rfl, version := rfl, nftAddress := rfl, exchanger := rfl, royalty := rfl,
      metaUrl := rfl, feeRate := rfl, name := rfl, url := rfl, dir := rfl, startIndex := rfl,
      number := rfl, creator := rfl, proxyAddress := rfl, proxySign := rfl,
      authorization := fun role => by cases role <;> rfl }
  | _ => exact {
      typeCode := rfl, version := rfl, nftAddress := rfl, exchanger := rfl, royalty := rfl,
      metaUrl := rfl, feeRate := rfl, name := rfl, url := rfl, dir := rfl, startIndex := rfl,
      number := rfl, creator := rfl, proxyAddress := rfl, proxySign := rfl,
      authorization := fun role => by cases role <;> rfl }

/-- An operation takes the authorizations of its action. -/
theorem isSome_authorization? (op : Operation) (role : Role) :
    (op.authorization? role).isSome = op.action.roles.contains role := by
  cases op <;> cases role <;> rfl

end Operation

/-- A payload that holds an operation embeds what the operation's action needs. -/
theorem Payload.Holds.complete {p : Payload} {op : Operation} {version : String}
    (h : p.Holds op version) : p.Complete := by
  refine ⟨op.action, op.action.roles, Action.mem_table_iff.2 ⟨?_, rfl⟩, fun role => ?_⟩
  · rw [op.code?_action, h.typeCode]
  · rw [Embeds, h.authorization, op.isSome_authorization?, List.contains_iff_mem]

namespace Client

section Schemes

variable [SignatureScheme] {c : Client} {op : Operation}

/-! ## The transaction

An operation with a value is submitted like any other intent; without one it ends before the first
call. -/

/-- The intent of an operation with its value. -/
def intended (c : Client) (op : Operation) (value : UInt256) : Intent where
  action := op.action
  recipient := op.recipient?.getD c.address
  value := value
  data := Bytes.ofText (op.filled c.config.payloadVersion).text

/-- An operation with a value becomes an intent that carries its payload. -/
theorem intent_eq_ok {value : UInt256} (h : op.value = .ok value) :
    c.intent op = .ok (c.intended op value) := by
  have hholds := op.holds_filled c.config.payloadVersion
  have haction : (op.filled c.config.payloadVersion).action = .ok op.action := by
    rw [Payload.action_eq_ok_iff, hholds.typeCode]
    exact op.code?_action
  have hdata := Payload.toData_of_validate (Payload.validate_of_complete hholds.complete)
  simp only [intent, h, op.payload_eq, Intent.ofPayload, haction, hdata, Except.mapError, bind,
    Except.bind]
  rfl

/-- An operation without one fails with what is wrong with its amount. -/
theorem intent_eq_error {e : EncodingError} (h : op.value = .error e) :
    c.intent op = .error (.encoding e.message) := by
  simp only [intent, h, Except.mapError, bind, Except.bind]
  rfl

/-- An operation with an intent is that intent submitted. -/
theorem perform_eq_submit {intent : Intent} (h : c.intent op = .ok intent) :
    c.perform op = c.submit intent := by
  rw [perform, h]
  rfl

/-- Without an intent no call is made. -/
theorem plays_perform_of_error {σ : Type} {g : Gateway σ} {e : ClientError}
    (h : c.intent op = .error e) (start : σ) :
    (c.perform op).Plays g start [] (.error e) start := by
  rw [perform, h]
  exact (Attempt.plays_ofExcept _ _).bind_error

/-! ## What is sent

The submission settles which transaction the node is handed. What is left is to read it again: its
data as a payload, the payload as an operation. -/

/-- The transaction carries an operation: the payload in its data passes the check and holds the
operation, and recipient and value are those of the operation. -/
structure Carries (c : Client) (op : Operation) (t : SignedTransaction) : Prop where
  payload : ∃ p, Payload.ofData t.data = .ok p ∧ p.validate = .ok ()
    ∧ p.Holds op c.config.payloadVersion
  recipient : op.GoesTo c.address t.recipient
  value : op.Pays t.value

/-- A transaction that was made of an operation carries it. -/
theorem carries_of_intended {value : UInt256} {t : SignedTransaction} {nonce : UInt64}
    {gasPrice : UInt256} (hvalue : op.value = .ok value)
    (hbody : t.toTransaction = c.transaction (c.intended op value) nonce gasPrice) :
    c.Carries op t where
  payload := by
    -- the data of the transaction is the text of the payload
    have hholds := op.holds_filled c.config.payloadVersion
    refine ⟨op.filled c.config.payloadVersion, ?_, Payload.validate_of_complete hholds.complete,
      hholds⟩
    rw [hbody]
    exact Payload.ofData_text _
  recipient := by
    rw [hbody]
    exact op.goesTo_recipient c.address
  value := by
    rw [hbody]
    exact Operation.pays_of_value hvalue

/-- An operation makes no call exactly if the amount of its listing is no quantity, which is then
the error. Whatever it sends, as the text of bytes that are read as a transaction, carries the
operation. -/
theorem perform_spec {σ : Type} (g : Gateway σ) (c : Client) (op : Operation) (start : σ) :
    ((c.perform op).exchanges g start = []
        ↔ ∃ text e, op.listedAmount? = some text ∧ Hex.parseQuantity text = .error e)
      ∧ (∀ text e, op.listedAmount? = some text → Hex.parseQuantity text = .error e →
        (c.perform op).outcome g start = .error (.encoding e.message))
      ∧ ∀ x ∈ (c.perform op).exchanges g start, x.call.method = "eth_sendRawTransaction" →
        ∃ t, x.Sends t ∧ c.Carries op t := by
  cases hvalue : op.value with
  | error e =>
    have hplays := plays_perform_of_error (g := g) (intent_eq_error (c := c) hvalue) start
    obtain ⟨text, hlisted, hparse⟩ := Operation.value_eq_error_iff.1 hvalue
    rw [hplays.exchanges_eq, hplays.outcome_eq]
    refine ⟨⟨fun _ => ⟨text, e, hlisted, hparse⟩, fun _ => rfl⟩, ?_, nofun⟩
    intro text' e' hlisted' hparse'
    have herror := Operation.value_eq_error_iff.2 ⟨text', hlisted', hparse'⟩
    rw [Except.error.inj (hvalue.symm.trans herror)]
  | ok value =>
    -- a value means that there is no listing whose amount cannot be read
    have hread {text : String} {e : EncodingError} (hlisted : op.listedAmount? = some text)
        (hparse : Hex.parseQuantity text = .error e) : False := by
      have herror := Operation.value_eq_error_iff.2 ⟨text, hlisted, hparse⟩
      rw [hvalue] at herror
      cases herror
    -- from here on it is a submission like any other
    rw [perform_eq_submit (intent_eq_ok hvalue)]
    have hway := submission_submit g c (c.intended op value) start
    refine ⟨⟨fun hnil => absurd hnil hway.log_ne_nil,
      fun ⟨_, _, hlisted, hparse⟩ => (hread hlisted hparse).elim⟩,
      fun _ _ hlisted hparse => (hread hlisted hparse).elim, fun x hx hsend => ?_⟩
    obtain ⟨t, nonce, gasPrice, hsends, hbody⟩ := hway.sends_of_mem hx hsend
    exact ⟨t, hsends, carries_of_intended hvalue hbody⟩

end Schemes

/-- The purchase of a listing is sent, and pays what the seller asks. -/
theorem perform_spec_listing :
    letI := Guarded.scheme
    let op : Operation := .buyerInitiatingTransaction ⟨.listing, Signature.listing.toHex⟩
    let attempt := Client.eip155Example.perform op
    ∃ x ∈ attempt.exchanges Script.gateway .eip155Example,
      x.call.method = "eth_sendRawTransaction"
        ∧ ∃ t, x.Sends t ∧ Client.eip155Example.Carries op t := by
  let _ : SignatureScheme := Guarded.scheme
  have _ : LawfulSignatureScheme := Guarded.lawful
  intro op attempt
  -- the price of the listing is the value of the transaction
  have hvalue : op.value = .ok 0x38D7EA4C68000 := by rfl
  obtain ⟨t, _, hsign, -⟩ := Transaction.exists_isSigned_of_lt
    (Client.eip155Example.transaction (Client.eip155Example.intended op 0x38D7EA4C68000) 9
      20000000000) Guarded.key (show (1 : UInt64).toNat < 2 ^ 62 by decide)
  have hplays := plays_submit_eip155Example hsign
  rw [← perform_eq_submit (intent_eq_ok hvalue)] at hplays
  have hmem : (⟨sendCall t.raw, .ok (.str
      "0x33469b22e9f636356c4160a87eb19df52b7412e8eac32a4a55ffe88ea8350788")⟩ : Exchange)
      ∈ attempt.exchanges Script.gateway .eip155Example := by
    rw [hplays.exchanges_eq]
    simp
  exact ⟨_, hmem, rfl, (perform_spec Script.gateway _ op .eip155Example).2.2 _ hmem rfl⟩

end Client

end NftExchange
