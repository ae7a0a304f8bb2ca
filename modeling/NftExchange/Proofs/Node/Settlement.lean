import NftExchange.Proofs.Client.Deadline
import NftExchange.Proofs.Client.Operations
import NftExchange.Proofs.Node.Shared

/-!
# Honest trades settle

The parties to a trade sign, each until its deadline, and hand their authorizations as text to the
one who submits. If all of them still hold when the node gets the transaction, and the submitter
can pay, then nothing in between can go wrong: what the client puts together is what the node
checks, for every trade, every text and whatever else happens at the node.

* **`HandedOver.spec`** — what is known of an authorization that was handed over;
* **`Agreed.areSigners`** — the node finds the parties in the payload;
* **`settles`** — the trade is executed, and nothing else is.
-/

namespace NftExchange

/-! ## Handing over

The parties of a trade never meet. Each signs its terms until a deadline it takes from its own node,
sends the authorization as text, and the submitter reads it back. What is left of all this in the
end is a signer and a deadline that can be parsed. -/

/-- What a party agrees to in a role, with the deadline left open. -/
inductive Terms : (role : Role) → (String → Message role) → Prop where
  | buyer (amount nftAddress exchanger seller : String) :
      Terms .buyer fun deadline => .buyer amount nftAddress exchanger deadline seller
  | seller1 (amount nftAddress exchanger : String) :
      Terms .seller1 fun deadline => .seller1 amount nftAddress exchanger deadline
  | seller2 (amount royalty metaUrl exclusiveFlag exchanger : String) :
      Terms .seller2 fun deadline =>
        .seller2 amount royalty metaUrl exclusiveFlag exchanger deadline
  | exchangerAuth (owner recipient : String) :
      Terms .exchangerAuth fun deadline => .exchangerAuth owner recipient deadline
  | buyerAuth (exchanger : String) : Terms .buyerAuth fun deadline => .buyerAuth exchanger deadline
  | sellerAuth (exchanger : String) :
      Terms .sellerAuth fun deadline => .sellerAuth exchanger deadline

/-- The deadline of signed terms is the one they were signed until. -/
theorem Terms.deadline_eq {role : Role} {message : String → Message role} (h : Terms role message)
    (deadline : String) : (message deadline).deadline = deadline := by
  -- the deadline stands at another place in every role
  cases h <;> rfl

/-- The deadline that a client takes from its node is a quantity of 64 bits. -/
theorem Client.exists_quantity_of_blockDeadline {σ : Type} {g : Gateway σ} {start : σ}
    {party : Client} {deadline : String} (h : party.blockDeadline.outcome g start = .ok deadline) :
    ∃ height : UInt64, deadline = Hex.quantity height.toNat := by
  obtain ⟨height, -, hdeadline⟩ := Attempt.outcome_bind_eq_ok h
  exact ⟨_, (Except.ok.inj hdeadline).symm⟩

section Schemes

variable [SignatureScheme]

/-- A party signed its terms until the deadline that its node gave it, and the authorization is
what was read from the text that it sent. -/
inductive HandedOver (party : Client) : (role : Role) → Authorization role → Prop where
  | mk {role : Role} {σ : Type} {g : Gateway σ} {start : σ} {message : String → Message role}
      {signed a : Authorization role} (hterms : Terms role message)
      (hsigned : (party.authorizeUntilDeadline message).outcome g start = .ok signed)
      (hread : Authorization.ofJson role signed.toJson = .ok a) : HandedOver party role a

section Lawful

variable [LawfulSignatureScheme]

/-- What was handed over leads to its party and has a deadline. -/
theorem HandedOver.spec {party : Client} {role : Role} {a : Authorization role}
    (h : HandedOver party role a) : a.signer = .ok party.address
      ∧ ∃ deadline, Hex.parseUInt64 a.message.deadline = .ok deadline := by
  cases h with
  | @mk σ g start message signed _ hterms hsigned hread =>
    obtain ⟨deadline, hdeadline, hauthorized⟩ := Attempt.outcome_bind_eq_ok hsigned
    obtain ⟨height, rfl⟩ := Client.exists_quantity_of_blockDeadline hdeadline
    obtain ⟨sig, hauthorize, hsigner⟩ :=
      party.wallet.signer_authorize (message (Hex.quantity height.toNat))
    -- transport changes nothing
    rw [hauthorize] at hauthorized
    obtain rfl := Except.ok.inj hauthorized
    rw [Authorization.ofJson_toJson] at hread
    obtain rfl := Except.ok.inj hread
    refine ⟨hsigner, height, ?_⟩
    rw [hterms.deadline_eq]
    exact Hex.parseUInt64_quantity height

end Lawful

/-! ## Agreement

A trade settles when everything outside the client's control is in order. The conditions are
gathered here, once for all nine operations: what was handed over, what can be paid, and what
happens to the node meanwhile. -/

/-- The roles whose authorizations an operation takes, in the order of the payload. -/
def Operation.partyRoles (op : Operation) : List Role :=
  Payload.roleOrder.filter fun role => (op.authorization? role).isSome

/-- All that a trade needs of its parties, its submitter and its node. The node is looked at when
the submission begins (`node`) and when the transaction arrives (`arrival`). -/
structure Agreed (c : Client) (op : Operation) (party : Role → Client) (node arrival : Node) :
    Prop where
  trade : op.typeCode ∈ [14, 15, 16, 17, 18, 19, 20, 27, 28]
  handedOver : ∀ role a, op.authorization? role = some a → HandedOver (party role) role a
  unexpired : ∀ role a deadline, op.authorization? role = some a →
    Hex.parseUInt64 a.message.deadline = .ok deadline → arrival.height ≤ deadline
  granted : ∀ a, op.authorization? .exchangerAuth = some a →
    Address.parse (a.message.get "exchanger_owner") = .ok (party .exchangerAuth).address
      ∧ Address.parse (a.message.get "to") = .ok c.address
  affordable : ∀ text, op.listedAmount? = some text → ∃ amount,
    Hex.parseQuantity text = .ok amount ∧ amount ≤ (node.ledger.get c.address).balance
  chain : c.config.chainId = none ∨ c.config.chainId = some 51888
  undisturbed : Node.Rests c.address node arrival
  /-- The counters can go on. -/
  counters : (node.ledger.get c.address).nonce.toNat + 1 < UInt64.size
    ∧ arrival.height.toNat + 1 < UInt64.size
  /-- The data is no longer than a machine can hold. -/
  length : (Bytes.ofText (op.filled c.config.payloadVersion).text).length < 2 ^ 63

namespace Agreed

variable {c : Client} {op : Operation} {party : Role → Client} {node arrival : Node}

/-- The operation has a value, and the submitter can pay it. -/
theorem exists_value (h : Agreed c op party node arrival) :
    ∃ value, op.value = .ok value ∧ value ≤ (node.ledger.get c.address).balance := by
  cases hvalue : op.value with
  | error e =>
    obtain ⟨text, hlisted, hparse⟩ := Operation.value_eq_error_iff.1 hvalue
    obtain ⟨amount, hamount, -⟩ := h.affordable text hlisted
    rw [hamount] at hparse
    cases hparse
  | ok value =>
    refine ⟨value, rfl, ?_⟩
    -- the operations whose value is not listed are no trades
    have htrade := h.trade
    cases Operation.pays_of_value hvalue with
    | tokenPledge | tokenRevokesPledge | additionalPledgeAmount | revokesPledgeAmount =>
      simp [Operation.typeCode] at htrade
    | listed hlisted hparse =>
      obtain ⟨amount, hamount, hle⟩ := h.affordable _ hlisted
      obtain rfl := Except.ok.inj (hparse.symm.trans hamount)
      exact hle
    | nothing => exact BitVec.le_def.2 (Nat.zero_le _)

/-- The authorizations of the operation verify at the node the transaction arrives at, and their
signers are the parties. -/
theorem areSigners [LawfulSignatureScheme] (h : Agreed c op party node arrival) :
    Node.AreSigners arrival.height c.address (op.filled c.config.payloadVersion)
      (op.partyRoles.map fun role => (role, (party role).address)) := by
  have hholds := op.holds_filled c.config.payloadVersion
  constructor
  · rw [List.map_map, Payload.presentRoles, Operation.partyRoles]
    simp only [hholds.authorization]
    exact List.map_id _
  · intro entry hentry
    obtain ⟨role, hrole, rfl⟩ := List.mem_map.1 hentry
    obtain ⟨a, ha⟩ := Option.isSome_iff_exists.1 (List.mem_filter.1 hrole).2
    obtain ⟨hsigner, deadline, hdeadline⟩ := (h.handedOver role a ha).spec
    refine ⟨a, (hholds.authorization role).trans ha, ?_, hsigner, ?_⟩
    · exact ⟨deadline, hdeadline, h.unexpired role a deadline ha hdeadline⟩
    · -- only the grant to an exchanger says who submits
      cases role with
      | exchangerAuth => exact h.granted a ha
      | _ => trivial

end Agreed

/-! ## Settlement

The run is put together from its parts: the client asks and signs, the node examines what arrives,
and the entry it makes is described field by field. -/

/-- The entry of a trade that a node gets. -/
def Operation.entry (op : Operation) (c : Client) (party : Role → Client) (arrival : Node)
    (t : SignedTransaction) : Executed where
  block := arrival.height + 1
  sender := c.address
  transaction := t
  payload := some (op.filled c.config.payloadVersion)
  signers := op.partyRoles.map fun role => (role, (party role).address)

/-- What the execution of a trade does: there is one more entry, of the submitter and with the
parties as signers, and the submitter's nonce and the height have grown by one. -/
structure Settled (c : Client) (op : Operation) (party : Role → Client) (node arrival final : Node)
    (e : Executed) : Prop where
  executed : final.executed = arrival.executed ++ [e]
  sender : e.sender = c.address
  carries : c.Carries op e.transaction
  payload : ∃ p, e.payload = some p ∧ p.Holds op c.config.payloadVersion
  signers : e.signers = op.partyRoles.map fun role => (role, (party role).address)
  nonce : (final.ledger.get c.address).nonce.toNat = (node.ledger.get c.address).nonce.toNat + 1
  height : final.height.toNat = arrival.height.toNat + 1

/-- The record of the agreed transaction settles the trade. -/
theorem Agreed.settled {c : Client} {op : Operation} {party : Role → Client} {node arrival : Node}
    {t : SignedTransaction} (h : Agreed c op party node arrival)
    (hkeeps : Node.Keeps c.address node arrival) (hcarries : c.Carries op t) :
    Settled c op party node arrival (arrival.record (op.entry c party arrival t))
      (op.entry c party arrival t) where
  executed := rfl
  sender := rfl
  carries := hcarries
  payload := ⟨_, rfl, op.holds_filled _⟩
  signers := rfl
  nonce := by
    have hsender : (op.entry c party arrival t).sender = c.address := rfl
    rw [arrival.nonce_record hsender, hkeeps.nonce, UInt64.toNat_add]
    exact Nat.mod_eq_of_lt h.counters.1
  height := by
    -- there is room for one more block
    show (arrival.height + 1).toNat = _
    rw [UInt64.toNat_add]
    exact Nat.mod_eq_of_lt h.counters.2

/-- A trade that everybody has agreed to settles, whatever others do: the submitter gets the digest
of the bytes that it sent, and they are executed. -/
theorem Node.settles [LawfulSignatureScheme] {c : Client} {op : Operation}
    {party : Role → Client} {node : Node} {others : Nat → List Event}
    (h : Agreed c op party node (node.afterTurns others c.calls)) :
    ∃ e, (c.perform op).outcome (sharedGateway others) (node, 0)
        = .ok (keccak256 e.transaction.raw)
      ∧ (∃ x ∈ (c.perform op).exchanges (sharedGateway others) (node, 0), x.Sends e.transaction)
      ∧ Settled c op party node (node.afterTurns others c.calls)
        ((c.perform op).final (sharedGateway others) (node, 0)).1 e := by
  obtain ⟨value, hvalue, hfunds⟩ := h.exists_value
  have hholds := op.holds_filled c.config.payloadVersion
  -- nonce and balance are still right when the transaction arrives
  have hkeeps : Keeps c.address node (node.afterTurns others c.calls) :=
    keeps_of_le (Nat.zero_le _) h.undisturbed
  have hnonce := (keeps_of_le (Nat.sub_le _ 2) h.undisturbed).nonce
  -- the chain of the node is small enough for the number of a signature
  obtain ⟨t, _, hsign, hsigned⟩ := Transaction.exists_isSigned_of_lt
    (c.transaction (c.intended op value)
      ((node.afterTurns others (c.calls - 2)).ledger.get c.address).nonce gasPrice)
    c.wallet.key (show (51888 : UInt64).toNat < 2 ^ 62 by decide)
  have hexamine : (node.afterTurns others c.calls).examine t.raw
      = .ok (op.entry c party (node.afterTurns others c.calls) t) :=
    examine_raw hsigned h.length hnonce.symm (BitVec.le_trans hfunds hkeeps.balance)
      (.payload (Payload.isMarked_text _) (Payload.ofData_text _)
        (Payload.validate_of_complete hholds.complete) h.areSigners)
  obtain ⟨log, hplays, hsends⟩ := Client.plays_submit_shared node h.chain hsign hexamine
  rw [← Client.perform_eq_submit (Client.intent_eq_ok hvalue)] at hplays
  refine ⟨op.entry c party (node.afterTurns others c.calls) t, hplays.outcome_eq, ?_, ?_⟩
  · rw [hplays.exchanges_eq]
    exact hsends
  · rw [hplays.final_eq]
    exact h.settled hkeeps (Client.carries_of_intended hvalue hsigned.body)

end Schemes

/-- The listing was signed for seven blocks. While the buyer makes its four calls four blocks pass,
and the purchase still settles. -/
theorem Node.settles_purchase :
    letI := Guarded.scheme
    let buyer : Client := ⟨⟨Node.buyerKey⟩, .forEndpoint "http://127.0.0.1:8545"⟩
    let seller : Client :=
      ⟨⟨Guarded.key⟩, { endpoint := "http://127.0.0.1:8545", deadlineOffset := 7 }⟩
    let op : Operation := .buyerInitiatingTransaction ⟨.listing, Signature.listing.toHex⟩
    let node := fresh.fund buyer.address 0x38D7EA4C68000
    let others := fun _ => [Event.mine 1]
    let arrival := node.afterTurns others buyer.calls
    Agreed buyer op (fun _ => seller) node arrival
      ∧ ∃ e, (buyer.perform op).outcome (sharedGateway others) (node, 0)
          = .ok (keccak256 e.transaction.raw)
        ∧ (∃ x ∈ (buyer.perform op).exchanges (sharedGateway others) (node, 0),
          x.Sends e.transaction)
        ∧ Settled buyer op (fun _ => seller) node arrival
          ((buyer.perform op).final (sharedGateway others) (node, 0)).1 e := by
  let _ : SignatureScheme := Guarded.scheme
  have _ : LawfulSignatureScheme := Guarded.lawful
  intro buyer seller op node others arrival
  -- the fresh node gives the seller the height from which the deadline is counted
  have hheight : (Client.query Ask.blockNumber).Plays gateway fresh
      [⟨⟨"eth_blockNumber", []⟩, .ok (.str "0x670")⟩] (.ok 0x670) fresh :=
    Client.plays_query gateway "eth_blockNumber" [] Ask.decodeUInt64 fresh
  have htext : Hex.quantity ((0x670 : UInt64).saturatingAdd 7).toNat = "0x677" := rfl
  have hdeadline : seller.blockDeadline.Plays gateway fresh
      [⟨⟨"eth_blockNumber", []⟩, .ok (.str "0x670")⟩]
      (.ok (Hex.quantity ((0x670 : UInt64).saturatingAdd 7).toNat)) fresh :=
    hheight.bind_ok (Attempt.plays_pure _ _)
  rw [htext] at hdeadline
  have hauthorize : seller.wallet.authorize Message.listing
      = .ok ⟨.listing, Signature.listing.toHex⟩ := Wallet.authorize_eq_ok Wallet.sign_listing
  -- four blocks pass on the way, one before each call of the buyer
  have hbuyer : node.ledger.get buyer.address = ⟨0x38D7EA4C68000, 0⟩ := get_fund_fresh _
  have hexecuted : arrival.executed = [] := rfl
  have hheight674 : arrival.height = 0x674 := rfl
  have hagreed : Agreed buyer op (fun _ => seller) node arrival := {
    trade := show (15 : UInt8) ∈ _ by decide
    handedOver := fun role a ha => by
      cases role with
      | seller1 =>
        cases ha
        exact .mk (.seller1 "0x38D7EA4C68000" "0x0000000000000000000000000000000000000003"
            "0x8b07aff2327a3B7e2876D899caFac99f7AE16B10")
          (Client.plays_authorizeUntilDeadline hdeadline hauthorize).outcome_eq
          (Authorization.ofJson_toJson _)
      | _ => cases ha
    unexpired := fun role a deadline ha hparse => by
      cases role with
      | seller1 =>
        cases ha
        have h677 : Hex.parseUInt64 "0x677" = .ok 0x677 := rfl
        obtain rfl := Except.ok.inj (h677.symm.trans hparse)
        rw [hheight674]
        decide
      | _ => cases ha
    granted := nofun
    affordable := fun text htext => by
      cases htext
      refine ⟨0x38D7EA4C68000, rfl, ?_⟩
      rw [hbuyer]
      exact BitVec.le_refl _
    chain := .inl rfl
    undisturbed := fun e he => by
      rw [hexecuted, List.drop_nil] at he
      cases he
    counters := by
      rw [hbuyer, hheight674]
      decide
    length := length_purchase }
  exact ⟨hagreed, settles hagreed⟩

end NftExchange
