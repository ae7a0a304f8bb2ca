import NftExchange.Proofs.Authorization.Signer
import NftExchange.Proofs.Node.Examination
import NftExchange.Proofs.Node.Execution

/-!
# Runs of a node

Whoever has a node can give accounts an amount, let blocks pass and call any method with any
parameters. Of all this only one thing adds to what was executed: bytes that the node accepts
(`after_cases`). So every entry was checked against the node as it was just before, however the
node got there and whatever happened to it later.

* **`exists_accepts_of_reaches`** — every entry was accepted by a node on the way;
* **`checked_of_reaches`** — what is therefore known of every entry.
-/

namespace NftExchange

/-- A sum that is no smaller than what was added to did not overflow. -/
theorem UInt64.toNat_add_of_le {a b : UInt64} (h : a ≤ a + b) :
    (a + b).toNat = a.toNat + b.toNat := by
  rw [UInt64.le_iff_toNat_le, UInt64.toNat_add] at h
  rw [UInt64.toNat_add]
  have ha := a.toNat_lt
  have hb := b.toNat_lt
  omega

namespace Node

section Schemes

variable [SignatureScheme]

/-! ## One event

A node changes by money that arrives, blocks that pass and calls that are made. Of the calls only
those that execute a transaction change it, and each of them makes one record. -/

/-- What can happen to a node from outside. -/
inductive Event where
  | fund (account : Address) (amount : UInt256)
  | mine (blocks : UInt64)
  | invoke (method : String) (params : List Json)

/-- The node after an event. -/
def after (node : Node) : Event → Node
  | .fund account amount => node.fund account amount
  | .mine blocks => node.mine blocks
  | .invoke method params => (invoke method params node).2

/-- A call leaves the node as it is, or sends bytes that are accepted and recorded. -/
theorem invoke_cases (node : Node) (method : String) (params : List Json) :
    (invoke method params node).2 = node
      ∨ ∃ raw e, method = "eth_sendRawTransaction" ∧ sentBytes params = .ok raw
        ∧ node.examine raw = .ok e
        ∧ invoke method params node = (.ok (.str e.transaction.hash.text), node.record e) := by
  by_cases hmethod : method = "eth_sendRawTransaction"
  · subst hmethod
    rcases node.invoke_sendRaw_cases params with ⟨failure, hfailure⟩ | ⟨raw, e, hsent, hexamine,
      hinvoke⟩
    · exact .inl (congrArg Prod.snd hfailure)
    · exact .inr ⟨raw, e, rfl, hsent, hexamine, hinvoke⟩
  · rw [invoke, if_neg hmethod]
    exact .inl rfl

/-- So it leaves the node as it is, or records what was accepted. -/
theorem after_invoke_cases (node : Node) (method : String) (params : List Json) :
    node.after (.invoke method params) = node
      ∨ ∃ raw e, node.examine raw = .ok e ∧ node.after (.invoke method params) = node.record e := by
  rcases node.invoke_cases method params with hsame | ⟨raw, e, -, -, hexamine, hinvoke⟩
  · exact .inl hsame
  · exact .inr ⟨raw, e, hexamine, congrArg Prod.snd hinvoke⟩

/-- Sending the bytes of a transaction that passes makes its record and answers with its hash. -/
theorem invoke_sendRaw {node : Node} {raw : Bytes} {e : Executed} (h : node.examine raw = .ok e) :
    invoke "eth_sendRawTransaction" [.str (Hex.marked raw)] node
      = (.ok (.str e.transaction.hash.text), node.record e) := by
  rw [invoke_sendRawTransaction, sentBytes_marked]
  simp only [h]

/-- An event leaves alone what was executed, or records what was accepted. -/
theorem after_cases (node : Node) (event : Event) : (node.after event).executed = node.executed
    ∨ ∃ raw e, node.examine raw = .ok e ∧ node.after event = node.record e := by
  cases event with
  | fund => exact .inl rfl
  | mine => exact .inl rfl
  | invoke method params =>
    rcases node.after_invoke_cases method params with hsame | haccepted
    · exact .inl (congrArg executed hsame)
    · exact .inr haccepted

/-! ## Any number of events

A node is reached by events none of which makes the height start again from zero. What was entered
at some point was accepted by the node of that moment, and is found again in every later one. -/

/-- One node becomes of another by events, and the height never starts again from zero. -/
inductive Reaches (start : Node) : Node → Prop where
  | refl : Reaches start start
  | step {node : Node} (event : Event) (h : Reaches start node)
      (hheight : node.height ≤ (node.after event).height) : Reaches start (node.after event)

/-- The height of the block is the next one if the height went up. -/
theorem Accepts.toNat_block {node : Node} {e : Executed} (h : node.Accepts e)
    (hheight : node.height ≤ (node.record e).height) : e.block.toNat = node.height.toNat + 1 := by
  have hle : node.height ≤ e.block := hheight
  rw [h.block] at hle ⊢
  exact UInt64.toNat_add_of_le hle

/-- Every entry that was not there at the start was accepted by a node on the way, and the height
of its block is the next one. -/
theorem exists_accepts_of_reaches {start node : Node} (h : start.Reaches node) {e : Executed}
    (he : e ∈ node.executed) (hstart : e ∉ start.executed) :
    ∃ before, start.Reaches before ∧ before.Accepts e
      ∧ e.block.toNat = before.height.toNat + 1 ∧ (before.record e).Reaches node := by
  -- the entry was made at the last event, or in the shorter run before it
  induction h with
  | refl => exact absurd he hstart
  | @step node event h hheight ih =>
    -- an entry that was there before the last event is one of the shorter run
    have hold (hold : e ∈ node.executed) : ∃ before, start.Reaches before ∧ before.Accepts e
        ∧ e.block.toNat = before.height.toNat + 1
        ∧ (before.record e).Reaches (node.after event) := by
      obtain ⟨before, hbefore, haccepts, hblock, hrest⟩ := ih hold
      exact ⟨before, hbefore, haccepts, hblock, .step event hrest hheight⟩
    rcases node.after_cases event with hsame | ⟨raw, accepted, hexamine, hafter⟩
    · rw [hsame] at he
      exact hold he
    · rw [hafter] at he
      rcases List.mem_append.1 he with he | he
      · exact hold he
      · obtain rfl := List.mem_singleton.1 he
        have haccepts := (examine_eq_ok_iff.1 hexamine).2
        rw [hafter] at hheight ⊢
        exact ⟨node, h, haccepts, haccepts.toNat_block hheight, .refl⟩

/-! ## What is known of an entry

An entry carries what was checked when it was made: the chain, the sender, the nonce, the funds and,
if the data is a payload, the signers of its authorizations. All of these are facts about the node
as it was just before, since later events change the nonce and the balance. -/

/-- The signers of an entry speak for its payload: they are those who signed the authorizations
in it, at a height at which these held, and the owner of an exchange let the sender act. -/
structure Vouched (e : Executed) (p : Payload) : Prop where
  roles : e.signers.map Prod.fst = p.presentRoles
  signed : ∀ entry ∈ e.signers, ∃ a deadline, p.authorization? entry.1 = some a
    ∧ a.signer = .ok entry.2 ∧ Hex.parseUInt64 (a.message.get "block_number") = .ok deadline
    ∧ e.block.toNat - 1 ≤ deadline.toNat
  granted : ∀ a, p.exchangerAuth = some a → ∃ owner, a.signer = .ok owner
    ∧ Address.parse (a.message.get "exchanger_owner") = .ok owner
    ∧ Address.parse (a.message.get "to") = .ok e.sender

/-- An entry was checked against a node: chain, signer, nonce and funds, and what its data says. -/
structure Checked (before : Node) (e : Executed) : Prop where
  chain : e.transaction.chainId = some 51888
  sender : e.transaction.sender = .ok e.sender
  nonce : e.transaction.nonce = (before.ledger.get e.sender).nonce
  funds : e.transaction.value ≤ (before.ledger.get e.sender).balance
  block : e.block.toNat = before.height.toNat + 1
  marked : Bytes.ofText "wormholes:" <+: e.transaction.data →
    ∃ p, e.payload = some p ∧ Payload.ofData e.transaction.data = .ok p
      ∧ p.validate = .ok () ∧ Vouched e p
  plain : ¬ Bytes.ofText "wormholes:" <+: e.transaction.data → e.payload = none ∧ e.signers = []

/-- The signers that were found at the height of a node vouch for the payload. -/
theorem vouched_of_areSigners {before : Node} {e : Executed} {p : Payload}
    (h : AreSigners before.height e.sender p e.signers)
    (hblock : e.block.toNat = before.height.toNat + 1) : Vouched e p where
  roles := h.roles
  signed entry hentry := by
    obtain ⟨a, hembedded, ⟨deadline, hdeadline, hle⟩, hsigner, -⟩ := h.verified entry hentry
    refine ⟨a, deadline, hembedded, hsigner, hdeadline, ?_⟩
    rw [hblock, Nat.add_sub_cancel]
    exact UInt64.le_iff_toNat_le.1 hle
  granted a ha := by
    -- an authorization that is embedded has an entry among the signers
    have hrole : Role.exchangerAuth ∈ p.presentRoles := by
      rw [Payload.presentRoles, List.mem_filter]
      exact ⟨by decide, by rw [Payload.authorization?, ha]; rfl⟩
    rw [← h.roles] at hrole
    obtain ⟨⟨_, signer⟩, hentry, rfl⟩ := List.mem_map.1 hrole
    obtain ⟨b, hb, -, hsigner, howner, hgrantee⟩ := h.verified _ hentry
    obtain rfl := Option.some.inj (ha.symm.trans hb)
    exact ⟨signer, hsigner, howner, hgrantee⟩

/-- What the node accepts has been checked. -/
theorem Accepts.checked {before : Node} {e : Executed} (h : before.Accepts e)
    (hblock : e.block.toNat = before.height.toNat + 1) : before.Checked e where
  chain := h.chain
  sender := h.sender
  nonce := h.nonce
  funds := h.funds
  block := hblock
  -- the two kinds of data are told apart by their mark
  marked hmark := by
    have hdata := h.data
    generalize hpayload : e.payload = payload at hdata
    generalize hfound : e.signers = found at hdata
    cases hdata with
    | payload _ hread hvalid hsigners =>
      rw [← hfound] at hsigners
      exact ⟨_, rfl, hread, hvalid, vouched_of_areSigners hsigners hblock⟩
    | plain hplain =>
      rw [Payload.isMarked_iff.2 hmark] at hplain
      cases hplain
  plain hplain := by
    have hdata := h.data
    generalize e.payload = payload at hdata ⊢
    generalize e.signers = found at hdata ⊢
    cases hdata with
    | payload hmark => exact absurd (Payload.isMarked_iff.1 hmark) hplain
    | plain => exact ⟨rfl, rfl⟩

/-- Everything that a node has executed was checked against the node as it was just before:
the entry is for the node's chain and the next one of its signer, who could pay for it, and if its
data is marked then the payload in it was read, passed its check and was vouched for. -/
theorem checked_of_reaches {node : Node} (h : fresh.Reaches node) {e : Executed}
    (he : e ∈ node.executed) :
    ∃ before, fresh.Reaches before ∧ (before.record e).Reaches node ∧ before.Checked e := by
  obtain ⟨before, hbefore, haccepts, hblock, hrest⟩ := exists_accepts_of_reaches h he nofun
  exact ⟨before, hbefore, hrest, haccepts.checked hblock⟩

end Schemes

/-- The purchase of the listing of `Message.listing`. -/
def purchase : Payload where
  typeCode := 15
  version := "v0.0.1"
  seller1 := some ⟨.listing, Signature.listing.toHex⟩

def buyerKey : SecretKey where
  toNat := 0x057b05b9cff85c963c3ab90d26503700646781f938054171461b17ad5f7082db
  pos := by decide
  lt_order := by decide

theorem length_purchase : (Bytes.ofText purchase.text).length < 2 ^ 63 := by
  decide +kernel

theorem get_fund_fresh (account : Address) :
    (fresh.fund account 0x38D7EA4C68000).ledger.get account = ⟨0x38D7EA4C68000, 0⟩ := by
  have hempty : fresh.ledger.get account = {} := rfl
  have hadd : (0 : UInt256).saturatingAdd 0x38D7EA4C68000 = 0x38D7EA4C68000 := by
    decide +kernel
  rw [get_fund, hempty]
  exact congrArg (Account.mk · 0) hadd

/-- The key of the examples sends a part of what it was given. -/
theorem exists_examine_transfer (recipient : Address) :
    letI := Guarded.scheme
    ∃ t : SignedTransaction, t.recipient = recipient ∧ t.value = 1000000000
      ∧ (fresh.fund Guarded.key.address 0x38D7EA4C68000).examine t.raw
        = .ok ⟨0x671, Guarded.key.address, t, none, []⟩ := by
  let _ : SignatureScheme := Guarded.scheme
  have _ : LawfulSignatureScheme := Guarded.lawful
  let tx : Transaction := { Transaction.eip155Example with
    nonce := 0
    value := 1000000000
    recipient := recipient }
  obtain ⟨t, _, -, hsigned⟩ := tx.exists_isSigned_of_lt Guarded.key
    (show (51888 : UInt64).toNat < 2 ^ 62 by decide)
  have hbody : t.toTransaction = tx := hsigned.body
  have haccount : (fresh.fund Guarded.key.address 0x38D7EA4C68000).ledger.get Guarded.key.address
      = ⟨0x38D7EA4C68000, 0⟩ := get_fund_fresh Guarded.key.address
  -- all checks pass: the account has its first nonce and more than enough money
  have hexamine : (fresh.fund Guarded.key.address 0x38D7EA4C68000).examine t.raw
      = .ok ⟨0x671, Guarded.key.address, t, none, []⟩ := by
    refine examine_raw hsigned (show 0 < 2 ^ 63 by decide) ?_ ?_ (.plain rfl)
    · rw [haccount]
    · rw [haccount]
      show (1000000000 : UInt256) ≤ 0x38D7EA4C68000
      decide
  exact ⟨t, by rw [hbody], by rw [hbody], hexamine⟩

/-- The buyer is given the amount and sends the purchase, which the node executes; the seller is
the signer of the listing. -/
theorem checked_of_reaches_purchase :
    letI := Guarded.scheme
    let buyer := buyerKey.address
    let funded := fresh.after (.fund buyer 0x38D7EA4C68000)
    ∃ (t : SignedTransaction) (e : Executed),
      let node := funded.after (.invoke "eth_sendRawTransaction" [.str (Hex.marked t.raw)])
      fresh.Reaches node ∧ node.executed = [e] ∧ e.payload = some purchase
        ∧ e.signers = [(.seller1, Guarded.key.address)]
        ∧ ∃ before, fresh.Reaches before ∧ (before.record e).Reaches node ∧ before.Checked e := by
  let _ : SignatureScheme := Guarded.scheme
  have _ : LawfulSignatureScheme := Guarded.lawful
  intro buyer funded
  let tx : Transaction := {
    nonce := 0
    gasPrice := 1000000000
    gasLimit := 500000
    recipient := buyer
    value := 0x38D7EA4C68000
    data := Bytes.ofText purchase.text }
  let seller := Guarded.key.address
  obtain ⟨t, _, -, hsigned⟩ := tx.exists_isSigned_of_lt buyerKey
    (show (51888 : UInt64).toNat < 2 ^ 62 by decide)
  have hbuyer : funded.ledger.get buyer = ⟨0x38D7EA4C68000, 0⟩ := get_fund_fresh buyer
  -- the listing was signed by the seller, up to and including the block it is bought in
  have hsigners : AreSigners funded.height buyer purchase [(.seller1, seller)] := by
    refine ⟨rfl, ?_⟩
    rw [List.forall_mem_singleton]
    exact ⟨_, rfl, ⟨0x677, rfl, by decide⟩, Wallet.signer_listing, trivial⟩
  have hexamine : funded.examine t.raw
      = .ok ⟨funded.height + 1, buyer, t, some purchase, [(.seller1, seller)]⟩ := by
    refine examine_raw hsigned length_purchase ?_ ?_
      (.payload purchase.isMarked_text purchase.ofData_text rfl hsigners)
    · rw [hbuyer]
    · rw [hbuyer]
      exact BitVec.le_refl _
  have hnode : funded.after (.invoke "eth_sendRawTransaction" [.str (Hex.marked t.raw)])
      = funded.record ⟨funded.height + 1, buyer, t, some purchase, [(.seller1, seller)]⟩ :=
    congrArg Prod.snd (invoke_sendRaw hexamine)
  have hnext : (0x670 : UInt64) ≤ 0x671 := by decide
  have hfunded : fresh.Reaches funded := .step _ .refl (by decide)
  have hreaches := hfunded.step
    (.invoke "eth_sendRawTransaction" [.str (Hex.marked t.raw)]) (by rw [hnode]; exact hnext)
  refine ⟨t, _, hreaches, congrArg executed hnode, rfl, rfl, ?_⟩
  exact checked_of_reaches hreaches (by rw [hnode]; exact List.mem_singleton_self _)

end Node

end NftExchange
