import NftExchange.Proofs.Chain.Reports
import NftExchange.Proofs.Client.Submission
import NftExchange.Proofs.Node.History
import NftExchange.Proofs.Transaction.Reported

/-!
# What a client finds

A client looks up what it wants to know: heights, accounts, receipts by digest, transactions by
block. Nothing of it is lost on the way. A receipt is kept under a digest and a transaction is
found by its block, so both are those of the entry that was asked for, because no two entries share
a block or a transaction.

* **`Filed.after`** — receipts are kept for what is executed, and for nothing else;
* **`Counted.eq_of_block_eq`** and **`eq_of_hash_eq`** — what an entry is told apart by;
* **`answers_of_reaches`** — what a client finds at a node.
-/

namespace NftExchange

open Except (bind_eq_ok_iff mapError_eq_ok_iff)

/-- A query of the client is the one of the gateway, with its errors sorted. -/
theorem Client.outcome_query {α σ : Type} (g : Gateway σ) (question : Attempt GatewayError α)
    (start : σ) : (query question).outcome g start
      = (question.outcome g start).mapError ClientError.ofGateway := by
  have hplays : question.Plays g start (question.exchanges g start) (question.outcome g start)
    (question.final g start) := ⟨rfl, rfl⟩
  exact (hplays.mapError _).outcome_eq

namespace Node

variable {node : Node} {e other : Executed} {blocks : Nat}

/-! ## Entries are told apart

Blocks ascend and nonces count up, so no two entries share a block, nor an account and a nonce. What
is looked up by either is therefore found without ambiguity. -/

/-- A block holds one transaction. -/
theorem Counted.eq_of_block_eq (h : Counted blocks node) (he : e ∈ node.executed)
    (hother : other ∈ node.executed) (hblock : e.block = other.block) : e = other := by
  have hnodup : (node.executed.map Executed.block).Nodup := by
    refine List.pairwise_map.2 (h.ascending.imp ?_)
    intro e later hlt
    exact UInt64.ne_of_lt hlt
  exact List.inj_on_of_nodup_map hnodup he hother hblock

/-- An account uses a nonce once. -/
theorem Counted.eq_of_nonce_eq (h : Counted blocks node) (he : e ∈ node.executed)
    (hother : other ∈ node.executed) (hsender : e.sender = other.sender)
    (hnonce : e.transaction.nonce = other.transaction.nonce) : e = other := by
  have hnodup : ((node.executedBy other.sender).map fun e => e.transaction.nonce.toNat).Nodup := by
    rw [h.nonces]
    exact List.nodup_range
  have hby (entry : Executed) (hentry : entry ∈ node.executed)
      (hsame : entry.sender = other.sender) : entry ∈ node.executedBy other.sender :=
    List.mem_filter.2 ⟨hentry, decide_eq_true hsame⟩
  exact List.inj_on_of_nodup_map hnodup (hby e he hsender) (hby other hother rfl)
    (congrArg UInt64.toNat hnonce)

/-- Blocks at different heights have different hashes. -/
theorem blockHash_inj {height height' : UInt64} (h : blockHash height = blockHash height') :
    height = height' := by
  have hvalue (height : UInt64) : (blockHash height).toNat = height.toNat :=
    Bytes.toNat_ofNat height.toNat_lt_capacity
  have hnat := congrArg FixedBytes.toNat h
  rw [hvalue, hvalue] at hnat
  exact UInt64.toNat_inj.1 hnat

/-- The entry that a block and an index name; only the first index names one. -/
def entryAt? (node : Node) (block : Hash) (index : UInt64) : Option Executed :=
  node.executed.find? fun e => index == 0 && blockHash e.block == block

/-- A block has no transaction but the first. -/
theorem entryAt?_of_ne_zero {index : UInt64} (h : index ≠ 0) (node : Node) (block : Hash) :
    node.entryAt? block index = none := by
  refine List.find?_eq_none.2 fun e _ => ?_
  rw [beq_eq_false_iff_ne.2 h, Bool.false_and]
  exact Bool.false_ne_true

/-- A block nothing was executed in has no transaction. -/
theorem entryAt?_of_not_executed {height : UInt64} (h : ∀ e ∈ node.executed, e.block ≠ height)
    (index : UInt64) : node.entryAt? (blockHash height) index = none := by
  refine List.find?_eq_none.2 fun e he hfound => ?_
  rw [Bool.and_eq_true, beq_iff_eq] at hfound
  exact h e he (blockHash_inj (beq_iff_eq.1 hfound.2))

/-- An entry is found by its block, which it has for itself. -/
theorem Counted.entryAt?_eq (h : Counted blocks node) (he : e ∈ node.executed) :
    node.entryAt? (blockHash e.block) 0 = some e := by
  cases hfound : node.entryAt? (blockHash e.block) 0 with
  | none =>
    have hnone := List.find?_eq_none.1 hfound e he
    simp at hnone
  | some other =>
    have hother := List.mem_of_find?_eq_some hfound
    have hblock := List.find?_some hfound
    rw [Bool.and_eq_true, beq_iff_eq, beq_iff_eq] at hblock
    rw [h.eq_of_block_eq hother he (blockHash_inj hblock.2)]

/-! ## Receipts

The table of receipts is filled along with the list of entries. Each receipt in it is that of an
entry, and each entry has one under its hash, though a later entry of the same hash would have
replaced it. -/

/-- The receipts are those of what was executed. -/
structure Filed (node : Node) : Prop where
  found : ∀ hash r, node.receipts.get? hash = some r →
    ∃ e ∈ node.executed, e.transaction.hash = hash ∧ r = receipt e
  kept : ∀ e ∈ node.executed, ∃ r, node.receipts.get? e.transaction.hash = some r

theorem filed_fresh : Filed fresh where
  found hash r h := by cases h
  kept e he := by cases he

/-- A record files the receipt of its entry and keeps the others. -/
theorem Filed.record (h : Filed node) (e : Executed) : Filed (node.record e) where
  found hash r hr := by
    have hreceipts : (node.receipts.insert e.transaction.hash (receipt e)).get? hash = some r := hr
    rw [Table.get?_insert] at hreceipts
    -- a receipt under the new hash is the new one, and any other was there before
    split at hreceipts
    · rename_i heq
      exact ⟨e, List.mem_append_right _ (List.mem_singleton_self e), heq.symm,
        (Option.some.inj hreceipts).symm⟩
    · obtain ⟨older, holder, hhash, hr⟩ := h.found hash r hreceipts
      exact ⟨older, List.mem_append_left _ holder, hhash, hr⟩
  kept entry hentry := by
    show ∃ r, (node.receipts.insert e.transaction.hash (receipt e)).get? entry.transaction.hash
      = some r
    rw [Table.get?_insert]
    split
    · exact ⟨receipt e, rfl⟩
    · rename_i hne
      rcases List.mem_append.1 hentry with hold | hnew
      · exact h.kept entry hold
      · rw [List.mem_singleton.1 hnew] at hne
        exact absurd rfl hne

section Schemes

variable [SignatureScheme]

/-- Every event keeps the receipts filed. -/
theorem Filed.after (h : Filed node) (event : Event) : Filed (node.after event) := by
  cases event with
  | fund => exact ⟨h.found, h.kept⟩
  | mine => exact ⟨h.found, h.kept⟩
  | invoke method params =>
    rcases node.after_invoke_cases method params with hsame | ⟨raw, e, -, hafter⟩
    · rw [hsame]
      exact h
    · rw [hafter]
      exact h.record e

theorem filed_of_reaches (h : fresh.Reaches node) : Filed node := by
  induction h with
  | refl => exact filed_fresh
  | step event _ _ ih => exact ih.after event

theorem exists_counted_of_reaches (h : fresh.Reaches node) : ∃ blocks, Counted blocks node := by
  induction h with
  | refl => exact ⟨0, counted_fresh⟩
  | step event _ hheight ih =>
    obtain ⟨blocks, hcounted⟩ := ih
    exact ⟨_, hcounted.after event hheight⟩

/-- The transaction of an entry was read from some bytes. -/
theorem exists_decode_of_reaches (h : fresh.Reaches node) (he : e ∈ node.executed) :
    ∃ raw, SignedTransaction.decode raw = .ok e.transaction := by
  induction h with
  | refl => cases he
  | @step node event _ _ ih =>
    -- an entry was there before the last event, or was made by it
    rcases node.after_cases event with hsame | ⟨raw, accepted, hexamine, hafter⟩
    · rw [hsame] at he
      exact ih he
    · rw [hafter] at he
      rcases List.mem_append.1 he with hold | hnew
      · exact ih hold
      · rw [List.mem_singleton.1 hnew]
        exact ⟨raw, (examine_eq_ok_iff.1 hexamine).1⟩

/-- The sender of an entry is the one its signature recovers. -/
theorem sender_of_reaches (h : fresh.Reaches node) (he : e ∈ node.executed) :
    e.transaction.sender = .ok e.sender := by
  obtain ⟨_, _, haccepts, _⟩ := exists_accepts_of_reaches h he nofun
  exact haccepts.sender

/-- No two encodings of what was executed have the same digest. -/
def Distinct (node : Node) : Prop :=
  ∀ e ∈ node.executed, ∀ other ∈ node.executed,
    keccak256 e.transaction.raw = keccak256 other.transaction.raw →
      e.transaction.raw = other.transaction.raw

/-- Entries with the same digest have the same transaction, so they are of one account and have one
nonce. -/
theorem eq_of_hash_eq (h : fresh.Reaches node) (hdistinct : node.Distinct)
    (he : e ∈ node.executed) (hother : other ∈ node.executed)
    (hhash : e.transaction.hash = other.transaction.hash) : e = other := by
  obtain ⟨blocks, hcounted⟩ := exists_counted_of_reaches h
  obtain ⟨raw, hread⟩ := exists_decode_of_reaches h he
  obtain ⟨raw', hread'⟩ := exists_decode_of_reaches h hother
  have htransaction : e.transaction = other.transaction :=
    SignedTransaction.raw_inj (SignedTransaction.length_data_lt_of_decode hread)
      (SignedTransaction.length_data_lt_of_decode hread') (hdistinct e he other hother hhash)
  -- the same transaction leads to the same sender, and a sender uses a nonce once
  have hsender : e.sender = other.sender := by
    have hsigner := sender_of_reaches h he
    rw [htransaction, sender_of_reaches h hother] at hsigner
    exact (Except.ok.inj hsigner).symm
  exact hcounted.eq_of_nonce_eq he hother hsender (by rw [htransaction])

/-- The receipt that is kept under the digest of an entry is its own. -/
theorem get?_receipts_hash (h : fresh.Reaches node) (hdistinct : node.Distinct)
    (he : e ∈ node.executed) : node.receipts.get? e.transaction.hash = some (receipt e) := by
  have hfiled := filed_of_reaches h
  obtain ⟨r, hr⟩ := hfiled.kept e he
  obtain ⟨other, hother, hhash, rfl⟩ := hfiled.found _ r hr
  rw [hr, eq_of_hash_eq h hdistinct hother he hhash]

end Schemes

/-! ## What the node answers

The answers as values: the parameters are read from what a client sends, and the table, the ledger
or the list of entries is looked into. -/

/-- A parameter that is a text and can be parsed is read. -/
theorem parameter_of_parse {α : Type} {parse : String → Except EncodingError α} {text : String}
    {a : α} {method : String} {params : List Json} {index : Nat}
    (htext : params[index]? = some (.str text)) (h : parse text = .ok a) :
    parameter method params index parse = .ok a := by
  have hfound : textParameter method params index = .ok text := by rw [textParameter, htext]
  exact bind_eq_ok_iff.2 ⟨text, hfound, mapError_eq_ok_iff.2 h⟩

/-- A balance is that of the account now, whatever block is asked for. -/
theorem answer_balance (node : Node) (account : Address) (rest : List Json) :
    node.answer "eth_getBalance" (Ask.fixed account :: rest)
      = .ok (Codec.quantity.encode (node.ledger.get account).balance).sorted :=
  bind_eq_ok_iff.2 ⟨account, parameter_of_parse rfl account.parse_text, rfl⟩

theorem answer_receipt (node : Node) (hash : Hash) :
    node.answer "eth_getTransactionReceipt" [Ask.fixed hash]
      = .ok (Receipt.codec.nullable.encode (node.receipts.get? hash)).sorted := by
  refine bind_eq_ok_iff.2 ⟨hash, parameter_of_parse rfl hash.parse_text, ?_⟩
  cases node.receipts.get? hash <;> rfl

theorem answer_transactionInBlock (node : Node) (block : Hash) (index : UInt64) :
    node.answer "eth_getTransactionByBlockHashAndIndex" [Ask.fixed block, Ask.number index]
      = .ok (ReportedTransaction.codec.nullable.encode
          ((node.entryAt? block index).map reported)).sorted := by
  refine bind_eq_ok_iff.2 ⟨block, parameter_of_parse rfl block.parse_text, ?_⟩
  refine bind_eq_ok_iff.2
    ⟨index, parameter_of_parse rfl (Hex.parseUInt64_quantity index), ?_⟩
  rw [entryAt?]
  cases node.executed.find? fun e => index == 0 && blockHash e.block == block <;> rfl

/-! ## What a client reads

The answers of the node go through the decoders of the client, which give back the values the node
encoded. -/

/-- A value that is present and comes back through its codec is decoded. -/
theorem decodePresent_of_returns {α : Type} {c : Codec α} {a : α} (h : c.Returns a)
    (hnull : c.encode a ≠ .null) (method what : String) :
    Ask.decodePresent method what c (c.encode a).sorted = .ok a := by
  have hpresent : Ask.decodePresent method what c (c.encode a).sorted
      = Ask.decode method c (c.encode a).sorted := by
    have hsorted := Json.sorted_ne_null hnull
    rw [Ask.decodePresent]
    exact hsorted
  rw [hpresent]
  exact mapError_eq_ok_iff.2 h

section Schemes

variable [SignatureScheme]

/-- A client reads out of a reported transaction the one that was executed. -/
theorem toSigned_reported (h : e.transaction.sender = .ok e.sender) (method : String) :
    (reported e).toSigned method = .ok e.transaction := by
  have hsigned : ¬ (e.transaction.r = 0 ∧ e.transaction.s = 0) :=
    fun hzero => SignedTransaction.r_ne_zero_of_sender h hzero.1
  exact ReportedTransaction.toSigned_ofSigned hsigned method

/-- A question is answered by the node as it is. -/
theorem outcome_ask {α : Type} (node : Node) {method : String} (params : List Json)
    (read : String → Json → Except GatewayError α) (hmethod : method ≠ "eth_sendRawTransaction") :
    (Ask.ask method params read).outcome gateway node
      = (node.answer method params).bind (read method) := by
  have hplays := Ask.plays_ask gateway method params read node
  have hinvoke : gateway.invoke method params node = (node.answer method params, node) :=
    if_neg hmethod
  rw [hplays.outcome_eq, hinvoke]

theorem outcome_blockNumber (node : Node) :
    Ask.blockNumber.outcome gateway node = .ok node.height := by
  rw [Ask.blockNumber, outcome_ask node _ _ (by decide)]
  exact Ask.decodeUInt64_quantity _ _

theorem outcome_pendingNonce (node : Node) (account : Address) :
    (Ask.pendingNonce account).outcome gateway node = .ok (node.ledger.get account).nonce := by
  have hanswer : node.answer "eth_getTransactionCount"
      [Ask.fixed account, .str BlockId.pending.text]
        = .ok (.str (Hex.quantity (node.ledger.get account).nonce.toNat)) :=
    node.answer_transactionCount account
  rw [Ask.pendingNonce, outcome_ask node _ _ (by decide), hanswer]
  exact Ask.decodeUInt64_quantity _ _

/-- Asked for a balance at any block, the node gives the one of now. -/
theorem outcome_balanceAt (node : Node) (account : Address) (block : BlockId) :
    (Ask.balanceAt account block).outcome gateway node
      = .ok (node.ledger.get account).balance := by
  have hreturns : Codec.quantity.Returns (node.ledger.get account).balance :=
    Codec.returns_quantity _
  rw [Ask.balanceAt, outcome_ask node _ _ (by decide), answer_balance]
  exact mapError_eq_ok_iff.2 hreturns

theorem outcome_receipt {hash : Hash} (h : node.receipts.get? hash = some (receipt e)) :
    (Ask.receipt hash).outcome gateway node = .ok (receipt e) := by
  have hround : Receipt.codec.RoundTrips 2 (receipt e) :=
    Receipt.roundTrips (List.forall_mem_nil _)
  have hreturns : Receipt.codec.Returns (receipt e) := hround.returns
  rw [Ask.receipt, outcome_ask node _ _ (by decide), answer_receipt, h,
    Codec.encode_nullable_some, Except.bind]
  exact decodePresent_of_returns hreturns (Codec.encode_record_ne_null _ _ _ _) _ _

theorem outcome_receipt_of_none {hash : Hash} (h : node.receipts.get? hash = none) :
    (Ask.receipt hash).outcome gateway node = .error (.notFound ("receipt " ++ hash.text)) := by
  rw [Ask.receipt, outcome_ask node _ _ (by decide), answer_receipt, h]
  rfl

theorem outcome_transactionInBlock {block : Hash} {index : UInt64}
    (h : node.entryAt? block index = some e) (hsender : e.transaction.sender = .ok e.sender) :
    (Ask.transactionInBlock block index).outcome gateway node = .ok e.transaction := by
  have hreturns : ReportedTransaction.codec.Returns (reported e) := ReportedTransaction.returns _
  rw [Ask.transactionInBlock, outcome_ask node _ _ (by decide), answer_transactionInBlock, h,
    Option.map_some, Codec.encode_nullable_some, Except.bind,
    decodePresent_of_returns hreturns (Codec.encode_record_ne_null _ _ _ _)]
  exact toSigned_reported hsender _

theorem outcome_transactionInBlock_of_none {block : Hash} {index : UInt64}
    (h : node.entryAt? block index = none) :
    (Ask.transactionInBlock block index).outcome gateway node = .error
      (.notFound ("transaction " ++ toString index.toNat ++ " of block " ++ block.text)) := by
  rw [Ask.transactionInBlock, outcome_ask node _ _ (by decide), answer_transactionInBlock, h]
  rfl

/-! ## What a client finds

All queries together, against any node that is reached. The one assumption beyond that is that no
two transactions of the node share a hash. -/

/-- What a client finds at a node: its height, its accounts, and what it has executed. -/
structure Answers (node : Node) : Prop where
  height : (Client.query Ask.blockNumber).outcome gateway node = .ok node.height
  balance : ∀ account, (Client.query (Ask.balance account)).outcome gateway node
    = .ok (node.ledger.get account).balance
  balanceAt : ∀ account block, (Client.query (Ask.balanceAt account block)).outcome gateway node
    = .ok (node.ledger.get account).balance
  nonce : ∀ account, (Ask.pendingNonce account).outcome gateway node
    = .ok (node.ledger.get account).nonce
  receipt : ∀ e ∈ node.executed, ∃ r : Receipt,
    (Client.query (Ask.receipt e.transaction.hash)).outcome gateway node = .ok r
      ∧ r.succeeded = true ∧ r.transactionHash = e.transaction.hash
      ∧ r.blockNumber = some (.ofNat 256 e.block.toNat) ∧ r.blockHash = some (blockHash e.block)
      ∧ r.sender = some e.sender ∧ r.recipient = some e.transaction.recipient
  transaction : ∀ e ∈ node.executed,
    (Client.query (Ask.transactionInBlock (blockHash e.block) 0)).outcome gateway node
        = .ok e.transaction
      ∧ keccak256 e.transaction.raw = e.transaction.hash ∧ e.transaction.sender = .ok e.sender
  noReceipt : ∀ hash, (∀ e ∈ node.executed, e.transaction.hash ≠ hash) →
    (Client.query (Ask.receipt hash)).outcome gateway node
      = .error (.notFound ("receipt " ++ hash.text))
  noIndex : ∀ block index, index ≠ 0 →
    (Client.query (Ask.transactionInBlock block index)).outcome gateway node
      = .error (.notFound ("transaction " ++ toString index.toNat ++ " of block " ++ block.text))
  noBlock : ∀ height index, (∀ e ∈ node.executed, e.block ≠ height) →
    (Client.query (Ask.transactionInBlock (blockHash height) index)).outcome gateway node
      = .error (.notFound
        ("transaction " ++ toString index.toNat ++ " of block " ++ (blockHash height).text))

/-- What a client finds at a node is what the node has: nothing is lost in the answers, and what
the node has not executed is not found. -/
theorem answers_of_reaches {node : Node} (h : fresh.Reaches node) (hdistinct : node.Distinct) :
    Answers node := by
  obtain ⟨blocks, hcounted⟩ := exists_counted_of_reaches h
  have hmissing {block : Hash} {index : UInt64} (hnone : node.entryAt? block index = none) :
      (Client.query (Ask.transactionInBlock block index)).outcome gateway node = .error (.notFound
        ("transaction " ++ toString index.toNat ++ " of block " ++ block.text)) := by
    rw [Client.outcome_query, outcome_transactionInBlock_of_none hnone]
    rfl
  exact {
    height := by
      rw [Client.outcome_query, outcome_blockNumber]
      rfl
    balance := by
      intro account
      rw [Client.outcome_query, Ask.balance, outcome_balanceAt]
      rfl
    balanceAt := by
      intro account block
      rw [Client.outcome_query, outcome_balanceAt]
      rfl
    nonce := node.outcome_pendingNonce
    receipt := by
      intro e he
      refine ⟨receipt e, ?_, rfl, rfl, rfl, rfl, rfl, rfl⟩
      rw [Client.outcome_query, outcome_receipt (get?_receipts_hash h hdistinct he)]
      rfl
    transaction := by
      intro e he
      have hsender := sender_of_reaches h he
      refine ⟨?_, rfl, hsender⟩
      rw [Client.outcome_query, outcome_transactionInBlock (hcounted.entryAt?_eq he) hsender]
      rfl
    noReceipt := by
      intro hash hother
      -- a receipt that is found belongs to an entry, whose hash is the one that was asked for
      cases hfound : node.receipts.get? hash with
      | none =>
        rw [Client.outcome_query, outcome_receipt_of_none hfound]
        rfl
      | some r =>
        obtain ⟨e, he, hhash, -⟩ := (filed_of_reaches h).found hash r hfound
        exact absurd hhash (hother e he)
    noIndex := fun block index hindex => hmissing (entryAt?_of_ne_zero hindex node block)
    noBlock := fun height index hnone => hmissing (entryAt?_of_not_executed hnone index) }

end Schemes

/-- After the key of the examples has sent a part of what it was given, its transaction is found in
its block and nothing in the block before. -/
theorem answers_of_reaches_transfer :
    letI := Guarded.scheme
    let sender := Guarded.key.address
    ∃ t : SignedTransaction,
      let node := fresh.afterAll [.fund sender 0x38D7EA4C68000,
        .invoke "eth_sendRawTransaction" [.str (Hex.marked t.raw)]]
      (Client.query Ask.blockNumber).outcome gateway node = .ok 0x671
        ∧ (∃ r, (Client.query (Ask.receipt t.hash)).outcome gateway node = .ok r
          ∧ r.succeeded = true ∧ r.sender = some sender)
        ∧ (Client.query (Ask.transactionInBlock (blockHash 0x671) 0)).outcome gateway node = .ok t
        ∧ (Client.query (Ask.transactionInBlock (blockHash 0x670) 0)).outcome gateway node
          = .error (.notFound ("transaction 0 of block " ++ (blockHash 0x670).text)) := by
  let _ : SignatureScheme := Guarded.scheme
  intro sender
  obtain ⟨t, -, hclimbs, hnode⟩ := exists_climbs_transfer
  have hreaches := reaches_afterAll .refl hclimbs
  refine ⟨t, ?_⟩
  rw [hnode] at hreaches ⊢
  let e : Executed := ⟨0x671, sender, t, none, []⟩
  let node := (fresh.fund sender 0x38D7EA4C68000).record e
  have hexecuted : node.executed = [e] := rfl
  -- there is one entry only, so no two share a hash
  have hdistinct : node.Distinct := by
    intro entry hentry other hother _
    rw [hexecuted] at hentry hother
    rw [List.mem_singleton.1 hentry, List.mem_singleton.1 hother]
  have hentry : e ∈ node.executed := List.mem_singleton_self e
  have hblock : ∀ entry ∈ node.executed, entry.block ≠ 0x670 := by
    rw [hexecuted, List.forall_mem_singleton]
    exact (by decide : (0x671 : UInt64) ≠ 0x670)
  have hanswers : Answers node := answers_of_reaches hreaches hdistinct
  obtain ⟨r, hr, hsucceeded, -, -, -, hsender, -⟩ := hanswers.receipt e hentry
  exact ⟨hanswers.height, ⟨r, hr, hsucceeded, hsender⟩, (hanswers.transaction e hentry).1,
    hanswers.noBlock 0x670 0 hblock⟩

end Node

end NftExchange
