import NftExchange.Proofs.Node.Shared

/-!
# Histories

What a node has executed is ordered in two ways. By height: every entry has a block of its own, and
what the height has come to is known from the blocks that passed. And for each account by nonce: its
entries count up from zero to the nonce that the account has now. So the nonce of an entry is below
that of its account ever after, and what was executed once is refused from then on.

* **`Counted.after`** — what one event does to the counts, and **`Counted.afterAll`** any number;
* **`invoke_executed`** — what was executed is refused for its nonce;
* **`counted_of_climbs`** — the counts of a run, and that nothing in it is executed again.
-/

namespace NftExchange.Node

open Except (bind_eq_ok_iff)

/-! ## Counting

The height of a node is that of a fresh one plus the blocks mined plus the transactions entered, and
the nonces of an account run from zero up to the one that is next. The two are one invariant, since
the counters wrap and only the height bounds the number of entries. -/

/-- How many blocks without transactions an event adds. -/
def Event.blocks : Event → Nat
  | .mine blocks => blocks.toNat
  | _ => 0

/-- How many blocks without transactions all events add. -/
def mined (events : List Event) : Nat := (events.map Event.blocks).sum

/-- What was executed of an account, in order. -/
def executedBy (node : Node) (account : Address) : List Executed :=
  node.executed.filter fun e => e.sender = account

/-- The order of what a node has executed, after a number of blocks without transactions. -/
structure Counted (blocks : Nat) (node : Node) : Prop where
  height : node.height.toNat = 0x670 + blocks + node.executed.length
  ascending : node.executed.Pairwise fun e later => e.block < later.block
  reached : ∀ e ∈ node.executed, e.block ≤ node.height
  nonces : ∀ account, (node.executedBy account).map (fun e => e.transaction.nonce.toNat)
    = List.range (node.ledger.get account).nonce.toNat

/-- A fresh node has counted nothing. -/
theorem counted_fresh : Counted 0 fresh where
  height := by decide
  ascending := List.Pairwise.nil
  reached := by
    intro e he
    cases he
  nonces account := by
    have hnonce : (fresh.ledger.get account).nonce = 0 := rfl
    rw [hnonce]
    rfl

variable {node : Node} {blocks : Nat}

/-- An account has sent no more than what was executed. -/
theorem Counted.nonce_le (h : Counted blocks node) (account : Address) :
    (node.ledger.get account).nonce.toNat ≤ node.executed.length := by
  have hcount := congrArg List.length (h.nonces account)
  rw [List.length_map, List.length_range] at hcount
  rw [← hcount]
  exact List.length_filter_le ..

/-- An entered transaction has a nonce below the one its sender has next. -/
theorem Counted.nonce_lt (h : Counted blocks node) {e : Executed} (he : e ∈ node.executed) :
    e.transaction.nonce < (node.ledger.get e.sender).nonce := by
  have hmem : e ∈ node.executedBy e.sender := List.mem_filter.2 ⟨he, decide_eq_true rfl⟩
  have hrange := List.mem_map_of_mem (f := fun e => e.transaction.nonce.toNat) hmem
  rw [h.nonces] at hrange
  exact UInt64.lt_iff_toNat_lt.2 (List.mem_range.1 hrange)

/-- A record adds an entry to the account of its sender only. -/
theorem executedBy_record (node : Node) (e : Executed) (account : Address) :
    (node.record e).executedBy account
      = node.executedBy account ++ if e.sender = account then [e] else [] := by
  rw [executedBy, record, List.filter_append, List.filter_singleton, executedBy]
  by_cases h : e.sender = account
  · simp [h]
  · simp [h]

/-! ## One event

Funding and mining make no entry, and a record adds one with the nonce that was next. The height
must not wrap at the event, which is why every step lemma knows the new one. -/

/-- Funding counts neither a block nor a nonce. -/
theorem Counted.fund (h : Counted blocks node) (account : Address) (amount : UInt256) :
    Counted blocks (node.fund account amount) where
  height := h.height
  ascending := h.ascending
  reached := h.reached
  nonces other := by
    have hnonce : ((node.fund account amount).ledger.get other).nonce
        = (node.ledger.get other).nonce := Ledger.nonce_credit ..
    rw [hnonce]
    exact h.nonces other

/-- Blocks that pass are counted, if they do not take the height past the largest word. -/
theorem Counted.mine (h : Counted blocks node) {more : UInt64}
    (hheight : node.height ≤ (node.mine more).height) :
    Counted (blocks + more.toNat) (node.mine more) where
  height := by
    have hsum : (node.height + more).toNat = node.height.toNat + more.toNat :=
      UInt64.toNat_add_of_le hheight
    have hcount := h.height
    show (node.height + more).toNat = 0x670 + (blocks + more.toNat) + node.executed.length
    omega
  ascending := h.ascending
  reached e he := UInt64.le_trans (h.reached e he) hheight
  nonces := h.nonces

section Schemes

variable [SignatureScheme]

/-- An accepted transaction takes the next height and the next nonce of its sender. -/
theorem Counted.record (h : Counted blocks node) {e : Executed} (haccepts : node.Accepts e)
    (hblock : e.block.toNat = node.height.toNat + 1) : Counted blocks (node.record e) where
  height := by
    have hheight := h.height
    show e.block.toNat = 0x670 + blocks + (node.executed ++ [e]).length
    rw [List.length_append, List.length_singleton]
    omega
  -- the new block lies above the height, and every earlier one at or below it
  ascending := by
    refine List.pairwise_append.2 ⟨h.ascending, List.pairwise_singleton _ _, ?_⟩
    intro earlier hearlier later hlater
    obtain rfl := List.mem_singleton.1 hlater
    have hle := UInt64.le_iff_toNat_le.1 (h.reached earlier hearlier)
    exact UInt64.lt_iff_toNat_lt.2 (by omega)
  reached := by
    intro entry hentry
    rcases List.mem_append.1 hentry with hold | hnew
    · have hle := UInt64.le_iff_toNat_le.1 (h.reached entry hold)
      exact UInt64.le_iff_toNat_le.2 (by show _ ≤ e.block.toNat; omega)
    · obtain rfl := List.mem_singleton.1 hnew
      exact UInt64.le_refl _
  nonces := by
    intro account
    rw [executedBy_record, List.map_append, h.nonces]
    by_cases hsender : e.sender = account
    · -- so many entries there are that one more nonce fits
      have hle := h.nonce_le account
      have hheight := h.height
      have hlt := e.block.toNat_lt
      have hone : (1 : UInt64).toNat = 1 := rfl
      have hnext : ((node.ledger.get account).nonce + 1).toNat
          = (node.ledger.get account).nonce.toNat + 1 := by
        rw [UInt64.toNat_add]
        omega
      have hnonce : e.transaction.nonce = (node.ledger.get account).nonce := by
        rw [haccepts.nonce, hsender]
      rw [if_pos hsender, nonce_record node hsender, hnext, List.range_succ, ← hnonce]
      rfl
    · rw [if_neg hsender, (node.account_record_of_ne hsender).1]
      exact List.append_nil _

/-- Every event keeps the count, if it does not make the height wrap. -/
theorem Counted.after (h : Counted blocks node) (event : Event)
    (hheight : node.height ≤ (node.after event).height) :
    Counted (blocks + event.blocks) (node.after event) := by
  cases event with
  | fund account amount => exact h.fund account amount
  | mine more => exact h.mine hheight
  | invoke method params =>
    rcases node.after_invoke_cases method params with hsame | ⟨raw, e, hexamine, hafter⟩
    · rw [hsame]
      exact h
    · rw [hafter] at hheight ⊢
      have haccepts := (examine_eq_ok_iff.1 hexamine).2
      exact h.record haccepts (haccepts.toNat_block hheight)

/-! ## Any number of events

The height may wrap after 2⁶⁴ blocks. A run climbs when that does not happen at any of its events,
and along such a run the count holds at every node. -/

/-- The height never starts again from zero. -/
def Climbs (node : Node) : List Event → Prop
  | [] => True
  | event :: events => node.height ≤ (node.after event).height ∧ (node.after event).Climbs events

/-- The count holds at the end of a run that climbs, by induction on its events. -/
theorem Counted.afterAll (h : Counted blocks node) {events : List Event}
    (hclimbs : node.Climbs events) : Counted (blocks + mined events) (node.afterAll events) := by
  induction events generalizing node blocks with
  | nil => exact h
  | cons event events ih =>
    have hstep := ih (h.after event hclimbs.1) hclimbs.2
    have hsum : mined (event :: events) = event.blocks + mined events := rfl
    rw [hsum, ← Nat.add_assoc]
    exact hstep

/-- A run that climbs ends at a node that is reached. -/
theorem reaches_afterAll {start : Node} (h : start.Reaches node) {events : List Event}
    (hclimbs : node.Climbs events) : start.Reaches (node.afterAll events) := by
  induction events generalizing node with
  | nil => exact h
  | cons event events ih => exact ih (h.step event hclimbs.1) hclimbs.2

/-! ## Sending again

A transaction that was entered has used its nonce up. Sending it another time, in whatever spelling,
is refused for its nonce, and the message names the nonce it has and the one that is next. -/

/-- The transaction that the parameters of a call carry. -/
def carried (params : List Json) : Except GatewayError SignedTransaction := do
  let raw ← sentBytes params
  SignedTransaction.decode raw

/-- What was executed is refused for its nonce, in whatever bytes it comes. -/
theorem invoke_executed (h : Counted blocks node) (hreaches : fresh.Reaches node) {e : Executed}
    (he : e ∈ node.executed) {params : List Json} (hcarried : carried params = .ok e.transaction) :
    invoke "eth_sendRawTransaction" params node = (.error (.rejected "eth_sendRawTransaction"
      (-32000) (Rejection.nonce e.transaction.nonce (node.ledger.get e.sender).nonce).message),
      node) := by
  obtain ⟨raw, hsent, hread⟩ := bind_eq_ok_iff.1 hcarried
  obtain ⟨before, -, haccepts, -, -⟩ := exists_accepts_of_reaches hreaches he nofun
  have hchain : e.transaction.chainId = some chainId := haccepts.chain
  have hnonce : e.transaction.nonce ≠ (node.ledger.get e.sender).nonce :=
    UInt64.ne_of_lt (h.nonce_lt he)
  -- chain and sender were right before and still are, so the nonce is what fails
  have hexamine : node.examine raw
      = .error (.nonce e.transaction.nonce (node.ledger.get e.sender).nonce) := by
    simp only [examine, hread, haccepts.sender, Except.mapError, bind, Except.bind, hchain,
      if_pos hnonce, ne_eq, not_true_eq_false, if_false]
  rw [invoke_sendRawTransaction, hsent]
  simp only [hexamine]

/-- In a run whose height never starts again, the height is the first one and a block for each that
was mined and each transaction that was executed; blocks and nonces of what was executed are in
order and without gaps. A transaction that was accepted is refused ever after, in any bytes that are
read as it, for a nonce that is too low. -/
theorem counted_of_climbs (events : List Event) (h : fresh.Climbs events) :
    let node := fresh.afterAll events
    Counted (mined events) node
      ∧ ∀ past params rest answer,
        events = past ++ .invoke "eth_sendRawTransaction" params :: rest →
        (invoke "eth_sendRawTransaction" params (fresh.afterAll past)).1 = .ok answer →
        ∃ t sender, carried params = .ok t ∧ t.sender = .ok sender
          ∧ t.nonce < (node.ledger.get sender).nonce
          ∧ ∀ again, carried again = .ok t → invoke "eth_sendRawTransaction" again node
            = (.error (.rejected "eth_sendRawTransaction" (-32000)
              ("invalid nonce: have " ++ toString t.nonce.toNat
                ++ ", want " ++ toString (node.ledger.get sender).nonce.toNat)), node) := by
  intro node
  have hcounted : Counted (mined events) node := by
    have hall := counted_fresh.afterAll h
    rw [Nat.zero_add] at hall
    exact hall
  have hreaches : fresh.Reaches node := reaches_afterAll .refl h
  refine ⟨hcounted, fun past params rest answer hevents haccepted => ?_⟩
  rcases (fresh.afterAll past).invoke_sendRaw_cases params with
    -- a call that was refused gave no answer, so the call was one that made an entry
    ⟨failure, hfailure⟩ | ⟨raw, e, hsent, hexamine, hinvoke⟩
  · rw [hfailure] at haccepted
    cases haccepted
  · obtain ⟨hread, haccepts⟩ := examine_eq_ok_iff.1 hexamine
    have hcarried : carried params = .ok e.transaction := bind_eq_ok_iff.2 ⟨raw, hsent, hread⟩
    -- the entry was made when the transaction was accepted, and is still there
    have hnode : node = ((fresh.afterAll past).record e).afterAll rest := by
      have hmade : (fresh.afterAll past).after (.invoke "eth_sendRawTransaction" params)
          = (fresh.afterAll past).record e := congrArg Prod.snd hinvoke
      show fresh.afterAll events = _
      rw [hevents, ← hmade, afterAll, List.foldl_append]
      rfl
    have hentry : e ∈ node.executed := by
      rw [hnode]
      refine (executed_prefix_afterAll _ rest).subset ?_
      exact List.mem_append_right _ (List.mem_singleton_self e)
    exact ⟨e.transaction, e.sender, hcarried, haccepts.sender, hcounted.nonce_lt hentry,
      fun again hagain => invoke_executed hcounted hreaches hentry hagain⟩

end Schemes

/-- The key of the examples sends a part of what it was given, and it is recorded. -/
theorem exists_climbs_transfer :
    letI := Guarded.scheme
    let sender := Guarded.key.address
    ∃ t : SignedTransaction,
      let events := [Event.fund sender 0x38D7EA4C68000,
        .invoke "eth_sendRawTransaction" [.str (Hex.marked t.raw)]]
      let e : Executed := ⟨0x671, sender, t, none, []⟩
      (fresh.fund sender 0x38D7EA4C68000).examine t.raw = .ok e ∧ fresh.Climbs events
        ∧ fresh.afterAll events = (fresh.fund sender 0x38D7EA4C68000).record e := by
  let _ : SignatureScheme := Guarded.scheme
  intro sender
  obtain ⟨t, -, -, hexamine⟩ := exists_examine_transfer (.zero 20)
  have hsend : (fresh.after (.fund sender 0x38D7EA4C68000)).after
      (.invoke "eth_sendRawTransaction" [.str (Hex.marked t.raw)])
        = (fresh.fund sender 0x38D7EA4C68000).record ⟨0x671, sender, t, none, []⟩ :=
    congrArg Prod.snd (invoke_sendRaw hexamine)
  have hnext : (0x670 : UInt64) ≤ 0x671 := by decide
  exact ⟨t, hexamine, ⟨UInt64.le_refl _, by rw [hsend]; exact hnext, trivial⟩, hsend⟩

/-- The key of the examples sends the same transaction twice. -/
theorem counted_of_climbs_transfer :
    letI := Guarded.scheme
    let sender := Guarded.key.address
    ∃ t : SignedTransaction,
      let sending := [Json.str (Hex.marked t.raw)]
      let node := fresh.afterAll [.fund sender 0x38D7EA4C68000,
        .invoke "eth_sendRawTransaction" sending]
      node.height.toNat = 0x670 + 1 ∧ (node.ledger.get sender).nonce = 1
        ∧ invoke "eth_sendRawTransaction" sending node
          = (.error (.rejected "eth_sendRawTransaction" (-32000) "invalid nonce: have 0, want 1"),
            node) := by
  let _ : SignatureScheme := Guarded.scheme
  intro sender
  obtain ⟨t, hexamine, hclimbs, hafter⟩ := exists_climbs_transfer
  refine ⟨t, ?_⟩
  intro sending node
  have hnode : node = (fresh.fund sender 0x38D7EA4C68000).record ⟨0x671, sender, t, none, []⟩ :=
    hafter
  obtain ⟨hread, haccepts⟩ := examine_eq_ok_iff.1 hexamine
  have hgift : (fresh.fund sender 0x38D7EA4C68000).ledger.get sender = ⟨0x38D7EA4C68000, 0⟩ :=
    get_fund_fresh sender
  have hfirst : t.nonce = 0 := by
    rw [haccepts.nonce, hgift]
  have hcount : (node.ledger.get sender).nonce = 1 := by
    rw [hnode, nonce_record _ rfl, hgift]
    rfl
  obtain ⟨hcounted, hrefused⟩ := counted_of_climbs _ hclimbs
  have hheight : node.height.toNat = 0x670 + 0 + node.executed.length := hcounted.height
  have hlength : node.executed.length = 1 := by
    rw [hnode]
    rfl
  obtain ⟨again, account, hcarried, hsender, -, hrefused⟩ :=
    hrefused [.fund sender 0x38D7EA4C68000] sending [] (.str t.hash.text) rfl
      (congrArg Prod.fst (invoke_sendRaw hexamine))
  -- what is carried is the transaction itself
  have hsame : carried sending = .ok t := bind_eq_ok_iff.2 ⟨t.raw, sentBytes_marked t.raw, hread⟩
  obtain rfl := Except.ok.inj (hsame.symm.trans hcarried)
  obtain rfl := Except.ok.inj (haccepts.sender.symm.trans hsender)
  have hmessage : "invalid nonce: have " ++ toString t.nonce.toNat ++ ", want "
      ++ toString (node.ledger.get sender).nonce.toNat = "invalid nonce: have 0, want 1" := by
    rw [hfirst, hcount]
    rfl
  rw [← hmessage]
  exact ⟨by rw [hheight, hlength], hcount, hrefused sending hsame⟩

end NftExchange.Node
