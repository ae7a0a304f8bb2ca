import NftExchange.Proofs.Client.Submission
import NftExchange.Proofs.Hex.Quantity
import NftExchange.Proofs.Node.Run

/-!
# A node that others use too

Between the calls of a client its node goes on: accounts are given amounts, blocks pass, and other
clients call. A client that submits reads its nonce some calls before it sends. What it reads is
still right then, as long as nothing of its own account was executed in between.

* **`keeps_of_rests`** — what others do leaves the nonce of an account and takes nothing from it;
* **`plays_submit_shared`** — a submission whose transaction the node accepts when it is sent is
  executed, and its digest is returned.
-/

namespace NftExchange

namespace Node

open Except (bind_eq_ok_iff mapError_eq_ok_iff)

variable {node next : Node} {account : Address}

/-! ## What others do

Between the calls of a client other events happen at its node. As long as none of them executes a
transaction of its account, its nonce stays and its balance does not sink, which is all that a
submission relies on. -/

/-- Nothing of the account was executed between two nodes. -/
def Rests (account : Address) (node next : Node) : Prop :=
  ∀ e ∈ next.executed.drop node.executed.length, e.sender ≠ account

/-- The nonce of the account is kept, and nothing is taken from its balance. -/
structure Keeps (account : Address) (node next : Node) : Prop where
  nonce : (next.ledger.get account).nonce = (node.ledger.get account).nonce
  balance : (node.ledger.get account).balance ≤ (next.ledger.get account).balance

theorem Keeps.trans {last : Node} (h : Keeps account node next) (h' : Keeps account next last) :
    Keeps account node last :=
  ⟨h'.nonce.trans h.nonce, BitVec.le_trans h.balance h'.balance⟩

/-- If nothing of the account was executed on the whole way, nothing was on the last part of it. -/
theorem Rests.of_later {middle : Node} (h : Rests account node next)
    (hearlier : node.executed <+: middle.executed) : Rests account middle next := by
  intro e he
  exact h e ((List.drop_sublist_drop_left _ hearlier.length_le).subset he)

section Schemes

variable [SignatureScheme]

/-- The node after a number of events. -/
def afterAll (node : Node) (events : List Event) : Node := events.foldl after node

/-- An event keeps all entries, in their order. -/
theorem executed_prefix_after (node : Node) (event : Event) :
    node.executed <+: (node.after event).executed := by
  rcases node.after_cases event with hsame | ⟨raw, e, -, hafter⟩
  · rw [hsame]
  · rw [hafter]
    exact List.prefix_append _ _

/-- A run keeps all entries, in their order. -/
theorem executed_prefix_afterAll (node : Node) (events : List Event) :
    node.executed <+: (node.afterAll events).executed := by
  induction events generalizing node with
  | nil => exact List.prefix_rfl
  | cons event events ih => exact (node.executed_prefix_after event).trans (ih _)

/-- An event that executes nothing of the account keeps its nonce and takes nothing from it. -/
theorem keeps_of_rests_after {event : Event} (h : Rests account node (node.after event)) :
    Keeps account node (node.after event) := by
  cases event with
  | fund other amount => exact ⟨Ledger.nonce_credit .., Ledger.balance_le_credit ..⟩
  | mine => exact ⟨rfl, BitVec.le_refl _⟩
  | invoke method params =>
    rcases node.after_invoke_cases method params with hsame | ⟨raw, e, -, hafter⟩
    · rw [hsame]
      exact ⟨rfl, BitVec.le_refl _⟩
    · rw [hafter] at h ⊢
      -- what was recorded is of another account
      have hsender : e.sender ≠ account := by
        refine h e ?_
        show e ∈ (node.executed ++ [e]).drop node.executed.length
        rw [List.drop_left]
        exact List.mem_singleton_self e
      obtain ⟨hnonce, hbalance⟩ := node.account_record_of_ne hsender
      exact ⟨hnonce, hbalance⟩

/-- A run that executes nothing of the account keeps its nonce and takes nothing from it. -/
theorem keeps_of_rests {events : List Event} (h : Rests account node (node.afterAll events)) :
    Keeps account node (node.afterAll events) := by
  -- the node is kept general: the rest of the run starts where the first event has led
  induction events generalizing node with
  | nil => exact ⟨rfl, BitVec.le_refl _⟩
  | cons event events ih =>
    -- what the first event adds is still there at the end, so it is of another account too
    have hfirst : Rests account node (node.after event) := by
      intro e he
      refine h e ?_
      obtain ⟨rest, hrest⟩ := (node.after event).executed_prefix_afterAll events
      have hexecuted : (node.afterAll (event :: events)).executed
          = (node.after event).executed ++ rest := hrest.symm
      rw [hexecuted, List.drop_append_of_le_length (node.executed_prefix_after event).length_le]
      exact List.mem_append_left _ he
    have hrest : Rests account (node.after event) ((node.after event).afterAll events) :=
      h.of_later (node.executed_prefix_after event)
    exact (keeps_of_rests_after hfirst).trans (ih hrest)

/-! ## Turns

The gateway lets others act before each call: its state is a node together with the number of calls
so far, by which their events are chosen. -/

variable {others : Nat → List Event}

/-- A node that others use too: the events `others i` happen before the call number `i`. -/
def sharedGateway (others : Nat → List Event) : Gateway (Node × Nat) where
  invoke method params state :=
    let (answer, node) := invoke method params (state.1.afterAll (others state.2))
    (answer, node, state.2 + 1)

/-- The node after what others do in the first turns. -/
def afterTurns (node : Node) (others : Nat → List Event) (turns : Nat) : Node :=
  node.afterAll ((List.range turns).flatMap others)

theorem afterTurns_succ (node : Node) (turn : Nat) : node.afterTurns others (turn + 1)
    = (node.afterTurns others turn).afterAll (others turn) := by
  rw [afterTurns, List.range_succ, List.flatMap_append, List.flatMap_singleton, afterAll,
    List.foldl_append]
  rfl

theorem exists_afterAll_of_le (node : Node) (others : Nat → List Event) {turn turns : Nat}
    (h : turn ≤ turns) :
    ∃ events, node.afterTurns others turns = (node.afterTurns others turn).afterAll events := by
  induction h with
  | refl => exact ⟨[], rfl⟩
  | @step turns h ih =>
    obtain ⟨events, hevents⟩ := ih
    refine ⟨events ++ others turns, ?_⟩
    rw [afterTurns_succ, hevents, afterAll, afterAll, afterAll, List.foldl_append]

/-- The nonce that is read in one turn is still right in a later one. -/
theorem keeps_of_le {turn turns : Nat} (h : turn ≤ turns)
    (hrests : Rests account node (node.afterTurns others turns)) :
    Keeps account (node.afterTurns others turn) (node.afterTurns others turns) := by
  obtain ⟨events, hevents⟩ := node.exists_afterAll_of_le others h
  rw [hevents] at hrests ⊢
  exact keeps_of_rests (hrests.of_later (node.executed_prefix_afterAll _))

end Schemes

/-- Asked for the nonce of an account, the node answers with the one that is next. -/
theorem answer_transactionCount (node : Node) (account : Address) :
    node.answer "eth_getTransactionCount" [.str account.text, .str "pending"]
      = .ok (.str (Hex.quantity (node.ledger.get account).nonce.toNat)) := by
  have haccount : parameter "eth_getTransactionCount" [.str account.text, .str "pending"] 0
      Address.parse = .ok account :=
    bind_eq_ok_iff.2 ⟨account.text, rfl, mapError_eq_ok_iff.2 account.parse_text⟩
  exact bind_eq_ok_iff.2 ⟨account, haccount, rfl⟩

end Node

/-! ## Submitting

A submission against such a gateway, call by call. The node it reads the nonce from and the node it
sends to are different ones, two turns apart. -/

theorem Ask.decodeUInt64_quantity (method : String) (n : UInt64) :
    decodeUInt64 method (.str (Hex.quantity n.toNat)) = .ok n := by
  have htext : decode method .string (.str (Hex.quantity n.toNat))
      = .ok (Hex.quantity n.toNat) := rfl
  simp only [decodeUInt64, htext, bind, Except.bind, Hex.parseUInt64_quantity, Except.mapError]

namespace Client

open Except (mapError_eq_ok_iff)
open Node (sharedGateway Event)

section Schemes

variable [SignatureScheme] {c : Client} {others : Nat → List Event}

/-- How many calls a submission makes that goes well. -/
def calls (c : Client) : Nat := if c.config.chainId = none then 4 else 3

/-- A question to a shared node is answered after what others do first. -/
theorem plays_query_shared {α : Type} (method : String) (params : List Json)
    (read : String → Json → Except GatewayError α) {a : α} (node : Node) (turn : Nat)
    (hmethod : method ≠ "eth_sendRawTransaction")
    (hread : ((node.afterTurns others (turn + 1)).answer method params).bind (read method)
      = .ok a) :
    ∃ x, (query (Ask.ask method params read)).Plays (sharedGateway others)
      (node.afterTurns others turn, turn) [x] (.ok a)
      (node.afterTurns others (turn + 1), turn + 1) := by
  have hplays := plays_query (sharedGateway others) method params read
    (node.afterTurns others turn, turn)
  have hinvoke : (sharedGateway others).invoke method params (node.afterTurns others turn, turn)
      = ((node.afterTurns others (turn + 1)).answer method params,
        node.afterTurns others (turn + 1), turn + 1) := by
    simp only [sharedGateway, Node.invoke, if_neg hmethod, Node.afterTurns_succ]
  simp only [hinvoke, hread] at hplays
  exact ⟨_, hplays⟩

/-- The chain is resolved in as many calls as are left over by the other three. -/
theorem plays_resolveChainId_shared (node : Node)
    (hchain : c.config.chainId = none ∨ c.config.chainId = some 51888) :
    ∃ log turn, c.resolveChainId.Plays (sharedGateway others) (node, 0) log (.ok 51888)
      (node.afterTurns others turn, turn) ∧ turn + 3 = c.calls := by
  -- an unconfigured chain is asked for, and a configured one takes no call
  rcases hchain with hnone | hsome
  · obtain ⟨x, hplays⟩ : ∃ x, (query Ask.chainId).Plays (sharedGateway others) (node, 0) [x]
        (.ok 51888) (node.afterTurns others 1, 1) :=
      plays_query_shared "eth_chainId" [] Ask.decodeUInt64 node 0 (by decide) rfl
    refine ⟨[x], 1, ?_, by rw [calls, if_pos hnone]⟩
    rw [resolveChainId, hnone]
    exact hplays
  · refine ⟨[], 0, ?_, by rw [calls, hsome]; rfl⟩
    rw [resolveChainId, hsome]
    exact Attempt.plays_pure _ _

/-- A submission to a shared node in which nothing fails. The nonce is read two turns before the
last; if the transaction that is made of it is accepted in the last turn, it is executed. -/
theorem plays_submit_shared {intent : Intent} {t : SignedTransaction} {e : Executed} (node : Node)
    (hchain : c.config.chainId = none ∨ c.config.chainId = some 51888)
    (hsign : (c.transaction intent
      ((node.afterTurns others (c.calls - 2)).ledger.get c.address).nonce Node.gasPrice).sign
        c.wallet.key 51888 = .ok t)
    (hexamine : (node.afterTurns others c.calls).examine t.raw = .ok e) :
    ∃ log, (c.submit intent).Plays (sharedGateway others) (node, 0) log
        (.ok e.transaction.hash) ((node.afterTurns others c.calls).record e, c.calls)
      ∧ ∃ x ∈ log, x.Sends t := by
  obtain ⟨log, turn, hresolve, hcalls⟩ :
      ∃ log turn, c.resolveChainId.Plays (sharedGateway others) (node, 0) log (.ok 51888)
        (node.afterTurns others turn, turn) ∧ turn + 3 = c.calls :=
    plays_resolveChainId_shared node hchain
  have hbefore : c.calls - 2 = turn + 1 := by omega
  rw [hbefore] at hsign
  rw [← hcalls] at hexamine ⊢
  -- three more calls: nonce, price, and the transaction itself
  obtain ⟨x, hnonce⟩ : ∃ x, (query (Ask.pendingNonce c.address)).Plays (sharedGateway others)
      (node.afterTurns others turn, turn) [x]
      (.ok ((node.afterTurns others (turn + 1)).ledger.get c.address).nonce)
      (node.afterTurns others (turn + 1), turn + 1) :=
    plays_query_shared "eth_getTransactionCount" [.str c.address.text, .str "pending"]
      Ask.decodeUInt64 node turn (by decide)
      (by rw [Node.answer_transactionCount]; exact Ask.decodeUInt64_quantity _ _)
  obtain ⟨y, hprice⟩ : ∃ y, (query Ask.gasPrice).Plays (sharedGateway others)
      (node.afterTurns others (turn + 1), turn + 1) [y] (.ok Node.gasPrice)
      (node.afterTurns others (turn + 2), turn + 2) :=
    plays_query_shared "eth_gasPrice" [] (fun method => Ask.decode method .quantity) node
      (turn + 1) (by decide) rfl
  have hhash := plays_query (sharedGateway others) "eth_sendRawTransaction"
    [.str (Hex.marked t.raw)] (fun method => Ask.decode method .hash)
    (node.afterTurns others (turn + 2), turn + 2)
  have hinvoke : (sharedGateway others).invoke "eth_sendRawTransaction" [.str (Hex.marked t.raw)]
      (node.afterTurns others (turn + 2), turn + 2) = (.ok (.str e.transaction.hash.text),
        (node.afterTurns others (turn + 3)).record e, turn + 3) := by
    simp only [sharedGateway, ← Node.afterTurns_succ, Node.invoke_sendRaw hexamine]
  have hread : Ask.decode "eth_sendRawTransaction" .hash (.str e.transaction.hash.text)
      = .ok e.transaction.hash :=
    mapError_eq_ok_iff.2 (Codec.decode_fixedBytes e.transaction.hash)
  have hresult : (Except.ok (.str e.transaction.hash.text) : Answer).bind
      (Ask.decode "eth_sendRawTransaction" .hash) = .ok e.transaction.hash := hread
  simp only [hinvoke, hresult] at hhash
  have hplays := plays_submit (sharedGateway others) hresolve hnonce hprice
    (plays_signAndSend_of_ok (sharedGateway others) hsign hhash)
  exact ⟨_, hplays, _, List.mem_append_right _ (List.mem_singleton_self _), sends_sendCall t _⟩

end Schemes

end Client

end NftExchange
