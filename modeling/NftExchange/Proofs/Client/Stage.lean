import NftExchange.Proofs.Client.Submission
import NftExchange.Proofs.Node.Shared

/-!
# The stages of a submission

Between two calls of a submission anything can happen, so what the client knows at that point has to
be said apart from the rest of the run. A `Stage` is what a submission has found out so far: which
call comes next, and what becomes of the stage with each answer to it. `Stage.session` is the part
of `submit` that is left in a stage, and `Stage.Follows` what a stage owes to the exchanges before
it.

* **`run_submit`** and **`session_of_call?`** — a submission goes through the stages;
* **`Follows.next`** — what is sent in the last stage is signed by the client and carries the nonce
  that was read in an earlier one;
* **`nonceIn?_of_next`** — a nonce in the log was in it before, or is the node's own.
-/

namespace NftExchange

namespace Exchange

/-- The nonce that was read in the first exchange that asked for one. -/
def nonceIn? (log : List Exchange) : Option UInt64 :=
  (log.find? fun x => x.call.method == "eth_getTransactionCount").bind fun x => x.number.toOption

/-- Other questions do not change the nonce that a log tells. -/
theorem nonceIn?_append_of_ne {log : List Exchange} {x : Exchange}
    (h : x.call.method ≠ "eth_getTransactionCount") : nonceIn? (log ++ [x]) = nonceIn? log := by
  have hlast : [x].find? (fun x => x.call.method == "eth_getTransactionCount") = none := by
    simpa using h
  unfold nonceIn?
  rw [List.find?_append, hlast, Option.or_none]

/-- Nobody asked for a nonce yet. -/
def Unasked (log : List Exchange) : Prop :=
  ∀ x ∈ log, x.call.method ≠ "eth_getTransactionCount"

/-- They leave it untold if it was. -/
theorem Unasked.append {log : List Exchange} {x : Exchange} (h : Unasked log)
    (hx : x.call.method ≠ "eth_getTransactionCount") : Unasked (log ++ [x]) := by
  intro y hy
  rcases List.mem_append.1 hy with hy | hy
  · exact h y hy
  · rw [List.mem_singleton.1 hy]
    exact hx

/-- A log in which nobody asked has no entry to be found. -/
theorem Unasked.find?_eq_none {log : List Exchange} (h : Unasked log) :
    log.find? (fun x => x.call.method == "eth_getTransactionCount") = none := by
  rw [List.find?_eq_none]
  intro x hx
  simpa using h x hx

/-- The first answer to the question tells the nonce. -/
theorem Unasked.nonceIn?_append {log : List Exchange} {x : Exchange} (h : Unasked log)
    (hx : x.call.method = "eth_getTransactionCount") :
    nonceIn? (log ++ [x]) = x.number.toOption := by
  have hlast : [x].find? (fun x => x.call.method == "eth_getTransactionCount") = some x := by
    simpa using hx
  unfold nonceIn?
  rw [List.find?_append, h.find?_eq_none, hlast, Option.none_or, Option.bind_some]

end Exchange

namespace Client

open Exchange (nonceIn? Unasked)

/-! ## A question and what comes after it

A session is a tree of calls. Here a question at its front is unfolded: one call, whose answer
decides between an error and everything that comes after. -/

/-- A question is one call with its answer read. -/
theorem run_query_ask {α : Type} (method : String) (params : List Json)
    (read : String → Json → Except GatewayError α) :
    (query (Ask.ask method params read)).run
      = .invoke method params fun answer =>
        .done ((answer.bind (read method)).mapError .ofGateway) := by
  show Session.invoke method params _ = _
  congr 1
  funext answer
  cases answer <;> rfl

/-- What comes after a question starts from the value that was read, or not at all. -/
theorem run_query_ask_bind {α β : Type} (method : String) (params : List Json)
    (read : String → Json → Except GatewayError α) (f : α → Attempt ClientError β) :
    (query (Ask.ask method params read) >>= f).run
      = .invoke method params fun answer => match answer.bind (read method) with
        | .ok a => (f a).run
        | .error e => .done (.error (.ofGateway e)) := by
  rw [Attempt.run_bind_eq, run_query_ask]
  show Session.invoke method params _ = _
  congr 1
  funext answer
  -- what the answer is read as decides whether the attempt goes on
  cases hread : answer.bind (read method) with
  | ok a =>
    simp only [hread]
    rfl
  | error e =>
    simp only [hread]
    rfl

/-! ## Stages

A submission has four calls to make, and what it does next depends on the answers so far only
through a few values. These are its stages, and the session of a submission is the one that the
stages describe. -/

variable [SignatureScheme] {c : Client} {intent : Intent}

/-- What a submission has found out. -/
inductive Stage where
  | asksChain
  | asksNonce (chain : UInt64)
  | asksPrice (chain nonce : UInt64)
  | sends (t : SignedTransaction)
  | ended (result : Except ClientError Hash)

namespace Stage

/-- Nothing is known but what the client is configured with. -/
def first (c : Client) : Stage :=
  match c.config.chainId with
  | none => asksChain
  | some chain => asksNonce chain

/-- A step failed. -/
def failed (e : GatewayError) : Stage := ended (.error (.ofGateway e))

/-- The call that comes next. -/
def call? (c : Client) : Stage → Option Call
  | asksChain => some chainCall
  | asksNonce _ => some c.nonceCall
  | asksPrice _ _ => some priceCall
  | sends t => some (sendCall t.raw)
  | ended _ => none

/-- The stage after an answer. -/
def next (c : Client) (intent : Intent) (answer : Answer) : Stage → Stage
  | asksChain =>
    match Exchange.number ⟨chainCall, answer⟩ with
    | .ok chain => asksNonce chain
    | .error e => failed e
  | asksNonce chain =>
    match Exchange.number ⟨c.nonceCall, answer⟩ with
    | .ok nonce => asksPrice chain nonce
    | .error e => failed e
  | asksPrice chain nonce =>
    match Exchange.quantity ⟨priceCall, answer⟩ with
    | .ok gasPrice =>
      match (c.transaction intent nonce gasPrice).sign c.wallet.key chain with
      | .ok t => sends t
      | .error e => failed e
    | .error e => failed e
  | sends t => ended ((Exchange.digest ⟨sendCall t.raw, answer⟩).mapError .ofGateway)
  | ended result => ended result

/-- What is left of the submission. -/
def session (c : Client) (intent : Intent) : Stage → Session (Except ClientError Hash)
  | asksChain => ExceptT.run do
    let chain ← query Ask.chainId
    let nonce ← query (Ask.pendingNonce c.address)
    let gasPrice ← query Ask.gasPrice
    c.signAndSend (c.transaction intent nonce gasPrice) chain
  | asksNonce chain => ExceptT.run do
    let nonce ← query (Ask.pendingNonce c.address)
    let gasPrice ← query Ask.gasPrice
    c.signAndSend (c.transaction intent nonce gasPrice) chain
  | asksPrice chain nonce => ExceptT.run do
    let gasPrice ← query Ask.gasPrice
    c.signAndSend (c.transaction intent nonce gasPrice) chain
  | sends t => (query (Ask.sendRaw t.raw)).run
  | ended result => .done result

/-- A submission is the session that begins at the first stage. -/
theorem run_submit (c : Client) (intent : Intent) :
    (c.submit intent).run = (first c).session c intent := by
  rw [submit_eq, first, resolveChainId]
  cases c.config.chainId with
  | none => rfl
  | some chain => rfl

/-- Signing comes before the last call, which is made only if there is a signature. -/
theorem run_signAndSend (c : Client) (tx : Transaction) (chain : UInt64) :
    (c.signAndSend tx chain).run = match tx.sign c.wallet.key chain with
      | .ok t => (query (Ask.sendRaw t.raw)).run
      | .error e => .done (.error (.ofGateway e)) := by
  unfold signAndSend
  cases tx.sign c.wallet.key chain with
  | ok t => rfl
  | error e => rfl

/-- A stage makes its call and goes on in the stage that the answer leads to. -/
theorem session_of_call? {stage : Stage} {call : Call} (h : stage.call? c = some call) :
    stage.session c intent = .invoke call.method call.params fun answer =>
      (stage.next c intent answer).session c intent := by
  -- each stage unfolds one question and goes on from its answer
  cases stage with
  | asksChain =>
    cases h
    refine (run_query_ask_bind "eth_chainId" [] Ask.decodeUInt64 _).trans ?_
    refine congrArg _ (funext fun answer => ?_)
    have hread : Exchange.number ⟨chainCall, answer⟩
        = answer.bind (Ask.decodeUInt64 "eth_chainId") := rfl
    rw [next, hread]
    cases answer.bind (Ask.decodeUInt64 "eth_chainId") <;> rfl
  | asksNonce chain =>
    cases h
    refine (run_query_ask_bind c.nonceCall.method c.nonceCall.params Ask.decodeUInt64 _).trans ?_
    refine congrArg _ (funext fun answer => ?_)
    have hread : Exchange.number ⟨c.nonceCall, answer⟩
        = answer.bind (Ask.decodeUInt64 c.nonceCall.method) := rfl
    rw [next, hread]
    cases answer.bind (Ask.decodeUInt64 c.nonceCall.method) <;> rfl
  | asksPrice chain nonce =>
    cases h
    refine (run_query_ask_bind "eth_gasPrice" [] (fun method => Ask.decode method .quantity)
      _).trans ?_
    refine congrArg _ (funext fun answer => ?_)
    have hread : Exchange.quantity ⟨priceCall, answer⟩
        = answer.bind (Ask.decode "eth_gasPrice" .quantity) := rfl
    rw [next, hread]
    cases answer.bind (Ask.decode "eth_gasPrice" .quantity) with
    | error e => rfl
    | ok gasPrice =>
      dsimp only
      rw [run_signAndSend]
      cases (c.transaction intent nonce gasPrice).sign c.wallet.key chain <;> rfl
  | sends t =>
    cases h
    exact run_query_ask "eth_sendRawTransaction" [.str (Hex.marked t.raw)] fun method =>
      Ask.decode method .hash
  | ended result => cases h

/-- Only one stage sends. -/
theorem eq_sends_of_call? {stage : Stage} {call : Call} (h : stage.call? c = some call)
    (hmethod : call.method = "eth_sendRawTransaction") :
    ∃ t, stage = sends t ∧ call = sendCall t.raw := by
  cases stage with
  | sends t => exact ⟨t, rfl, (Option.some.inj h).symm⟩
  | asksChain =>
    cases h
    exact absurd hmethod (show "eth_chainId" ≠ _ by decide)
  | asksNonce chain =>
    cases h
    exact absurd hmethod (show "eth_getTransactionCount" ≠ _ by decide)
  | asksPrice chain nonce =>
    cases h
    exact absurd hmethod (show "eth_gasPrice" ≠ _ by decide)
  | ended result => cases h

/-! ## What a stage knows

The invariant that is carried from call to call: the nonce that a stage is going to sign with is the
one that the node has told. Signing is the only step that does not copy it. -/

/-- What is in the log that belongs to a stage: before the nonce was asked for there is none in it,
and later there is the one that the transaction carries. -/
def Follows (c : Client) (intent : Intent) (log : List Exchange) : Stage → Prop
  | asksChain | asksNonce _ => Unasked log
  | asksPrice _ nonce => nonceIn? log = some nonce
  | sends t => nonceIn? log = some t.nonce ∧ t.sender = .ok c.address ∧ t.data = intent.data
  | ended _ => True

/-- Before the first call nothing has been told. -/
theorem follows_first (c : Client) (intent : Intent) : (first c).Follows c intent [] := by
  unfold first
  cases c.config.chainId <;> exact nofun

/-- Each answer leads to a stage that follows the longer log. -/
theorem Follows.next [LawfulSignatureScheme] {stage : Stage} {log : List Exchange} {call : Call}
    (h : stage.Follows c intent log) (hcall : stage.call? c = some call) (answer : Answer) :
    (stage.next c intent answer).Follows c intent (log ++ [⟨call, answer⟩]) := by
  cases stage with
  | asksChain =>
    cases hcall
    rw [Stage.next]
    split
    · -- the chain is not the nonce, which is still to be asked for
      exact Unasked.append h (show "eth_chainId" ≠ "eth_getTransactionCount" by decide)
    · trivial
  | asksNonce chain =>
    cases hcall
    rw [Stage.next]
    split
    · rename_i nonce hread
      show nonceIn? _ = some nonce
      rw [Unasked.nonceIn?_append h rfl, hread]
      rfl
    · trivial
  | asksPrice chain nonce =>
    cases hcall
    rw [Stage.next]
    split
    · rename_i gasPrice _
      have hlog : nonceIn? (log ++ [⟨priceCall, answer⟩]) = nonceIn? log :=
        Exchange.nonceIn?_append_of_ne (show "eth_gasPrice" ≠ _ by decide)
      -- what is signed has the nonce of the stage, and leads back to the client
      obtain ⟨sig, -, ⟨t, hsign, hsigned⟩ | ⟨-, hsign⟩⟩ :=
        (c.transaction intent nonce gasPrice).sign_cases c.wallet.key chain
      · rw [hsign]
        have hbody : t.toTransaction = c.transaction intent nonce gasPrice := hsigned.body
        refine ⟨?_, hsigned.sender, by rw [hbody]; rfl⟩
        rw [hlog, hbody]
        exact h
      · rw [hsign]
        trivial
    · trivial
  | sends t => trivial
  | ended result => cases hcall

/-- A node answers the question for the nonce with the account's own. -/
theorem number_nonceCall (c : Client) (node : Node) :
    Exchange.number ⟨c.nonceCall, (Node.invoke c.nonceCall.method c.nonceCall.params node).1⟩
      = .ok (node.ledger.get c.address).nonce := by
  have hmethod : c.nonceCall.method ≠ "eth_sendRawTransaction" :=
    show "eth_getTransactionCount" ≠ _ by decide
  have hanswer : (Node.invoke c.nonceCall.method c.nonceCall.params node).1
      = .ok (.str (Hex.quantity (node.ledger.get c.address).nonce.toNat)) := by
    rw [Node.invoke, if_neg hmethod]
    exact node.answer_transactionCount c.address
  rw [hanswer]
  exact Ask.decodeUInt64_quantity _ _

/-- At a node, the nonce that a stage has in its log is the one that the stage before it had, or the
node has just answered it. -/
theorem nonceIn?_of_next {stage : Stage} {log : List Exchange} {call : Call} {nonce : UInt64}
    {node : Node} (h : stage.Follows c intent log) (hcall : stage.call? c = some call)
    (hnext : (stage.next c intent (Node.invoke call.method call.params node).1).call? c ≠ none)
    (hread : nonceIn? (log ++ [⟨call, (Node.invoke call.method call.params node).1⟩])
      = some nonce) :
    call.method ≠ "eth_sendRawTransaction"
      ∧ (nonceIn? log = some nonce ∨ nonce = (node.ledger.get c.address).nonce) := by
  cases stage with
  | asksChain =>
    cases hcall
    rw [Exchange.nonceIn?_append_of_ne (show "eth_chainId" ≠ _ by decide)] at hread
    exact ⟨show "eth_chainId" ≠ _ by decide, .inl hread⟩
  | asksNonce chain =>
    cases hcall
    rw [Unasked.nonceIn?_append h rfl, number_nonceCall] at hread
    exact ⟨show "eth_getTransactionCount" ≠ _ by decide, .inr (Option.some.inj hread).symm⟩
  | asksPrice chain _ =>
    cases hcall
    rw [Exchange.nonceIn?_append_of_ne (show "eth_gasPrice" ≠ _ by decide)] at hread
    exact ⟨show "eth_gasPrice" ≠ _ by decide, .inl hread⟩
  -- after it has sent a submission is over
  | sends t => exact absurd rfl hnext
  | ended result => cases hcall

end Stage

end Client

end NftExchange
