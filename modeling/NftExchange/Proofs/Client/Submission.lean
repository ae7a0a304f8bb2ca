import NftExchange.Client.Basic
import NftExchange.Gateway.Script
import NftExchange.Proofs.Gateway.Exchange
import NftExchange.Proofs.Transaction.Signing

/-!
# How a submission goes

A client that submits a transaction asks for the chain, unless it is configured, for its nonce and
for the price of gas, signs, and sends. Each step needs the one before it, so the calls are the
first ones of a fixed plan and the log ends where something fails. `Submission` lists the ways in
which that can happen, whatever the gateway answers.

* **`submission_submit`** — every submission goes in one of these ways;
* **`submit_spec`** — the calls follow the plan, the first failure is returned, and what is sent is
  the transaction that was asked for, signed by the client.
-/

namespace NftExchange

/-- What stands in front of the last element is told by an element that only the end can be. -/
private theorem of_append_singleton {α : Type} {good before after : List α} {last x : α}
    (h : good ++ [last] = before ++ x :: after) (hx : x ∉ good) :
    before = good ∧ x = last ∧ after = [] := by
  rcases List.eq_nil_or_concat after with rfl | ⟨after, y, rfl⟩
  · obtain ⟨rfl, hlast⟩ := List.append_inj' h rfl
    exact ⟨rfl, (List.cons.inj hlast).1.symm, rfl⟩
  · rw [List.concat_eq_append, ← List.cons_append, ← List.append_assoc] at h
    obtain ⟨rfl, -⟩ := List.append_inj' h rfl
    exact absurd (by simp) hx

/-! ## Reading the answers

A log holds the calls with their answers as they came. Whether a call has failed is read off its
answer here, by the kind of answer that its method asks for, without running the client. -/

namespace Exchange

/-- The answer as a number of 64 bits; the error of the call is passed on. -/
def number (x : Exchange) : Except GatewayError UInt64 :=
  x.answer.bind (Ask.decodeUInt64 x.call.method)

/-- The answer as a quantity of 256 bits. -/
def quantity (x : Exchange) : Except GatewayError UInt256 :=
  x.answer.bind (Ask.decode x.call.method .quantity)

/-- The answer as a digest. -/
def digest (x : Exchange) : Except GatewayError Hash :=
  x.answer.bind (Ask.decode x.call.method .hash)

/-- The call failed, or its answer is not what its method returns. -/
inductive Fails : Exchange → GatewayError → Prop where
  | number {x : Exchange} {e : GatewayError}
      (hmethod : x.call.method = "eth_chainId" ∨ x.call.method = "eth_getTransactionCount")
      (hread : x.number = .error e) : Fails x e
  | quantity {x : Exchange} {e : GatewayError} (hmethod : x.call.method = "eth_gasPrice")
      (hread : x.quantity = .error e) : Fails x e
  | digest {x : Exchange} {e : GatewayError} (hmethod : x.call.method = "eth_sendRawTransaction")
      (hread : x.digest = .error e) : Fails x e

/-- A question for a number has failed exactly if its answer is none. -/
theorem fails_iff_number {x : Exchange} {e : GatewayError}
    (hmethod : x.call.method = "eth_chainId" ∨ x.call.method = "eth_getTransactionCount") :
    x.Fails e ↔ x.number = .error e := by
  refine ⟨fun h => ?_, .number hmethod⟩
  -- no other method is read as a number
  cases h with
  | number _ hread => exact hread
  | quantity hother | digest hother =>
    rw [hother] at hmethod
    exact absurd hmethod (by decide)

/-- A question for a price has failed exactly if its answer is no quantity. -/
theorem fails_iff_quantity {x : Exchange} {e : GatewayError}
    (hmethod : x.call.method = "eth_gasPrice") : x.Fails e ↔ x.quantity = .error e := by
  refine ⟨fun h => ?_, .quantity hmethod⟩
  cases h with
  | quantity _ hread => exact hread
  | number hother | digest hother =>
    rw [hmethod] at hother
    exact absurd hother (by decide)

/-- A transaction that was sent has failed exactly if its answer is no digest. -/
theorem fails_iff_digest {x : Exchange} {e : GatewayError}
    (hmethod : x.call.method = "eth_sendRawTransaction") :
    x.Fails e ↔ x.digest = .error e := by
  refine ⟨fun h => ?_, .digest hmethod⟩
  cases h with
  | digest _ hread => exact hread
  | number hother | quantity hother =>
    rw [hmethod] at hother
    exact absurd hother (by decide)

/-- A call fails in one way only. -/
theorem Fails.unique {x : Exchange} {e e' : GatewayError} (h : x.Fails e) (h' : x.Fails e') :
    e = e' := by
  cases h with
  | number hmethod hread =>
    exact Except.error.inj (hread.symm.trans ((fails_iff_number hmethod).1 h'))
  | quantity hmethod hread =>
    exact Except.error.inj (hread.symm.trans ((fails_iff_quantity hmethod).1 h'))
  | digest hmethod hread =>
    exact Except.error.inj (hread.symm.trans ((fails_iff_digest hmethod).1 h'))

/-- The exchange hands over a signed transaction: its one parameter is the `0x` text of bytes that
are read as the transaction, if they are few enough for 64 bits to count them. -/
structure Sends (x : Exchange) (t : SignedTransaction) : Prop where
  method : x.call.method = "eth_sendRawTransaction"
  params : x.call.params = [.str ("0x" ++ Hex.encode t.raw)]
  bytes : Hex.parseBytes ("0x" ++ Hex.encode t.raw) = .ok t.raw
  decodes : t.raw.length < UInt64.size → SignedTransaction.decode t.raw = .ok t

/-- Nothing in the log failed, and nothing was sent. -/
def Answered (log : List Exchange) : Prop :=
  ∀ x ∈ log, x.call.method ≠ "eth_sendRawTransaction" ∧ ∀ e, ¬ x.Fails e

theorem Answered.append {log log' : List Exchange} (h : Answered log) (h' : Answered log') :
    Answered (log ++ log') := by
  intro x hx
  rcases List.mem_append.1 hx with hx | hx
  · exact h x hx
  · exact h' x hx

/-- A number that was read is an answer. -/
theorem answered_of_number {x : Exchange} {n : UInt64}
    (hmethod : x.call.method = "eth_chainId" ∨ x.call.method = "eth_getTransactionCount")
    (hread : x.number = .ok n) : Answered [x] := by
  intro y hy
  rw [List.mem_singleton.1 hy]
  constructor
  · intro hsend
    rw [hsend] at hmethod
    exact absurd hmethod (by decide)
  · intro e he
    rw [fails_iff_number hmethod, hread] at he
    cases he

/-- And so is a price. -/
theorem answered_of_quantity {x : Exchange} {a : UInt256} (hmethod : x.call.method = "eth_gasPrice")
    (hread : x.quantity = .ok a) : Answered [x] := by
  intro y hy
  rw [List.mem_singleton.1 hy]
  constructor
  · rw [hmethod]
    decide
  · intro e he
    rw [fails_iff_quantity hmethod, hread] at he
    cases he

end Exchange

namespace ClientError

/-- How the error of a call is sorted. Trouble with the own key is told apart from trouble with a
signature that somebody else made. -/
inductive Sorted : GatewayError → ClientError → Prop where
  | notFound (what : String) : Sorted (.notFound what) (.notFound what)
  | rejected (method : String) (code : Int) (message : String) :
      Sorted (.rejected method code message) (.remote (.rejected method code message))
  | transport (method reason : String) :
      Sorted (.transport method reason) (.remote (.transport method reason))
  | undecodable (method reason : String) :
      Sorted (.undecodable method reason) (.remote (.undecodable method reason))
  | key {cause : CryptoError} (hown : (∃ n, cause = .keyLength n) ∨ (∃ r, cause = .keyEncoding r)
      ∨ cause = .secretKey ∨ ∃ r, cause = .signing r) : Sorted (.signing cause) (.key cause)
  | signature {cause : CryptoError} (hother : (∃ r, cause = .signatureFormat r)
      ∨ (∃ b, cause = .recoveryByte b) ∨ cause = .recovery) :
      Sorted (.signing cause) (.encoding cause.message)

/-- A client sorts every error of a gateway in the one right way. -/
theorem sorted_ofGateway (e : GatewayError) : Sorted e (.ofGateway e) := by
  cases e with
  | rejected method code message => exact .rejected method code message
  | transport method reason => exact .transport method reason
  | notFound what => exact .notFound what
  | undecodable method reason => exact .undecodable method reason
  | signing cause =>
    cases cause with
    | keyLength | keyEncoding | secretKey | signing => exact .key (by simp)
    | signatureFormat | recoveryByte | recovery => exact .signature (by simp)

end ClientError

namespace Client

open Attempt (Plays)

/-! ## Questions of a client

What a client asks before it signs, and what comes of each question for any gateway: a value, or an
error that ends the submission. -/

section Questions

variable {σ : Type} (g : Gateway σ)

def chainCall : Call := ⟨"eth_chainId", []⟩

def priceCall : Call := ⟨"eth_gasPrice", []⟩

def sendCall (raw : Bytes) : Call := ⟨"eth_sendRawTransaction", [.str ("0x" ++ Hex.encode raw)]⟩

/-- The last call sends the transaction that it was made for. -/
theorem sends_sendCall (t : SignedTransaction) (answer : Answer) :
    Exchange.Sends ⟨sendCall t.raw, answer⟩ t where
  method := rfl
  params := rfl
  bytes := Hex.parseBytes_marked t.raw
  decodes hraw := SignedTransaction.decode_signedItems
    (Nat.lt_of_le_of_lt t.length_signedItems_le hraw)

/-- The exchanges in which the chain was found; only a client without a configured chain asks. -/
inductive Resolved (c : Client) : List Exchange → UInt64 → Prop where
  | configured {chain : UInt64} (hconfig : c.config.chainId = some chain) : Resolved c [] chain
  | asked {chain : UInt64} {answer : Answer} (hconfig : c.config.chainId = none)
      (hread : Exchange.number ⟨chainCall, answer⟩ = .ok chain) :
      Resolved c [⟨chainCall, answer⟩] chain

theorem Resolved.answered {c : Client} {log : List Exchange} {chain : UInt64}
    (h : c.Resolved log chain) : Exchange.Answered log := by
  cases h with
  | configured => exact nofun
  | asked _ hread => exact Exchange.answered_of_number (.inl rfl) hread

/-- Finding the chain takes one call if it is not configured, and none otherwise. -/
theorem Resolved.calls {c : Client} {log : List Exchange} {chain : UInt64}
    (h : c.Resolved log chain) :
    log.map Exchange.call = if c.config.chainId = none then [chainCall] else [] := by
  cases h with
  | configured hconfig => rw [hconfig]; rfl
  | asked hconfig => rw [if_pos hconfig]; rfl

/-- A question of a client is one exchange; its error is sorted. -/
theorem plays_query {α : Type} (method : String) (params : List Json)
    (read : String → Json → Except GatewayError α) (start : σ) :
    (query (Ask.ask method params read)).Plays g start
      [⟨⟨method, params⟩, (g.invoke method params start).1⟩]
      (((g.invoke method params start).1.bind (read method)).mapError .ofGateway)
      (g.invoke method params start).2 :=
  (Ask.plays_ask g method params read start).mapError _

/-- A client finds the chain, or its question for it fails. -/
theorem plays_resolveChainId (c : Client) (start : σ) :
    (∃ log chain stop, c.resolveChainId.Plays g start log (.ok chain) stop
      ∧ c.Resolved log chain)
    ∨ ∃ answer e stop, c.config.chainId = none
      ∧ Exchange.number ⟨chainCall, answer⟩ = .error e
      ∧ c.resolveChainId.Plays g start [⟨chainCall, answer⟩] (.error (.ofGateway e)) stop := by
  rw [resolveChainId]
  cases hconfig : c.config.chainId with
  -- a configured chain is not asked for
  | some chain => exact .inl ⟨[], chain, start, Attempt.plays_pure _ _, .configured hconfig⟩
  | none =>
    have hplays := plays_query g "eth_chainId" [] Ask.decodeUInt64 start
    cases hread : (g.invoke "eth_chainId" [] start).1.bind (Ask.decodeUInt64 "eth_chainId") with
    | ok chain =>
      rw [hread] at hplays
      exact .inl ⟨_, chain, _, hplays, .asked hconfig hread⟩
    | error e =>
      rw [hread] at hplays
      exact .inr ⟨_, e, _, rfl, hread, hplays⟩

end Questions

variable [SignatureScheme] {σ : Type} {c : Client} {intent : Intent} (g : Gateway σ)

/-! ## The plan

The calls that a submission is to make, in their order. Whatever the node answers, the calls that
are made are the first few of these. -/

/-- The call for the next nonce of the client, transactions that wait included. -/
def nonceCall (c : Client) : Call :=
  ⟨"eth_getTransactionCount", [.str c.address.text, .str "pending"]⟩

/-- All calls of a submission, in order. -/
def plan (c : Client) (raw : Bytes) : List Call :=
  (if c.config.chainId = none then [chainCall] else [])
    ++ [c.nonceCall, priceCall, sendCall raw]

/-- The transaction of an intent. -/
def transaction (c : Client) (intent : Intent) (nonce : UInt64) (gasPrice : UInt256) :
    Transaction where
  nonce := nonce
  gasPrice := gasPrice
  gasLimit := c.config.gasLimit
  recipient := intent.recipient
  value := intent.value
  data := intent.data

/-- Signs a transaction and sends it. -/
def signAndSend (c : Client) (tx : Transaction) (chain : UInt64) : Attempt ClientError Hash := do
  let signed ← Attempt.ofExcept ((tx.sign c.wallet.key chain).mapError .ofGateway)
  query (Ask.sendRaw signed.raw)

/-- A submission asks for the chain, the nonce and the price, and then signs and sends. -/
theorem submit_eq (c : Client) (intent : Intent) : c.submit intent = (do
    let chain ← c.resolveChainId
    let nonce ← query (Ask.pendingNonce c.address)
    let gasPrice ← query Ask.gasPrice
    c.signAndSend (c.transaction intent nonce gasPrice) chain) := rfl

/-! ## The ways of a submission

There are five of them: one for each question that can fail, one for a signature that cannot be
made, and one on which the transaction is sent. Each says what the log is then, and what the result.
-/

/-- The exchanges after which the transaction was put together: chain, nonce and price of gas are
those that were answered. -/
inductive Prepared (c : Client) (intent : Intent) :
    List Exchange → UInt64 → Transaction → Prop where
  | mk {log : List Exchange} {chain nonce : UInt64} {gasPrice : UInt256} {first second : Answer}
      (hchain : c.Resolved log chain)
      (hnonce : Exchange.number ⟨c.nonceCall, first⟩ = .ok nonce)
      (hprice : Exchange.quantity ⟨priceCall, second⟩ = .ok gasPrice) :
      Prepared c intent (log ++ [⟨c.nonceCall, first⟩, ⟨priceCall, second⟩]) chain
        (c.transaction intent nonce gasPrice)

/-- The ways in which a submission can go: its exchanges and its result. -/
inductive Submission (c : Client) (intent : Intent) :
    List Exchange → Except ClientError Hash → Prop where
  | noChain {answer : Answer} {e : GatewayError} (hconfig : c.config.chainId = none)
      (hread : Exchange.number ⟨chainCall, answer⟩ = .error e) :
      Submission c intent [⟨chainCall, answer⟩] (.error (.ofGateway e))
  | noNonce {log : List Exchange} {chain : UInt64} {answer : Answer} {e : GatewayError}
      (hchain : c.Resolved log chain)
      (hread : Exchange.number ⟨c.nonceCall, answer⟩ = .error e) :
      Submission c intent (log ++ [⟨c.nonceCall, answer⟩]) (.error (.ofGateway e))
  | noPrice {log : List Exchange} {chain nonce : UInt64} {first second : Answer}
      {e : GatewayError} (hchain : c.Resolved log chain)
      (hnonce : Exchange.number ⟨c.nonceCall, first⟩ = .ok nonce)
      (hread : Exchange.quantity ⟨priceCall, second⟩ = .error e) :
      Submission c intent (log ++ [⟨c.nonceCall, first⟩, ⟨priceCall, second⟩])
        (.error (.ofGateway e))
  | unsigned {log : List Exchange} {chain : UInt64} {tx : Transaction} {e : GatewayError}
      (hprepared : c.Prepared intent log chain tx)
      (hsign : tx.sign c.wallet.key chain = .error e) :
      Submission c intent log (.error (.ofGateway e))
  | sent {log : List Exchange} {chain : UInt64} {tx : Transaction} {t : SignedTransaction}
      {answer : Answer} (hprepared : c.Prepared intent log chain tx)
      (hsign : tx.sign c.wallet.key chain = .ok t) :
      Submission c intent (log ++ [⟨sendCall t.raw, answer⟩])
        ((Exchange.digest ⟨sendCall t.raw, answer⟩).mapError .ofGateway)

/-! ## Running a submission

A run with any gateway goes one of these ways. The calls are taken in their order, and after each
the two cases are the next call and the end. -/

/-- After chain, nonce and price the client signs and sends. -/
theorem plays_submit {start first second third stop : σ} {log rest : List Exchange}
    {x y : Exchange} {chain nonce : UInt64} {gasPrice : UInt256} {result : Except ClientError Hash}
    (hchain : c.resolveChainId.Plays g start log (.ok chain) first)
    (hnonce : (query (Ask.pendingNonce c.address)).Plays g first [x] (.ok nonce) second)
    (hprice : (query Ask.gasPrice).Plays g second [y] (.ok gasPrice) third)
    (hsend : (c.signAndSend (c.transaction intent nonce gasPrice) chain).Plays g third rest
      result stop) :
    (c.submit intent).Plays g start (log ++ [x, y] ++ rest) result stop := by
  rw [submit_eq, List.append_assoc]
  exact hchain.bind_ok (hnonce.bind_ok (hprice.bind_ok hsend))

/-- What is signed is sent. -/
theorem plays_signAndSend_of_ok {tx : Transaction} {chain : UInt64} {t : SignedTransaction}
    {start stop : σ} {log : List Exchange} {result : Except ClientError Hash}
    (hsign : tx.sign c.wallet.key chain = .ok t)
    (hsend : (query (Ask.sendRaw t.raw)).Plays g start log result stop) :
    (c.signAndSend tx chain).Plays g start log result stop := by
  have hsigned : Attempt.Plays g (Attempt.ofExcept ((tx.sign c.wallet.key chain).mapError
      ClientError.ofGateway)) start [] (.ok t) start := by
    rw [hsign]
    exact Attempt.plays_ofExcept _ _
  exact hsigned.bind_ok hsend

/-- Signing and sending is one exchange, or none if the transaction is not signed. -/
theorem plays_signAndSend (c : Client) (tx : Transaction) (chain : UInt64) (start : σ) :
    (∃ e, tx.sign c.wallet.key chain = .error e
      ∧ (c.signAndSend tx chain).Plays g start [] (.error (.ofGateway e)) start)
    ∨ ∃ t answer stop, tx.sign c.wallet.key chain = .ok t
      ∧ (c.signAndSend tx chain).Plays g start [⟨sendCall t.raw, answer⟩]
        ((Exchange.digest ⟨sendCall t.raw, answer⟩).mapError .ofGateway) stop := by
  cases hsign : tx.sign c.wallet.key chain with
  | error e =>
    rw [signAndSend, hsign]
    exact .inl ⟨e, rfl, (Attempt.plays_ofExcept _ _).bind_error⟩
  | ok t =>
    have hsend := plays_query g "eth_sendRawTransaction" [.str (Hex.marked t.raw)]
      (fun method => Ask.decode method .hash) start
    exact .inr ⟨t, _, _, rfl, plays_signAndSend_of_ok g hsign hsend⟩

/-- A submission runs in one of the listed ways. -/
theorem plays_submission (c : Client) (intent : Intent) (start : σ) : ∃ log result stop,
    (c.submit intent).Plays g start log result stop ∧ c.Submission intent log result := by
  -- each step has a result, and then the next one is looked at, or an error, which ends it all
  rcases plays_resolveChainId g c start with ⟨log, chain, first, hchain, hresolved⟩ |
    ⟨answer, e, stop, hconfig, hread, hchain⟩
  · have hnonce := plays_query g c.nonceCall.method c.nonceCall.params Ask.decodeUInt64 first
    generalize (g.invoke c.nonceCall.method c.nonceCall.params first).2 = second at hnonce
    cases hnumber : (g.invoke c.nonceCall.method c.nonceCall.params first).1.bind
        (Ask.decodeUInt64 c.nonceCall.method) with
    | error e =>
      rw [hnumber] at hnonce
      rw [submit_eq]
      exact ⟨_, _, _, hchain.bind_ok hnonce.bind_error, .noNonce hresolved hnumber⟩
    | ok nonce =>
      rw [hnumber] at hnonce
      have hprice := plays_query g "eth_gasPrice" [] (fun method => Ask.decode method .quantity)
        second
      generalize (g.invoke "eth_gasPrice" [] second).2 = third at hprice
      cases hquantity : (g.invoke "eth_gasPrice" [] second).1.bind
          (Ask.decode "eth_gasPrice" .quantity) with
      | error e =>
        rw [hquantity] at hprice
        rw [submit_eq]
        exact ⟨_, _, _, hchain.bind_ok (hnonce.bind_ok hprice.bind_error),
          .noPrice hresolved hnumber hquantity⟩
      | ok gasPrice =>
        rw [hquantity] at hprice
        have hprepared : c.Prepared intent _ _ _ := .mk hresolved hnumber hquantity
        rcases plays_signAndSend g c (c.transaction intent nonce gasPrice) chain third with
          ⟨e, hsign, hsend⟩ | ⟨t, answer, stop, hsign, hsend⟩
        · refine ⟨_, _, _, plays_submit g hchain hnonce hprice hsend, ?_⟩
          rw [List.append_nil]
          exact .unsigned hprepared hsign
        · exact ⟨_, _, _, plays_submit g hchain hnonce hprice hsend, .sent hprepared hsign⟩
  · rw [submit_eq]
    exact ⟨_, _, _, hchain.bind_error, .noChain hconfig hread⟩

/-- What a submission does and what comes of it, on one of the five ways. -/
theorem submission_submit (c : Client) (intent : Intent) (start : σ) :
    c.Submission intent ((c.submit intent).exchanges g start)
      ((c.submit intent).outcome g start) := by
  obtain ⟨log, result, stop, hplays, hway⟩ := plays_submission g c intent start
  rw [hplays.exchanges_eq, hplays.outcome_eq]
  exact hway

/-! ## What the log tells

From a way of the submission to its log: which calls it has, which of them have failed and what was
sent. -/

open Exchange (Answered answered_of_number answered_of_quantity)

/-- Up to the signature no call has failed. -/
theorem Prepared.answered {log : List Exchange} {chain : UInt64} {tx : Transaction}
    (h : c.Prepared intent log chain tx) : Answered log := by
  cases h with
  | mk hchain hnonce hprice =>
    exact hchain.answered.append
      ((answered_of_number (.inr rfl) hnonce).append (answered_of_quantity rfl hprice))

/-- And the calls so far, with the one that sends, are the plan. -/
theorem Prepared.calls {log : List Exchange} {chain : UInt64} {tx : Transaction}
    (h : c.Prepared intent log chain tx) (raw : Bytes) :
    log.map Exchange.call ++ [sendCall raw] = c.plan raw := by
  cases h with
  | mk hchain =>
    rw [List.map_append, hchain.calls, List.append_assoc, plan]
    rfl

theorem Submission.log_ne_nil {log : List Exchange} {result : Except ClientError Hash}
    (h : c.Submission intent log result) : log ≠ [] := by
  cases h with
  | noChain => exact List.cons_ne_nil _ _
  | unsigned hprepared => cases hprepared; simp
  | noNonce | noPrice | sent => simp

/-- What is sent is the intent's transaction, with some nonce and some price. -/
theorem Submission.sends_of_mem {log : List Exchange} {result : Except ClientError Hash}
    {x : Exchange} (h : c.Submission intent log result) (hx : x ∈ log)
    (hsend : x.call.method = "eth_sendRawTransaction") :
    ∃ t nonce gasPrice, x.Sends t ∧ t.toTransaction = c.transaction intent nonce gasPrice := by
  -- nothing was sent before the nonce was answered
  have hasked {good : List Exchange} {answer : Answer} (hgood : Answered good) :
      x ∉ good ++ [⟨c.nonceCall, answer⟩] := by
    intro hmem
    rcases List.mem_append.1 hmem with hmem | hmem
    · exact (hgood x hmem).1 hsend
    · rw [List.mem_singleton.1 hmem] at hsend
      exact absurd hsend (show "eth_getTransactionCount" ≠ _ by decide)
  -- only on the last of the ways there is such a call
  cases h with
  | noChain =>
    rw [List.mem_singleton.1 hx] at hsend
    exact absurd hsend (show "eth_chainId" ≠ _ by decide)
  | noNonce hchain => exact absurd hx (hasked hchain.answered)
  | noPrice hchain =>
    rw [List.append_cons] at hx
    rcases List.mem_append.1 hx with hx | hx
    · exact absurd hx (hasked hchain.answered)
    · rw [List.mem_singleton.1 hx] at hsend
      exact absurd hsend (show "eth_gasPrice" ≠ _ by decide)
  | unsigned hprepared => exact absurd hsend (hprepared.answered x hx).1
  | @sent log chain tx t answer hprepared hsign =>
    rcases List.mem_append.1 hx with hx | hx
    · exact absurd hsend (hprepared.answered x hx).1
    · rw [List.mem_singleton.1 hx]
      have hbody := Transaction.toTransaction_of_sign hsign
      cases hprepared with
      | mk => exact ⟨t, _, _, sends_sendCall t answer, hbody⟩

/-! ## The result and what is sent

What a caller can rely on, in four parts: the calls are the first of the plan; a call that fails is
the last one, and its error the result; where nothing fails and nothing is sent, the signature could
not be made; and what is sent comes last and is signed as it should be. -/

/-- What a submission makes known: its exchanges and its result. -/
structure Submits (c : Client) (intent : Intent) (log : List Exchange)
    (result : Except ClientError Hash) : Prop where
  /-- The calls are the first ones of the plan. -/
  follows : ∃ raw, log.map Exchange.call <+: c.plan raw
  /-- An exchange that fails is the last one, and its error is returned, sorted. -/
  fails : ∀ before x after e, log = before ++ x :: after → x.Fails e →
    after = [] ∧ ∃ sorted, result = .error sorted ∧ ClientError.Sorted e sorted
  /-- If nothing fails and nothing is sent, then all else was asked for, and the number of the
  signature does not fit in 64 bits. -/
  unsigned : Answered log → ∃ chain tx sig, c.Prepared intent log chain tx
    ∧ c.wallet.key.sign (tx.signingHash chain) = .ok sig
    ∧ UInt64.size ≤ 2 * chain.toNat + 35 + sig.recoveryId
    ∧ result = .error (.key (.signing
      ("chain id " ++ toString chain.toNat ++ " does not fit an EIP-155 v value")))
  /-- What is sent comes last. It is the transaction of the intent with the chain, the nonce and
  the price that were answered, signed by the client; the digest that is answered is returned. -/
  sends : ∀ before x after, log = before ++ x :: after →
    x.call.method = "eth_sendRawTransaction" →
    after = [] ∧ ∃ chain tx sig t, c.Prepared intent before chain tx
      ∧ c.wallet.key.sign (tx.signingHash chain) = .ok sig
      ∧ t.IsSigned tx c.wallet.key chain sig.recoveryId
      ∧ x.Sends t ∧ ∀ hash, x.digest = .ok hash → result = .ok hash

/-- A submission that ends with a failure before anything is sent. -/
private theorem submits_of_fails {good : List Exchange} {last : Exchange} {e : GatewayError}
    (hplan : ∃ raw, (good ++ [last]).map Exchange.call <+: c.plan raw) (hgood : Answered good)
    (hmethod : last.call.method ≠ "eth_sendRawTransaction") (hfails : last.Fails e) :
    c.Submits intent (good ++ [last]) (.error (.ofGateway e)) where
  follows := hplan
  fails before x after e' hlog he := by
    obtain ⟨-, rfl, rfl⟩ := of_append_singleton hlog fun hx => (hgood x hx).2 e' he
    rw [he.unique hfails]
    exact ⟨rfl, _, rfl, ClientError.sorted_ofGateway e⟩
  unsigned hall := absurd hfails ((hall last (by simp)).2 e)
  sends before x after hlog hsend := by
    obtain ⟨-, rfl, -⟩ := of_append_singleton hlog fun hx => (hgood x hx).1 hsend
    exact absurd hsend hmethod

section Lawful

variable [LawfulSignatureScheme]

/-- A signature that cannot be made ends the submission before anything is sent. -/
private theorem submits_of_unsigned {log : List Exchange} {chain : UInt64} {tx : Transaction}
    {e : GatewayError} (hprepared : c.Prepared intent log chain tx)
    (hsign : tx.sign c.wallet.key chain = .error e) :
    c.Submits intent log (.error (.ofGateway e)) := by
  obtain ⟨sig, hsig, ⟨t, ht, -⟩ | ⟨hbig, herror⟩⟩ := tx.sign_cases c.wallet.key chain
  · rw [hsign] at ht
    cases ht
  · obtain rfl := Except.error.inj (hsign.symm.trans herror)
    -- nothing is sent: every call so far has been answered, and none of them was a send
    constructor
    · exact ⟨[], _, hprepared.calls []⟩
    · intro before x after e hlog he
      exact absurd he ((hprepared.answered x (by simp [hlog])).2 e)
    · intro _
      exact ⟨chain, tx, sig, hprepared, hsig, hbig, rfl⟩
    · intro before x after hlog hsend
      exact absurd hsend (hprepared.answered x (by simp [hlog])).1

/-- A transaction that was signed is sent as it is, and the answer is the result. -/
private theorem submits_of_sent {log : List Exchange} {chain : UInt64} {tx : Transaction}
    {t : SignedTransaction} (answer : Answer) (hprepared : c.Prepared intent log chain tx)
    (hsign : tx.sign c.wallet.key chain = .ok t) :
    c.Submits intent (log ++ [⟨sendCall t.raw, answer⟩])
      ((Exchange.digest ⟨sendCall t.raw, answer⟩).mapError .ofGateway) := by
  obtain ⟨sig, hsig, ⟨t', ht, hsigned⟩ | ⟨-, herror⟩⟩ := tx.sign_cases c.wallet.key chain
  · obtain rfl := Except.ok.inj (hsign.symm.trans ht)
    have hlast := sends_sendCall t answer
    -- only the last call can have failed, and only the last call sends
    constructor
    · refine ⟨t.raw, [], ?_⟩
      rw [List.map_append, List.append_nil]
      exact hprepared.calls t.raw
    · intro before x after e hlog he
      obtain ⟨-, rfl, rfl⟩ := of_append_singleton hlog fun hx => (hprepared.answered x hx).2 e he
      rw [(Exchange.fails_iff_digest hlast.method).1 he]
      exact ⟨rfl, _, rfl, ClientError.sorted_ofGateway e⟩
    · intro hall
      exact absurd hlast.method (hall _ (by simp)).1
    · intro before x after hlog hsend
      obtain ⟨rfl, rfl, rfl⟩ :=
        of_append_singleton hlog fun hx => (hprepared.answered x hx).1 hsend
      refine ⟨rfl, chain, tx, sig, t, hprepared, hsig, hsigned, hlast, fun hash hdigest => ?_⟩
      rw [hdigest]
      rfl
  · rw [hsign] at herror
    cases herror

/-- Every way of a submission has its exchanges in order and its result explained. -/
theorem Submission.submits {log : List Exchange} {result : Except ClientError Hash}
    (h : c.Submission intent log result) : c.Submits intent log result := by
  -- a failure splits the log into what was answered and the call that failed
  cases h with
  | @noChain answer e hconfig hread =>
    have hmethod : chainCall.method ≠ "eth_sendRawTransaction" := by decide
    show c.Submits intent ([] ++ [⟨chainCall, answer⟩]) _
    refine submits_of_fails ⟨[], ?_⟩ nofun hmethod (.number (.inl rfl) hread)
    rw [plan, if_pos hconfig]
    exact List.prefix_append _ _
  | @noNonce log chain answer e hchain hread =>
    have hmethod : c.nonceCall.method ≠ "eth_sendRawTransaction" :=
      show "eth_getTransactionCount" ≠ _ by decide
    refine submits_of_fails ⟨[], ?_⟩ hchain.answered hmethod (.number (.inr rfl) hread)
    rw [List.map_append, hchain.calls, plan]
    exact (List.prefix_append_right_inj _).2 ⟨[_, _], rfl⟩
  | @noPrice log chain nonce first second e hchain hnonce hread =>
    have hmethod : priceCall.method ≠ "eth_sendRawTransaction" := by decide
    have hgood := hchain.answered.append (answered_of_number (.inr rfl) hnonce)
    rw [List.append_cons]
    refine submits_of_fails ⟨[], ?_⟩ hgood hmethod (.quantity rfl hread)
    rw [List.map_append, List.map_append, hchain.calls, plan, List.append_assoc]
    exact (List.prefix_append_right_inj _).2 ⟨[_], rfl⟩
  | unsigned hprepared hsign => exact submits_of_unsigned hprepared hsign
  | sent hprepared hsign => exact submits_of_sent _ hprepared hsign

/-- Whatever a gateway answers, the calls of a submission, which are those that a recording gateway
keeps, follow the plan up to the first failure, which is returned. A transaction is sent at most
once, after everything else: it is that of the intent, with the chain, the nonce and the price that
were answered, and its signer is the client. -/
theorem submit_spec (c : Client) (intent : Intent) (start : σ) :
    ((c.submit intent).exchanges g start).map Exchange.call
        = ((c.submit intent).final g.recorded (start, [])).2.reverse
      ∧ c.Submits intent ((c.submit intent).exchanges g start)
        ((c.submit intent).outcome g start) := by
  refine ⟨?_, (submission_submit g c intent start).submits⟩
  rw [Attempt.final, Session.run_recorded, List.append_nil, List.reverse_reverse]
  rfl

end Lawful

end Client

/-! ## An example

A node that answers like a real one, and the well-known transaction with a chain in its signature;
and a node that refuses everything. -/

/-- The intent of the transaction that EIP-155 signs as an example. -/
def Intent.eip155Example : Intent :=
  .plain Transaction.eip155Example.recipient Transaction.eip155Example.value []

/-- The client of the example, for the chain 1. -/
def Client.eip155Example : Client where
  wallet := ⟨Guarded.key⟩
  config := { endpoint := "http://127.0.0.1:8545", chainId := some 1, gasLimit := 21000 }

/-- What the node of the example answers. -/
def Script.eip155Example : Script :=
  [("eth_getTransactionCount", [.ok (.str "0x9")]), ("eth_gasPrice", [.ok (.str "0x4a817c800")]),
    ("eth_sendRawTransaction", [.ok (.str
      "0x33469b22e9f636356c4160a87eb19df52b7412e8eac32a4a55ffe88ea8350788")])]

namespace Client

/-- A question to the script of the example, which gives the same answers again and again. -/
theorem plays_query_eip155Example {α : Type} (call : Call)
    (read : String → Json → Except GatewayError α) {answer : Answer} {a : α}
    (hnext : Script.next call.method .eip155Example = answer)
    (hread : answer.bind (read call.method) = .ok a) :
    (query (Ask.ask call.method call.params read)).Plays Script.gateway .eip155Example
      [⟨call, answer⟩] (.ok a) .eip155Example := by
  have hkept : Script.advance call.method .eip155Example = .eip155Example := by
    simp [Script.advance, Script.eip155Example]
  have hplays := plays_query Script.gateway call.method call.params read .eip155Example
  have hinvoke : Script.gateway.invoke call.method call.params .eip155Example
      = (answer, .eip155Example) := Prod.ext hnext hkept
  rw [hinvoke, hread] at hplays
  exact hplays

/-- What the client of the example submits to the script is sent, if it can be signed. -/
theorem plays_submit_eip155Example [SignatureScheme] {intent : Intent} {t : SignedTransaction}
    (hsign : (Client.eip155Example.transaction intent 9 20000000000).sign Guarded.key 1 = .ok t) :
    (Client.eip155Example.submit intent).Plays Script.gateway .eip155Example
      [⟨Client.eip155Example.nonceCall, .ok (.str "0x9")⟩,
        ⟨priceCall, .ok (.str "0x4a817c800")⟩,
        ⟨sendCall t.raw,
          .ok (.str "0x33469b22e9f636356c4160a87eb19df52b7412e8eac32a4a55ffe88ea8350788")⟩]
      (.ok (.ofNat 32 0x33469b22e9f636356c4160a87eb19df52b7412e8eac32a4a55ffe88ea8350788))
      .eip155Example := by
  -- the chain is configured, so the first call asks for the nonce
  have hchain : Client.eip155Example.resolveChainId.Plays Script.gateway .eip155Example []
      (.ok 1) .eip155Example := ⟨rfl, rfl⟩
  have hnonce := plays_query_eip155Example Client.eip155Example.nonceCall Ask.decodeUInt64
    (a := 9) rfl rfl
  have hprice := plays_query_eip155Example priceCall (fun method => Ask.decode method .quantity)
    (a := 20000000000) rfl rfl
  have hhash := plays_query_eip155Example (sendCall t.raw)
    (fun method => Ask.decode method .hash) (a := .ofNat 32
      0x33469b22e9f636356c4160a87eb19df52b7412e8eac32a4a55ffe88ea8350788) rfl rfl
  exact plays_submit Script.gateway hchain hnonce hprice
    (plays_signAndSend_of_ok Script.gateway hsign hhash)

/-- The example is submitted in three exchanges, the last of which hands over its bytes. -/
theorem submit_spec_eip155Example :
    letI := Guarded.scheme
    let attempt := Client.eip155Example.submit .eip155Example
    let log : List Exchange := [⟨Client.eip155Example.nonceCall, .ok (.str "0x9")⟩,
      ⟨priceCall, .ok (.str "0x4a817c800")⟩, ⟨sendCall SignedTransaction.eip155Example.raw,
        .ok (.str "0x33469b22e9f636356c4160a87eb19df52b7412e8eac32a4a55ffe88ea8350788")⟩]
    let result := Except.ok (.ofNat 32
      0x33469b22e9f636356c4160a87eb19df52b7412e8eac32a4a55ffe88ea8350788)
    attempt.exchanges Script.gateway .eip155Example = log
      ∧ attempt.outcome Script.gateway .eip155Example = result
      ∧ Client.eip155Example.Submits .eip155Example log result := by
  let _ : SignatureScheme := Guarded.scheme
  intro attempt log result
  have hsign : Transaction.eip155Example.sign Guarded.key 1 = .ok .eip155Example :=
    Transaction.sign_eq_ok (v := 37) Transaction.sign_eip155Example rfl
  have hplays : attempt.Plays Script.gateway .eip155Example log result .eip155Example :=
    plays_submit_eip155Example hsign
  have hspec := (@submit_spec Guarded.scheme _ Script.gateway Guarded.lawful
    Client.eip155Example .eip155Example .eip155Example).2
  rw [hplays.exchanges_eq, hplays.outcome_eq] at hspec
  exact ⟨hplays.exchanges_eq, hplays.outcome_eq, hspec⟩

end Client

/-- A gateway that refuses every call with the same error. -/
def Gateway.refusing (e : GatewayError) : Gateway Unit where
  invoke _ _ state := (.error e, state)

namespace Client

/-- A gateway can complain about a signature that it was handed. That is no failure of the node, of
the way to it or of the own key, and is returned as a text that cannot be read. -/
theorem outcome_submit_refusing_recovery :
    letI := Guarded.scheme
    let client : Client := ⟨⟨Guarded.key⟩, .forEndpoint "http://127.0.0.1:8545"⟩
    let gateway := Gateway.refusing (.signing .recovery)
    let attempt := client.submit .eip155Example
    let x : Exchange := ⟨chainCall, .error (.signing .recovery)⟩
    attempt.exchanges gateway () = [x] ∧ x.Fails (.signing .recovery)
      ∧ attempt.outcome gateway () = .error (.encoding "Failed to recover public key")
      ∧ ¬ ((∃ what, attempt.outcome gateway () = .error (.notFound what))
        ∨ (∃ cause, attempt.outcome gateway () = .error (.remote cause))
        ∨ ∃ cause, attempt.outcome gateway () = .error (.key cause)) := by
  intro client gateway attempt x
  have houtcome : attempt.outcome gateway ()
      = .error (.encoding "Failed to recover public key") := rfl
  refine ⟨rfl, .number (.inl rfl) rfl, houtcome, ?_⟩
  rw [houtcome]
  rintro (⟨_, h⟩ | ⟨_, h⟩ | ⟨_, h⟩) <;> cases h

end Client

end NftExchange
