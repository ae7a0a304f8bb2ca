import NftExchange.Proofs.Node.Examination
import NftExchange.Proofs.Node.Ledger

/-!
# What execution amounts to

A node executes bytes step by step and writes its state as it goes. All that can be refused is
refused before the first write, so executing is the same as examining the bytes against the node
as it is and then recording what was found.

* **`run_execute`** — the steps amount to `examine` and `record`;
* **`invoke_sendRawTransaction`** — what sending a transaction answers and does.
-/

namespace NftExchange.Node

open Except (bind_eq_ok_iff mapError_eq_ok_iff)

/-! ## Steps

What running the first step of an execution does: a result passed on, a refusal, a look at the node,
a payment, or a change of state. Each equation leaves the rest of the execution as it is, so an
execution is run by rewriting with them from the front. -/

section Steps

variable {α β : Type}

/-- A result from outside is passed on, and its error ends the execution with the node as it is by
then. -/
theorem run_ofExcept_bind (x : Except Rejection α) (f : α → Execution β) (node : Node) :
    (ofExcept x >>= f : Execution β).run.run node = match x with
      | .error r => (.error r, node)
      | .ok a => (f a).run.run node := by
  cases x <;> rfl

/-- A refusal ends the execution, and a condition that does not hold is passed over. -/
theorem run_refuseIf_bind (condition : Prop) [Decidable condition] (r : Rejection)
    (f : Unit → Execution β) (node : Node) : (refuseIf condition r >>= f).run.run node =
      if condition then (.error r, node) else (f ()).run.run node := by
  rw [refuseIf]
  split <;> rfl

theorem run_get_bind (f : Node → Execution β) (node : Node) :
    (get >>= f : Execution β).run.run node = (f node).run.run node := rfl

/-- Paying out of what the sender has is a transfer. -/
theorem run_pay_bind (tx : SignedTransaction) (sender : Address) (f : Unit → Execution β)
    (node : Node) : (pay tx sender (node.ledger.get sender).balance >>= f).run.run node
      = (f ()).run.run (node.onLedger (·.transfer sender tx.recipient tx.value)) := by
  by_cases h : tx.recipient = sender
  · simp only [pay, onLedger, Ledger.transfer, ne_eq, h, not_true_eq_false, if_false, if_true]
    rfl
  · simp only [pay, onLedger, Ledger.transfer, ne_eq, h, not_false_eq_true, if_true, if_false]
    rfl

/-- A refusal is wrapped, and what was written stays. -/
theorem run_adapt_bind (wrap : Rejection → GatewayError) (x : Execution α)
    (f : α → ExceptT GatewayError (StateM Node) β) (node : Node) :
    (x.adapt wrap >>= f).run.run node = match x.run.run node with
      | (.error r, next) => (.error (wrap r), next)
      | (.ok a, next) => (f a).run.run next := by
  have hbind : (x.adapt wrap >>= f).run.run node = match (x.adapt wrap).run.run node with
      | (result, next) => (ExceptT.bindCont f result).run next := rfl
  have hadapt : (x.adapt wrap).run.run node
      = ((x.run.run node).1.mapError wrap, (x.run.run node).2) := rfl
  rw [hbind, hadapt]
  rcases x.run.run node with ⟨r | a, next⟩
  · rfl
  · rfl

end Steps

/-! ## What is sent

The bytes an `eth_sendRawTransaction` carries, read from its parameters. -/

/-- The bytes that the parameters of a call carry. -/
def sentBytes (params : List Json) : Except GatewayError Bytes :=
  parameter "eth_sendRawTransaction" params 0 Hex.parseBytes

/-- Bytes sent with their mark arrive as they are. -/
theorem sentBytes_marked (raw : Bytes) : sentBytes [.str (Hex.marked raw)] = .ok raw :=
  bind_eq_ok_iff.2 ⟨Hex.marked raw, rfl, mapError_eq_ok_iff.2 (Hex.parseBytes_marked raw)⟩

/-! ## Execution as a whole

An execution writes while it checks, and nothing is rolled back. That it still acts as an
examination followed by one record is due to the order of its steps: all checks come before the
first write. -/

variable [SignatureScheme]

/-- Bytes that are refused change nothing, and bytes that are accepted are recorded. -/
theorem run_execute (node : Node) (raw : Bytes) : (execute raw).run.run node =
    match node.examine raw with
    | .error r => (.error r, node)
    | .ok e => (.ok e.transaction.hash, node.record e) := by
  rw [examine]
  simp only [bind, Except.bind]
  rw [execute, run_ofExcept_bind]
  -- each check either ends both sides or lets both go on
  cases (SignedTransaction.decode raw).mapError Rejection.undecodable with
  | error r => rfl
  | ok tx =>
    dsimp only
    rw [run_refuseIf_bind]
    by_cases hchain : tx.chainId ≠ some chainId
    · simp only [if_pos hchain]
    · simp only [if_neg hchain]
      rw [run_ofExcept_bind]
      cases tx.sender.mapError Rejection.sender with
      | error r => rfl
      | ok sender =>
        dsimp only
        rw [run_get_bind, run_refuseIf_bind]
        by_cases hnonce : tx.nonce ≠ (node.ledger.get sender).nonce
        · simp only [if_pos hnonce]
        · simp only [if_neg hnonce]
          rw [run_refuseIf_bind]
          by_cases hfunds : (node.ledger.get sender).balance < tx.value
          · simp only [if_pos hfunds]
          · simp only [if_neg hfunds]
            rw [run_get_bind, run_ofExcept_bind]
            cases examineData node.height sender tx.data with
            | error r => rfl
            | ok found =>
              dsimp only
              -- the nonce was read before the payment, which left it alone
              have hcount : (node.ledger.transfer sender tx.recipient tx.value).countNonce sender
                  = (node.ledger.transfer sender tx.recipient tx.value).setNonce sender
                    ((node.ledger.get sender).nonce + 1) := by
                rw [Ledger.countNonce, Ledger.nonce_transfer]
              rw [run_pay_bind]
              simp only [pure, Except.pure, record, hcount]
              rfl

/-- Parameters that carry no bytes and bytes that are refused change nothing; what is accepted is
recorded, and its digest is the answer. -/
theorem invoke_sendRawTransaction (node : Node) (params : List Json) :
    invoke "eth_sendRawTransaction" params node = match sentBytes params with
      | .error e => (.error e, node)
      | .ok raw => match node.examine raw with
        | .error r => (.error (.rejected "eth_sendRawTransaction" (-32000) r.message), node)
        | .ok e => (.ok (.str e.transaction.hash.text), node.record e) := by
  rw [invoke, if_pos rfl, acceptRaw, ← sentBytes]
  cases sentBytes params with
  | error e => rfl
  | ok raw =>
    refine (run_adapt_bind _ (execute raw) _ node).trans ?_
    dsimp only
    rw [run_execute]
    cases node.examine raw with
    | error r => rfl
    | ok e => rfl

/-- Whatever is sent, it is refused and nothing happens, or it is accepted and recorded. -/
theorem invoke_sendRaw_cases (node : Node) (params : List Json) :
    (∃ failure, invoke "eth_sendRawTransaction" params node = (.error failure, node))
      ∨ ∃ raw e, sentBytes params = .ok raw ∧ node.examine raw = .ok e
        ∧ invoke "eth_sendRawTransaction" params node
          = (.ok (.str e.transaction.hash.text), node.record e) := by
  rw [invoke_sendRawTransaction]
  cases hsent : sentBytes params with
  | error failure => exact .inl ⟨failure, rfl⟩
  | ok raw =>
    -- what passes the examination is recorded, and nothing else is
    cases hexamine : node.examine raw with
    | error r =>
      refine .inl ⟨.rejected "eth_sendRawTransaction" (-32000) r.message, ?_⟩
      simp only [hexamine]
    | ok e =>
      refine .inr ⟨raw, e, rfl, hexamine, ?_⟩
      simp only [hexamine]

end NftExchange.Node
