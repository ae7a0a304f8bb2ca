import Mathlib
import NftExchange.Proofs.Client.Stage
import NftExchange.Proofs.Node.Lookup
import NftExchange.Proofs.Node.Refusal

/-!
# Submissions side by side

Clients that share a node submit at the same time: each goes through its calls in order, and between
two of them any other client may make one. A `Turn` is one call in such an interleaving, with the
node as it is just then and with what the client knows from the calls before it. What a client has
read is still right when it sends, unless another submission of the same account was faster; and of
all submissions that read the same nonce of an account, only the first is executed.

* **`Turn.Carries.cases`** — what is sent is executed, or refused and nothing happens;
* **`UpToDate.steps`** — clients of different accounts do not make each other's nonces stale;
* **`not_wins_of_executed`** — a nonce that was executed wins no more;
* **`submissions_interleave`** — what follows for every interleaving.
-/

namespace NftExchange.Interleaving

open Client (Stage)
open Exchange (nonceIn?)

variable {ι : Type}

/-! ## Parties at a node

Any number of parties submit through one node, each by its own client. A party is at most in one
submission at a time; between its calls those of the others, blocks and fundings may come in any
order. A turn is one call as it is made: who makes it, what the party has asked before, and the node
it meets. -/

/-- How far a submission has come. -/
structure Progress where
  log : List Exchange
  rest : Session (Except ClientError Hash)

namespace Progress

/-- The call that is due, unless the submission is over. -/
def call? (p : Progress) : Option Call :=
  match p.rest with
  | .invoke method params _ => some ⟨method, params⟩
  | .done _ => none

/-- The progress after the call that is due was answered. -/
def answered (p : Progress) (answer : Answer) : Progress :=
  match p.rest with
  | .invoke method params next => ⟨p.log ++ [⟨⟨method, params⟩, answer⟩], next answer⟩
  | .done _ => p

end Progress

/-- A node, and the latest submission of each party. -/
structure State (ι : Type) where
  node : Node
  progress : ι → Option Progress

/-- One call of a party. -/
structure Turn (ι : Type) where
  party : ι
  /-- The exchanges of the same submission before this call. -/
  log : List Exchange
  call : Call
  /-- The node when it is called. -/
  node : Node

namespace Turn

/-- The nonce that the submission has read. -/
def nonce? (turn : Turn ι) : Option UInt64 := nonceIn? turn.log

/-- The call hands over a transaction. -/
def isSend (turn : Turn ι) : Bool := turn.call.method == "eth_sendRawTransaction"

end Turn

namespace State

/-- Nobody has submitted anything yet. -/
def idle (node : Node) : State ι := ⟨node, fun _ => none⟩

/-- The next call of a party, if it is in a submission. -/
def turn? (s : State ι) (party : ι) : Option (Turn ι) := do
  let p ← s.progress party
  let call ← p.call?
  return ⟨party, p.log, call, s.node⟩

/-- A party has a turn exactly when it is in a submission with a call that is due. -/
theorem turn?_eq_some_iff {s : State ι} {party : ι} {turn : Turn ι} : s.turn? party = some turn ↔
    ∃ p call, s.progress party = some p ∧ p.call? = some call
      ∧ turn = ⟨party, p.log, call, s.node⟩ := by
  unfold turn?
  simp only [Option.bind_eq_bind, Option.bind_eq_some_iff, Option.pure_def, Option.some.injEq]
  constructor
  · rintro ⟨p, hp, call, hcall, rfl⟩
    exact ⟨p, call, hp, hcall, rfl⟩
  · rintro ⟨p, call, hp, hcall, rfl⟩
    exact ⟨p, hp, call, hcall, rfl⟩

end State

/-- What holds of the progress of every party holds after one of them has made some. -/
theorem forall_update [DecidableEq ι] {P : ι → Progress → Prop} {progress : ι → Option Progress}
    {party : ι} {new : Progress}
    (h : ∀ other p, other ≠ party → progress other = some p → P other p) (hnew : P party new) :
    ∀ other p, Function.update progress party (some new) other = some p → P other p := by
  intro other p hp
  by_cases hother : other = party
  · subst hother
    rw [Function.update_self] at hp
    cases hp
    exact hnew
  · rw [Function.update_of_ne hother] at hp
    exact h other p hother hp

/-- One value for each of two parties. -/
def pair {α : Type} (first second : α) : Bool → α
  | false => first
  | true => second

theorem pair_false {α : Type} (first second : α) : pair first second false = first := rfl

theorem pair_true {α : Type} (first second : α) : pair first second true = second := rfl

theorem update_pair_false {α : Type} (first second new : α) :
    Function.update (pair first second) false new = pair new second := by
  funext b
  cases b <;> rfl

theorem update_pair_true {α : Type} (first second new : α) :
    Function.update (pair first second) true new = pair first new := by
  funext b
  cases b <;> rfl

section Schemes

variable [SignatureScheme]

/-! ## Parties go through the stages

Whatever happens in between, each party walks through the stages of its own submission, and its log
is what the stage says was asked so far. This is the invariant that later sections read off the
nonce and the transaction from. -/

/-- The progress is one that a submission of the client makes. -/
inductive Progress.Regular (c : Client) : Progress → Prop where
  | mk {intent : Intent} {log : List Exchange} {stage : Stage}
      (hlength : intent.data.length < 2 ^ 63) (hfollows : stage.Follows c intent log) :
      Regular c ⟨log, stage.session c intent⟩

/-- The call that is due in a session at a stage is the call of that stage. -/
theorem Progress.call?_session (c : Client) (intent : Intent) (log : List Exchange)
    (stage : Stage) : Progress.call? ⟨log, stage.session c intent⟩ = stage.call? c := by
  cases hcall : stage.call? c with
  | some call => rw [Progress.call?, Stage.session_of_call? hcall]
  | none =>
    -- only a stage without a call is the last one
    cases stage with
    | ended result => rfl
    | _ => cases hcall

/-- An answer takes a session at a stage to the next stage, and the log grows by the exchange. -/
theorem Progress.answered_session {c : Client} {intent : Intent} {stage : Stage} {call : Call}
    (hcall : stage.call? c = some call) (log : List Exchange) (answer : Answer) :
    Progress.answered ⟨log, stage.session c intent⟩ answer
      = ⟨log ++ [⟨call, answer⟩], (stage.next c intent answer).session c intent⟩ := by
  rw [Progress.answered, Stage.session_of_call? hcall]

/-- An answer, whatever it is, keeps the progress of a party regular. -/
theorem Progress.Regular.answered [LawfulSignatureScheme] {c : Client} {p : Progress} {call : Call}
    (h : p.Regular c) (hcall : p.call? = some call) (answer : Answer) :
    (p.answered answer).Regular c := by
  cases h with
  | mk hlength hfollows =>
    rw [call?_session] at hcall
    rw [answered_session hcall]
    exact .mk hlength (hfollows.next hcall answer)

/-- Every party is in a submission of its own. -/
def State.Regular (clients : ι → Client) (s : State ι) : Prop :=
  ∀ party p, s.progress party = some p → p.Regular (clients party)

/-! ## What is sent

A turn that sends hands over a transaction its client signed, with the nonce the submission has
read. The node either executes it and has its entry from then on, or refuses it and stays what it
was. -/

namespace Turn

def answer (turn : Turn ι) : Answer := (Node.invoke turn.call.method turn.call.params turn.node).1

/-- The node after the call. -/
def after (turn : Turn ι) : Node := (Node.invoke turn.call.method turn.call.params turn.node).2

/-- The call hands over a transaction, and it is executed. -/
def isExecuted (turn : Turn ι) : Bool := turn.isSend && turn.answer.isOk

/-- The call hands over a transaction that its client signed, with the nonce that was read. -/
structure Carries (c : Client) (turn : Turn ι) (t : SignedTransaction) : Prop where
  carried : Node.carried turn.call.params = .ok t
  sender : t.sender = .ok c.address
  nonce : turn.nonce? = some t.nonce

/-- The node executes the transaction of the call and has its entry then. -/
structure Executes (c : Client) (turn : Turn ι) (e : Executed) : Prop where
  answer : turn.answer = .ok (.str e.transaction.hash.text)
  after : turn.after = turn.node.record e
  accepts : turn.node.Accepts e
  sender : e.sender = c.address
  nonce : turn.nonce? = some e.transaction.nonce

/-- The call is answered with an error, and the node is what it was. -/
structure Refused (turn : Turn ι) : Prop where
  answer : ∃ failure, turn.answer = .error failure
  after : turn.after = turn.node

/-- What is sent is executed, or refused and nothing happens. -/
theorem Carries.cases {c : Client} {turn : Turn ι} {t : SignedTransaction} (h : turn.Carries c t)
    (hsend : turn.isSend = true) : (∃ e, turn.Executes c e) ∨ turn.Refused := by
  have hmethod : turn.call.method = "eth_sendRawTransaction" := beq_iff_eq.1 hsend
  rcases turn.node.invoke_sendRaw_cases turn.call.params with ⟨failure, hfailure⟩ |
    ⟨raw, e, hsent, hexamine, hinvoke⟩
  · rw [← hmethod] at hfailure
    exact .inr ⟨⟨failure, congrArg Prod.fst hfailure⟩, congrArg Prod.snd hfailure⟩
  · rw [← hmethod] at hinvoke
    obtain ⟨hread, haccepts⟩ := Node.examine_eq_ok_iff.1 hexamine
    -- the bytes that were examined are those of the transaction
    have hcarried : Node.carried turn.call.params = .ok e.transaction :=
      Except.bind_eq_ok_iff.2 ⟨raw, hsent, hread⟩
    have hsame : e.transaction = t := Except.ok.inj (hcarried.symm.trans h.carried)
    refine .inl ⟨e, congrArg Prod.fst hinvoke, congrArg Prod.snd hinvoke, haccepts, ?_, ?_⟩
    · have hsender := haccepts.sender
      rw [hsame, h.sender] at hsender
      exact (Except.ok.inj hsender).symm
    · rw [hsame]
      exact h.nonce

end Turn

variable {clients : ι → Client} {s : State ι} {party : ι} {turn : Turn ι}

/-- A party that sends carries a transaction of its client. -/
theorem State.Regular.exists_carries (h : s.Regular clients) (hturn : s.turn? party = some turn)
    (hsend : turn.isSend = true) : ∃ t, turn.Carries (clients party) t := by
  obtain ⟨p, call, hp, hcall, rfl⟩ := turn?_eq_some_iff.1 hturn
  cases h party p hp with
  | @mk intent log stage hlength hfollows =>
    rw [Progress.call?_session] at hcall
    -- only one stage sends, and it has the transaction at hand
    obtain ⟨t, rfl, rfl⟩ := Stage.eq_sends_of_call? hcall (beq_iff_eq.1 hsend)
    obtain ⟨hnonce, hsender, hdata⟩ := hfollows
    have hraw : t.raw.length < UInt64.size :=
      SignedTransaction.length_raw_lt (by rw [hdata]; exact hlength)
    have hread : SignedTransaction.decode t.raw = .ok t :=
      t.decode_signedItems (Nat.lt_of_le_of_lt t.length_signedItems_le hraw)
    exact ⟨t, Except.bind_eq_ok_iff.2 ⟨t.raw, Node.sentBytes_marked t.raw, hread⟩, hsender, hnonce⟩

/-- A call changes nothing, or it executes the transaction of its party. -/
theorem State.Regular.after_cases (h : s.Regular clients) (hturn : s.turn? party = some turn) :
    turn.after = turn.node ∨ ∃ e, turn.Executes (clients party) e := by
  cases hsend : turn.isSend with
  | false => exact .inl (Node.invoke_eq_self (.inr (by simpa [Turn.isSend] using hsend)))
  | true =>
    obtain ⟨t, hcarries⟩ := h.exists_carries hturn hsend
    rcases hcarries.cases hsend with hexecutes | hrefused
    · exact .inr hexecutes
    · exact .inl hrefused.after

/-- A call leaves the nonces of all accounts but its party's alone. -/
theorem State.Regular.nonce_after (h : s.Regular clients) (hturn : s.turn? party = some turn)
    {account : Address} (hother : account ≠ (clients party).address) :
    (turn.after.ledger.get account).nonce = (turn.node.ledger.get account).nonce := by
  rcases h.after_cases hturn with hsame | ⟨e, hexecutes⟩
  · rw [hsame]
  · have hsender : e.sender ≠ account := hexecutes.sender.trans_ne hother.symm
    rw [hexecutes.after, (turn.node.account_record_of_ne hsender).1]

/-- A turn that is executed leaves an entry of its transaction. -/
theorem State.Regular.exists_executes (h : s.Regular clients) (hturn : s.turn? party = some turn)
    (hexecuted : turn.isExecuted = true) : ∃ e, turn.Executes (clients party) e := by
  obtain ⟨hsend, hok⟩ := Bool.and_eq_true_iff.1 hexecuted
  obtain ⟨t, hcarries⟩ := h.exists_carries hturn hsend
  rcases hcarries.cases hsend with hexecutes | hrefused
  · exact hexecutes
  · obtain ⟨failure, hfailure⟩ := hrefused.answer
    rw [hfailure] at hok
    cases hok

/-- A turn that sends and is not executed is refused. -/
theorem State.Regular.refused (h : s.Regular clients) (hturn : s.turn? party = some turn)
    (hsend : turn.isSend = true) (hexecuted : turn.isExecuted = false) : turn.Refused := by
  obtain ⟨t, hcarries⟩ := h.exists_carries hturn hsend
  rcases hcarries.cases hsend with ⟨e, hexecutes⟩ | hrefused
  · rw [Turn.isExecuted, hsend, hexecutes.answer] at hexecuted
    cases hexecuted
  · exact hrefused

/-- The transaction that is executed in a turn is one of an account, with a nonce that was read. -/
def Turn.wins (clients : ι → Client) (account : Address) (nonce : UInt64) (turn : Turn ι) : Bool :=
  turn.isExecuted && (clients turn.party).address = account && turn.nonce? = some nonce

/-- A turn wins a nonce of an account when it is executed for that account with that nonce. -/
theorem Turn.wins_eq_true_iff {account : Address} {nonce : UInt64} :
    turn.wins clients account nonce = true ↔ turn.isExecuted = true
      ∧ (clients turn.party).address = account ∧ turn.nonce? = some nonce := by
  unfold wins
  simp only [Bool.and_eq_true, decide_eq_true_eq, and_assoc]

/-- Where at most one wins, nothing does that is sent after a winner. -/
theorem Turn.wins_eq_false_of_sublist {turns : List (Turn ι)} {first second : Turn ι}
    {account : Address} {nonce : UInt64}
    (hcount : (turns.filter (Turn.wins clients account nonce)).length ≤ 1)
    (hsub : [first, second].Sublist turns) (hfirst : first.wins clients account nonce = true) :
    second.wins clients account nonce = false := by
  by_contra hsecond
  rw [Bool.not_eq_false] at hsecond
  have hboth := hsub.filter (Turn.wins clients account nonce)
  rw [List.filter_cons_of_pos hfirst, List.filter_cons_of_pos hsecond] at hboth
  have htwo : 2 ≤ 1 := hboth.length_le.trans hcount
  omega

/-- A turn that wins makes an entry for the account with the nonce. -/
theorem State.Regular.exists_of_wins {account : Address} {nonce : UInt64} (h : s.Regular clients)
    (hturn : s.turn? party = some turn) (hwins : turn.wins clients account nonce = true) :
    ∃ e, turn.after = s.node.record e ∧ s.node.Accepts e ∧ e.sender = account
      ∧ e.transaction.nonce = nonce := by
  obtain ⟨p, call, -, -, rfl⟩ := turn?_eq_some_iff.1 hturn
  obtain ⟨hexecuted, haddress, hread⟩ := Turn.wins_eq_true_iff.1 hwins
  obtain ⟨e, hexecutes⟩ := h.exists_executes hturn hexecuted
  exact ⟨e, hexecutes.after, hexecutes.accepts, hexecutes.sender.trans haddress,
    Option.some.inj (hexecutes.nonce.symm.trans hread)⟩

/-! ## Interleavings

An interleaving is any list of actions. The function says what an action does and the relation lists
what it can do, once each, so that an invariant is checked against five cases and not against the
code. -/

/-- What can happen next. -/
inductive Action (ι : Type) where
  | fund (account : Address) (amount : UInt256)
  | mine (blocks : UInt64)
  /-- A party begins a submission, unless it is in one. -/
  | submit (party : ι) (intent : Intent)
  /-- A party makes its next call, if it is in a submission. -/
  | call (party : ι)

variable [DecidableEq ι]

namespace State

variable (clients : ι → Client)

/-- The state after an action. A call happens as a whole: nothing comes between a question and its
answer. -/
def after (s : State ι) : Action ι → State ι
  | .fund account amount => { s with node := s.node.fund account amount }
  | .mine blocks => { s with node := s.node.mine blocks }
  | .submit party intent =>
    if (s.turn? party).isSome then s
    else { s with
      progress := Function.update s.progress party
        (some ⟨[], ((clients party).submit intent).run⟩) }
  | .call party =>
    match s.turn? party with
    | none => s
    | some turn => {
        node := turn.after
        progress := Function.update s.progress party
          ((s.progress party).map fun p => p.answered turn.answer) }

/-- The call in an action, if it is one. -/
def turnOf? (s : State ι) : Action ι → Option (Turn ι)
  | .call party => s.turn? party
  | _ => none

/-- The calls in an interleaving, in order. -/
def turns (s : State ι) : List (Action ι) → List (Turn ι)
  | [] => []
  | action :: actions => (s.turnOf? action).toList ++ (s.after clients action).turns actions

/-- An action does not take the height past the largest word, and what is submitted has data that
64 bits can count, with room to spare. -/
structure Admits (s : State ι) (action : Action ι) : Prop where
  height : s.node.height ≤ (s.after clients action).node.height
  data : ∀ party intent, action = .submit party intent → intent.data.length < 2 ^ 63

/-- All actions, one after the other, are admitted. -/
def AdmitsAll (s : State ι) : List (Action ι) → Prop
  | [] => True
  | action :: actions => s.Admits clients action ∧ (s.after clients action).AdmitsAll actions

/-- What an action can do. -/
inductive Steps (s : State ι) : Action ι → State ι → Prop where
  | rests (action : Action ι) : Steps s action s
  | funds (account : Address) (amount : UInt256) :
      Steps s (.fund account amount) { s with node := s.node.fund account amount }
  | mines (blocks : UInt64) : Steps s (.mine blocks) { s with node := s.node.mine blocks }
  | begins (party : ι) (intent : Intent) :
      Steps s (.submit party intent) { s with
        progress := Function.update s.progress party
          (some ⟨[], ((clients party).submit intent).run⟩) }
  | calls {party : ι} {p : Progress} {call : Call} (hp : s.progress party = some p)
      (hcall : p.call? = some call) :
      Steps s (.call party) {
        node := s.node.after (.invoke call.method call.params)
        progress := Function.update s.progress party
          (some (p.answered (Node.invoke call.method call.params s.node).1)) }

/-- What an action does is one of the things it can do. -/
theorem steps_after (s : State ι) (action : Action ι) :
    s.Steps clients action (s.after clients action) := by
  cases action with
  | fund account amount => exact .funds account amount
  | mine blocks => exact .mines blocks
  | submit party intent =>
    rw [after]
    split
    · exact .rests _
    · exact .begins party intent
  | call party =>
    -- a party without a turn rests, and one with a turn calls from the progress it is in
    rw [after]
    cases hturn : s.turn? party with
    | none => exact .rests _
    | some turn =>
      obtain ⟨p, call, hp, hcall, rfl⟩ := turn?_eq_some_iff.1 hturn
      rw [hp]
      exact .calls hp hcall

end State

/-- What holds at the start and is kept by every action that is admitted holds at every call. -/
theorem exists_of_mem_turns {P : State ι → Prop}
    (hstep : ∀ s action, P s → s.Admits clients action → P (s.after clients action))
    {actions : List (Action ι)} (hstart : P s) (hadmits : s.AdmitsAll clients actions)
    (hturn : turn ∈ s.turns clients actions) :
    ∃ now : State ι, P now ∧ now.turn? turn.party = some turn := by
  induction actions generalizing s with
  | nil => cases hturn
  | cons action actions ih =>
    -- the turn is the one of the first action, or comes later
    rcases List.mem_append.1 hturn with hnow | hlater
    · rw [Option.mem_toList] at hnow
      cases action with
      | call party =>
        have hparty : s.turn? party = some turn := hnow
        obtain ⟨p, call, -, -, rfl⟩ := State.turn?_eq_some_iff.1 hparty
        exact ⟨s, hstart, hparty⟩
      | _ => cases hnow
    · exact ih (hstep s action hstart hadmits.1) hadmits.2 hlater

/-- Every action keeps the progress of all parties regular, if the data of new submissions can be
counted. -/
theorem State.Regular.steps [LawfulSignatureScheme] {next : State ι} {action : Action ι}
    (h : s.Regular clients) (hsteps : s.Steps clients action next)
    (hdata : ∀ party intent, action = .submit party intent → intent.data.length < 2 ^ 63) :
    next.Regular clients := by
  cases hsteps with
  | rests => exact h
  | funds => exact h
  | mines => exact h
  | begins party intent =>
    refine forall_update (fun other p _ => h other p) ?_
    rw [Stage.run_submit]
    exact .mk (hdata party intent rfl) (Stage.follows_first _ _)
  | @calls party p call hp hcall =>
    exact forall_update (fun other p _ => h other p) ((h party p hp).answered hcall _)

/-! ## Nonces that stay right

Between reading a nonce and sending with it, the nonce of an account can only be changed by a
transaction of the same account. When no two parties share an address, the nonce a party has read is
therefore still right when it sends. -/

/-- The nonce that a party has read, and is still to send, is the one that the node expects. -/
def State.UpToDate (clients : ι → Client) (s : State ι) : Prop :=
  ∀ party p, s.progress party = some p → p.call? ≠ none →
    ∀ nonce, nonceIn? p.log = some nonce →
      nonce = (s.node.ledger.get (clients party).address).nonce

/-- What a party finds in its log after a call was there before, or the node has just said it. -/
theorem Progress.Regular.nonce_of_answered {c : Client} {p : Progress} {call : Call}
    {node : Node} {nonce : UInt64} (h : p.Regular c) (hcall : p.call? = some call)
    (hdue : (p.answered (Node.invoke call.method call.params node).1).call? ≠ none)
    (hread : nonceIn? (p.answered (Node.invoke call.method call.params node).1).log
      = some nonce) :
    (Node.invoke call.method call.params node).2 = node
      ∧ (nonceIn? p.log = some nonce ∨ nonce = (node.ledger.get c.address).nonce) := by
  cases h with
  | mk hlength hfollows =>
    rw [call?_session] at hcall
    rw [answered_session hcall, call?_session] at hdue
    rw [answered_session hcall] at hread
    obtain ⟨hmethod, hknown⟩ := Stage.nonceIn?_of_next hfollows hcall hdue hread
    exact ⟨Node.invoke_eq_self (.inr hmethod), hknown⟩

/-- Only a transaction of its own account makes the nonce of a party stale. -/
theorem State.UpToDate.steps {next : State ι} {action : Action ι} (h : s.UpToDate clients)
    (hregular : s.Regular clients)
    (hdistinct : ∀ party other, (clients party).address = (clients other).address → party = other)
    (hsteps : s.Steps clients action next) : next.UpToDate clients := by
  cases hsteps with
  | rests => exact h
  | funds account amount =>
    -- funding changes balances, and nonces stay
    intro party p hp hdue nonce hread
    rw [h party p hp hdue nonce hread]
    exact (Ledger.nonce_credit ..).symm
  | mines => exact h
  | begins party intent =>
    refine forall_update (fun other p _ => h other p) fun _ nonce hread => ?_
    cases hread
  | @calls party p call hp hcall =>
    -- the other parties keep their logs, and the party that calls has another account than each of
    -- them
    refine forall_update (fun other q hother hq hdue nonce hread => ?_) fun hdue nonce hread => ?_
    · rw [h other q hq hdue nonce hread]
      have haddress : (clients other).address ≠ (clients party).address :=
        fun heq => hother (hdistinct other party heq)
      exact (hregular.nonce_after (State.turn?_eq_some_iff.2 ⟨p, call, hp, hcall, rfl⟩)
        haddress).symm
    · -- a party that is still to send after its call has not sent in it
      obtain ⟨hsame, hold | hnew⟩ := (hregular party p hp).nonce_of_answered hcall hdue hread
      all_goals
        show nonce = ((Node.invoke call.method call.params s.node).2.ledger.get _).nonce
        rw [hsame]
      · exact h party p hp (by rw [hcall]; exact nofun) nonce hold
      · exact hnew

/-! ## Submissions that race

When parties do share an address, several may send with one nonce. The node counts the nonce at the
first of them, and what it has entered it keeps, so that all others are refused. -/

/-- An action leaves the node as it is or lets one event happen to it. -/
theorem State.Steps.node_cases {next : State ι} {action : Action ι}
    (h : s.Steps clients action next) :
    next.node = s.node ∨ ∃ event, next.node = s.node.after event := by
  cases h with
  | rests => exact .inl rfl
  | funds account amount => exact .inr ⟨.fund account amount, rfl⟩
  | mines blocks => exact .inr ⟨.mine blocks, rfl⟩
  | begins => exact .inl rfl
  | @calls _ _ call => exact .inr ⟨.invoke call.method call.params, rfl⟩

/-- An action keeps all entries in their order. -/
theorem executed_prefix_after (clients : ι → Client) (s : State ι) (action : Action ι) :
    s.node.executed <+: (s.after clients action).node.executed := by
  rcases (s.steps_after clients action).node_cases with hsame | ⟨event, hevent⟩
  · rw [hsame]
  · rw [hevent]
    exact s.node.executed_prefix_after event

/-- The node of a state came about by events, and its parties are in submissions of their own. -/
structure State.Live (clients : ι → Client) (s : State ι) : Prop where
  reaches : Node.fresh.Reaches s.node
  regular : s.Regular clients

/-- An action that is admitted leads from a live state to a live state. -/
theorem State.Live.after [LawfulSignatureScheme] {action : Action ι} (h : s.Live clients)
    (hadmits : s.Admits clients action) : (s.after clients action).Live clients where
  reaches := by
    have hheight := hadmits.height
    rcases (s.steps_after clients action).node_cases with hsame | ⟨event, hevent⟩
    · rw [hsame]
      exact h.reaches
    · rw [hevent] at hheight ⊢
      exact .step event h.reaches hheight
  regular := h.regular.steps (s.steps_after clients action) hadmits.data

/-! ## Interleavings that are admitted

Actions are admitted as long as the height does not wrap. Without mined blocks each call adds at
most one to the height, so room for the number of actions is enough. -/

/-- An action other than mining raises the height by one at most. -/
theorem State.Steps.height_le {next : State ι} {action : Action ι} (h : s.Steps clients action next)
    (hmine : ∀ blocks, action ≠ .mine blocks) (hroom : s.node.height.toNat + 1 < UInt64.size) :
    s.node.height ≤ next.node.height ∧ next.node.height.toNat ≤ s.node.height.toNat + 1 := by
  have hsame : s.node.height ≤ s.node.height ∧ s.node.height.toNat ≤ s.node.height.toNat + 1 :=
    ⟨UInt64.le_refl _, Nat.le_succ _⟩
  cases h with
  | rests => exact hsame
  | funds => exact hsame
  | mines blocks => exact absurd rfl (hmine blocks)
  | begins => exact hsame
  | @calls _ _ call =>
    -- only a call that is executed makes a block
    show s.node.height ≤ (s.node.after (.invoke call.method call.params)).height
      ∧ (s.node.after (.invoke call.method call.params)).height.toNat ≤ s.node.height.toNat + 1
    rcases s.node.after_invoke_cases call.method call.params with hkept | ⟨raw, e, hexamine, hafter⟩
    · rw [hkept]
      exact hsame
    · have hblock : e.block = s.node.height + 1 := (Node.examine_eq_ok_iff.1 hexamine).2.block
      have hnext : (s.node.height + 1).toNat = s.node.height.toNat + 1 := by
        have hone : (1 : UInt64).toNat = 1 := rfl
        have hsize : UInt64.size = 2 ^ 64 := rfl
        rw [UInt64.toNat_add]
        omega
      rw [hafter]
      show s.node.height ≤ e.block ∧ e.block.toNat ≤ s.node.height.toNat + 1
      rw [hblock, UInt64.le_iff_toNat_le, hnext]
      omega

/-- A node has room for so many transactions that no interleaving gets there. -/
theorem admitsAll_of_room {actions : List (Action ι)} (hmine : ∀ blocks, .mine blocks ∉ actions)
    (hdata : ∀ party intent, .submit party intent ∈ actions → intent.data.length < 2 ^ 63)
    (hroom : s.node.height.toNat + actions.length < UInt64.size) :
    s.AdmitsAll clients actions := by
  induction actions generalizing s with
  | nil => trivial
  | cons action actions ih =>
    rw [List.length_cons] at hroom
    obtain ⟨hle, hgrowth⟩ := (s.steps_after clients action).height_le
      (fun blocks heq => hmine blocks (heq ▸ List.mem_cons_self)) (by omega)
    refine ⟨⟨hle, fun party intent heq => hdata party intent (heq ▸ List.mem_cons_self)⟩, ?_⟩
    exact ih (fun blocks hmem => hmine blocks (List.mem_cons_of_mem _ hmem))
      (fun party intent hmem => hdata party intent (List.mem_cons_of_mem _ hmem)) (by omega)

section Lawful

variable [LawfulSignatureScheme] {actions : List (Action ι)}

/-- A nonce that was executed is not the one that the node expects, so it wins no more. -/
theorem not_wins_of_executed {e : Executed} (h : s.Live clients)
    (hadmits : s.AdmitsAll clients actions) (he : e ∈ s.node.executed) :
    ∀ turn ∈ s.turns clients actions,
      turn.wins clients e.sender e.transaction.nonce = false := by
  intro turn hturn
  -- nothing that was executed is ever forgotten
  obtain ⟨now, ⟨hlive, hkept⟩, hnow⟩ := exists_of_mem_turns
    (P := fun s => s.Live clients ∧ e ∈ s.node.executed)
    (fun s action h hadmits =>
      ⟨h.1.after hadmits, (executed_prefix_after clients s action).subset h.2⟩)
    ⟨h, he⟩ hadmits hturn
  by_contra hwins
  rw [Bool.not_eq_false] at hwins
  -- the node accepts only the nonce that it expects, and that is past those it has executed
  obtain ⟨later, -, haccepts, hsender, hnonce⟩ := hlive.regular.exists_of_wins hnow hwins
  obtain ⟨blocks, hcounted⟩ := Node.exists_counted_of_reaches hlive.reaches
  have hlt := hcounted.nonce_lt hkept
  rw [← hnonce, haccepts.nonce, hsender] at hlt
  exact UInt64.lt_irrefl _ hlt

/-- At most one turn of an interleaving wins a given nonce of a given account. -/
theorem length_wins_le_one (h : s.Live clients) (hadmits : s.AdmitsAll clients actions)
    (account : Address) (nonce : UInt64) :
    ((s.turns clients actions).filter (Turn.wins clients account nonce)).length ≤ 1 := by
  -- the count is over all turns to come, so the induction is on the actions, for any state
  induction actions generalizing s with
  | nil => exact Nat.zero_le 1
  | cons action actions ih =>
    have hrest := ih (h.after hadmits.1) hadmits.2
    rw [State.turns, List.filter_append, List.length_append]
    cases action with
    | call party =>
      cases hturn : s.turn? party with
      | none =>
        rw [State.turnOf?, hturn]
        simpa using hrest
      | some turn =>
        rw [State.turnOf?, hturn, Option.toList_some]
        cases hwins : turn.wins clients account nonce with
        | false => simpa [hwins] using hrest
        | true =>
          -- what wins now is executed, so nothing wins later
          obtain ⟨e, hafter, -, rfl, rfl⟩ := h.regular.exists_of_wins hturn hwins
          have he : e ∈ (s.after clients (.call party)).node.executed := by
            rw [State.after, hturn]
            show e ∈ turn.after.executed
            rw [hafter]
            exact List.mem_append_right _ (List.mem_singleton_self e)
          have hlater := List.filter_eq_nil_iff.2 fun turn hturn =>
            Bool.eq_false_iff.1 (not_wins_of_executed (h.after hadmits.1) hadmits.2 he turn hturn)
          simp [hwins, hlater]
    | _ => simpa [State.turnOf?] using hrest

/-- Whatever the clients of a node submit and however their calls come between each other: if no
two of them have the same account, the nonce that a client has read is the one that the node expects
when the client sends, so that no submission is refused for its nonce. And if several submissions of
an account read the same nonce, at most one of them is executed; what is sent and not executed is
refused, and the node stays as it is. -/
theorem submissions_interleave (clients : ι → Client) {start : Node}
    (hstart : Node.fresh.Reaches start) (actions : List (Action ι))
    (hadmits : (State.idle start).AdmitsAll clients actions) :
    let turns := (State.idle start).turns clients actions
    ((∀ party other, (clients party).address = (clients other).address → party = other) →
        ∀ turn ∈ turns, turn.isSend = true →
          turn.nonce? = some (turn.node.ledger.get (clients turn.party).address).nonce
            ∧ ∃ raw, Node.sentBytes turn.call.params = .ok raw ∧ ∀ actual expected,
              ((Node.execute raw).run.run turn.node).1 ≠ .error (.nonce actual expected))
      ∧ (∀ account nonce, (turns.filter (Turn.wins clients account nonce)).length ≤ 1)
      ∧ ∀ turn ∈ turns, turn.isSend = true →
        (turn.isExecuted = true → ∃ e, turn.Executes (clients turn.party) e)
          ∧ (turn.isExecuted = false → turn.Refused) := by
  intro turns
  have hidle : (State.idle start : State ι).Live clients := ⟨hstart, nofun⟩
  refine ⟨fun hdistinct turn hturn hsend => ?_, length_wins_le_one hidle hadmits,
    fun turn hturn hsend => ?_⟩
  · -- the invariant at the call speaks of the nonce in the log, which is the one that is sent
    obtain ⟨now, ⟨hregular, hfresh⟩, hnow⟩ := exists_of_mem_turns
      (P := fun s => s.Regular clients ∧ s.UpToDate clients)
      (fun s action h hadmits => ⟨h.1.steps (s.steps_after clients action) hadmits.data,
        h.2.steps h.1 hdistinct (s.steps_after clients action)⟩)
      ⟨hidle.regular, nofun⟩ hadmits hturn
    obtain ⟨t, hcarries⟩ := hregular.exists_carries hnow hsend
    obtain ⟨p, call, hp, hcall, hthis⟩ := State.turn?_eq_some_iff.1 hnow
    have hnonce : t.nonce = (turn.node.ledger.get (clients turn.party).address).nonce := by
      have hread := hcarries.nonce
      rw [hthis] at hread ⊢
      exact hfresh _ p hp (by rw [hcall]; exact nofun) t.nonce hread
    -- the node reads the same transaction out of the bytes and has nothing to say about its nonce
    obtain ⟨raw, hsent, hread⟩ := Except.bind_eq_ok_iff.1 hcarries.carried
    exact ⟨by rw [hcarries.nonce, hnonce], raw, hsent,
      Node.execute_ne_nonce hread hcarries.sender hnonce⟩
  · obtain ⟨now, hlive, hnow⟩ := exists_of_mem_turns (fun _ _ h hadmits => h.after hadmits) hidle
      hadmits hturn
    exact ⟨hlive.regular.exists_executes hnow, hlive.regular.refused hnow hsend⟩

end Lawful

/-! ## Stages side by side

Running an interleaving of several submissions is a matter of rewriting: a call of a party replaces
its stage by the next one and leaves the others where they are. -/

/-- Every party is in a stage of a submission. -/
def State.staged (clients : ι → Client) (intents : ι → Intent) (node : Node)
    (logs : ι → List Exchange) (stages : ι → Stage) : State ι where
  node := node
  progress party := some ⟨logs party, (stages party).session (clients party) (intents party)⟩

/-- A call takes its party to the next stage. -/
theorem turns_staged {intents : ι → Intent} {node : Node} {logs : ι → List Exchange}
    {stages : ι → Stage} {call : Call} (actions : List (Action ι))
    (hcall : (stages party).call? (clients party) = some call) :
    (State.staged clients intents node logs stages).turns clients (.call party :: actions)
      = ⟨party, logs party, call, node⟩
        :: (State.staged clients intents (Node.invoke call.method call.params node).2
          (Function.update logs party
            (logs party ++ [⟨call, (Node.invoke call.method call.params node).1⟩]))
          (Function.update stages party ((stages party).next (clients party) (intents party)
            (Node.invoke call.method call.params node).1))).turns clients actions := by
  have hturn : (State.staged clients intents node logs stages).turn? party
      = some ⟨party, logs party, call, node⟩ :=
    State.turn?_eq_some_iff.2
      ⟨_, call, rfl, (Progress.call?_session _ _ _ _).trans hcall, rfl⟩
  have hafter : (State.staged clients intents node logs stages).after clients (.call party)
      = State.staged clients intents (Node.invoke call.method call.params node).2
        (Function.update logs party
          (logs party ++ [⟨call, (Node.invoke call.method call.params node).1⟩]))
        (Function.update stages party ((stages party).next (clients party) (intents party)
          (Node.invoke call.method call.params node).1)) := by
    rw [State.after, hturn]
    unfold State.staged
    simp only [Option.map_some, Progress.answered_session hcall]
    congr 1
    funext other
    -- the party that called has a new stage, and the others keep theirs
    by_cases hother : other = party
    · subst hother
      simp only [Function.update_self]
      rfl
    · simp only [Function.update_of_ne hother]
  rw [State.turns, State.turnOf?, hturn, hafter]
  rfl

/-- The first call of a party with a known chain tells it the nonce of its account. -/
theorem turns_staged_nonce {intents : ι → Intent} {node : Node} {logs : ι → List Exchange}
    {stages : ι → Stage} {chain : UInt64} (actions : List (Action ι))
    (hstage : stages party = .asksNonce chain) :
    (State.staged clients intents node logs stages).turns clients (.call party :: actions)
      = ⟨party, logs party, (clients party).nonceCall, node⟩
        :: (State.staged clients intents node
          (Function.update logs party (logs party ++ [⟨(clients party).nonceCall,
            (Node.invoke (clients party).nonceCall.method (clients party).nonceCall.params node).1⟩]))
          (Function.update stages party
            (.asksPrice chain (node.ledger.get (clients party).address).nonce))).turns clients
              actions := by
  have hnode : (Node.invoke (clients party).nonceCall.method (clients party).nonceCall.params
      node).2 = node :=
    Node.invoke_eq_self (.inr (show "eth_getTransactionCount" ≠ _ by decide))
  have hcall : (stages party).call? (clients party) = some (clients party).nonceCall := by
    rw [hstage]
    rfl
  rw [turns_staged actions hcall, hnode, hstage, Stage.next, Stage.number_nonceCall]

/-- And the second one the price of gas, so that it can sign. -/
theorem turns_staged_price {intents : ι → Intent} {node : Node} {logs : ι → List Exchange}
    {stages : ι → Stage} {chain nonce : UInt64} {t : SignedTransaction} (actions : List (Action ι))
    (hstage : stages party = .asksPrice chain nonce)
    (hsign : ((clients party).transaction (intents party) nonce Node.gasPrice).sign
      (clients party).wallet.key chain = .ok t) :
    (State.staged clients intents node logs stages).turns clients (.call party :: actions)
      = ⟨party, logs party, Client.priceCall, node⟩
        :: (State.staged clients intents node
          (Function.update logs party
            (logs party ++ [⟨Client.priceCall, .ok (Node.quantity Node.gasPrice.toNat)⟩]))
          (Function.update stages party (.sends t))).turns clients actions := by
  have hinvoke : Node.invoke Client.priceCall.method Client.priceCall.params node
      = (.ok (Node.quantity Node.gasPrice.toNat), node) := rfl
  have hprice : Exchange.quantity
      ⟨Client.priceCall, .ok (Node.quantity Node.gasPrice.toNat)⟩ = .ok Node.gasPrice := rfl
  have hcall : (stages party).call? (clients party) = some Client.priceCall := by
    rw [hstage]
    rfl
  rw [turns_staged actions hcall, hinvoke, hstage, Stage.next, hprice]
  simp only [hsign]

/-! ## A race

Two submissions whose calls alternate, so that both have read the nonce before either sends. With
one account the second one loses, with two accounts both send the nonce the node expects. -/

/-- Two parties begin a submission each, and their calls take turns. -/
def race (intents : Bool → Intent) : List (Action Bool) :=
  [.submit false (intents false), .submit true (intents true), .call false, .call true,
    .call false, .call true, .call false, .call true]

/-- What a client has asked a node for the nonce. -/
def nonceExchange (c : Client) (node : Node) : Exchange :=
  ⟨c.nonceCall, (Node.invoke c.nonceCall.method c.nonceCall.params node).1⟩

/-- What it has asked before it sends, if the chain is configured. -/
def asked (c : Client) (node : Node) : List Exchange :=
  [nonceExchange c node, ⟨Client.priceCall, .ok (Node.quantity Node.gasPrice.toNat)⟩]

/-- The nonce that was asked for is the one the node has for the account. -/
theorem nonceIn?_asked (c : Client) (node : Node) :
    nonceIn? (asked c node) = some (node.ledger.get c.address).nonce := by
  have hunasked : Exchange.Unasked [] := nofun
  have hfirst : nonceIn? [nonceExchange c node] = some (node.ledger.get c.address).nonce := by
    rw [← List.nil_append [_], hunasked.nonceIn?_append rfl, nonceExchange, Stage.number_nonceCall]
    rfl
  have hprice : Client.priceCall.method ≠ "eth_getTransactionCount" :=
    show "eth_gasPrice" ≠ _ by decide
  have hasked : asked c node
      = [nonceExchange c node] ++ [⟨Client.priceCall, .ok (Node.quantity Node.gasPrice.toNat)⟩] :=
    rfl
  rw [hasked, Exchange.nonceIn?_append_of_ne hprice, hfirst]

/-- A race is admitted where there is room for its eight actions. -/
theorem admitsAll_race {clients : Bool → Client} {intents : Bool → Intent} {node : Node}
    (hdata : ∀ b, (intents b).data.length < 2 ^ 63) (hroom : node.height.toNat + 8 < UInt64.size) :
    (State.idle node).AdmitsAll clients (race intents) := by
  refine admitsAll_of_room (fun blocks h => ?_) (fun party intent h => ?_) hroom
  · simp [race] at h
  · have hintent : intent = intents party := by
      simp only [race, List.mem_cons, Action.submit.injEq, reduceCtorEq, List.not_mem_nil, or_false]
        at h
      rcases h with ⟨rfl, rfl⟩ | ⟨rfl, rfl⟩ <;> rfl
    rw [hintent]
    exact hdata party

/-- A submission that begins makes no turn by itself. -/
theorem turns_submit {clients : ι → Client} {s : State ι} {party : ι}
    (h : s.progress party = none) (intent : Intent) (actions : List (Action ι)) :
    s.turns clients (.submit party intent :: actions)
      = State.turns clients { s with
          progress := Function.update s.progress party (some ⟨[],
            (Stage.first (clients party)).session (clients party) intent⟩) } actions := by
  have hidle : s.turn? party = none := by
    rw [State.turn?, h]
    rfl
  rw [State.turns, State.after, hidle, Stage.run_submit]
  rfl

/-- The six turns of a race: both ask for the nonce, both ask for the price, and both send, the
second one to the node the first one has left behind. -/
theorem turns_race {clients : Bool → Client} {intents : Bool → Intent} {node : Node}
    {t : Bool → SignedTransaction} (hchain : ∀ b, (clients b).config.chainId = some 51888)
    (hsign : ∀ b, ((clients b).transaction (intents b)
      (node.ledger.get (clients b).address).nonce Node.gasPrice).sign (clients b).wallet.key 51888
        = .ok (t b)) :
    (State.idle node).turns clients (race intents) =
      [⟨false, [], (clients false).nonceCall, node⟩, ⟨true, [], (clients true).nonceCall, node⟩,
        ⟨false, [nonceExchange (clients false) node], Client.priceCall, node⟩,
        ⟨true, [nonceExchange (clients true) node], Client.priceCall, node⟩,
        ⟨false, asked (clients false) node, Client.sendCall (t false).raw, node⟩,
        ⟨true, asked (clients true) node, Client.sendCall (t true).raw,
          (Node.invoke "eth_sendRawTransaction" [.str (Hex.marked (t false).raw)] node).2⟩] := by
  have hfirst (b : Bool) : Stage.first (clients b) = .asksNonce 51888 := by
    rw [Stage.first, hchain]
  have hbegun (actions : List (Action Bool)) : (State.idle node).turns clients
      (.submit false (intents false) :: .submit true (intents true) :: actions)
        = (State.staged clients intents node (pair [] [])
          (pair (.asksNonce 51888) (.asksNonce 51888))).turns clients actions := by
    rw [turns_submit rfl, turns_submit rfl, hfirst, hfirst]
    congr 1
    unfold State.staged State.idle
    congr 1
    funext b
    cases b <;> rfl
  have hsends : Stage.call? (clients false) (pair (.sends (t false)) (.sends (t true)) false)
      = some (Client.sendCall (t false).raw) := rfl
  -- each turn rewrites one of the two stages, in the order of the calls
  rw [race, hbegun, turns_staged_nonce _ (pair_false (Stage.asksNonce 51888) (.asksNonce 51888))]
  simp only [update_pair_false]
  rw [turns_staged_nonce _ (pair_true (Stage.asksPrice 51888 _) (.asksNonce 51888))]
  simp only [update_pair_true]
  rw [turns_staged_price _ (pair_false (Stage.asksPrice 51888 _) (.asksPrice 51888 _))
    (hsign false)]
  simp only [update_pair_false]
  rw [turns_staged_price _ (pair_true (Stage.sends (t false)) (.asksPrice 51888 _)) (hsign true)]
  simp only [update_pair_true]
  rw [turns_staged _ hsends]
  simp only [update_pair_false]
  rw [turns_staged _ (show Stage.call? (clients true) (pair _ (.sends (t true)) true)
    = some (Client.sendCall (t true).raw) from rfl)]
  rfl

end Schemes

/-- Two clients race. If they have the same account, both read the nonce 0, the first that sends is
executed and the second is refused. If they have different ones, each has the right nonce. -/
theorem submissions_interleave_race :
    letI := Guarded.scheme
    let client (key : SecretKey) : Client :=
      ⟨⟨key⟩, { ClientConfig.forEndpoint "http://127.0.0.1:8545" with chainId := some 51888 }⟩
    let node := Node.fresh.fund Guarded.key.address 0x38D7EA4C68000
    let intents (_ : Bool) : Intent := .plain (.zero 20) 1000000000 []
    let same := pair (client Guarded.key) (client Guarded.key)
    let different := pair (client Guarded.key) (client Node.buyerKey)
    (∃ winner loser, [winner, loser].Sublist ((State.idle node).turns same (race intents))
        ∧ winner.nonce? = some 0 ∧ loser.nonce? = some 0
        ∧ (∃ e, winner.Executes (client Guarded.key) e) ∧ loser.isSend = true ∧ loser.Refused)
      ∧ (∃ turn ∈ (State.idle node).turns different (race intents),
        turn.party = true ∧ turn.isSend = true)
      ∧ ∀ turn ∈ (State.idle node).turns different (race intents), turn.isSend = true →
        turn.nonce? = some (turn.node.ledger.get (different turn.party).address).nonce := by
  let _ : SignatureScheme := Guarded.scheme
  have _ : LawfulSignatureScheme := Guarded.lawful
  intro client node intents same different
  have hnode : Node.fresh.Reaches node :=
    .step (.fund Guarded.key.address 0x38D7EA4C68000) .refl (by decide)
  have hadmits (clients : Bool → Client) : (State.idle node).AdmitsAll clients (race intents) :=
    admitsAll_race (fun _ => show 0 < 2 ^ 63 by decide) (by decide)
  have hsigns (key : SecretKey) : ∃ t recoveryId,
      ((client key).transaction (intents true) (node.ledger.get (client key).address).nonce
        Node.gasPrice).sign key 51888 = .ok t
      ∧ t.IsSigned ((client key).transaction (intents true)
        (node.ledger.get (client key).address).nonce Node.gasPrice) key 51888 recoveryId :=
    Transaction.exists_isSigned_of_lt _ key (by decide)
  have haccount : node.ledger.get Guarded.key.address = ⟨0x38D7EA4C68000, 0⟩ :=
    Node.get_fund_fresh _
  -- nothing else about the node is needed
  clear_value node
  obtain ⟨t, recoveryId, hsign, hsigned⟩ := hsigns Guarded.key
  obtain ⟨u, -, hsign', -⟩ := hsigns Node.buyerKey
  refine ⟨?_, ?_⟩
  · have hturns := @turns_race _ same intents node (fun _ => t)
      (fun b => by cases b <;> rfl) (fun b => by cases b <;> exact hsign)
    obtain ⟨-, hcount, hsends⟩ := submissions_interleave same hnode (race intents) (hadmits same)
    let winner : Turn Bool :=
      ⟨false, asked (client Guarded.key) node, Client.sendCall t.raw, node⟩
    let loser : Turn Bool := ⟨true, asked (client Guarded.key) node, Client.sendCall t.raw,
      (Node.invoke "eth_sendRawTransaction" [.str (Hex.marked t.raw)] node).2⟩
    have hsub : [winner, loser].Sublist ((State.idle node).turns same (race intents)) := by
      rw [hturns]
      exact List.sublist_append_right [_, _, _, _] [winner, loser]
    have hread : nonceIn? (asked (client Guarded.key) node) = some 0 := by
      rw [nonceIn?_asked]
      exact congrArg (fun account => some account.nonce) haccount
    have hexamine : node.examine t.raw
        = .ok ⟨node.height + 1, Guarded.key.address, t, none, []⟩ := by
      refine Node.examine_raw hsigned (show 0 < 2 ^ 63 by decide) rfl ?_ (.plain rfl)
      rw [haccount]
      show (1000000000 : UInt256) ≤ 0x38D7EA4C68000
      decide
    have hanswer : winner.answer = .ok (.str t.hash.text) :=
      congrArg Prod.fst (Node.invoke_sendRaw hexamine)
    have hwins : winner.isExecuted = true := by
      rw [Turn.isExecuted, hanswer]
      rfl
    have hloses : loser.isExecuted = false := by
      have hfirst : winner.wins same Guarded.key.address 0 = true :=
        Turn.wins_eq_true_iff.2 ⟨hwins, rfl, hread⟩
      have hsecond := Turn.wins_eq_false_of_sublist (hcount Guarded.key.address 0) hsub hfirst
      by_contra hexecuted
      rw [Bool.not_eq_false] at hexecuted
      exact Bool.false_ne_true
        (hsecond.symm.trans (Turn.wins_eq_true_iff.2 ⟨hexecuted, rfl, hread⟩))
    -- the theorem says of each of the two turns what became of it
    have hexecutes := (hsends winner (hsub.subset (by simp)) rfl).1 hwins
    have hrefused := (hsends loser (hsub.subset (by simp)) rfl).2 hloses
    exact ⟨winner, loser, hsub, hread, hread, hexecutes, rfl, hrefused⟩
  · obtain ⟨hfresh, -, -⟩ :=
      submissions_interleave different hnode (race intents) (hadmits different)
    have hturns := @turns_race _ different intents node (pair t u)
      (fun b => by cases b <;> rfl) (fun b => by
        cases b
        · exact hsign
        · exact hsign')
    have haddress : Guarded.key.address ≠ Node.buyerKey.address := by decide +kernel
    have hdistinct (party other : Bool)
        (h : (different party).address = (different other).address) : party = other := by
      cases party <;> cases other
      · rfl
      · exact absurd h haddress
      · exact absurd h.symm haddress
      · rfl
    refine ⟨?_, fun turn hturn hsend => (hfresh hdistinct turn hturn hsend).1⟩
    let second : Turn Bool :=
      ⟨true, asked (client Node.buyerKey) node, Client.sendCall u.raw,
        (Node.invoke "eth_sendRawTransaction" [.str (Hex.marked t.raw)] node).2⟩
    have hmem : second ∈ (State.idle node).turns different (race intents) := by
      rw [hturns]
      exact List.mem_append_right [_, _, _, _, _] (List.mem_singleton_self second)
    exact ⟨second, hmem, rfl, rfl⟩

end NftExchange.Interleaving
