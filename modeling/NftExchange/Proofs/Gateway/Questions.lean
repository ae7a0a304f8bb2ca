import NftExchange.Client.Basic
import NftExchange.Proofs.Except
import NftExchange.Proofs.Gateway.Exchange

/-!
# What a question makes of an answer

Every question is one call, and the policy for its answer has three parts. An error of the call is
passed on. What `null` means is a matter of the question: that the thing does not exist, that there
are none of it, or that the answer is wrong (`Absence`). Any other answer is a value or an error
that names the method (`Read`), so nothing that a node sends looks like a thing that is missing or
like a call that failed.

* **`Ask.Treats`** — this policy, for one way to read answers; each of the ways has a lemma;
* **`Question.poses`** — every question is asked with its own call and reads by the policy;
* **`Question.plays_and_sorts`** — what comes of a question, and of a client's query that asks it.
-/

namespace NftExchange

/-- The questions, with what they are about; the index is the type of what is asked for. -/
inductive Question : Type → Type where
  | chainId : Question UInt64
  | networkId : Question UInt64
  | blockNumber : Question UInt64
  | pendingNonce (account : Address) : Question UInt64
  | gasPrice : Question UInt256
  | balance (account : Address) : Question UInt256
  | balanceAt (account : Address) (block : BlockId) : Question UInt256
  | receipt (hash : Hash) : Question Receipt
  | transactionInBlock (blockHash : Hash) (index : UInt64) : Question SignedTransaction
  | accountInfo (account : Address) (height : UInt64) : Question AccountInfo
  | validators (height : UInt64) : Question ValidatorList
  | beneficiaries (height : UInt64) : Question (List Beneficiary)
  | minerProxies (height : UInt64) (account : Address) : Question (List MinerProxy)
  | activePool (height : UInt64) : Question ActiveMinerList
  | sendRaw (raw : Bytes) : Question Hash

/-- What `null` means as an answer. -/
inductive Absence (α : Type) where
  /-- The thing does not exist; this is how it is named then. -/
  | missing (what : String)
  /-- There are none of it. -/
  | none (empty : α)
  /-- The answer is wrong. -/
  | refused

/-- Whether a result is what `null` means. -/
def Absence.Fits {α : Type} (method : String) : Absence α → Except GatewayError α → Prop
  | missing what, result => result = .error (.notFound what)
  | none empty, result => result = .ok empty
  | refused, result => ∃ reason, result = .error (.undecodable method reason)

namespace Question

variable {α : Type}

/-- The question as it is asked. -/
def ask : {α : Type} → Question α → Attempt GatewayError α
  | _, chainId => Ask.chainId
  | _, networkId => Ask.networkId
  | _, blockNumber => Ask.blockNumber
  | _, pendingNonce account => Ask.pendingNonce account
  | _, gasPrice => Ask.gasPrice
  | _, balance account => Ask.balance account
  | _, balanceAt account block => Ask.balanceAt account block
  | _, receipt hash => Ask.receipt hash
  | _, transactionInBlock blockHash index => Ask.transactionInBlock blockHash index
  | _, accountInfo account height => Ask.accountInfo account height
  | _, validators height => Ask.validators height
  | _, beneficiaries height => Ask.beneficiaries height
  | _, minerProxies height account => Ask.minerProxies height account
  | _, activePool height => Ask.activePool height
  | _, sendRaw raw => Ask.sendRaw raw

/-- The call that a question makes: its method, and what it is about as parameters. -/
def call : {α : Type} → Question α → Call
  | _, chainId => ⟨"eth_chainId", []⟩
  | _, networkId => ⟨"net_version", []⟩
  | _, blockNumber => ⟨"eth_blockNumber", []⟩
  | _, pendingNonce account => ⟨"eth_getTransactionCount", [.str account.text, .str "pending"]⟩
  | _, gasPrice => ⟨"eth_gasPrice", []⟩
  | _, balance account => ⟨"eth_getBalance", [.str account.text, .str "pending"]⟩
  | _, balanceAt account .latest => ⟨"eth_getBalance", [.str account.text, .str "latest"]⟩
  | _, balanceAt account .earliest => ⟨"eth_getBalance", [.str account.text, .str "earliest"]⟩
  | _, balanceAt account .pending => ⟨"eth_getBalance", [.str account.text, .str "pending"]⟩
  | _, balanceAt account (.height number) =>
    ⟨"eth_getBalance", [.str account.text, .str (Hex.quantity number.toNat)]⟩
  | _, receipt hash => ⟨"eth_getTransactionReceipt", [.str hash.text]⟩
  | _, transactionInBlock blockHash index =>
    ⟨"eth_getTransactionByBlockHashAndIndex",
      [.str blockHash.text, .str (Hex.quantity index.toNat)]⟩
  | _, accountInfo account height =>
    ⟨"eth_getAccountInfo", [.str account.text, .str (Hex.quantity height.toNat)]⟩
  | _, validators height => ⟨"eth_getValidator", [.str (Hex.quantity height.toNat)]⟩
  | _, beneficiaries height =>
    ⟨"eth_getBlockBeneficiaryAddressByNumber",
      [.str (Hex.quantity height.toNat), .bool true]⟩
  | _, minerProxies height account =>
    ⟨"eth_queryMinerProxy", [.str (Hex.quantity height.toNat), .str account.text]⟩
  | _, activePool height => ⟨"eth_getActiveLivePool", [.str (Hex.quantity height.toNat)]⟩
  | _, sendRaw raw => ⟨"eth_sendRawTransaction", [.str (Hex.marked raw)]⟩

/-- What `null` means as the answer to a question. -/
def absence : {α : Type} → Question α → Absence α
  | _, receipt hash => .missing ("receipt " ++ hash.text)
  | _, transactionInBlock blockHash index =>
    .missing ("transaction " ++ toString index.toNat ++ " of block " ++ blockHash.text)
  | _, accountInfo account _ => .missing ("account " ++ account.text)
  | _, validators height => .missing ("validators at " ++ toString height.toNat)
  | _, beneficiaries height => .missing ("beneficiaries of block " ++ toString height.toNat)
  | _, minerProxies _ _ => .none []
  | _, activePool _ => .none ⟨[]⟩
  | _, chainId | _, networkId | _, blockNumber | _, pendingNonce _ | _, gasPrice | _, balance _
  | _, balanceAt _ _ | _, sendRaw _ => .refused

end Question

/-! ## Reading answers

There are five ways to read an answer. Each has one meaning for `null`, and whatever else it makes
of an answer is a value or an error that names the method. -/

namespace Ask

variable {α β : Type} {method : String}

/-- A value, or an error that names the method. -/
inductive Read (method : String) : Except GatewayError α → Prop where
  | value (a : α) : Read method (.ok a)
  | undecodable (reason : String) : Read method (.error (.undecodable method reason))

/-- What is read further is still a value or such an error. -/
theorem Read.bind {x : Except GatewayError α} {f : α → Except GatewayError β}
    (hx : Read method x) (hf : ∀ a, Read method (f a)) : Read method (x >>= f) := by
  cases hx with
  | value a => exact hf a
  | undecodable reason => exact .undecodable reason

/-- An error with the method put to it names the method. -/
theorem read_mapError {ε : Type} (reason : ε → String) (x : Except ε α) :
    Read method (x.mapError fun e => .undecodable method (reason e)) := by
  cases x with
  | error e => exact .undecodable (reason e)
  | ok a => exact .value a

theorem read_decode (codec : Codec α) (answer : Json) : Read method (decode method codec answer) :=
  read_mapError JsonError.message (codec.decode answer)

theorem read_narrow (field : String) (q : UInt256) :
    Read method (ReportedTransaction.narrow method field q) := by
  rw [ReportedTransaction.narrow]
  split
  · exact .value _
  · exact .undecodable _

/-- A report that is no signed transaction is a wrong answer too. -/
theorem read_toSigned (t : ReportedTransaction) : Read method (t.toSigned method) := by
  have hunsigned : Read method (ReportedTransaction.toSigned.unsigned method) := .undecodable _
  rw [ReportedTransaction.toSigned]
  split
  · split
    · exact hunsigned
    · split
      · exact .undecodable _
      · -- the fields that are too wide or malformed are reported with the method, one after the
        -- other
        refine (read_narrow "nonce" _).bind fun nonce => (read_narrow "gas" _).bind fun gas => ?_
        refine (read_mapError EncodingError.message _).bind fun data => ?_
        exact (read_narrow "v" _).bind fun v => .value _
  · exact hunsigned

/-- The policy for answers: `null` has the meaning that `absence` says, and any other answer is a
value or an error that names the method. -/
structure Treats (read : Json → Except GatewayError α) (method : String) (absence : Absence α) :
    Prop where
  absent : absence.Fits method (read .null)
  present : ∀ answer, answer ≠ .null → Read method (read answer)

/-- Where `null` is refused like any other answer of the wrong kind, it takes no part of its own. -/
theorem treats_refused {read : Json → Except GatewayError α}
    (hread : ∀ answer, Read method (read answer)) (hnull : ∀ a, read .null ≠ .ok a) :
    Treats read method .refused where
  absent := by
    cases hresult : read .null with
    | ok a => exact absurd hresult (hnull a)
    | error e =>
      have hnone := hread .null
      rw [hresult] at hnone
      cases hnone with
      | undecodable reason => exact ⟨reason, rfl⟩
  present answer _ := hread answer

theorem treats_decode {codec : Codec α} (hnull : ∀ a, codec.decode .null ≠ .ok a) :
    Treats (decode method codec) method .refused := by
  refine treats_refused (read_decode codec) fun a h => hnull a ?_
  exact Except.mapError_eq_ok_iff.1 h

theorem treats_decodeUInt64 : Treats (decodeUInt64 method) method .refused := by
  refine treats_refused (fun answer => ?_) nofun
  exact (read_decode .string answer).bind fun text =>
    read_mapError EncodingError.message (Hex.parseUInt64 text)

theorem treats_decodeDecimal : Treats (decodeDecimal method) method .refused := by
  refine treats_refused (fun answer => (read_decode .string answer).bind fun text => ?_) nofun
  split
  · exact .value _
  · exact .undecodable _

/-- What is present is read like anything else. -/
theorem read_decodePresent (what : String) (codec : Codec α) {answer : Json}
    (h : answer ≠ .null) : Read method (decodePresent method what codec answer) := by
  rw [decodePresent]
  · exact read_decode codec answer
  · exact h

/-- Where `null` stands for what does not exist, it is not found. -/
theorem treats_decodePresent (what : String) (codec : Codec α) :
    Treats (decodePresent method what codec) method (.missing what) where
  absent := rfl
  present _ h := read_decodePresent what codec h

/-- Where `null` stands for nothing to list, the empty value is read. -/
theorem treats_decodeOrEmpty (codec : Codec α) (empty : α) :
    Treats (decodeOrEmpty method codec empty) method (.none empty) where
  absent := rfl
  present answer h := by
    rw [decodeOrEmpty]
    · exact read_decode codec answer
    · exact h

/-- An attempt that makes one call and treats the answer by the policy. -/
def Poses (attempt : Attempt GatewayError α) (call : Call) (absence : Absence α) : Prop :=
  ∃ read, attempt = ask call.method call.params read
    ∧ Treats (read call.method) call.method absence

end Ask

/-! ## All questions

Every question is one of these ways to read with a call of its own, and one of them goes on from
what was read. That the way follows the policy which the question is said to have is shown question
by question. -/

namespace Question

variable {α σ : Type}

open Ask

/-- Every question makes its call, and treats the answer by the policy. -/
theorem poses (q : Question α) : Poses q.ask q.call q.absence := by
  cases q with
  | chainId | blockNumber | pendingNonce => exact ⟨_, rfl, treats_decodeUInt64⟩
  | networkId => exact ⟨_, rfl, treats_decodeDecimal⟩
  | gasPrice | balance | sendRaw =>
    simp only [ask, Ask.gasPrice, Ask.balance, Ask.balanceAt, Ask.sendRaw]
    refine ⟨_, rfl, ?_⟩
    exact treats_decode nofun
  | balanceAt _ block =>
    -- the call names the state in its own way for each kind of state
    have hread : Treats (decode "eth_getBalance" .quantity) "eth_getBalance" .refused :=
      treats_decode nofun
    cases block with
    | latest | earliest | pending | height =>
      exact ⟨fun method => decode method .quantity, rfl, hread⟩
  | receipt | accountInfo | validators | beneficiaries =>
    simp only [ask, Ask.receipt, Ask.accountInfo, Ask.validators, Ask.beneficiaries]
    refine ⟨_, rfl, ?_⟩
    exact treats_decodePresent _ _
  | minerProxies | activePool =>
    simp only [ask, Ask.minerProxies, Ask.activePool]
    refine ⟨_, rfl, ?_⟩
    exact treats_decodeOrEmpty _ _
  | transactionInBlock =>
    rw [ask, Ask.transactionInBlock]
    refine ⟨_, rfl, ?_⟩
    -- what is found has yet to be a signed transaction
    refine ⟨rfl, fun answer h => ?_⟩
    exact (read_decodePresent _ _ h).bind fun t => read_toSigned t

end Question

/-! ## What a client makes of it

A client changes no value and takes no second call; it only sorts the errors. What is not found
stays apart from everything else that can go wrong. -/

/-- Whether a result is sorted as a client does it: values stay, what is not found stays that, and
all other errors but those of signatures are remote ones. -/
structure Client.Sorts {α : Type} (result : Except GatewayError α)
    (sorted : Except ClientError α) : Prop where
  value : ∀ a, sorted = .ok a ↔ result = .ok a
  notFound : ∀ what, sorted = .error (.notFound what) ↔ result = .error (.notFound what)
  remote : ∀ e, result = .error e → (∀ what, e ≠ .notFound what) → (∀ cause, e ≠ .signing cause) →
    sorted = .error (.remote e)

/-- A problem with a signature is never taken for something that was not found. -/
theorem ClientError.ofCrypto_ne_notFound (cause : CryptoError) (what : String) :
    ofCrypto cause ≠ notFound what := by
  cases cause <;> nofun

/-- The errors are sorted as they should be. -/
theorem Client.sorts_mapError {α : Type} (result : Except GatewayError α) :
    Sorts result (result.mapError ClientError.ofGateway) where
  value _ := Except.mapError_eq_ok_iff
  notFound what := by
    cases result with
    | ok a => constructor <;> (intro h; cases h)
    | error e =>
      show Except.error (ClientError.ofGateway e) = .error (.notFound what) ↔ _
      -- of the five kinds of errors only one is not found
      cases e with
      | notFound other =>
        constructor
        · intro h
          cases h
          rfl
        · intro h
          cases h
          rfl
      | signing cause =>
        constructor
        · exact fun h => absurd (Except.error.inj h) (ClientError.ofCrypto_ne_notFound cause what)
        · intro h
          cases h
      | rejected | transport | undecodable => constructor <;> (intro h; cases h)
  remote e he hfound hsigning := by
    rw [he]
    cases e with
    | notFound what => exact absurd rfl (hfound what)
    | signing cause => exact absurd rfl (hsigning cause)
    | rejected | transport | undecodable => rfl

/-- A question is one call with its own method and parameters, whatever the node answers. An error
of the call is the result. For `null` the result is what that means for the question. Any other
answer is a value or an error that names the method. And a client that asks makes the same call and
sorts the result. -/
theorem Question.plays_and_sorts {α σ : Type} (q : Question α) (g : Gateway σ) (start : σ) :
    ∃ result sorted,
      q.ask.Plays g start [⟨q.call, (g.invoke q.call.method q.call.params start).1⟩] result
          (g.invoke q.call.method q.call.params start).2
        ∧ (∀ e, (g.invoke q.call.method q.call.params start).1 = .error e → result = .error e)
        ∧ ((g.invoke q.call.method q.call.params start).1 = .ok .null →
          q.absence.Fits q.call.method result)
        ∧ (∀ answer, (g.invoke q.call.method q.call.params start).1 = .ok answer →
          answer ≠ .null → Ask.Read q.call.method result)
        ∧ (Client.query q.ask).Plays g start
          [⟨q.call, (g.invoke q.call.method q.call.params start).1⟩] sorted
          (g.invoke q.call.method q.call.params start).2
        ∧ Client.Sorts result sorted := by
  -- every question is one call and one way to read its answer
  obtain ⟨read, hask, htreats⟩ := q.poses
  have hplays := Ask.plays_ask g q.call.method q.call.params read start
  rw [← hask] at hplays
  refine ⟨_, _, hplays, fun e he => ?_, fun hnull => ?_, fun answer hanswer hpresent => ?_,
    hplays.mapError ClientError.ofGateway, Client.sorts_mapError _⟩
  · rw [he]
    rfl
  · rw [hnull]
    exact htreats.absent
  · rw [hanswer]
    exact htreats.present answer hpresent

/-- A node that answers `null` to everything. -/
def Gateway.blank : Gateway Unit where
  invoke _ _ state := (.ok .null, state)

/-- The receipt of a transaction that waits is not found, and a price that is missing is a wrong
answer. -/
theorem Question.plays_and_sorts_blank :
    (Client.query (Ask.receipt (.ofNat 32 0x2a))).outcome Gateway.blank ()
        = .error (.notFound ("receipt " ++ FixedBytes.text (.ofNat 32 0x2a)))
      ∧ ∃ reason, (Client.query Ask.gasPrice).outcome Gateway.blank ()
        = .error (.remote (.undecodable "eth_gasPrice" reason)) := by
  obtain ⟨receipt, sorted, -, -, hnull, -, hplays, hsorts⟩ :=
    plays_and_sorts (.receipt (.ofNat 32 0x2a)) Gateway.blank ()
  obtain ⟨price, sortedPrice, -, -, hnone, -, hplaysPrice, hsortsPrice⟩ :=
    plays_and_sorts .gasPrice Gateway.blank ()
  constructor
  · exact hplays.outcome_eq.trans ((hsorts.notFound _).2 (hnull rfl))
  · obtain ⟨reason, hreason⟩ := hnone rfl
    exact ⟨reason, hplaysPrice.outcome_eq.trans (hsortsPrice.remote _ hreason nofun nofun)⟩

end NftExchange
