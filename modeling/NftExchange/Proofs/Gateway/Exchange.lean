import NftExchange.Gateway.Ask

/-!
# What passes between a session and a gateway

A session that is played against a gateway leaves a log of exchanges: each call that it made, with
its answer. `Attempt.Plays` says how an attempt runs: from which state of the gateway to which, with
which exchanges and which result. Runs of the parts of an attempt are put together by the lemmas
here, so no proof has to unfold a whole session.

* **`Session.run_recorded`** — the calls that a recording gateway keeps are those of the log;
* **`Attempt.Plays.bind_ok`** and **`bind_error`** — an attempt goes on after a result, and ends
  with an error;
* **`Ask.plays_ask`** — a question is one exchange.
-/

namespace NftExchange

/-- A call with its answer. -/
structure Exchange where
  call : Call
  answer : Answer

namespace Session

variable {α β σ : Type}

/-- The exchanges of a session that is played against a gateway, in order. -/
def exchanges (g : Gateway σ) : Session α → σ → List Exchange
  | done _, _ => []
  | invoke method params next, state =>
    let (answer, state) := g.invoke method params state
    ⟨⟨method, params⟩, answer⟩ :: (next answer).exchanges g state

variable (g : Gateway σ) (s : Session α) (f : α → Session β) (state : σ)

/-- A session with more to come runs on from where the first part stopped. -/
theorem run_bind : (s.bind f).run g state = (f (s.run g state).1).run g (s.run g state).2 := by
  induction s generalizing state with
  | done a => rfl
  | invoke method params next ih => exact ih _ _

/-- Its log is that of the first part and what comes after. -/
theorem exchanges_bind : (s.bind f).exchanges g state
    = s.exchanges g state ++ (f (s.run g state).1).exchanges g (s.run g state).2 := by
  induction s generalizing state with
  | done a => rfl
  | invoke method params next ih => exact congrArg _ (ih _ _)

/-- The calls that a recording gateway keeps are those of the log, and nothing else changes. -/
theorem run_recorded (calls : List Call) : s.run g.recorded (state, calls)
    = ((s.run g state).1, (s.run g state).2,
      ((s.exchanges g state).map Exchange.call).reverse ++ calls) := by
  induction s generalizing state calls with
  | done a => rfl
  | invoke method params next ih =>
    refine (ih _ _ _).trans ?_
    -- each call is put in front of those that are kept already
    rw [exchanges, List.map_cons, List.reverse_cons, List.append_assoc]
    rfl

end Session

namespace Attempt

variable {ε ε' α β σ : Type} {g : Gateway σ}

/-- The result of an attempt that is played against a gateway. -/
def outcome (g : Gateway σ) (attempt : Attempt ε α) (start : σ) : Except ε α :=
  (Session.run g attempt.run start).1

/-- The state in which an attempt leaves the gateway. -/
def final (g : Gateway σ) (attempt : Attempt ε α) (start : σ) : σ :=
  (Session.run g attempt.run start).2

/-- The exchanges of an attempt that is played against a gateway, in order. -/
def exchanges (g : Gateway σ) (attempt : Attempt ε α) (start : σ) : List Exchange :=
  Session.exchanges g attempt.run start

/-- Played against `g` from the state `start`, the attempt has the exchanges `log` and the result
`result`, and leaves the gateway in the state `stop`. -/
structure Plays (g : Gateway σ) (attempt : Attempt ε α) (start : σ) (log : List Exchange)
    (result : Except ε α) (stop : σ) : Prop where
  run_eq : Session.run g attempt.run start = (result, stop)
  exchanges_eq : attempt.exchanges g start = log

theorem Plays.outcome_eq {attempt : Attempt ε α} {start stop : σ} {log : List Exchange}
    {result : Except ε α} (h : attempt.Plays g start log result stop) :
    attempt.outcome g start = result := congrArg Prod.fst h.run_eq

theorem Plays.final_eq {attempt : Attempt ε α} {start stop : σ} {log : List Exchange}
    {result : Except ε α} (h : attempt.Plays g start log result stop) :
    attempt.final g start = stop := congrArg Prod.snd h.run_eq

/-! ## Putting runs together

A run of several steps is put together from the runs of the steps: the logs one after the other, up
to the first error. All that is said of longer attempts goes through these lemmas. -/

/-- One attempt after another is the session of the first with the second attached. -/
theorem run_bind_eq (attempt : Attempt ε α) (f : α → Attempt ε β) :
    (attempt >>= f).run = attempt.run.bind (ExceptT.bindCont f) := rfl

theorem plays_ofExcept (result : Except ε α) (start : σ) :
    (ofExcept result).Plays g start [] result start :=
  ⟨rfl, rfl⟩

theorem plays_pure (a : α) (start : σ) :
    (pure a : Attempt ε α).Plays g start [] (.ok a) start :=
  ⟨rfl, rfl⟩

/-- After a value the next step runs on from where the first stopped. -/
theorem Plays.bind_ok {attempt : Attempt ε α} {f : α → Attempt ε β} {start middle stop : σ}
    {before after : List Exchange} {a : α} {result : Except ε β}
    (h : attempt.Plays g start before (.ok a) middle)
    (hnext : (f a).Plays g middle after result stop) :
    (attempt >>= f).Plays g start (before ++ after) result stop := by
  constructor
  · rw [run_bind_eq, Session.run_bind, h.run_eq]
    exact hnext.run_eq
  · rw [exchanges, run_bind_eq, Session.exchanges_bind, h.run_eq, ← h.exchanges_eq,
      ← hnext.exchanges_eq]
    rfl

/-- After an error there is no next step. -/
theorem Plays.bind_error {attempt : Attempt ε α} {f : α → Attempt ε β} {start stop : σ}
    {log : List Exchange} {e : ε} (h : attempt.Plays g start log (.error e) stop) :
    (attempt >>= f).Plays g start log (.error e) stop := by
  constructor
  · rw [run_bind_eq, Session.run_bind, h.run_eq]
    rfl
  · rw [exchanges, run_bind_eq, Session.exchanges_bind, h.run_eq, ← h.exchanges_eq]
    exact List.append_nil _

/-- An attempt with a result had a result at each step. -/
theorem outcome_bind_eq_ok {attempt : Attempt ε α} {f : α → Attempt ε β} {start : σ} {b : β}
    (h : (attempt >>= f).outcome g start = .ok b) :
    ∃ a, attempt.outcome g start = .ok a ∧ (f a).outcome g (attempt.final g start) = .ok b := by
  rw [outcome, run_bind_eq, Session.run_bind] at h
  rw [outcome]
  cases hfirst : (Session.run g attempt.run start).1 with
  | error e =>
    rw [hfirst] at h
    cases h
  | ok a =>
    rw [hfirst] at h
    exact ⟨a, rfl, h⟩

/-- Errors are turned into others at the end. -/
theorem Plays.mapError {attempt : Attempt ε α} {start stop : σ} {log : List Exchange}
    {result : Except ε α} (h : attempt.Plays g start log result stop) (f : ε → ε') :
    (attempt.mapError f).Plays g start log (result.mapError f) stop := by
  have hmap : (attempt.mapError f).run
      = attempt.run.bind fun result => .done (result.mapError f) := rfl
  constructor
  · rw [hmap, Session.run_bind, h.run_eq]
    rfl
  · rw [exchanges, hmap, Session.exchanges_bind, ← h.exchanges_eq]
    exact List.append_nil _

end Attempt

/-! ## Questions

One call, and its answer read: what all attempts are made of. -/

/-- A question is one exchange, and its result is what the answer is read as. -/
theorem Ask.plays_ask {α σ : Type} (g : Gateway σ) (method : String) (params : List Json)
    (read : String → Json → Except GatewayError α) (start : σ) :
    (ask method params read).Plays g start
      [⟨⟨method, params⟩, (g.invoke method params start).1⟩]
      ((g.invoke method params start).1.bind (read method))
      (g.invoke method params start).2 := by
  have hcall : (Attempt.call method params).Plays g start
      [⟨⟨method, params⟩, (g.invoke method params start).1⟩] (g.invoke method params start).1
      (g.invoke method params start).2 := ⟨rfl, rfl⟩
  rw [ask]
  -- a failure is passed on, and an answer is read without another call
  cases hanswer : (g.invoke method params start).1 with
  | error e =>
    rw [hanswer] at hcall
    exact hcall.bind_error
  | ok value =>
    rw [hanswer] at hcall
    exact hcall.bind_ok (Attempt.plays_ofExcept _ _)

end NftExchange
