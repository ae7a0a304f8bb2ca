import NftExchange.Gateway.Error
import NftExchange.Json.Value

/-!
# Sessions

A `Session` is a computation that asks a node: it is done with a result, or it calls a method and
goes on with the node's answer, whatever that is. A session decides nothing about the node; a
`Gateway` answers its calls out of a state. `run` plays a session against a gateway, and
`Gateway.recorded` keeps the calls that were made.
-/

namespace NftExchange

/-- What a node answers to a call. -/
abbrev Answer := Except GatewayError Json

/-- A computation that calls methods of a node. -/
inductive Session (α : Type) where
  | done (result : α)
  | invoke (method : String) (params : List Json) (next : Answer → Session α)

namespace Session

variable {α β σ : Type}

/-- Goes on with a second session after the first. -/
def bind : Session α → (α → Session β) → Session β
  | done a, f => f a
  | invoke method params next, f => invoke method params fun answer => (next answer).bind f

instance : Monad Session where
  pure := done
  bind := bind

@[simp] theorem done_bind (a : α) (f : α → Session β) : (done a).bind f = f a := rfl

@[simp] theorem bind_done (s : Session α) : s.bind done = s := by
  induction s with
  | done a => rfl
  | invoke method params next ih =>
    simp only [bind]
    exact congrArg _ (funext ih)

theorem bind_assoc {γ : Type} (s : Session α) (f : α → Session β) (g : β → Session γ) :
    (s.bind f).bind g = s.bind fun a => (f a).bind g := by
  induction s with
  | done a => rfl
  | invoke method params next ih =>
    simp only [bind]
    exact congrArg _ (funext ih)

end Session

/-- A node that answers calls out of a state of type `σ`. -/
structure Gateway (σ : Type) where
  invoke : (method : String) → (params : List Json) → σ → Answer × σ

/-- A method with its parameters. -/
structure Call where
  method : String
  params : List Json

namespace Gateway

variable {σ : Type}

/-- The same node, which also keeps the calls that are made, latest first. -/
def recorded (g : Gateway σ) : Gateway (σ × List Call) where
  invoke method params state :=
    let (answer, next) := g.invoke method params state.1
    (answer, next, ⟨method, params⟩ :: state.2)

end Gateway

namespace Session

variable {α σ : Type}

/-- Plays a session against a gateway. -/
def run (g : Gateway σ) : Session α → σ → α × σ
  | done a, state => (a, state)
  | invoke method params next, state =>
    let (answer, state) := g.invoke method params state
    (next answer).run g state

end Session

/-- A session that can fail with an error of type `ε`. -/
abbrev Attempt (ε α : Type) := ExceptT ε Session α

namespace Attempt

variable {ε ε' α : Type}

/-- Goes on with a result that is already there. -/
def ofExcept (result : Except ε α) : Attempt ε α := ExceptT.mk (.done result)

/-- The same attempt with its errors turned into errors of another type. -/
def mapError (f : ε → ε') (attempt : Attempt ε α) : Attempt ε' α :=
  ExceptT.mk (attempt.run.bind fun result => .done (result.mapError f))

/-- Calls a method. -/
def call (method : String) (params : List Json) : Attempt GatewayError Json :=
  ExceptT.mk (.invoke method params .done)

end Attempt

end NftExchange
