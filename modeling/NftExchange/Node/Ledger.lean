import NftExchange.Table
import NftExchange.Word

/-!
# Ledgers

The balance and the nonce of every account, each in a table of its own. Accounts that were never
written have nothing and have sent nothing, and looking at them adds no row. `get_setBalance` and
`get_setNonce` say what an update changes.
-/

namespace NftExchange

/-- What a ledger keeps of an account. -/
structure Account where
  balance : UInt256 := 0
  /-- How many transactions the account has sent. -/
  nonce : UInt64 := 0
deriving DecidableEq

/-- The accounts that were written. -/
structure Ledger where
  balances : Table Address UInt256 := {}
  nonces : Table Address UInt64 := {}

namespace Ledger

/-- The account at an address. -/
def get (ledger : Ledger) (address : Address) : Account where
  balance := (ledger.balances.get? address).getD 0
  nonce := (ledger.nonces.get? address).getD 0

/-- Writes the balance of an account. -/
def setBalance (ledger : Ledger) (address : Address) (balance : UInt256) : Ledger :=
  { ledger with balances := ledger.balances.insert address balance }

/-- Writes the nonce of an account. -/
def setNonce (ledger : Ledger) (address : Address) (nonce : UInt64) : Ledger :=
  { ledger with nonces := ledger.nonces.insert address nonce }

theorem get_setBalance (ledger : Ledger) (address other : Address) (balance : UInt256) :
    (ledger.setBalance address balance).get other =
      if other = address then { ledger.get address with balance } else ledger.get other := by
  simp only [get, setBalance, Table.get?_insert]
  split
  · rename_i heq
    rw [heq]
    rfl
  · rfl

theorem get_setNonce (ledger : Ledger) (address other : Address) (nonce : UInt64) :
    (ledger.setNonce address nonce).get other =
      if other = address then { ledger.get address with nonce } else ledger.get other := by
  simp only [get, setNonce, Table.get?_insert]
  split
  · rename_i heq
    rw [heq]
    rfl
  · rfl

/-- Adds to the balance of an account, up to the largest word. -/
def credit (ledger : Ledger) (address : Address) (amount : UInt256) : Ledger :=
  ledger.setBalance address ((ledger.get address).balance.saturatingAdd amount)

/-- Takes an amount from the balance of an account, which has to be large enough. -/
def debit (ledger : Ledger) (address : Address) (amount : UInt256) : Ledger :=
  ledger.setBalance address ((ledger.get address).balance - amount)

/-- Moves an amount between two accounts; within one account nothing moves. -/
def transfer (ledger : Ledger) (sender recipient : Address) (amount : UInt256) : Ledger :=
  if recipient = sender then ledger else (ledger.debit sender amount).credit recipient amount

/-- Counts one more transaction of an account. -/
def countNonce (ledger : Ledger) (address : Address) : Ledger :=
  ledger.setNonce address ((ledger.get address).nonce + 1)

end Ledger

end NftExchange
