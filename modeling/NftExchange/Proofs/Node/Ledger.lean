import Mathlib
import NftExchange.Node.Basic
import NftExchange.Proofs.BigEndian

/-!
# What an account keeps

Amounts that move change balances and no nonce. Nothing takes from the balance of an account but
its own transactions, and nothing else counts its nonce up.

* **`get_fund`** — an amount that an account is given;
* **`account_record_of_ne`** and **`nonce_record`** — what the transaction of another account
  leaves of an account, and what its own does.
-/

namespace NftExchange

/-- A saturating sum is no smaller than its first part. -/
theorem UInt256.le_saturatingAdd (a b : UInt256) : a ≤ a.saturatingAdd b := by
  rw [BitVec.le_def, saturatingAdd, ofNat?]
  split
  · rename_i hfits
    rw [Option.getD_some, toNat_ofNat hfits]
    exact Nat.le_add_right _ _
  · rw [Option.getD_none, BitVec.toNat_allOnes]
    have hlt := a.isLt
    omega

namespace Ledger

variable (ledger : Ledger) (address other : Address) (amount : UInt256)

theorem get_credit : (ledger.credit address amount).get other =
    if other = address then
      { ledger.get address with balance := (ledger.get address).balance.saturatingAdd amount }
    else ledger.get other :=
  get_setBalance ledger address other _

theorem get_debit : (ledger.debit address amount).get other =
    if other = address then
      { ledger.get address with balance := (ledger.get address).balance - amount }
    else ledger.get other :=
  get_setBalance ledger address other _

theorem get_countNonce : (ledger.countNonce address).get other =
    if other = address then
      { ledger.get address with nonce := (ledger.get address).nonce + 1 }
    else ledger.get other :=
  get_setNonce ledger address other _

theorem nonce_credit :
    ((ledger.credit address amount).get other).nonce = (ledger.get other).nonce := by
  rw [get_credit]
  split
  · rename_i heq
    rw [heq]
  · rfl

theorem nonce_debit :
    ((ledger.debit address amount).get other).nonce = (ledger.get other).nonce := by
  rw [get_debit]
  split
  · rename_i heq
    rw [heq]
  · rfl

/-- A transfer leaves every nonce as it is. -/
theorem nonce_transfer (sender recipient : Address) :
    ((ledger.transfer sender recipient amount).get other).nonce = (ledger.get other).nonce := by
  rw [transfer]
  split
  · rfl
  · rw [nonce_credit, nonce_debit]

/-- A credit makes no account poorer. -/
theorem balance_le_credit :
    (ledger.get other).balance ≤ ((ledger.credit address amount).get other).balance := by
  rw [get_credit]
  split
  · rename_i heq
    rw [heq]
    exact UInt256.le_saturatingAdd _ _
  · exact BitVec.le_refl _

/-- A transfer makes nobody poorer but the sender. -/
theorem balance_le_transfer {sender recipient : Address} (hother : other ≠ sender) :
    (ledger.get other).balance
      ≤ ((ledger.transfer sender recipient amount).get other).balance := by
  rw [transfer]
  split
  · exact BitVec.le_refl _
  · have hdebit : (ledger.debit sender amount).get other = ledger.get other := by
      rw [get_debit, if_neg hother]
    rw [← hdebit]
    exact balance_le_credit _ recipient other amount

end Ledger

namespace Node

theorem get_fund (node : Node) (account : Address) (amount : UInt256) :
    (node.fund account amount).ledger.get account = { node.ledger.get account with
      balance := (node.ledger.get account).balance.saturatingAdd amount } := by
  rw [fund, Ledger.get_credit, if_pos rfl]

/-- The transaction of another account leaves the nonce of an account, and takes nothing. -/
theorem account_record_of_ne (node : Node) {e : Executed} {account : Address}
    (h : e.sender ≠ account) :
    ((node.record e).ledger.get account).nonce = (node.ledger.get account).nonce
      ∧ (node.ledger.get account).balance ≤ ((node.record e).ledger.get account).balance := by
  have hother : account ≠ e.sender := Ne.symm h
  rw [record, Ledger.get_countNonce, if_neg hother]
  exact ⟨Ledger.nonce_transfer .., Ledger.balance_le_transfer _ _ _ hother⟩

/-- A record counts one nonce of its sender. -/
theorem nonce_record (node : Node) {e : Executed} {account : Address} (h : e.sender = account) :
    ((node.record e).ledger.get account).nonce = (node.ledger.get account).nonce + 1 := by
  rw [record, Ledger.get_countNonce, if_pos h.symm, Ledger.nonce_transfer, h]

end Node

end NftExchange
