import NftExchange.Proofs.Node.Shared

/-!
# Conservation

Nothing makes or destroys an amount but giving one to an account. Both additions of a ledger stop
at the largest word, so this holds as long as everything that was ever given fits in a word: then
a balance and what is added to it are both part of a total that fits.

* **`total_setBalance`** — what one write does to the total;
* **`total_transfer`** — a covered transfer keeps the total;
* **`conserves`** — in every run the balances sum up to what was given, and every accepted
  transaction moves its value.
-/

namespace NftExchange

/-- A sum that fits does not saturate. -/
theorem UInt256.toNat_saturatingAdd {a b : UInt256} (h : a.toNat + b.toNat < 2 ^ 256) :
    (a.saturatingAdd b).toNat = a.toNat + b.toNat := by
  have hfits : a.toNat + b.toNat < Bytes.capacity 32 := h
  rw [saturatingAdd, ofNat?, if_pos hfits, Option.getD_some, toNat_ofNat hfits]

theorem UInt256.toNat_sub_add {a b : UInt256} (h : b ≤ a) : (a - b).toNat + b.toNat = a.toNat := by
  rw [BitVec.toNat_sub_of_le h]
  exact Nat.sub_add_cancel h

instance (width : Nat) : Finite (FixedBytes width) := by
  have hbytes : Finite {bytes : Bytes // bytes.length = width} := List.finite_length_eq UInt8 width
  refine Finite.of_injective (fun a => ⟨a.toBytes, a.length_toBytes⟩ :
    FixedBytes width → {bytes : Bytes // bytes.length = width}) fun a b heq => ?_
  exact FixedBytes.ext (congrArg Subtype.val heq)

noncomputable instance (width : Nat) : Fintype (FixedBytes width) := Fintype.ofFinite _

namespace Ledger

/-! ## The total of a ledger

The total is the sum of the balances over all addresses. It is bounded by assumption wherever money
is added, so no credit saturates, and a debit is made only where the balance covers it. -/

/-- What all accounts have together. -/
noncomputable def total (ledger : Ledger) : Nat :=
  ∑ account : Address, (ledger.get account).balance.toNat

variable {ledger : Ledger} {address : Address} {amount : UInt256}

/-- No account holds more than the total. -/
theorem balance_le_total (ledger : Ledger) (address : Address) :
    (ledger.get address).balance.toNat ≤ ledger.total := by
  rw [total]
  exact Finset.single_le_sum (f := fun account => (ledger.get account).balance.toNat)
    (fun _ _ => Nat.zero_le _) (Finset.mem_univ address)

/-- Writing a balance changes the total by what is written less what it replaces. -/
theorem total_setBalance (ledger : Ledger) (address : Address) (balance : UInt256) :
    (ledger.setBalance address balance).total + (ledger.get address).balance.toNat
      = ledger.total + balance.toNat := by
  have hwritten : ((ledger.setBalance address balance).get address).balance = balance := by
    rw [get_setBalance, if_pos rfl]
  have hrest : ∀ account ∈ Finset.univ.erase address,
      ((ledger.setBalance address balance).get account).balance.toNat
        = (ledger.get account).balance.toNat := by
    intro account haccount
    rw [get_setBalance, if_neg (Finset.ne_of_mem_erase haccount)]
  -- both totals are one summand and the same rest
  have hbefore := Finset.add_sum_erase Finset.univ
    (fun account => (ledger.get account).balance.toNat) (Finset.mem_univ address)
  have hafter := Finset.add_sum_erase Finset.univ
    (fun account => ((ledger.setBalance address balance).get account).balance.toNat)
    (Finset.mem_univ address)
  rw [Finset.sum_congr rfl hrest] at hafter
  simp only [hwritten] at hafter
  rw [total, total]
  omega

/-- An amount is added without loss if it fits into a word with all that there is. -/
theorem toNat_balance_add (address : Address) (h : ledger.total + amount.toNat < 2 ^ 256) :
    ((ledger.get address).balance.saturatingAdd amount).toNat
      = (ledger.get address).balance.toNat + amount.toNat := by
  have hle := ledger.balance_le_total address
  exact UInt256.toNat_saturatingAdd (by omega)

/-- A credit adds its amount to the total. -/
theorem total_credit (h : ledger.total + amount.toNat < 2 ^ 256) :
    (ledger.credit address amount).total = ledger.total + amount.toNat := by
  have hadd := toNat_balance_add address h
  have hwrite := ledger.total_setBalance address
    ((ledger.get address).balance.saturatingAdd amount)
  rw [credit]
  omega

/-- A debit takes its amount off the total. -/
theorem total_debit (h : amount ≤ (ledger.get address).balance) :
    (ledger.debit address amount).total + amount.toNat = ledger.total := by
  have hsub := UInt256.toNat_sub_add h
  have hwrite := ledger.total_setBalance address ((ledger.get address).balance - amount)
  rw [debit]
  omega

/-- What was taken from one account fits on any other. -/
theorem total_debit_add_lt (h : amount ≤ (ledger.get address).balance)
    (hfits : ledger.total < 2 ^ 256) :
    (ledger.debit address amount).total + amount.toNat < 2 ^ 256 := by
  rw [total_debit h]
  exact hfits

/-- A transfer between two accounts is a debit and a credit. -/
theorem transfer_of_ne {recipient : Address} (h : recipient ≠ address) :
    ledger.transfer address recipient amount
      = (ledger.debit address amount).credit recipient amount := if_neg h

/-- A transfer leaves the total as it is, also one from an account to itself. -/
theorem total_transfer (recipient : Address) (h : amount ≤ (ledger.get address).balance)
    (hfits : ledger.total < 2 ^ 256) :
    (ledger.transfer address recipient amount).total = ledger.total := by
  rw [transfer]
  split
  · rfl
  · rw [total_credit (total_debit_add_lt h hfits)]
    exact total_debit h

theorem balance_countNonce (ledger : Ledger) (address other : Address) :
    ((ledger.countNonce address).get other).balance = (ledger.get other).balance := rfl

end Ledger

namespace Node

/-- What an event gives to an account. -/
def Event.amount : Event → Nat
  | .fund _ amount => amount.toNat
  | _ => 0

/-- What all events give together. -/
def funded (events : List Event) : Nat := (events.map Event.amount).sum

theorem total_fresh : fresh.ledger.total = 0 := Finset.sum_eq_zero fun _ _ => rfl

section Schemes

variable [SignatureScheme] {node : Node} {e : Executed}

/-! ## One transaction

What an entry of a transaction does to the balances: the sender pays the value, the recipient
receives it, and no other account changes. -/

/-- The value of a transaction was paid: the sender had it, and it is now the recipient's. -/
structure Paid (node next : Node) (e : Executed) : Prop where
  covered : e.transaction.value ≤ (node.ledger.get e.sender).balance
  taken : e.transaction.recipient ≠ e.sender →
    (next.ledger.get e.sender).balance.toNat + e.transaction.value.toNat
      = (node.ledger.get e.sender).balance.toNat
  given : e.transaction.recipient ≠ e.sender →
    (next.ledger.get e.transaction.recipient).balance.toNat
      = (node.ledger.get e.transaction.recipient).balance.toNat + e.transaction.value.toNat
  within : e.transaction.recipient = e.sender →
    (next.ledger.get e.sender).balance = (node.ledger.get e.sender).balance
  others : ∀ account, account ≠ e.sender → account ≠ e.transaction.recipient →
    (next.ledger.get account).balance = (node.ledger.get account).balance

/-- What is recorded was paid, if all that there is fits in a word. -/
theorem Accepts.paid (h : node.Accepts e) (hfits : node.ledger.total < 2 ^ 256) :
    Paid node (node.record e) e where
  covered := h.funds
  taken hne := by
    rw [record, Ledger.balance_countNonce, Ledger.transfer_of_ne hne, Ledger.get_credit,
      if_neg (Ne.symm hne), Ledger.get_debit, if_pos rfl]
    exact UInt256.toNat_sub_add h.funds
  -- the recipient was not debited, and has room for what it gets
  given hne := by
    have hother : (node.ledger.debit e.sender e.transaction.value).get e.transaction.recipient
        = node.ledger.get e.transaction.recipient := by
      rw [Ledger.get_debit, if_neg hne]
    rw [record, Ledger.balance_countNonce, Ledger.transfer_of_ne hne, Ledger.get_credit, if_pos rfl,
      ← hother]
    exact Ledger.toNat_balance_add _ (Ledger.total_debit_add_lt h.funds hfits)
  within heq := by
    rw [record, Ledger.balance_countNonce, Ledger.transfer, if_pos heq]
  others account hsender hrecipient := by
    rw [record, Ledger.balance_countNonce, Ledger.transfer]
    split
    · rfl
    · rw [Ledger.get_credit, if_neg hrecipient, Ledger.get_debit, if_neg hsender]

/-! ## Any number of events

The total after a run is what was funded in it, by induction on the events. Funding adds its amount,
mining and refused calls add nothing, and an entered transaction moves money without changing the
sum. -/

/-- One event changes the total by the amount it funds. -/
theorem total_after (event : Event) (hfits : node.ledger.total + event.amount < 2 ^ 256) :
    (node.after event).ledger.total = node.ledger.total + event.amount := by
  cases event with
  | fund account amount => exact Ledger.total_credit hfits
  | mine => rfl
  | invoke method params =>
    rcases node.after_invoke_cases method params with hsame | ⟨raw, e, hexamine, hafter⟩
    · rw [hsame]
      rfl
    · rw [hafter]
      exact Ledger.total_transfer _ (examine_eq_ok_iff.1 hexamine).2.funds hfits

/-- A run changes the total by all it funds. -/
theorem total_afterAll (events : List Event) (hfits : node.ledger.total + funded events < 2 ^ 256) :
    (node.afterAll events).ledger.total = node.ledger.total + funded events := by
  -- the bound on what is still to be funded is split off event by event
  induction events generalizing node with
  | nil => rfl
  | cons event events ih =>
    have hsum : funded (event :: events) = event.amount + funded events := rfl
    have hstep : (node.after event).ledger.total = node.ledger.total + event.amount :=
      total_after event (by omega)
    have hrest : ((node.after event).afterAll events).ledger.total
        = (node.after event).ledger.total + funded events := ih (by omega)
    have hafter : node.afterAll (event :: events) = (node.after event).afterAll events := rfl
    rw [hafter, hrest]
    omega

/-- In a run that is given less than the range of a word, the balances always sum up to what was
given so far. Whatever is sent, either it is refused and nothing happens, or it was read as a
transaction whose value is paid, which its sender has. -/
theorem conserves (events : List Event) (hfits : funded events < 2 ^ 256) :
    let node := fresh.afterAll events
    ∑ account : Address, (node.ledger.get account).balance.toNat = funded events
      ∧ ∀ params, (∃ failure, invoke "eth_sendRawTransaction" params node = (.error failure, node))
        ∨ ∃ raw e next, sentBytes params = .ok raw
          ∧ SignedTransaction.decode raw = .ok e.transaction
          ∧ e.transaction.sender = .ok e.sender
          ∧ invoke "eth_sendRawTransaction" params node = (.ok (.str e.transaction.hash.text), next)
          ∧ next.executed = node.executed ++ [e] ∧ Paid node next e := by
  intro node
  have htotal : node.ledger.total = funded events := by
    have hall : node.ledger.total = fresh.ledger.total + funded events :=
      total_afterAll events (by rw [total_fresh]; omega)
    rw [hall, total_fresh, Nat.zero_add]
  refine ⟨htotal, fun params => ?_⟩
  have hlt : node.ledger.total < 2 ^ 256 := by omega
  -- a call is refused, or it makes one record
  rcases node.invoke_sendRaw_cases params with hrefused | ⟨raw, e, hsent, hexamine, hinvoke⟩
  · exact .inl hrefused
  · obtain ⟨hdecode, haccepts⟩ := examine_eq_ok_iff.1 hexamine
    exact .inr ⟨raw, e, node.record e, hsent, hdecode, haccepts.sender, hinvoke, rfl,
      haccepts.paid hlt⟩

end Schemes

/-- The key of the examples is given an amount and sends a part of it to another account. -/
theorem conserves_transfer :
    letI := Guarded.scheme
    let sender := Guarded.key.address
    let gift := Event.fund sender 0x38D7EA4C68000
    ∃ (t : SignedTransaction) (next : Node),
      next = fresh.afterAll [gift, .invoke "eth_sendRawTransaction" [.str (Hex.marked t.raw)]]
        ∧ t.recipient ≠ sender
        ∧ (next.ledger.get sender).balance.toNat + 1000000000 = 0x38D7EA4C68000
        ∧ (next.ledger.get t.recipient).balance.toNat = 1000000000
        ∧ ∑ account : Address, (next.ledger.get account).balance.toNat = 0x38D7EA4C68000 := by
  let _ : SignatureScheme := Guarded.scheme
  intro sender gift
  -- some address differs from that of the sender, whichever that is
  obtain ⟨recipient, hne⟩ : ∃ recipient : Address, recipient ≠ sender := by
    by_cases hzero : FixedBytes.zero 20 = sender
    · exact ⟨.ofNat 20 1, fun heq => absurd (hzero.trans heq.symm) (by decide)⟩
    · exact ⟨.zero 20, hzero⟩
  obtain ⟨t, rfl, hvalue, hexamine⟩ := exists_examine_transfer recipient
  -- from here on the general theorem is applied twice, before and after the transfer
  let sending := Event.invoke "eth_sendRawTransaction" [.str (Hex.marked t.raw)]
  have hgift : funded [gift] = 0x38D7EA4C68000 := by simp [funded, gift, Event.amount]
  have hboth : funded [gift, sending] = 0x38D7EA4C68000 := by
    simp [funded, gift, sending, Event.amount]
  obtain ⟨-, hcalls⟩ := conserves [gift] (by omega)
  obtain ⟨hsum, -⟩ := conserves [gift, sending] (by omega)
  rw [hboth] at hsum
  rcases hcalls [.str (Hex.marked t.raw)] with ⟨failure, hfailure⟩ | ⟨raw, e, next, -, -, -,
    hinvoke, hexecuted, hpaid⟩
  · cases (invoke_sendRaw hexamine).symm.trans hfailure
  · -- the entry that was made is that of the transaction
    have hrecord : (fresh.fund sender 0x38D7EA4C68000).record ⟨0x671, sender, t, none, []⟩ = next :=
      congrArg Prod.snd ((invoke_sendRaw hexamine).symm.trans hinvoke)
    subst hrecord
    obtain rfl : ⟨0x671, sender, t, none, []⟩ = e := (List.cons.inj hexecuted).1
    have hvalue' : t.value.toNat = 1000000000 := by
      rw [hvalue]
      rfl
    have hbefore : ((fresh.fund sender 0x38D7EA4C68000).ledger.get sender).balance.toNat
        = 0x38D7EA4C68000 := by
      rw [get_fund_fresh]
      rfl
    have hempty : ((fresh.fund sender 0x38D7EA4C68000).ledger.get t.recipient).balance.toNat
        = 0 := by
      rw [fund, Ledger.get_credit, if_neg hne]
      rfl
    have htaken := hpaid.taken hne
    have hgiven := hpaid.given hne
    have hnext : fresh.afterAll [gift, sending]
        = (fresh.fund sender 0x38D7EA4C68000).record ⟨0x671, sender, t, none, []⟩ :=
      congrArg Prod.snd (invoke_sendRaw hexamine)
    refine ⟨t, _, hnext.symm, hne, ?_, ?_, hnext ▸ hsum⟩
    · rw [← hvalue']
      exact htaken.trans hbefore
    · rw [hgiven]
      show _ + t.value.toNat = _
      rw [hvalue']
      exact congrArg (· + 1000000000) hempty

end Node

end NftExchange
