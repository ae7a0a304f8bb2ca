import NftExchange.Proofs.Node.Run

/-!
# Refused calls

A call that is answered with an error has written nothing, however far the checks got before one
of them failed, and calls that only look at the node never write.

* **`invoke_eq_self`** — such a call leaves the whole node as it was;
* **`examine_spares_nonce`** — no check but that of the nonce complains about it.
-/

namespace NftExchange.Node

section Schemes

variable [SignatureScheme]

/-- A call that fails leaves the node as it was, its tables included, and so does every call that
does not send a transaction. -/
theorem invoke_eq_self {node : Node} {method : String} {params : List Json}
    (h : (∃ e, (invoke method params node).1 = .error e) ∨ method ≠ "eth_sendRawTransaction") :
    (invoke method params node).2 = node := by
  rcases node.invoke_cases method params with hsame | ⟨raw, e, hmethod, -, -, hinvoke⟩
  · exact hsame
  · -- what was accepted was sent, and is not answered with an error
    rcases h with ⟨failure, herror⟩ | hother
    · rw [hinvoke] at herror
      cases herror
    · exact absurd hmethod hother

/-- Bytes that a key signed are refused for their data, if nothing else is wrong with them. -/
theorem examine_raw_eq_error {node : Node} {t : SignedTransaction} {tx : Transaction}
    {key : SecretKey} {recoveryId : Nat} {r : Rejection}
    (hsigned : t.IsSigned tx key 51888 recoveryId) (hlength : tx.data.length < 2 ^ 63)
    (hnonce : tx.nonce = (node.ledger.get key.address).nonce)
    (hfunds : tx.value ≤ (node.ledger.get key.address).balance)
    (hdata : examineData node.height key.address tx.data = .error r) :
    node.examine t.raw = .error r := by
  obtain rfl := hsigned.body
  have hchain : t.chainId = some chainId := hsigned.chain
  have hread : SignedTransaction.decode t.raw = .ok t :=
    t.decode_signedItems (Nat.lt_of_le_of_lt t.length_signedItems_le
      (SignedTransaction.length_raw_lt hlength))
  simp only [examine, hread, hsigned.sender, Except.mapError, bind, Except.bind, hchain, hdata,
    if_neg (not_not.2 hnonce), if_neg (BitVec.not_lt.2 hfunds), ne_eq, not_true_eq_false, if_false]

/-! ## The nonce

Of all checks only one complains about the nonce. A transaction with the nonce of its account can be
refused for other reasons, and never for that one. -/

/-- The rejection complains about the nonce of a transaction. -/
def IsNonce : Rejection → Prop
  | .nonce _ _ => True
  | _ => False

/-- Checking an authorization never complains about the nonce. -/
theorem verify_spares_nonce (height : UInt64) (submitter : Address) (role : Role)
    (a : Authorization role) : Except.Spares IsNonce (verify height submitter role a) := by
  have hsigner : Except.Spares IsNonce (signerAt height a) := by
    refine (Except.spares_mapError (fun _ => id) _).bind fun deadline => ?_
    split
    · exact Except.spares_error id
    · exact Except.spares_mapError (fun _ => id) _
  -- a complaint about the parties is none about the nonce
  have hparties (signer : Address) :
      Except.Spares IsNonce (checkParties submitter signer role a) := by
    refine checkParties_spares (fun r hnonce => ?_) submitter signer a
    cases r with
    | nonce => exact id
    | _ => exact hnonce.elim
  refine hsigner.bind fun signer => ?_
  exact (hparties signer).bind fun _ => Except.spares_ok signer

/-- Checking the data of a transaction never complains about the nonce. -/
theorem examineData_spares_nonce (height : UInt64) (submitter : Address) (data : Bytes) :
    Except.Spares IsNonce (examineData height submitter data) := by
  rw [examineData]
  split
  · refine (Except.spares_mapError (fun _ => id) _).bind fun p => ?_
    refine (Except.spares_mapError (fun _ => id) _).bind fun _ => ?_
    -- the roles are checked one after the other, each of them without a look at the nonce
    have hsigners : Except.Spares IsNonce (signers height submitter p) := by
      refine Except.Spares.filterMapM (fun role => ?_) _
      cases p.authorization? role with
      | none => exact Except.spares_ok none
      | some a =>
        refine Except.Spares.bind ?_ fun entry => Except.spares_ok (some entry)
        exact (verify_spares_nonce height submitter role a).bind fun _ => Except.spares_ok _
    exact hsigners.bind fun _ => Except.spares_ok _
  · exact Except.spares_ok _

/-- A transaction that carries the next nonce of its signer may be refused, but not for that. -/
theorem examine_spares_nonce {node : Node} {raw : Bytes} {t : SignedTransaction} {sender : Address}
    (hread : SignedTransaction.decode raw = .ok t) (hsender : t.sender = .ok sender)
    (hnonce : t.nonce = (node.ledger.get sender).nonce) :
    Except.Spares IsNonce (node.examine raw) := by
  simp only [examine, hread, hsender, Except.mapError, bind, Except.bind, hnonce, ne_eq,
    not_true_eq_false, if_false]
  split
  · exact Except.spares_error id
  · split
    · exact Except.spares_error id
    · exact (examineData_spares_nonce _ _ _).bind fun _ => Except.spares_ok _

/-- A transaction with the nonce that is next is not refused for its nonce. -/
theorem execute_ne_nonce {node : Node} {raw : Bytes} {t : SignedTransaction} {sender : Address}
    (hread : SignedTransaction.decode raw = .ok t) (hsender : t.sender = .ok sender)
    (hnonce : t.nonce = (node.ledger.get sender).nonce) (actual expected : UInt64) :
    ((execute raw).run.run node).1 ≠ .error (.nonce actual expected) := by
  rw [run_execute]
  cases hexamine : node.examine raw with
  | ok e => exact nofun
  | error r =>
    intro hrejected
    obtain rfl := Except.error.inj hrejected
    exact examine_spares_nonce hread hsender hnonce _ hexamine trivial

end Schemes

/-- The purchase is refused one block after its deadline. -/
theorem examineData_purchase [SignatureScheme] (submitter : Address) :
    examineData 0x678 submitter (Bytes.ofText purchase.text)
      = .error (.expired .seller1 0x677) := by
  rw [examineData, if_pos purchase.isMarked_text, purchase.ofData_text]
  rfl

/-- The purchase comes one block too late for the listing: all other checks pass, and still nothing
is left of it. -/
theorem invoke_eq_self_expired :
    letI := Guarded.scheme
    let node := (fresh.fund buyerKey.address 0x38D7EA4C68000).mine 8
    ∃ t : SignedTransaction,
      let call := invoke "eth_sendRawTransaction" [.str (Hex.marked t.raw)] node
      t.sender = .ok buyerKey.address
        ∧ call.1 = .error (.rejected "eth_sendRawTransaction" (-32000)
          "seller1 authorization expired at block 1655")
        ∧ call.2 = node := by
  let _ : SignatureScheme := Guarded.scheme
  have _ : LawfulSignatureScheme := Guarded.lawful
  intro node
  let tx : Transaction := {
    nonce := 0
    gasPrice := 1000000000
    gasLimit := 500000
    recipient := buyerKey.address
    value := 0x38D7EA4C68000
    data := Bytes.ofText purchase.text }
  obtain ⟨t, _, -, hsigned⟩ := tx.exists_isSigned_of_lt buyerKey
    (show (51888 : UInt64).toNat < 2 ^ 62 by decide)
  have hbuyer : node.ledger.get buyerKey.address = ⟨0x38D7EA4C68000, 0⟩ := get_fund_fresh _
  -- all checks before the deadline pass: chain, sender, nonce and funds
  have hexamine : node.examine t.raw = .error (.expired .seller1 0x677) := by
    refine examine_raw_eq_error hsigned length_purchase ?_ ?_ (examineData_purchase _)
    · rw [hbuyer]
    · rw [hbuyer]
      exact BitVec.le_refl _
  have hsent : sentBytes [.str (Hex.marked t.raw)] = .ok t.raw := sentBytes_marked t.raw
  have hanswer : (invoke "eth_sendRawTransaction" [.str (Hex.marked t.raw)] node).1
      = .error (.rejected "eth_sendRawTransaction" (-32000)
        "seller1 authorization expired at block 1655") := by
    rw [invoke_sendRawTransaction, hsent]
    simp only [hexamine]
    rfl
  exact ⟨t, hsigned.sender, hanswer, invoke_eq_self (.inl ⟨_, hanswer⟩)⟩

end NftExchange.Node
