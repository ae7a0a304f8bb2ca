import Mathlib
import NftExchange.Node.Methods
import NftExchange.Proofs.Except
import NftExchange.Proofs.Payload.Transport
import NftExchange.Proofs.Transaction.Signing

/-!
# What a node accepts

The checks of a node, turned into conditions: each check passes exactly if its condition holds, so
the same lemmas tell what is known of an accepted transaction and what is needed for one to be
accepted. No other proof about a node looks into the checks themselves.

* **`verify_eq_ok_iff`** — when an authorization holds, and whose it is;
* **`signers_eq_ok_iff`** — the signers are those of the embedded authorizations, in order;
* **`examine_eq_ok_iff`** — when a transaction is accepted, and what is recorded of it.
-/

namespace NftExchange.Node

open Except (bind_eq_ok_iff mapError_eq_ok_iff)

variable {height : UInt64} {submitter signer : Address} {role : Role}

/-! ## One authorization

An authorization passes when it has not expired, its signature recovers a signer, and the parties it
names are those of the transaction. Only the grant to an exchanger names parties beyond the signer:
the owner has to be the signer and the grantee the submitter. -/

/-- The deadline of an authorization is a quantity that has not passed at a height. -/
def Unexpired (height : UInt64) (a : Authorization role) : Prop :=
  ∃ deadline, Hex.parseUInt64 a.message.deadline = .ok deadline ∧ height ≤ deadline

/-- The authorization of an owner is for the submitter, and the owner that it names is the one who
signed it. Authorizations of other roles say nothing about either. -/
def Grants (submitter signer : Address) : (role : Role) → Authorization role → Prop
  | .exchangerAuth, a => Address.parse (a.message.get "exchanger_owner") = .ok signer
      ∧ Address.parse (a.message.get "to") = .ok submitter
  | _, _ => True

/-- A grant passes exactly when its owner signed it and its grantee submits it. -/
theorem checkGrant_eq_ok_iff {a : Authorization .exchangerAuth} :
    checkGrant a signer submitter = .ok () ↔ Grants submitter signer .exchangerAuth a := by
  rw [checkGrant, bind_eq_ok_iff, Grants]
  simp only [mapError_eq_ok_iff]
  constructor
  · rintro ⟨owner, howner, hrest⟩
    split at hrest
    · cases hrest
    · rename_i heq
      obtain ⟨grantee, hgrantee, hrest⟩ := bind_eq_ok_iff.1 hrest
      split at hrest
      · cases hrest
      · rename_i hsame
        -- the owner is the signer and the grantee the submitter
        rw [not_not] at heq hsame
        subst heq hsame
        exact ⟨howner, mapError_eq_ok_iff.1 hgrantee⟩
  · rintro ⟨howner, hgrantee⟩
    refine ⟨signer, howner, ?_⟩
    rw [if_neg (not_not.2 rfl), bind_eq_ok_iff]
    exact ⟨submitter, mapError_eq_ok_iff.2 hgrantee, if_neg (not_not.2 rfl)⟩

/-- The check of the parties passes exactly when they agree with what the authorization grants. -/
theorem checkParties_eq_ok_iff {a : Authorization role} :
    checkParties submitter signer role a = .ok () ↔ Grants submitter signer role a := by
  -- only one role has parties to check
  cases role with
  | exchangerAuth => exact checkGrant_eq_ok_iff
  | _ => exact ⟨fun _ => trivial, fun _ => rfl⟩

/-- The rejection complains about who signed the authorization of an owner, or for whom. -/
def IsParty : Rejection → Prop
  | .party _ | .owner _ | .submitter _ => True
  | _ => False

/-- What an authorization says about its parties is refused for nothing else. -/
theorem checkParties_spares {kind : Rejection → Prop} (h : ∀ r, kind r → ¬ IsParty r)
    (submitter signer : Address) (a : Authorization role) :
    Except.Spares kind (checkParties submitter signer role a) := by
  have hparty (cause : EncodingError) : ¬ kind (.party cause) := fun hkind => h _ hkind trivial
  -- the grant to an exchanger is the only one that is checked, and it only complains about parties
  cases role with
  | exchangerAuth =>
    refine (Except.spares_mapError hparty _).bind fun owner => ?_
    split
    · exact Except.spares_error fun hkind => h _ hkind trivial
    · refine (Except.spares_mapError hparty _).bind fun grantee => ?_
      split
      · exact Except.spares_error fun hkind => h _ hkind trivial
      · exact Except.spares_ok ()
  | _ => exact Except.spares_ok ()

variable [SignatureScheme]

/-- A signer is recovered exactly of an authorization that has not expired. -/
theorem signerAt_eq_ok_iff {a : Authorization role} :
    signerAt height a = .ok signer ↔ Unexpired height a ∧ a.signer = .ok signer := by
  rw [signerAt, bind_eq_ok_iff, Unexpired]
  simp only [mapError_eq_ok_iff]
  constructor
  · rintro ⟨deadline, hdeadline, hsigner⟩
    -- the deadline is looked at before the signature
    split at hsigner
    · cases hsigner
    · rename_i hle
      exact ⟨⟨deadline, hdeadline, UInt64.not_lt.1 hle⟩, mapError_eq_ok_iff.1 hsigner⟩
  · rintro ⟨⟨deadline, hdeadline, hle⟩, hsigner⟩
    refine ⟨deadline, hdeadline, ?_⟩
    rw [if_neg (UInt64.not_lt.2 hle)]
    exact mapError_eq_ok_iff.2 hsigner

/-- An authorization holds for a submitter if it has not expired, leads to a signer, and grants
what it has to grant. -/
theorem verify_eq_ok_iff {a : Authorization role} : verify height submitter role a = .ok signer
    ↔ Unexpired height a ∧ a.signer = .ok signer ∧ Grants submitter signer role a := by
  rw [verify, bind_eq_ok_iff]
  constructor
  · rintro ⟨found, hfound, hrest⟩
    obtain ⟨_, hparties, hrest⟩ := bind_eq_ok_iff.1 hrest
    cases hrest
    obtain ⟨hunexpired, hsigner⟩ := signerAt_eq_ok_iff.1 hfound
    exact ⟨hunexpired, hsigner, checkParties_eq_ok_iff.1 hparties⟩
  · rintro ⟨hunexpired, hsigner, hgrants⟩
    refine ⟨signer, signerAt_eq_ok_iff.2 ⟨hunexpired, hsigner⟩, ?_⟩
    exact bind_eq_ok_iff.2 ⟨(), checkParties_eq_ok_iff.2 hgrants, rfl⟩

/-! ## All authorizations

The roles are gone through in the order of the payload, and the first one that fails ends the walk.
When none does, the entry holds the signers of the embedded roles, in the order of the roles. -/

/-- The signers that were found are those of the embedded authorizations, all of which hold. -/
structure AreSigners (height : UInt64) (submitter : Address) (p : Payload)
    (found : List (Role × Address)) : Prop where
  /-- Every embedded role is there once, in the order of the payload. -/
  roles : found.map Prod.fst = p.presentRoles
  verified : ∀ entry ∈ found, ∃ a, p.authorization? entry.1 = some a
    ∧ Unexpired height a ∧ a.signer = .ok entry.2 ∧ Grants submitter entry.2 entry.1 a

/-- The walk over any list of roles ends well exactly when every embedded role among them verifies,
and finds their signers in that order. -/
private theorem filterMapM_eq_ok_iff {p : Payload} {roles : List Role}
    {found : List (Role × Address)} :
    (roles.filterMapM fun role => (p.authorization? role).mapM fun a => do
        return (role, ← verify height submitter role a)) = .ok found
      ↔ found.map Prod.fst = roles.filter (fun role => (p.authorization? role).isSome)
        ∧ ∀ entry ∈ found, ∃ a, p.authorization? entry.1 = some a
          ∧ verify height submitter entry.1 a = .ok entry.2 := by
  -- the induction is on the roles still to be looked at, for whatever is found among them
  induction roles generalizing found with
  | nil =>
    rw [List.filterMapM_nil]
    constructor
    · rintro h
      cases h
      exact ⟨rfl, nofun⟩
    · rintro ⟨hroles, -⟩
      rw [List.map_eq_nil_iff.1 hroles]
      rfl
  | cons role roles ih =>
    rw [List.filterMapM_cons, bind_eq_ok_iff]
    -- a role that is not embedded adds nothing, and one that is adds its signer or fails
    cases hembedded : p.authorization? role with
    | none =>
      rw [List.filter_cons_of_neg (by simp [hembedded]), ← ih]
      constructor
      · rintro ⟨_, hnone, hrest⟩
        cases hnone
        exact hrest
      · intro hrest
        exact ⟨none, rfl, hrest⟩
    | some a =>
      rw [List.filter_cons_of_pos (by simp [hembedded])]
      constructor
      · rintro ⟨_, hfound, hrest⟩
        obtain ⟨_, hentry, heq⟩ := bind_eq_ok_iff.1 hfound
        cases heq
        obtain ⟨signer, hsigner, heq⟩ := bind_eq_ok_iff.1 hentry
        cases heq
        obtain ⟨others, hothers, heq⟩ := bind_eq_ok_iff.1 hrest
        cases heq
        obtain ⟨hroles, hverified⟩ := ih.1 hothers
        refine ⟨by rw [List.map_cons, hroles], ?_⟩
        rw [List.forall_mem_cons]
        exact ⟨⟨a, hembedded, hsigner⟩, hverified⟩
      · rintro ⟨hroles, hverified⟩
        -- the first entry is that of the first role
        obtain ⟨⟨first, signer⟩, others, rfl, hfirst, hothers⟩ := List.map_eq_cons_iff.1 hroles
        obtain rfl : first = role := hfirst
        rw [List.forall_mem_cons] at hverified
        obtain ⟨⟨b, hb, hsigner⟩, hverified⟩ := hverified
        obtain rfl := Option.some.inj (hembedded.symm.trans hb)
        refine ⟨some (first, signer), ?_, ?_⟩
        · exact bind_eq_ok_iff.2 ⟨_, bind_eq_ok_iff.2 ⟨signer, hsigner, rfl⟩, rfl⟩
        · exact bind_eq_ok_iff.2 ⟨others, ih.2 ⟨hothers, hverified⟩, rfl⟩

/-- The signers of a payload are found exactly when all of its authorizations verify. -/
theorem signers_eq_ok_iff {p : Payload} {found : List (Role × Address)} :
    signers height submitter p = .ok found ↔ AreSigners height submitter p found := by
  rw [signers, filterMapM_eq_ok_iff]
  simp only [verify_eq_ok_iff]
  exact ⟨fun h => ⟨h.1, h.2⟩, fun h => ⟨h.roles, h.verified⟩⟩

/-! ## A transaction

The checks of a whole transaction, as one relation between the node and the entry it makes. It names
every check once, so that later results need not open the code of the examination. -/

/-- What is learned from transaction data: a payload that passes its check and the signers of its
authorizations if the data is marked, and nothing otherwise. -/
inductive Examined (height : UInt64) (submitter : Address) (data : Bytes) :
    Option Payload → List (Role × Address) → Prop where
  | payload {p : Payload} {found : List (Role × Address)} (hmark : Payload.isMarked data = true)
      (hread : Payload.ofData data = .ok p) (hvalid : p.validate = .ok ())
      (hsigners : AreSigners height submitter p found) :
      Examined height submitter data (some p) found
  | plain (hmark : Payload.isMarked data = false) : Examined height submitter data none []

/-- The data of a transaction passes exactly when it is no payload, or is one that validates and
whose authorizations verify. -/
theorem examineData_eq_ok_iff {data : Bytes} {payload : Option Payload}
    {found : List (Role × Address)} : examineData height submitter data = .ok (payload, found)
      ↔ Examined height submitter data payload found := by
  rw [examineData]
  constructor
  · intro h
    -- the mark decides whether anything is read at all
    split at h
    · rename_i hmark
      obtain ⟨p, hread, h⟩ := bind_eq_ok_iff.1 h
      obtain ⟨_, hvalid, h⟩ := bind_eq_ok_iff.1 h
      obtain ⟨_, hsigners, h⟩ := bind_eq_ok_iff.1 h
      cases h
      exact .payload hmark (mapError_eq_ok_iff.1 hread) (mapError_eq_ok_iff.1 hvalid)
        (signers_eq_ok_iff.1 hsigners)
    · rename_i hmark
      cases h
      exact .plain (Bool.eq_false_iff.2 hmark)
  · intro h
    cases h with
    | payload hmark hread hvalid hsigners =>
      rw [if_pos hmark]
      refine bind_eq_ok_iff.2 ⟨_, mapError_eq_ok_iff.2 hread, ?_⟩
      refine bind_eq_ok_iff.2 ⟨_, mapError_eq_ok_iff.2 hvalid, ?_⟩
      exact bind_eq_ok_iff.2 ⟨_, signers_eq_ok_iff.2 hsigners, rfl⟩
    | plain hmark =>
      rw [if_neg (Bool.eq_false_iff.1 hmark)]
      rfl

/-- What a node knows of a transaction that it accepts: it is for the node's chain, it is the next
one of its signer, who can pay for it, and its data was examined. -/
structure Accepts (node : Node) (e : Executed) : Prop where
  chain : e.transaction.chainId = some 51888
  sender : e.transaction.sender = .ok e.sender
  nonce : e.transaction.nonce = (node.ledger.get e.sender).nonce
  funds : e.transaction.value ≤ (node.ledger.get e.sender).balance
  data : Examined node.height e.sender e.transaction.data e.payload e.signers
  block : e.block = node.height + 1

/-- Bytes are accepted exactly if they are read as a transaction that the node accepts. -/
theorem examine_eq_ok_iff {node : Node} {raw : Bytes} {e : Executed} : node.examine raw = .ok e
    ↔ SignedTransaction.decode raw = .ok e.transaction ∧ node.Accepts e := by
  rw [examine, bind_eq_ok_iff]
  constructor
  · -- from the code to the relation: the checks are peeled off in the order they are made
    rintro ⟨tx, htx, h⟩
    split at h
    · cases h
    · rename_i hchain
      obtain ⟨sender, hsender, h⟩ := bind_eq_ok_iff.1 h
      dsimp only at h
      split at h
      · cases h
      · rename_i hnonce
        split at h
        · cases h
        · rename_i hfunds
          obtain ⟨⟨payload, found⟩, hdata, h⟩ := bind_eq_ok_iff.1 h
          cases h
          exact ⟨mapError_eq_ok_iff.1 htx, {
            chain := not_not.1 hchain
            sender := mapError_eq_ok_iff.1 hsender
            nonce := not_not.1 hnonce
            funds := BitVec.not_lt.1 hfunds
            data := examineData_eq_ok_iff.1 hdata
            block := rfl }⟩
  · -- from the relation back: every check that is made succeeds
    rintro ⟨htx, h⟩
    have hchain : e.transaction.chainId = some chainId := h.chain
    refine ⟨e.transaction, mapError_eq_ok_iff.2 htx, ?_⟩
    rw [if_neg (not_not.2 hchain)]
    refine bind_eq_ok_iff.2 ⟨e.sender, mapError_eq_ok_iff.2 h.sender, ?_⟩
    dsimp only
    rw [if_neg (not_not.2 h.nonce), if_neg (BitVec.not_lt.2 h.funds)]
    refine bind_eq_ok_iff.2 ⟨(e.payload, e.signers), examineData_eq_ok_iff.2 h.data, ?_⟩
    rw [← h.block]
    rfl

/-- The bytes of a transaction are accepted that a key signed for the chain of the node, if the
transaction is the key's next one, can be paid for, and has data that holds. -/
theorem examine_raw {node : Node} {t : SignedTransaction} {tx : Transaction} {key : SecretKey}
    {recoveryId : Nat} {payload : Option Payload} {found : List (Role × Address)}
    (hsigned : t.IsSigned tx key 51888 recoveryId) (hlength : tx.data.length < 2 ^ 63)
    (hnonce : tx.nonce = (node.ledger.get key.address).nonce)
    (hfunds : tx.value ≤ (node.ledger.get key.address).balance)
    (hdata : Examined node.height key.address tx.data payload found) :
    node.examine t.raw = .ok ⟨node.height + 1, key.address, t, payload, found⟩ := by
  obtain rfl := hsigned.body
  have hraw := Nat.lt_of_le_of_lt t.length_signedItems_le (SignedTransaction.length_raw_lt hlength)
  refine examine_eq_ok_iff.2 ⟨SignedTransaction.decode_signedItems hraw, ?_⟩
  exact ⟨hsigned.chain, hsigned.sender, hnonce, hfunds, hdata, rfl⟩

end NftExchange.Node
