import Mathlib
import NftExchange.Payload
import NftExchange.Proofs.Authorization.Transport

/-!
# Payloads survive transport

A payload is written exactly if its action is known and the roles that it embeds are those of the
action. Then the transaction data starts with the mark and is read as the very payload that was
written. Otherwise the error names the first thing that is wrong: the code, a role that is missing,
a role that does not belong.

* **`Action.table`** — the actions that are known, with their codes and what each of them embeds;
* **`Payload.ofData_text`** — what is written is read back, whatever is present and whatever the
  texts are;
* **`Payload.validate_spec`** — the check decides `Complete`, and refuses for the reasons that
  `Refused` lists;
* **`Payload.toData_spec`** — the two together.
-/

namespace NftExchange

/-! ## The actions

What counts as a known action, and what it embeds, is written down here once more, by code. The
check reads the same off two functions of the action, so the two have to be shown to agree. -/

namespace Action

/-- The actions with a code, each with that code and the roles that it embeds, in the order in which
a missing one is reported. -/
def table : List (UInt8 × Action × List Role) :=
  [(0, .mint, []), (1, .transfer, []), (2, .author, []), (3, .authorRevoke, []),
    (4, .accountAuthor, []), (5, .accountAuthorRevoke, []), (6, .snftToErb, []),
    (9, .tokenPledge, []), (10, .tokenRevokesPledge, []), (11, .openExchange, []),
    (12, .closeExchange, []), (13, .insertNftBlock, []), (14, .transactionNft, [.buyer]),
    (15, .buyerInitiatingTransaction, [.seller1]), (16, .foundryTradeBuyer, [.seller2]),
    (17, .foundryExchange, [.buyer, .seller2]),
    (18, .nftExchangeMatch, [.buyer, .seller1, .exchangerAuth]),
    (19, .foundryExchangeInitiated, [.buyer, .seller2, .exchangerAuth]),
    (20, .nftDoesNotAuthorizeExchanges, [.buyer, .seller1]), (21, .additionalPledgeAmount, []),
    (22, .revokesPledgeAmount, []), (23, .voteOfficialNft, []),
    (24, .voteOfficialNftByApprovedExchanger, [.exchangerAuth]), (25, .unfrozenAccount, []),
    (26, .weightRedemption, []),
    (27, .batchSellTransfer, [.buyer, .seller1, .buyerAuth, .sellerAuth, .exchangerAuth]),
    (28, .forceBuyingTransfer, [.buyer, .buyerAuth, .exchangerAuth]), (29, .extractErb, []),
    (31, .accountDelegate, [])]

/-- The table lists an action under its code and with its roles, and nothing else. -/
theorem mem_table_iff {code : UInt8} {action : Action} {roles : List Role} :
    (code, action, roles) ∈ table ↔ action.code? = some code ∧ action.roles = roles := by
  constructor
  · have hlisted : ∀ entry ∈ table,
        entry.2.1.code? = some entry.1 ∧ entry.2.1.roles = entry.2.2 := by decide
    exact hlisted (code, action, roles)
  · rintro ⟨hcode, rfl⟩
    cases action <;> cases hcode <;> decide

end Action

namespace Payload

/-! ## Reading back

A payload is written as a marked text of a JSON object, and the object is a record of fields each of
which comes back. This holds of every payload, also of one the check refuses. -/

/-- Every field of a payload reads back: numbers, texts and authorizations. -/
theorem readBack_fields (depth : Nat) : fields.ReadBack (depth + 1) := by
  -- the fields that may be missing come in four kinds, and no name occurs twice
  have text (name : String) : (Field.sparse name .string).ReadsBack (depth + 1) :=
    Field.readsBack_sparse (Codec.readsBack_string _) (fun a h => by cases h) name
  have word (name : String) : (Field.sparse name .uint32).ReadsBack (depth + 1) :=
    Field.readsBack_sparse (Codec.readsBack_uint32 _) (fun a h => by cases h) name
  have wide (name : String) : (Field.sparse name .uint64).ReadsBack (depth + 1) :=
    Field.readsBack_sparse (Codec.readsBack_uint64 _) (fun a h => by cases h) name
  have role (role : Role) (name : String) :
      (Field.sparse name (Authorization.codec role)).ReadsBack (depth + 1) :=
    Field.readsBack_sparse (Authorization.readsBack_codec role depth) (fun a h => by cases h) name
  exact ⟨Field.readsBack_required (Codec.readsBack_uint8 _) "type", by decide,
    Field.readsBack_required (Codec.readsBack_string _) "version", by decide,
    text "nft_address", by decide, text "exchanger", by decide, word "royalty", by decide,
    text "meta_url", by decide, word "fee_rate", by decide, text "name", by decide,
    text "url", by decide, text "dir", by decide, text "start_index", by decide,
    wide "number", by decide, text "creator", by decide, text "proxy_address", by decide,
    text "proxy_sign", by decide, role .buyer "buyer", by decide, role .seller1 "seller1",
    by decide, role .seller2 "seller2", by decide, role .exchangerAuth "exchanger_auth",
    by decide, role .buyerAuth "buyer_auth", by decide, role .sellerAuth "seller_auth",
    by decide, trivial⟩

/-- The codec of a payload reads back what it wrote. -/
theorem readsBack_codec (depth : Nat) : codec.ReadsBack (depth + 2) :=
  Codec.readsBack_record (readBack_fields depth) fun _ => rfl

theorem isMarked_iff {data : Bytes} : isMarked data = true ↔ Bytes.ofText "wormholes:" <+: data :=
  List.isPrefixOf_iff_prefix

theorem isMarked_text (p : Payload) : isMarked (Bytes.ofText p.text) = true := by
  rw [isMarked_iff, text, Bytes.ofText_append]
  exact List.prefix_append _ _

/-- The text of a payload is read back as the payload. -/
theorem ofData_text (p : Payload) : ofData (Bytes.ofText p.text) = .ok p := by
  have hdata : Bytes.ofText p.text = Bytes.ofText mark ++ Bytes.ofText (codec.render p) :=
    Bytes.ofText_append mark (codec.render p)
  have hmark := p.isMarked_text
  have hparse := (readsBack_codec 125).parse_render p
  rw [Codec.parse] at hparse
  rw [ofData, if_pos hmark, hdata, List.drop_left, hparse]
  rfl

/-! ## What is written

The condition under which a payload is written, and the reason for which it is not, as the table of
the actions gives them. Where several reasons apply, the order of the roles says which one is
reported. -/

/-- Whether a payload embeds an authorization for a role. -/
def Embeds (p : Payload) (role : Role) : Prop := (p.authorization? role).isSome = true

/-- Whether a payload's code is that of an action and the roles of that action are exactly those
embedded. -/
def Complete (p : Payload) : Prop :=
  ∃ action roles, (p.typeCode, action, roles) ∈ Action.table ∧ ∀ role, p.Embeds role ↔ role ∈ roles

/-- Why a payload is not written. A reason applies only where those above it do not, and a role
is named only if none before it could be: missing roles are looked for in the order of the action,
roles that do not belong in the order of the payload. -/
inductive Refused (p : Payload) : AuthorizationError → Prop where
  | unknownAction (hcode : ∀ entry ∈ Action.table, entry.1 ≠ p.typeCode) :
      Refused p (.unknownAction p.typeCode)
  | missingRole {action : Action} {role : Role} {roles before after : List Role}
      (hlisted : (p.typeCode, action, roles) ∈ Action.table)
      (hroles : roles = before ++ role :: after)
      (hbefore : ∀ r ∈ before, p.Embeds r) (habsent : ¬ p.Embeds role) :
      Refused p (.missingRole action role)
  | unexpectedRole {action : Action} {role : Role} {roles before after : List Role}
      (hlisted : (p.typeCode, action, roles) ∈ Action.table) (hall : ∀ r ∈ roles, p.Embeds r)
      (horder : [.buyer, .seller1, .seller2, .buyerAuth, .sellerAuth, .exchangerAuth]
        = before ++ role :: after)
      (hbefore : ∀ r ∈ before, p.Embeds r → r ∈ roles)
      (hpresent : p.Embeds role) (hother : role ∉ roles) :
      Refused p (.unexpectedRole action role)

/-! ## The check

The check makes two searches, one for a role that is missing and one for a role that does not
belong, and stops at the first hit. Each search is turned into a statement about the roles before
the hit. -/

/-- The action of a payload is the one its code stands for. -/
theorem action_eq_ok_iff {p : Payload} {action : Action} :
    p.action = .ok action ↔ Action.code? action = some p.typeCode := by
  rw [← Action.ofCode?_eq_some_iff, Payload.action]
  cases Action.ofCode? p.typeCode with
  | none => simp
  | some a => simp

/-- A code belongs to one action, with one list of roles. -/
theorem listed_unique {p : Payload} {a b : Action} {roles roles' : List Role}
    (ha : (p.typeCode, a, roles) ∈ Action.table) (hb : (p.typeCode, b, roles') ∈ Action.table) :
    a = b ∧ roles = roles' := by
  obtain ⟨hcode, rfl⟩ := Action.mem_table_iff.1 ha
  obtain ⟨hcode', rfl⟩ := Action.mem_table_iff.1 hb
  have heq := (action_eq_ok_iff.2 hcode).symm.trans (action_eq_ok_iff.2 hcode')
  obtain rfl := Except.ok.inj heq
  exact ⟨rfl, rfl⟩

/-- Every embedded role is one of the six in the order of the payload. -/
theorem mem_roleOrder_of_embeds {p : Payload} {role : Role} (h : p.Embeds role) :
    role ∈ roleOrder := by
  cases role with
  | delegate => cases h
  | _ => decide

theorem contains_presentRoles {p : Payload} {role : Role} :
    p.presentRoles.contains role = true ↔ p.Embeds role := by
  rw [List.contains_iff_mem, presentRoles, List.mem_filter]
  exact ⟨fun h => h.2, fun h => ⟨mem_roleOrder_of_embeds h, h⟩⟩

/-- The role that the first search finds is the first of the action that is not embedded. -/
theorem find?_missing_eq_some_iff {p : Payload} {roles : List Role} {role : Role} :
    (roles.find? fun role => !p.presentRoles.contains role) = some role
      ↔ ¬ p.Embeds role ∧ ∃ before after, roles = before ++ role :: after
          ∧ ∀ r ∈ before, p.Embeds r := by
  rw [List.find?_eq_some_iff_append]
  simp only [Bool.not_eq_true', Bool.not_not, ← Bool.not_eq_true, contains_presentRoles]

/-- No role is found missing exactly when all are embedded. -/
theorem find?_missing_eq_none_iff {p : Payload} {roles : List Role} :
    (roles.find? fun role => !p.presentRoles.contains role) = none
      ↔ ∀ r ∈ roles, p.Embeds r := by
  rw [List.find?_eq_none]
  simp only [Bool.not_eq_true', ← Bool.not_eq_true, not_not, contains_presentRoles]

/-- The role that the second search finds is the first embedded one that the action lacks. -/
theorem find?_unexpected_eq_some_iff {p : Payload} {roles : List Role} {role : Role} :
    (p.presentRoles.find? fun role => !roles.contains role) = some role
      ↔ (p.Embeds role ∧ role ∉ roles) ∧ ∃ before after, roleOrder = before ++ role :: after
          ∧ ∀ r ∈ before, p.Embeds r → r ∈ roles := by
  rw [presentRoles, List.find?_filter, List.find?_eq_some_iff_append]
  have hother (r : Role) : (!roles.contains r) = true ↔ r ∉ roles := by
    rw [Bool.not_eq_true', List.contains_eq_mem, decide_eq_false_iff_not]
  simp only [hother, decide_eq_true_eq, Bool.not_eq_true', decide_eq_false_iff_not, not_and,
    not_not, Embeds]

/-- No role is found that does not belong exactly when every embedded role does. -/
theorem find?_unexpected_eq_none_iff {p : Payload} {roles : List Role} :
    (p.presentRoles.find? fun role => !roles.contains role) = none
      ↔ ∀ r, p.Embeds r → r ∈ roles := by
  rw [List.find?_eq_none]
  constructor
  · intro h r hr
    have hmem : r ∈ p.presentRoles := by
      rw [← List.contains_iff_mem]
      exact contains_presentRoles.2 hr
    simpa using h r hmem
  · intro h r hr
    have hembeds := contains_presentRoles.1 (List.contains_iff_mem.2 hr)
    simpa using h r hembeds

/-- The check passes exactly the complete payloads, and refuses the others for a listed reason. -/
theorem validate_spec (p : Payload) :
    match p.validate with
    | .ok _ => p.Complete
    | .error e => p.Refused e := by
  rw [validate]
  cases haction : p.action with
  | error e =>
    have hcode : ∀ entry ∈ Action.table, entry.1 ≠ p.typeCode := by
      rintro ⟨code, action, roles⟩ hlisted rfl
      rw [action_eq_ok_iff.2 (Action.mem_table_iff.1 hlisted).1] at haction
      cases haction
    have he : e = .unknownAction p.typeCode := by
      rw [Payload.action] at haction
      split at haction
      · cases haction
      · exact (Except.error.inj haction).symm
    rw [he]
    exact .unknownAction hcode
  | ok action =>
    have hlisted : (p.typeCode, action, action.roles) ∈ Action.table :=
      Action.mem_table_iff.2 ⟨action_eq_ok_iff.1 haction, rfl⟩
    simp only [bind, Except.bind]
    -- the order of the two searches is the order of the two reasons
    cases hmissing : action.roles.find? fun role => !p.presentRoles.contains role with
    | some role =>
      obtain ⟨habsent, before, after, hroles, hbefore⟩ := find?_missing_eq_some_iff.1 hmissing
      exact .missingRole hlisted hroles hbefore habsent
    | none =>
      have hall := find?_missing_eq_none_iff.1 hmissing
      simp only
      cases hunexpected : p.presentRoles.find? fun role => !action.roles.contains role with
      | some role =>
        obtain ⟨⟨hpresent, hother⟩, before, after, hroles, hbefore⟩ :=
          find?_unexpected_eq_some_iff.1 hunexpected
        exact .unexpectedRole hlisted hall hroles hbefore hpresent hother
      | none =>
        have honly := find?_unexpected_eq_none_iff.1 hunexpected
        exact ⟨action, action.roles, hlisted, fun role => ⟨honly role, hall role⟩⟩

/-- A payload that is refused for any reason is not complete. -/
theorem Refused.not_complete {p : Payload} {e : AuthorizationError} (h : p.Refused e) :
    ¬ p.Complete := by
  rintro ⟨action, roles, hlisted, hroles⟩
  -- the action that makes the payload complete is the one that refused it
  cases h with
  | unknownAction hcode => exact hcode _ hlisted rfl
  | @missingRole other role roles' before after hlisted' hsplit _ habsent =>
    obtain ⟨rfl, rfl⟩ := listed_unique hlisted hlisted'
    exact habsent ((hroles role).2 (by simp [hsplit]))
  | @unexpectedRole other role roles' _ _ hlisted' _ _ _ hpresent hother =>
    obtain ⟨rfl, rfl⟩ := listed_unique hlisted hlisted'
    exact hother ((hroles role).1 hpresent)

/-- A complete payload passes the check. -/
theorem validate_of_complete {p : Payload} (h : p.Complete) : p.validate = .ok () := by
  have hspec := p.validate_spec
  cases hvalidate : p.validate with
  | ok _ => rfl
  | error e =>
    rw [hvalidate] at hspec
    exact absurd h hspec.not_complete

theorem toData_of_validate {p : Payload} (h : p.validate = .ok ()) :
    p.toData = .ok (Bytes.ofText p.text) := by
  simp only [toData, h, bind, Except.bind]
  rfl

/-- A payload is written exactly if it is complete. Then its data starts with the mark and is read
as the payload, every field and every authorization equal; otherwise the error is the first that
applies. -/
theorem toData_spec (p : Payload) :
    ((∃ data, p.toData = .ok data) ↔ p.Complete)
      ∧ match p.toData with
        | .ok data => Bytes.ofText "wormholes:" <+: data ∧ ofData data = .ok p
        | .error e => p.Refused e := by
  have hspec := p.validate_spec
  cases hvalidate : p.validate with
  | ok _ =>
    rw [hvalidate] at hspec
    have hdata := toData_of_validate hvalidate
    -- the mark is the front of the text, whatever the payload
    have hmark : Bytes.ofText "wormholes:" <+: Bytes.ofText p.text := by
      rw [text, Bytes.ofText_append]
      exact List.prefix_append _ _
    rw [hdata]
    exact ⟨⟨fun _ => hspec, fun _ => ⟨_, rfl⟩⟩, hmark, ofData_text p⟩
  | error e =>
    rw [hvalidate] at hspec
    have hdata : p.toData = .error e := by
      simp only [toData, hvalidate, bind, Except.bind]
    rw [hdata]
    refine ⟨⟨fun ⟨data, h⟩ => ?_, fun h => absurd h hspec.not_complete⟩, hspec⟩
    cases h

/-- The payload of a purchase is written and read back with the seller's listing in it, and is not
written without the listing. -/
theorem toData_spec_listing :
    let p : Payload :=
      { typeCode := 15
        version := "v0.0.1"
        seller1 := some ⟨.seller1 "0x64" "é" "" "0x2a", "\"0x"⟩ }
    (∃ data, p.toData = .ok data ∧ ofData data = .ok p)
      ∧ ¬ ∃ data, ({ p with seller1 := none } : Payload).toData = .ok data := by
  intro p
  have hcomplete : p.Complete := by
    refine ⟨.buyerInitiatingTransaction, [.seller1], by decide, fun role => ?_⟩
    cases role <;> simp [Embeds, authorization?, p]
  constructor
  · obtain ⟨hwritten, hback⟩ := toData_spec p
    obtain ⟨data, hdata⟩ := hwritten.2 hcomplete
    rw [hdata] at hback
    exact ⟨data, hdata, hback.2⟩
  · -- without the listing the purchase lacks the one role it needs
    rw [(toData_spec _).1]
    rintro ⟨action, roles, hlisted, hroles⟩
    obtain ⟨-, rfl⟩ := listed_unique (p := p) hlisted
      (show (15, .buyerInitiatingTransaction, [.seller1]) ∈ Action.table by decide)
    exact absurd ((hroles .seller1).2 (by decide)) nofun

end Payload

end NftExchange
