import NftExchange.Client.Signing
import NftExchange.Proofs.Authorization.Signer
import NftExchange.Proofs.Client.Submission
import NftExchange.Proofs.Node.Examination

/-!
# Deadlines

A client that signs until a deadline asks its node for the height and for nothing else. The
deadline is the height and the configured number of blocks together, or the last height there is.
A node reads it from its text, and refuses what was signed as expired exactly when it has passed.

* **`plays_authorizeUntilDeadline`** — one call, one message, signed by the client;
* **`holdsUntil_of_signer`** — when a node refuses an authorization as expired;
* **`signs_until_deadline`** — both, for each role that signs until a deadline.
-/

namespace UInt64

/-- A sum stops at the largest number. -/
theorem toNat_saturatingAdd (a b : UInt64) :
    (a.saturatingAdd b).toNat = min (a.toNat + b.toNat) (2 ^ 64 - 1) := by
  unfold saturatingAdd ofNat?
  split
  · -- the sum fits in a word
    next hfits =>
    have hle : a.toNat + b.toNat ≤ 2 ^ 64 - 1 := Nat.le_sub_one_of_lt hfits
    rw [Option.getD_some, toNat_ofNat_of_lt' hfits, Nat.min_eq_left hle]
  · -- the sum does not fit, and the largest word stands for it
    next hbig =>
    have hle : 2 ^ 64 - 1 ≤ a.toNat + b.toNat := by
      rw [Nat.not_lt] at hbig
      exact Nat.le_of_lt hbig
    rw [Option.getD_none, Nat.min_eq_right hle]
    rfl

theorem le_saturatingAdd (a b : UInt64) : a ≤ a.saturatingAdd b := by
  rw [le_iff_toNat_le, toNat_saturatingAdd]
  have := a.toNat_lt
  omega

end UInt64

namespace NftExchange

/-! ## At the node

For a node an authorization is good up to the height that it names and expired from the next height
on. The signature plays no part in that: who signed is found out only if the height is right. -/

section Node

variable [SignatureScheme]

/-- For every submitter, a node finds the signer of the authorization as long as the deadline has
not passed, and refuses it as expired from then on, and only then. -/
structure Authorization.HoldsUntil {role : Role} (a : Authorization role) (deadline : UInt64)
    (signer : Address) : Prop where
  signerAt : ∀ height, height ≤ deadline → Node.signerAt height a = .ok signer
  spared : ∀ height submitter r d, height ≤ deadline →
    Node.verify height submitter role a ≠ .error (.expired r d)
  expired : ∀ height submitter, deadline < height →
    Node.verify height submitter role a = .error (.expired role deadline)

/-- An authorization with a signer holds until the quantity in its field. -/
theorem Authorization.holdsUntil_of_signer {role : Role} {a : Authorization role}
    {deadline : UInt64} {signer : Address}
    (hdeadline : a.message.deadline = Hex.quantity deadline.toNat)
    (hsigner : a.signer = .ok signer) : a.HoldsUntil deadline signer := by
  have hread : Hex.parseUInt64 a.message.deadline = .ok deadline := by
    rw [hdeadline, Hex.parseUInt64_quantity]
  have hfound {height : UInt64} (hle : height ≤ deadline) :
      Node.signerAt height a = .ok signer :=
    Node.signerAt_eq_ok_iff.2 ⟨⟨deadline, hread, hle⟩, hsigner⟩
  refine ⟨fun height => hfound, fun height submitter r d hle => ?_, fun height submitter hlt => ?_⟩
  · -- after the signer only the parties are looked at
    have hspares : Except.Spares (· = .expired r d)
        (Node.checkParties submitter signer role a) := by
      refine Node.checkParties_spares (fun r' hr' => ?_) submitter signer a
      rw [hr']
      exact id
    rw [Node.verify, hfound hle]
    intro h
    exact (hspares.bind fun _ => Except.spares_ok signer) _ h rfl
  · rw [Node.verify, Node.signerAt, hread]
    simp only [Except.mapError, bind, Except.bind, if_pos hlt]

end Node

/-! ## At the client

A client asks for the height of the chain and adds its offset. Everything that it signs then carries
the sum as a text, which the node reads as the same number. -/

namespace Client

open Attempt (Plays)

variable {σ : Type} {g : Gateway σ} {c : Client}

/-- The call for the height of the chain. -/
def heightCall : Call := ⟨"eth_blockNumber", []⟩

/-- The last height at which a message holds that is signed at a height. -/
def deadlineFrom (c : Client) (height : UInt64) : UInt64 :=
  height.saturatingAdd c.config.deadlineOffset

/-- The deadline costs one call, and is the text of the height plus the offset. -/
theorem plays_blockDeadline (c : Client) {start : σ} {height : UInt64}
    (hheight : Ask.blockNumber.outcome g start = .ok height) : ∃ answer stop,
      c.blockDeadline.Plays g start [⟨heightCall, answer⟩]
        (.ok (Hex.quantity (c.deadlineFrom height).toNat)) stop := by
  have hplays := plays_query g "eth_blockNumber" [] Ask.decodeUInt64 start
  have hread := (Ask.plays_ask g "eth_blockNumber" [] Ask.decodeUInt64 start).outcome_eq
  rw [← hread, ← Ask.blockNumber, hheight] at hplays
  exact ⟨_, _, hplays.bind_ok (Attempt.plays_pure _ _)⟩

section Lawful

variable [SignatureScheme]

/-- The client signs in its only call to the node, for the height: the message has the fields,
each under its name, and holds until the deadline. -/
structure SignsUntil (c : Client) (g : Gateway σ) (start : σ) (deadline : UInt64) {role : Role}
    (attempt : Attempt ClientError (Authorization role)) (fields : List (String × String)) :
    Prop where
  calls : (attempt.exchanges g start).map Exchange.call = [heightCall]
  signs : ∃ a, attempt.outcome g start = .ok a ∧ role.schema.zip a.message.fields = fields
    ∧ a.HoldsUntil deadline c.address

/-- A message that is signed with a deadline asks for nothing but the deadline. -/
theorem plays_authorizeUntilDeadline {role : Role} {start stop : σ} {log : List Exchange}
    {deadline : String} {message : String → Message role} {a : Authorization role}
    (hdeadline : c.blockDeadline.Plays g start log (.ok deadline) stop)
    (hauthorize : c.wallet.authorize (message deadline) = .ok a) :
    (c.authorizeUntilDeadline message).Plays g start log (.ok a) stop := by
  have hsigned : Attempt.Plays g (Attempt.ofExcept ((c.wallet.authorize
      (message deadline)).mapError ClientError.ofAuthorization)) stop [] (.ok a) stop := by
    rw [hauthorize]
    exact Attempt.plays_ofExcept _ _
  have hplays : (c.authorizeUntilDeadline message).Plays g start (log ++ []) (.ok a) stop :=
    hdeadline.bind_ok hsigned
  rw [List.append_nil] at hplays
  exact hplays

variable [LawfulSignatureScheme]

/-- A message that keeps its deadline is signed until then. -/
theorem signsUntil_of_message {role : Role} {start : σ} {height : UInt64}
    {message : String → Message role} (hmessage : ∀ text, (message text).deadline = text)
    (hheight : Ask.blockNumber.outcome g start = .ok height) :
    c.SignsUntil g start (c.deadlineFrom height) (c.authorizeUntilDeadline message)
      (role.schema.zip (message (Hex.quantity (c.deadlineFrom height).toNat)).fields) := by
  obtain ⟨answer, stop, hdeadline⟩ := plays_blockDeadline c hheight
  obtain ⟨sig, hauthorize, hsigner⟩ :=
    c.wallet.signer_authorize (message (Hex.quantity (c.deadlineFrom height).toNat))
  have hplays := plays_authorizeUntilDeadline hdeadline hauthorize
  constructor
  · rw [hplays.exchanges_eq]
    rfl
  · exact ⟨_, hplays.outcome_eq, rfl,
      Authorization.holdsUntil_of_signer (hmessage _) hsigner⟩

/-- The deadline of a client whose node is at a height: what it is, how it is written and read, and
what is signed with it in each role. -/
structure KeepsDeadline (c : Client) (g : Gateway σ) (start : σ) (height deadline : UInt64) :
    Prop where
  toNat_eq : deadline.toNat = min (height.toNat + c.config.deadlineOffset.toNat) (2 ^ 64 - 1)
  height_le : height ≤ deadline
  calls : (c.blockDeadline.exchanges g start).map Exchange.call = [heightCall]
  text : c.blockDeadline.outcome g start = .ok (Hex.quantity deadline.toNat)
  parse : Hex.parseUInt64 (Hex.quantity deadline.toNat) = .ok deadline
  buyer : ∀ amount nftAddress exchanger seller,
    c.SignsUntil g start deadline (c.signBuyer amount nftAddress exchanger seller)
      [("amount", amount), ("nft_address", nftAddress), ("exchanger", exchanger),
        ("block_number", Hex.quantity deadline.toNat), ("seller", seller)]
  seller1 : ∀ amount nftAddress exchanger,
    c.SignsUntil g start deadline (c.signSeller1 amount nftAddress exchanger)
      [("amount", amount), ("nft_address", nftAddress), ("exchanger", exchanger),
        ("block_number", Hex.quantity deadline.toNat)]
  seller2 : ∀ amount royalty metaUrl exclusiveFlag exchanger,
    c.SignsUntil g start deadline (c.signSeller2 amount royalty metaUrl exclusiveFlag exchanger)
      [("amount", amount), ("royalty", royalty), ("meta_url", metaUrl),
        ("exclusive_flag", exclusiveFlag), ("exchanger", exchanger),
        ("block_number", Hex.quantity deadline.toNat)]
  exchangerAuth : ∀ owner recipient,
    c.SignsUntil g start deadline (c.signExchangerAuth owner recipient)
      [("exchanger_owner", owner), ("to", recipient),
        ("block_number", Hex.quantity deadline.toNat)]
  buyerAuth : ∀ exchanger, c.SignsUntil g start deadline (c.signBuyerAuth exchanger)
    [("exchanger", exchanger), ("block_number", Hex.quantity deadline.toNat)]
  sellerAuth : ∀ exchanger, c.SignsUntil g start deadline (c.signSellerAuth exchanger)
    [("exchanger", exchanger), ("block_number", Hex.quantity deadline.toNat)]

/-- Whatever height a node answers, the client takes its deadline from it, saturated, and all that
it signs until then has the arguments in their fields and holds exactly until then. -/
theorem signs_until_deadline (c : Client) (g : Gateway σ) {start : σ} {height : UInt64}
    (hheight : Ask.blockNumber.outcome g start = .ok height) :
    ∃ deadline, c.KeepsDeadline g start height deadline := by
  obtain ⟨answer, stop, hdeadline⟩ := plays_blockDeadline c hheight
  refine ⟨c.deadlineFrom height, ?_⟩
  constructor
  · exact UInt64.toNat_saturatingAdd _ _
  · exact UInt64.le_saturatingAdd _ _
  · rw [hdeadline.exchanges_eq]
    rfl
  · exact hdeadline.outcome_eq
  · exact Hex.parseUInt64_quantity _
  -- the six roles differ only in the message that is made with the deadline
  all_goals
    intros
    exact signsUntil_of_message (fun _ => rfl) hheight

end Lawful

/-- A node at its first height, and a seller that lists for seven blocks: the listing holds at the
seventh and is refused at the eighth. -/
theorem signs_until_deadline_listing :
    letI := Guarded.scheme
    let seller : Client :=
      ⟨⟨Guarded.key⟩, { endpoint := "http://127.0.0.1:8545", deadlineOffset := 7 }⟩
    let a : Authorization .seller1 := ⟨.listing, Signature.listing.toHex⟩
    Ask.blockNumber.outcome Node.gateway Node.fresh = .ok 0x670
      ∧ seller.KeepsDeadline Node.gateway Node.fresh 0x670 0x677
      ∧ ∀ submitter, Node.verify 0x677 submitter .seller1 a = .ok seller.address
        ∧ Node.verify 0x678 submitter .seller1 a = .error (.expired .seller1 0x677) := by
  let _ : SignatureScheme := Guarded.scheme
  have _ : LawfulSignatureScheme := Guarded.lawful
  intro seller a
  have hheight : Ask.blockNumber.outcome Node.gateway Node.fresh = .ok 0x670 := rfl
  obtain ⟨deadline, hkeeps⟩ := signs_until_deadline seller Node.gateway hheight
  have hdeadline : deadline = 0x677 := UInt64.toNat_inj.1 hkeeps.toNat_eq
  subst hdeadline
  refine ⟨hheight, hkeeps, fun submitter => ⟨?_, rfl⟩⟩
  have hsigner : a.signer = .ok seller.address := Wallet.signer_listing
  exact Node.verify_eq_ok_iff.2 ⟨⟨0x677, rfl, by decide⟩, hsigner, trivial⟩

end Client

end NftExchange
