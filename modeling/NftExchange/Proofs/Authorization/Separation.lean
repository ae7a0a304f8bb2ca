import Mathlib
import NftExchange.Proofs.Authorization.Fields

/-!
# Signed bytes tell roles apart

A role is no part of what is signed, so a signature could be presented under another role if that
role had a message with the same bytes. Whether it has one is decided by the shape of the bytes:
which of the texts that they consist of are as wide as an address (`Message.shape`). Two roles share
a schema and so every shape. Of the others, only a buyer without a seller and the seller of an
existing NFT share one, and their messages with the same bytes have the same fields.

* **`WellFormed.shape_mem`** — the shape of a message is one of its role's shapes;
* **`Role.shapes_disjoint`** — no shape belongs to two roles, with these exceptions;
* **`canonicalText_eq_iff_listing`** — what the exception for a buyer and a seller comes to;
* **`Message.canonicalBytes_eq_across_roles_iff`** — the whole statement.
-/

namespace NftExchange

/-! ## Shapes

What the bytes of a message tell about its role is the number of its fields and which of them are as
wide as an address. The shapes that a role can have follow from its schema, so that roles are
compared by finite tables. -/

/-- For each text that a field of this kind may leave in the bytes, whether it is as wide as an
address; amounts and heights are narrower. -/
def FieldKind.shapes : FieldKind → List (List Bool)
  | .amount | .height | .flag => [[false]]
  | .address => [[true]]
  | .addressOrNone => [[], [true]]
  | .url => [[false], [true]]

/-- The shapes of fields one after the other. -/
def FieldKind.joinShapes : List FieldKind → List (List Bool)
  | [] => [[]]
  | kind :: kinds => kind.shapes.flatMap fun shape => (joinShapes kinds).map (shape ++ ·)

/-- The shapes of a role's messages. -/
def Role.shapes (role : Role) : List (List Bool) :=
  FieldKind.joinShapes (role.schema.map role.kind)

/-- The shape that texts leave. -/
def shapeOf (texts : List String) : List Bool :=
  (texts.filter (· ≠ "")).map fun text => text.length = FieldLimits.addressWidth

theorem shapeOf_cons (text : String) (texts : List String) :
    shapeOf (text :: texts) = shapeOf [text] ++ shapeOf texts := by
  unfold shapeOf
  rw [← List.singleton_append, List.filter_append, List.map_append]

theorem shapeOf_singleton {text : String} (htext : text ≠ "") :
    shapeOf [text] = [decide (text.length = FieldLimits.addressWidth)] := by
  simp [shapeOf, htext]

/-- With narrow limits an amount is shorter than an address. -/
theorem FieldLimits.Holds.length_amount {text : String} (h : narrow.Holds .amount text) :
    text.length < addressWidth := by
  obtain ⟨n, hn, rfl⟩ := h
  exact length_quantity_lt 32 hn (by decide) (by decide)

/-- A field has one of the shapes of its kind. -/
theorem FieldLimits.Holds.shape_mem {kind : FieldKind} {text : String}
    (h : narrow.Holds kind text) : shapeOf [text] ∈ kind.shapes := by
  by_cases htext : text = ""
  · -- only an optional address can be empty
    have hkind : kind = .addressOrNone := by
      by_contra hkind
      exact h.ne_empty hkind htext
    subst hkind htext
    decide
  rw [shapeOf_singleton htext]
  cases kind with
  | amount => simp [Nat.ne_of_lt h.length_amount, FieldKind.shapes]
  | height => simp [Nat.ne_of_lt h.length_height, FieldKind.shapes]
  | address => simp [h.length_address, FieldKind.shapes]
  | addressOrNone => simp [h.length_addressOrNone htext, FieldKind.shapes]
  | flag => obtain rfl | rfl := h <;> decide
  | url =>
    by_cases hwidth : text.length = addressWidth <;> simp [hwidth, FieldKind.shapes]

namespace Message

variable {role role' : Role}

/-- The fields of a well-formed message have one of the shapes of its role. -/
theorem WellFormed.shape_mem {m : Message role} (h : m.WellFormed .narrow) :
    shapeOf m.fields ∈ role.shapes := by
  unfold WellFormed at h
  unfold Role.shapes
  generalize role.schema = names, m.fields = texts at h
  induction h with
  | nil => exact List.mem_singleton.2 rfl
  | cons hfirst _ ih =>
    rw [shapeOf_cons, List.map_cons, FieldKind.joinShapes, List.mem_flatMap]
    exact ⟨_, hfirst.shape_mem, List.mem_map_of_mem ih⟩

end Message

/-! ## Pairs of roles

Two pairs of roles have shapes in common: the two who let an exchange settle for them, and the two
sides of a trade. All other pairs are told apart by their shapes, but for the listings with a link,
which are told apart by their flag. -/

theorem Role.mem_all (role : Role) : role ∈ all := by
  cases role <;> decide

/-- The roles in which an account lets an exchange settle for it; they share a schema. -/
def Role.settlement : List Role := [buyerAuth, sellerAuth]

/-- The two sides of a trade in an existing NFT. -/
def Role.trade : List Role := [buyer, seller1]

/-- Outside the two pairs, no two roles without a link have a shape in common. -/
theorem Role.shapes_disjoint {role role' : Role} (hne : role ≠ role') (hseller2 : role ≠ .seller2)
    (hseller2' : role' ≠ .seller2) (hsettlement : ¬ (role ∈ settlement ∧ role' ∈ settlement))
    (htrade : ¬ (role ∈ trade ∧ role' ∈ trade)) :
    ∀ shape ∈ role.shapes, shape ∉ role'.shapes := by
  have hall : ∀ role ∈ all, ∀ role' ∈ all, role ≠ role' → role ≠ .seller2 → role' ≠ .seller2 →
      ¬ (role ∈ settlement ∧ role' ∈ settlement) → ¬ (role ∈ trade ∧ role' ∈ trade) →
      ∀ shape ∈ role.shapes, shape ∉ role'.shapes := by decide
  exact hall role role.mem_all role' role'.mem_all hne hseller2 hseller2' hsettlement htrade

namespace Message

variable {role role' : Role}

/-- An URL starts with a slash, and in other roles no field holds one. -/
theorem WellFormed.canonicalText_ne_seller2 {m : Message .seller2} {n : Message role'}
    (hm : m.WellFormed .narrow) (hn : n.WellFormed .narrow) (hrole' : role' ≠ .seller2) :
    m.canonicalText ≠ n.canonicalText := by
  intro h
  have hslash : '/' ∈ m.canonicalText.toList := by
    obtain ⟨_, _, metaUrl, _, _, _, rfl⟩ := exists_eq_seller2 m
    obtain ⟨-, -, ⟨first, hfirst, rfl⟩, -⟩ := wellFormed_seller2_iff.1 hm
    simp [canonicalText, seller2, List.mem_of_mem_head? hfirst]
  rw [h, ← join_nonempty, String.toList_join, List.mem_flatMap] at hslash
  obtain ⟨text, htext, hchar⟩ := hslash
  obtain hmark | hdigit := (hn.isMarked hrole' htext).char hchar
  · exact absurd hmark (by decide)
  · exact absurd hdigit (by decide)

/-- Outside the two pairs, messages of different roles never have the same text. -/
theorem WellFormed.canonicalText_ne {m : Message role} {n : Message role'}
    (hm : m.WellFormed .narrow) (hn : n.WellFormed .narrow) (hne : role ≠ role')
    (hsettlement : ¬ (role ∈ Role.settlement ∧ role' ∈ Role.settlement))
    (htrade : ¬ (role ∈ Role.trade ∧ role' ∈ Role.trade)) :
    m.canonicalText ≠ n.canonicalText := by
  by_cases hseller2 : role = .seller2
  · subst hseller2
    exact hm.canonicalText_ne_seller2 hn hne.symm
  by_cases hseller2' : role' = .seller2
  · subst hseller2'
    exact (hn.canonicalText_ne_seller2 hm hne).symm
  -- without a link in them both texts are cut into the same fields, so the shapes would be equal
  intro h
  have hshape : shapeOf m.fields = shapeOf n.fields :=
    congrArg (List.map _) (hm.nonempty_eq hn hseller2 hseller2' h)
  apply Role.shapes_disjoint hne hseller2 hseller2' hsettlement htrade _ hm.shape_mem
  rw [hshape]
  exact hn.shape_mem

/-! ## The two sides of a trade

An offer that names no seller is, byte for byte, a listing with the same fields. That is the only
way in which the two roles meet. -/

/-- An offer to anyone whose fields are those of a listing. -/
def offerOf (n : Message .seller1) : Message .buyer :=
  ⟨n.fields ++ [""], by rw [List.length_append, n.length_fields]; rfl⟩

/-- The offer that takes a listing as it stands has the listing's text. -/
theorem canonicalText_offerOf (n : Message .seller1) :
    (offerOf n).canonicalText = n.canonicalText := by
  show String.join (n.fields ++ [""]) = String.join n.fields
  rw [String.join_append]
  simp

/-- And it is well-formed if the listing is. -/
theorem WellFormed.offerOf {limits : FieldLimits} {n : Message .seller1}
    (h : n.WellFormed limits) : (offerOf n).WellFormed limits := by
  match n with
  | ⟨[amount, nftAddress, exchanger, deadline], _⟩ =>
    obtain ⟨hamount, hnft, hexchanger, hdeadline⟩ :
        limits.Holds .amount amount ∧ limits.Holds .address nftAddress
          ∧ limits.Holds .address exchanger ∧ limits.Holds .height deadline := by
      simpa [WellFormed, Role.schema, Role.kind] using h
    exact wellFormed_buyer_iff.2 ⟨hamount, .inr hnft, hexchanger, hdeadline, .inl rfl⟩

/-- An offer and a listing have the same text exactly if the offer repeats the listing and names no
seller. -/
theorem canonicalText_eq_iff_listing {limits : FieldLimits} {m : Message .buyer}
    {n : Message .seller1} (hm : m.WellFormed limits) (hn : n.WellFormed limits) :
    m.canonicalText = n.canonicalText ↔ m.fields = n.fields ++ [""] := by
  constructor
  · intro h
    rw [← canonicalText_offerOf] at h
    rw [hm.buyer_inj hn.offerOf h]
    rfl
  · intro h
    have hm : m = Message.offerOf n := ext h
    rw [hm, canonicalText_offerOf]

/-- One message is an offer to any seller, the other the listing with the same fields. -/
def OffersListing (m : Message role) (n : Message role') : Prop :=
  role = .buyer ∧ role' = .seller1 ∧ m.fields = n.fields ++ [""]

/-- Only the two sides of a trade can offer and list the same. -/
theorem OffersListing.mem_trade {m : Message role} {n : Message role'} (h : m.OffersListing n) :
    role ∈ Role.trade ∧ role' ∈ Role.trade := by
  obtain ⟨rfl, rfl, -⟩ := h
  decide

/-- Well-formed messages of two roles that do not share a schema have different bytes, unless one
is an offer to any seller and the other the listing with the same fields; these have the same
bytes. -/
theorem canonicalBytes_eq_across_roles_iff (hne : role ≠ role')
    (hsettlement : ¬ (role ∈ Role.settlement ∧ role' ∈ Role.settlement)) {m : Message role}
    {n : Message role'} (hm : m.WellFormed .narrow) (hn : n.WellFormed .narrow) :
    m.canonicalBytes = n.canonicalBytes ↔ m.OffersListing n ∨ n.OffersListing m := by
  rw [canonicalBytes_eq_iff]
  by_cases htrade : role ∈ Role.trade ∧ role' ∈ Role.trade
  · obtain ⟨hrole, hrole'⟩ := htrade
    simp only [Role.trade, List.mem_cons, List.not_mem_nil, or_false] at hrole hrole'
    -- of the four combinations two are one role twice, and the others are mirror images
    rcases hrole with rfl | rfl <;> rcases hrole' with rfl | rfl
    · exact absurd rfl hne
    · simp [OffersListing, canonicalText_eq_iff_listing hm hn]
    · simp [OffersListing, ← canonicalText_eq_iff_listing hn hm, eq_comm]
    · exact absurd rfl hne
  · constructor
    · intro h
      exact absurd h (hm.canonicalText_ne hn hne hsettlement htrade)
    · rintro (h | h)
      · exact absurd h.mem_trade htrade
      · exact absurd h.mem_trade.symm htrade

/-- The listing of the NFT that the open offer is for. -/
def someListing : Message .seller1 :=
  seller1 (Hex.quantity 100) someNft.text someExchange.text "0x2710"

theorem wellFormed_someListing : someListing.WellFormed .narrow := by
  have hamount : FieldLimits.narrow.Holds .amount (Hex.quantity 100) := ⟨100, by decide, rfl⟩
  have hnft : FieldLimits.narrow.Holds .address someNft.text := ⟨_, rfl, rfl⟩
  have hexchange : FieldLimits.narrow.Holds .address someExchange.text := ⟨_, rfl, rfl⟩
  have hdeadline : FieldLimits.narrow.Holds .height "0x2710" := ⟨10000, rfl⟩
  exact .cons hamount (.cons hnft (.cons hexchange (.cons hdeadline .nil)))

/-- The open offer has the bytes of the listing, the offer to one seller has others. -/
theorem canonicalBytes_eq_across_roles_iff_listing :
    (openOffer "0x2710").canonicalBytes = someListing.canonicalBytes
      ∧ (directOffer "0x2710").canonicalBytes ≠ someListing.canonicalBytes := by
  constructor
  · exact (canonicalBytes_eq_across_roles_iff (by decide) (by decide)
      (wellFormed_openOffer 10000 (by decide)) wellFormed_someListing).2 (.inl ⟨rfl, rfl, rfl⟩)
  · intro h
    have hiff := canonicalBytes_eq_across_roles_iff (by decide) (by decide)
      (wellFormed_directOffer 10000 (by decide)) wellFormed_someListing
    rcases hiff.1 h with ⟨-, -, hfields⟩ | ⟨hrole, -⟩
    · exact absurd hfields (by decide)
    · cases hrole

/-- So a signature over an open offer is one over a listing: bytes do not tell these roles apart. -/
theorem not_canonicalBytes_ne_across_roles :
    ¬ ∀ (role role' : Role) (m : Message role) (n : Message role'), role ≠ role' →
      ¬ (role ∈ Role.settlement ∧ role' ∈ Role.settlement) → m.WellFormed .narrow →
      n.WellFormed .narrow → m.canonicalBytes ≠ n.canonicalBytes := by
  intro hclaim
  apply hclaim .buyer .seller1 (openOffer "0x2710") someListing (by decide) (by decide)
    (wellFormed_openOffer 10000 (by decide)) wellFormed_someListing
  rw [canonicalBytes_eq_iff]
  exact canonicalText_offerOf someListing

end Message

end NftExchange
