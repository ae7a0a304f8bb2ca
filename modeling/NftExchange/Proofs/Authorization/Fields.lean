import Mathlib
import NftExchange.Authorization.Role
import NftExchange.Proofs.Hex.Joined
import NftExchange.Proofs.Utf8

/-!
# Signed bytes determine signed fields

The fields of a message are signed without anything between them. Where one of them differs and all
others agree, the bytes differ for that alone. Where several differ, the bytes could still agree, as
two fields can be cut out of one text in many ways; but the texts that fields are made of leave one
way only (`Message.WellFormed`).

* **`WellFormed.nonempty_eq`** — in all roles but one, the fields are marked digits, and the bytes
  show all of them that are not empty;
* **`WellFormed.buyer_inj`** — where fields may be empty, an address is told from a height by its
  width;
* **`WellFormed.seller2_inj`** — free text stands between marked digits, which are taken off from
  both ends;
* **`Message.canonicalBytes_determines`** — both statements for every role.
-/

namespace NftExchange

/-! ## What fields hold

A field holds a quantity, a height, an address, a flag or a link, and some may be left empty. The
texts of these kinds begin and end in ways that can be told apart, which is all that the bytes of a
message keep of its field boundaries. -/

/-- What a field is to hold. -/
inductive FieldKind where
  | amount
  | height
  | address
  /-- An address or nothing. -/
  | addressOrNone
  | flag
  | url
deriving DecidableEq

/-- Bounds on what fields hold: amounts are below `amount`, and an URL starts with a character that
satisfies `url`. -/
structure FieldLimits where
  amount : Nat
  url : Char → Prop

namespace FieldLimits

/-- Any amount, and an URL that does not start with a hexadecimal digit. -/
def wide : FieldLimits := ⟨2 ^ 256, fun c => ¬ Hex.IsDigit c⟩

/-- Amounts of 128 bits, and an URL that starts with a slash. -/
def narrow : FieldLimits := ⟨2 ^ 128, (· = '/')⟩

/-- A text is what a field of this kind is to hold. -/
def Holds (limits : FieldLimits) : FieldKind → String → Prop
  | .amount, text => ∃ n : UInt256, n.toNat < limits.amount ∧ text = Hex.quantity n.toNat
  | .height, text => ∃ n : UInt64, text = Hex.quantity n.toNat
  | .address, text => ∃ d : Hex.Digits, d.chars.length = 40 ∧ text = d.text
  | .addressOrNone, text => text = "" ∨ ∃ d : Hex.Digits, d.chars.length = 40 ∧ text = d.text
  | .flag, text => text = "0" ∨ text = "1"
  | .url, text => ∃ c ∈ text.toList.head?, limits.url c

variable {limits : FieldLimits} {text : String}

/-- Only an optional address may be empty. -/
theorem Holds.ne_empty {kind : FieldKind} (h : limits.Holds kind text)
    (hkind : kind ≠ .addressOrNone) : text ≠ "" := by
  -- all but flags and links are digits behind a mark
  cases kind with
  | amount =>
    obtain ⟨n, -, rfl⟩ := h
    exact (Hex.Digits.ofNat n.toNat).text_ne_empty
  | height =>
    obtain ⟨n, rfl⟩ := h
    exact (Hex.Digits.ofNat n.toNat).text_ne_empty
  | address =>
    obtain ⟨d, -, rfl⟩ := h
    exact d.text_ne_empty
  | addressOrNone => exact absurd rfl hkind
  | flag => obtain rfl | rfl := h <;> decide
  | url =>
    obtain ⟨c, hc, -⟩ := h
    rintro rfl
    cases hc

/-- A field that is neither a flag nor a link is empty or starts with the mark of hexadecimal text.
-/
theorem Holds.isMarked {kind : FieldKind} (h : limits.Holds kind text) (hflag : kind ≠ .flag)
    (hurl : kind ≠ .url) (htext : text ≠ "") : Hex.IsMarked text := by
  -- the kinds left over are all written as digits behind a mark
  cases kind with
  | amount =>
    obtain ⟨n, -, rfl⟩ := h
    exact ⟨.ofNat n.toNat, rfl⟩
  | height =>
    obtain ⟨n, rfl⟩ := h
    exact ⟨.ofNat n.toNat, rfl⟩
  | address =>
    obtain ⟨d, -, rfl⟩ := h
    exact ⟨d, rfl⟩
  | addressOrNone =>
    obtain rfl | ⟨d, -, rfl⟩ := h
    · exact absurd rfl htext
    · exact ⟨d, rfl⟩
  | flag => exact absurd rfl hflag
  | url => exact absurd rfl hurl

/-! ### Widths

Addresses, heights and amounts are told apart by their lengths, which is what remains of them in a
text without delimiters. -/

/-- The width of an address with its mark. -/
def addressWidth : Nat := 42

/-- Addresses all have one length. -/
theorem Holds.length_address (h : limits.Holds .address text) : text.length = addressWidth := by
  obtain ⟨d, hwidth, rfl⟩ := h
  rw [d.length_text, hwidth]
  rfl

/-- An optional address that is there has the length of an address. -/
theorem Holds.length_addressOrNone (h : limits.Holds .addressOrNone text) (htext : text ≠ "") :
    text.length = addressWidth := by
  have haddress : limits.Holds .address text := h.resolve_left htext
  exact haddress.length_address

/-- A quantity of fewer than forty digits is narrower than an address. -/
theorem length_quantity_lt (width : Nat) {n : Nat} (h : n < 16 ^ width) (hpos : 0 < width)
    (hwidth : width < 40) : (Hex.quantity n).length < addressWidth := by
  have hle := Hex.Digits.length_ofNat_le h hpos
  rw [← Hex.Digits.text_ofNat, Hex.Digits.length_text]
  unfold addressWidth
  omega

/-- A height is always shorter than an address, so the two cannot be taken for each other. -/
theorem Holds.length_height (h : limits.Holds .height text) : text.length < addressWidth := by
  obtain ⟨n, rfl⟩ := h
  exact length_quantity_lt 16 n.toNat_lt (by decide) (by decide)

end FieldLimits

/-- What the role's field of this name is to hold. -/
def Role.kind (role : Role) (name : String) : FieldKind :=
  match name with
  | "amount" | "royalty" => .amount
  | "block_number" => .height
  | "exclusive_flag" => .flag
  | "meta_url" => .url
  | "nft_address" | "seller" => if role = .buyer then .addressOrNone else .address
  | _ => .address

/-- Free text and flags occur in one role only. -/
theorem Role.kind_ne_of_mem_schema {role : Role} (hrole : role ≠ .seller2) :
    ∀ name ∈ role.schema, role.kind name ≠ .flag ∧ role.kind name ≠ .url := by
  cases role with
  | seller2 => exact absurd rfl hrole
  | _ => decide

/-- Fields that may be empty occur in one role only, too. -/
theorem Role.kind_ne_addressOrNone {role : Role} (hrole : role ≠ .buyer) :
    ∀ name ∈ role.schema, role.kind name ≠ .addressOrNone := by
  cases role with
  | buyer => exact absurd rfl hrole
  | _ => decide

namespace Message

/-! ## Well-formed messages

A message is well-formed if each of its fields holds what its name asks for. Empty fields leave no
trace in the bytes, so the argument is about the fields that are not empty: every one of them starts
with a mark, and marks occur nowhere else, which is how the bytes are cut into fields again. -/

variable {role role' : Role} {limits : FieldLimits}

/-- Every field holds what it is to hold. -/
def WellFormed (limits : FieldLimits) (m : Message role) : Prop :=
  List.Forall₂ (fun name text => limits.Holds (role.kind name) text) role.schema m.fields

/-- The fields that leave a trace in the signed bytes. -/
def nonempty (m : Message role) : List String := m.fields.filter (· ≠ "")

theorem canonicalBytes_eq_iff {m : Message role} {n : Message role'} :
    m.canonicalBytes = n.canonicalBytes ↔ m.canonicalText = n.canonicalText :=
  Bytes.ofText_inj

/-- Empty fields can be left out of the text. -/
theorem join_nonempty (m : Message role) : String.join m.nonempty = m.canonicalText := by
  unfold nonempty canonicalText
  induction m.fields with
  | nil => rfl
  | cons text texts ih =>
    by_cases htext : text = ""
    · subst htext
      simpa using ih
    · rw [List.filter_cons_of_pos (by simpa using htext), String.join_cons, String.join_cons, ih]

/-- Each field of a well-formed message holds what some name of the schema asks for. -/
theorem WellFormed.exists_name {m : Message role} (h : m.WellFormed limits) {text : String}
    (htext : text ∈ m.fields) : ∃ name ∈ role.schema, limits.Holds (role.kind name) text := by
  unfold WellFormed at h
  generalize role.schema = names, m.fields = texts at h htext
  induction h with
  | nil => cases htext
  | cons hfirst _ ih =>
    rcases List.mem_cons.1 htext with rfl | htext
    · exact ⟨_, List.mem_cons_self, hfirst⟩
    · obtain ⟨name, hname, hholds⟩ := ih htext
      exact ⟨name, List.mem_cons_of_mem _ hname, hholds⟩

/-- Outside the listings of what is not minted yet, each field that is not empty has a mark. -/
theorem WellFormed.isMarked {m : Message role} (h : m.WellFormed limits) (hrole : role ≠ .seller2)
    {text : String} (htext : text ∈ m.nonempty) : Hex.IsMarked text := by
  obtain ⟨hmem, hne⟩ := List.mem_filter.1 htext
  obtain ⟨name, hname, hholds⟩ := h.exists_name hmem
  obtain ⟨hflag, hurl⟩ := Role.kind_ne_of_mem_schema hrole name hname
  exact hholds.isMarked hflag hurl (by simpa using hne)

/-- The bytes show the fields that are not empty, in whichever of these roles they are signed. -/
theorem WellFormed.nonempty_eq {limits' : FieldLimits} {m : Message role} {n : Message role'}
    (hm : m.WellFormed limits) (hn : n.WellFormed limits') (hrole : role ≠ .seller2)
    (hrole' : role' ≠ .seller2) (h : m.canonicalText = n.canonicalText) :
    m.nonempty = n.nonempty := by
  apply Hex.join_inj (fun _ => hm.isMarked hrole) (fun _ => hn.isMarked hrole')
  rw [join_nonempty, join_nonempty, h]

/-- Only an offer can have empty fields. -/
theorem WellFormed.nonempty_eq_fields {m : Message role} (h : m.WellFormed limits)
    (hrole : role ≠ .buyer) : m.nonempty = m.fields := by
  unfold nonempty
  rw [List.filter_eq_self]
  intro text htext
  obtain ⟨name, hname, hholds⟩ := h.exists_name htext
  simpa using hholds.ne_empty (Role.kind_ne_addressOrNone hrole name hname)

/-! ## Buyers

An offer has two optional addresses, one before the exchange's address and one at the end. Which of
them are there follows from the height between them, since no address is as short as a height. -/

theorem exists_eq_buyer (m : Message .buyer) : ∃ amount nftAddress exchanger deadline seller,
    m = buyer amount nftAddress exchanger deadline seller := by
  match m with
  | ⟨[amount, nftAddress, exchanger, deadline, seller], _⟩ =>
    exact ⟨amount, nftAddress, exchanger, deadline, seller, rfl⟩

theorem wellFormed_buyer_iff {amount nftAddress exchanger deadline seller : String} :
    (buyer amount nftAddress exchanger deadline seller).WellFormed limits ↔
      limits.Holds .amount amount ∧ limits.Holds .addressOrNone nftAddress
        ∧ limits.Holds .address exchanger ∧ limits.Holds .height deadline
        ∧ limits.Holds .addressOrNone seller := by
  simp [WellFormed, buyer, Role.schema, Role.kind]

/-- What an optional address adds to the fields that are not empty. -/
theorem filter_singleton_inj {s t : String} (h : [s].filter (· ≠ "") = [t].filter (· ≠ "")) :
    s = t := by
  by_cases hs : s = "" <;> by_cases ht : t = "" <;> simp_all

/-- The fields that are not empty, as a stretch of addresses, the height, and the seller if there is
one. -/
theorem nonempty_buyer {amount nftAddress exchanger deadline seller : String}
    (h : (buyer amount nftAddress exchanger deadline seller).WellFormed limits) :
    (buyer amount nftAddress exchanger deadline seller).nonempty
      = amount :: (([nftAddress].filter (· ≠ "") ++ [exchanger])
        ++ deadline :: [seller].filter (· ≠ "")) := by
  obtain ⟨hamount, -, hexchanger, hdeadline, -⟩ := wellFormed_buyer_iff.1 h
  have hkeep {kind : FieldKind} {text : String} (htext : limits.Holds kind text)
      (hkind : kind ≠ .addressOrNone) : [text].filter (· ≠ "") = [text] := by
    simpa using htext.ne_empty hkind
  show ([amount] ++ [nftAddress] ++ [exchanger] ++ [deadline] ++ [seller]).filter (· ≠ "") = _
  simp only [List.filter_append]
  rw [hkeep hamount (by decide), hkeep hexchanger (by decide), hkeep hdeadline (by decide)]
  simp only [List.append_assoc, List.cons_append, List.nil_append]

/-- Behind the amount stand texts as wide as an address up to the height, which is narrower. -/
theorem WellFormed.buyer_inj {m n : Message .buyer} (hm : m.WellFormed limits)
    (hn : n.WellFormed limits) (h : m.canonicalText = n.canonicalText) : m = n := by
  have hnonempty := hm.nonempty_eq hn (by decide) (by decide) h
  obtain ⟨amount, nftAddress, exchanger, deadline, seller, rfl⟩ := exists_eq_buyer m
  obtain ⟨amount', nftAddress', exchanger', deadline', seller', rfl⟩ := exists_eq_buyer n
  rw [nonempty_buyer hm, nonempty_buyer hn] at hnonempty
  injection hnonempty with hamount hrest
  -- what stands before the height is as wide as an address, and the height is not
  have hwide {nft exchanger : String} (hnft : limits.Holds .addressOrNone nft)
      (hexchanger : limits.Holds .address exchanger) :
      ∀ text ∈ [nft].filter (· ≠ "") ++ [exchanger], text.length = FieldLimits.addressWidth := by
    intro text htext
    rcases List.mem_append.1 htext with htext | htext
    · obtain ⟨hmem, hne⟩ := List.mem_filter.1 htext
      rw [List.mem_singleton.1 hmem] at hne ⊢
      exact hnft.length_addressOrNone (by simpa using hne)
    · rw [List.mem_singleton.1 htext]
      exact hexchanger.length_address
  have hnarrow {deadline : String} {rest : List String} (hdeadline : limits.Holds .height deadline) :
      ∀ text ∈ (deadline :: rest).head?, ¬ text.length = FieldLimits.addressWidth := by
    rintro text ⟨⟩
    exact Nat.ne_of_lt hdeadline.length_height
  obtain ⟨-, hnft, hexchanger, hdeadline, -⟩ := wellFormed_buyer_iff.1 hm
  obtain ⟨-, hnft', hexchanger', hdeadline', -⟩ := wellFormed_buyer_iff.1 hn
  -- so the stretch of addresses ends at the same place in both offers
  obtain ⟨hfront, hback⟩ := stretch_inj (hwide hnft hexchanger) (hwide hnft' hexchanger')
    (hnarrow hdeadline) (hnarrow hdeadline') hrest
  obtain ⟨hnfts, hexchangers⟩ := List.append_inj' hfront rfl
  injection hexchangers with hexchangers
  injection hback with hdeadlines hsellers
  rw [hamount, filter_singleton_inj hnfts, hexchangers, hdeadlines, filter_singleton_inj hsellers]

/-! ## Sellers of what is not minted yet

These messages have a link and a flag without marks in the middle of them. They are taken apart from
both ends: marked fields come off on either side, the flag is the last character of what is left,
and the link starts where the digits of the royalty stop. -/

theorem exists_eq_seller2 (m : Message .seller2) :
    ∃ amount royalty metaUrl exclusiveFlag exchanger deadline,
      m = seller2 amount royalty metaUrl exclusiveFlag exchanger deadline := by
  match m with
  | ⟨[amount, royalty, metaUrl, exclusiveFlag, exchanger, deadline], _⟩ =>
    exact ⟨amount, royalty, metaUrl, exclusiveFlag, exchanger, deadline, rfl⟩

theorem wellFormed_seller2_iff {amount royalty metaUrl exclusiveFlag exchanger deadline : String} :
    (seller2 amount royalty metaUrl exclusiveFlag exchanger deadline).WellFormed limits ↔
      limits.Holds .amount amount ∧ limits.Holds .amount royalty ∧ limits.Holds .url metaUrl
        ∧ limits.Holds .flag exclusiveFlag ∧ limits.Holds .address exchanger
        ∧ limits.Holds .height deadline := by
  simp [WellFormed, seller2, Role.schema, Role.kind]

/-- A flag is one character, so it can be cut off at the end. -/
theorem flag_inj {s t flag flag' : String} (hflag : limits.Holds .flag flag)
    (hflag' : limits.Holds .flag flag') (h : s ++ flag = t ++ flag') : s = t ∧ flag = flag' := by
  have hone {flag : String} (hflag : limits.Holds .flag flag) : flag.toList.length = 1 := by
    obtain rfl | rfl := hflag <;> rfl
  have hlist := congrArg String.toList h
  rw [String.toList_append, String.toList_append] at hlist
  obtain ⟨hst, hflags⟩ := List.append_inj' hlist (by rw [hone hflag, hone hflag'])
  exact ⟨String.toList_inj.1 hst, String.toList_inj.1 hflags⟩

/-- No link starts with a hexadecimal digit, so the number before it ends where the link begins. -/
theorem not_isDigit_url {url : String} (hurl : FieldLimits.wide.Holds .url url) :
    ∀ c ∈ url.toList.head?, ¬ Hex.IsDigit c := by
  obtain ⟨first, hfirst, hdigit⟩ := hurl
  intro c hc
  rw [Option.mem_unique hc hfirst]
  exact hdigit

/-- The height, the exchange and the flag come off at the end, the amount and the royalty at the
front. -/
theorem WellFormed.seller2_inj {m n : Message .seller2} (hm : m.WellFormed .wide)
    (hn : n.WellFormed .wide) (h : m.canonicalText = n.canonicalText) : m = n := by
  obtain ⟨_, _, metaUrl, exclusiveFlag, _, _, rfl⟩ := exists_eq_seller2 m
  obtain ⟨_, _, metaUrl', exclusiveFlag', _, _, rfl⟩ := exists_eq_seller2 n
  obtain ⟨⟨amount, -, rfl⟩, ⟨royalty, -, rfl⟩, hurl, hflag, ⟨exchanger, -, rfl⟩, deadline, rfl⟩ :=
    wellFormed_seller2_iff.1 hm
  obtain ⟨⟨amount', -, rfl⟩, ⟨royalty', -, rfl⟩, hurl', hflag', ⟨exchanger', -, rfl⟩, deadline',
    rfl⟩ := wellFormed_seller2_iff.1 hn
  simp only [← Hex.Digits.text_ofNat] at h ⊢
  have hends : ((((Hex.Digits.ofNat amount.toNat).text
          ++ ((Hex.Digits.ofNat royalty.toNat).text ++ metaUrl)) ++ exclusiveFlag) ++ exchanger.text)
          ++ (Hex.Digits.ofNat deadline.toNat).text
      = ((((Hex.Digits.ofNat amount'.toNat).text
          ++ ((Hex.Digits.ofNat royalty'.toNat).text ++ metaUrl')) ++ exclusiveFlag')
          ++ exchanger'.text) ++ (Hex.Digits.ofNat deadline'.toNat).text := by
    simpa [canonicalText, seller2, String.append_assoc] using h
  -- the marks give the height and the exchange, from the back
  obtain ⟨hends, hdeadline⟩ := Hex.Digits.append_text_inj hends
  obtain ⟨hends, hexchanger⟩ := Hex.Digits.append_text_inj hends
  obtain ⟨hends, hflags⟩ := flag_inj hflag hflag' hends
  -- and the amount and the royalty, from the front
  obtain ⟨hamount, hends⟩ := Hex.Digits.text_append_text_inj hends
  obtain ⟨hroyalty, hurls⟩ := Hex.Digits.text_append_inj (not_isDigit_url hurl)
    (not_isDigit_url hurl') hends
  rw [hamount, hroyalty, hurls, hflags, hexchanger, hdeadline]

/-! ## All roles

Whatever the role, well-formed messages with the same bytes are the same message; and for texts of
any kind two messages that differ in one field only never have the same bytes. -/

/-- The bytes of a well-formed message determine it. -/
theorem WellFormed.inj {m n : Message role} (hm : m.WellFormed .wide) (hn : n.WellFormed .wide)
    (h : m.canonicalBytes = n.canonicalBytes) : m = n := by
  have htext := canonicalBytes_eq_iff.1 h
  by_cases hbuyer : role = .buyer
  · subst hbuyer
    exact hm.buyer_inj hn htext
  by_cases hseller2 : role = .seller2
  · subst hseller2
    exact hm.seller2_inj hn htext
  -- in all other roles no field is empty and each has its mark
  apply ext
  calc m.fields
    _ = m.nonempty := (hm.nonempty_eq_fields hbuyer).symm
    _ = n.nonempty := hm.nonempty_eq hn hseller2 hseller2 htext
    _ = n.fields := hn.nonempty_eq_fields hbuyer

/-- What stands before and after the one field that differs is the same, whatever the fields say. -/
theorem canonicalText_ne (m n : Message role) {i : Nat} (hi : m.fields[i]? ≠ n.fields[i]?)
    (hothers : ∀ j ≠ i, m.fields[j]? = n.fields[j]?) : m.canonicalText ≠ n.canonicalText := by
  have hlength : m.fields.length = n.fields.length := by
    rw [m.length_fields, n.length_fields]
  have hlt : i < m.fields.length := by
    by_contra hge
    rw [Nat.not_lt] at hge
    rw [List.getElem?_eq_none hge, List.getElem?_eq_none (by omega)] at hi
    exact hi rfl
  have hlt' : i < n.fields.length := by omega
  have hbefore : m.fields.take i = n.fields.take i := by
    apply List.ext_getElem?
    intro j
    rw [List.getElem?_take, List.getElem?_take]
    split
    · exact hothers j (by omega)
    · rfl
  have hafter : m.fields.drop (i + 1) = n.fields.drop (i + 1) := by
    apply List.ext_getElem?
    intro j
    rw [List.getElem?_drop, List.getElem?_drop]
    exact hothers _ (by omega)
  have hsplit {fields : List String} (hlt : i < fields.length) :
      String.join fields
        = String.join (fields.take i) ++ (fields[i] ++ String.join (fields.drop (i + 1))) := by
    rw [← String.join_cons, ← List.drop_eq_getElem_cons hlt, ← String.join_append,
      List.take_append_drop]
  -- the same texts stand around both fields, so they can be cancelled
  intro h
  unfold canonicalText at h
  rw [hsplit hlt, hsplit hlt', hbefore, hafter, String.append_right_inj,
    String.append_left_inj] at h
  apply hi
  rw [List.getElem?_eq_getElem hlt, List.getElem?_eq_getElem hlt', h]

/-- Within a role the signed bytes determine the signed fields. Two messages that differ in one
field have different bytes, whatever the fields say; two messages whose fields are well-formed have
the same bytes only if they are the same. -/
theorem canonicalBytes_determines (role : Role) :
    (∀ m n : Message role,
      (∃ i : Nat, m.fields[i]? ≠ n.fields[i]? ∧ ∀ j ≠ i, m.fields[j]? = n.fields[j]?) →
        m.canonicalBytes ≠ n.canonicalBytes)
      ∧ ∀ m n : Message role, m.WellFormed .wide → n.WellFormed .wide →
        m.canonicalBytes = n.canonicalBytes → m = n := by
  constructor
  · rintro m n ⟨i, hi, hothers⟩ h
    exact canonicalText_ne m n hi hothers (canonicalBytes_eq_iff.1 h)
  · intro m n hm hn h
    exact hm.inj hn h

/-- The same digit as often as it takes for an address. -/
def fortyDigits (c : Char) (h : Hex.IsDigit c) : Hex.Digits :=
  ⟨List.replicate 40 c, fun _ hd => List.eq_of_mem_replicate hd ▸ h⟩

/-- The digits of an NFT's address. -/
def someNft : Hex.Digits := fortyDigits 'a' (by decide)

/-- The digits of an exchange's address. -/
def someExchange : Hex.Digits := fortyDigits 'B' (by decide)

/-- An offer for an NFT, whoever sells it. -/
def openOffer (deadline : String) : Message .buyer :=
  buyer (Hex.quantity 100) someNft.text someExchange.text deadline ""

/-- An offer to one seller for an NFT that does not exist yet. -/
def directOffer (deadline : String) : Message .buyer :=
  buyer (Hex.quantity 100) "" someExchange.text deadline someNft.text

theorem wellFormed_openOffer (deadline : UInt64) (h : 100 < limits.amount) :
    (openOffer (Hex.quantity deadline.toNat)).WellFormed limits :=
  wellFormed_buyer_iff.2
    ⟨⟨100, h, rfl⟩, .inr ⟨_, rfl, rfl⟩, ⟨_, rfl, rfl⟩, ⟨deadline, rfl⟩, .inl rfl⟩

theorem wellFormed_directOffer (deadline : UInt64) (h : 100 < limits.amount) :
    (directOffer (Hex.quantity deadline.toNat)).WellFormed limits :=
  wellFormed_buyer_iff.2
    ⟨⟨100, h, rfl⟩, .inl rfl, ⟨_, rfl, rfl⟩, ⟨deadline, rfl⟩, .inr ⟨_, rfl, rfl⟩⟩

/-- The same two addresses in other fields are another offer, and so is a deadline that is none. -/
theorem canonicalBytes_determines_offers :
    (openOffer "0x2710").canonicalBytes ≠ (directOffer "0x2710").canonicalBytes
      ∧ (openOffer "0x2710").canonicalBytes ≠ (openOffer "tomorrow").canonicalBytes := by
  obtain ⟨hone, hinj⟩ := canonicalBytes_determines .buyer
  constructor
  · intro h
    have heq := hinj _ _ (wellFormed_openOffer 10000 (by decide))
      (wellFormed_directOffer 10000 (by decide)) h
    exact absurd heq (by decide)
  · -- the two offers differ in their deadline only, which is the fourth of the five fields
    apply hone
    refine ⟨3, by decide, fun j hj => ?_⟩
    match j with
    | 0 | 1 | 2 | 4 => rfl
    | 3 => exact absurd rfl hj
    | j + 5 => rfl

end Message

end NftExchange
