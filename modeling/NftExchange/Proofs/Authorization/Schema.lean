import Mathlib
import NftExchange.Proofs.Authorization.Transport
import NftExchange.Proofs.Json.Parsed

/-!
# What is transported is what was signed

A message is signed by the positions of its fields and transported by their names. A party that
knows nothing of a message but its transported object looks the names of the schema up, one after
the other, and has the fields in the order in which they were signed.

* **`Message.Names.eq_zip`** — each field of each kind of message is transported under its own name;
* **`Authorization.lookup_of_perm`** — a reading of the object may have its members in any order;
* **`Authorization.exists_reading_of_parse`** — and the parser's reading is one of them;
* **`Authorization.toJson_follows_schema`** — the message is rebuilt from any reading.
-/

namespace NftExchange

open Json (ObjectText)

namespace Message

variable {role : Role}

/-! ## Names of fields

The names of each kind of message are written down once more, beside its constructor, so that no
name can have moved to another position in the schema and in the messages alike. -/

/-- The fields of each kind of message with the names under which they are known. -/
inductive Names : {role : Role} → Message role → List (String × String) → Prop where
  | buyer (amount nftAddress exchanger deadline seller : String) :
      Names (buyer amount nftAddress exchanger deadline seller)
        [("amount", amount), ("nft_address", nftAddress), ("exchanger", exchanger),
          ("block_number", deadline), ("seller", seller)]
  | seller1 (amount nftAddress exchanger deadline : String) :
      Names (seller1 amount nftAddress exchanger deadline)
        [("amount", amount), ("nft_address", nftAddress), ("exchanger", exchanger),
          ("block_number", deadline)]
  | seller2 (amount royalty metaUrl exclusiveFlag exchanger deadline : String) :
      Names (seller2 amount royalty metaUrl exclusiveFlag exchanger deadline)
        [("amount", amount), ("royalty", royalty), ("meta_url", metaUrl),
          ("exclusive_flag", exclusiveFlag), ("exchanger", exchanger), ("block_number", deadline)]
  | exchangerAuth (owner recipient deadline : String) :
      Names (exchangerAuth owner recipient deadline)
        [("exchanger_owner", owner), ("to", recipient), ("block_number", deadline)]
  | buyerAuth (exchanger deadline : String) :
      Names (buyerAuth exchanger deadline) [("exchanger", exchanger), ("block_number", deadline)]
  | sellerAuth (exchanger deadline : String) :
      Names (sellerAuth exchanger deadline) [("exchanger", exchanger), ("block_number", deadline)]
  | delegate (address pledgeAccount : String) :
      Names (delegate address pledgeAccount)
        [("address", address), ("pledge_account", pledgeAccount)]

/-- Every message is one of the seven kinds, with names for its fields. -/
theorem exists_names (m : Message role) : ∃ named, m.Names named := by
  match role, m with
  | .buyer, ⟨[amount, nftAddress, exchanger, deadline, seller], _⟩ =>
    exact ⟨_, .buyer amount nftAddress exchanger deadline seller⟩
  | .seller1, ⟨[amount, nftAddress, exchanger, deadline], _⟩ =>
    exact ⟨_, .seller1 amount nftAddress exchanger deadline⟩
  | .seller2, ⟨[amount, royalty, metaUrl, exclusiveFlag, exchanger, deadline], _⟩ =>
    exact ⟨_, .seller2 amount royalty metaUrl exclusiveFlag exchanger deadline⟩
  | .exchangerAuth, ⟨[owner, recipient, deadline], _⟩ =>
    exact ⟨_, .exchangerAuth owner recipient deadline⟩
  | .buyerAuth, ⟨[exchanger, deadline], _⟩ => exact ⟨_, .buyerAuth exchanger deadline⟩
  | .sellerAuth, ⟨[exchanger, deadline], _⟩ => exact ⟨_, .sellerAuth exchanger deadline⟩
  | .delegate, ⟨[address, pledgeAccount], _⟩ => exact ⟨_, .delegate address pledgeAccount⟩

/-- These names are those of the schema, in its order. -/
theorem Names.eq_zip {m : Message role} {named : List (String × String)} (h : m.Names named) :
    named = role.schema.zip m.fields := by
  cases h <;> rfl

theorem map_fst_zip_schema (m : Message role) :
    (role.schema.zip m.fields).map Prod.fst = role.schema :=
  List.map_fst_zip (Nat.le_of_eq m.length_fields.symm)

/-! ## Looking names up

A reader has the members in an order of its own. As no name occurs twice, looking a name up does not
depend on that order. -/

/-- The message that the names of the schema, looked up one after the other, give. -/
def ofReading? (role : Role) (reading : List (String × String)) : Option (Message role) :=
  (role.schema.mapM fun name => reading.lookup name).bind (ofFields? role)

end Message

/-- Looking a name up gives the first text under it. -/
theorem lookup_eq_head?_valuesOf (pairs : List (String × String)) (name : String) :
    pairs.lookup name = (valuesOf pairs name).head? := by
  induction pairs with
  | nil => rfl
  | cons pair pairs ih =>
    obtain ⟨key, text⟩ := pair
    rw [List.lookup_cons]
    by_cases heq : name = key
    · subst heq
      rw [beq_self_eq_true, valuesOf_cons_self (name, text)]
      rfl
    · rw [beq_false_of_ne heq, valuesOf_cons_of_ne (Ne.symm heq), ih]

/-- A traversal in which every step has a result gives all these results. -/
theorem mapM_eq_some_map {α β : Type} {f : α → Option β} {g : α → β} {as : List α}
    (h : ∀ a ∈ as, f a = some (g a)) : as.mapM f = some (as.map g) := by
  induction as with
  | nil => rfl
  | cons a as ih =>
    rw [List.mapM_cons, h a List.mem_cons_self, ih fun b hb => h b (List.mem_cons_of_mem _ hb)]
    rfl

/-- What is rearranged after it was mapped could have been rearranged before. -/
theorem exists_map_eq_of_perm {α β : Type} {f : α → β} {as : List α} {bs : List β}
    (h : bs.Perm (as.map f)) : ∃ as' : List α, as'.Perm as ∧ as'.map f = bs := by
  have hmap : List.Forall₂ (fun b a => f a = b) (as.map f) as := by
    rw [List.forall₂_map_left_iff, List.forall₂_same]
    exact fun _ _ => rfl
  obtain ⟨as', hbs, hperm⟩ := List.perm_comp_forall₂ h hmap
  refine ⟨as', hperm, ?_⟩
  rw [← List.forall₂_eq_eq_eq, List.forall₂_map_left_iff]
  exact hbs.flip

namespace Authorization

variable {role : Role} {reading : List (String × String)}

/-- The names of a transported object: those of the schema, and the signature last. -/
theorem map_fst_texts (a : Authorization role) :
    a.texts.map Prod.fst = role.schema ++ ["sig"] := by
  rw [texts, List.map_append, a.message.map_fst_zip_schema]
  rfl

/-- In any reading of an authorization each field is found under its name, and the signature too. -/
theorem lookup_of_perm {a : Authorization role} (h : reading.Perm a.texts) :
    (∀ name ∈ role.schema, reading.lookup name = some (a.message.get name))
      ∧ reading.lookup "sig" = some a.sig := by
  obtain ⟨hfields, hsig⟩ := collect_eq_ok_iff.1 a.collect_texts
  have hlookup {name text : String} (hvalues : valuesOf a.texts name = [text]) :
      reading.lookup name = some text := by
    have hperm : (valuesOf reading name).Perm [text] := hvalues ▸ (h.filter _).map Prod.snd
    rw [lookup_eq_head?_valuesOf, List.perm_singleton.1 hperm]
    rfl
  exact ⟨fun name hname => hlookup (hfields name hname), hlookup hsig⟩

theorem nodup_texts (a : Authorization role) : (a.texts.map Prod.fst).Nodup := by
  rw [map_fst_texts, List.nodup_append]
  refine ⟨role.nodup_schema, List.nodup_singleton _, fun name hname other hother => ?_⟩
  rw [List.mem_singleton.1 hother]
  exact Role.ne_sig_of_mem_schema hname

/-- The transported object can be parsed as a value. -/
theorem readable_members (a : Authorization role) (depth : Nat) :
    Json.Readable (depth + 1) (.obj a.members) := by
  rw [members_eq]
  constructor
  · -- no schema starts with the key that stands for a number
    rw [← List.head?_map, map_fst_textMembers, map_fst_texts]
    cases role <;> decide
  · intro member hmember
    obtain ⟨pair, -, rfl⟩ := List.mem_map.1 hmember
    exact Codec.readable_str _ _

/-- The parser sorts the members, but they stay the same. -/
theorem exists_reading_of_parse (a : Authorization role) :
    ∃ reading, reading.Perm a.texts ∧ Json.parse a.toJson = .ok (.obj (textMembers reading)) := by
  have hkeys : ((textMembers a.texts).map Prod.fst).Nodup := by
    rw [map_fst_textMembers]
    exact a.nodup_texts
  -- the parser's order is some order of the named texts
  obtain ⟨reading, hperm, hreading⟩ :
      ∃ reading, reading.Perm a.texts
        ∧ textMembers reading = Json.sortMembers (textMembers a.texts) :=
    exists_map_eq_of_perm (Json.sortMembers_perm hkeys)
  have hsorted : Json.sortedMembers a.members = textMembers a.texts := by
    rw [Json.sortedMembers_eq_map, members_eq, textMembers, List.map_map]
    rfl
  refine ⟨reading, hperm, ?_⟩
  show Json.parse (Json.obj a.members).render = _
  rw [Json.parse_render (a.readable_members 126), Json.sorted, hsorted, hreading]

/-- An authorization is written as an object with the names of its role's schema in their order and
`sig` at the end, each field under its own name. From any reading of that object, in whatever order
it has the members, the names of the schema give the signed message again, with the same bytes and
the same digest; and the parser gives such a reading. -/
theorem toJson_follows_schema (role : Role) (m : Message role) (sig : String) :
    ∃ named, m.Names named ∧ named.map Prod.fst = role.schema
      ∧ (∀ pairs, ObjectText pairs (Bytes.ofText (toJson ⟨m, sig⟩))
          ↔ pairs = named ++ [("sig", sig)])
      ∧ (∃ reading, reading.Perm (named ++ [("sig", sig)])
          ∧ Json.parse (toJson ⟨m, sig⟩) = .ok (.obj (textMembers reading)))
      ∧ ∀ reading : List (String × String), reading.Perm (named ++ [("sig", sig)]) →
        role.schema.mapM (fun name => reading.lookup name) = some m.fields
          ∧ reading.lookup "sig" = some sig
          ∧ ∃ rebuilt, Message.ofReading? role reading = some rebuilt ∧ rebuilt = m
            ∧ rebuilt.canonicalBytes = m.canonicalBytes ∧ rebuilt.digest = m.digest := by
  obtain ⟨named, hnamed⟩ := m.exists_names
  have htexts : named ++ [("sig", sig)] = texts ⟨m, sig⟩ := by rw [hnamed.eq_zip, texts]
  refine ⟨named, hnamed, ?_, fun pairs => ⟨fun h => ?_, ?_⟩, ?_, fun reading hreading => ?_⟩
  · rw [hnamed.eq_zip, m.map_fst_zip_schema]
  · rw [htexts]
    exact h.unique (objectText_toJson ⟨m, sig⟩)
  · -- the text is one way to write the object, and no other object is written by it
    rintro rfl
    rw [htexts]
    exact objectText_toJson ⟨m, sig⟩
  · rw [htexts]
    exact exists_reading_of_parse ⟨m, sig⟩
  · -- a look-up by name does not depend on the order, so the message can be rebuilt from any
    -- reading
    rw [htexts] at hreading
    obtain ⟨hfields, hsig⟩ := lookup_of_perm hreading
    have hschema := mapM_eq_some_map hfields
    rw [m.map_get_schema] at hschema
    have hrebuilt : Message.ofReading? role reading = some m := by
      rw [Message.ofReading?, hschema]
      exact m.ofFields?_fields
    exact ⟨hschema, hsig, m, hrebuilt, rfl, rfl, rfl⟩

end Authorization

end NftExchange
