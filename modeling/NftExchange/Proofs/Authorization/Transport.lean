import Mathlib
import NftExchange.Authorization.Basic
import NftExchange.Proofs.Except
import NftExchange.Proofs.Json.Codecs
import NftExchange.Proofs.Json.Objects

/-!
# Authorizations survive transport

An authorization travels as one flat object, in which the fields of its message stand beside the
signature. The reader keeps the signature apart, collects all other members and picks the fields
of the role's schema from them, so that a repeated or a missing name is found in one place if it is
`sig` and in another if it is a field. Both come to the same: what counts is how often each name
occurs (`valuesOf`).

* **`Authorization.messageOf_textMembers`**, **`Authorization.foldlM_readText`** — the two places;
* **`Authorization.collect_eq_ok_iff`** — texts make up an authorization exactly if each of its
  names has its text and no other;
* **`Authorization.readsBack_codec`** — what was written into a payload is read back;
* **`Authorization.ofJson_objectText`** — which objects of texts are authorizations, and which.
-/

namespace NftExchange

open Json (IsBlanks BodyText ObjectText QuotedText TakesTexts isBlank)

/-! ## Schemas

The tables of a role's names agree, and no field has the name under which the signature travels. All
that follows uses these facts of the tables and nothing else of them. -/

/-- What is signed follows the schema. -/
theorem Role.signed_eq_schema (role : Role) : role.signed = role.schema := by
  cases role <;> rfl

/-- What is transported follows the schema. -/
theorem Role.declared_eq_schema (role : Role) : role.declared = role.schema := by
  cases role <;> rfl

theorem Role.nodup_schema (role : Role) : role.schema.Nodup := by
  cases role <;> decide

theorem Role.sig_not_mem_schema (role : Role) : "sig" ∉ role.schema := by
  cases role <;> decide

theorem Role.ne_sig_of_mem_schema {role : Role} {name : String} (h : name ∈ role.schema) :
    name ≠ "sig" := fun heq => role.sig_not_mem_schema (heq ▸ h)

/-! ## Texts by their names

An object of texts is seen through the list of texts under each name. That list says all that the
reader goes by: it is empty for a missing name, has one text for a proper one, and more for a name
that is repeated. -/

/-- The texts under a name, in their order. -/
def valuesOf (pairs : List (String × String)) (name : String) : List String :=
  (pairs.filter fun pair => pair.1 == name).map Prod.snd

section Values

variable {pairs pairs' : List (String × String)} {name text : String}

theorem valuesOf_cons_self (pair : String × String) (pairs : List (String × String)) :
    valuesOf (pair :: pairs) pair.1 = pair.2 :: valuesOf pairs pair.1 := by
  simp only [valuesOf, List.filter_cons, beq_self_eq_true, if_true, List.map_cons]

theorem valuesOf_cons_of_ne {pair : String × String} (h : pair.1 ≠ name)
    (pairs : List (String × String)) : valuesOf (pair :: pairs) name = valuesOf pairs name := by
  simp only [valuesOf, List.filter_cons, beq_iff_eq, h, if_false]

theorem valuesOf_append (pairs pairs' : List (String × String)) (name : String) :
    valuesOf (pairs ++ pairs') name = valuesOf pairs name ++ valuesOf pairs' name := by
  simp only [valuesOf, List.filter_append, List.map_append]

theorem valuesOf_eq_nil (h : ∀ pair ∈ pairs, pair.1 ≠ name) : valuesOf pairs name = [] := by
  rw [valuesOf, List.map_eq_nil_iff, List.filter_eq_nil_iff]
  intro pair hpair heq
  exact h pair hpair (beq_iff_eq.1 heq)

/-- A name has as many texts as it has occurrences. -/
theorem length_valuesOf (pairs : List (String × String)) (name : String) :
    (valuesOf pairs name).length = (pairs.map Prod.fst).count name := by
  rw [valuesOf, List.length_map, List.count, List.countP_map, List.countP_eq_length_filter]
  rfl

/-- The texts under a name are those that stand with it. -/
theorem mem_valuesOf : text ∈ valuesOf pairs name ↔ (name, text) ∈ pairs := by
  simp only [valuesOf, List.mem_map, List.mem_filter, beq_iff_eq]
  constructor
  · rintro ⟨⟨_, _⟩, ⟨hpair, rfl⟩, rfl⟩
    exact hpair
  · intro h
    exact ⟨(name, text), ⟨h, rfl⟩, rfl⟩

/-- A name has one text and no other exactly if it occurs once, with that text. -/
theorem valuesOf_eq_singleton_iff :
    valuesOf pairs name = [text]
      ↔ (pairs.map Prod.fst).count name = 1 ∧ (name, text) ∈ pairs := by
  rw [← length_valuesOf, ← mem_valuesOf]
  constructor
  · intro h
    rw [h]
    exact ⟨rfl, List.mem_singleton_self text⟩
  · rintro ⟨hlength, hmem⟩
    obtain ⟨only, honly⟩ := List.length_eq_one_iff.1 hlength
    rw [honly, List.mem_singleton] at hmem
    rw [honly, hmem]

/-- Members of other names, and the order in which members stand, play no part. -/
theorem valuesOf_eq_singleton_of_perm {names : List String} (hname : name ∈ names)
    (hperm : (pairs.filter (·.1 ∈ names)).Perm (pairs'.filter (·.1 ∈ names)))
    (h : valuesOf pairs name = [text]) : valuesOf pairs' name = [text] := by
  have hknown (pairs : List (String × String)) :
      valuesOf (pairs.filter (·.1 ∈ names)) name = valuesOf pairs name := by
    rw [valuesOf, List.filter_filter]
    refine congrArg _ (List.filter_congr fun pair _ => ?_)
    by_cases heq : pair.1 = name
    · simp only [heq, hname, decide_true, Bool.and_true]
    · simp only [beq_eq_false_iff_ne.2 heq, Bool.false_and]
  -- for a name that counts, the other members may as well be left out
  rw [← hknown, ← List.perm_singleton]
  rw [← hknown] at h
  rw [← h]
  exact ((hperm.filter _).map _).symm

/-- Texts that are given names without repetitions are found under them again. -/
theorem map_lookup_zip {names texts : List String} (hlength : names.length = texts.length)
    (hnodup : names.Nodup) :
    names.map (fun name => ((names.zip texts).lookup name).getD "") = texts := by
  induction names generalizing texts with
  | nil => exact (List.length_eq_zero_iff.1 hlength.symm).symm
  | cons first names ih =>
    cases texts with
    | nil => cases hlength
    | cons text texts =>
      rw [List.nodup_cons] at hnodup
      -- the later names differ from the first, so they are looked up in the rest alone
      have hrest : names.map (fun name => (((first, text) :: names.zip texts).lookup name).getD "")
          = names.map fun name => ((names.zip texts).lookup name).getD "" := by
        refine List.map_congr_left fun name hname => ?_
        have hne : name ≠ first := fun heq => hnodup.1 (heq ▸ hname)
        rw [List.lookup_cons, beq_false_of_ne hne]
      rw [List.zip_cons_cons, List.map_cons, hrest, ih (Nat.succ.inj hlength) hnodup.2,
        List.lookup_cons, beq_self_eq_true]
      rfl

/-- Names without repetitions have their own texts. -/
theorem valuesOf_zip {names texts : List String} (hlength : names.length = texts.length)
    (hnodup : names.Nodup) (hname : name ∈ names) :
    valuesOf (names.zip texts) name = [((names.zip texts).lookup name).getD ""] := by
  induction names generalizing texts with
  | nil => cases hname
  | cons first names ih =>
    cases texts with
    | nil => cases hlength
    | cons text texts =>
      rw [List.nodup_cons] at hnodup
      rw [List.zip_cons_cons, List.lookup_cons]
      by_cases heq : name = first
      · -- the name does not occur again
        subst heq
        have hrest : valuesOf (names.zip texts) name = [] :=
          valuesOf_eq_nil fun pair hpair heq => hnodup.1 (heq ▸ (List.of_mem_zip hpair).1)
        have hhere := valuesOf_cons_self (name, text) (names.zip texts)
        rw [hrest] at hhere
        rw [hhere, beq_self_eq_true]
        rfl
      · rw [valuesOf_cons_of_ne (Ne.symm heq), beq_false_of_ne heq]
        exact ih (Nat.succ.inj hlength) hnodup.2 (List.mem_of_ne_of_mem heq hname)

end Values

namespace Message

variable {role : Role} (m : Message role)

/-- A field has one text, whatever the others are. -/
theorem valuesOf_fields {name : String} (h : name ∈ role.schema) :
    valuesOf (role.schema.zip m.fields) name = [m.get name] := by
  rw [get, role.signed_eq_schema]
  exact valuesOf_zip m.length_fields.symm role.nodup_schema h

/-- The texts under the names of the schema, one after the other, are the fields of the message. -/
theorem map_get_schema : role.schema.map m.get = m.fields := by
  unfold get
  rw [role.signed_eq_schema]
  exact map_lookup_zip m.length_fields.symm role.nodup_schema

/-- The fields with the names of the schema are those that a look-up by name finds. -/
theorem zip_schema_fields :
    role.schema.zip m.fields = role.schema.map fun name => (name, m.get name) := by
  rw [← m.map_get_schema, List.map_prod_left_eq_zip]

/-- A message is made of texts exactly if they are what its fields say. -/
theorem ofTexts_eq_iff {m : Message role} {text : String → String} :
    ofTexts role text = m ↔ ∀ name ∈ role.schema, text name = m.get name := by
  have hfields : (ofTexts role text).fields = role.schema.map text := by
    rw [← role.signed_eq_schema]
    rfl
  rw [Message.ext_iff, ← m.map_get_schema, hfields]
  exact List.map_inj_left

end Message

namespace Authorization

variable {role : Role}

/-- Named texts as members. -/
def textMembers (pairs : List (String × String)) : List (String × Json) :=
  pairs.map fun (name, text) => (name, .str text)

theorem map_fst_textMembers (pairs : List (String × String)) :
    (textMembers pairs).map Prod.fst = pairs.map Prod.fst := by
  rw [textMembers, List.map_map]
  rfl

/-! ## Picking the fields

The members that are not the signature are gone through three times: for a field that is no text,
for one that is repeated, and for each field by its name. On texts the first search finds nothing,
and the other two together ask that every field occurs exactly once. -/

theorem any_isBadField_textMembers (role : Role) (pairs : List (String × String)) :
    (textMembers pairs).any (isBadField role) = false := by
  rw [List.any_eq_false]
  intro member hmember
  obtain ⟨pair, -, rfl⟩ := List.mem_map.1 hmember
  simp only [isBadField, Bool.and_false, Bool.false_eq_true, not_false_eq_true]

/-- A name is among the members exactly if it has texts. -/
theorem any_textMembers (pairs : List (String × String)) (name : String) :
    (textMembers pairs).any (fun member => member.1 == name) = !(valuesOf pairs name).isEmpty := by
  induction pairs with
  | nil => rfl
  | cons pair pairs ih =>
    show (pair.1 == name || (textMembers pairs).any _) = _
    by_cases heq : pair.1 = name
    · subst heq
      rw [beq_self_eq_true, Bool.true_or, valuesOf_cons_self]
      rfl
    · rw [beq_false_of_ne heq, Bool.false_or, ih, valuesOf_cons_of_ne heq]

/-- No field is repeated exactly if each has at most one text. -/
theorem repeatedField?_textMembers (role : Role) (pairs : List (String × String)) :
    repeatedField? role (textMembers pairs) = none
      ↔ ∀ name ∈ role.schema, (valuesOf pairs name).length ≤ 1 := by
  induction pairs with
  | nil => exact ⟨fun _ _ _ => Nat.zero_le 1, fun _ => rfl⟩
  | cons pair pairs ih =>
    show repeatedField? role ((pair.1, .str pair.2) :: textMembers pairs) = none ↔ _
    rw [repeatedField?, any_textMembers, role.declared_eq_schema]
    split
    · next hrepeated =>
      -- one text of the name stands here, and another one later
      rw [Bool.and_eq_true, List.contains_iff_mem, Bool.not_eq_true', List.isEmpty_eq_false_iff]
        at hrepeated
      obtain ⟨hname, hlater⟩ := hrepeated
      refine ⟨nofun, fun h => absurd (h _ hname) ?_⟩
      have := List.length_pos_iff.2 hlater
      rw [valuesOf_cons_self, List.length_cons]
      omega
    · next hsingle =>
      rw [ih]
      refine forall₂_congr fun name hname => ?_
      by_cases heq : pair.1 = name
      · subst heq
        -- the name of a field that does not occur later
        have hnone : valuesOf pairs pair.1 = [] := by
          rw [Bool.and_eq_true, List.contains_iff_mem, Bool.not_eq_true', List.isEmpty_eq_false_iff]
            at hsingle
          exact of_not_not fun hlater => hsingle ⟨hname, hlater⟩
        rw [valuesOf_cons_self, hnone]
        exact ⟨fun _ => Nat.le_refl 1, fun _ => Nat.zero_le 1⟩
      · rw [valuesOf_cons_of_ne heq]

/-- A field is read as the first text under its name. -/
theorem fieldOf_textMembers {pairs : List (String × String)} {name text : String} :
    fieldOf (textMembers pairs) name = .ok text ↔ (valuesOf pairs name).head? = some text := by
  induction pairs with
  | nil => exact ⟨nofun, nofun⟩
  | cons pair pairs ih =>
    -- the first pair either has the name, and then it is the one that is read, or plays no part
    by_cases heq : pair.1 = name
    · subst heq
      have hhere : fieldOf (textMembers (pair :: pairs)) pair.1 = .ok pair.2 := by
        show fieldOf ((pair.1, .str pair.2) :: textMembers pairs) pair.1 = _
        simp only [fieldOf, List.find?_cons, beq_self_eq_true]
      rw [hhere, valuesOf_cons_self, List.head?_cons, Except.ok.injEq, Option.some.injEq]
    · have hlater :
          fieldOf (textMembers (pair :: pairs)) name = fieldOf (textMembers pairs) name := by
        show fieldOf ((pair.1, .str pair.2) :: textMembers pairs) name = _
        simp only [fieldOf, List.find?_cons, beq_false_of_ne heq]
      rw [hlater, valuesOf_cons_of_ne heq, ih]

/-- So one text and no other means: at most one, and it is read. -/
theorem valuesOf_eq_singleton_iff_fieldOf {pairs : List (String × String)} {name text : String} :
    valuesOf pairs name = [text]
      ↔ (valuesOf pairs name).length ≤ 1 ∧ fieldOf (textMembers pairs) name = .ok text := by
  rw [fieldOf_textMembers]
  rcases valuesOf pairs name with _ | ⟨first, _ | ⟨second, others⟩⟩
  · simp
  · simp
  · simp

/-- What is found under the declared names makes up a message exactly if it is the text of each
field. -/
theorem ofTexts_of_mapM_eq_ok_iff {find : String → Except JsonError String} {m : Message role} :
    (∃ texts, role.declared.mapM find = .ok texts
        ∧ Message.ofTexts role (fun name => ((role.declared.zip texts).lookup name).getD "") = m)
      ↔ ∀ name ∈ role.schema, find name = .ok (m.get name) := by
  rw [← Except.mapM_eq_ok_map_iff, role.declared_eq_schema]
  simp only [Message.ofTexts_eq_iff]
  constructor
  · rintro ⟨texts, htexts, hm⟩
    -- what is listed under the declared names comes back from looking them up
    have hfields : role.schema.map m.get = texts := by
      rw [← map_lookup_zip (Except.length_of_mapM htexts).symm role.nodup_schema]
      exact (List.map_congr_left hm).symm
    rw [hfields]
    exact htexts
  · intro h
    refine ⟨_, h, List.map_inj_left.1 ?_⟩
    exact map_lookup_zip (List.length_map ..).symm role.nodup_schema

/-- Texts make up a message exactly if each name of the schema has its text and no other. -/
theorem messageOf_textMembers {pairs : List (String × String)} {m : Message role} :
    messageOf role (textMembers pairs) = .ok m
      ↔ ∀ name ∈ role.schema, valuesOf pairs name = [m.get name] := by
  simp only [messageOf, any_isBadField_textMembers, Bool.false_eq_true, if_false,
    valuesOf_eq_singleton_iff_fieldOf]
  rw [forall₂_and, ← repeatedField?_textMembers, ← ofTexts_of_mapM_eq_ok_iff]
  -- a repeated field is refused before any field is read
  cases repeatedField? role (textMembers pairs) with
  | some key =>
    constructor
    · intro h
      cases h
    · rintro ⟨h, -⟩
      cases h
  | none =>
    simp only [Except.bind_eq_ok_iff, pure, Except.pure, Except.ok.injEq, true_and]

/-! ## Collecting

The reader goes through the members once. It remembers the signature, refuses a second one, and
keeps everything else in reverse; only at the end is the message picked from what was kept. -/

/-- What a text adds to what was found. -/
def Collected.readText (found : Collected) (pair : String × String) : Except JsonError Collected :=
  if pair.1 = "sig" then
    match found.sig with
    | some _ => .error (.duplicateField pair.1)
    | none => .ok { found with sig := some pair.2 }
  else .ok { found with members := (pair.1, .str pair.2) :: found.members }

/-- Reading a member whose value is a quoted text is one step of the collection. -/
theorem takesTexts_readMember (depth : Nat) :
    TakesTexts (Collected.readMember depth) Collected.readText := by
  intro found pair quoted rest hquoted
  unfold Collected.readMember Collected.readText
  split
  · -- the signature is read at once, and a second one is refused on both sides
    cases found.sig with
    | some _ => rfl
    | none =>
      obtain ⟨inside, hskip, hread⟩ := hquoted.skipBlank rest
      simp only [Codec.string, hskip, hread, bind, Except.bind]
      rfl
  · -- any other member is kept as a value until the object ends
    simp only [hquoted.readValue .collected rfl, bind, Except.bind]
    rfl

/-- At most one signature is found, and all else is kept, latest first. -/
theorem foldlM_readText {pairs : List (String × String)} {found found' : Collected} :
    pairs.foldlM Collected.readText found = .ok found'
      ↔ found.sig.toList ++ valuesOf pairs "sig" = found'.sig.toList
        ∧ (textMembers (pairs.filter (·.1 ≠ "sig"))).reverse ++ found.members
          = found'.members := by
  induction pairs generalizing found with
  | nil =>
    obtain ⟨sig, members⟩ := found
    obtain ⟨sig', members'⟩ := found'
    show Except.ok _ = _ ↔ sig.toList ++ [] = _ ∧ members = _
    rw [List.append_nil, Except.ok.injEq, Collected.mk.injEq]
    cases sig <;> cases sig' <;> simp
  | cons pair pairs ih =>
    rw [List.foldlM_cons]
    unfold Collected.readText
    by_cases hsig : pair.1 = "sig"
    · have hvalues := valuesOf_cons_self pair pairs
      rw [hsig] at hvalues
      rw [if_pos hsig, hvalues, List.filter_cons_of_neg (by simp [hsig])]
      cases hfound : found.sig with
      | some _ =>
        -- two signatures are more than one
        refine ⟨nofun, fun h => ?_⟩
        have hlength := congrArg List.length h.1
        have : found'.sig.toList.length ≤ 1 := by cases found'.sig <;> simp
        simp only [Option.toList_some, List.length_append, List.length_cons] at hlength
        omega
      | none =>
        show pairs.foldlM Collected.readText { found with sig := some pair.2 } = _ ↔ _
        rw [ih]
        rfl
    · -- any other member is kept, in front of those that came before it
      rw [if_neg hsig, valuesOf_cons_of_ne hsig, List.filter_cons_of_pos (by simpa using hsig)]
      show pairs.foldlM Collected.readText
        { found with members := (pair.1, .str pair.2) :: found.members } = _ ↔ _
      have hmembers (others : List (String × String)) :
          (textMembers (pair :: others)).reverse ++ found.members
            = (textMembers others).reverse ++ (pair.1, .str pair.2) :: found.members := by
        show ((pair.1, Json.str pair.2) :: textMembers others).reverse ++ _ = _
        rw [List.reverse_cons, List.append_assoc]
        rfl
      rw [ih, hmembers]

/-- What was found makes up an authorization exactly if there is a signature and the rest is a
message. -/
theorem finish_eq_ok_iff {found : Collected} {a : Authorization role} :
    found.finish role = .ok a
      ↔ found.sig = some a.sig ∧ messageOf role found.members.reverse = .ok a.message := by
  unfold Collected.finish
  cases found.sig with
  | none => exact ⟨nofun, nofun⟩
  | some sig =>
    -- members are collected with the last one first, so they are turned around here
    simp only [Except.bind_eq_ok_iff]
    constructor
    · rintro ⟨m, hm, ha⟩
      cases ha
      exact ⟨rfl, hm⟩
    · rintro ⟨hsig, hm⟩
      cases hsig
      exact ⟨a.message, hm, rfl⟩

/-- What texts are read as, in the order in which they stand. -/
def collect (role : Role) (pairs : List (String × String)) :
    Except JsonError (Authorization role) :=
  pairs.foldlM Collected.readText {} >>= Collected.finish role

/-- Texts make up an authorization exactly if each of its names has its text and no other. -/
theorem collect_eq_ok_iff {pairs : List (String × String)} {a : Authorization role} :
    collect role pairs = .ok a
      ↔ (∀ name ∈ role.schema, valuesOf pairs name = [a.message.get name])
        ∧ valuesOf pairs "sig" = [a.sig] := by
  have hothers : (∀ name ∈ role.schema,
        valuesOf (pairs.filter (·.1 ≠ "sig")) name = [a.message.get name])
      ↔ ∀ name ∈ role.schema, valuesOf pairs name = [a.message.get name] := by
    refine forall₂_congr fun name hname => ?_
    rw [valuesOf, List.filter_filter, valuesOf]
    refine iff_of_eq (congrArg (· = _) (congrArg _ (List.filter_congr fun pair _ => ?_)))
    by_cases heq : pair.1 = name
    · simp [heq, Role.ne_sig_of_mem_schema hname]
    · simp [heq]
  -- taking the signature out does not change what the fields have
  simp only [collect, Except.bind_eq_ok_iff, foldlM_readText, finish_eq_ok_iff]
  rw [← hothers, ← messageOf_textMembers]
  constructor
  · rintro ⟨found, ⟨hsigs, hmembers⟩, hsig, hm⟩
    rw [← hmembers, List.append_nil, List.reverse_reverse] at hm
    rw [hsig] at hsigs
    exact ⟨hm, hsigs⟩
  · rintro ⟨hm, hsig⟩
    refine ⟨⟨some a.sig, _⟩, ⟨hsig, rfl⟩, rfl, ?_⟩
    rw [List.append_nil, List.reverse_reverse, hm]

/-- Texts make up some authorization exactly if each of its names occurs once. -/
theorem exists_collect_iff {pairs : List (String × String)} :
    (∃ a, collect role pairs = .ok a)
      ↔ ∀ name ∈ role.schema ++ ["sig"], (pairs.map Prod.fst).count name = 1 := by
  simp only [collect_eq_ok_iff, valuesOf_eq_singleton_iff]
  constructor
  · rintro ⟨a, hfields, hsig⟩ name hname
    rcases List.mem_append.1 hname with hname | hname
    · exact (hfields name hname).1
    · rw [List.mem_singleton.1 hname]
      exact hsig.1
  · intro h
    -- the fields are the texts found under the names of the schema
    have hvalue {name : String} (hname : name ∈ role.schema ++ ["sig"]) :
        (name, (valuesOf pairs name).headD "") ∈ pairs := by
      have hlength := length_valuesOf pairs name
      rw [h name hname] at hlength
      obtain ⟨text, htext⟩ := List.length_eq_one_iff.1 hlength
      rw [← mem_valuesOf, htext]
      exact List.mem_singleton_self text
    have hsig : "sig" ∈ role.schema ++ ["sig"] :=
      List.mem_append_right _ (List.mem_singleton_self _)
    let m : Message role :=
      ⟨role.schema.map fun name => (valuesOf pairs name).headD "", List.length_map ..⟩
    refine ⟨⟨m, (valuesOf pairs "sig").headD ""⟩, fun name hname => ?_, h _ hsig, hvalue hsig⟩
    have hmem : name ∈ role.schema ++ ["sig"] := List.mem_append_left _ hname
    have hget : m.get name = (valuesOf pairs name).headD "" :=
      List.map_inj_left.1 m.map_get_schema name hname
    rw [hget]
    exact ⟨h name hmem, hvalue hmem⟩

/-! ## Reading

An object of texts, in any of the ways in which it can be written, is read as what its members make
up: the blanks, the escapes and the order of the members are gone after this. -/

/-- An object of texts, however it is written, is read as what its members make up. -/
theorem read_bodyText (role : Role) (depth : Nat) {before body : Bytes}
    {pairs : List (String × String)} (hbefore : IsBlanks before) (hbody : BodyText pairs body)
    (rest : Bytes) :
    (codec role).read (depth + 1) (before ++ 0x7b :: (body ++ rest))
      = (collect role pairs).map (·, rest) := by
  have hskip := hbefore.skipBlank_mark (show isBlank 0x7b = false by decide) (body ++ rest)
  -- each pair takes at least one byte, so the fuel suffices for all of them
  have hfuel : pairs.length < (body ++ rest).length + 1 := by
    have := hbody.length_le
    rw [List.length_append]
    omega
  simp only [codec, hskip, hbody.readMembers (takesTexts_readMember depth) hfuel, collect, bind,
    Except.bind]
  cases pairs.foldlM Collected.readText {} with
  | error e => rfl
  | ok found =>
    simp only [Except.map]
    cases found.finish role with
    | error e => rfl
    | ok a => rfl

/-- A whole document is read as what its members make up. -/
theorem parse_objectText (role : Role) {pairs : List (String × String)} {text : String}
    (h : ObjectText pairs (Bytes.ofText text)) :
    (codec role).parse text = collect role pairs := by
  rw [Codec.parse]
  generalize Bytes.ofText text = bytes at h ⊢
  obtain ⟨hbefore, hbody, hafter⟩ := h
  rw [Codec.parseBytes, Json.readAll, Json.depthLimit, read_bodyText role 126 hbefore hbody]
  cases collect role pairs with
  | error e => rfl
  | ok a =>
    simp only [Except.map, bind, Except.bind, hafter.skipBlank_eq_nil]
    rfl

/-- An authorization is read from a document exactly if its members make it up. -/
theorem ofJson_eq_ok_iff (role : Role) {pairs : List (String × String)} {text : String}
    (h : ObjectText pairs (Bytes.ofText text)) (a : Authorization role) :
    ofJson role text = .ok a ↔ collect role pairs = .ok a := by
  rw [ofJson, Except.mapError_eq_ok_iff, parse_objectText role h]

/-! ## Writing

What an authorization is written as is one of those objects, and its members make up the
authorization itself. The round trip and the statement about other objects both follow. -/

/-- The fields and the signature with their names. -/
def texts (a : Authorization role) : List (String × String) :=
  role.schema.zip a.message.fields ++ [("sig", a.sig)]

/-- The transported members are the texts of the authorization by their names. -/
theorem members_eq (a : Authorization role) : a.members = textMembers a.texts := by
  rw [members, texts, textMembers, a.message.zip_schema_fields, role.declared_eq_schema,
    List.map_append, List.map_map]
  rfl

/-- The transported text is one way to write the object with these texts. -/
theorem objectText_toJson (a : Authorization role) :
    ObjectText a.texts (Bytes.ofText a.toJson) := by
  have h := Json.objectText_render a.texts
  show ObjectText a.texts (Bytes.ofText (Json.obj a.members).render)
  rw [members_eq]
  exact h

/-- The texts of an authorization make it up. -/
theorem collect_texts (a : Authorization role) : collect role a.texts = .ok a := by
  rw [collect_eq_ok_iff, texts]
  have hsig (name : String) (h : name ∈ role.schema) : valuesOf [("sig", a.sig)] name = [] :=
    valuesOf_cons_of_ne (Role.ne_sig_of_mem_schema h).symm []
  constructor
  · intro name hname
    rw [valuesOf_append, a.message.valuesOf_fields hname, hsig name hname, List.append_nil]
  · -- no field is named like the signature, and the signature like no field
    have hfields : valuesOf (role.schema.zip a.message.fields) "sig" = [] :=
      valuesOf_eq_nil fun pair hpair => Role.ne_sig_of_mem_schema (List.of_mem_zip hpair).1
    rw [valuesOf_append, hfields]
    exact valuesOf_cons_self ("sig", a.sig) []

/-- An authorization that was written into a payload is read back. -/
theorem readsBack_codec (role : Role) (depth : Nat) : (codec role).ReadsBack (depth + 1) where
  wellFormed a n hn := by cases hn
  read a rest _ := by
    have hread := read_bodyText role depth Json.isBlanks_nil (Json.bodyText_renderMembers a.texts)
      rest
    -- what is written is one of the ways to write the object, with no blanks in it
    rw [collect_texts, List.nil_append, List.append_assoc] at hread
    have htext : Bytes.ofText ((codec role).render a) ++ rest
        = 0x7b :: (Bytes.ofText (Json.renderMembers (textMembers a.texts)) ++ 0x7d :: rest) := by
      rw [← members_eq, Codec.render, codec, Json.render, Bytes.ofText_append, Bytes.ofText_append,
        List.append_assoc, List.append_assoc]
      rfl
    rw [htext]
    exact hread

/-- An authorization that was written for transport is read back. -/
theorem ofJson_toJson (a : Authorization role) : ofJson role a.toJson = .ok a :=
  (ofJson_eq_ok_iff role a.objectText_toJson a).2 a.collect_texts

/-- An object of texts, however it is written, is read as an authorization exactly if each field
of the schema and `sig` is the name of one member. What is read are the texts of these members;
neither their order nor members of other names play a part. What is not read is malformed JSON. And
every authorization is read back from its own text. -/
theorem ofJson_objectText (role : Role) :
    (∀ (pairs : List (String × String)) (text : String), ObjectText pairs (Bytes.ofText text) →
      ((∃ a, ofJson role text = .ok a)
          ↔ ∀ name ∈ role.schema ++ ["sig"], (pairs.map Prod.fst).count name = 1)
        ∧ (∀ a, ofJson role text = .ok a →
          (∀ name ∈ role.schema, (name, a.message.get name) ∈ pairs) ∧ ("sig", a.sig) ∈ pairs)
        ∧ (∀ e, ofJson role text = .error e → ∃ reason, e = .json reason)
        ∧ ∀ (pairs' : List (String × String)) (text' : String),
          ObjectText pairs' (Bytes.ofText text') →
          (pairs.filter (·.1 ∈ role.schema ++ ["sig"])).Perm
            (pairs'.filter (·.1 ∈ role.schema ++ ["sig"])) →
          ∀ a, ofJson role text = .ok a → ofJson role text' = .ok a)
      ∧ ∀ a : Authorization role, ofJson role a.toJson = .ok a := by
  refine ⟨fun pairs text h => ⟨?_, fun a ha => ?_, fun e he => ?_, ?_⟩, ofJson_toJson⟩
  · simp only [ofJson_eq_ok_iff role h]
    exact exists_collect_iff
  · rw [ofJson_eq_ok_iff role h, collect_eq_ok_iff] at ha
    exact ⟨fun name hname => (valuesOf_eq_singleton_iff.1 (ha.1 name hname)).2,
      (valuesOf_eq_singleton_iff.1 ha.2).2⟩
  · unfold ofJson at he
    cases hparse : (codec role).parse text with
    | ok a =>
      rw [hparse] at he
      cases he
    | error cause =>
      rw [hparse] at he
      cases he
      exact ⟨cause.message, rfl⟩
  · -- another order, or other members of no interest, leave each name with its one text
    intro pairs' text' h' hperm a ha
    rw [ofJson_eq_ok_iff role h, collect_eq_ok_iff] at ha
    rw [ofJson_eq_ok_iff role h', collect_eq_ok_iff]
    constructor
    · intro name hname
      exact valuesOf_eq_singleton_of_perm (List.mem_append_left _ hname) hperm (ha.1 name hname)
    · exact valuesOf_eq_singleton_of_perm (List.mem_append_right _ (List.mem_singleton_self _))
        hperm ha.2

/-- The members of a consent in an order of their own, with a note that is in two of them. -/
def notedConsent : List (String × String) :=
  [("sig", "😀"), ("note", "0x21"), ("block_number", "0x20"), ("note", ""), ("exchanger", "0xE")]

/-- They can be written with blanks and with the surrogates of a character. -/
def notedConsentText : String :=
  " \x7b\"sig\": \"\\uD83D\\ude00\",\"note\":\"0x21\" ,\"block_number\":\"0x20\",\"note\":\"\","
    ++ "\"exchanger\":\"0xE\"\n\x7d\t"

/-- The text of the example is a way to write its members. -/
theorem objectText_notedConsent :
    ObjectText notedConsent (Bytes.ofText notedConsentText) := by
  -- the signature is written with two surrogates, in digits of either case
  have hspelled : Json.Spelled "😀".toList
      [0x5c, 0x75, 0x44, 0x38, 0x33, 0x44, 0x5c, 0x75, 0x64, 0x65, 0x30, 0x30] :=
    .cons (.pair _ _ _ _ _ _ _ _ 0xd83d 0xde00 rfl rfl rfl rfl rfl) .nil
  have hspace : IsBlanks [0x20] := Json.isBlanks_singleton rfl
  have htab : IsBlanks [0x09] := Json.isBlanks_singleton rfl
  have hnewline : IsBlanks [0x0a] := Json.isBlanks_singleton rfl
  have hsig : Json.MemberText ("sig", "😀") _ :=
    .intro (Json.quotedText_render "sig") Json.isBlanks_nil (.intro hspace hspelled)
  have hobject : ObjectText notedConsent _ := .intro hspace
    (.members hsig
      (.comma Json.isBlanks_nil (Json.memberText_memberBytes ("note", "0x21"))
      (.comma hspace (Json.memberText_memberBytes ("block_number", "0x20"))
      (.comma Json.isBlanks_nil (Json.memberText_memberBytes ("note", ""))
      (.comma Json.isBlanks_nil (Json.memberText_memberBytes ("exchanger", "0xE"))
      (.close hnewline)))))) htab
  convert hobject using 1
  decide +kernel

/-- It is read as a buyer's consent, in spite of its note and of its order. -/
theorem ofJson_objectText_notedConsent :
    ∃ a, ofJson .buyerAuth notedConsentText = .ok a
      ∧ a.message.get "exchanger" = "0xE" ∧ a.message.get "block_number" = "0x20" := by
  obtain ⟨hexists, hvalues, -, -⟩ := (ofJson_objectText .buyerAuth).1 _ _ objectText_notedConsent
  obtain ⟨a, ha⟩ := hexists.2 (by decide)
  obtain ⟨hfields, -⟩ := hvalues a ha
  have hexchanger := hfields "exchanger" (by decide)
  have hdeadline := hfields "block_number" (by decide)
  refine ⟨a, ha, ?_, ?_⟩
  · simpa [notedConsent] using hexchanger
  · simpa [notedConsent] using hdeadline

end Authorization

end NftExchange
