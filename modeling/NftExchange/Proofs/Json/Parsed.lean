import Mathlib
import NftExchange.Proofs.Json.Objects
import NftExchange.Proofs.Json.Values

/-!
# Written values are parsed

What is written of a value can be parsed as a value of any shape before it is decoded. The parser
gives the value back with the members of its objects sorted, provided that its nesting is within
bounds and that none of its objects looks like a number (`Readable`).

* **`readItems_render`** — a written array is read item by item;
* **`readValue_render`** and **`parse_render`** — a written value is read as itself, sorted;
* **`Codec.Returns.parse`** — what returns from a value also returns from its parsed text.
-/

namespace NftExchange

open Json (Stops Steps isBlank skipBlank_cons)

namespace Json

/-! ## Items

Reading a list of items is like reading members, without keys and with another bracket. -/

theorem stops_bracket (rest : Bytes) : Stops (0x5d :: rest) := by
  intro b h
  cases h
  decide

/-- Written items, as bytes: a comma before each but the first. -/
theorem ofText_renderItems (item : Json) (items : List Json) :
    Bytes.ofText (renderItems (item :: items))
      = Bytes.ofText item.render ++ items.flatMap fun i => 0x2c :: Bytes.ofText i.render := by
  induction items generalizing item with
  | nil => rw [renderItems, List.flatMap_nil, List.append_nil]
  | cons next items ih =>
    have hcomma : Bytes.ofText "," = [0x2c] := by decide
    rw [renderItems, Bytes.ofText_append, Bytes.ofText_append, ih, hcomma, List.flatMap_cons,
      List.append_assoc]
    · rfl
    · exact List.cons_ne_nil next items

section Items

variable {α : Type} {reader : Reader α}

/-- One item is read, and the others after it. -/
private theorem readItems_item {fuel : Nat} {first : Bool} {input rest : Bytes} {item : Json}
    {a : α}
    (hnext : nextItem 0x5d first input = .ok (.item (Bytes.ofText item.render ++ rest)))
    (h : Reads reader item a) (hrest : Stops rest) :
    readItems reader (fuel + 1) first input
      = (readItems reader fuel false rest).map fun (as, after) => (a :: as, after) := by
  rw [readItems]
  simp only [hnext, h.read rest hrest, bind, Except.bind]
  cases readItems reader fuel false rest with
  | error e => rfl
  | ok result => rfl

private theorem readItems_close (fuel : Nat) (first : Bool) (rest : Bytes) :
    readItems reader (fuel + 1) first (0x5d :: rest) = .ok ([], rest) := by
  rw [readItems, nextItem_close (by decide)]
  rfl

/-- An item is followed by a comma or the bracket, where any number ends. -/
private theorem stops_items (items : List Json) (rest : Bytes) :
    Stops ((items.flatMap fun i => 0x2c :: Bytes.ofText i.render) ++ 0x5d :: rest) := by
  cases items with
  | nil => exact stops_bracket rest
  | cons item items => exact stops_comma _

/-- The items behind the first are read one by one. -/
private theorem readItems_tail {items : List Json} {as : List α}
    (h : List.Forall₂ (Reads reader) items as) {fuel : Nat} (hfuel : items.length < fuel)
    (rest : Bytes) :
    readItems reader fuel false
      ((items.flatMap fun i => 0x2c :: Bytes.ofText i.render) ++ 0x5d :: rest)
      = .ok (as, rest) := by
  obtain ⟨fuel, rfl⟩ : ∃ k, fuel = k + 1 := ⟨fuel - 1, by omega⟩
  induction h generalizing fuel with
  | nil => exact readItems_close fuel false rest
  | @cons item a items as hitem _ ih =>
    rw [List.length_cons] at hfuel
    obtain ⟨fuel, rfl⟩ : ∃ k, fuel = k + 1 := ⟨fuel - 1, by omega⟩
    -- the item is stopped by the comma before the next one or by the bracket after the last
    have hnext (rest : Bytes) :
        nextItem 0x5d false (0x2c :: (Bytes.ofText item.render ++ rest))
          = .ok (.item (Bytes.ofText item.render ++ rest)) := by
      obtain ⟨b, text, hhead, hblank, hclose, -⟩ := head_render item hitem.wellFormed
      rw [hhead]
      exact nextItem_comma (by decide) hblank hclose _
    rw [List.flatMap_cons, List.append_assoc, List.cons_append,
      readItems_item (hnext _) hitem (stops_items items rest), ih fuel (by omega)]
    rfl

/-- Each of them takes up at least one byte. -/
private theorem length_le_flatMap_items (items : List Json) :
    items.length ≤ (items.flatMap fun i => 0x2c :: Bytes.ofText i.render).length := by
  induction items with
  | nil => exact Nat.le_refl 0
  | cons item items ih =>
    rw [List.flatMap_cons, List.length_append, List.length_cons, List.length_cons]
    omega

/-- A written array is read, after its opening bracket, item by item. -/
theorem readItems_render {items : List Json} {as : List α}
    (h : List.Forall₂ (Reads reader) items as) (rest : Bytes) :
    let input := Bytes.ofText (renderItems items) ++ 0x5d :: rest
    readItems reader (input.length + 1) true input = .ok (as, rest) := by
  intro input
  cases h with
  | nil => exact readItems_close _ true rest
  | @cons item a items as hitem hitems =>
    have hinput : input = Bytes.ofText item.render
        ++ ((items.flatMap fun i => 0x2c :: Bytes.ofText i.render) ++ 0x5d :: rest) := by
      simp only [input, ofText_renderItems, List.append_assoc]
    have hnext : nextItem 0x5d true input = .ok (.item input) := by
      obtain ⟨b, text, hhead, hblank, hclose, -⟩ := head_render item hitem.wellFormed
      rw [hinput, hhead]
      exact nextItem_first hblank hclose _
    -- every item takes up bytes, so the fuel lasts
    have hfuel : items.length < input.length := by
      have := length_le_flatMap_items items
      rw [hinput, List.length_append, List.length_append, List.length_cons]
      omega
    rw [hinput] at hnext
    rw [readItems_item (hinput ▸ hnext) hitem (stops_items items rest),
      readItems_tail hitems hfuel rest]
    rfl

end Items

/-! ## Values

A value of any shape that was written is parsed as itself with the members of its objects sorted.
The induction is on the depth of nesting, which the reader counts down too. -/

/-- Whether a value can be written and then read with `depth` levels of nesting left. -/
def Readable : (depth : Nat) → Json → Prop
  | _, .num n => n.WellFormed
  | depth + 1, .arr items => ∀ item ∈ items, Readable depth item
  | depth + 1, .obj members =>
    members.head?.map Prod.fst ≠ some numberKey ∧ ∀ member ∈ members, Readable depth member.2
  | 0, .arr _ | 0, .obj _ => False
  | _, _ => True

/-- The numbers of a readable value are well-formed. -/
theorem Readable.wellFormed {depth : Nat} {value : Json} (h : Readable depth value) :
    ∀ n, value = .num n → n.WellFormed := by
  rintro n rfl
  rw [Readable] at h
  exact h

theorem sortedItems_eq_map (items : List Json) : sortedItems items = items.map sorted := by
  induction items with
  | nil => rfl
  | cons item items ih => rw [sortedItems, ih, List.map_cons]

/-- The first byte of a number sends the reader to the numeral. -/
theorem readValueWith_number (style : Style) (nested : Option (Reader Json)) {b : UInt8}
    (hb : startsNumber b = true) (rest : Bytes) :
    readValueWith style nested (b :: rest)
      = (readNumeral (b :: rest)).map fun (n, rest) => (.num n, rest) := by
  have hne (c : UInt8) (hc : c.toNat < 0x2d ∨ 0x39 < c.toNat) : b ≠ c := ne_of_startsNumber hb hc
  simp only [readValueWith, skipBlank_cons (isBlank_of_startsNumber hb),
    if_neg (hne 0x22 (by decide)), if_neg (hne 0x5b (by decide)), if_neg (hne 0x7b (by decide)),
    if_neg (hne 0x6e (by decide)), if_neg (hne 0x74 (by decide)), if_neg (hne 0x66 (by decide)),
    hb, if_true]
  cases readNumeral (b :: rest) with
  | error e => rfl
  | ok result => rfl

private theorem readValueWith_null (nested : Option (Reader Json)) (rest : Bytes) :
    readValueWith .parsed nested (0x6e :: 0x75 :: 0x6c :: 0x6c :: rest) = .ok (.null, rest) := by
  simp only [readValueWith, skipBlank_cons (show isBlank 0x6e = false by decide)]
  rfl

private theorem readValueWith_true (nested : Option (Reader Json)) (rest : Bytes) :
    readValueWith .parsed nested (0x74 :: 0x72 :: 0x75 :: 0x65 :: rest)
      = .ok (.bool true, rest) := by
  simp only [readValueWith, skipBlank_cons (show isBlank 0x74 = false by decide)]
  rfl

private theorem readValueWith_false (nested : Option (Reader Json)) (rest : Bytes) :
    readValueWith .parsed nested (0x66 :: 0x61 :: 0x6c :: 0x73 :: 0x65 :: rest)
      = .ok (.bool false, rest) := by
  simp only [readValueWith, skipBlank_cons (show isBlank 0x66 = false by decide)]
  rfl

/-- Behind an opening bracket the items are read. -/
private theorem readValueWith_array (style : Style) (nested : Reader Json) (rest : Bytes) :
    readValueWith style (some nested) (0x5b :: rest)
      = (readItems nested (rest.length + 1) true rest).map fun (items, rest) =>
          (.arr items, rest) := by
  simp only [readValueWith, skipBlank_cons (show isBlank 0x5b = false by decide)]
  show (readItems nested (rest.length + 1) true rest >>= _) = _
  cases readItems nested (rest.length + 1) true rest with
  | error e => rfl
  | ok result => rfl

/-- Collects a member, latest first. -/
private def collectMember (nested : Reader Json) (found : List (String × Json)) (key : String) :
    Reader (List (String × Json)) := fun input => do
  let (value, rest) ← nested input
  return ((key, value) :: found, rest)

/-- Behind an opening brace the members are collected, and then made an object. -/
private theorem readValueWith_object (nested : Reader Json) {rest after : Bytes}
    {found : List (String × Json)} {value : Json}
    (hmembers : readMembers exactText (collectMember nested) (rest.length + 1) true [] rest
      = .ok (found, after)) (hvalue : objectOfMembers found.reverse = some value) :
    readValueWith .parsed (some nested) (0x7b :: rest) = .ok (value, after) := by
  have hobject : Style.parsed.object found.reverse = some value := hvalue
  simp only [readValueWith, skipBlank_cons (show isBlank 0x7b = false by decide)]
  show (readMembers exactText (collectMember nested) (rest.length + 1) true [] rest >>= _) = _
  rw [hmembers]
  simp only [bind, Except.bind, hobject]
  rfl

/-- Collecting goes through all members, latest first. -/
private theorem steps_collectMember {nested : Reader Json} {members : List (String × Json)}
    (h : ∀ member ∈ members, Reads nested member.2 member.2.sorted)
    (found : List (String × Json)) :
    Steps (collectMember nested) found members ((sortedMembers members).reverse ++ found) := by
  induction members generalizing found with
  | nil => exact .nil found
  | cons member members ih =>
    obtain ⟨key, value⟩ := member
    have hrest := ih (fun m hm => h m (List.mem_cons_of_mem _ hm)) ((key, value.sorted) :: found)
    rw [sortedMembers, List.reverse_cons, List.append_assoc]
    refine .cons (fun rest hstops => ?_) hrest
    simp only [collectMember, (h _ List.mem_cons_self).read rest hstops, bind, Except.bind]
    rfl

/-- What was collected is an object if the first key does not stand for a number. -/
theorem objectOfMembers_sortedMembers {members : List (String × Json)}
    (h : members.head?.map Prod.fst ≠ some numberKey) :
    objectOfMembers (sortedMembers members)
      = some (.obj (sortMembers (sortedMembers members))) := by
  cases members with
  | nil => rfl
  | cons member members =>
    obtain ⟨key, value⟩ := member
    have hkey : key ≠ numberKey := fun heq => h (congrArg some heq)
    simp only [sortedMembers, objectOfMembers, if_neg hkey]

/-- A value without parts is read the same at every depth. -/
private theorem reads_scalar (value : Json) (h : Readable 0 value) (depth : Nat) :
    Reads (readValue .parsed depth) value value.sorted where
  wellFormed := h.wellFormed
  read rest hrest := by
    obtain ⟨nested, hnested⟩ :
        ∃ nested, readValue .parsed depth = readValueWith .parsed nested := by
      cases depth with
      | zero => exact ⟨_, rfl⟩
      | succ depth => exact ⟨_, rfl⟩
    rw [hnested]
    -- what is no list and no object is read alike at every depth
    cases value with
    | null => exact readValueWith_null nested rest
    | bool b =>
      cases b with
      | true => exact readValueWith_true nested rest
      | false => exact readValueWith_false nested rest
    | str text =>
      rw [← hnested]
      exact (quotedText_render text).readValue .parsed rfl depth rest
    | num n =>
      have hwell := h.wellFormed n rfl
      have hread := numeral?_text hwell hrest
      obtain ⟨b, text, hhead, hb⟩ := startsNumber_text hwell
      rw [render]
      rw [hhead, List.cons_append] at hread ⊢
      rw [readValueWith_number .parsed nested hb, readNumeral, hread]
      rfl
    | arr items => exact h.elim
    | obj members => exact h.elim

/-- A written value is read as itself, with sorted members. -/
theorem readValue_render {depth : Nat} {value : Json} (h : Readable depth value) :
    Reads (readValue .parsed depth) value value.sorted := by
  induction depth generalizing value with
  | zero => exact reads_scalar value h 0
  | succ depth ih =>
    cases value with
    | null => exact reads_scalar .null trivial _
    | bool b => exact reads_scalar (.bool b) trivial _
    | str text => exact reads_scalar (.str text) trivial _
    | num n => exact reads_scalar (.num n) h _
    | arr items =>
      refine ⟨h.wellFormed, fun rest _ => ?_⟩
      -- the items are one level deeper, where the induction has them
      have hitems : List.Forall₂ (Reads (readValue .parsed depth)) items (sortedItems items) := by
        rw [sortedItems_eq_map, List.forall₂_map_right_iff, List.forall₂_same]
        exact fun item hitem => ih (h item hitem)
      have hread := readItems_render hitems rest
      have htext : Bytes.ofText (render (.arr items)) ++ rest
          = 0x5b :: (Bytes.ofText (renderItems items) ++ 0x5d :: rest) := by
        rw [render, Bytes.ofText_append, Bytes.ofText_append, List.append_assoc, List.append_assoc]
        rfl
      rw [htext, readValue, readValueWith_array, hread, sorted]
      rfl
    | obj members =>
      refine ⟨h.wellFormed, fun rest _ => ?_⟩
      -- so are the values of the members
      have hmembers := steps_collectMember (fun member hmember => ih (h.2 member hmember)) []
      have hread := readMembers_render hmembers rest
      have htext : Bytes.ofText (render (.obj members)) ++ rest
          = 0x7b :: (Bytes.ofText (renderMembers members) ++ 0x7d :: rest) := by
        rw [render, Bytes.ofText_append, Bytes.ofText_append, List.append_assoc, List.append_assoc]
        rfl
      rw [htext, readValue, sorted]
      refine readValueWith_object _ hread ?_
      rw [List.append_nil, List.reverse_reverse]
      exact objectOfMembers_sortedMembers h.1

/-- A value that can be read is parsed as itself, with its members sorted. -/
theorem parse_render {value : Json} (h : Readable depthLimit value) :
    parse value.render = .ok value.sorted := by
  have hread := (readValue_render h).read [] stops_nil
  rw [List.append_nil] at hread
  simp only [parse, readAll, hread, bind, Except.bind]
  rfl

end Json

/-! ## Codecs

A codec can also take its value from a parsed one. If it returns what it encoded, then parsing what
it wrote and decoding that gives the value back. -/

namespace Codec

variable {α : Type}

/-- A value that its codec returns comes back through parsing. -/
theorem Returns.parse {c : Codec α} {a : α} (h : c.Returns a)
    (hreadable : Json.Readable Json.depthLimit (c.encode a)) :
    Json.parse (c.render a) >>= c.decode = .ok a := by
  rw [render, Json.parse_render hreadable]
  exact h

/-- A value that may be absent can be parsed if it can be when it is there. -/
theorem readable_nullable {c : Codec α} {depth : Nat} {value : Option α}
    (h : ∀ a ∈ value, Json.Readable depth (c.encode a)) :
    Json.Readable depth (c.nullable.encode value) := by
  cases value with
  | none => cases depth <;> trivial
  | some a => exact h a rfl

theorem readable_str (depth : Nat) (text : String) : Json.Readable depth (.str text) := by
  cases depth <;> trivial

theorem readsBack_fixedBytes (width depth : Nat) : (fixedBytes width).ReadsBack depth :=
  (readsBack_string depth).refine fun a => by
    have hdecode := decode_fixedBytes a
    rw [fixedBytes, decode_refine_string] at hdecode
    exact hdecode

/-- Quantities are read back. -/
theorem readsBack_quantity (depth : Nat) : quantity.ReadsBack depth where
  wellFormed a n hn := by cases hn
  read a rest _ := by
    have hreturns : Quantity.ofText (Hex.quantity a.toNat) = .ok a := returns_quantity a
    have hquoted := Json.quotedText_render (Hex.quantity a.toNat)
    obtain ⟨inside, hskip, hread⟩ := hquoted.skipBlank rest
    have htext : quantity.render a = Json.renderString (Hex.quantity a.toNat) := rfl
    rw [htext]
    simp only [quantity, hskip, hread, hreturns, bind, Except.bind]
    rfl

end Codec

/-- Whether what is written of each value of a row is readable. -/
def Fields.AllReadable (depth : Nat) : {αs : List Type} → Fields αs → Row αs → Prop
  | _, nil, _ => True
  | _, cons field rest, (a, row) =>
    Json.Readable depth (field.codec.encode a) ∧ rest.AllReadable depth row

/-- A row whose values can be parsed has members that can be. -/
theorem Fields.AllReadable.readable {αs : List Type} {fields : Fields αs} {depth : Nat}
    {row : Row αs} (h : fields.AllReadable depth row) :
    ∀ member ∈ fields.members row, Json.Readable depth member.2 := by
  induction fields with
  | nil => exact fun member hmember => absurd hmember List.not_mem_nil
  | cons field rest ih =>
    obtain ⟨a, row⟩ := row
    obtain ⟨hfield, hrest⟩ := h
    intro member hmember
    rw [members] at hmember
    -- a field that is left out has no member
    split at hmember
    · exact ih hrest member hmember
    · rcases List.mem_cons.1 hmember with rfl | hmember
      · exact hfield
      · exact ih hrest member hmember

/-- A written record is readable, one level above its fields, unless it looks like a number. -/
theorem Codec.readable_record {σ : Type} {αs : List Type} {fields : Fields αs}
    {toRow : σ → Row αs} {ofRow : Row αs → σ} {s : σ} {depth : Nat}
    (hnames : Json.numberKey ∉ fields.names) (h : fields.AllReadable depth (toRow s)) :
    Json.Readable (depth + 1) ((record fields toRow ofRow).encode s) := by
  refine ⟨fun hhead => ?_, h.readable⟩
  obtain ⟨member, hmember, hkey⟩ := Option.map_eq_some_iff.1 hhead
  have hname := fields.mem_names_of_mem_members (toRow s) member (List.mem_of_mem_head? hmember)
  exact hnames (hkey ▸ hname)

end NftExchange
