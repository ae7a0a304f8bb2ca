import Mathlib
import NftExchange.Proofs.Json.Parsed

/-!
# Canonical values

A value of any shape is canonical if its numbers are integers of 64 bits, with or without sign, and
the members of its objects stand in the order of their keys. That is what a program holds which
keeps its objects sorted. `Json.Canonical` also bounds the nesting and excludes the key under which
an object stands for a number.

Nothing happens to a canonical value on its way:

* **`Canonical.readable`** — it is read from its own text;
* **`Canonical.sorted_eq`** — sorting its members changes nothing;
* **`Canonical.renewed_eq`** — reading it anew from a value changes nothing.
-/

namespace NftExchange

/-! ## Integers

An integer of a machine's width is one of the numbers that survive being read anew: it is a word,
and so never goes through floating point. -/

namespace Numeral

/-- The numeral of an integer. -/
def ofInt (i : Int) : Numeral := { ofNat i.natAbs with negative := decide (i < 0) }

theorem wellFormed_ofInt (i : Int) : (ofInt i).WellFormed where
  whole := (wellFormed_ofNat i.natAbs).whole
  noLeadingZero := (wellFormed_ofNat i.natAbs).noLeadingZero
  fraction := nofun
  exponent := nofun

/-- An integer of 64 bits, signed or not, is a word. -/
theorem isWord_ofInt {i : Int} (hlow : -2 ^ 63 ≤ i) (hhigh : i < 2 ^ 64) :
    (ofInt i).isWord = true := by
  have hwhole : Decimal.toNat (ofInt i).whole = i.natAbs := Decimal.toNat_ofNat i.natAbs
  have hinteger : (ofInt i).isInteger = true := rfl
  have hlimit : Bytes.capacity 16 = 2 ^ 128 := by decide
  have hnegative : (ofInt i).negative = decide (i < 0) := rfl
  rw [isWord, hinteger, hwhole, hlimit, hnegative]
  by_cases hneg : i < 0
  · simp [hneg]
    omega
  · simp [hneg]
    omega

/-- It stays what it is when it is read anew. -/
theorem renewed_ofInt {i : Int} (hlow : -2 ^ 63 ≤ i) (hhigh : i < 2 ^ 64) :
    (ofInt i).renewed = ofInt i := by
  have hwhole : Decimal.toNat (ofInt i).whole = i.natAbs := Decimal.toNat_ofNat i.natAbs
  rw [renewed, if_pos (isWord_ofInt hlow hhigh), hwhole]
  split
  · next hzero =>
    rw [Int.natAbs_eq_zero] at hzero
    rw [hzero]
    rfl
  · rfl

end Numeral

/-! ## Sorted members

Keys that ascend are sorted already, so the parser leaves their members as they stand. Members go in
one by one, each behind all those before it. -/

namespace Json

/-- A key above all others goes to the end. -/
theorem insertMember_of_lt {key : String} {value : Json} {members : List (String × Json)}
    (h : ∀ member ∈ members, member.1 < key) :
    insertMember key value members = members ++ [(key, value)] := by
  induction members with
  | nil => rfl
  | cons member members ih =>
    obtain ⟨first, v⟩ := member
    have hfirst : first < key := h _ List.mem_cons_self
    rw [insertMember, if_neg (lt_asymm hfirst), if_neg (ne_of_gt hfirst),
      ih fun m hm => h m (List.mem_cons_of_mem _ hm)]
    rfl

/-- Members that stand in the order of their keys are left where they are. -/
theorem sortMembers_eq_self {members : List (String × Json)}
    (h : (members.map Prod.fst).Pairwise (· < ·)) : sortMembers members = members := by
  -- the members that are sorted already stay in front of those that come later
  suffices hfold : ∀ sorted : List (String × Json),
      ((sorted ++ members).map Prod.fst).Pairwise (· < ·) →
      members.foldl (fun sorted member => insertMember member.1 member.2 sorted) sorted
        = sorted ++ members from hfold [] h
  clear h
  induction members with
  | nil => exact fun sorted _ => (List.append_nil sorted).symm
  | cons member members ih =>
    obtain ⟨key, value⟩ := member
    intro sorted h
    have hlater : ∀ m ∈ sorted, m.1 < key := by
      rw [List.map_append, List.pairwise_append] at h
      exact fun m hm => h.2.2 _ (List.mem_map_of_mem hm) _ List.mem_cons_self
    rw [List.append_cons] at h ⊢
    show members.foldl _ (insertMember key value sorted) = _
    rw [insertMember_of_lt hlater, ih _ h]

/-! ## Canonical values

Integers that fit, keys that ascend and nesting that is not too deep: such a value is what it is
read as, by the parser and when it is read anew. Both are shown by induction on the depth. -/

/-- Whether a value has at most `depth` arrays and objects inside one another, integers of 64 bits
as its numbers, and objects with sorted keys, none of which is that of a number. -/
def Canonical : (depth : Nat) → Json → Prop
  | _, .num n => ∃ i : Int, -2 ^ 63 ≤ i ∧ i < 2 ^ 64 ∧ n = .ofInt i
  | depth + 1, .arr items => ∀ item ∈ items, Canonical depth item
  | depth + 1, .obj members =>
    (members.map Prod.fst).Pairwise (· < ·)
      ∧ ∀ member ∈ members, member.1 ≠ numberKey ∧ Canonical depth member.2
  | 0, .arr _ | 0, .obj _ => False
  | _, _ => True

/-- The numbers of a canonical value are well-formed. -/
theorem Canonical.wellFormed {depth : Nat} {n : Numeral} (h : Canonical depth (.num n)) :
    n.WellFormed := by
  rw [Canonical] at h
  obtain ⟨i, -, -, rfl⟩ := h
  exact Numeral.wellFormed_ofInt i

theorem ne_head_of_forall_ne {members : List (String × Json)} {key : String}
    (h : ∀ member ∈ members, member.1 ≠ key) : members.head?.map Prod.fst ≠ some key := by
  intro hhead
  obtain ⟨member, hmember, hkey⟩ := Option.map_eq_some_iff.1 hhead
  exact h member (List.mem_of_mem_head? hmember) hkey

/-- A canonical value can be parsed. -/
theorem Canonical.readable {depth : Nat} {value : Json} (h : Canonical depth value) :
    Readable depth value := by
  -- the depth goes down by one wherever values are nested, so the induction is on it
  induction depth generalizing value with
  | zero =>
    cases value with
    | num n => exact h.wellFormed
    | arr items => exact h.elim
    | obj members => exact h.elim
    | _ => trivial
  | succ depth ih =>
    cases value with
    | num n => exact h.wellFormed
    | arr items => exact fun item hitem => ih (h item hitem)
    | obj members =>
      exact ⟨ne_head_of_forall_ne fun member hmember => (h.2 member hmember).1,
        fun member hmember => ih (h.2 member hmember).2⟩
    | _ => trivial

/-- Parsing it changes nothing. -/
theorem Canonical.sorted_eq {depth : Nat} {value : Json} (h : Canonical depth value) :
    value.sorted = value := by
  induction depth generalizing value with
  | zero =>
    cases value with
    | arr items => exact h.elim
    | obj members => exact h.elim
    | _ => simp only [sorted]
  | succ depth ih =>
    cases value with
    | arr items =>
      have hitems : items.map sorted = items :=
        (List.map_congr_left fun item hitem => ih (h item hitem)).trans (List.map_id items)
      rw [sorted, sortedItems_eq_map, hitems]
    | obj members =>
      obtain ⟨hkeys, hvalues⟩ := h
      have hmembers : sortedMembers members = members := by
        rw [sortedMembers_eq_map]
        refine (List.map_congr_left fun member hmember => ?_).trans (List.map_id members)
        rw [ih (hvalues member hmember).2]
        rfl
      -- the values are the same by induction, the order because the keys ascend
      rw [sorted, hmembers, sortMembers_eq_self hkeys]
    | _ => simp only [sorted]

/-- Items that stay as they are make up a list that stays as it is. -/
theorem renewedItems_eq_self {items : List Json} (h : ∀ item ∈ items, renewed item = .ok item) :
    renewedItems items = .ok items := by
  induction items with
  | nil => rfl
  | cons item items ih =>
    rw [List.forall_mem_cons] at h
    rw [renewedItems, h.1, ih h.2]
    rfl

/-- And so do members. -/
theorem renewedMembers_eq_self {members : List (String × Json)}
    (h : ∀ member ∈ members, renewed member.2 = .ok member.2) :
    renewedMembers members = .ok members := by
  induction members with
  | nil => rfl
  | cons member members ih =>
    rw [List.forall_mem_cons] at h
    rw [renewedMembers, h.1, ih h.2]
    rfl

/-- Reading a canonical value anew changes nothing. -/
theorem Canonical.renewed_eq {depth : Nat} {value : Json} (h : Canonical depth value) :
    renewed value = .ok value := by
  induction depth generalizing value with
  | zero =>
    cases value with
    | num n =>
      obtain ⟨i, hlow, hhigh, rfl⟩ := h
      rw [renewed, Numeral.renewed_ofInt hlow hhigh]
    | arr items => exact h.elim
    | obj members => exact h.elim
    | _ => simp only [renewed]
  | succ depth ih =>
    cases value with
    | num n =>
      obtain ⟨i, hlow, hhigh, rfl⟩ := h
      rw [renewed, Numeral.renewed_ofInt hlow hhigh]
    | arr items =>
      rw [renewed, renewedItems_eq_self fun item hitem => ih (h item hitem)]
      rfl
    | obj members =>
      obtain ⟨-, hvalues⟩ := h
      -- no key is the one that stands for a number
      have hhead := ne_head_of_forall_ne fun member hmember => (hvalues member hmember).1
      rw [renewed, if_neg hhead,
        renewedMembers_eq_self fun member hmember => ih (hvalues member hmember).2]
      rfl
    | _ => simp only [renewed]

end Json

end NftExchange
