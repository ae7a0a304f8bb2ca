import Mathlib
import NftExchange.Proofs.Json.Numerals
import NftExchange.Proofs.Json.Strings

/-!
# Written objects are read member by member

A reader of an object folds its members into a state, one `step` for each. Whether it understands
what was written is therefore a matter of single members: `Steps` says that each member's value,
whatever stops it, takes the state on to the next, and **`readMembers_render`** puts the members
together.
-/

namespace NftExchange.Json

/-! ## Marks between tokens

Between the tokens of what was written there are no blanks. Each of the marks is therefore the very
next byte, and tells whether an item follows or the list is closed. -/

theorem skipBlank_cons {b : UInt8} (hb : isBlank b = false) (rest : Bytes) :
    skipBlank (b :: rest) = b :: rest := by
  rw [skipBlank, List.dropWhile_cons_of_neg (by simp [hb])]

theorem nextItem_close {close : UInt8} (hclose : isBlank close = false) (first : Bool)
    (rest : Bytes) : nextItem close first (close :: rest) = .ok (.closed rest) := by
  simp only [nextItem, skipBlank_cons hclose, if_true]

theorem nextItem_first {close b : UInt8} (hb : isBlank b = false) (hne : b ≠ close)
    (rest : Bytes) : nextItem close true (b :: rest) = .ok (.item (b :: rest)) := by
  simp only [nextItem, skipBlank_cons hb, if_neg hne, if_true]

theorem nextItem_comma {close b : UInt8} (hclose : close ≠ 0x2c) (hb : isBlank b = false)
    (hne : b ≠ close) (rest : Bytes) :
    nextItem close false (0x2c :: b :: rest) = .ok (.item (b :: rest)) := by
  have hcomma : isBlank 0x2c = false := by decide
  simp only [nextItem, skipBlank_cons hcomma, skipBlank_cons hb, if_neg hne, if_neg hclose.symm,
    Bool.false_eq_true, if_false, if_true]

/-! ## Keys

A member is its key in quotes, a colon and its value. -/

/-- A written member, as bytes. -/
def memberBytes (member : String × Json) : Bytes :=
  0x22 :: (spelling member.1 ++ 0x22 :: 0x3a :: Bytes.ofText member.2.render)

theorem ofText_member (key : String) (value : Json) :
    Bytes.ofText (renderString key ++ ":" ++ value.render) = memberBytes (key, value) := by
  have hcolon : Bytes.ofText ":" = [0x3a] := by decide
  simp only [Bytes.ofText_append, ofText_renderString, hcolon, memberBytes, List.cons_append,
    List.append_assoc, List.nil_append]

/-- Reading the key of a member leaves its value. -/
theorem readKey_memberBytes (member : String × Json) (rest : Bytes) :
    readKey exactText (memberBytes member ++ rest)
      = .ok (member.1, Bytes.ofText member.2.render ++ rest) := by
  have hkey := stringAfterQuote_spelling member.1 (0x3a :: (Bytes.ofText member.2.render ++ rest))
  have hcolon : isBlank 0x3a = false := by decide
  rw [memberBytes, List.cons_append, List.append_assoc]
  simp only [readKey, List.cons_append, hkey, bind, Except.bind, skipBlank_cons hcolon]
  rfl

theorem nextItem_member (member : String × Json) (rest : Bytes) :
    nextItem 0x7d true (memberBytes member ++ rest) = .ok (.item (memberBytes member ++ rest)) :=
  nextItem_first (by decide) (by decide) _

theorem nextItem_comma_member (member : String × Json) (rest : Bytes) :
    nextItem 0x7d false (0x2c :: (memberBytes member ++ rest))
      = .ok (.item (memberBytes member ++ rest)) :=
  nextItem_comma (by decide) (by decide) (by decide) _

/-- Written members, as bytes: a comma before each but the first. -/
theorem ofText_renderMembers (member : String × Json) (members : List (String × Json)) :
    Bytes.ofText (renderMembers (member :: members))
      = memberBytes member ++ members.flatMap fun m => 0x2c :: memberBytes m := by
  induction members generalizing member with
  | nil =>
    rw [renderMembers, ofText_member, List.flatMap_nil, List.append_nil]
  | cons next members ih =>
    have hcomma : Bytes.ofText "," = [0x2c] := by decide
    rw [renderMembers, Bytes.ofText_append, Bytes.ofText_append, ofText_member, ih, hcomma,
      List.flatMap_cons, List.append_assoc]
    · rfl
    · exact List.cons_ne_nil next members

/-! ## Members

Reading an object folds a step over its members. If the step can read each of the values, it goes
through the whole object; the fuel lasts because every member takes up bytes. -/

section Steps

variable {σ : Type}

/-- Each member takes the state on to the next, whatever follows its value. -/
inductive Steps (step : σ → String → Reader σ) : σ → List (String × Json) → σ → Prop where
  | nil (s : σ) : Steps step s [] s
  | cons {s s' s'' : σ} {member : String × Json} {members : List (String × Json)}
      (hstep : ∀ rest, Stops rest →
        step s member.1 (Bytes.ofText member.2.render ++ rest) = .ok (s', rest))
      (hsteps : Steps step s' members s'') : Steps step s (member :: members) s''

variable {step : σ → String → Reader σ}

/-- One member takes one step. -/
private theorem readMembers_item {fuel : Nat} {first : Bool} {s s' : σ} {input rest : Bytes}
    {member : String × Json}
    (hnext : nextItem 0x7d first input = .ok (.item (memberBytes member ++ rest)))
    (hstep : step s member.1 (Bytes.ofText member.2.render ++ rest) = .ok (s', rest)) :
    readMembers exactText step (fuel + 1) first s input
      = readMembers exactText step fuel false s' rest := by
  rw [readMembers]
  simp only [hnext, readKey_memberBytes, hstep, bind, Except.bind]

/-- A value is followed by a comma or the closing brace, where any number ends. -/
private theorem stops_members (members : List (String × Json)) (rest : Bytes) :
    Stops ((members.flatMap fun m => 0x2c :: memberBytes m) ++ 0x7d :: rest) := by
  cases members with
  | nil => exact stops_brace rest
  | cons member members => exact stops_comma _

/-- The members behind the first are read one by one. -/
private theorem readMembers_tail {s s' : σ} {members : List (String × Json)}
    (h : Steps step s members s') {fuel : Nat} (hfuel : members.length < fuel) (rest : Bytes) :
    readMembers exactText step fuel false s
      ((members.flatMap fun m => 0x2c :: memberBytes m) ++ 0x7d :: rest) = .ok (s', rest) := by
  induction h generalizing fuel with
  | nil s =>
    obtain ⟨fuel, rfl⟩ := Nat.exists_eq_add_of_lt hfuel
    have hnext := nextItem_close (show isBlank 0x7d = false by decide) false rest
    rw [List.flatMap_nil, List.nil_append, readMembers]
    simp only [hnext, bind, Except.bind, pure, Except.pure]
  | @cons s s' s'' member members hstep _ ih =>
    -- the value is stopped by the comma before the next member or by the brace after the last
    rw [List.length_cons] at hfuel
    obtain ⟨fuel, rfl⟩ : ∃ k, fuel = k + 1 := ⟨fuel - 1, by omega⟩
    rw [List.flatMap_cons, List.append_assoc, List.cons_append,
      readMembers_item (nextItem_comma_member member _) (hstep _ (stops_members members rest))]
    exact ih (by omega)

/-- Each of them takes up at least one byte. -/
private theorem length_le_flatMap (members : List (String × Json)) :
    members.length ≤ (members.flatMap fun m => 0x2c :: memberBytes m).length := by
  induction members with
  | nil => exact Nat.le_refl 0
  | cons member members ih =>
    rw [List.flatMap_cons, List.length_append, List.length_cons, List.length_cons]
    omega

/-- A written object is read, after its opening brace, by folding its members. -/
theorem readMembers_render {s s' : σ} {members : List (String × Json)}
    (h : Steps step s members s') (rest : Bytes) :
    let input := Bytes.ofText (renderMembers members) ++ 0x7d :: rest
    readMembers exactText step (input.length + 1) true s input = .ok (s', rest) := by
  intro input
  cases h with
  | nil =>
    have hnext := nextItem_close (show isBlank 0x7d = false by decide) true rest
    show readMembers exactText step _ true s (0x7d :: rest) = _
    rw [readMembers]
    simp only [hnext, bind, Except.bind, pure, Except.pure]
  | @cons _ s₁ _ member members hstep hsteps =>
    have hinput : input = memberBytes member
        ++ ((members.flatMap fun m => 0x2c :: memberBytes m) ++ 0x7d :: rest) := by
      simp only [input, ofText_renderMembers, List.append_assoc]
    -- every member takes up bytes, so the fuel lasts
    have hfuel : members.length < input.length := by
      have := length_le_flatMap members
      rw [hinput, List.length_append, List.length_append, List.length_cons]
      omega
    have hfirst : readMembers exactText step (input.length + 1) true s input
        = readMembers exactText step input.length false s₁
            ((members.flatMap fun m => 0x2c :: memberBytes m) ++ 0x7d :: rest) := by
      generalize input.length = fuel
      rw [hinput]
      exact readMembers_item (nextItem_member member _) (hstep _ (stops_members members rest))
    rw [hfirst]
    exact readMembers_tail hsteps hfuel rest

end Steps

end NftExchange.Json
