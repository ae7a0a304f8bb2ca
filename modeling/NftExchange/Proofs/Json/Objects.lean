import Mathlib
import NftExchange.Json.Read
import NftExchange.Proofs.Json.Members

/-!
# Objects of texts, however they are written

An object whose members are all texts can be written in many ways: with blanks wherever a token may
start, and with any spelling of each character of its keys and values. `ObjectText pairs bytes` says
that `bytes` is one of the ways to write an object with the members `pairs`, in their order and with
repetitions.

* **`BodyText.readMembers`** — a reader that treats a text in the same manner however it is written
  (`TakesTexts`) folds the members, and leaves what follows the closing brace;
* **`ObjectText.unique`** — what is written determines the members;
* **`objectText_render`** — the writer's way is one of them.
-/

namespace NftExchange.Json

/-! ## Ways to write an object

A grammar for objects whose values are all texts: with blanks in any place where they may stand, and
with every way to spell a character. The relations are read from left to right, as the reader does.
-/

/-- Nothing but blanks. -/
def IsBlanks (bytes : Bytes) : Prop := ∀ b ∈ bytes, isBlank b = true

theorem isBlanks_nil : IsBlanks [] := List.forall_mem_nil _

theorem isBlanks_singleton {b : UInt8} (h : isBlank b = true) : IsBlanks [b] :=
  List.forall_mem_singleton.2 h

/-- A text between quotes, after blanks. -/
inductive QuotedText (text : String) : Bytes → Prop where
  | intro {blanks spelled : Bytes} (hblanks : IsBlanks blanks)
      (hspelled : Spelled text.toList spelled) :
      QuotedText text (blanks ++ 0x22 :: (spelled ++ [0x22]))

/-- A key, a colon and a text. -/
inductive MemberText (pair : String × String) : Bytes → Prop where
  | intro {key blanks value : Bytes} (hkey : QuotedText pair.1 key) (hblanks : IsBlanks blanks)
      (hvalue : QuotedText pair.2 value) : MemberText pair (key ++ (blanks ++ 0x3a :: value))

/-- Members after another one, each behind its comma, and the closing brace. -/
inductive TailText : List (String × String) → Bytes → Prop where
  | close {blanks : Bytes} (hblanks : IsBlanks blanks) : TailText [] (blanks ++ [0x7d])
  | comma {pair : String × String} {pairs : List (String × String)} {blanks member tail : Bytes}
      (hblanks : IsBlanks blanks) (hmember : MemberText pair member)
      (htail : TailText pairs tail) : TailText (pair :: pairs) (blanks ++ 0x2c :: (member ++ tail))

/-- What stands behind the opening brace. -/
inductive BodyText : List (String × String) → Bytes → Prop where
  | empty {blanks : Bytes} (hblanks : IsBlanks blanks) : BodyText [] (blanks ++ [0x7d])
  | members {pair : String × String} {pairs : List (String × String)} {member tail : Bytes}
      (hmember : MemberText pair member) (htail : TailText pairs tail) :
      BodyText (pair :: pairs) (member ++ tail)

/-- An object with these members, with blanks around it. -/
inductive ObjectText (pairs : List (String × String)) : Bytes → Prop where
  | intro {before body after : Bytes} (hbefore : IsBlanks before) (hbody : BodyText pairs body)
      (hafter : IsBlanks after) : ObjectText pairs (before ++ 0x7b :: (body ++ after))

/-! ## Blanks

Blanks are skipped in front of every token, and make no difference to what is found behind them. -/

theorem IsBlanks.skipBlank_append {blanks : Bytes} (h : IsBlanks blanks) (rest : Bytes) :
    skipBlank (blanks ++ rest) = skipBlank rest := by
  rw [skipBlank, List.dropWhile_append_of_pos h]
  rfl

theorem IsBlanks.skipBlank_eq_nil {blanks : Bytes} (h : IsBlanks blanks) :
    skipBlank blanks = [] := by
  rw [← List.append_nil blanks, h.skipBlank_append]
  rfl

theorem IsBlanks.skipBlank_mark {blanks : Bytes} (h : IsBlanks blanks) {b : UInt8}
    (hb : isBlank b = false) (rest : Bytes) : skipBlank (blanks ++ b :: rest) = b :: rest := by
  rw [h.skipBlank_append, skipBlank_cons hb]

/-- The search for the next item passes over blanks first. -/
theorem IsBlanks.nextItem_append {blanks : Bytes} (h : IsBlanks blanks) (close : UInt8)
    (first : Bool) (rest : Bytes) :
    nextItem close first (blanks ++ rest) = nextItem close first rest := by
  simp only [nextItem, h.skipBlank_append]

/-! ## Single texts

A text in quotes, and a member with such a text, are read as the text and the member, whatever
follows. -/

/-- In front of a quoted text stands its quote, and behind that it is read. -/
theorem QuotedText.skipBlank {text : String} {quoted : Bytes} (h : QuotedText text quoted)
    (rest : Bytes) : ∃ inside, skipBlank (quoted ++ rest) = 0x22 :: inside
      ∧ stringAfterQuote exactText inside = .ok (text, rest) := by
  obtain @⟨blanks, spelled, hblanks, hspelled⟩ := h
  refine ⟨spelled ++ 0x22 :: rest, ?_, ?_⟩
  · rw [List.append_assoc, hblanks.skipBlank_append, List.cons_append, List.append_assoc,
      skipBlank_cons (by decide)]
    rfl
  · simp only [stringAfterQuote, hspelled.rawString rest, hspelled.exactText]

/-- A quoted text is a value. -/
theorem QuotedText.readValue {text : String} {quoted : Bytes} (h : QuotedText text quoted)
    (style : Style) (hstyle : style.text = exactText) (depth : Nat) (rest : Bytes) :
    readValue style depth (quoted ++ rest) = .ok (.str text, rest) := by
  obtain ⟨inside, hskip, hread⟩ := h.skipBlank rest
  rw [← hstyle] at hread
  have hvalue (nested : Option (Reader Json)) :
      readValueWith style nested (quoted ++ rest) = .ok (.str text, rest) := by
    simp only [readValueWith, hskip, if_true, hread, bind, Except.bind]
    rfl
  cases depth with
  | zero => exact hvalue none
  | succ depth => exact hvalue _

/-- The writer puts no blanks anywhere. -/
theorem quotedText_render (text : String) : QuotedText text (Bytes.ofText (renderString text)) := by
  rw [ofText_renderString]
  exact .intro isBlanks_nil (spelled_renderString text)

/-- The key of a member is read, and its value is left. -/
theorem MemberText.readKey {pair : String × String} {member : Bytes} (h : MemberText pair member)
    (rest : Bytes) : ∃ value, QuotedText pair.2 value
      ∧ readKey exactText (Json.skipBlank (member ++ rest)) = .ok (pair.1, value ++ rest) := by
  obtain @⟨key, blanks, value, hkey, hblanks, hvalue⟩ := h
  obtain ⟨inside, hskip, hread⟩ := hkey.skipBlank (blanks ++ 0x3a :: (value ++ rest))
  have hcolon := hblanks.skipBlank_mark (show isBlank 0x3a = false by decide) (value ++ rest)
  refine ⟨value, hvalue, ?_⟩
  rw [List.append_assoc, List.append_assoc, List.cons_append, hskip]
  simp only [Json.readKey, hread, hcolon, bind, Except.bind]
  rfl

/-- In front of a member stands the quote of its key. -/
theorem MemberText.skipBlank {pair : String × String} {member : Bytes} (h : MemberText pair member)
    (rest : Bytes) : ∃ inside, Json.skipBlank (member ++ rest) = 0x22 :: inside := by
  obtain ⟨hkey, -, -⟩ := h
  rw [List.append_assoc]
  obtain ⟨inside, hskip, -⟩ := hkey.skipBlank _
  exact ⟨inside, hskip⟩

/-! ## Reading members

The reader folds a step over the members as they come. If the step makes of a text what `act` says,
the reader makes of the object what folding `act` over its members does. The induction is on the way
in which the object is written. -/

section Reading

variable {σ : Type} {step : σ → String → Reader σ} {act : σ → String × String → Except JsonError σ}

/-- The reader of members does the same with a text however it is written. -/
def TakesTexts (step : σ → String → Reader σ) (act : σ → String × String → Except JsonError σ) :
    Prop :=
  ∀ s pair quoted rest, QuotedText pair.2 quoted →
    step s pair.1 (quoted ++ rest) = (act s pair).map (·, rest)

/-- One member takes one step. -/
private theorem readMembers_pair (hstep : TakesTexts step act) {pair : String × String}
    {member : Bytes} (hmember : MemberText pair member) {fuel : Nat} {first : Bool} {s : σ}
    {input rest : Bytes}
    (hnext : nextItem 0x7d first input = .ok (.item (skipBlank (member ++ rest)))) :
    readMembers exactText step (fuel + 1) first s input
      = (act s pair).bind fun s' => readMembers exactText step fuel false s' rest := by
  obtain ⟨value, hvalue, hkey⟩ := hmember.readKey rest
  rw [readMembers]
  simp only [hnext, hkey, hstep s pair value rest hvalue, bind, Except.bind]
  cases act s pair with
  | error e => rfl
  | ok s' => rfl

/-- Behind the last member stands the brace. -/
private theorem readMembers_close {fuel : Nat} {first : Bool} {s : σ} {blanks : Bytes}
    (hblanks : IsBlanks blanks) (rest : Bytes) :
    readMembers exactText step (fuel + 1) first s (blanks ++ [0x7d] ++ rest) = .ok (s, rest) := by
  have hnext := nextItem_close (show isBlank 0x7d = false by decide) first rest
  rw [← hblanks.nextItem_append] at hnext
  rw [List.append_assoc, List.singleton_append, readMembers]
  simp only [hnext, bind, Except.bind, pure, Except.pure]

/-- The members behind the first are folded over. -/
theorem TailText.readMembers (hstep : TakesTexts step act) {pairs : List (String × String)}
    {tail : Bytes} (h : TailText pairs tail) {fuel : Nat} (hfuel : pairs.length < fuel) (s : σ)
    (rest : Bytes) :
    readMembers exactText step fuel false s (tail ++ rest)
      = (pairs.foldlM act s).map (·, rest) := by
  induction h generalizing fuel s with
  | close hblanks =>
    obtain ⟨fuel, rfl⟩ := Nat.exists_eq_add_of_lt hfuel
    exact readMembers_close hblanks rest
  | @comma pair pairs blanks member tail hblanks hmember htail ih =>
    rw [List.length_cons] at hfuel
    obtain ⟨fuel, rfl⟩ : ∃ k, fuel = k + 1 := ⟨fuel - 1, by omega⟩
    -- behind the comma comes the quote of the key, and not the closing brace
    have hnext : nextItem 0x7d false (blanks ++ 0x2c :: (member ++ tail) ++ rest)
        = .ok (.item (skipBlank (member ++ (tail ++ rest)))) := by
      obtain ⟨inside, hskip⟩ := hmember.skipBlank (tail ++ rest)
      have hmarks : ¬ (0x2c : UInt8) = 0x7d ∧ ¬ (0x22 : UInt8) = 0x7d := by decide
      rw [List.append_assoc, hblanks.nextItem_append, List.cons_append, List.append_assoc]
      simp only [nextItem, skipBlank_cons (show isBlank 0x2c = false by decide), hskip,
        if_neg hmarks.1, if_neg hmarks.2, Bool.false_eq_true, if_false, if_true]
    rw [readMembers_pair hstep hmember hnext, List.foldlM_cons]
    cases act s pair with
    | error e => rfl
    | ok s' => exact ih (by omega) s'

/-- The members are folded in their order, up to the closing brace. -/
theorem BodyText.readMembers (hstep : TakesTexts step act) {pairs : List (String × String)}
    {body : Bytes} (h : BodyText pairs body) {fuel : Nat} (hfuel : pairs.length < fuel) (s : σ)
    (rest : Bytes) :
    readMembers exactText step fuel true s (body ++ rest)
      = (pairs.foldlM act s).map (·, rest) := by
  obtain ⟨fuel, rfl⟩ : ∃ k, fuel = k + 1 := ⟨fuel - 1, by omega⟩
  cases h with
  | empty hblanks => exact readMembers_close hblanks rest
  | @members pair pairs member tail hmember htail =>
    -- the first member needs no comma in front, the others are left to the reader of tails
    have hnext : nextItem 0x7d true (member ++ tail ++ rest)
        = .ok (.item (skipBlank (member ++ (tail ++ rest)))) := by
      obtain ⟨inside, hskip⟩ := hmember.skipBlank (tail ++ rest)
      have hmark : ¬ (0x22 : UInt8) = 0x7d := by decide
      rw [List.append_assoc]
      simp only [nextItem, hskip, if_neg hmark, if_true]
    rw [readMembers_pair hstep hmember hnext, List.foldlM_cons]
    rw [List.length_cons] at hfuel
    cases act s pair with
    | error e => rfl
    | ok s' => exact htail.readMembers hstep (by omega) s' rest

end Reading

/-- Each of these members takes up at least one byte. -/
theorem TailText.length_le {pairs : List (String × String)} {tail : Bytes}
    (h : TailText pairs tail) : pairs.length ≤ tail.length := by
  induction h with
  | close _ => exact Nat.zero_le _
  | comma _ _ _ ih =>
    simp only [List.length_append, List.length_cons]
    omega

/-- Every member takes up bytes, so a reader that counts on the length of its input gets through. -/
theorem BodyText.length_le {pairs : List (String × String)} {body : Bytes}
    (h : BodyText pairs body) : pairs.length ≤ body.length := by
  cases h with
  | empty _ => exact Nat.zero_le _
  | members hmember htail =>
    obtain ⟨⟨-, -⟩, -, -⟩ := hmember
    have := htail.length_le
    simp only [List.length_append, List.length_cons]
    omega

/-! ## What is written determines the members

Two lists of members that can be written in the same bytes are the same list, because one reader
takes both from these bytes. -/

/-- Reads the members themselves. -/
private def readPairs (members : List (String × Json)) (key : String) :
    Reader (List (String × Json)) := fun input => do
  let (value, rest) ← readValue .collected 0 input
  return (members ++ [(key, value)], rest)

/-- Collecting members is such a step. -/
private theorem takesTexts_readPairs :
    TakesTexts readPairs fun members pair => .ok (members ++ [(pair.1, .str pair.2)]) := by
  intro members pair quoted rest hquoted
  simp only [readPairs, hquoted.readValue .collected rfl, bind, Except.bind]
  rfl

/-- Folding it over members gives all of them. -/
private theorem foldlM_readPairs (pairs : List (String × String)) (members : List (String × Json)) :
    pairs.foldlM (fun members pair =>
        (.ok (members ++ [(pair.1, .str pair.2)]) : Except JsonError _)) members
      = .ok (members ++ pairs.map fun pair => (pair.1, .str pair.2)) := by
  induction pairs generalizing members with
  | nil =>
    rw [List.map_nil, List.append_nil]
    rfl
  | cons pair pairs ih =>
    rw [List.foldlM_cons, List.map_cons]
    show pairs.foldlM _ (members ++ [(pair.1, .str pair.2)]) = _
    rw [ih, List.append_assoc]
    rfl

/-- Bytes are the text of one list of members only. -/
theorem ObjectText.unique {pairs pairs' : List (String × String)} {bytes : Bytes}
    (h : ObjectText pairs bytes) (h' : ObjectText pairs' bytes) : pairs = pairs' := by
  -- a reader takes the members of either from the same input
  have hread {pairs : List (String × String)} (h : ObjectText pairs bytes) :
      ∃ after, readMembers exactText readPairs (bytes.length + 1) true [] (skipBlank bytes).tail
        = .ok (pairs.map fun pair => (pair.1, .str pair.2), after) := by
    obtain @⟨before, body, after, hbefore, hbody, -⟩ := h
    have hlength := hbody.length_le
    refine ⟨after, ?_⟩
    rw [hbefore.skipBlank_mark (by decide), List.tail_cons,
      hbody.readMembers takesTexts_readPairs (by
        simp only [List.length_append, List.length_cons]
        omega), foldlM_readPairs]
    rfl
  obtain ⟨after, hpairs⟩ := hread h
  obtain ⟨after', hpairs'⟩ := hread h'
  rw [hpairs] at hpairs'
  obtain ⟨hmap, -⟩ := Prod.mk.inj (Except.ok.inj hpairs')
  refine List.map_injective_iff.2 (fun p q hpq => ?_) hmap
  obtain ⟨hkey, hvalue⟩ := Prod.mk.inj hpq
  exact Prod.ext hkey (Json.str.inj hvalue)

/-! ## The writer's way

The writer uses no blanks and its own escapes, which is one of the ways that the grammar allows. -/

/-- A member is written in one of its ways. -/
theorem memberText_memberBytes (pair : String × String) :
    MemberText pair (memberBytes (pair.1, .str pair.2)) := by
  have h : MemberText pair _ :=
    .intro (quotedText_render pair.1) isBlanks_nil (quotedText_render pair.2)
  rw [ofText_renderString pair.1, List.cons_append, List.append_assoc] at h
  rw [memberBytes, render]
  exact h

/-- So are the members behind the first. -/
private theorem tailText_members (pairs : List (String × String)) :
    TailText pairs
      ((pairs.flatMap fun pair => 0x2c :: memberBytes (pair.1, .str pair.2)) ++ [0x7d]) := by
  induction pairs with
  | nil => exact .close isBlanks_nil
  | cons pair pairs ih =>
    rw [List.flatMap_cons, List.cons_append, List.cons_append, List.append_assoc]
    exact .comma isBlanks_nil (memberText_memberBytes pair) ih

/-- And all of them. -/
theorem bodyText_renderMembers (pairs : List (String × String)) :
    BodyText pairs
      (Bytes.ofText (renderMembers (pairs.map fun pair => (pair.1, .str pair.2))) ++ [0x7d]) := by
  cases pairs with
  | nil => exact .empty isBlanks_nil
  | cons pair pairs =>
    rw [List.map_cons, ofText_renderMembers, List.flatMap_map, List.append_assoc]
    exact .members (memberText_memberBytes pair) (tailText_members pairs)

/-- An object of texts is written in one of its ways. -/
theorem objectText_render (pairs : List (String × String)) :
    ObjectText pairs
      (Bytes.ofText (render (.obj (pairs.map fun pair => (pair.1, .str pair.2))))) := by
  have h := ObjectText.intro isBlanks_nil (bodyText_renderMembers pairs) isBlanks_nil
  rw [List.append_nil, List.nil_append] at h
  rw [render, Bytes.ofText_append, Bytes.ofText_append, List.append_assoc]
  exact h

end NftExchange.Json
