import Mathlib
import NftExchange.Text.Blank
import NftExchange.Proofs.Stretches

/-!
# Texts without the blanks around them

* **`surrounds_trimmed`** — what is trimmed off a text are blanks at its ends;
* **`trimmed_eq_iff`** — a text without blanks at its own ends is found again among any blanks
  around it, and only there.
-/

namespace NftExchange.Text

/-- The text is `core` with blanks around it, possibly none. -/
def Surrounds (text core : String) : Prop :=
  ∃ front back, text = front ++ core ++ back ∧ (∀ c ∈ front.toList, isBlank c = true)
    ∧ ∀ c ∈ back.toList, isBlank c = true

/-- No blank stands at either end of the text. -/
structure IsTight (text : String) : Prop where
  front : ∀ c ∈ text.toList.head?, isBlank c = false
  back : ∀ c ∈ text.toList.getLast?, isBlank c = false

/-- Blanks surround what is left of a text without them. -/
theorem surrounds_trimmed (text : String) : Surrounds text (trimmed text) := by
  let rest := text.toList.dropWhile isBlank
  -- the blanks taken off in the first pass stand in front, those of the second behind
  refine ⟨String.ofList (text.toList.takeWhile isBlank),
    String.ofList (rest.reverse.takeWhile isBlank).reverse, ?_, ?_, ?_⟩
  · rw [trimmed, ← String.ofList_append, ← String.ofList_append, ← String.toList_inj,
      String.toList_ofList, List.append_assoc, ← List.reverse_append,
      List.takeWhile_append_dropWhile, List.reverse_reverse, List.takeWhile_append_dropWhile]
  · intro c hc
    rw [String.toList_ofList] at hc
    exact List.mem_takeWhile_imp hc
  · intro c hc
    rw [String.toList_ofList, List.mem_reverse] at hc
    exact List.mem_takeWhile_imp hc

/-- A text that neither begins nor ends with a blank is what is left when blanks around it are taken
off. -/
theorem trimmed_eq_of_surrounds {text core : String} (h : Surrounds text core)
    (htight : IsTight core) : trimmed text = core := by
  obtain ⟨front, back, rfl, hfront, hback⟩ := h
  have hreverse : ∀ c ∈ core.toList.reverse.head?, isBlank c = false := by
    rw [List.head?_reverse]
    exact htight.back
  have hblanks : ∀ c ∈ back.toList.reverse, isBlank c = true :=
    fun c hc => hback c (List.mem_reverse.1 hc)
  rw [trimmed, String.toList_append, String.toList_append, List.append_assoc]
  by_cases hempty : core.toList = []
  · -- nothing but blanks: the first pass takes them all
    have hall : (front.toList ++ (core.toList ++ back.toList)).dropWhile isBlank = [] := by
      rw [hempty, List.nil_append, List.dropWhile_append_of_pos hfront]
      exact List.dropWhile_eq_nil_iff.2 hback
    rw [hall, ← String.ofList_toList (s := core), hempty]
    rfl
  · -- otherwise the first pass stops at the front of the core, and the second at its back
    have hhead : ∀ c ∈ (core.toList ++ back.toList).head?, isBlank c = false := by
      rw [List.head?_append_of_ne_nil _ hempty]
      exact htight.front
    rw [dropWhile_stretch hfront hhead, List.reverse_append,
      dropWhile_stretch hblanks hreverse, List.reverse_reverse, String.ofList_toList]

/-- A tight text is what is left of another exactly when blanks surround it there. -/
theorem trimmed_eq_iff {text core : String} (htight : IsTight core) :
    trimmed text = core ↔ Surrounds text core := by
  refine ⟨?_, fun h => trimmed_eq_of_surrounds h htight⟩
  rintro rfl
  exact surrounds_trimmed text

end NftExchange.Text
