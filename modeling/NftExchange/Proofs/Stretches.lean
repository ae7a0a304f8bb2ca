import Mathlib

/-!
# Stretches of one kind

A reader takes as many items of a kind as there are, so a stretch of that kind ends where something
of another kind follows, or nothing.

* **`takeWhile_stretch`** and **`dropWhile_stretch`** — the stretch is taken, and the rest is left;
* **`stretch_inj`** — both are determined by the whole.
-/

namespace NftExchange

variable {α : Type}

/-- What is taken of a list is the stretch at its front. -/
theorem takeWhile_stretch {p : α → Bool} {xs s : List α} (hxs : ∀ x ∈ xs, p x = true)
    (hs : ∀ c ∈ s.head?, p c = false) : (xs ++ s).takeWhile p = xs := by
  rw [List.takeWhile_append_of_pos hxs]
  cases s with
  | nil => exact List.append_nil xs
  | cons c s => rw [List.takeWhile_cons_of_neg (by simp [hs c rfl]), List.append_nil]

/-- What is left of a list is what follows the stretch at its front. -/
theorem dropWhile_stretch {p : α → Bool} {xs s : List α} (hxs : ∀ x ∈ xs, p x = true)
    (hs : ∀ c ∈ s.head?, p c = false) : (xs ++ s).dropWhile p = s := by
  rw [List.dropWhile_append_of_pos hxs]
  cases s with
  | nil => rfl
  | cons c s => exact List.dropWhile_cons_of_neg (by simp [hs c rfl])

/-- Two stretches of one kind, each up to something of another kind or the end, are the same. -/
theorem stretch_inj {p : α → Prop} {xs ys s t : List α} (hxs : ∀ x ∈ xs, p x)
    (hys : ∀ y ∈ ys, p y) (hs : ∀ c ∈ s.head?, ¬ p c) (ht : ∀ c ∈ t.head?, ¬ p c)
    (h : xs ++ s = ys ++ t) : xs = ys ∧ s = t := by
  induction xs generalizing ys with
  | nil =>
    -- if one stretch ends, the other has to end with it, since what follows does not belong to any
    cases ys with
    | nil => exact ⟨rfl, h⟩
    | cons y ys =>
      rw [List.nil_append] at h
      subst h
      exact absurd (hys y List.mem_cons_self) (hs y rfl)
  | cons x xs ih =>
    cases ys with
    | nil =>
      rw [List.nil_append] at h
      subst h
      exact absurd (hxs x List.mem_cons_self) (ht x rfl)
    | cons y ys =>
      rw [List.cons_append, List.cons_append] at h
      injection h with hhead htail
      obtain ⟨hrest, hst⟩ := ih (fun c hc => hxs c (List.mem_cons_of_mem _ hc))
        (fun c hc => hys c (List.mem_cons_of_mem _ hc)) htail
      exact ⟨by rw [hhead, hrest], hst⟩

end NftExchange
