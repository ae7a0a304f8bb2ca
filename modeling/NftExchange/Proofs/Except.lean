/-!
# Steps that can fail

A computation of several steps has a result exactly if each of its steps has one, and its error is
that of one of its steps.
-/

namespace Except

variable {ε ε' α β : Type}

/-- A step that fails makes the whole fail, so a result is that of every step. -/
theorem bind_eq_ok_iff {x : Except ε α} {f : α → Except ε β} {b : β} :
    (x >>= f) = .ok b ↔ ∃ a, x = .ok a ∧ f a = .ok b := by
  cases x with
  | error e => simp [bind, Except.bind]
  | ok a => simp [bind, Except.bind]

theorem map_eq_ok_iff {x : Except ε α} {f : α → β} {b : β} :
    f <$> x = .ok b ↔ ∃ a, x = .ok a ∧ f a = b := by
  cases x with
  | error e => simp [Functor.map, Except.map]
  | ok a => simp [Functor.map, Except.map]

/-- Changing errors does not change results. -/
theorem mapError_eq_ok_iff {x : Except ε α} {f : ε → ε'} {a : α} :
    x.mapError f = .ok a ↔ x = .ok a := by
  cases x with
  | error e => exact ⟨nofun, nofun⟩
  | ok b =>
    constructor
    · intro h
      cases h
      rfl
    · intro h
      cases h
      rfl

/-- A traversal gives these results exactly if each item gives its own. -/
theorem mapM_eq_ok_map_iff {f : α → Except ε β} {g : α → β} {as : List α} :
    as.mapM f = .ok (as.map g) ↔ ∀ a ∈ as, f a = .ok (g a) := by
  induction as with
  | nil => exact ⟨fun _ _ h => (List.not_mem_nil h).elim, fun _ => rfl⟩
  | cons a as ih =>
    rw [List.mapM_cons, List.map_cons, List.forall_mem_cons, ← ih]
    -- the first result and those of the rest are computed independently of each other
    simp only [bind_eq_ok_iff]
    constructor
    · rintro ⟨b, hb, bs, hbs, h⟩
      cases h
      exact ⟨hb, hbs⟩
    · rintro ⟨hb, hbs⟩
      exact ⟨g a, hb, as.map g, hbs, rfl⟩

/-- A traversal gives one result for each item. -/
theorem length_of_mapM {f : α → Except ε β} {as : List α} {bs : List β}
    (h : as.mapM f = .ok bs) : bs.length = as.length := by
  induction as generalizing bs with
  | nil =>
    cases h
    rfl
  | cons a as ih =>
    rw [List.mapM_cons] at h
    simp only [bind_eq_ok_iff] at h
    obtain ⟨b, -, rest, hrest, heq⟩ := h
    cases heq
    rw [List.length_cons, List.length_cons, ih hrest]

/-! ## Errors of a kind

Of a long computation it is often enough to know which errors it cannot end with. That follows from
its steps, one by one. -/

variable {kind : ε → Prop}

/-- If this fails, it is with no error of a kind. -/
def Spares (kind : ε → Prop) (x : Except ε α) : Prop := ∀ e, x = .error e → ¬ kind e

theorem spares_ok (a : α) : Spares kind (.ok a) := nofun

theorem spares_error {e : ε} (h : ¬ kind e) : Spares kind (.error e : Except ε α) := by
  intro e' he
  cases he
  exact h

/-- Errors that are all turned into others leave none of a kind that none of those has. -/
theorem spares_mapError {kind : ε' → Prop} {f : ε → ε'} (h : ∀ e, ¬ kind (f e))
    (x : Except ε α) : Spares kind (x.mapError f) := by
  cases x with
  | error e => exact spares_error (h e)
  | ok a => exact spares_ok a

/-- A computation spares a kind of error if its steps do. -/
theorem Spares.bind {x : Except ε α} {f : α → Except ε β} (hx : Spares kind x)
    (hf : ∀ a, Spares kind (f a)) : Spares kind (x >>= f) := by
  cases x with
  | error e => exact spares_error (hx e rfl)
  | ok a => exact hf a

/-- So does a traversal that picks results. -/
theorem Spares.filterMapM {f : α → Except ε (Option β)} (hf : ∀ a, Spares kind (f a))
    (as : List α) : Spares kind (as.filterMapM f) := by
  induction as with
  | nil => exact spares_ok []
  | cons a as ih =>
    rw [List.filterMapM_cons]
    refine (hf a).bind fun found => ?_
    cases found with
    | none => exact ih
    | some b => exact ih.bind fun bs => spares_ok (b :: bs)

end Except
