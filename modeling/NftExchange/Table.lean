/-!
# Tables

A table has at most one row for each key, so it holds exactly the keys that were inserted.
`get?_insert` says what an insertion changes.
-/

namespace NftExchange

/-- Values by key. -/
structure Table (κ α : Type) where
  rows : List (κ × α) := []
  nodup : (rows.map Prod.fst).Nodup := by simp

namespace Table

variable {κ α : Type} [DecidableEq κ]

/-- Replaces the row of a key, or adds one. -/
def insertRow (key : κ) (value : α) : List (κ × α) → List (κ × α)
  | [] => [(key, value)]
  | row :: rows => if row.1 = key then (key, value) :: rows else row :: insertRow key value rows

theorem keys_insertRow (key : κ) (value : α) (rows : List (κ × α)) :
    (insertRow key value rows).map Prod.fst =
      if key ∈ rows.map Prod.fst then rows.map Prod.fst else rows.map Prod.fst ++ [key] := by
  induction rows with
  | nil => rfl
  | cons row rows ih =>
    by_cases h : row.1 = key
    · simp [insertRow, h]
    · have h' : key ≠ row.1 := Ne.symm h
      simp only [insertRow, h, if_false, List.map_cons, ih, List.mem_cons, h', false_or]
      split <;> simp

theorem nodup_insertRow {key : κ} {value : α} {rows : List (κ × α)}
    (h : (rows.map Prod.fst).Nodup) : ((insertRow key value rows).map Prod.fst).Nodup := by
  rw [keys_insertRow]
  split
  · exact h
  · next hnot =>
    rw [List.nodup_append]
    exact ⟨h, by simp, fun a ha b hb heq => hnot (by simp_all)⟩

/-- The value of a key that was inserted. -/
def get? (table : Table κ α) (key : κ) : Option α := table.rows.lookup key

/-- The table with a value for a key. -/
def insert (table : Table κ α) (key : κ) (value : α) : Table κ α :=
  ⟨insertRow key value table.rows, nodup_insertRow table.nodup⟩

theorem lookup_insertRow (key other : κ) (value : α) (rows : List (κ × α)) :
    (insertRow key value rows).lookup other =
      if other = key then some value else rows.lookup other := by
  induction rows with
  | nil => by_cases h : other = key <;> simp [insertRow, List.lookup_cons, h, beq_false_of_ne]
  | cons row rows ih =>
    obtain ⟨first, old⟩ := row
    by_cases h : first = key
    · subst h
      by_cases ho : other = first <;> simp [insertRow, List.lookup_cons, ho, beq_false_of_ne]
    · by_cases ho : other = first
      · subst ho; simp [insertRow, h]
      · simp [insertRow, List.lookup_cons, h, ho, beq_false_of_ne, ih]

/-- An insertion changes the value of its key and of no other. -/
theorem get?_insert (table : Table κ α) (key other : κ) (value : α) :
    (table.insert key value).get? other = if other = key then some value else table.get? other :=
  lookup_insertRow key other value table.rows

end Table

end NftExchange
