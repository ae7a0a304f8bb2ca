import Mathlib
import NftExchange.Decimal.Shortest

/-!
# Rounding whole numbers

What rounding to floating point and back does to a number without a fraction. It stays without one
(`dvd_of_nearest`), and a floating-point number without a fraction is the nearest to itself, so its
shortest decimal has no places after the point either. Two decimals that are equally short and near
to it do not occur: the midpoint of two neighbours on a decimal grid has too many binary places to
be a floating-point number unless the grid is finer than the floating-point numbers are.

* **`dvd_of_nearest`** — a whole number is rounded to a whole number;
* **`shortest_even_eq_upper`** — both rules for ties find the same decimal for a whole number;
* **`exponent_nonneg_of_shortest`** — and that decimal has no places.
-/

namespace NftExchange.Decimal

/-! ## Quotients

Rounding to the nearest quotient, ties to the even one. All that matters of it is that a multiple is
kept and that the distance is at most half a divisor. -/

/-- A multiple of the divisor is its quotient. -/
theorem roundQuotient_mul {b : Nat} (hb : 0 < b) (q : Nat) : roundQuotient (q * b) b = q := by
  have hmod : 2 * (q * b % b) = 0 := by rw [Nat.mul_mod_left]
  simp only [roundQuotient, hmod, if_pos (Or.inl hb), Nat.mul_div_cancel q hb]

/-- What is rounded to a quotient is at most half a divisor away from it. -/
theorem roundQuotient_dist {a b : Nat} (hb : 0 < b) :
    2 * (roundQuotient a b * b) ≤ 2 * a + b ∧ 2 * a ≤ 2 * (roundQuotient a b * b) + b := by
  have hsplit : a / b * b + a % b = a := Nat.div_add_mod' a b
  have hlt : a % b < b := Nat.mod_lt a hb
  unfold roundQuotient
  dsimp only
  split
  · omega
  · rw [Nat.add_mul, Nat.one_mul]
    omega

theorem roundQuotient_le (a b : Nat) : roundQuotient a b ≤ a / b + 1 := by
  unfold roundQuotient
  dsimp only
  split <;> omega

/-! ## Nearest floating-point numbers

The nearest floating-point number to a fraction is a rounded quotient times the place of its last
bit. So it is a multiple of that place, and a fraction that is such a multiple already is its own
nearest. -/

/-- What the nearest number is made of: a rounded quotient, and the place of its last bit. -/
theorem nearest_eq_some {a b f : Nat} (h : nearest a b = some f) :
    let units := a * 2 ^ unitPlaces
    let place := lastPlace (units / b)
    f = roundQuotient units (b * 2 ^ place) * 2 ^ place ∧ f.log2 < 1024 + unitPlaces := by
  unfold nearest at h
  simp only [Nat.shiftLeft_eq] at h
  split at h
  · next hrange =>
    cases h
    exact ⟨rfl, hrange⟩
  · cases h

/-- A whole number is rounded to a whole number. -/
theorem dvd_of_nearest {n b f : Nat} (hb : 0 < b) (h : nearest (n * b) b = some f) :
    2 ^ unitPlaces ∣ f := by
  obtain ⟨hf, -⟩ := nearest_eq_some h
  generalize lastPlace (n * b * 2 ^ unitPlaces / b) = place at hf
  rcases Nat.le_total place unitPlaces with hle | hle
  · -- the grid is fine enough for whole numbers, and nothing is rounded
    have hexact : n * b * 2 ^ unitPlaces = n * 2 ^ (unitPlaces - place) * (b * 2 ^ place) := by
      rw [← Nat.sub_add_cancel hle, Nat.pow_add, Nat.add_sub_cancel]
      ring
    rw [hexact, roundQuotient_mul (Nat.mul_pos hb (Nat.two_pow_pos place)), Nat.mul_assoc,
      ← Nat.pow_add, Nat.sub_add_cancel hle] at hf
    rw [hf]
    exact Nat.dvd_mul_left _ n
  · rw [hf]
    exact Nat.dvd_mul_left_of_dvd (Nat.pow_dvd_pow 2 hle) _

/-- A floating-point number has no bits below its last place. -/
theorem lastPlace_dvd_of_nearest {a b f : Nat} (h : nearest a b = some f) :
    2 ^ lastPlace f ∣ f := by
  obtain ⟨hf, -⟩ := nearest_eq_some h
  generalize hunits : a * 2 ^ unitPlaces = units at hf
  generalize hplace : lastPlace (units / b) = place at hf
  have hquotient : roundQuotient units (b * 2 ^ place) ≤ 2 ^ precision := by
    have hbound : units / b < 2 ^ (precision + place) := by
      refine Nat.lt_of_lt_of_le Nat.lt_log2_self (Nat.pow_le_pow_right (by decide) ?_)
      rw [← hplace, lastPlace]
      omega
    rw [Nat.pow_add, ← Nat.div_lt_iff_lt_mul (Nat.two_pow_pos place), Nat.div_div_eq_div_mul]
      at hbound
    exact Nat.le_trans (roundQuotient_le _ _) hbound
  -- rounding may have reached the next power of two
  rcases Nat.lt_or_eq_of_le hquotient with hlt | heq
  · rcases Nat.eq_zero_or_pos f with hzero | hpos
    · rw [hzero]
      exact Nat.dvd_zero _
    · have hlog : f.log2 < precision + place := by
        rw [Nat.log2_lt (Nat.pos_iff_ne_zero.1 hpos), hf, Nat.pow_add]
        exact Nat.mul_lt_mul_of_pos_right hlt (Nat.two_pow_pos place)
      have hle : lastPlace f ≤ place := by
        rw [lastPlace]
        omega
      rw [hf] at hle ⊢
      exact Nat.dvd_mul_left_of_dvd (Nat.pow_dvd_pow 2 hle) _
  · -- rounding up gave one more bit, all but the first of them zero
    rw [heq, ← Nat.pow_add] at hf
    rw [hf]
    refine Nat.pow_dvd_pow 2 ?_
    rw [lastPlace, Nat.log2_two_pow]
    have hpositive : 0 < precision := by decide
    omega

/-- A whole floating-point number is the nearest to itself. -/
theorem nearest_self {a b n : Nat} (h : nearest a b = some (n * 2 ^ unitPlaces)) :
    nearest n 1 = some (n * 2 ^ unitPlaces) := by
  have hdvd := lastPlace_dvd_of_nearest h
  obtain ⟨-, hrange⟩ := nearest_eq_some h
  obtain ⟨q, hq⟩ := hdvd
  -- a multiple of the last place is rounded to itself
  have hround :
      roundQuotient (n * 2 ^ unitPlaces) (1 * 2 ^ lastPlace (n * 2 ^ unitPlaces)) = q := by
    rw [Nat.one_mul]
    nth_rewrite 1 [hq]
    rw [Nat.mul_comm, roundQuotient_mul (Nat.two_pow_pos _)]
  unfold nearest
  simp only [Nat.shiftLeft_eq, Nat.div_one]
  rw [hround, Nat.mul_comm q, ← hq, if_pos hrange]

/-! ## Neighbours on a decimal grid

The shortest decimal of a floating-point number is looked for among the two neighbours of the number
on a decimal grid. The two ways to choose between them differ at midpoints of the grid only, and for
a whole number no neighbour at a midpoint reads back as the number. -/

variable {tie : Tie} {f : Nat} {d : Scientific}

/-- The neighbours of `f` on a grid are its multiples next to `f`, whichever comes first. -/
theorem of_mem_neighbours {exponent : Int} (h : d ∈ neighbours tie f exponent) :
    d.exponent = exponent ∧
      let low := f * 10 ^ (-exponent).toNat / (10 ^ exponent.toNat * 2 ^ unitPlaces)
      d.digits = low ∨ d.digits = low + 1 := by
  unfold neighbours at h
  simp only [Nat.shiftLeft_eq, Nat.pow_eq] at h
  -- the two neighbours are the same either way, and only their order differs
  split at h
  · simp only [List.mem_cons, List.not_mem_nil, or_false] at h
    rcases h with rfl | rfl
    · exact ⟨rfl, .inl rfl⟩
    · exact ⟨rfl, .inr rfl⟩
  · simp only [List.mem_cons, List.not_mem_nil, or_false] at h
    rcases h with rfl | rfl
    · exact ⟨rfl, .inr rfl⟩
    · exact ⟨rfl, .inl rfl⟩

/-- What is rounded to the midpoint of its step is rounded by half a step, so the step is no longer
than a last place. -/
theorem step_le_of_midpoint {digits low step units place : Nat}
    (hdigits : digits = low ∨ digits = low + 1) (hmidpoint : 2 * f = (2 * low + 1) * step)
    (hunits : units = digits * step)
    (hf : f = roundQuotient units (2 ^ place) * 2 ^ place) : step ≤ 2 ^ place := by
  obtain ⟨habove, hbelow⟩ := roundQuotient_dist (a := units) (Nat.two_pow_pos place)
  rw [← hf, hunits] at habove hbelow
  rw [Nat.add_mul, Nat.one_mul, Nat.mul_assoc] at hmidpoint
  rcases hdigits with rfl | rfl
  · omega
  · rw [Nat.add_mul, Nat.one_mul] at habove hbelow
    omega

/-- A midpoint between multiples of a power of ten has more binary places than the power. -/
theorem lt_step_of_midpoint {k low place : Nat} (hdvd : 2 ^ place ∣ f)
    (hmidpoint : 2 * f = (2 * low + 1) * (10 ^ k * 2 ^ unitPlaces)) :
    2 ^ place < 10 ^ k * 2 ^ unitPlaces := by
  have hstep : 10 ^ k * 2 ^ unitPlaces = 5 ^ k * 2 ^ (k + unitPlaces) := by
    rw [Nat.pow_add, ← Nat.mul_assoc, ← Nat.mul_pow]
  rw [hstep] at hmidpoint ⊢
  -- an odd factor takes no power of two, so all of the power divides the rest
  have hodd : (2 ^ (place + 1)).Coprime ((2 * low + 1) * 5 ^ k) := by
    refine Nat.Coprime.pow_left _ (Nat.Coprime.mul_right ?_ (Nat.Coprime.pow_right _ (by decide)))
    rw [Nat.coprime_two_left, Nat.odd_iff]
    omega
  have htwice : 2 ^ (place + 1) ∣ (2 * low + 1) * 5 ^ k * 2 ^ (k + unitPlaces) := by
    rw [Nat.mul_assoc, ← hmidpoint, Nat.pow_succ']
    exact Nat.mul_dvd_mul_left 2 hdvd
  calc 2 ^ place < 2 ^ (place + 1) := Nat.pow_lt_pow_succ (by decide)
    _ ≤ 2 ^ (k + unitPlaces) :=
      Nat.le_of_dvd (Nat.two_pow_pos _) (hodd.dvd_of_dvd_mul_left htwice)
    _ ≤ 5 ^ k * 2 ^ (k + unitPlaces) := Nat.le_mul_of_pos_left _ (Nat.pow_pos (by decide))

/-- Neither neighbour of the midpoint between them is rounded to it. -/
theorem nearest_ne_of_midpoint {k : Nat} (hexponent : d.exponent = k)
    (hdigits : d.digits = f / (10 ^ k * 2 ^ unitPlaces)
      ∨ d.digits = f / (10 ^ k * 2 ^ unitPlaces) + 1)
    (hmidpoint : 2 * (f % (10 ^ k * 2 ^ unitPlaces)) = 10 ^ k * 2 ^ unitPlaces) :
    d.nearest ≠ some f := by
  intro h
  have hnearest : nearest (d.digits * 10 ^ k) 1 = some f := by
    have hplaces : (-(k : Int)).toNat = 0 := by omega
    rw [Scientific.nearest, hexponent, hplaces, Int.toNat_natCast] at h
    exact h
  obtain ⟨hf, -⟩ := nearest_eq_some hnearest
  generalize lastPlace (d.digits * 10 ^ k * 2 ^ unitPlaces / 1) = place at hf
  rw [Nat.one_mul] at hf
  have hsplit := Nat.div_add_mod' f (10 ^ k * 2 ^ unitPlaces)
  generalize f / (10 ^ k * 2 ^ unitPlaces) = low at hdigits hsplit
  -- twice the midpoint is an odd multiple of the step
  have hbetween : 2 * f = (2 * low + 1) * (10 ^ k * 2 ^ unitPlaces) := by
    rw [Nat.add_mul, Nat.one_mul, Nat.mul_assoc]
    omega
  have hcoarse := step_le_of_midpoint hdigits hbetween (Nat.mul_assoc ..) hf
  have hfine := lt_step_of_midpoint ⟨_, hf.trans (Nat.mul_comm _ _)⟩ hbetween
  exact Nat.lt_irrefl _ (Nat.lt_of_lt_of_le hfine hcoarse)

private theorem pow_toNat_mul {e : Int} (h : e < 0) (n : Nat) : 10 ^ e.toNat * n = n := by
  rw [Int.toNat_of_nonpos (Int.le_of_lt h), Nat.pow_zero, Nat.one_mul]

private theorem mul_mod_eq_zero {m n : Nat} (h : m ∣ n) (k : Nat) : n * k % m = 0 :=
  Nat.mod_eq_zero_of_dvd (Nat.dvd_mul_right_of_dvd h k)

/-- On a grid with places a whole number is one of the multiples, and otherwise a midpoint is
rounded to neither side. -/
theorem find?_neighbours_even_eq_upper (h : 2 ^ unitPlaces ∣ f) (exponent : Int) :
    (neighbours .even f exponent).find? (fun d => d.digits ≠ 0 && d.nearest == some f)
      = (neighbours .upper f exponent).find? (fun d => d.digits ≠ 0 && d.nearest == some f) := by
  by_cases hmidpoint : 2 * (f * 10 ^ (-exponent).toNat % (10 ^ exponent.toNat * 2 ^ unitPlaces))
      = 10 ^ exponent.toNat * 2 ^ unitPlaces
  · have hpositive : 0 < 10 ^ exponent.toNat * 2 ^ unitPlaces :=
      Nat.mul_pos (Nat.pow_pos (by decide)) (Nat.two_pow_pos _)
    rcases Int.lt_or_le exponent 0 with hneg | hnonneg
    · -- below the point a whole number is on the grid, and not between its places
      have hmultiple : f * 10 ^ (-exponent).toNat % 2 ^ unitPlaces = 0 :=
        mul_mod_eq_zero h _
      rw [pow_toNat_mul hneg] at hmidpoint hpositive
      rw [hmultiple] at hmidpoint
      omega
    · obtain ⟨k, rfl⟩ := Int.eq_ofNat_of_zero_le hnonneg
      have hplaces : (-(k : Int)).toNat = 0 := by omega
      have hnone (tie : Tie) : (neighbours tie f k).find?
          (fun d => d.digits ≠ 0 && d.nearest == some f) = none := by
        rw [List.find?_eq_none]
        intro d hd hfound
        obtain ⟨hexponent, hdigits⟩ := of_mem_neighbours hd
        rw [hplaces, Nat.pow_zero, Nat.mul_one] at hmidpoint hdigits
        refine nearest_ne_of_midpoint hexponent hdigits hmidpoint ?_
        simp only [Bool.and_eq_true, beq_iff_eq] at hfound
        exact hfound.2
      rw [hnone, hnone]
  · -- without a midpoint there is nothing to choose
    unfold neighbours
    simp only [Nat.shiftLeft_eq, Nat.pow_eq, hmidpoint, false_and, or_false]

/-- Both rules for ties find the same decimal for a whole number. -/
theorem shortest_even_eq_upper (h : 2 ^ unitPlaces ∣ f) : shortest .even f = shortest .upper f := by
  unfold shortest
  simp only [find?_neighbours_even_eq_upper h]

/-! ## Places of the shortest decimal

The search for the shortest decimal goes from coarse grids to fine ones. On the grid of the integers
a whole number is found, so the search ends before it comes to decimal places. -/

/-- The first success in a range comes after failures only. -/
private theorem of_findSome?_range {α : Type} {g : Nat → Option α} {n : Nat} {a : α}
    (h : (List.range n).findSome? g = some a) : ∃ k, g k = some a ∧ ∀ j < k, g j = none := by
  -- the range grows at its end, so the first hit is one in front or else the new one
  induction n with
  | zero => cases h
  | succ n ih =>
    rw [List.range_succ, List.findSome?_append] at h
    cases hfront : (List.range n).findSome? g with
    | some b =>
      rw [hfront] at h
      cases h
      exact ih hfront
    | none =>
      rw [hfront] at h
      refine ⟨n, by simpa using h, fun j hj => ?_⟩
      exact List.findSome?_eq_none_iff.1 hfront j (List.mem_range.2 hj)

/-- Among the multiples of one a whole floating-point number is found. -/
theorem find?_neighbours_zero_ne_none {a b n : Nat} (hn : n ≠ 0)
    (h : nearest a b = some (n * 2 ^ unitPlaces)) :
    (neighbours tie (n * 2 ^ unitPlaces) 0).find?
      (fun d => d.digits ≠ 0 && d.nearest == some (n * 2 ^ unitPlaces)) ≠ none := by
  intro hnone
  -- the whole number itself is on the grid, and is rounded to itself
  have hself : (⟨n, 0⟩ : Scientific).nearest = some (n * 2 ^ unitPlaces) := by
    show nearest (n * 1) 1 = _
    rw [Nat.mul_one, nearest_self h]
  have hmem : (⟨n, 0⟩ : Scientific) ∈ neighbours tie (n * 2 ^ unitPlaces) 0 := by
    have hpositive := Nat.two_pow_pos unitPlaces
    unfold neighbours
    simp only [Nat.shiftLeft_eq, Int.neg_zero, Int.toNat_zero, Nat.pow_eq, Nat.pow_zero,
      Nat.mul_one, Nat.one_mul, Nat.mul_mod_left, Nat.mul_zero, if_pos (Or.inl hpositive),
      Nat.mul_div_cancel n hpositive]
    exact List.mem_cons_self
  refine List.find?_eq_none.1 hnone _ hmem ?_
  simp only [hself, Bool.and_eq_true, decide_eq_true_eq, beq_self_eq_true, and_true]
  exact hn

/-- The shortest decimal of a whole number has no places. -/
theorem exponent_nonneg_of_shortest {a b : Nat} (hwhole : 2 ^ unitPlaces ∣ f)
    (h : nearest a b = some f) (hshortest : shortest tie f = some d) : 0 ≤ d.exponent := by
  unfold shortest at hshortest
  split at hshortest
  · cases hshortest
    exact Int.le_refl 0
  · next hzero =>
    obtain ⟨n, hn⟩ := hwhole
    rw [Nat.mul_comm] at hn
    have hpositive : n ≠ 0 := by
      rintro rfl
      rw [Nat.zero_mul] at hn
      exact hzero hn
    obtain ⟨k, hfound, hbefore⟩ := of_findSome?_range hshortest
    have hexponent := (of_mem_neighbours (List.mem_of_find?_eq_some hfound)).1
    rw [hexponent]
    -- the search comes down to the multiples of one before it gets below
    by_contra hneg
    have hstart : 0 ≤ exponentAbove f := by
      have hlog : unitPlaces ≤ f.log2 := by
        rw [Nat.le_log2 hzero, hn]
        exact Nat.le_mul_of_pos_left _ (Nat.pos_of_ne_zero hpositive)
      unfold exponentAbove
      omega
    have hnone := hbefore (exponentAbove f).toNat (by omega)
    rw [Int.toNat_of_nonneg hstart, Int.sub_self, hn] at hnone
    rw [hn] at h
    exact find?_neighbours_zero_ne_none hpositive h hnone

end NftExchange.Decimal
