import Mathlib

/-!
# Largest remainders

A total is divided in proportion to weights. Every part is rounded down, and the units that are left go one
by one to the parts with the largest remainders.
-/

namespace LargestRemainder

variable {ι : Type*} {l : List ι}

theorem sum_floor_add_sum_remainder (l : List ι) (weight : ι → Int) (total whole : Int) :
    whole * (l.map fun x => total * weight x / whole).sum + (l.map fun x => total * weight x % whole).sum =
      total * (l.map weight).sum := by
  induction l with
  | nil => simp
  | cons x rest ih =>
      have parts := Int.mul_ediv_add_emod (total * weight x) whole
      simp only [List.map_cons, List.sum_cons, mul_add]
      linarith

theorem sum_le_length_mul {f : ι → Int} {bound : Int} (bounded : ∀ x ∈ l, f x ≤ bound) :
    (l.map f).sum ≤ l.length * bound := by
  have total := List.sum_le_card_nsmul (l.map f) bound (by simpa using bounded)
  rwa [List.length_map, nsmul_eq_mul] at total

section ranking
variable {remainder : ι → Int} {whole : Int} {count : Nat}

theorem leftover_le_length (range : ∀ x ∈ l, 0 ≤ remainder x ∧ remainder x < whole) (positive : 0 < whole)
    (leftover : (l.map remainder).sum = whole * count) : count ≤ l.length := by
  have bounded := sum_le_length_mul fun x inside => (range x inside).2.le
  rw [leftover, mul_comm] at bounded
  exact_mod_cast le_of_mul_le_mul_right bounded positive

/-- The units that are left run out before the parts without a remainder come up. -/
theorem positive_of_first (descending : l.Pairwise fun x y => remainder y ≤ remainder x)
    (range : ∀ x ∈ l, 0 ≤ remainder x ∧ remainder x < whole)
    (leftover : (l.map remainder).sum = whole * count) : ∀ x ∈ l.take count, 0 < remainder x := by
  intro x member
  obtain ⟨first, later, split⟩ := List.append_of_mem member
  have whole' : l = first ++ x :: (later ++ l.drop count) := by
    rw [← List.cons_append, ← List.append_assoc, ← split, List.take_append_drop]
  have few : first.length + 1 ≤ count := by
    have sized := congrArg List.length split
    rw [List.length_take, List.length_append, List.length_cons] at sized
    omega
  by_contra none'
  have zero : remainder x ≤ 0 := not_lt.mp none'
  have inside : x ∈ l := List.mem_of_mem_take member
  have positive : 0 < whole := (range x inside).1.trans_lt (range x inside).2
  have before : (first.map remainder).sum ≤ first.length * whole :=
    sum_le_length_mul fun y inside => (range y (whole' ▸ List.mem_append_left _ inside)).2.le
  have after : ((later ++ l.drop count).map remainder).sum ≤ (later ++ l.drop count).length * 0 := by
    apply sum_le_length_mul
    intro y inside
    rw [whole'] at descending
    exact (List.rel_of_pairwise_cons (List.pairwise_append.mp descending).2.1 inside).trans zero
  have total : (l.map remainder).sum =
      (first.map remainder).sum + (remainder x + ((later ++ l.drop count).map remainder).sum) := by
    conv_lhs => rw [whole']
    rw [List.map_append, List.sum_append, List.map_cons, List.sum_cons]
  rw [mul_zero] at after
  have bounded : whole * (count : Int) ≤ (first.length : Int) * whole := by
    rw [← leftover, total]
    linarith
  rw [mul_comm] at bounded
  have short := le_of_mul_le_mul_right bounded positive
  omega

/-- Of two parts the heavier one is rounded down to less only if it is ranked no later. -/
theorem floor_lt_of_rank {total lighter heavier : Int} (positive : 0 < total) (less : lighter < heavier)
    (ranked : total * heavier % whole ≤ total * lighter % whole) (divides : 0 < whole) :
    total * lighter / whole < total * heavier / whole := by
  have light := Int.mul_ediv_add_emod (total * lighter) whole
  have heavy := Int.mul_ediv_add_emod (total * heavier) whole
  have scaled : total * lighter < total * heavier := mul_lt_mul_of_pos_left less positive
  have moved : whole * (total * lighter / whole) < whole * (total * heavier / whole) := by
    linarith
  exact lt_of_mul_lt_mul_left moved divides.le

end ranking

/-! ## Rounding -/

theorem floor_eq {a whole : Int} (positive : 0 < whole) : a / whole = ⌊(a : ℚ) / whole⌋ := by
  have above : (0 : ℚ) < whole := by exact_mod_cast positive
  rw [eq_comm, Int.floor_eq_iff, le_div_iff₀ above, div_lt_iff₀ above]
  have parts := Int.mul_ediv_add_emod a whole
  have low := Int.emod_nonneg a positive.ne'
  have high := Int.emod_lt_of_pos a positive
  constructor
  · exact_mod_cast (by linarith : a / whole * whole ≤ a)
  · exact_mod_cast (by linarith : a < (a / whole + 1) * whole)

theorem succ_floor_eq {a whole : Int} (positive : 0 < whole) (some' : 0 < a % whole) :
    a / whole + 1 = ⌈(a : ℚ) / whole⌉ := by
  have above : (0 : ℚ) < whole := by exact_mod_cast positive
  rw [eq_comm, Int.ceil_eq_iff, lt_div_iff₀ above, div_le_iff₀ above]
  have parts := Int.mul_ediv_add_emod a whole
  have high := Int.emod_lt_of_pos a positive
  push_cast
  constructor
  · rw [add_sub_cancel_right]
    exact_mod_cast (by linarith : a / whole * whole < a)
  · exact_mod_cast (by linarith : a ≤ (a / whole + 1) * whole)

end LargestRemainder
