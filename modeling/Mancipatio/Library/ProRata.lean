import Mathlib

/-!
# Floored pro-rata shares

Each holder of a weight receives the floor of its part of a pool. The floors never add up to more
than the pool, whatever the weights, as long as the weights add up to at most the whole.
-/

namespace ProRata

variable {ι : Type*}

def share (weight pool whole : Nat) : Nat :=
  weight * pool / whole

theorem share_le_pool {weight pool whole : Nat} (bounded : weight ≤ whole) :
    share weight pool whole ≤ pool :=
  Nat.div_le_of_le_mul (Nat.mul_le_mul_right pool bounded)

@[gcongr] theorem share_mono {pool pool' : Nat} (weight whole : Nat) (grows : pool ≤ pool') :
    share weight pool whole ≤ share weight pool' whole :=
  Nat.div_le_div_right (Nat.mul_le_mul_left weight grows)

theorem sum_share_le_share_sum (l : List ι) (weight : ι → Nat) (pool whole : Nat) :
    (l.map fun x => share (weight x) pool whole).sum ≤ share (l.map weight).sum pool whole := by
  induction l with
  | nil => simp
  | cons x rest ih =>
      simp only [List.map_cons, List.sum_cons]
      calc share (weight x) pool whole + (rest.map fun x => share (weight x) pool whole).sum
          ≤ share (weight x) pool whole + share (rest.map weight).sum pool whole :=
            Nat.add_le_add_left ih _
        _ ≤ share (weight x + (rest.map weight).sum) pool whole := by
            unfold share
            rw [Nat.add_mul]
            exact Nat.div_add_div_le_add_div

theorem sum_share_le_pool (l : List ι) (weight : ι → Nat) {pool whole : Nat}
    (bounded : (l.map weight).sum ≤ whole) :
    (l.map fun x => share (weight x) pool whole).sum ≤ pool :=
  (sum_share_le_share_sum l weight pool whole).trans (share_le_pool bounded)

theorem sum_sub_add_sum (l : List ι) (promised paid : ι → Nat)
    (covered : ∀ x ∈ l, paid x ≤ promised x) :
    (l.map fun x => promised x - paid x).sum + (l.map paid).sum = (l.map promised).sum := by
  rw [← List.sum_map_add]
  exact congrArg List.sum (List.map_congr_left fun x member => Nat.sub_add_cancel (covered x member))

end ProRata
