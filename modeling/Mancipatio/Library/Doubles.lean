import Mathlib

/-!
# Numbers of double precision

A double has 53 significant bits and no bit below the 1074th after the point. Each operation gives the double that is
nearest to its exact result, the even one of two. Exponents are not bounded above: a number that is not finite stands for
infinity.
-/

namespace Doubles

/-- The distance of the doubles around a number. -/
def unit (q : ℚ) : ℚ :=
  2 ^ max (Int.log 2 |q| - 52) (-1074)

def roundEven (q : ℚ) : ℤ :=
  if Int.fract q < 1 / 2 ∨ Int.fract q = 1 / 2 ∧ Even ⌊q⌋ then ⌊q⌋ else ⌊q⌋ + 1

def nearest (q : ℚ) : ℚ :=
  roundEven (q / unit q) * unit q

/-! ## Rounding -/

section rounding
variable {q : ℚ} {n e : ℤ}

theorem unit_pos (q : ℚ) : 0 < unit q :=
  zpow_pos (by norm_num) _

@[simp] theorem roundEven_intCast (n : ℤ) : roundEven n = n := by
  simp [roundEven]

theorem roundEven_le (le : q ≤ n) : roundEven q ≤ n := by
  have floor : ⌊q⌋ ≤ n := Int.cast_le.mp ((Int.floor_le q).trans le)
  unfold roundEven
  split
  · exact floor
  · next up =>
      rcases floor.lt_or_eq with below | equal
      · omega
      · have part : Int.fract q = 0 := by
          apply le_antisymm _ (Int.fract_nonneg q)
          rw [Int.fract, equal]
          linarith
        rw [part] at up
        norm_num at up

theorem le_roundEven (le : n ≤ q) : n ≤ roundEven q := by
  have floor : n ≤ ⌊q⌋ := Int.le_floor.mpr le
  unfold roundEven
  split <;> omega

@[simp] theorem nearest_zero : nearest 0 = 0 := by
  have zero := roundEven_intCast 0
  rw [Int.cast_zero] at zero
  rw [nearest, zero_div, zero, Int.cast_zero, zero_mul]

theorem nearest_of_lt (bits : |n| < 2 ^ 53) (above : -1074 ≤ e) : nearest (n * 2 ^ e) = n * 2 ^ e := by
  rcases eq_or_ne n 0 with rfl | some
  · simp
  have two : (0 : ℚ) < 2 ^ e := zpow_pos (by norm_num) _
  have positive : 0 < |(n : ℚ) * 2 ^ e| := abs_pos.mpr (mul_ne_zero (Int.cast_ne_zero.mpr some) two.ne')
  have size : Int.log 2 |(n : ℚ) * 2 ^ e| < 53 + e := by
    apply (Int.lt_zpow_iff_log_lt (by norm_num) positive).mp
    rw [abs_mul, abs_of_pos two, Nat.cast_ofNat, zpow_add₀ (by norm_num)]
    apply mul_lt_mul_of_pos_right _ two
    exact_mod_cast bits
  have fits : max (Int.log 2 |(n : ℚ) * 2 ^ e| - 52) (-1074) ≤ e := by omega
  have whole : (n : ℚ) * 2 ^ e / unit (n * 2 ^ e) =
      ((n * 2 ^ (e - max (Int.log 2 |(n : ℚ) * 2 ^ e| - 52) (-1074)).toNat : ℤ) : ℚ) := by
    rw [unit, mul_div_assoc, ← zpow_sub₀ (by norm_num)]
    push_cast
    rw [← zpow_natCast, Int.toNat_of_nonneg (by omega)]
  rw [nearest, whole, roundEven_intCast, ← whole, div_mul_cancel₀ _ (unit_pos _).ne']

theorem nearest_of_le (bits : |n| ≤ 2 ^ 53) (above : -1074 ≤ e) : nearest (n * 2 ^ e) = n * 2 ^ e := by
  rcases bits.lt_or_eq with fewer | most
  · exact nearest_of_lt fewer above
  · -- the power of two next to the numbers of 53 bits has a single one
    obtain ⟨sign, single, value⟩ : ∃ sign : ℤ, |sign| < 2 ^ 53 ∧ n = sign * 2 ^ 53 := by
      rcases eq_or_eq_neg_of_abs_eq most with rfl | rfl
      · exact ⟨1, by norm_num, by norm_num⟩
      · exact ⟨-1, by norm_num, by norm_num⟩
    have shifted : (n : ℚ) * 2 ^ e = sign * 2 ^ (53 + e) := by
      rw [value, zpow_add₀ (by norm_num)]
      push_cast
      ring
    rw [shifted]
    exact nearest_of_lt single (by omega)

theorem nearest_nearest (q : ℚ) : nearest (nearest q) = nearest q := by
  have positive := unit_pos q
  have most : |q| ≤ 2 ^ 53 * unit q := by
    have below : |q| < 2 ^ (Int.log 2 |q| + 1) := by
      exact_mod_cast Int.lt_zpow_succ_log_self (b := 2) (by norm_num) |q|
    apply below.le.trans
    rw [unit, ← zpow_natCast, ← zpow_add₀ (by norm_num)]
    apply zpow_le_zpow_right₀ (by norm_num)
    push_cast
    omega
  have upper : q / unit q ≤ ((2 ^ 53 : ℤ) : ℚ) := by
    rw [div_le_iff₀ positive]
    push_cast
    exact (le_abs_self q).trans most
  have lower : ((-2 ^ 53 : ℤ) : ℚ) ≤ q / unit q := by
    rw [le_div_iff₀ positive]
    push_cast
    linarith [neg_abs_le q]
  exact nearest_of_le (abs_le.mpr ⟨le_roundEven lower, roundEven_le upper⟩) (le_max_right _ _)

end rounding

/-! ## Arithmetic -/

structure Double where
  val : ℚ
  double : nearest val = val
  deriving DecidableEq

namespace Double

@[ext] theorem ext {x y : Double} (same : x.val = y.val) : x = y := by
  cases x
  cases y
  simpa using same

def ofRat (q : ℚ) : Double :=
  ⟨nearest q, nearest_nearest q⟩

instance : LinearOrder Double :=
  LinearOrder.lift' val fun _ _ => ext

instance : NatCast Double := ⟨fun n => ofRat n⟩
instance : IntCast Double := ⟨fun n => ofRat n⟩
instance : Zero Double := ⟨⟨0, nearest_zero⟩⟩
instance : Add Double := ⟨fun x y => ofRat (x.val + y.val)⟩
instance : Sub Double := ⟨fun x y => ofRat (x.val - y.val)⟩
instance : Mul Double := ⟨fun x y => ofRat (x.val * y.val)⟩

def isFinite (x : Double) : Bool :=
  decide (|x.val| < 2 ^ 1024)

@[simp] theorem ofRat_val (x : Double) : ofRat x.val = x :=
  ext x.double

@[simp] theorem val_zero : (0 : Double).val = 0 :=
  rfl

@[simp] theorem ofRat_zero : ofRat 0 = 0 :=
  ext nearest_zero

@[simp] theorem intCast_zero : ((0 : ℤ) : Double) = 0 :=
  ofRat_zero

theorem intCast_natCast (n : ℕ) : ((n : ℤ) : Double) = n := by
  change ofRat _ = ofRat _
  rw [Int.cast_natCast]

theorem natCast_toNat {n : ℤ} (nonneg : 0 ≤ n) : ((n.toNat : ℕ) : Double) = n := by
  rw [← intCast_natCast, Int.toNat_of_nonneg nonneg]

instance : AddZeroClass Double where
  zero_add x := by
    change ofRat (0 + x.val) = x
    rw [Rat.zero_add, ofRat_val]
  add_zero x := by
    change ofRat (x.val + 0) = x
    rw [Rat.add_zero, ofRat_val]

instance : MulZeroClass Double where
  zero_mul x := by
    change ofRat (0 * x.val) = 0
    rw [Rat.zero_mul, ofRat_zero]
  mul_zero x := by
    change ofRat (x.val * 0) = 0
    rw [Rat.mul_zero, ofRat_zero]

-- seconds and milliseconds
example : (ofRat (2007 / 1000) * 1000).val = 2007 + 1 / 2 ^ 42 ∧ (ofRat (1001 / 1000) * 1000).val < 1001 := by decide +kernel

end Double

end Doubles
