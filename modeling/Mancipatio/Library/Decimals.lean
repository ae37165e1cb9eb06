import Mathlib

/-!
# Quotients of decimal numbers

A decimal number has so many digits after the point. A quotient is rounded to a number of them that depends on how large
it is: it keeps at least sixteen significant digits and the decimals of both operands. How large it is is read off the
first digits of the operands in base 10000.
-/

namespace Decimals

def roundTo (scale : ℕ) (q : ℚ) : ℚ :=
  ⌊q * 10 ^ scale + 1 / 2⌋ / 10 ^ scale

def weight (q : ℚ) : ℤ :=
  Int.log 10000 q

def firstDigit (q : ℚ) : ℕ :=
  ⌊q / 10000 ^ weight q⌋₊

def quotientWeight (a b : ℚ) : ℤ :=
  if firstDigit a ≤ firstDigit b then weight a - weight b - 1 else weight a - weight b

def divScale (a b : ℚ) (scale scale' : ℕ) : ℕ :=
  min (max (max (16 - 4 * quotientWeight a b).toNat scale) scale') 1000

def div (a b : ℚ) (scale scale' : ℕ) : ℚ :=
  roundTo (divScale a b scale scale') (a / b)

/-! ## Rounding -/

section rounding
variable {scale : ℕ} {q q' t : ℚ}

theorem roundTo_mono (le : q ≤ q') : roundTo scale q ≤ roundTo scale q' := by
  have floors : ⌊q * 10 ^ scale + 1 / 2⌋ ≤ ⌊q' * 10 ^ scale + 1 / 2⌋ := by
    apply Int.floor_mono
    gcongr
  unfold roundTo
  gcongr

theorem roundTo_self {n : ℤ} (decimal : t * 10 ^ scale = n) : roundTo scale t = t := by
  have floor : ⌊t * 10 ^ scale + 1 / 2⌋ = n := by
    rw [decimal, Int.floor_intCast_add]
    norm_num
  rw [roundTo, floor, ← decimal]
  field_simp

theorem roundTo_le {n : ℤ} (decimal : t * 10 ^ scale = n) (le : q ≤ t) : roundTo scale q ≤ t :=
  (roundTo_mono le).trans_eq (roundTo_self decimal)

theorem le_roundTo {n : ℤ} (decimal : t * 10 ^ scale = n) (le : t ≤ q) : t ≤ roundTo scale q :=
  (roundTo_self decimal).symm.trans_le (roundTo_mono le)

theorem roundTo_nonneg (nonneg : 0 ≤ q) : 0 ≤ roundTo scale q :=
  le_roundTo (n := 0) (by simp) nonneg

end rounding

/-! ## How large a quotient is -/

section size
variable {a a' b : ℚ} {k : ℤ}

theorem firstDigit_lt (q : ℚ) : firstDigit q < 10000 := by
  have unit : (0 : ℚ) < 10000 ^ weight q := by positivity
  have below : q < ((10000 : ℕ) : ℚ) ^ (weight q + 1) := Int.lt_zpow_succ_log_self (by norm_num) q
  apply (Nat.floor_lt' (by norm_num)).mpr
  rw [div_lt_iff₀ unit]
  push_cast at below
  rwa [zpow_add_one₀ (by norm_num), mul_comm] at below

theorem firstDigit_mul_le (positive : 0 < a) : firstDigit a * 10000 ^ weight a ≤ a := by
  have unit : (0 : ℚ) < 10000 ^ weight a := by positivity
  rw [← le_div_iff₀ unit]
  exact Nat.floor_le (by positivity)

theorem lt_firstDigit_mul : a < (firstDigit a + 1) * 10000 ^ weight a := by
  have unit : (0 : ℚ) < 10000 ^ weight a := by positivity
  rw [← div_lt_iff₀ unit]
  exact Nat.lt_floor_add_one _

theorem le_quotientWeight_iff (positive : 0 < a) :
    k ≤ quotientWeight a b ↔ ((firstDigit b : ℚ) + 1) * 10000 ^ (k + weight b) ≤ a := by
  have least : (10000 : ℚ) ^ weight a ≤ a := by
    exact_mod_cast Int.zpow_log_le_self (b := 10000) (by norm_num) positive
  have most : a < (10000 : ℚ) ^ (weight a + 1) := by
    exact_mod_cast Int.lt_zpow_succ_log_self (b := 10000) (by norm_num) a
  have grows : ∀ {m n : ℤ}, m ≤ n → (10000 : ℚ) ^ m ≤ 10000 ^ n := fun le => zpow_le_zpow_right₀ (by norm_num) le
  have digit : (firstDigit b : ℚ) + 1 ≤ 10000 := by exact_mod_cast firstDigit_lt b
  unfold quotientWeight
  split
  case isTrue smaller =>
    constructor
    · intro le
      calc ((firstDigit b : ℚ) + 1) * 10000 ^ (k + weight b)
          ≤ 10000 * 10000 ^ (weight a - 1) := by
            gcongr
            · norm_num
            · omega
        _ = 10000 ^ weight a := by
            rw [← zpow_one_add₀ (by norm_num)]
            congr 1
            omega
        _ ≤ a := least
    · intro fits
      by_contra above
      have beyond : a < ((firstDigit b : ℚ) + 1) * 10000 ^ (k + weight b) := by
        apply lt_firstDigit_mul.trans_le
        gcongr
        · norm_num
        · omega
      exact absurd fits (not_le.mpr beyond)
  case isFalse larger =>
    constructor
    · intro le
      have next : (firstDigit b : ℚ) + 1 ≤ firstDigit a := by exact_mod_cast not_le.mp larger
      calc ((firstDigit b : ℚ) + 1) * 10000 ^ (k + weight b)
          ≤ firstDigit a * 10000 ^ weight a := by
            gcongr
            · norm_num
            · omega
        _ ≤ a := firstDigit_mul_le positive
    · intro fits
      by_contra above
      have beyond : a < ((firstDigit b : ℚ) + 1) * 10000 ^ (k + weight b) := by
        calc a < 10000 ^ (weight a + 1) := most
          _ ≤ 1 * 10000 ^ (k + weight b) := by
            rw [one_mul]
            exact grows (by omega)
          _ ≤ ((firstDigit b : ℚ) + 1) * 10000 ^ (k + weight b) := by
            gcongr
            exact_mod_cast Nat.le_add_left 1 (firstDigit b)
      exact absurd fits (not_le.mpr beyond)

theorem quotientWeight_mono (positive : 0 < a) (le : a ≤ a') : quotientWeight a b ≤ quotientWeight a' b := by
  rw [le_quotientWeight_iff (positive.trans_le le)]
  exact ((le_quotientWeight_iff positive).mp (le_refl _)).trans le

theorem weight_pow (d : ℕ) : weight (10 ^ d) = d / 4 := by
  have log : Nat.log 10000 (10 ^ d) = d / 4 := by
    apply Nat.log_eq_of_pow_le_of_lt_pow
    · rw [show 10000 = 10 ^ 4 by norm_num, ← pow_mul]
      exact Nat.pow_le_pow_right (by norm_num) (Nat.mul_div_le d 4)
    · rw [show 10000 = 10 ^ 4 by norm_num, ← pow_mul]
      exact Nat.pow_lt_pow_right (by norm_num) (by omega)
  have cast := Int.log_natCast (R := ℚ) 10000 (10 ^ d)
  rw [log] at cast
  push_cast at cast
  exact cast

theorem firstDigit_pow (d : ℕ) : firstDigit (10 ^ d) = 10 ^ (d % 4) := by
  have whole : (10 : ℚ) ^ d / 10000 ^ weight (10 ^ d) = ((10 ^ (d % 4) : ℕ) : ℚ) := by
    rw [weight_pow, show ((d : ℤ) / 4) = ((d / 4 : ℕ) : ℤ) by omega, zpow_natCast, show (10000 : ℚ) = 10 ^ 4 by norm_num, ← pow_mul]
    rw [div_eq_iff (by positivity)]
    push_cast
    rw [← pow_add, Nat.mod_add_div]
  rw [firstDigit, whole, Nat.floor_natCast]

end size

/-! ## Dividing by a power of ten -/

section powers
variable {a a' : ℚ} {k : ℤ} {d scale scale' : ℕ}

/-- Where the number of digits of a quotient changes, the quotient has only decimals that both sides keep. -/
theorem threshold_decimal (kept : 16 - 4 * k ≤ scale) :
    ∃ n : ℤ, ((firstDigit (10 ^ d) : ℚ) + 1) * 10000 ^ (k + weight (10 ^ d)) / 10 ^ d * 10 ^ scale = n := by
  refine ⟨(10 ^ (d % 4) + 1) * 10 ^ (scale + 4 * k - d % 4).toNat, ?_⟩
  have exponent : 4 * (k + (d : ℤ) / 4) - d + scale = ((scale + 4 * k - d % 4).toNat : ℤ) := by omega
  rw [firstDigit_pow, weight_pow, show (10000 : ℚ) = 10 ^ (4 : ℤ) by norm_num, ← zpow_mul, ← zpow_natCast 10 d,
    ← zpow_natCast 10 scale, mul_div_assoc, ← zpow_sub₀ (by norm_num), mul_assoc, ← zpow_add₀ (by norm_num), exponent, zpow_natCast]
  push_cast
  rfl

theorem divScale_antitone (positive : 0 < a) (le : a ≤ a') (b : ℚ) : divScale a' b scale scale' ≤ divScale a b scale scale' := by
  have weights := quotientWeight_mono (b := b) positive le
  unfold divScale
  omega

/-- A larger numerator gives no smaller quotient, although fewer of its digits are kept. -/
theorem div_pow_mono (nonneg : 0 ≤ a) (le : a ≤ a') : div a (10 ^ d) scale scale' ≤ div a' (10 ^ d) scale scale' := by
  have tens : (0 : ℚ) < 10 ^ d := by positivity
  unfold div
  rcases nonneg.eq_or_lt with rfl | positive
  · rw [zero_div, @roundTo_self _ 0 0 (by simp)]
    exact roundTo_nonneg (div_nonneg le tens.le)
  by_cases same : divScale a' (10 ^ d) scale scale' = divScale a (10 ^ d) scale scale'
  · rw [same]
    apply roundTo_mono
    gcongr
  have fewer : divScale a' (10 ^ d) scale scale' < divScale a (10 ^ d) scale scale' :=
    (divScale_antitone positive le (10 ^ d)).lt_of_ne same
  have kept : 16 - 4 * quotientWeight a' (10 ^ d) ≤ divScale a' (10 ^ d) scale scale' := by
    unfold divScale at fewer ⊢
    omega
  have grown : ¬ quotientWeight a' (10 ^ d) ≤ quotientWeight a (10 ^ d) := by
    intro weights
    have equal := le_antisymm weights (quotientWeight_mono positive le)
    exact same (by rw [divScale, divScale, equal])
  rw [le_quotientWeight_iff positive, not_le, ← div_lt_div_iff_of_pos_right tens] at grown
  have reached := (le_quotientWeight_iff (b := 10 ^ d) (positive.trans_le le)).mp (le_refl _)
  rw [← div_le_div_iff_of_pos_right tens] at reached
  obtain ⟨n, decimal⟩ := threshold_decimal (d := d) (kept.trans (Int.ofNat_le.mpr fewer.le))
  obtain ⟨n', decimal'⟩ := threshold_decimal (d := d) kept
  exact (roundTo_le decimal grown.le).trans (le_roundTo decimal' reached)

end powers

/-! ## Rounding up after a quotient was rounded -/

section ceilings
variable {places scale : ℕ} {q : ℚ}

/-- To so many places the number is whole, or exceeds the one below by half of the last decimal that is kept, or more. -/
def KeepsCeil (places scale : ℕ) (q : ℚ) : Prop :=
  Int.fract (q * 10 ^ places) = 0 ∨ 1 ≤ 2 * Int.fract (q * 10 ^ places) * 10 ^ (scale - places)
  deriving Decidable

theorem keepsCeil_iff (nonneg : 0 ≤ q) (fits : places ≤ scale) :
    ⌈q * 10 ^ places⌉₊ ≤ ⌈roundTo scale q * 10 ^ places⌉₊ ↔ KeepsCeil places scale q := by
  obtain ⟨more, rfl⟩ := Nat.exists_eq_add_of_le fits
  have tens : (0 : ℚ) < 10 ^ places := by positivity
  have split := Int.floor_add_fract (q * 10 ^ places)
  unfold KeepsCeil
  by_cases whole : Int.fract (q * 10 ^ places) = 0
  · rw [whole, add_zero] at split
    have decimal : q * 10 ^ (places + more) = ((⌊q * 10 ^ places⌋ * 10 ^ more : ℤ) : ℚ) := by
      push_cast
      rw [split, pow_add, mul_assoc]
    rw [roundTo_self decimal]
    exact ⟨fun _ => .inl whole, fun _ => le_refl _⟩
  · have floors : (⌊q * 10 ^ places⌋ : ℚ) < q * 10 ^ places := by
      have part := (Int.fract_nonneg (q * 10 ^ places)).lt_of_ne' whole
      linarith
    have natural : ((⌊q * 10 ^ places⌋.toNat : ℕ) : ℤ) = ⌊q * 10 ^ places⌋ := Int.toNat_of_nonneg (Int.floor_nonneg.mpr (by positivity))
    have cast : ((⌊q * 10 ^ places⌋.toNat : ℕ) : ℚ) = ⌊q * 10 ^ places⌋ := by exact_mod_cast natural
    have ceil : ⌈q * 10 ^ places⌉₊ = ⌊q * 10 ^ places⌋.toNat + 1 := by
      rw [Nat.ceil_eq_iff (Nat.succ_ne_zero _)]
      rw [Nat.succ_sub_one, Nat.cast_succ, cast]
      exact ⟨floors, (Int.lt_floor_add_one _).le⟩
    have scaled : (⌊q * 10 ^ places⌋.toNat : ℚ) < roundTo (places + more) q * 10 ^ places ↔
        ⌊q * 10 ^ places⌋ * 10 ^ more + 1 ≤ ⌊q * 10 ^ (places + more) + 1 / 2⌋ := by
      have value : roundTo (places + more) q * 10 ^ places = ⌊q * 10 ^ (places + more) + 1 / 2⌋ / 10 ^ more := by
        rw [roundTo, pow_add]
        field_simp
      rw [value, cast, lt_div_iff₀ (by positivity), Int.add_one_le_iff]
      exact_mod_cast Iff.rfl
    have exact' : q * 10 ^ (places + more) = (⌊q * 10 ^ places⌋ + Int.fract (q * 10 ^ places)) * 10 ^ more := by
      rw [split, pow_add, mul_assoc]
    rw [ceil, Nat.succ_le_iff, Nat.lt_ceil, scaled, Int.le_floor, exact', Nat.add_sub_cancel_left]
    push_cast
    constructor
    · intro reached
      right
      linarith
    · intro kept
      have half := kept.resolve_left whole
      linarith

end ceilings

end Decimals
