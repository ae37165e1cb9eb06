import Mathlib

/-!
# Fixed-width byte encodings of natural numbers
-/

namespace Bytes

def littleEndian : Nat → Nat → List UInt8
  | 0, _ => []
  | n + 1, x => UInt8.ofNat x :: littleEndian n (x / 256)

def bigEndian (n x : Nat) : List UInt8 :=
  (littleEndian n x).reverse

def ofLittleEndian : List UInt8 → Nat
  | [] => 0
  | b :: rest => b.toNat + 256 * ofLittleEndian rest

@[simp] theorem littleEndian_length (n x : Nat) : (littleEndian n x).length = n := by
  induction n generalizing x with
  | zero => rfl
  | succ n ih => simp [littleEndian, ih]

@[simp] theorem bigEndian_length (n x : Nat) : (bigEndian n x).length = n := by
  simp [bigEndian]

theorem ofLittleEndian_littleEndian (n x : Nat) : ofLittleEndian (littleEndian n x) = x % 256 ^ n := by
  induction n generalizing x with
  | zero => simp [littleEndian, ofLittleEndian, Nat.mod_one]
  | succ n ih =>
      have lowest : (UInt8.ofNat x).toNat = x % 256 := UInt8.toNat_ofNat'
      rw [littleEndian, ofLittleEndian, ih, lowest, Nat.pow_succ', Nat.mod_mul]

theorem ofLittleEndian_lt (bytes : List UInt8) : ofLittleEndian bytes < 256 ^ bytes.length := by
  induction bytes with
  | nil => exact Nat.one_pos
  | cons b rest ih =>
      have low : b.toNat < 256 := b.toNat_lt
      rw [ofLittleEndian, List.length_cons, Nat.pow_succ]
      omega

theorem littleEndian_ofLittleEndian (bytes : List UInt8) : littleEndian bytes.length (ofLittleEndian bytes) = bytes := by
  induction bytes with
  | nil => rfl
  | cons b rest ih =>
      have low : b.toNat < 256 := b.toNat_lt
      have first : UInt8.ofNat (b.toNat + 256 * ofLittleEndian rest) = b := by
        rw [← UInt8.toNat_inj, UInt8.toNat_ofNat', Nat.add_mul_mod_self_left]
        exact Nat.mod_eq_of_lt low
      have others : (b.toNat + 256 * ofLittleEndian rest) / 256 = ofLittleEndian rest := by omega
      rw [ofLittleEndian, List.length_cons, littleEndian, first, others, ih]

theorem littleEndian_inj {n x y : Nat} (fitsX : x < 256 ^ n) (fitsY : y < 256 ^ n)
    (same : littleEndian n x = littleEndian n y) : x = y := by
  have decoded := congrArg ofLittleEndian same
  rwa [ofLittleEndian_littleEndian, ofLittleEndian_littleEndian, Nat.mod_eq_of_lt fitsX,
    Nat.mod_eq_of_lt fitsY] at decoded

theorem bigEndian_inj {n x y : Nat} (fitsX : x < 256 ^ n) (fitsY : y < 256 ^ n)
    (same : bigEndian n x = bigEndian n y) : x = y :=
  littleEndian_inj fitsX fitsY (List.reverse_injective same)

theorem flatMap_injective {α β : Type*} {encode : α → List β} {width : Nat} (positive : 0 < width)
    (fixed : ∀ a, (encode a).length = width) (injective : Function.Injective encode) :
    Function.Injective (List.flatMap encode) := by
  intro xs ys same
  induction xs generalizing ys with
  | nil =>
      cases ys with
      | nil => rfl
      | cons y rest =>
          have lengths := congrArg List.length same
          simp only [List.flatMap_nil, List.flatMap_cons, List.length_nil, List.length_append, fixed] at lengths
          omega
  | cons x xs ih =>
      cases ys with
      | nil =>
          have lengths := congrArg List.length same
          simp only [List.flatMap_nil, List.flatMap_cons, List.length_nil, List.length_append, fixed] at lengths
          omega
      | cons y ys =>
          rw [List.flatMap_cons, List.flatMap_cons] at same
          obtain ⟨first, rest⟩ := List.append_inj same (by rw [fixed, fixed])
          rw [injective first, ih rest]

/-! ## Order -/

def lte : List UInt8 → List UInt8 → Bool
  | a :: as, b :: bs => if a ≠ b then a < b else lte as bs
  | _, _ => true

theorem lte_concat {as bs : List UInt8} (same : as.length = bs.length) (a b : UInt8) :
    lte (as ++ [a]) (bs ++ [b]) = if as = bs then decide (a ≤ b) else lte as bs := by
  induction as generalizing bs with
  | nil =>
      cases bs with
      | nil =>
          by_cases equal : a = b
          · simp [lte, equal]
          · have strict : a < b ↔ a ≤ b := ⟨UInt8.le_of_lt, fun le => UInt8.lt_of_le_of_ne le equal⟩
            simp [lte, equal, strict]
      | cons b' bs => cases same
  | cons a' as ih =>
      cases bs with
      | nil => cases same
      | cons b' bs =>
          simp only [List.cons_append, lte, ih (Nat.succ.inj same), List.cons.injEq]
          by_cases equal : a' = b'
          · simp [equal]
          · simp [equal]

theorem bigEndian_succ (n x : Nat) : bigEndian (n + 1) x = bigEndian n (x / 256) ++ [UInt8.ofNat x] := by
  simp [bigEndian, littleEndian]

theorem lte_bigEndian {n x y : Nat} (fitsX : x < 256 ^ n) (fitsY : y < 256 ^ n) :
    lte (bigEndian n x) (bigEndian n y) = decide (x ≤ y) := by
  induction n generalizing x y with
  | zero =>
      have zeros : x = 0 ∧ y = 0 := by omega
      simp [zeros, bigEndian, littleEndian, lte]
  | succ n ih =>
      rw [Nat.pow_succ'] at fitsX fitsY
      have shorterX : x / 256 < 256 ^ n := Nat.div_lt_of_lt_mul fitsX
      have shorterY : y / 256 < 256 ^ n := Nat.div_lt_of_lt_mul fitsY
      rw [bigEndian_succ, bigEndian_succ, lte_concat (by simp), ih shorterX shorterY]
      by_cases same : bigEndian n (x / 256) = bigEndian n (y / 256)
      · have heads := bigEndian_inj shorterX shorterY same
        rw [if_pos same, decide_eq_decide, UInt8.le_iff_toNat_le, UInt8.toNat_ofNat', UInt8.toNat_ofNat']
        omega
      · have heads : x / 256 ≠ y / 256 := fun equal => same (by rw [equal])
        rw [if_neg same, decide_eq_decide]
        omega

end Bytes
