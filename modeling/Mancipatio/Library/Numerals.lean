import Mathlib

/-!
# Decimal and hexadecimal texts
-/

namespace Numerals

/-! ## Decimals -/

def decimalValue (s : String) : Nat :=
  Nat.ofDigitChars 10 s.toList 0

def Canonical (s : String) : Prop :=
  s = "0" ∨ s.toList ≠ [] ∧ s.toList.all Char.isDigit = true ∧ s.toList.head? ≠ some '0'
  deriving Decidable

theorem digitChar_of_isDigit {c : Char} (digit : c.isDigit = true) : c.toNat - '0'.toNat < 10 ∧ Nat.digitChar (c.toNat - '0'.toNat) = c := by
  have bounds : 48 ≤ c.toNat ∧ c.toNat ≤ 57 := by
    simpa [Char.isDigit, UInt32.le_iff_toNat_le] using digit
  have table : ∀ d < 10, Nat.digitChar d = Char.ofNat (48 + d) := by decide
  have small : c.toNat - 48 < 10 := by omega
  refine ⟨small, (table _ small).trans ?_⟩
  rw [Nat.add_sub_cancel' bounds.1, Char.ofNat_toNat]

theorem toDigits_ofDigitChars {cs : List Char} (nonempty : cs ≠ []) (digits : ∀ c ∈ cs, c.isDigit = true)
    (leading : cs.head? ≠ some '0') : 0 < Nat.ofDigitChars 10 cs 0 ∧ Nat.toDigits 10 (Nat.ofDigitChars 10 cs 0) = cs := by
  induction cs using List.reverseRecOn with
  | nil => exact absurd rfl nonempty
  | append_singleton cs c ih =>
      obtain ⟨small, shown⟩ := digitChar_of_isDigit (digits c (by simp))
      cases cs with
      | nil =>
          have positive : 0 < c.toNat - '0'.toNat := by
            apply Nat.pos_of_ne_zero
            intro zero
            rw [zero] at shown
            exact leading (by rw [← shown]; rfl)
          simp only [List.nil_append, Nat.ofDigitChars_cons, Nat.ofDigitChars_nil, Nat.mul_zero, Nat.zero_add]
          exact ⟨positive, by rw [Nat.toDigits_of_lt_base small, shown]⟩
      | cons first rest =>
          obtain ⟨positive, earlier⟩ := ih (by simp) (fun c member => digits c (List.mem_append_left _ member)) (by simpa using leading)
          rw [Nat.ofDigitChars_append, Nat.ofDigitChars_cons, Nat.ofDigitChars_nil]
          refine ⟨by omega, ?_⟩
          rw [← Nat.toDigits_append_toDigits (by decide) positive small, earlier, Nat.toDigits_of_lt_base small, shown]

theorem repr_decimalValue {s : String} (canonical : Canonical s) : Nat.repr (decimalValue s) = s := by
  rcases canonical with rfl | ⟨nonempty, digits, leading⟩
  · rfl
  · rw [Nat.repr_eq_ofList_toDigits, decimalValue,
      (toDigits_ofDigitChars nonempty (List.all_eq_true.mp digits) leading).2, String.ofList_toList]

theorem decimalValue_repr (n : Nat) : decimalValue (Nat.repr n) = n := by
  rw [Nat.repr_eq_ofList_toDigits, decimalValue, String.toList_ofList, Nat.ofDigitChars_ten_toDigits]

/-! ## Hexadecimals -/

def hexText (bytes : List UInt8) : String :=
  String.ofList (bytes.flatMap fun b => [Nat.digitChar (b.toNat / 16), Nat.digitChar (b.toNat % 16)])

def hexDigitValue (c : Char) : Nat :=
  if c.isDigit = true then c.toNat - 48 else c.toNat - 87

def isHexDigit (c : Char) : Bool :=
  c.isDigit || (decide (97 ≤ c.toNat) && decide (c.toNat ≤ 102))

def hexPairs : List Char → List UInt8
  | high :: low :: rest => UInt8.ofNat (16 * hexDigitValue high + hexDigitValue low) :: hexPairs rest
  | _ => []

theorem hexDigit_digitChar : ∀ d < 16, hexDigitValue (Nat.digitChar d) = d ∧ isHexDigit (Nat.digitChar d) = true := by
  decide

theorem hexPairs_hexText (bytes : List UInt8) : hexPairs (hexText bytes).toList = bytes := by
  rw [hexText, String.toList_ofList]
  induction bytes with
  | nil => rfl
  | cons b rest ih =>
      have low := (hexDigit_digitChar (b.toNat % 16) (Nat.mod_lt _ (by decide))).1
      have high := (hexDigit_digitChar (b.toNat / 16) (Nat.div_lt_of_lt_mul b.toNat_lt)).1
      have byte : UInt8.ofNat (16 * (b.toNat / 16) + b.toNat % 16) = b := by
        rw [Nat.div_add_mod, UInt8.ofNat_toNat]
      simp only [List.flatMap_cons, List.cons_append, List.nil_append, hexPairs, low, high, byte, ih]

theorem hexText_length (bytes : List UInt8) : (hexText bytes).toList.length = 2 * bytes.length := by
  rw [hexText, String.toList_ofList]
  induction bytes with
  | nil => rfl
  | cons b rest ih =>
      simp only [List.flatMap_cons, List.length_append, ih, List.length_cons, List.length_nil]
      omega

theorem hexText_digits (bytes : List UInt8) : (hexText bytes).toList.all isHexDigit = true := by
  rw [hexText, String.toList_ofList, List.all_eq_true]
  intro c member
  obtain ⟨b, -, member⟩ := List.mem_flatMap.mp member
  simp only [List.mem_cons, List.not_mem_nil, or_false] at member
  rcases member with rfl | rfl
  · exact (hexDigit_digitChar _ (Nat.div_lt_of_lt_mul b.toNat_lt)).2
  · exact (hexDigit_digitChar _ (Nat.mod_lt _ (by decide))).2

end Numerals
