import Mathlib

/-!
# Units on accounts

The units of one kind lie on finitely many of the accounts, and their number is known. Units are issued to an
account, burned from one, or moved from one to another.
-/

namespace Holdings

variable {κ : Type*} [DecidableEq κ] {units : κ → Nat} {total amount : Nat} {a b : κ}

def Total (units : κ → Nat) (total : Nat) : Prop :=
  ∃ accounts : Finset κ, (∀ a, a ∉ accounts → units a = 0) ∧ ∑ a ∈ accounts, units a = total

def credit (units : κ → Nat) (a : κ) (amount : Nat) : κ → Nat :=
  Function.update units a (units a + amount)

def debit (units : κ → Nat) (a : κ) (amount : Nat) : Option (κ → Nat) :=
  if amount ≤ units a then some (Function.update units a (units a - amount)) else none

def move (units : κ → Nat) (a b : κ) (amount : Nat) : Option (κ → Nat) :=
  (debit units a amount).map (credit · b amount)

omit [DecidableEq κ] in
theorem total_zero : Total (fun _ : κ => 0) 0 :=
  ⟨∅, fun _ _ => rfl, rfl⟩

theorem Total.updated {new total' : Nat} (sum : Total units total) (balanced : total' + units a = total + new) :
    Total (Function.update units a new) total' := by
  obtain ⟨accounts, others, rfl⟩ := sum
  refine ⟨insert a accounts, ?_, ?_⟩
  · intro other outside
    rw [Finset.mem_insert, not_or] at outside
    rw [Function.update_of_ne outside.1]
    exact others other outside.2
  · have widened : ∑ k ∈ insert a accounts, units k = ∑ k ∈ accounts, units k :=
      Finset.sum_insert_of_eq_zero_if_notMem (others a)
    have before := Finset.add_sum_erase (insert a accounts) units (Finset.mem_insert_self a accounts)
    have after := Finset.add_sum_erase (insert a accounts) (Function.update units a new) (Finset.mem_insert_self a accounts)
    have rest : ∑ k ∈ (insert a accounts).erase a, Function.update units a new k = ∑ k ∈ (insert a accounts).erase a, units k := by
      apply Finset.sum_congr rfl
      intro k member
      exact Function.update_of_ne (Finset.ne_of_mem_erase member) _ _
    rw [Function.update_self, rest] at after
    omega

theorem Total.credit (sum : Total units total) : Total (credit units a amount) (total + amount) := by
  apply sum.updated
  omega

theorem Total.le (sum : Total units total) (a : κ) : units a ≤ total := by
  obtain ⟨accounts, others, rfl⟩ := sum
  by_cases inside : a ∈ accounts
  · exact Finset.single_le_sum (fun _ _ => Nat.zero_le _) inside
  · rw [others a inside]
    exact Nat.zero_le _

theorem debit_eq_some {units' : κ → Nat} : debit units a amount = some units' ↔
    amount ≤ units a ∧ units' = Function.update units a (units a - amount) := by
  unfold debit
  split
  case isTrue enough => rw [Option.some.injEq, eq_comm, and_iff_right enough]
  case isFalse short => simp [short]

theorem Total.debit {units' : κ → Nat} (sum : Total units total) (debited : debit units a amount = some units') :
    Total units' (total - amount) := by
  obtain ⟨enough, rfl⟩ := debit_eq_some.mp debited
  have within := sum.le a
  apply sum.updated
  omega

theorem Total.move {units' : κ → Nat} (sum : Total units total) (moved : move units a b amount = some units') : Total units' total := by
  obtain ⟨between, debited, rfl⟩ := Option.map_eq_some_iff.mp moved
  have credited : Total (Holdings.credit between b amount) (total - amount + amount) := (sum.debit debited).credit
  have enough := (debit_eq_some.mp debited).1.trans (sum.le a)
  rwa [Nat.sub_add_cancel enough] at credited

/-! ## What an account keeps -/

theorem le_credit (other : κ) : units other ≤ credit units a amount other := by
  unfold credit
  by_cases here : other = a
  · subst here
    rw [Function.update_self]
    exact Nat.le_add_right _ _
  · rw [Function.update_of_ne here]

theorem debit_of_ne {units' : κ → Nat} {other : κ} (debited : debit units a amount = some units') (apart : other ≠ a) :
    units' other = units other := by
  obtain ⟨-, rfl⟩ := debit_eq_some.mp debited
  exact Function.update_of_ne apart _ _

theorem le_move {units' : κ → Nat} {other : κ} (moved : move units a b amount = some units') (apart : other ≠ a) :
    units other ≤ units' other := by
  obtain ⟨between, debited, rfl⟩ := Option.map_eq_some_iff.mp moved
  rw [← debit_of_ne debited apart]
  exact le_credit other

end Holdings
