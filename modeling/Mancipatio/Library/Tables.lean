import Mancipatio.Library.Execution

/-!
# Tables with totals

A table gives an entry for a row and a column. Beside it, each row keeps a record with the total of its
entries, which is adjusted whenever an entry is rewritten.
-/

namespace Tables
open Execution

variable {ι κ γ ρ : Type*}

theorem sum_updated [Fintype κ] [DecidableEq κ] (f : γ → Nat) (table : κ → γ) (key : κ) (new : γ) :
    ∑ k, f (Function.update table key new k) + f (table key) = ∑ k, f (table k) + f new := by
  have rest : ∑ k ∈ Finset.univ.erase key, f (Function.update table key new k) = ∑ k ∈ Finset.univ.erase key, f (table k) := by
    apply Finset.sum_congr rfl
    intro k member
    rw [Function.update_of_ne (Finset.ne_of_mem_erase member)]
  have before := Finset.add_sum_erase Finset.univ (fun k => f (table k)) (Finset.mem_univ key)
  have after := Finset.add_sum_erase Finset.univ (fun k => f (Function.update table key new k)) (Finset.mem_univ key)
  simp only [Function.update_self] at after
  omega

theorem sum_row_updated [Fintype κ] [DecidableEq ι] [DecidableEq κ] (f : γ → Nat) (table : ι × κ → γ)
    (key : ι × κ) (new : γ) (row : ι) :
    ∑ k, f (Function.update table key new (row, k)) + (if row = key.1 then f (table key) else 0) =
      ∑ k, f (table (row, k)) + if row = key.1 then f new else 0 := by
  obtain ⟨owner, position⟩ := key
  by_cases same : row = owner
  · subst same
    have rows : ∀ k, Function.update table (row, position) new (row, k) =
        Function.update (fun k => table (row, k)) position new k := by
      intro k
      by_cases here : k = position
      · subst here
        rw [Function.update_self, Function.update_self]
      · rw [Function.update_of_ne here, Function.update_of_ne fun both => here (Prod.mk.inj both).2]
    rw [if_pos rfl, if_pos rfl, ← sum_updated f (fun k => table (row, k)) position new]
    simp only [rows]
  · have rows : ∀ k, Function.update table (owner, position) new (row, k) = table (row, k) := by
      intro k
      rw [Function.update_of_ne fun both => same (Prod.mk.inj both).1]
    rw [if_neg same, if_neg same]
    simp only [rows]

/-- The record of every row states the total of its entries. -/
def RowTotals [Fintype κ] (total : ρ → Nat) (value : γ → Nat) (records : ι → Option ρ) (table : ι × κ → γ) : Prop :=
  ∀ row record, records row = some record → total record = ∑ k, value (table (row, k))

section rowTotals
variable [Fintype κ] [DecidableEq ι] [DecidableEq κ] {total : ρ → Nat} {value : γ → Nat} {records : ι → Option ρ}
variable {table : ι × κ → γ}

omit [DecidableEq κ] in
theorem RowTotals.opened (totals : RowTotals total value records table) {row : ι} {record : ρ}
    (zero : ∀ k, value (table (row, k)) = 0) (empty : total record = 0) :
    RowTotals total value (Function.update records row (some record)) table := by
  intro other found stored
  rcases updated_row stored with ⟨rfl, rfl⟩ | ⟨-, earlier⟩
  · rw [empty, Finset.sum_eq_zero fun k _ => zero k]
  · exact totals other found earlier

theorem RowTotals.rewritten (totals : RowTotals total value records table) {key : ι × κ} {record record' : ρ} {new : γ}
    (stored : records key.1 = some record)
    (balanced : total record' + value (table key) = total record + value new) :
    RowTotals total value (Function.update records key.1 (some record')) (Function.update table key new) := by
  intro other found recorded
  have sums := sum_row_updated value table key new other
  rcases updated_row recorded with ⟨rfl, rfl⟩ | ⟨apart, earlier⟩
  · have before := totals _ _ stored
    rw [if_pos rfl, if_pos rfl] at sums
    omega
  · rw [if_neg apart, if_neg apart] at sums
    exact (totals other found earlier).trans sums.symm

end rowTotals

end Tables
