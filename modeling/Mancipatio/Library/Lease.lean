import Mancipatio.Library.Execution

/-!
# Leases that expire

A slot is given to an owner until a time. It is given again only when it is free or its lease has run out, so
that at any time one owner at most holds an unexpired lease, whoever still believes to.
-/

namespace Leasing
open Execution

variable {σ α ε ι : Type*}

structure Lease (ι : Type*) where
  owner : ι
  expiresAt : Int
  deriving DecidableEq, Repr

/-- How the steps of a run write a slot. -/
structure Discipline {step : σ → α → Except ε σ} {initial : σ} (run : Run step initial) (clock : σ → Int)
    (slot : σ → Option (Lease ι)) (grants : Nat → Lease ι → Prop) (releases : Nat → Prop) : Prop where
  free : slot initial = none
  ticks : ∀ i < run.length, clock (run.state i) ≤ clock (run.state (i + 1))
  granted : ∀ i < run.length, ∀ lease, grants i lease → slot (run.state (i + 1)) = some lease ∧
    ∀ old ∈ slot (run.state i), old.expiresAt ≤ clock (run.state i)
  released : ∀ i < run.length, releases i → slot (run.state (i + 1)) = none
  kept : ∀ i < run.length, (∀ lease, ¬ grants i lease) → ¬ releases i →
    slot (run.state (i + 1)) = slot (run.state i)

/-- Step `k` gave the lease, which has neither run out nor been returned before step `i`. -/
structure Holds {step : σ → α → Except ε σ} {initial : σ} (run : Run step initial) (clock : σ → Int)
    (grants : Nat → Lease ι → Prop) (releases : Nat → Prop) (i k : Nat) (lease : Lease ι) : Prop where
  before : k < i
  given : grants k lease
  unexpired : clock (run.state i) < lease.expiresAt
  unreturned : ∀ m, k < m → m < i → ¬ releases m

section discipline
variable {step : σ → α → Except ε σ} {initial : σ} {run : Run step initial} {clock : σ → Int}
variable {slot : σ → Option (Lease ι)} {grants : Nat → Lease ι → Prop} {releases : Nat → Prop}

theorem Discipline.clock_mono (discipline : Discipline run clock slot grants releases) {i j : Nat} (ordered : i ≤ j)
    (within : j ≤ run.length) : clock (run.state i) ≤ clock (run.state j) := by
  induction j, ordered using Nat.le_induction with
  | base => exact Int.le_refl _
  | succ j _ ih => exact Int.le_trans (ih (Nat.le_of_succ_le within)) (discipline.ticks j within)

theorem Discipline.slot_of_holds (discipline : Discipline run clock slot grants releases) {i k : Nat} {lease : Lease ι}
    (within : i ≤ run.length) (holds : Holds run clock grants releases i k lease) : slot (run.state i) = some lease := by
  obtain ⟨before, given, unexpired, unreturned⟩ := holds
  induction i, before using Nat.le_induction with
  | base => exact (discipline.granted k within lease given).1
  | succ i after ih =>
      have time := discipline.ticks i within
      have stored := ih (Nat.le_of_succ_le within) (Int.lt_of_le_of_lt time unexpired)
        (fun m later earlier => unreturned m later (Nat.lt_succ_of_lt earlier))
      rw [discipline.kept i within ?_ (unreturned i after (Nat.lt_succ_self i)), stored]
      intro other given'
      have expired := (discipline.granted i within other given').2 lease stored
      exact absurd (Int.lt_of_le_of_lt time unexpired) (Int.not_lt.mpr expired)

/-- One grant at most is held at a time. -/
theorem Discipline.holder_unique (discipline : Discipline run clock slot grants releases) {i k k' : Nat}
    {lease lease' : Lease ι} (within : i ≤ run.length) (holds : Holds run clock grants releases i k lease)
    (holds' : Holds run clock grants releases i k' lease') : k = k' ∧ lease = lease' := by
  have earlier : ∀ {k k' : Nat} {lease lease' : Lease ι}, Holds run clock grants releases i k lease →
      Holds run clock grants releases i k' lease' → ¬ k < k' := by
    intro k k' lease lease' holds holds' later
    have inside := Nat.lt_of_lt_of_le holds'.before within
    have time := discipline.clock_mono (Nat.le_of_lt holds'.before) within
    have still : Holds run clock grants releases k' k lease :=
      ⟨later, holds.given, Int.lt_of_le_of_lt time holds.unexpired,
        fun m after before => holds.unreturned m after (Nat.lt_trans before holds'.before)⟩
    have stored := discipline.slot_of_holds (Nat.le_of_lt inside) still
    have expired := (discipline.granted k' inside lease' holds'.given).2 lease stored
    exact absurd still.unexpired (Int.not_lt.mpr expired)
  have same := Nat.le_antisymm (Nat.not_lt.mp (earlier holds' holds)) (Nat.not_lt.mp (earlier holds holds'))
  refine ⟨same, ?_⟩
  have stored := discipline.slot_of_holds within holds
  have stored' := discipline.slot_of_holds within holds'
  exact Option.some.inj (stored.symm.trans stored')

theorem Discipline.holds_of_slot (discipline : Discipline run clock slot grants releases) {i : Nat} {lease : Lease ι}
    (within : i ≤ run.length) (stored : slot (run.state i) = some lease) (unexpired : clock (run.state i) < lease.expiresAt) :
    ∃ k, Holds run clock grants releases i k lease := by
  obtain ⟨k, before, differs, since⟩ := run.lastWrite slot stored (by rw [discipline.free]; exact Option.some_ne_none lease |>.symm)
  have inside := Nat.lt_of_lt_of_le before within
  have written := since (k + 1) (Nat.lt_succ_self k) before
  have unreleased : ∀ m, k ≤ m → m < i → ¬ releases m := by
    intro m after earlier returned
    have cleared := discipline.released m (Nat.lt_of_lt_of_le earlier within) returned
    rw [since (m + 1) (Nat.lt_succ_of_le after) earlier] at cleared
    cases cleared
  by_cases given : ∃ other, grants k other
  · obtain ⟨other, given⟩ := given
    have own := (discipline.granted k inside other given).1
    obtain rfl : lease = other := Option.some.inj (written.symm.trans own)
    exact ⟨k, before, given, unexpired, fun m after => unreleased m (Nat.le_of_lt after)⟩
  · have same := discipline.kept k inside (fun other given' => given ⟨other, given'⟩) (unreleased k (Nat.le_refl k) before)
    exact absurd (same.symm.trans written) differs

end discipline

end Leasing
