import Mancipatio.Library.Checked
import Mancipatio.Library.Execution

/-!
# Handing over a role

One key holds a role. The holder stages a transfer that its successor accepts; a third party stages a
recovery against the holder that the recovered key executes. A live recovery blocks the transfer, and
an executed one voids it by binding it to a key that nobody holds.
-/

namespace Handover
open Checked Execution

variable {κ : Type} [DecidableEq κ]

structure Staged (κ : Type) where
  against : κ
  successor : κ
  deriving DecidableEq

structure State (κ : Type) where
  holder : κ
  transfer : Option (Staged κ)
  recovery : Option (Staged κ)

inductive Move (κ : Type) where
  | stay
  | stage (successor : κ)
  | withdraw
  | accept (successor : κ)
  | stageRecovery (successor : κ)
  | withdrawRecovery
  | recover (successor : κ)

/-- The machine of a role, for the key `void` that cannot sign. -/
def step (void : κ) (s : State κ) : Move κ → Except Unit (State κ)
  | .stay => return s
  | .stage successor => do
      require (successor ≠ void ∧ successor ≠ s.holder) ()
      return { s with transfer := some { against := s.holder, successor } }
  | .withdraw => return { s with transfer := none }
  | .accept successor => do
      require (successor ≠ void ∧ s.transfer = some { against := s.holder, successor }) ()
      require (¬ s.recovery.any (·.against = s.holder)) ()
      return { s with holder := successor, transfer := none }
  | .stageRecovery successor => do
      require (successor ≠ void ∧ successor ≠ s.holder) ()
      return { s with recovery := some { against := s.holder, successor } }
  | .withdrawRecovery => return { s with recovery := none }
  | .recover successor => do
      require (successor ≠ void ∧ s.recovery = some { against := s.holder, successor }) ()
      return { holder := successor, transfer := s.transfer.map ({ · with against := void }), recovery := none }

variable {void : κ} {s t : State κ}

/-! ## Moves that succeed -/

section moves
variable {successor : κ}

theorem stage_ok (nonvoid : successor ≠ void) (fresh : successor ≠ s.holder) :
    step void s (.stage successor) = .ok { s with transfer := some { against := s.holder, successor } } := by
  simp [step, nonvoid, fresh]

theorem accept_ok (nonvoid : successor ≠ void) (staged : s.transfer = some { against := s.holder, successor })
    (idle : ¬ s.recovery.any (·.against = s.holder)) :
    step void s (.accept successor) = .ok { s with holder := successor, transfer := none } := by
  simp only [step, bind_eq_ok, require_eq_ok, pure_eq_ok, exists_const]
  exact ⟨⟨nonvoid, staged⟩, idle, trivial⟩

theorem stageRecovery_ok (nonvoid : successor ≠ void) (fresh : successor ≠ s.holder) :
    step void s (.stageRecovery successor) =
      .ok { s with recovery := some { against := s.holder, successor } } := by
  simp [step, nonvoid, fresh]

theorem recover_ok (nonvoid : successor ≠ void) (staged : s.recovery = some { against := s.holder, successor }) :
    step void s (.recover successor) =
      .ok { holder := successor, transfer := s.transfer.map ({ · with against := void }), recovery := none } := by
  simp only [step, bind_eq_ok, require_eq_ok, pure_eq_ok, exists_const]
  exact ⟨⟨nonvoid, staged⟩, trivial⟩

end moves

/-! ## The recovery and the holder -/

def Bound (s : State κ) : Prop :=
  ∀ staged, s.recovery = some staged → staged.against = s.holder

theorem bound_step {move : Move κ} (bound : Bound s) (stepped : step void s move = .ok t) : Bound t := by
  cases move with
  | stay | withdraw =>
      cases stepped
      exact bound
  | stage successor =>
      simp only [step, bind_eq_ok, pure_eq_ok] at stepped
      obtain ⟨-, -, rfl⟩ := stepped
      exact bound
  | accept successor =>
      simp only [step, bind_eq_ok, require_eq_ok, pure_eq_ok, exists_const] at stepped
      obtain ⟨-, idle, rfl⟩ := stepped
      intro staged stored
      have kept : s.recovery = some staged := stored
      -- the accept requires that no recovery names the holder, and by the invariant any would
      exact absurd (bound staged kept) (by simpa [kept] using idle)
  | stageRecovery successor =>
      simp only [step, bind_eq_ok, pure_eq_ok] at stepped
      obtain ⟨-, -, rfl⟩ := stepped
      rintro staged ⟨⟩
      rfl
  | withdrawRecovery =>
      cases stepped
      rintro staged ⟨⟩
  | recover successor =>
      simp only [step, bind_eq_ok, pure_eq_ok] at stepped
      obtain ⟨-, -, rfl⟩ := stepped
      rintro staged ⟨⟩

theorem bound_run {initial : State κ} (start : initial.recovery = none) (run : Run (step void) initial) :
    ∀ i ≤ run.length, Bound (run.state i) := by
  apply run.invariant (P := Bound)
  · intro staged stored
    rw [start] at stored
    cases stored
  · intro s move t bound stepped
    exact bound_step bound stepped

theorem accept_blocked {successor : κ} (bound : Bound s) (stepped : step void s (.accept successor) = .ok t) :
    s.recovery = none := by
  simp only [step, bind_eq_ok, require_eq_ok, pure_eq_ok, exists_const] at stepped
  obtain ⟨-, idle, -⟩ := stepped
  cases stored : s.recovery with
  | none => rfl
  | some staged => exact absurd (bound staged stored) (by simpa [stored] using idle)

theorem recover_voids {successor : κ} (stepped : step void s (.recover successor) = .ok t) :
    t.holder ≠ void ∧ t.recovery = none ∧ ∀ staged, t.transfer = some staged → staged.against = void := by
  simp only [step, bind_eq_ok, require_eq_ok, pure_eq_ok, exists_const] at stepped
  obtain ⟨⟨nonvoid, -⟩, rfl⟩ := stepped
  refine ⟨nonvoid, rfl, ?_⟩
  intro staged moved
  obtain ⟨_, -, rfl⟩ := Option.map_eq_some_iff.mp moved
  rfl

theorem not_accepted_of_voided {successor : κ} (nonvoid : s.holder ≠ void)
    (voided : ∀ staged, s.transfer = some staged → staged.against = void) :
    step void s (.accept successor) ≠ .ok t := by
  intro stepped
  simp only [step, bind_eq_ok, require_eq_ok, exists_const] at stepped
  obtain ⟨⟨-, staged⟩, -⟩ := stepped
  exact nonvoid (voided _ staged)

/-! ## Where a holder and a proposal come from -/

theorem holder_step {move : Move κ} (stepped : step void s move = .ok t) :
    t.holder = s.holder ∨ t.holder ≠ void ∧
      (s.transfer = some { against := s.holder, successor := t.holder } ∨
        s.recovery = some { against := s.holder, successor := t.holder }) := by
  cases move with
  | stay | withdraw | withdrawRecovery =>
      cases stepped
      exact .inl rfl
  | stage successor | stageRecovery successor =>
      simp only [step, bind_eq_ok, pure_eq_ok] at stepped
      obtain ⟨-, -, rfl⟩ := stepped
      exact .inl rfl
  | accept successor =>
      simp only [step, bind_eq_ok, require_eq_ok, pure_eq_ok, exists_const] at stepped
      obtain ⟨⟨nonvoid, staged⟩, -, rfl⟩ := stepped
      exact .inr ⟨nonvoid, .inl staged⟩
  | recover successor =>
      simp only [step, bind_eq_ok, require_eq_ok, pure_eq_ok, exists_const] at stepped
      obtain ⟨⟨nonvoid, staged⟩, rfl⟩ := stepped
      exact .inr ⟨nonvoid, .inr staged⟩

theorem transfer_step {move : Move κ} {staged : Staged κ} (stepped : step void s move = .ok t)
    (stored : t.transfer = some staged) :
    s.transfer = some staged ∨ staged.against = void ∨ move = .stage staged.successor := by
  cases move with
  | stay | withdrawRecovery =>
      cases stepped
      exact .inl stored
  | withdraw =>
      cases stepped
      cases stored
  | stage successor =>
      simp only [step, bind_eq_ok, pure_eq_ok] at stepped
      obtain ⟨-, -, rfl⟩ := stepped
      cases stored
      exact .inr (.inr rfl)
  | stageRecovery successor =>
      simp only [step, bind_eq_ok, pure_eq_ok] at stepped
      obtain ⟨-, -, rfl⟩ := stepped
      exact .inl stored
  | accept successor =>
      simp only [step, bind_eq_ok, pure_eq_ok] at stepped
      obtain ⟨-, -, -, -, rfl⟩ := stepped
      cases stored
  | recover successor => exact .inr (.inl ((recover_voids stepped).2.2 staged stored))

theorem recovery_step {move : Move κ} {staged : Staged κ} (stepped : step void s move = .ok t)
    (stored : t.recovery = some staged) : s.recovery = some staged ∨ move = .stageRecovery staged.successor := by
  cases move with
  | stay | withdraw =>
      cases stepped
      exact .inl stored
  | withdrawRecovery =>
      cases stepped
      cases stored
  | stage successor =>
      simp only [step, bind_eq_ok, pure_eq_ok] at stepped
      obtain ⟨-, -, rfl⟩ := stepped
      exact .inl stored
  | stageRecovery successor =>
      simp only [step, bind_eq_ok, pure_eq_ok] at stepped
      obtain ⟨-, -, rfl⟩ := stepped
      cases stored
      exact .inr rfl
  | accept successor =>
      simp only [step, bind_eq_ok, pure_eq_ok] at stepped
      obtain ⟨-, -, -, -, rfl⟩ := stepped
      exact .inl stored
  | recover successor =>
      rw [(recover_voids stepped).2.1] at stored
      cases stored

/-! ## After a recovery -/

section renewal
variable {initial : State κ} {run : Run (step void) initial} {i n : Nat}

structure Renewed (run : Run (step void) initial) (i n : Nat) : Prop where
  nonvoid : (run.state n).holder ≠ void
  transfer : ∀ staged, (run.state n).transfer = some staged → staged.against = void ∨
    ∃ m, i < m ∧ m < n ∧ run.label m = .stage staged.successor
  recovery : ∀ staged, (run.state n).recovery = some staged →
    ∃ m, i < m ∧ m < n ∧ run.label m = .stageRecovery staged.successor

theorem renewed_step (renewed : Renewed run i n) (after : i < n) (within : n < run.length) :
    Renewed run i (n + 1) where
  nonvoid := by
    rcases holder_step (run.next n within) with same | ⟨nonvoid, -⟩
    · rw [same]
      exact renewed.nonvoid
    · exact nonvoid
  transfer := by
    intro staged stored
    rcases transfer_step (run.next n within) stored with old | voided | made
    · apply (renewed.transfer staged old).imp_right
      rintro ⟨m, later, before, made⟩
      exact ⟨m, later, Nat.lt_succ_of_lt before, made⟩
    · exact .inl voided
    · exact .inr ⟨n, after, Nat.lt_succ_self n, made⟩
  recovery := by
    intro staged stored
    rcases recovery_step (run.next n within) stored with old | made
    · obtain ⟨m, later, before, made⟩ := renewed.recovery staged old
      exact ⟨m, later, Nat.lt_succ_of_lt before, made⟩
    · exact ⟨n, after, Nat.lt_succ_self n, made⟩

theorem renewed_run {successor : κ} (within : i < run.length) (recovered : run.label i = .recover successor) :
    ∀ n, i < n → n ≤ run.length → Renewed run i n := by
  intro n after
  induction n, after using Nat.le_induction with
  | base =>
      intro _
      have stepped := run.next i within
      rw [recovered] at stepped
      obtain ⟨nonvoid, closed, voided⟩ := recover_voids stepped
      refine ⟨nonvoid, fun staged stored => .inl (voided staged stored), ?_⟩
      intro staged stored
      rw [closed] at stored
      cases stored
  | succ n after ih =>
      intro upto
      exact renewed_step (ih (Nat.le_of_succ_le upto)) after upto

/-- Once a recovery has been executed, whoever takes the role next was proposed after it. -/
theorem proposed_after_recovery {successor : κ} {j : Nat} (recovered : run.label i = .recover successor)
    (after : i < j) (within : j < run.length) (changed : (run.state (j + 1)).holder ≠ (run.state j).holder) :
    ∃ m, i < m ∧ m < j ∧ (run.label m = .stage (run.state (j + 1)).holder ∨
      run.label m = .stageRecovery (run.state (j + 1)).holder) := by
  have renewed := renewed_run (Nat.lt_trans after within) recovered j after (Nat.le_of_lt within)
  obtain ⟨-, transfer | recovery⟩ := (holder_step (run.next j within)).resolve_left changed
  · rcases renewed.transfer _ transfer with voided | ⟨m, later, before, made⟩
    · exact absurd voided renewed.nonvoid
    · exact ⟨m, later, before, .inl made⟩
  · obtain ⟨m, later, before, made⟩ := renewed.recovery _ recovery
    exact ⟨m, later, before, .inr made⟩

end renewal

end Handover
