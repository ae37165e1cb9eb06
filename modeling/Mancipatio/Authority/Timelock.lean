import Mancipatio.Authority.Machine

/-!
# Notice before power

After the bootstrap window has closed, a key becomes an admin or the super admin only through a proposal
that named it, stood unchanged for its whole timelock and had not expired.
-/

namespace Mancipatio.Authority
open Execution

/-! ## Where a staged proposal comes from -/

section written
variable {r r' : Registry} {label : RegistryLabel}

theorem pendingAdmin_written {key : Pubkey} {pending : PendingAdmin} (stepped : step r label = .ok r')
    (stored : r'.pendingAdmins key = some pending) (new : r.pendingAdmins key ≠ some pending) :
    label = .proposeAdmin r.platform.admin key ∧
      pending = { newAdmin := key, proposedBy := r.platform.admin, window := windowAt r.now adminTimelockSecs } := by
  cases step_effect stepped with
  | @proposedAdmin newAdmin =>
      by_cases same : key = newAdmin
      · subst same
        exact ⟨rfl, by simpa using stored.symm⟩
      · exact absurd (by simpa [same] using stored) new
  | @addedAdmin newAdmin | @cancelledAdminProposal _ newAdmin =>
      by_cases same : key = newAdmin
      · simp [same] at stored
      · exact absurd (by simpa [same] using stored) new
  | elsewhere _ same => exact absurd (same.pendingAdmins ▸ stored) new
  | _ => exact absurd stored new

theorem transfer_written {transfer : AuthorityProposal} (stepped : step r label = .ok r')
    (stored : r'.transfer = some transfer) (new : r.transfer ≠ some transfer) :
    transfer.currentAuthority = 0 ∨ label = .proposePlatformAdmin r.platform.admin transfer.newAuthority ∧
      transfer = { currentAuthority := r.platform.admin, newAuthority := transfer.newAuthority,
                   proposedBy := r.platform.admin,
                   window := windowAt r.now superAdminRotationTimelockSecs } := by
  cases step_effect stepped with
  | proposedTransfer =>
      cases stored
      exact .inr ⟨rfl, rfl⟩
  | accepted | cancelledTransfer => cases stored
  | executed =>
      obtain ⟨_, -, rfl⟩ := Option.map_eq_some_iff.mp stored
      exact .inl rfl
  | elsewhere _ same => exact absurd (same.transfer ▸ stored) new
  | _ => exact absurd stored new

theorem recovery_written {recovery : PlatformRecovery} (stepped : step r label = .ok r')
    (stored : r'.recovery = some recovery) (new : r.recovery ≠ some recovery) :
    label = .proposePlatformRecovery recovery.proposedBy recovery.newAdmin ∧
      recovery = { currentAdmin := r.platform.admin, newAdmin := recovery.newAdmin,
                   proposedBy := recovery.proposedBy, window := windowAt r.now platformRecoveryDelaySecs } := by
  cases step_effect stepped with
  | proposedRecovery =>
      cases stored
      exact ⟨rfl, rfl⟩
  | cancelledRecovery | executed => cases stored
  | elsewhere _ same => exact absurd (same.recovery ▸ stored) new
  | _ => exact absurd stored new

end written

/-! ## The super admin's key and the bootstrap bit -/

theorem admin_nonzero_step {r r' : Registry} {label : RegistryLabel} (nonzero : r.platform.admin ≠ 0)
    (stepped : step r label = .ok r') : r'.platform.admin ≠ 0 := by
  cases step_effect stepped with
  | accepted signed | executed signed => exact signed
  | elsewhere _ same => exact same.admin ▸ nonzero
  | _ => exact nonzero

theorem bootstrap_closed_step {r r' : Registry} {label : RegistryLabel} (closed : ¬ r.platform.bootstrapOpen)
    (stepped : step r label = .ok r') : ¬ r'.platform.bootstrapOpen := by
  cases step_effect stepped with
  | paused _ stays => exact stays closed
  | elsewhere _ same =>
      unfold Platform.bootstrapOpen at closed ⊢
      rwa [same.pauseFlags]
  | _ => exact closed

theorem effectiveEta_of_closed {platform : Platform} (closed : ¬ platform.bootstrapOpen) (window : ProposalWindow) :
    effectiveEta platform window = window.eta := by
  rw [effectiveEta, if_neg closed]

/-! ## Notices -/

section notices
variable {initial : Registry} (run : Run step initial)

structure Matured (timelock : Int) (i j : Nat) : Prop where
  waited : (run.state i).now + timelock ≤ (run.state j).now
  unexpired : (run.state j).now < (run.state i).now + timelock + proposalWindowSecs

def GrantNotice (j : Nat) (key : Pubkey) : Prop :=
  ∃ i < j, ∃ proposer, run.label i = .proposeAdmin proposer key ∧ Matured run adminTimelockSecs i j ∧
    ∀ m, i < m → m ≤ j → (run.state m).pendingAdmins key =
      some { newAdmin := key, proposedBy := proposer, window := windowAt (run.state i).now adminTimelockSecs }

def RotationNotice (j : Nat) (key : Pubkey) : Prop :=
  ∃ i < j, ∃ proposer, run.label i = .proposePlatformAdmin proposer key ∧
    Matured run superAdminRotationTimelockSecs i j ∧
    ∀ m, i < m → m ≤ j → (run.state m).transfer =
      some { currentAuthority := proposer, newAuthority := key, proposedBy := proposer,
             window := windowAt (run.state i).now superAdminRotationTimelockSecs }

def RecoveryNotice (j : Nat) (key : Pubkey) : Prop :=
  ∃ i < j, ∃ proposer, run.label i = .proposePlatformRecovery proposer key ∧
    Matured run platformRecoveryDelaySecs i j ∧
    ∀ m, i < m → m ≤ j → (run.state m).recovery =
      some { currentAdmin := (run.state i).platform.admin, newAdmin := key, proposedBy := proposer,
             window := windowAt (run.state i).now platformRecoveryDelaySecs }

variable {run} {j : Nat}

theorem grantNotice_of_stored {key : Pubkey} {pending : PendingAdmin} (within : j < run.length)
    (initially : initial.pendingAdmins key = none) (stored : (run.state j).pendingAdmins key = some pending)
    (matured : pending.window.eta ≤ (run.state j).now) (unexpired : (run.state j).now < pending.window.expiresAt) :
    GrantNotice run j key := by
  obtain ⟨i, before, absent, since⟩ := run.lastWrite (fun r => r.pendingAdmins key) stored (by simp [initially])
  obtain ⟨made, rfl⟩ := pendingAdmin_written (run.next i (Nat.lt_trans before within))
    (since (i + 1) (Nat.lt_succ_self i) before) absent
  exact ⟨i, before, _, made, ⟨matured, unexpired⟩, since⟩

theorem rotationNotice_of_stored {transfer : AuthorityProposal} (within : j < run.length)
    (initially : initial.transfer = none) (stored : (run.state j).transfer = some transfer)
    (bound : transfer.currentAuthority ≠ 0) (matured : transfer.window.eta ≤ (run.state j).now)
    (unexpired : (run.state j).now < transfer.window.expiresAt) : RotationNotice run j transfer.newAuthority := by
  obtain ⟨i, before, absent, since⟩ := run.lastWrite (fun r => r.transfer) stored (by simp [initially])
  obtain ⟨made, written⟩ := (transfer_written (run.next i (Nat.lt_trans before within))
    (since (i + 1) (Nat.lt_succ_self i) before) absent).resolve_left bound
  rw [written] at matured unexpired
  exact ⟨i, before, _, made, ⟨matured, unexpired⟩, fun m after upto => written ▸ since m after upto⟩

theorem recoveryNotice_of_stored {recovery : PlatformRecovery} (within : j < run.length)
    (initially : initial.recovery = none) (stored : (run.state j).recovery = some recovery)
    (matured : recovery.window.eta ≤ (run.state j).now) (unexpired : (run.state j).now < recovery.window.expiresAt) :
    RecoveryNotice run j recovery.newAdmin := by
  obtain ⟨i, before, absent, since⟩ := run.lastWrite (fun r => r.recovery) stored (by simp [initially])
  obtain ⟨made, written⟩ := recovery_written (run.next i (Nat.lt_trans before within))
    (since (i + 1) (Nat.lt_succ_self i) before) absent
  rw [written] at matured unexpired
  exact ⟨i, before, _, made, ⟨matured, unexpired⟩, fun m after upto => written ▸ since m after upto⟩

end notices

/-! ## The statement -/

/-- A proposal made while another one stands replaces it and waits its own full time. -/
structure Restarted {initial : Registry} (run : Run step initial) : Prop where
  grant : ∀ i < run.length, ∀ proposer key, run.label i = .proposeAdmin proposer key →
    ((run.state (i + 1)).pendingAdmins key).map PendingAdmin.window =
      some (windowAt (run.state i).now adminTimelockSecs)
  rotation : ∀ i < run.length, ∀ proposer key, run.label i = .proposePlatformAdmin proposer key →
    (run.state (i + 1)).transfer.map AuthorityProposal.window =
      some (windowAt (run.state i).now superAdminRotationTimelockSecs)
  recovery : ∀ i < run.length, ∀ proposer key, run.label i = .proposePlatformRecovery proposer key →
    (run.state (i + 1)).recovery.map PlatformRecovery.window =
      some (windowAt (run.state i).now platformRecoveryDelaySecs)

theorem restarted {initial : Registry} (run : Run step initial) : Restarted run where
  grant := by
    intro i within proposer key made
    have stepped := made ▸ run.next i within
    generalize run.state (i + 1) = r' at stepped ⊢
    cases step_effect stepped with
    | proposedAdmin => simp
    | paused quiet | elsewhere quiet => cases quiet
  rotation := by
    intro i within proposer key made
    have stepped := made ▸ run.next i within
    generalize run.state (i + 1) = r' at stepped ⊢
    cases step_effect stepped with
    | proposedTransfer => rfl
    | paused quiet | elsewhere quiet => cases quiet
  recovery := by
    intro i within proposer key made
    have stepped := made ▸ run.next i within
    generalize run.state (i + 1) = r' at stepped ⊢
    cases step_effect stepped with
    | proposedRecovery => rfl
    | paused quiet | elsewhere quiet => cases quiet

section power
variable {admin : Pubkey} {upgradeAuthority : Option Pubkey} {now : Int}
variable {run : Run step (initializePlatform admin upgradeAuthority now)} {j : Nat}

theorem noticed_step (nonzero : (run.state j).platform.admin ≠ 0) (within : j < run.length)
    (closed : ¬ (run.state j).platform.bootstrapOpen) :
    (∀ key, (run.state j).admins key = none → (run.state (j + 1)).admins key ≠ none →
      GrantNotice run j key ∨ RotationNotice run j key ∨ RecoveryNotice run j key) ∧
    ((run.state (j + 1)).platform.admin ≠ (run.state j).platform.admin →
      RotationNotice run j (run.state (j + 1)).platform.admin ∨
        RecoveryNotice run j (run.state (j + 1)).platform.admin) := by
  have stepped := run.next j within
  generalize run.state (j + 1) = r' at stepped ⊢
  generalize run.label j = label at stepped
  cases step_effect stepped with
  | @addedAdmin newAdmin pending stored _ _ matured unexpired =>
      rw [effectiveEta_of_closed closed] at matured
      refine ⟨?_, fun changed => absurd rfl changed⟩
      intro key absent acquired
      obtain rfl : key = newAdmin := by
        by_contra other
        simp [other, absent] at acquired
      exact .inl (grantNotice_of_stored within rfl stored matured unexpired)
  | @accepted newAdmin transfer _ stored current named matured unexpired =>
      rw [effectiveEta_of_closed closed] at matured
      have notice := rotationNotice_of_stored within rfl stored (current ▸ nonzero) matured unexpired
      rw [named] at notice
      refine ⟨?_, fun _ => .inl notice⟩
      intro key absent acquired
      obtain rfl : key = newAdmin := by
        by_contra other
        by_cases old : key = (run.state j).platform.admin <;> simp_all
      exact .inr (.inl notice)
  | @executed newAdmin recovery _ stored _ named matured unexpired =>
      have notice := recoveryNotice_of_stored within rfl stored matured unexpired
      rw [named] at notice
      refine ⟨?_, fun _ => .inr notice⟩
      intro key absent acquired
      obtain rfl : key = newAdmin := by
        by_contra other
        by_cases old : key = (run.state j).platform.admin <;> simp_all
      exact .inr (.inr notice)
  | @removedAdmin removed =>
      refine ⟨?_, fun changed => absurd rfl changed⟩
      intro key absent acquired
      by_cases same : key = removed <;> simp [same, absent] at acquired
  | elsewhere _ same =>
      refine ⟨?_, fun changed => absurd same.admin changed⟩
      intro key absent acquired
      rw [same.admins] at acquired
      exact absurd absent acquired
  | _ => exact ⟨fun _ absent acquired => absurd absent acquired, fun changed => absurd rfl changed⟩

end power

/-- Once closed the bootstrap window stays closed, and from then on every admin record and every super
admin that a run creates was announced by a standing, unexpired proposal for that key at least its
timelock before. A new proposal always restarts the clock. -/
theorem admin_power_is_noticed {admin : Pubkey} {upgradeAuthority : Option Pubkey} {now : Int} (signed : admin ≠ 0)
    (run : Run step (initializePlatform admin upgradeAuthority now)) :
    (∀ i j, i ≤ j → j ≤ run.length → ¬ (run.state i).platform.bootstrapOpen →
      ¬ (run.state j).platform.bootstrapOpen) ∧
    (∀ j < run.length, ¬ (run.state j).platform.bootstrapOpen →
      (∀ key, (run.state j).admins key = none → (run.state (j + 1)).admins key ≠ none →
        GrantNotice run j key ∨ RotationNotice run j key ∨ RecoveryNotice run j key) ∧
      ((run.state (j + 1)).platform.admin ≠ (run.state j).platform.admin →
        RotationNotice run j (run.state (j + 1)).platform.admin ∨
          RecoveryNotice run j (run.state (j + 1)).platform.admin)) ∧
    Restarted run := by
  refine ⟨?_, ?_, restarted run⟩
  · intro i j ordered within closed
    refine run.invariant_from (P := fun r => ¬ r.platform.bootstrapOpen) closed ?_ j within ordered
    intro m before _ closed
    exact bootstrap_closed_step closed (run.next m before)
  · intro j within closed
    have nonzero : ∀ i ≤ run.length, (run.state i).platform.admin ≠ 0 := by
      apply run.invariant (P := fun r => r.platform.admin ≠ 0) signed
      intro r label r' nonzero stepped
      exact admin_nonzero_step nonzero stepped
    exact noticed_step (nonzero j (Nat.le_of_lt within)) within closed

def grantRun : Run step (initializePlatform 1 (some 2) 0) :=
  .ofLabels _ _ [.setPauseFlags 1 0 platformBootstrapOpen, .proposeAdmin 1 7, .tick 172800, .addAdmin 7]
    (by decide +kernel)

theorem admin_power_is_noticed_example :
    GrantNotice grantRun 3 7 ∨ RotationNotice grantRun 3 7 ∨ RecoveryNotice grantRun 3 7 :=
  ((admin_power_is_noticed (by decide) grantRun).2.1 3 (by decide +kernel) (by decide +kernel)).1 7
    (by decide +kernel) (by decide +kernel)

end Mancipatio.Authority
