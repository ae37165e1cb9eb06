import Mancipatio.Authority.Machine
import Mancipatio.Hook.BlocklistAuthority

/-!
# Rotations and recoveries of the two singleton roles

The super admin of the registry and the blocklist authority of the hook are handed over by the same
protocol, and its laws hold of both programs.
-/

namespace Mancipatio.Authority
open Execution

def Registry.handover (r : Registry) : Handover.State Pubkey where
  holder := r.platform.admin
  transfer := r.transfer.map fun transfer => ⟨transfer.currentAuthority, transfer.newAuthority⟩
  recovery := r.recovery.map fun recovery => ⟨recovery.currentAdmin, recovery.newAdmin⟩

def RegistryLabel.move : RegistryLabel → Handover.Move Pubkey
  | .proposePlatformAdmin _ newAdmin => .stage newAdmin
  | .acceptPlatformAdmin newAdmin => .accept newAdmin
  | .cancelPlatformAdminTransfer _ => .withdraw
  | .proposePlatformRecovery _ newAdmin => .stageRecovery newAdmin
  | .cancelPlatformRecovery _ => .withdrawRecovery
  | .executePlatformRecovery newAdmin => .recover newAdmin
  | _ => .stay

theorem handover_same {r r' : Registry} (same : Same r r') : r'.handover = r.handover := by
  simp only [Registry.handover, same.admin, same.transfer, same.recovery]

theorem move_eq_stay {label : RegistryLabel} (quiet : label.writesRoles = false) : label.move = .stay := by
  cases label <;> first | rfl | cases quiet

theorem step_handover (r : Registry) (label : RegistryLabel) (r' : Registry) (stepped : step r label = .ok r') :
    Handover.step (0 : Pubkey) r.handover label.move = .ok r'.handover := by
  cases step_effect stepped with
  | proposedTransfer nonzero fresh => exact Handover.stage_ok nonzero fresh
  | accepted nonzero stored current named _ _ idle =>
      apply Handover.accept_ok nonzero
      · simp [Registry.handover, stored, current, named]
      · unfold recoveryLive at idle
        cases stored : r.recovery <;> simp_all [Registry.handover]
  | proposedRecovery nonzero fresh => exact Handover.stageRecovery_ok nonzero fresh
  | executed nonzero stored current named =>
      rw [RegistryLabel.move, Handover.recover_ok nonzero (by simp [Registry.handover, stored, current, named])]
      simp [Registry.handover, AuthorityProposal.retired, Function.comp_def]
  | paused quiet =>
      rw [move_eq_stay quiet]
      rfl
  | elsewhere quiet same =>
      rw [move_eq_stay quiet, handover_same same]
      rfl
  | _ => rfl

/-! ## Recoveries never cross rotations -/

structure RecoveryApart {initial : Registry} (run : Run step initial) : Prop where
  live : ∀ i ≤ run.length, ∀ recovery, (run.state i).recovery = some recovery →
    recovery.currentAdmin = (run.state i).platform.admin
  blocked : ∀ i < run.length, ∀ newAdmin, run.label i = .acceptPlatformAdmin newAdmin →
    (run.state i).recovery = none
  retired : ∀ i < run.length, ∀ newAdmin, run.label i = .executePlatformRecovery newAdmin →
    ∀ successor r, step (run.state (i + 1)) (.acceptPlatformAdmin successor) ≠ .ok r
  renewed : ∀ i j, i < j → j < run.length → ∀ newAdmin, run.label i = .executePlatformRecovery newAdmin →
    (run.state (j + 1)).platform.admin ≠ (run.state j).platform.admin → ∃ m, i < m ∧ m < j ∧ ∃ proposer,
      run.label m = .proposePlatformAdmin proposer (run.state (j + 1)).platform.admin ∨
        run.label m = .proposePlatformRecovery proposer (run.state (j + 1)).platform.admin

theorem proposed_of_move {label : RegistryLabel} {successor : Pubkey}
    (moved : label.move = .stage successor ∨ label.move = .stageRecovery successor) :
    ∃ proposer, label = .proposePlatformAdmin proposer successor ∨
      label = .proposePlatformRecovery proposer successor := by
  cases label <;> simp_all [RegistryLabel.move]

theorem recovery_apart {admin : Pubkey} {upgradeAuthority : Option Pubkey} {now : Int}
    (run : Run step (initializePlatform admin upgradeAuthority now)) : RecoveryApart run := by
  let handover := run.simulate Registry.handover RegistryLabel.move step_handover
  have bound : ∀ i ≤ run.length, Handover.Bound (run.state i).handover := Handover.bound_run rfl handover
  refine ⟨?_, ?_, ?_, ?_⟩
  · intro i within recovery stored
    exact bound i within ⟨recovery.currentAdmin, recovery.newAdmin⟩ (by simp [Registry.handover, stored])
  · intro i within newAdmin accepted
    have stepped := handover.next i within
    rw [show handover.label i = .accept newAdmin from congrArg RegistryLabel.move accepted] at stepped
    exact Option.map_eq_none_iff.mp (Handover.accept_blocked (bound i (Nat.le_of_lt within)) stepped)
  · intro i within newAdmin executed successor r accepted
    have stepped := handover.next i within
    rw [show handover.label i = .recover newAdmin from congrArg RegistryLabel.move executed] at stepped
    obtain ⟨nonvoid, -, voided⟩ := Handover.recover_voids stepped
    exact Handover.not_accepted_of_voided nonvoid voided (step_handover _ _ _ accepted)
  · intro i j after within newAdmin executed changed
    have recovered : handover.label i = .recover newAdmin := congrArg RegistryLabel.move executed
    obtain ⟨m, later, before, moved⟩ := Handover.proposed_after_recovery recovered after within changed
    exact ⟨m, later, before, proposed_of_move moved⟩

/-- In both programs a stored recovery names the current holder, blocks every rotation, and leaves no
rotation behind that could be accepted: the role moves again only by a proposal made after it. -/
theorem rotation_and_recovery_never_cross {admin authority : Pubkey} {upgradeAuthority hookUpgradeAuthority : Option Pubkey}
    {now hookNow : Int} (run : Run step (initializePlatform admin upgradeAuthority now))
    (hookRun : Run Hook.step (Hook.initializeBlocklistAuthority authority hookUpgradeAuthority hookNow)) :
    RecoveryApart run ∧ Hook.RecoveryApart hookRun :=
  ⟨recovery_apart run, Hook.recovery_apart hookRun⟩

end Mancipatio.Authority
