import Mancipatio.Basic
import Mancipatio.Library.Handover

/-!
# The blocklist authority of the transfer hook

The hook program keeps its own singleton role with the same two ways to change hands: a rotation that
the authority stages, and a recovery that the program's upgrade authority stages.
-/

namespace Mancipatio.Hook
open Checked Execution

def proposalWindowSecs : Int := 1209600
def recoveryDelaySecs : Int := 604800

inductive HookError where
  | unauthorized
  | invalidProposedAuthority
  | invalidAuthorityTransfer
  | invalidRecovery
  | proposalExpired
  | recoveryPending
  | timelockActive
  | kycRegistryRequired
  | kycRegistryNotAllowed
  | missingExtraAccount
  | senderBlocked
  | receiverNotApproved
  | holderKycExpired
  | jurisdictionBlocked
  | invalidKycEntry
  | invalidKycRegistry
  | metaListNotInitialized
  | immutableOwnerRequired
  | invalidTokenAccount
  | invalidBlockEntry
  -- raised by the account framework and the runtime
  | accountNotInitialized
  | accountAlreadyInUse
  | accountDidNotDeserialize
  | accountDidNotSerialize
  | invalidAccountData
  | missingSignature
  deriving DecidableEq, Repr

structure BlocklistAuthorityProposal where
  currentAuthority : Pubkey
  newAuthority : Pubkey
  proposedAt : Int
  expiresAt : Int
  deriving DecidableEq, Repr

structure BlocklistRecovery where
  currentAuthority : Pubkey
  newAuthority : Pubkey
  proposedBy : Pubkey
  proposedAt : Int
  eta : Int
  expiresAt : Int
  deriving DecidableEq, Repr

structure BlocklistRole where
  authority : Pubkey
  transfer : Option BlocklistAuthorityProposal
  recovery : Option BlocklistRecovery
  upgradeAuthority : Option Pubkey
  now : Int
  deriving DecidableEq, Repr

inductive BlocklistLabel where
  | proposeBlocklistAuthority (authority newAuthority : Pubkey)
  | acceptBlocklistAuthority (newAuthority : Pubkey)
  | cancelBlocklistAuthorityTransfer (authority : Pubkey)
  | proposeBlocklistRecovery (upgradeAuthority newAuthority : Pubkey)
  | cancelBlocklistRecovery (canceller : Pubkey)
  | executeBlocklistRecovery (newAuthority : Pubkey)
  | setUpgradeAuthority (upgradeAuthority : Option Pubkey)
  | tick (seconds : Nat)
  deriving DecidableEq, Repr

instance : Inhabited BlocklistLabel := ⟨.tick 0⟩

def initializeBlocklistAuthority (authority : Pubkey) (upgradeAuthority : Option Pubkey) (now : Int) : BlocklistRole :=
  { authority, transfer := none, recovery := none, upgradeAuthority, now }

def requireSigner (key : Pubkey) : Except HookError Unit :=
  require (key ≠ 0) .missingSignature

def isLiveRecovery (b : BlocklistRole) : Prop :=
  b.recovery.any (·.currentAuthority = b.authority) = true
  deriving Decidable

def BlocklistAuthorityProposal.retired (proposal : BlocklistAuthorityProposal) : BlocklistAuthorityProposal :=
  { proposal with currentAuthority := 0 }

def step (b : BlocklistRole) : BlocklistLabel → Except HookError BlocklistRole
  | .proposeBlocklistAuthority authority newAuthority => do
      requireSigner authority
      require (b.authority = authority) .unauthorized
      require (newAuthority ≠ 0 ∧ newAuthority ≠ b.authority) .invalidProposedAuthority
      return { b with
        transfer := some
          { currentAuthority := b.authority, newAuthority, proposedAt := b.now,
            expiresAt := saturatingAddInt 64 b.now proposalWindowSecs } }
  | .acceptBlocklistAuthority newAuthority => do
      requireSigner newAuthority
      let transfer ← okOr b.transfer .accountNotInitialized
      require (transfer.currentAuthority = b.authority ∧ transfer.newAuthority = newAuthority)
        .invalidAuthorityTransfer
      require (b.now < transfer.expiresAt) .proposalExpired
      require (¬ isLiveRecovery b) .recoveryPending
      return { b with authority := newAuthority, transfer := none }
  | .cancelBlocklistAuthorityTransfer authority => do
      requireSigner authority
      require (b.authority = authority) .unauthorized
      let _ ← okOr b.transfer .accountNotInitialized
      return { b with transfer := none }
  | .proposeBlocklistRecovery upgradeAuthority newAuthority => do
      requireSigner upgradeAuthority
      require (b.upgradeAuthority = some upgradeAuthority) .unauthorized
      require (newAuthority ≠ 0 ∧ newAuthority ≠ b.authority) .invalidProposedAuthority
      let eta := saturatingAddInt 64 b.now recoveryDelaySecs
      return { b with
        recovery := some
          { currentAuthority := b.authority, newAuthority, proposedBy := upgradeAuthority, proposedAt := b.now, eta,
            expiresAt := saturatingAddInt 64 eta proposalWindowSecs } }
  | .cancelBlocklistRecovery canceller => do
      requireSigner canceller
      let recovery ← okOr b.recovery .accountNotInitialized
      require (canceller = b.authority ∨ canceller = recovery.proposedBy) .unauthorized
      return { b with recovery := none }
  | .executeBlocklistRecovery newAuthority => do
      requireSigner newAuthority
      let recovery ← okOr b.recovery .accountNotInitialized
      require (recovery.currentAuthority = b.authority ∧ recovery.newAuthority = newAuthority) .invalidRecovery
      require (b.upgradeAuthority = some recovery.proposedBy) .invalidRecovery
      require (recovery.eta ≤ b.now) .timelockActive
      require (b.now < recovery.expiresAt) .proposalExpired
      return { b with
        authority := newAuthority
        transfer := b.transfer.map BlocklistAuthorityProposal.retired
        recovery := none }
  | .setUpgradeAuthority upgradeAuthority => return { b with upgradeAuthority }
  | .tick seconds => return { b with now := b.now + seconds }

/-! ## The role as a handover -/

def BlocklistRole.handover (b : BlocklistRole) : Handover.State Pubkey where
  holder := b.authority
  transfer := b.transfer.map fun transfer => ⟨transfer.currentAuthority, transfer.newAuthority⟩
  recovery := b.recovery.map fun recovery => ⟨recovery.currentAuthority, recovery.newAuthority⟩

def BlocklistLabel.move : BlocklistLabel → Handover.Move Pubkey
  | .proposeBlocklistAuthority _ newAuthority => .stage newAuthority
  | .acceptBlocklistAuthority newAuthority => .accept newAuthority
  | .cancelBlocklistAuthorityTransfer _ => .withdraw
  | .proposeBlocklistRecovery _ newAuthority => .stageRecovery newAuthority
  | .cancelBlocklistRecovery _ => .withdrawRecovery
  | .executeBlocklistRecovery newAuthority => .recover newAuthority
  | .setUpgradeAuthority _ | .tick _ => .stay

theorem step_handover (b : BlocklistRole) (label : BlocklistLabel) (b' : BlocklistRole)
    (stepped : step b label = .ok b') :
    Handover.step (0 : Pubkey) b.handover label.move = .ok b'.handover := by
  cases label with
  | proposeBlocklistAuthority authority newAuthority =>
      simp only [step, bind_eq_ok, require_eq_ok, pure_eq_ok, exists_const] at stepped
      obtain ⟨-, -, -, ⟨nonzero, fresh⟩, rfl⟩ := stepped
      exact Handover.stage_ok nonzero fresh
  | acceptBlocklistAuthority newAuthority =>
      simp only [step, requireSigner, bind_eq_ok, okOr_eq_ok, require_eq_ok, pure_eq_ok, exists_const] at stepped
      obtain ⟨signed, transfer, stored, ⟨current, named⟩, -, idle, rfl⟩ := stepped
      apply Handover.accept_ok signed
      · simp [BlocklistRole.handover, stored, current, named]
      · unfold isLiveRecovery at idle
        cases stored : b.recovery <;> simp_all [BlocklistRole.handover]
  | cancelBlocklistAuthorityTransfer authority =>
      simp only [step, bind_eq_ok, pure_eq_ok] at stepped
      obtain ⟨-, -, -, -, -, -, rfl⟩ := stepped
      rfl
  | proposeBlocklistRecovery upgradeAuthority newAuthority =>
      simp only [step, bind_eq_ok, require_eq_ok, pure_eq_ok, exists_const] at stepped
      obtain ⟨-, -, -, ⟨nonzero, fresh⟩, rfl⟩ := stepped
      exact Handover.stageRecovery_ok nonzero fresh
  | cancelBlocklistRecovery canceller =>
      simp only [step, bind_eq_ok, pure_eq_ok] at stepped
      obtain ⟨-, -, -, -, -, -, rfl⟩ := stepped
      rfl
  | executeBlocklistRecovery newAuthority =>
      simp only [step, requireSigner, bind_eq_ok, okOr_eq_ok, require_eq_ok, pure_eq_ok, exists_const] at stepped
      obtain ⟨signed, recovery, stored, ⟨current, named⟩, -, -, -, rfl⟩ := stepped
      rw [BlocklistLabel.move, Handover.recover_ok signed (by simp [BlocklistRole.handover, stored, current, named])]
      simp [BlocklistRole.handover, BlocklistAuthorityProposal.retired, Function.comp_def]
  | setUpgradeAuthority | tick =>
      cases stepped
      rfl

/-! ## Recoveries never cross rotations -/

structure RecoveryApart {initial : BlocklistRole} (run : Run step initial) : Prop where
  live : ∀ i ≤ run.length, ∀ recovery, (run.state i).recovery = some recovery →
    recovery.currentAuthority = (run.state i).authority
  blocked : ∀ i < run.length, ∀ newAuthority, run.label i = .acceptBlocklistAuthority newAuthority →
    (run.state i).recovery = none
  retired : ∀ i < run.length, ∀ newAuthority, run.label i = .executeBlocklistRecovery newAuthority →
    ∀ successor b, step (run.state (i + 1)) (.acceptBlocklistAuthority successor) ≠ .ok b
  renewed : ∀ i j, i < j → j < run.length →
    ∀ newAuthority, run.label i = .executeBlocklistRecovery newAuthority →
    (run.state (j + 1)).authority ≠ (run.state j).authority → ∃ m, i < m ∧ m < j ∧ ∃ proposer,
      run.label m = .proposeBlocklistAuthority proposer (run.state (j + 1)).authority ∨
        run.label m = .proposeBlocklistRecovery proposer (run.state (j + 1)).authority

theorem proposed_of_move {label : BlocklistLabel} {successor : Pubkey}
    (moved : label.move = .stage successor ∨ label.move = .stageRecovery successor) :
    ∃ proposer, label = .proposeBlocklistAuthority proposer successor ∨
      label = .proposeBlocklistRecovery proposer successor := by
  cases label <;> simp_all [BlocklistLabel.move]

theorem recovery_apart {authority : Pubkey} {upgradeAuthority : Option Pubkey} {now : Int}
    (run : Run step (initializeBlocklistAuthority authority upgradeAuthority now)) : RecoveryApart run := by
  let handover := run.simulate BlocklistRole.handover BlocklistLabel.move step_handover
  have bound : ∀ i ≤ run.length, Handover.Bound (run.state i).handover := Handover.bound_run rfl handover
  refine ⟨?_, ?_, ?_, ?_⟩
  · intro i within recovery stored
    exact bound i within ⟨recovery.currentAuthority, recovery.newAuthority⟩
      (by simp [BlocklistRole.handover, stored])
  · intro i within newAuthority accepted
    have stepped := handover.next i within
    rw [show handover.label i = .accept newAuthority from congrArg BlocklistLabel.move accepted] at stepped
    exact Option.map_eq_none_iff.mp (Handover.accept_blocked (bound i (Nat.le_of_lt within)) stepped)
  · intro i within newAuthority executed successor b accepted
    have stepped := handover.next i within
    rw [show handover.label i = .recover newAuthority from congrArg BlocklistLabel.move executed] at stepped
    obtain ⟨nonvoid, -, voided⟩ := Handover.recover_voids stepped
    exact Handover.not_accepted_of_voided nonvoid voided (step_handover _ _ _ accepted)
  · intro i j after within newAuthority executed changed
    have recovered : handover.label i = .recover newAuthority := congrArg BlocklistLabel.move executed
    obtain ⟨m, later, before, moved⟩ := Handover.proposed_after_recovery recovered after within changed
    exact ⟨m, later, before, proposed_of_move moved⟩

end Mancipatio.Hook
