import Mancipatio.Basic

/-!
# Platform roles

The super admin, the admins below it and the operators of custody vaults. A role changes hands through
a staged proposal that the incoming key takes inside the proposal's window.
-/

namespace Mancipatio.Authority
open Checked

def adminTimelockSecs : Int := 172800
def superAdminRotationTimelockSecs : Int := 172800
def platformRecoveryDelaySecs : Int := 604800
def proposalWindowSecs : Int := 1209600

/-! ## Staged proposals -/

structure ProposalWindow where
  proposedAt : Int
  eta : Int
  expiresAt : Int
  deriving DecidableEq, Repr

structure PendingAdmin where
  newAdmin : Pubkey
  proposedBy : Pubkey
  window : ProposalWindow
  deriving DecidableEq, Repr

structure AuthorityProposal where
  currentAuthority : Pubkey
  newAuthority : Pubkey
  proposedBy : Pubkey
  window : ProposalWindow
  deriving DecidableEq, Repr

structure PlatformRecovery where
  currentAdmin : Pubkey
  newAdmin : Pubkey
  proposedBy : Pubkey
  window : ProposalWindow
  deriving DecidableEq, Repr

structure IssuerRecovery where
  currentAuthority : Pubkey
  newAuthority : Pubkey
  proposedBy : Pubkey
  window : ProposalWindow
  deriving DecidableEq, Repr

def openWindow (now timelock : Int) : Except RegistryError ProposalWindow := do
  let eta ← okOr (checkedAddInt 64 now timelock) .overflow
  let expiresAt ← okOr (checkedAddInt 64 eta proposalWindowSecs) .overflow
  return { proposedAt := now, eta, expiresAt }

def windowAt (now timelock : Int) : ProposalWindow :=
  { proposedAt := now, eta := now + timelock, expiresAt := now + timelock + proposalWindowSecs }

theorem openWindow_ok {now timelock : Int} {window : ProposalWindow}
    (opened : openWindow now timelock = .ok window) : window = windowAt now timelock := by
  simp only [openWindow, bind_eq_ok, okOr_eq_ok, checkedAddInt_eq_some, pure_eq_ok] at opened
  obtain ⟨_, ⟨rfl, -⟩, _, ⟨rfl, -⟩, rfl⟩ := opened
  rfl

def requireWindow (now eta expiresAt : Int) : Except RegistryError Unit := do
  require (eta ≤ now) .timelockActive
  require (now < expiresAt) .proposalExpired

theorem requireWindow_ok {now eta expiresAt : Int} {u : Unit} :
    requireWindow now eta expiresAt = .ok u ↔ eta ≤ now ∧ now < expiresAt := by
  simp [requireWindow]

def requireNotExpired (now : Int) (proposal : AuthorityProposal) : Except RegistryError Unit :=
  require (now < proposal.window.expiresAt) .proposalExpired

def validateNewAuthority (current proposed : Pubkey) : Except RegistryError Unit :=
  require (proposed ≠ 0 ∧ proposed ≠ current) .invalidProposedAuthority

def writeProposal (current proposed proposer : Pubkey) (now timelock : Int) :
    Except RegistryError AuthorityProposal := do
  let window ← openWindow now timelock
  return { currentAuthority := current, newAuthority := proposed, proposedBy := proposer, window }

theorem writeProposal_ok {current proposed proposer : Pubkey} {now timelock : Int} {proposal : AuthorityProposal}
    (written : writeProposal current proposed proposer now timelock = .ok proposal) :
    proposal = { currentAuthority := current, newAuthority := proposed, proposedBy := proposer,
                 window := windowAt now timelock } := by
  simp only [writeProposal, bind_eq_ok, pure_eq_ok] at written
  obtain ⟨window, opened, rfl⟩ := written
  rw [openWindow_ok opened]

/-- Binds a staged proposal to the default key, which no holder can equal. -/
def AuthorityProposal.retired (proposal : AuthorityProposal) : AuthorityProposal :=
  { proposal with currentAuthority := 0 }

def IssuerRecovery.retired (recovery : IssuerRecovery) : IssuerRecovery :=
  { recovery with currentAuthority := 0 }

/-! ## The role accounts -/

structure Platform where
  admin : Pubkey
  pauseFlags : PauseFlags
  issuersCount : Nat
  deriving DecidableEq, Repr

structure Admin where
  admin : Pubkey
  addedBy : Pubkey
  deriving DecidableEq, Repr

inductive KybStatus where
  | pending
  | verified
  | rejected
  | suspended
  deriving DecidableEq, Repr

structure Issuer where
  authority : Pubkey
  kybStatus : KybStatus
  assetsCount : Nat
  deriving DecidableEq, Repr

structure IssuerPermissions where
  capabilities : BitVec 8
  updatedBy : Pubkey
  deriving DecidableEq, Repr

structure VaultRole where
  authority : Pubkey
  running : Bool
  deriving DecidableEq, Repr

/-- Every account that a role instruction reads or writes. Accounts at derived addresses are maps from
the key they are derived from. -/
structure Registry where
  platform : Platform
  upgradeAuthority : Option Pubkey
  admins : Pubkey → Option Admin
  pendingAdmins : Pubkey → Option PendingAdmin
  transfer : Option AuthorityProposal
  recovery : Option PlatformRecovery
  vaults : Nat → Option VaultRole
  vaultTransfers : Nat → Option AuthorityProposal
  issuers : Nat → Option Issuer
  issuerTransfers : Nat → Option AuthorityProposal
  issuerRecoveries : Nat → Option IssuerRecovery
  permissions : Nat → Pubkey → Option IssuerPermissions
  blocked : Pubkey → Bool
  now : Int

def Platform.bootstrapOpen (platform : Platform) : Prop :=
  platform.pauseFlags &&& platformBootstrapOpen ≠ 0
  deriving Decidable

theorem bootstrapBit : ∀ flags : PauseFlags, flags &&& platformBootstrapOpen ≠ 0 ↔ flags[7] = true := by
  decide

theorem bootstrapOpen_iff {platform : Platform} : platform.bootstrapOpen ↔ platform.pauseFlags[7] = true :=
  bootstrapBit platform.pauseFlags

def isActiveAdmin (r : Registry) (key : Pubkey) : Prop :=
  (r.admins key).any (·.admin = key) = true
  deriving Decidable

def isVetoHolder (r : Registry) (key : Pubkey) : Prop :=
  key = r.platform.admin ∨ r.upgradeAuthority = some key ∨ isActiveAdmin r key
  deriving Decidable

/-- The wait of a grant or a rotation is waived while the bootstrap window is open. -/
def effectiveEta (platform : Platform) (window : ProposalWindow) : Int :=
  if platform.bootstrapOpen then window.proposedAt else window.eta

def initializePlatform (admin : Pubkey) (upgradeAuthority : Option Pubkey) (now : Int) : Registry :=
  { platform := { admin, pauseFlags := pauseFlagsAll ||| platformBootstrapOpen, issuersCount := 0 }
    upgradeAuthority
    admins := Function.update (fun _ => none) admin (some { admin, addedBy := admin })
    pendingAdmins := fun _ => none
    transfer := none
    recovery := none
    vaults := fun _ => none
    vaultTransfers := fun _ => none
    issuers := fun _ => none
    issuerTransfers := fun _ => none
    issuerRecoveries := fun _ => none
    permissions := fun _ _ => none
    blocked := fun _ => false
    now }

/-! ## Pausing -/

def setPause (r : Registry) (admin : Pubkey) (paused : Bool) : Except RegistryError Registry := do
  require (r.platform.admin = admin) .unauthorized
  let pauseFlags := if paused then r.platform.pauseFlags ||| pauseOnboarding
    else r.platform.pauseFlags &&& ~~~ (pauseOnboarding ||| platformBootstrapOpen)
  return { r with platform := { r.platform with pauseFlags } }

def setPauseFlags (r : Registry) (authority : Pubkey) (setMask clearMask : PauseFlags) :
    Except RegistryError Registry := do
  let isSuper := decide (authority = r.platform.admin)
  require (isSuper = true ∨ isActiveAdmin r authority) .unauthorized
  require (setMask &&& ~~~ pauseFlagsAll = 0 ∧ setMask &&& clearMask = 0) .invalidPauseFlags
  require (clearMask = 0 ∨ isSuper = true) .pauseClearNotAllowed
  require (clearMask &&& pausePayoutModules = 0 ∨ clearMask = pausePayoutModules) .payoutModulesClearNotExplicit
  let cleared := (r.platform.pauseFlags ||| setMask) &&& ~~~ clearMask
  let pauseFlags := if clearMask ≠ 0 then cleared &&& ~~~ platformBootstrapOpen else cleared
  return { r with platform := { r.platform with pauseFlags } }

/-! ## Admin grants -/

def proposeAdmin (r : Registry) (superAdmin newAdmin : Pubkey) : Except RegistryError Registry := do
  require (r.platform.admin = superAdmin) .unauthorized
  require (r.admins newAdmin = none) .invalidProposedAuthority
  require (newAdmin ≠ 0) .invalidProposedAuthority
  let window ← openWindow r.now adminTimelockSecs
  return { r with
    pendingAdmins := Function.update r.pendingAdmins newAdmin (some { newAdmin, proposedBy := superAdmin, window }) }

def addAdmin (r : Registry) (newAdmin : Pubkey) : Except RegistryError Registry := do
  let pending ← okOr (r.pendingAdmins newAdmin) .accountNotInitialized
  require (pending.proposedBy = r.platform.admin) .invalidAdminProposal
  require (r.admins newAdmin = none) .accountAlreadyInUse
  requireWindow r.now (effectiveEta r.platform pending.window) pending.window.expiresAt
  return { r with
    admins := Function.update r.admins newAdmin (some { admin := newAdmin, addedBy := pending.proposedBy })
    pendingAdmins := Function.update r.pendingAdmins newAdmin none }

def cancelAdminProposal (r : Registry) (canceller newAdmin : Pubkey) : Except RegistryError Registry := do
  let _ ← okOr (r.pendingAdmins newAdmin) .accountNotInitialized
  require (isVetoHolder r canceller) .unauthorized
  return { r with pendingAdmins := Function.update r.pendingAdmins newAdmin none }

def removeAdmin (r : Registry) (superAdmin admin : Pubkey) : Except RegistryError Registry := do
  require (r.platform.admin = superAdmin) .unauthorized
  let _ ← okOr (r.admins admin) .accountNotInitialized
  require (admin ≠ r.platform.admin) .cannotRevokePlatformAdmin
  return { r with admins := Function.update r.admins admin none }

/-! ## The super admin -/

def installPlatformAdmin (r : Registry) (newAdmin : Pubkey) : Except RegistryError Registry := do
  require (r.admins r.platform.admin = none ∨ isActiveAdmin r r.platform.admin) .unauthorized
  return { r with
    admins := Function.update (Function.update r.admins r.platform.admin none) newAdmin
      (some { admin := newAdmin, addedBy := r.platform.admin })
    platform := { r.platform with admin := newAdmin } }

def proposePlatformAdmin (r : Registry) (authority newAdmin : Pubkey) : Except RegistryError Registry := do
  require (r.platform.admin = authority) .unauthorized
  validateNewAuthority r.platform.admin newAdmin
  let proposal ← writeProposal r.platform.admin newAdmin authority r.now superAdminRotationTimelockSecs
  return { r with transfer := some proposal }

def recoveryLive (r : Registry) : Prop :=
  r.recovery.any (·.currentAdmin = r.platform.admin) = true
  deriving Decidable

def acceptPlatformAdmin (r : Registry) (newAdmin : Pubkey) : Except RegistryError Registry := do
  let transfer ← okOr r.transfer .accountNotInitialized
  require (transfer.currentAuthority = r.platform.admin ∧ transfer.proposedBy = r.platform.admin ∧
    transfer.newAuthority = newAdmin) .invalidAuthorityTransfer
  requireWindow r.now (effectiveEta r.platform transfer.window) transfer.window.expiresAt
  require (¬ recoveryLive r) .platformRecoveryPending
  let installed ← installPlatformAdmin r newAdmin
  return { installed with transfer := none }

def cancelPlatformAdminTransfer (r : Registry) (canceller : Pubkey) : Except RegistryError Registry := do
  let _ ← okOr r.transfer .accountNotInitialized
  require (isVetoHolder r canceller) .unauthorized
  return { r with transfer := none }

def proposePlatformRecovery (r : Registry) (upgradeAuthority newAdmin : Pubkey) : Except RegistryError Registry := do
  require (r.upgradeAuthority = some upgradeAuthority) .unauthorized
  validateNewAuthority r.platform.admin newAdmin
  let window ← openWindow r.now platformRecoveryDelaySecs
  return { r with
    recovery := some { currentAdmin := r.platform.admin, newAdmin, proposedBy := upgradeAuthority, window } }

def cancelPlatformRecovery (r : Registry) (canceller : Pubkey) : Except RegistryError Registry := do
  let recovery ← okOr r.recovery .accountNotInitialized
  require (canceller = r.platform.admin ∨ canceller = recovery.proposedBy) .unauthorized
  return { r with recovery := none }

def executePlatformRecovery (r : Registry) (newAdmin : Pubkey) : Except RegistryError Registry := do
  let recovery ← okOr r.recovery .accountNotInitialized
  require (recovery.currentAdmin = r.platform.admin ∧ recovery.newAdmin = newAdmin) .invalidPlatformRecovery
  require (r.upgradeAuthority = some recovery.proposedBy) .invalidPlatformRecovery
  requireWindow r.now recovery.window.eta recovery.window.expiresAt
  let installed ← installPlatformAdmin r newAdmin
  return { installed with transfer := r.transfer.map AuthorityProposal.retired, recovery := none }

/-! ## Custody vault operators -/

def openCustodyVault (r : Registry) (authority : Pubkey) (vault : Nat) : Except RegistryError Registry := do
  let _ ← okOr (r.admins authority) .accountNotInitialized
  require (r.vaults vault = none) .accountAlreadyInUse
  return { r with vaults := Function.update r.vaults vault (some { authority, running := true }) }

def closeCustodyVault (r : Registry) (vault : Nat) : Except RegistryError Registry := do
  let role ← okOr (r.vaults vault) .accountNotInitialized
  require (role.running = true) .invalidVaultState
  return { r with vaults := Function.update r.vaults vault (some { role with running := false }) }

def proposeCustodyAuthority (r : Registry) (superAdmin : Pubkey) (vault : Nat) (newAuthority : Pubkey) :
    Except RegistryError Registry := do
  require (r.platform.admin = superAdmin) .unauthorized
  let role ← okOr (r.vaults vault) .accountNotInitialized
  require (role.running = true) .invalidVaultState
  let _ ← okOr (r.admins newAuthority) .accountNotInitialized
  validateNewAuthority role.authority newAuthority
  let proposal ← writeProposal role.authority newAuthority superAdmin r.now 0
  return { r with vaultTransfers := Function.update r.vaultTransfers vault (some proposal) }

def acceptCustodyAuthority (r : Registry) (newAuthority : Pubkey) (vault : Nat) : Except RegistryError Registry := do
  let role ← okOr (r.vaults vault) .accountNotInitialized
  require (role.running = true) .invalidVaultState
  let _ ← okOr (r.admins newAuthority) .accountNotInitialized
  let transfer ← okOr (r.vaultTransfers vault) .accountNotInitialized
  require (transfer.currentAuthority = role.authority ∧ transfer.proposedBy = r.platform.admin ∧
    transfer.newAuthority = newAuthority) .invalidAuthorityTransfer
  requireNotExpired r.now transfer
  return { r with
    vaults := Function.update r.vaults vault (some { role with authority := newAuthority })
    vaultTransfers := Function.update r.vaultTransfers vault none }

def cancelCustodyAuthorityTransfer (r : Registry) (canceller : Pubkey) (vault : Nat) :
    Except RegistryError Registry := do
  let role ← okOr (r.vaults vault) .accountNotInitialized
  let _ ← okOr (r.vaultTransfers vault) .accountNotInitialized
  require (canceller = r.platform.admin ∨ (canceller = role.authority ∧ isActiveAdmin r canceller)) .unauthorized
  return { r with vaultTransfers := Function.update r.vaultTransfers vault none }

end Mancipatio.Authority
