import Mancipatio.Library.Execution
import Mancipatio.Authority.Issuer

/-!
# Runs of the role instructions

Any interleaving of the role instructions with a forward clock, changes of the program's upgrade
authority and changes of the blocklist. The runtime takes no signature for the default key.
-/

namespace Mancipatio.Authority
open Checked Execution

inductive RegistryLabel where
  | setPause (admin : Pubkey) (paused : Bool)
  | setPauseFlags (authority : Pubkey) (setMask clearMask : PauseFlags)
  | proposeAdmin (superAdmin newAdmin : Pubkey)
  | addAdmin (newAdmin : Pubkey)
  | cancelAdminProposal (canceller newAdmin : Pubkey)
  | removeAdmin (superAdmin admin : Pubkey)
  | proposePlatformAdmin (authority newAdmin : Pubkey)
  | acceptPlatformAdmin (newAdmin : Pubkey)
  | cancelPlatformAdminTransfer (canceller : Pubkey)
  | proposePlatformRecovery (upgradeAuthority newAdmin : Pubkey)
  | cancelPlatformRecovery (canceller : Pubkey)
  | executePlatformRecovery (newAdmin : Pubkey)
  | openCustodyVault (authority : Pubkey) (vault : Nat)
  | closeCustodyVault (vault : Nat)
  | proposeCustodyAuthority (superAdmin : Pubkey) (vault : Nat) (newAuthority : Pubkey)
  | acceptCustodyAuthority (newAuthority : Pubkey) (vault : Nat)
  | cancelCustodyAuthorityTransfer (canceller : Pubkey) (vault : Nat)
  | registerIssuer (authority : Pubkey) (issuer : Nat)
  | verifyIssuerKyb (admin : Pubkey) (issuer : Nat) (approved : Bool)
  | createAsset (authority : Pubkey) (issuer : Nat)
  | setIssuerPermissions (superAdmin : Pubkey) (issuer : Nat) (capabilities : BitVec 8)
  | recoverIssuerRegistration (superAdmin newAuthority : Pubkey) (issuer : Nat)
  | proposeIssuerAuthority (authority : Pubkey) (issuer : Nat) (newAuthority : Pubkey)
  | acceptIssuerAuthority (newAuthority : Pubkey) (issuer : Nat)
  | cancelIssuerAuthorityTransfer (authority : Pubkey) (issuer : Nat)
  | proposeIssuerRecovery (superAdmin : Pubkey) (issuer : Nat) (newAuthority : Pubkey)
  | cancelIssuerRecovery (canceller : Pubkey) (issuer : Nat)
  | executeIssuerRecovery (newAuthority : Pubkey) (issuer : Nat)
  | setUpgradeAuthority (upgradeAuthority : Option Pubkey)
  | setBlocked (wallet : Pubkey) (blocked : Bool)
  | tick (seconds : Nat)
  deriving DecidableEq, Repr

instance : Inhabited RegistryLabel := ⟨.tick 0⟩

def RegistryLabel.signers : RegistryLabel → List Pubkey
  | .setPause signer _ | .setPauseFlags signer _ _ | .proposeAdmin signer _ | .addAdmin signer
  | .cancelAdminProposal signer _ | .removeAdmin signer _ | .proposePlatformAdmin signer _
  | .acceptPlatformAdmin signer | .cancelPlatformAdminTransfer signer | .proposePlatformRecovery signer _
  | .cancelPlatformRecovery signer | .executePlatformRecovery signer | .openCustodyVault signer _
  | .proposeCustodyAuthority signer _ _ | .acceptCustodyAuthority signer _
  | .cancelCustodyAuthorityTransfer signer _ | .registerIssuer signer _ | .verifyIssuerKyb signer _ _
  | .createAsset signer _ | .setIssuerPermissions signer _ _ | .proposeIssuerAuthority signer _ _
  | .acceptIssuerAuthority signer _ | .cancelIssuerAuthorityTransfer signer _ | .proposeIssuerRecovery signer _ _
  | .cancelIssuerRecovery signer _ | .executeIssuerRecovery signer _ => [signer]
  | .recoverIssuerRegistration superAdmin newAuthority _ => [superAdmin, newAuthority]
  | .closeCustodyVault _ | .setUpgradeAuthority _ | .setBlocked _ _ | .tick _ => []

def handle (r : Registry) : RegistryLabel → Except RegistryError Registry
  | .setPause admin paused => setPause r admin paused
  | .setPauseFlags authority setMask clearMask => setPauseFlags r authority setMask clearMask
  | .proposeAdmin superAdmin newAdmin => proposeAdmin r superAdmin newAdmin
  | .addAdmin newAdmin => addAdmin r newAdmin
  | .cancelAdminProposal canceller newAdmin => cancelAdminProposal r canceller newAdmin
  | .removeAdmin superAdmin admin => removeAdmin r superAdmin admin
  | .proposePlatformAdmin authority newAdmin => proposePlatformAdmin r authority newAdmin
  | .acceptPlatformAdmin newAdmin => acceptPlatformAdmin r newAdmin
  | .cancelPlatformAdminTransfer canceller => cancelPlatformAdminTransfer r canceller
  | .proposePlatformRecovery upgradeAuthority newAdmin => proposePlatformRecovery r upgradeAuthority newAdmin
  | .cancelPlatformRecovery canceller => cancelPlatformRecovery r canceller
  | .executePlatformRecovery newAdmin => executePlatformRecovery r newAdmin
  | .openCustodyVault authority vault => openCustodyVault r authority vault
  | .closeCustodyVault vault => closeCustodyVault r vault
  | .proposeCustodyAuthority superAdmin vault newAuthority => proposeCustodyAuthority r superAdmin vault newAuthority
  | .acceptCustodyAuthority newAuthority vault => acceptCustodyAuthority r newAuthority vault
  | .cancelCustodyAuthorityTransfer canceller vault => cancelCustodyAuthorityTransfer r canceller vault
  | .registerIssuer authority issuer => registerIssuer r authority issuer
  | .verifyIssuerKyb admin issuer approved => verifyIssuerKyb r admin issuer approved
  | .createAsset authority issuer => createAsset r authority issuer
  | .setIssuerPermissions superAdmin issuer capabilities => setIssuerPermissions r superAdmin issuer capabilities
  | .recoverIssuerRegistration superAdmin newAuthority issuer =>
      recoverIssuerRegistration r superAdmin newAuthority issuer
  | .proposeIssuerAuthority authority issuer newAuthority => proposeIssuerAuthority r authority issuer newAuthority
  | .acceptIssuerAuthority newAuthority issuer => acceptIssuerAuthority r newAuthority issuer
  | .cancelIssuerAuthorityTransfer authority issuer => cancelIssuerAuthorityTransfer r authority issuer
  | .proposeIssuerRecovery superAdmin issuer newAuthority => proposeIssuerRecovery r superAdmin issuer newAuthority
  | .cancelIssuerRecovery canceller issuer => cancelIssuerRecovery r canceller issuer
  | .executeIssuerRecovery newAuthority issuer => executeIssuerRecovery r newAuthority issuer
  | .setUpgradeAuthority upgradeAuthority => .ok { r with upgradeAuthority }
  | .setBlocked wallet blocked => .ok { r with blocked := Function.update r.blocked wallet blocked }
  | .tick seconds => .ok { r with now := r.now + seconds }

def step (r : Registry) (label : RegistryLabel) : Except RegistryError Registry := do
  require (label.signers.all (· ≠ 0) = true) .missingSignature
  handle r label

/-! ## What a step does -/

structure Same (r r' : Registry) : Prop where
  admin : r'.platform.admin = r.platform.admin
  pauseFlags : r'.platform.pauseFlags = r.platform.pauseFlags
  admins : r'.admins = r.admins
  pendingAdmins : r'.pendingAdmins = r.pendingAdmins
  transfer : r'.transfer = r.transfer
  recovery : r'.recovery = r.recovery
  vaultTransfers : r'.vaultTransfers = r.vaultTransfers
  issuerRecoveries : r'.issuerRecoveries = r.issuerRecoveries
  issuers : ∀ issuer record, r.issuers issuer = some record →
    ∃ record', r'.issuers issuer = some record' ∧ record'.authority = record.authority
  now : r.now ≤ r'.now

def RegistryLabel.writesRoles : RegistryLabel → Bool
  | .setPause _ _ | .setPauseFlags _ _ _ | .openCustodyVault _ _ | .closeCustodyVault _ | .registerIssuer _ _
  | .verifyIssuerKyb _ _ _ | .createAsset _ _ | .setIssuerPermissions _ _ _ | .proposeIssuerAuthority _ _ _
  | .cancelIssuerAuthorityTransfer _ _ | .setUpgradeAuthority _ | .setBlocked _ _ | .tick _ => false
  | _ => true

inductive Effect (r : Registry) : RegistryLabel → Registry → Prop
  | paused {label pauseFlags} : label.writesRoles = false →
      (¬ r.platform.bootstrapOpen → ¬ { r.platform with pauseFlags }.bootstrapOpen) →
      Effect r label { r with platform := { r.platform with pauseFlags } }
  | proposedAdmin {newAdmin} : newAdmin ≠ 0 →
      Effect r (.proposeAdmin r.platform.admin newAdmin)
        { r with
          pendingAdmins := Function.update r.pendingAdmins newAdmin
            (some { newAdmin, proposedBy := r.platform.admin, window := windowAt r.now adminTimelockSecs }) }
  | addedAdmin {newAdmin pending} : r.pendingAdmins newAdmin = some pending →
      pending.proposedBy = r.platform.admin → r.admins newAdmin = none →
      effectiveEta r.platform pending.window ≤ r.now → r.now < pending.window.expiresAt →
      Effect r (.addAdmin newAdmin)
        { r with
          admins := Function.update r.admins newAdmin (some { admin := newAdmin, addedBy := pending.proposedBy })
          pendingAdmins := Function.update r.pendingAdmins newAdmin none }
  | cancelledAdminProposal {canceller newAdmin} :
      Effect r (.cancelAdminProposal canceller newAdmin)
        { r with pendingAdmins := Function.update r.pendingAdmins newAdmin none }
  | removedAdmin {admin} :
      Effect r (.removeAdmin r.platform.admin admin) { r with admins := Function.update r.admins admin none }
  | proposedTransfer {newAdmin} : newAdmin ≠ 0 → newAdmin ≠ r.platform.admin →
      Effect r (.proposePlatformAdmin r.platform.admin newAdmin)
        { r with
          transfer := some
            { currentAuthority := r.platform.admin, newAuthority := newAdmin, proposedBy := r.platform.admin,
              window := windowAt r.now superAdminRotationTimelockSecs } }
  | accepted {newAdmin transfer} : newAdmin ≠ 0 → r.transfer = some transfer →
      transfer.currentAuthority = r.platform.admin → transfer.newAuthority = newAdmin →
      effectiveEta r.platform transfer.window ≤ r.now → r.now < transfer.window.expiresAt → ¬ recoveryLive r →
      Effect r (.acceptPlatformAdmin newAdmin)
        { r with
          admins := Function.update (Function.update r.admins r.platform.admin none) newAdmin
            (some { admin := newAdmin, addedBy := r.platform.admin })
          platform := { r.platform with admin := newAdmin }
          transfer := none }
  | cancelledTransfer {canceller} : Effect r (.cancelPlatformAdminTransfer canceller) { r with transfer := none }
  | proposedRecovery {upgradeAuthority newAdmin} : newAdmin ≠ 0 → newAdmin ≠ r.platform.admin →
      Effect r (.proposePlatformRecovery upgradeAuthority newAdmin)
        { r with
          recovery := some
            { currentAdmin := r.platform.admin, newAdmin, proposedBy := upgradeAuthority,
              window := windowAt r.now platformRecoveryDelaySecs } }
  | cancelledRecovery {canceller} : Effect r (.cancelPlatformRecovery canceller) { r with recovery := none }
  | executed {newAdmin recovery} : newAdmin ≠ 0 → r.recovery = some recovery →
      recovery.currentAdmin = r.platform.admin → recovery.newAdmin = newAdmin →
      recovery.window.eta ≤ r.now → r.now < recovery.window.expiresAt →
      Effect r (.executePlatformRecovery newAdmin)
        { r with
          admins := Function.update (Function.update r.admins r.platform.admin none) newAdmin
            (some { admin := newAdmin, addedBy := r.platform.admin })
          platform := { r.platform with admin := newAdmin }
          transfer := r.transfer.map AuthorityProposal.retired
          recovery := none }
  | proposedCustody {vault newAuthority} {role : VaultRole} :
      Effect r (.proposeCustodyAuthority r.platform.admin vault newAuthority)
        { r with
          vaultTransfers := Function.update r.vaultTransfers vault
            (some { currentAuthority := role.authority, newAuthority, proposedBy := r.platform.admin,
                    window := windowAt r.now 0 }) }
  | acceptedCustody {vault newAuthority transfer} {role : VaultRole} : r.vaultTransfers vault = some transfer →
      transfer.proposedBy = r.platform.admin → r.now < transfer.window.expiresAt →
      Effect r (.acceptCustodyAuthority newAuthority vault)
        { r with
          vaults := Function.update r.vaults vault (some { role with authority := newAuthority })
          vaultTransfers := Function.update r.vaultTransfers vault none }
  | cancelledCustody {canceller vault} :
      Effect r (.cancelCustodyAuthorityTransfer canceller vault)
        { r with vaultTransfers := Function.update r.vaultTransfers vault none }
  | recoveredRegistration {newAuthority issuer record kybStatus} : newAuthority ≠ 0 →
      r.issuers issuer = some record →
      Effect r (.recoverIssuerRegistration r.platform.admin newAuthority issuer)
        { r with
          issuers := Function.update r.issuers issuer (some { record with authority := newAuthority, kybStatus }) }
  | rotatedIssuer {newAuthority issuer record issuerTransfers permissions} : newAuthority ≠ 0 →
      r.issuers issuer = some record →
      Effect r (.acceptIssuerAuthority newAuthority issuer)
        { r with
          issuers := Function.update r.issuers issuer (some { record with authority := newAuthority })
          issuerTransfers
          permissions
          issuerRecoveries := Function.update r.issuerRecoveries issuer
            ((r.issuerRecoveries issuer).map IssuerRecovery.retired) }
  | proposedIssuerRecovery {issuer record newAuthority} : r.issuers issuer = some record →
      Effect r (.proposeIssuerRecovery r.platform.admin issuer newAuthority)
        { r with
          issuerRecoveries := Function.update r.issuerRecoveries issuer
            (some { currentAuthority := record.authority, newAuthority, proposedBy := r.platform.admin,
                    window := windowAt r.now issuerRecoveryDelaySecs }) }
  | cancelledIssuerRecovery {canceller issuer} :
      Effect r (.cancelIssuerRecovery canceller issuer)
        { r with issuerRecoveries := Function.update r.issuerRecoveries issuer none }
  | executedIssuerRecovery {newAuthority issuer record recovery issuerTransfers permissions} : newAuthority ≠ 0 →
      r.issuers issuer = some record → r.issuerRecoveries issuer = some recovery →
      recovery.currentAuthority = record.authority → recovery.proposedBy = r.platform.admin →
      r.now < recovery.window.expiresAt →
      Effect r (.executeIssuerRecovery newAuthority issuer)
        { r with
          issuers := Function.update r.issuers issuer (some { record with authority := newAuthority })
          issuerTransfers
          permissions
          issuerRecoveries := Function.update r.issuerRecoveries issuer none }
  | elsewhere {label r'} : label.writesRoles = false → Same r r' → Effect r label r'

theorem same_refl (r : Registry) : Same r r :=
  ⟨rfl, rfl, rfl, rfl, rfl, rfl, rfl, rfl, fun _ record stored => ⟨record, stored, rfl⟩, Int.le_refl _⟩

theorem same_issuers {r : Registry} {issuer : Nat} {record record' : Issuer} (platform : Platform)
    (admin : platform.admin = r.platform.admin) (flags : platform.pauseFlags = r.platform.pauseFlags)
    (stored : r.issuers issuer = some record) (authority : record'.authority = record.authority) :
    Same r { r with platform, issuers := Function.update r.issuers issuer (some record') } := by
  refine { same_refl r with admin, pauseFlags := flags, issuers := ?_ }
  intro i old found
  by_cases same : i = issuer
  · subst same
    obtain rfl : record = old := Option.some.inj (stored.symm.trans found)
    exact ⟨record', by simp, authority⟩
  · exact ⟨old, by simpa [same] using found, rfl⟩

theorem setPause_effect {r r' : Registry} {admin : Pubkey} {paused : Bool}
    (set : setPause r admin paused = .ok r') : Effect r (.setPause admin paused) r' := by
  simp only [setPause, bind_eq_ok, pure_eq_ok] at set
  obtain ⟨-, -, rfl⟩ := set
  apply Effect.paused rfl
  intro closed
  rw [bootstrapOpen_iff] at closed ⊢
  cases paused with
  | true => simpa [pauseOnboarding] using closed
  | false => simp [closed]

theorem setPauseFlags_effect {r r' : Registry} {authority : Pubkey} {setMask clearMask : PauseFlags}
    (set : setPauseFlags r authority setMask clearMask = .ok r') :
    Effect r (.setPauseFlags authority setMask clearMask) r' := by
  simp only [setPauseFlags, bind_eq_ok, require_eq_ok, pure_eq_ok, exists_const] at set
  obtain ⟨-, ⟨defined, -⟩, -, -, rfl⟩ := set
  apply Effect.paused rfl
  intro closed
  rw [bootstrapOpen_iff] at closed ⊢
  have unset : (setMask &&& ~~~ pauseFlagsAll)[7] = false := by
    rw [defined]
    rfl
  simp only [pauseFlagsAll, BitVec.getElem_and, BitVec.getElem_not] at unset
  split <;> simp_all

theorem installPlatformAdmin_ok {r r' : Registry} {newAdmin : Pubkey}
    (installed : installPlatformAdmin r newAdmin = .ok r') :
    r' = { r with
      admins := Function.update (Function.update r.admins r.platform.admin none) newAdmin
        (some { admin := newAdmin, addedBy := r.platform.admin })
      platform := { r.platform with admin := newAdmin } } := by
  simp only [installPlatformAdmin, bind_eq_ok, pure_eq_ok] at installed
  obtain ⟨-, -, rfl⟩ := installed
  rfl

theorem validateNewAuthority_ok {current proposed : Pubkey} {u : Unit} :
    validateNewAuthority current proposed = .ok u ↔ proposed ≠ 0 ∧ proposed ≠ current := by
  simp [validateNewAuthority]

theorem step_effect {r r' : Registry} {label : RegistryLabel} (stepped : step r label = .ok r') :
    Effect r label r' := by
  simp only [step, bind_eq_ok, require_eq_ok, exists_const] at stepped
  obtain ⟨signed, stepped⟩ := stepped
  cases label with
  | setPause admin paused => exact setPause_effect stepped
  | setPauseFlags authority setMask clearMask => exact setPauseFlags_effect stepped
  | proposeAdmin superAdmin newAdmin =>
      simp only [handle, proposeAdmin, bind_eq_ok, require_eq_ok, pure_eq_ok, exists_const] at stepped
      obtain ⟨rfl, -, nonzero, window, opened, rfl⟩ := stepped
      rw [openWindow_ok opened]
      exact .proposedAdmin nonzero
  | addAdmin newAdmin =>
      simp only [handle, addAdmin, bind_eq_ok, okOr_eq_ok, require_eq_ok, requireWindow_ok, pure_eq_ok,
        exists_const] at stepped
      obtain ⟨pending, stored, proposer, fresh, ⟨matured, unexpired⟩, rfl⟩ := stepped
      exact .addedAdmin stored proposer fresh matured unexpired
  | cancelAdminProposal canceller newAdmin =>
      simp only [handle, cancelAdminProposal, bind_eq_ok, pure_eq_ok] at stepped
      obtain ⟨-, -, -, -, rfl⟩ := stepped
      exact .cancelledAdminProposal
  | removeAdmin superAdmin admin =>
      simp only [handle, removeAdmin, bind_eq_ok, require_eq_ok, pure_eq_ok, exists_const] at stepped
      obtain ⟨rfl, -, -, -, rfl⟩ := stepped
      exact .removedAdmin
  | proposePlatformAdmin authority newAdmin =>
      simp only [handle, proposePlatformAdmin, bind_eq_ok, require_eq_ok, validateNewAuthority_ok, pure_eq_ok,
        exists_const] at stepped
      obtain ⟨rfl, ⟨nonzero, fresh⟩, proposal, written, rfl⟩ := stepped
      rw [writeProposal_ok written]
      exact .proposedTransfer nonzero fresh
  | acceptPlatformAdmin newAdmin =>
      simp only [handle, acceptPlatformAdmin, bind_eq_ok, okOr_eq_ok, require_eq_ok, requireWindow_ok,
        pure_eq_ok, exists_const] at stepped
      obtain ⟨transfer, stored, ⟨current, -, named⟩, ⟨matured, unexpired⟩, idle, _, installed, rfl⟩ := stepped
      rw [installPlatformAdmin_ok installed]
      exact .accepted (by simpa [RegistryLabel.signers] using signed) stored current named matured unexpired idle
  | cancelPlatformAdminTransfer canceller =>
      simp only [handle, cancelPlatformAdminTransfer, bind_eq_ok, pure_eq_ok] at stepped
      obtain ⟨-, -, -, -, rfl⟩ := stepped
      exact .cancelledTransfer
  | proposePlatformRecovery upgradeAuthority newAdmin =>
      simp only [handle, proposePlatformRecovery, bind_eq_ok, require_eq_ok, validateNewAuthority_ok, pure_eq_ok,
        exists_const] at stepped
      obtain ⟨-, ⟨nonzero, fresh⟩, window, opened, rfl⟩ := stepped
      rw [openWindow_ok opened]
      exact .proposedRecovery nonzero fresh
  | cancelPlatformRecovery canceller =>
      simp only [handle, cancelPlatformRecovery, bind_eq_ok, pure_eq_ok] at stepped
      obtain ⟨-, -, -, -, rfl⟩ := stepped
      exact .cancelledRecovery
  | executePlatformRecovery newAdmin =>
      simp only [handle, executePlatformRecovery, bind_eq_ok, okOr_eq_ok, require_eq_ok, requireWindow_ok,
        pure_eq_ok, exists_const] at stepped
      obtain ⟨recovery, stored, ⟨current, named⟩, -, ⟨matured, unexpired⟩, _, installed, rfl⟩ := stepped
      rw [installPlatformAdmin_ok installed]
      exact .executed (by simpa [RegistryLabel.signers] using signed) stored current named matured unexpired
  | openCustodyVault authority vault =>
      simp only [handle, openCustodyVault, bind_eq_ok, pure_eq_ok] at stepped
      obtain ⟨-, -, -, -, rfl⟩ := stepped
      exact .elsewhere rfl { same_refl r with }
  | closeCustodyVault vault =>
      simp only [handle, closeCustodyVault, bind_eq_ok, pure_eq_ok] at stepped
      obtain ⟨-, -, -, -, rfl⟩ := stepped
      exact .elsewhere rfl { same_refl r with }
  | proposeCustodyAuthority superAdmin vault newAuthority =>
      simp only [handle, proposeCustodyAuthority, bind_eq_ok, require_eq_ok, pure_eq_ok, exists_const] at stepped
      obtain ⟨rfl, role, -, -, -, -, -, -, proposal, written, rfl⟩ := stepped
      rw [writeProposal_ok written]
      exact .proposedCustody
  | acceptCustodyAuthority newAuthority vault =>
      simp only [handle, acceptCustodyAuthority, requireNotExpired, bind_eq_ok, okOr_eq_ok, require_eq_ok,
        pure_eq_ok, exists_const] at stepped
      obtain ⟨role, -, -, -, -, transfer, stored, ⟨-, proposer, -⟩, unexpired, rfl⟩ := stepped
      exact .acceptedCustody stored proposer unexpired
  | cancelCustodyAuthorityTransfer canceller vault =>
      simp only [handle, cancelCustodyAuthorityTransfer, bind_eq_ok, pure_eq_ok] at stepped
      obtain ⟨-, -, -, -, -, -, rfl⟩ := stepped
      exact .cancelledCustody
  | registerIssuer authority issuer =>
      simp only [handle, registerIssuer, bind_eq_ok, require_eq_ok, pure_eq_ok, exists_const] at stepped
      obtain ⟨-, fresh, count, -, rfl⟩ := stepped
      refine .elsewhere rfl { same_refl r with issuers := ?_, admin := rfl, pauseFlags := rfl }
      intro i record stored
      have other : i ≠ issuer := by
        rintro rfl
        rw [fresh] at stored
        cases stored
      exact ⟨record, by simpa [other] using stored, rfl⟩
  | verifyIssuerKyb admin issuer approved =>
      simp only [handle, verifyIssuerKyb, bind_eq_ok, okOr_eq_ok, require_eq_ok, pure_eq_ok, exists_const] at stepped
      obtain ⟨-, record, stored, rfl⟩ := stepped
      exact .elsewhere rfl (same_issuers r.platform rfl rfl stored rfl)
  | createAsset authority issuer =>
      simp only [handle, createAsset, bind_eq_ok, okOr_eq_ok, require_eq_ok, pure_eq_ok, exists_const] at stepped
      obtain ⟨-, record, stored, -, -, count, -, rfl⟩ := stepped
      exact .elsewhere rfl (same_issuers r.platform rfl rfl stored rfl)
  | setIssuerPermissions superAdmin issuer capabilities =>
      simp only [handle, setIssuerPermissions, setPermissions, bind_eq_ok, pure_eq_ok] at stepped
      obtain ⟨-, -, -, -, -, -, -, -, rfl⟩ := stepped
      exact .elsewhere rfl { same_refl r with }
  | recoverIssuerRegistration superAdmin newAuthority issuer =>
      simp only [handle, recoverIssuerRegistration, bind_eq_ok, okOr_eq_ok, require_eq_ok, pure_eq_ok,
        exists_const] at stepped
      obtain ⟨rfl, record, stored, -, rfl⟩ := stepped
      exact .recoveredRegistration (by simp_all [RegistryLabel.signers]) stored
  | proposeIssuerAuthority authority issuer newAuthority =>
      simp only [handle, proposeIssuerAuthority, bind_eq_ok, pure_eq_ok] at stepped
      obtain ⟨-, -, -, -, -, -, -, -, -, -, rfl⟩ := stepped
      exact .elsewhere rfl { same_refl r with }
  | acceptIssuerAuthority newAuthority issuer =>
      simp only [handle, acceptIssuerAuthority, setPermissions, bind_eq_ok, okOr_eq_ok, require_eq_ok, pure_eq_ok,
        exists_const] at stepped
      obtain ⟨record, stored, transfer, -, -, -, -, -, -, rfl⟩ := stepped
      exact .rotatedIssuer (by simp_all [RegistryLabel.signers]) stored
  | cancelIssuerAuthorityTransfer authority issuer =>
      simp only [handle, cancelIssuerAuthorityTransfer, bind_eq_ok, pure_eq_ok] at stepped
      obtain ⟨-, -, -, -, -, -, rfl⟩ := stepped
      exact .elsewhere rfl { same_refl r with }
  | proposeIssuerRecovery superAdmin issuer newAuthority =>
      simp only [handle, proposeIssuerRecovery, bind_eq_ok, okOr_eq_ok, require_eq_ok, pure_eq_ok,
        exists_const] at stepped
      obtain ⟨rfl, record, stored, -, -, window, opened, rfl⟩ := stepped
      rw [openWindow_ok opened]
      exact .proposedIssuerRecovery stored
  | cancelIssuerRecovery canceller issuer =>
      simp only [handle, cancelIssuerRecovery, bind_eq_ok, pure_eq_ok] at stepped
      obtain ⟨-, -, -, -, -, -, rfl⟩ := stepped
      exact .cancelledIssuerRecovery
  | executeIssuerRecovery newAuthority issuer =>
      simp only [handle, executeIssuerRecovery, setPermissions, bind_eq_ok, okOr_eq_ok, require_eq_ok, pure_eq_ok,
        exists_const] at stepped
      obtain ⟨record, stored, recovery, staged, ⟨current, proposer, -⟩, -, unexpired, -, rfl⟩ := stepped
      exact .executedIssuerRecovery (by simp_all [RegistryLabel.signers]) stored staged current
        proposer unexpired
  | setUpgradeAuthority | setBlocked =>
      cases stepped
      exact .elsewhere rfl { same_refl r with }
  | tick seconds =>
      cases stepped
      exact .elsewhere rfl { same_refl r with now := by simp only; omega }

end Mancipatio.Authority
