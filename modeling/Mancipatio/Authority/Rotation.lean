import Mancipatio.Authority.Machine

/-!
# What an issuer's former authority keeps

The grants of an issuer lie at addresses derived from the issuer and an authority. They are closed, carried over and
created again, while sales and payout vaults keep copies of the authority that anyone may bring up to date.
-/

namespace Mancipatio.Authority
open Checked Execution

/-! ## The check of a capability -/

inductive ProofAccount where
  | admin (key : Pubkey)
  | permissions (issuer : Nat) (authority : Pubkey)
  | other
  deriving DecidableEq, Repr

def requireIssuerPermission (r : Registry) (proof : ProofAccount) (issuer : Nat) (authority : Pubkey) (capability : BitVec 8) :
    Except RegistryError Unit := do
  let record ← okOr (r.issuers issuer) .accountNotInitialized
  require (record.authority = authority) .unauthorized
  if proof = .admin authority ∧ isActiveAdmin r authority then return ()
  else do
    require (proof = .permissions issuer authority) .unauthorized
    let grant ← okOr (r.permissions issuer authority) .unauthorized
    require (grant.capabilities &&& capability = capability) .unauthorized

def authorityOf (r : Registry) (issuer : Nat) : Option Pubkey :=
  (r.issuers issuer).map Issuer.authority

def Empowered (r : Registry) (issuer : Nat) (capability : BitVec 8) : Prop :=
  ∃ proof authority, requireIssuerPermission r proof issuer authority capability = .ok ()

def holds (r : Registry) (issuer : Nat) (authority : Pubkey) (capability : BitVec 8) : Prop :=
  ∃ grant, r.permissions issuer authority = some grant ∧ grant.capabilities &&& capability = capability

theorem empowered_iff {r : Registry} {issuer : Nat} {capability : BitVec 8} :
    Empowered r issuer capability ↔ ∃ authority, authorityOf r issuer = some authority ∧
      (isActiveAdmin r authority ∨ holds r issuer authority capability) := by
  constructor
  · intro empowered
    obtain ⟨proof, authority, passed⟩ := empowered
    simp only [requireIssuerPermission, bind_eq_ok, okOr_eq_ok, require_eq_ok, exists_const] at passed
    obtain ⟨record, stored, rfl, passed⟩ := passed
    refine ⟨record.authority, by rw [authorityOf, stored]; rfl, ?_⟩
    split at passed
    case isTrue admin => exact .inl admin.2
    case isFalse =>
      simp only [bind_eq_ok, okOr_eq_ok, require_eq_ok, exists_const] at passed
      exact .inr passed.2
  · intro able
    obtain ⟨authority, seated, able⟩ := able
    obtain ⟨record, stored, rfl⟩ := Option.map_eq_some_iff.mp seated
    rcases able with admin | ⟨grant, granted, includes⟩
    · refine ⟨.admin record.authority, record.authority, ?_⟩
      simp [requireIssuerPermission, bind_eq_ok, stored, admin, require_eq_ok, okOr_eq_ok]
    · refine ⟨.permissions issuer record.authority, record.authority, ?_⟩
      simp [requireIssuerPermission, bind_eq_ok, stored, granted, includes, require_eq_ok, okOr_eq_ok]

def capabilities (r : Registry) (issuer : Nat) : BitVec 8 :=
  ((authorityOf r issuer).bind (r.permissions issuer)).elim 0 IssuerPermissions.capabilities

/-! ## Steps on the issuers -/

theorem authorityOf_written {r r' : Registry} {issuer : Nat} {record : Issuer}
    (written : r'.issuers = Function.update r.issuers issuer (some record)) (other : Nat) :
    authorityOf r' other = if other = issuer then some record.authority else authorityOf r other := by
  unfold authorityOf
  rw [written]
  by_cases here : other = issuer
  · subst here
    rw [Function.update_self, if_pos rfl, Option.map_some]
  · rw [Function.update_of_ne here, if_neg here]

def RegistryLabel.roleOf : RegistryLabel → Option Nat
  | .registerIssuer _ issuer | .setIssuerPermissions _ issuer _ | .recoverIssuerRegistration _ _ issuer
  | .proposeIssuerAuthority _ issuer _ | .acceptIssuerAuthority _ issuer | .cancelIssuerAuthorityTransfer _ issuer
  | .proposeIssuerRecovery _ issuer _ | .cancelIssuerRecovery _ issuer | .executeIssuerRecovery _ issuer => some issuer
  | _ => none

structure Unmoved (r r' : Registry) : Prop where
  authorities : ∀ issuer, authorityOf r' issuer = authorityOf r issuer
  transfers : r'.issuerTransfers = r.issuerTransfers
  recoveries : r'.issuerRecoveries = r.issuerRecoveries
  permissions : r'.permissions = r.permissions

inductive RoleEffect (r : Registry) : RegistryLabel → Registry → Prop
  | registered {authority issuer record platform} (fresh : r.issuers issuer = none) (named : record.authority = authority)
      (nonzero : authority ≠ 0) :
      RoleEffect r (.registerIssuer authority issuer)
        { r with issuers := Function.update r.issuers issuer (some record), platform }
  | granted {issuer capabilities record} (stored : r.issuers issuer = some record) :
      RoleEffect r (.setIssuerPermissions r.platform.admin issuer capabilities)
        (setPermissions r issuer record.authority (some { capabilities, updatedBy := r.platform.admin }))
  | staged {issuer newAuthority record} (stored : r.issuers issuer = some record) (other : newAuthority ≠ record.authority) :
      RoleEffect r (.proposeIssuerAuthority record.authority issuer newAuthority)
        { r with
          issuerTransfers := Function.update r.issuerTransfers issuer
            (some { currentAuthority := record.authority, newAuthority, proposedBy := record.authority, window := windowAt r.now 0 }) }
  | unstaged {authority issuer} :
      RoleEffect r (.cancelIssuerAuthorityTransfer authority issuer)
        { r with issuerTransfers := Function.update r.issuerTransfers issuer none }
  | accepted {newAuthority issuer record transfer} (stored : r.issuers issuer = some record)
      (pending : r.issuerTransfers issuer = some transfer) (current : transfer.currentAuthority = record.authority)
      (named : transfer.newAuthority = newAuthority) (inTime : r.now < transfer.window.expiresAt) (nonzero : newAuthority ≠ 0)
      (noAdmin : ¬ isActiveAdmin r newAuthority ∨ isActiveAdmin r record.authority) :
      RoleEffect r (.acceptIssuerAuthority newAuthority issuer)
        { setPermissions (setPermissions r issuer record.authority none) issuer newAuthority
            (some ((r.permissions issuer record.authority).getD { capabilities := 0, updatedBy := 0 })) with
          issuers := Function.update r.issuers issuer (some { record with authority := newAuthority })
          issuerTransfers := Function.update r.issuerTransfers issuer none
          issuerRecoveries := Function.update r.issuerRecoveries issuer ((r.issuerRecoveries issuer).map IssuerRecovery.retired) }
  | stagedRecovery {issuer newAuthority record} (stored : r.issuers issuer = some record) (other : newAuthority ≠ record.authority) :
      RoleEffect r (.proposeIssuerRecovery r.platform.admin issuer newAuthority)
        { r with
          issuerRecoveries := Function.update r.issuerRecoveries issuer
            (some { currentAuthority := record.authority, newAuthority, proposedBy := r.platform.admin,
                    window := windowAt r.now issuerRecoveryDelaySecs }) }
  | unstagedRecovery {canceller issuer} :
      RoleEffect r (.cancelIssuerRecovery canceller issuer)
        { r with issuerRecoveries := Function.update r.issuerRecoveries issuer none }
  | executed {newAuthority issuer record recovery} (stored : r.issuers issuer = some record)
      (pending : r.issuerRecoveries issuer = some recovery) (current : recovery.currentAuthority = record.authority)
      (proposer : recovery.proposedBy = r.platform.admin) (named : recovery.newAuthority = newAuthority)
      (due : recovery.window.eta ≤ r.now) (inTime : r.now < recovery.window.expiresAt) (nonzero : newAuthority ≠ 0)
      (noAdmin : ¬ isActiveAdmin r newAuthority) :
      RoleEffect r (.executeIssuerRecovery newAuthority issuer)
        { setPermissions (setPermissions r issuer record.authority none) issuer newAuthority none with
          issuers := Function.update r.issuers issuer (some { record with authority := newAuthority })
          issuerTransfers := Function.update r.issuerTransfers issuer ((r.issuerTransfers issuer).map AuthorityProposal.retired)
          issuerRecoveries := Function.update r.issuerRecoveries issuer none }
  | reassigned {newAuthority issuer record record'} (stored : r.issuers issuer = some record) (named : record'.authority = newAuthority)
      (nonzero : newAuthority ≠ 0) :
      RoleEffect r (.recoverIssuerRegistration r.platform.admin newAuthority issuer)
        { r with issuers := Function.update r.issuers issuer (some record') }
  | elsewhere {label r'} (quiet : label.roleOf = none) (unmoved : Unmoved r r') : RoleEffect r label r'

theorem unmoved_of_eq {r r' : Registry} (issuers : r'.issuers = r.issuers) (transfers : r'.issuerTransfers = r.issuerTransfers)
    (recoveries : r'.issuerRecoveries = r.issuerRecoveries) (permissions : r'.permissions = r.permissions) : Unmoved r r' where
  authorities := fun issuer => by rw [authorityOf, authorityOf, issuers]
  transfers := transfers
  recoveries := recoveries
  permissions := permissions

theorem unmoved_of_record {r : Registry} {issuer : Nat} {record record' : Issuer} (stored : r.issuers issuer = some record)
    (same : record'.authority = record.authority) : Unmoved r { r with issuers := Function.update r.issuers issuer (some record') } where
  authorities := by
    intro other
    rw [authorityOf_written rfl]
    split
    case isTrue here => rw [here, authorityOf, stored, Option.map_some, same]
    case isFalse => rfl
  transfers := rfl
  recoveries := rfl
  permissions := rfl

theorem role_effect {r r' : Registry} {label : RegistryLabel} (stepped : step r label = .ok r') : RoleEffect r label r' := by
  simp only [step, bind_eq_ok, require_eq_ok, exists_const] at stepped
  obtain ⟨signed, stepped⟩ := stepped
  cases label with
  | setPause admin paused =>
      simp only [handle, setPause, bind_eq_ok, pure_eq_ok] at stepped
      obtain ⟨-, -, rfl⟩ := stepped
      exact .elsewhere rfl (unmoved_of_eq rfl rfl rfl rfl)
  | setPauseFlags authority setMask clearMask =>
      simp only [handle, setPauseFlags, bind_eq_ok, pure_eq_ok] at stepped
      obtain ⟨-, -, -, -, -, -, -, -, rfl⟩ := stepped
      exact .elsewhere rfl (unmoved_of_eq rfl rfl rfl rfl)
  | proposeAdmin superAdmin newAdmin =>
      simp only [handle, proposeAdmin, bind_eq_ok, pure_eq_ok] at stepped
      obtain ⟨-, -, -, -, -, -, -, -, rfl⟩ := stepped
      exact .elsewhere rfl (unmoved_of_eq rfl rfl rfl rfl)
  | addAdmin newAdmin =>
      simp only [handle, addAdmin, bind_eq_ok, pure_eq_ok] at stepped
      obtain ⟨-, -, -, -, -, -, -, -, rfl⟩ := stepped
      exact .elsewhere rfl (unmoved_of_eq rfl rfl rfl rfl)
  | cancelAdminProposal canceller newAdmin =>
      simp only [handle, cancelAdminProposal, bind_eq_ok, pure_eq_ok] at stepped
      obtain ⟨-, -, -, -, rfl⟩ := stepped
      exact .elsewhere rfl (unmoved_of_eq rfl rfl rfl rfl)
  | removeAdmin superAdmin admin =>
      simp only [handle, removeAdmin, bind_eq_ok, pure_eq_ok] at stepped
      obtain ⟨-, -, -, -, -, -, rfl⟩ := stepped
      exact .elsewhere rfl (unmoved_of_eq rfl rfl rfl rfl)
  | proposePlatformAdmin authority newAdmin =>
      simp only [handle, proposePlatformAdmin, bind_eq_ok, pure_eq_ok] at stepped
      obtain ⟨-, -, -, -, -, -, rfl⟩ := stepped
      exact .elsewhere rfl (unmoved_of_eq rfl rfl rfl rfl)
  | acceptPlatformAdmin newAdmin =>
      simp only [handle, acceptPlatformAdmin, bind_eq_ok, pure_eq_ok] at stepped
      obtain ⟨-, -, -, -, -, -, -, -, _, installed, rfl⟩ := stepped
      rw [installPlatformAdmin_ok installed]
      exact .elsewhere rfl (unmoved_of_eq rfl rfl rfl rfl)
  | cancelPlatformAdminTransfer canceller =>
      simp only [handle, cancelPlatformAdminTransfer, bind_eq_ok, pure_eq_ok] at stepped
      obtain ⟨-, -, -, -, rfl⟩ := stepped
      exact .elsewhere rfl (unmoved_of_eq rfl rfl rfl rfl)
  | proposePlatformRecovery upgradeAuthority newAdmin =>
      simp only [handle, proposePlatformRecovery, bind_eq_ok, pure_eq_ok] at stepped
      obtain ⟨-, -, -, -, -, -, rfl⟩ := stepped
      exact .elsewhere rfl (unmoved_of_eq rfl rfl rfl rfl)
  | cancelPlatformRecovery canceller =>
      simp only [handle, cancelPlatformRecovery, bind_eq_ok, pure_eq_ok] at stepped
      obtain ⟨-, -, -, -, rfl⟩ := stepped
      exact .elsewhere rfl (unmoved_of_eq rfl rfl rfl rfl)
  | executePlatformRecovery newAdmin =>
      simp only [handle, executePlatformRecovery, bind_eq_ok, pure_eq_ok] at stepped
      obtain ⟨-, -, -, -, -, -, -, -, _, installed, rfl⟩ := stepped
      rw [installPlatformAdmin_ok installed]
      exact .elsewhere rfl (unmoved_of_eq rfl rfl rfl rfl)
  | openCustodyVault authority vault =>
      simp only [handle, openCustodyVault, bind_eq_ok, pure_eq_ok] at stepped
      obtain ⟨-, -, -, -, rfl⟩ := stepped
      exact .elsewhere rfl (unmoved_of_eq rfl rfl rfl rfl)
  | closeCustodyVault vault =>
      simp only [handle, closeCustodyVault, bind_eq_ok, pure_eq_ok] at stepped
      obtain ⟨-, -, -, -, rfl⟩ := stepped
      exact .elsewhere rfl (unmoved_of_eq rfl rfl rfl rfl)
  | proposeCustodyAuthority superAdmin vault newAuthority =>
      simp only [handle, proposeCustodyAuthority, bind_eq_ok, pure_eq_ok] at stepped
      obtain ⟨-, -, -, -, -, -, -, -, -, -, -, -, rfl⟩ := stepped
      exact .elsewhere rfl (unmoved_of_eq rfl rfl rfl rfl)
  | acceptCustodyAuthority newAuthority vault =>
      simp only [handle, acceptCustodyAuthority, bind_eq_ok, pure_eq_ok] at stepped
      obtain ⟨-, -, -, -, -, -, -, -, -, -, -, -, rfl⟩ := stepped
      exact .elsewhere rfl (unmoved_of_eq rfl rfl rfl rfl)
  | cancelCustodyAuthorityTransfer canceller vault =>
      simp only [handle, cancelCustodyAuthorityTransfer, bind_eq_ok, pure_eq_ok] at stepped
      obtain ⟨-, -, -, -, -, -, rfl⟩ := stepped
      exact .elsewhere rfl (unmoved_of_eq rfl rfl rfl rfl)
  | registerIssuer authority issuer =>
      simp only [handle, registerIssuer, bind_eq_ok, require_eq_ok, pure_eq_ok, exists_const] at stepped
      obtain ⟨-, fresh, count, -, rfl⟩ := stepped
      exact .registered fresh rfl (by simpa [RegistryLabel.signers] using signed)
  | verifyIssuerKyb admin issuer approved =>
      simp only [handle, verifyIssuerKyb, bind_eq_ok, okOr_eq_ok, require_eq_ok, pure_eq_ok, exists_const] at stepped
      obtain ⟨-, record, stored, rfl⟩ := stepped
      exact .elsewhere rfl (unmoved_of_record stored rfl)
  | createAsset authority issuer =>
      simp only [handle, createAsset, bind_eq_ok, okOr_eq_ok, require_eq_ok, pure_eq_ok, exists_const] at stepped
      obtain ⟨-, record, stored, -, -, count, -, rfl⟩ := stepped
      exact .elsewhere rfl (unmoved_of_record stored rfl)
  | setIssuerPermissions superAdmin issuer capabilities =>
      simp only [handle, setIssuerPermissions, bind_eq_ok, okOr_eq_ok, require_eq_ok, pure_eq_ok, exists_const] at stepped
      obtain ⟨rfl, record, stored, -, -, rfl⟩ := stepped
      exact .granted stored
  | recoverIssuerRegistration superAdmin newAuthority issuer =>
      simp only [handle, recoverIssuerRegistration, bind_eq_ok, okOr_eq_ok, require_eq_ok, pure_eq_ok, exists_const] at stepped
      obtain ⟨rfl, record, stored, -, rfl⟩ := stepped
      exact .reassigned stored rfl (by simp_all [RegistryLabel.signers])
  | proposeIssuerAuthority authority issuer newAuthority =>
      simp only [handle, proposeIssuerAuthority, bind_eq_ok, okOr_eq_ok, require_eq_ok, validateNewAuthority_ok, pure_eq_ok,
        exists_const] at stepped
      obtain ⟨record, stored, rfl, -, ⟨-, other⟩, transfer, written, rfl⟩ := stepped
      rw [writeProposal_ok written]
      exact .staged stored other
  | acceptIssuerAuthority newAuthority issuer =>
      simp only [handle, acceptIssuerAuthority, requireNotExpired, bind_eq_ok, okOr_eq_ok, require_eq_ok, pure_eq_ok,
        exists_const] at stepped
      obtain ⟨record, stored, transfer, pending, ⟨current, -, named⟩, -, inTime, noAdmin, rfl⟩ := stepped
      exact .accepted stored pending current named inTime (by simpa [RegistryLabel.signers] using signed) noAdmin
  | cancelIssuerAuthorityTransfer authority issuer =>
      simp only [handle, cancelIssuerAuthorityTransfer, bind_eq_ok, pure_eq_ok] at stepped
      obtain ⟨-, -, -, -, -, -, rfl⟩ := stepped
      exact .unstaged
  | proposeIssuerRecovery superAdmin issuer newAuthority =>
      simp only [handle, proposeIssuerRecovery, bind_eq_ok, okOr_eq_ok, require_eq_ok, validateNewAuthority_ok, pure_eq_ok,
        exists_const] at stepped
      obtain ⟨rfl, record, stored, ⟨-, other⟩, window, opened, rfl⟩ := stepped
      rw [openWindow_ok opened]
      exact .stagedRecovery stored other
  | cancelIssuerRecovery canceller issuer =>
      simp only [handle, cancelIssuerRecovery, bind_eq_ok, pure_eq_ok] at stepped
      obtain ⟨-, -, -, -, -, -, rfl⟩ := stepped
      exact .unstagedRecovery
  | executeIssuerRecovery newAuthority issuer =>
      simp only [handle, executeIssuerRecovery, bind_eq_ok, okOr_eq_ok, require_eq_ok, pure_eq_ok, exists_const] at stepped
      obtain ⟨record, stored, recovery, pending, ⟨current, proposer, named⟩, due, inTime, noAdmin, rfl⟩ := stepped
      exact .executed stored pending current proposer named due inTime (by simpa [RegistryLabel.signers] using signed) noAdmin
  | setUpgradeAuthority | setBlocked | tick =>
      cases stepped
      exact .elsewhere rfl (unmoved_of_eq rfl rfl rfl rfl)

/-! ## Powers come from the super admin -/

def RegistryLabel.appoints (key : Pubkey) : RegistryLabel → Prop
  | .addAdmin newAdmin | .acceptPlatformAdmin newAdmin | .executePlatformRecovery newAdmin => newAdmin = key
  | _ => False

theorem admin_written {admins : Pubkey → Option Admin} {key other : Pubkey} {entry : Option Admin}
    (admin : (Function.update admins key entry other).any (·.admin = other) = true) :
    other = key ∧ entry ≠ none ∨ (admins other).any (·.admin = other) = true := by
  by_cases here : other = key
  · subst here
    rw [Function.update_self] at admin
    refine .inl ⟨rfl, ?_⟩
    rintro rfl
    cases admin
  · rw [Function.update_of_ne here] at admin
    exact .inr admin

theorem admin_step {r r' : Registry} {label : RegistryLabel} {key : Pubkey} (stepped : step r label = .ok r')
    (admin : isActiveAdmin r' key) : isActiveAdmin r key ∨ label.appoints key := by
  unfold isActiveAdmin at admin ⊢
  cases step_effect stepped with
  | addedAdmin =>
      rcases admin_written admin with ⟨rfl, -⟩ | before
      · exact .inr rfl
      · exact .inl before
  | removedAdmin =>
      rcases admin_written admin with ⟨-, absurdly⟩ | before
      · exact absurd rfl absurdly
      · exact .inl before
  | accepted | executed =>
      rcases admin_written admin with ⟨rfl, -⟩ | installed
      · exact .inr rfl
      rcases admin_written installed with ⟨-, absurdly⟩ | before
      · exact absurd rfl absurdly
      · exact .inl before
  | elsewhere _ same => exact .inl (same.admins ▸ admin)
  | _ => exact .inl admin

inductive Empowers (r : Registry) (issuer : Nat) (capability : BitVec 8) : RegistryLabel → Prop
  | granted {capabilities} (includes : capabilities &&& capability = capability) :
      Empowers r issuer capability (.setIssuerPermissions r.platform.admin issuer capabilities)
  | appointed {label authority} (seated : authorityOf r issuer = some authority) (appoints : label.appoints authority) :
      Empowers r issuer capability label
  | registered {authority} (admin : isActiveAdmin r authority) : Empowers r issuer capability (.registerIssuer authority issuer)
  | reassigned {newAuthority} :
      Empowers r issuer capability (.recoverIssuerRegistration r.platform.admin newAuthority issuer)

def Clean (r : Registry) : Prop :=
  ∀ issuer, authorityOf r issuer = none → ∀ authority, r.permissions issuer authority = none

theorem permissions_elsewhere {r : Registry} {issuer other : Nat} {authority : Pubkey} {grant : Option IssuerPermissions}
    (apart : other ≠ issuer) : (setPermissions r issuer authority grant).permissions other = r.permissions other :=
  Function.update_of_ne apart _ _

theorem permissions_self {r : Registry} {issuer : Nat} {authority : Pubkey} {grant : Option IssuerPermissions} :
    (setPermissions r issuer authority grant).permissions issuer authority = grant := by
  show Function.update r.permissions issuer _ issuer authority = grant
  rw [Function.update_self, Function.update_self]

theorem permissions_rekeyed {r : Registry} {issuer other : Nat} {former successor : Pubkey} {closed opened : Option IssuerPermissions}
    (apart : other ≠ issuer) :
    (setPermissions (setPermissions r issuer former closed) issuer successor opened).permissions other = r.permissions other :=
  (permissions_elsewhere apart).trans (permissions_elsewhere apart)

theorem clean_step {r r' : Registry} {label : RegistryLabel} (clean : Clean r) (stepped : step r label = .ok r') : Clean r' := by
  intro other unregistered
  cases role_effect stepped with
  | registered fresh | reassigned =>
      rw [authorityOf_written rfl] at unregistered
      split at unregistered
      case isTrue => cases unregistered
      case isFalse => exact clean other unregistered
  | @granted issuer _ record stored =>
      by_cases here : other = issuer
      · subst here
        change authorityOf r other = none at unregistered
        rw [authorityOf, stored] at unregistered
        cases unregistered
      · rw [permissions_elsewhere here]
        exact clean other unregistered
  | @accepted _ issuer | @executed _ issuer =>
      rw [authorityOf_written rfl] at unregistered
      split at unregistered
      case isTrue => cases unregistered
      case isFalse here =>
        intro authority
        exact (congrFun (permissions_rekeyed here) authority).trans (clean other unregistered authority)
  | staged | unstaged | stagedRecovery | unstagedRecovery => exact clean other unregistered
  | elsewhere _ unmoved =>
      rw [unmoved.permissions]
      exact clean other (unmoved.authorities other ▸ unregistered)

theorem empowered_step {r r' : Registry} {label : RegistryLabel} {issuer : Nat} {capability : BitVec 8} (some' : capability ≠ 0)
    (clean : Clean r) (stepped : step r label = .ok r') (after : Empowered r' issuer capability) :
    Empowered r issuer capability ∨ Empowers r issuer capability label := by
  rw [empowered_iff] at after ⊢
  obtain ⟨authority, seated, able⟩ := after
  have admins : isActiveAdmin r' authority → isActiveAdmin r authority ∨ label.appoints authority := admin_step stepped
  cases role_effect stepped with
  | @registered _ other record platform fresh named =>
      rw [authorityOf_written rfl] at seated
      split at seated
      case isTrue here =>
        subst here
        obtain rfl := Option.some.inj seated
        rcases able with admin | ⟨grant, stored, -⟩
        · rcases admins admin with before | appointed
          · subst named
            exact .inr (.registered before)
          · cases appointed
        · rw [clean issuer (by rw [authorityOf, fresh]; rfl) record.authority] at stored
          cases stored
      case isFalse => exact .inl ⟨authority, seated, able⟩
  | @granted other capabilities record stored =>
      rcases able with admin | ⟨grant, found, includes⟩
      · exact .inl ⟨authority, seated, .inl admin⟩
      by_cases here : issuer = other
      · subst here
        change authorityOf r issuer = some authority at seated
        rw [authorityOf, stored] at seated
        obtain rfl := Option.some.inj seated
        rw [permissions_self] at found
        obtain rfl := Option.some.inj found
        exact .inr (.granted includes)
      · rw [permissions_elsewhere here] at found
        exact .inl ⟨authority, seated, .inr ⟨grant, found, includes⟩⟩
  | @accepted newAuthority other record transfer stored _ _ _ _ _ noAdmin =>
      rw [authorityOf_written rfl] at seated
      split at seated
      case isTrue here =>
        subst here
        obtain rfl := Option.some.inj seated
        refine .inl ⟨record.authority, by rw [authorityOf, stored]; rfl, ?_⟩
        rcases able with admin | ⟨grant, found, includes⟩
        · exact .inl (noAdmin.resolve_left fun never => never admin)
        · -- the incoming authority has what the outgoing one had, and no grant at all is a grant of nothing
          obtain rfl := Option.some.inj (permissions_self.symm.trans found)
          cases before : r.permissions issuer record.authority with
          | none =>
              rw [before] at includes
              exact absurd (includes.symm.trans (BitVec.zero_and)) some'
          | some grant =>
              rw [before] at includes
              exact .inr ⟨grant, before, includes⟩
      case isFalse here =>
        refine .inl ⟨authority, seated, able.imp_right ?_⟩
        intro held
        obtain ⟨grant, found, includes⟩ := held
        exact ⟨grant, (congrFun (permissions_rekeyed here) authority).symm.trans found, includes⟩
  | @executed newAuthority other record recovery stored _ _ _ _ _ _ _ noAdmin =>
      rw [authorityOf_written rfl] at seated
      split at seated
      case isTrue here =>
        subst here
        obtain rfl := Option.some.inj seated
        rcases able with admin | ⟨grant, found, -⟩
        · exact absurd admin noAdmin
        · cases permissions_self.symm.trans found
      case isFalse here =>
        refine .inl ⟨authority, seated, able.imp_right ?_⟩
        intro held
        obtain ⟨grant, found, includes⟩ := held
        exact ⟨grant, (congrFun (permissions_rekeyed here) authority).symm.trans found, includes⟩
  | @reassigned newAuthority other record record' stored named =>
      rw [authorityOf_written rfl] at seated
      split at seated
      case isTrue here =>
        subst here
        exact .inr .reassigned
      case isFalse => exact .inl ⟨authority, seated, able⟩
  | staged | unstaged | stagedRecovery | unstagedRecovery => exact .inl ⟨authority, seated, able⟩
  | elsewhere _ unmoved =>
      rw [unmoved.authorities] at seated
      rcases able with admin | ⟨grant, found, includes⟩
      · rcases admins admin with before | appointed
        · exact .inl ⟨authority, seated, .inl before⟩
        · exact .inr (.appointed seated appointed)
      · rw [unmoved.permissions] at found
        exact .inl ⟨authority, seated, .inr ⟨grant, found, includes⟩⟩

/-! ## What the live authority holds -/

def RegistryLabel.grants (issuer : Nat) (before : BitVec 8) : RegistryLabel → BitVec 8
  | .setIssuerPermissions _ other capabilities => if other = issuer then capabilities else before
  | .executeIssuerRecovery _ other => if other = issuer then 0 else before
  | _ => before

theorem grants_eq_self {label : RegistryLabel} (quiet : label.roleOf = none) (issuer : Nat) (before : BitVec 8) :
    label.grants issuer before = before := by
  cases label <;> first | rfl | cases quiet

def RegistryLabel.reassigns (issuer : Nat) : RegistryLabel → Prop
  | .recoverIssuerRegistration _ _ other => other = issuer
  | _ => False

theorem capabilities_congr {r r' : Registry} {issuer : Nat} (authority : authorityOf r' issuer = authorityOf r issuer)
    (permissions : r'.permissions issuer = r.permissions issuer) : capabilities r' issuer = capabilities r issuer := by
  rw [capabilities, capabilities, authority, permissions]

theorem capabilities_seated {r : Registry} {issuer : Nat} {authority : Pubkey} (seated : authorityOf r issuer = some authority) :
    capabilities r issuer = (r.permissions issuer authority).elim 0 IssuerPermissions.capabilities := by
  rw [capabilities, seated, Option.bind_some]

theorem authorityOf_stored {r : Registry} {issuer : Nat} {record : Issuer} (stored : r.issuers issuer = some record) :
    authorityOf r issuer = some record.authority := by
  rw [authorityOf, stored, Option.map_some]

theorem capabilities_step {r r' : Registry} {label : RegistryLabel} {issuer : Nat} (clean : Clean r)
    (stepped : step r label = .ok r') (kept : ¬ label.reassigns issuer) :
    capabilities r' issuer = label.grants issuer (capabilities r issuer) := by
  cases role_effect stepped with
  | @registered _ other record platform fresh =>
      by_cases here : issuer = other
      · subst here
        have unregistered : authorityOf r issuer = none := by rw [authorityOf, fresh, Option.map_none]
        rw [capabilities_seated ((authorityOf_written rfl issuer).trans (if_pos rfl))]
        show (r.permissions issuer record.authority).elim 0 IssuerPermissions.capabilities = capabilities r issuer
        rw [clean issuer unregistered record.authority, capabilities, unregistered]
        rfl
      · exact capabilities_congr ((authorityOf_written rfl issuer).trans (if_neg here)) rfl
  | @granted other granted record stored =>
      by_cases here : other = issuer
      · subst here
        have seated : authorityOf (setPermissions r other record.authority (some ⟨granted, r.platform.admin⟩)) other =
            some record.authority := authorityOf_stored stored
        rw [RegistryLabel.grants, if_pos rfl, capabilities_seated seated, permissions_self]
        rfl
      · rw [RegistryLabel.grants, if_neg here]
        exact capabilities_congr rfl (permissions_elsewhere (Ne.symm here))
  | @accepted newAuthority other record transfer stored =>
      show capabilities _ issuer = capabilities r issuer
      by_cases here : issuer = other
      · subst here
        rw [capabilities_seated ((authorityOf_written rfl issuer).trans (if_pos rfl)), capabilities_seated (authorityOf_stored stored)]
        refine (congrArg (Option.elim · 0 IssuerPermissions.capabilities) permissions_self).trans ?_
        cases r.permissions issuer record.authority <;> rfl
      · exact capabilities_congr ((authorityOf_written rfl issuer).trans (if_neg here)) (permissions_rekeyed here)
  | @executed newAuthority other record recovery stored =>
      by_cases here : other = issuer
      · subst here
        rw [RegistryLabel.grants, if_pos rfl, capabilities_seated ((authorityOf_written rfl other).trans (if_pos rfl))]
        exact congrArg (Option.elim · 0 IssuerPermissions.capabilities) permissions_self
      · rw [RegistryLabel.grants, if_neg here]
        exact capabilities_congr ((authorityOf_written rfl issuer).trans (if_neg (Ne.symm here))) (permissions_rekeyed (Ne.symm here))
  | @reassigned newAuthority other =>
      exact capabilities_congr ((authorityOf_written rfl issuer).trans (if_neg fun same => kept same.symm)) rfl
  | staged | unstaged | stagedRecovery | unstagedRecovery => exact capabilities_congr rfl rfl
  | elsewhere quiet unmoved =>
      rw [grants_eq_self quiet]
      exact capabilities_congr (unmoved.authorities issuer) (congrFun unmoved.permissions issuer)

/-! ## Proposals -/

def liveTransfer (issuer : Nat) (r : Registry) : Option AuthorityProposal :=
  (r.issuerTransfers issuer).filter (·.currentAuthority ≠ 0)

def liveRecovery (issuer : Nat) (r : Registry) : Option IssuerRecovery :=
  (r.issuerRecoveries issuer).filter (·.currentAuthority ≠ 0)

def RegistryLabel.settlesTransfer (issuer : Nat) : RegistryLabel → Prop
  | .proposeIssuerAuthority _ other _ | .acceptIssuerAuthority _ other | .cancelIssuerAuthorityTransfer _ other
  | .executeIssuerRecovery _ other => other = issuer
  | _ => False

def RegistryLabel.settlesRecovery (issuer : Nat) : RegistryLabel → Prop
  | .proposeIssuerRecovery _ other _ | .executeIssuerRecovery _ other | .cancelIssuerRecovery _ other
  | .acceptIssuerAuthority _ other => other = issuer
  | _ => False

structure TransferStaged (issuer : Nat) (r : Registry) (label : RegistryLabel) (transfer : AuthorityProposal) : Prop where
  made : label = .proposeIssuerAuthority transfer.currentAuthority issuer transfer.newAuthority
  seated : authorityOf r issuer = some transfer.currentAuthority
  other : transfer.newAuthority ≠ transfer.currentAuthority
  window : transfer.window = windowAt r.now 0

structure RecoveryStaged (issuer : Nat) (r : Registry) (label : RegistryLabel) (recovery : IssuerRecovery) : Prop where
  made : label = .proposeIssuerRecovery recovery.proposedBy issuer recovery.newAuthority
  proposer : recovery.proposedBy = r.platform.admin
  seated : authorityOf r issuer = some recovery.currentAuthority
  other : recovery.newAuthority ≠ recovery.currentAuthority
  window : recovery.window = windowAt r.now issuerRecoveryDelaySecs

section proposals
variable {r r' : Registry} {label : RegistryLabel} {issuer : Nat}

theorem written_apart {β : Type} {slots : Nat → Option β} {p : β → Bool} {entry : Option β} {other : Nat} (apart : ¬ other = issuer) :
    (Function.update slots other entry issuer).filter p = (slots issuer).filter p :=
  congrArg (Option.filter p) (Function.update_of_ne (Ne.symm apart) _ _)

theorem written_here {β : Type} {slots : Nat → Option β} {p : β → Bool} {entry : Option β} {value : β}
    (live : (Function.update slots issuer entry issuer).filter p = some value) : entry = some value ∧ p value = true := by
  rw [Function.update_self] at live
  exact Option.filter_eq_some_iff.mp live

theorem transfer_step (stepped : step r label = .ok r') :
    label.settlesTransfer issuer ∧ (∀ v, liveTransfer issuer r' = some v → TransferStaged issuer r label v) ∨
      ¬ label.settlesTransfer issuer ∧ liveTransfer issuer r' = liveTransfer issuer r := by
  cases role_effect stepped with
  | registered | granted | reassigned | stagedRecovery | unstagedRecovery => exact .inr ⟨id, rfl⟩
  | @staged other newAuthority record stored apart =>
      by_cases here : other = issuer
      · subst here
        refine .inl ⟨rfl, ?_⟩
        intro transfer live
        obtain rfl := Option.some.inj (written_here live).1
        exact ⟨rfl, authorityOf_stored stored, apart, rfl⟩
      · exact .inr ⟨here, written_apart here⟩
  | @unstaged _ other | @accepted _ other =>
      by_cases here : other = issuer
      · subst here
        refine .inl ⟨rfl, ?_⟩
        intro transfer live
        cases (written_here live).1
      · exact .inr ⟨here, written_apart here⟩
  | @executed _ other =>
      by_cases here : other = issuer
      · subst here
        refine .inl ⟨rfl, ?_⟩
        intro transfer live
        obtain ⟨retired, nonzero⟩ := written_here live
        obtain ⟨old, -, rfl⟩ := Option.map_eq_some_iff.mp retired
        exact absurd rfl (of_decide_eq_true nonzero)
      · exact .inr ⟨here, written_apart here⟩
  | elsewhere quiet unmoved =>
      refine .inr ⟨?_, by rw [liveTransfer, liveTransfer, unmoved.transfers]⟩
      cases label <;> first | exact id | cases quiet

theorem recovery_step (stepped : step r label = .ok r') :
    label.settlesRecovery issuer ∧ (∀ v, liveRecovery issuer r' = some v → RecoveryStaged issuer r label v) ∨
      ¬ label.settlesRecovery issuer ∧ liveRecovery issuer r' = liveRecovery issuer r := by
  cases role_effect stepped with
  | registered | granted | reassigned | staged | unstaged => exact .inr ⟨id, rfl⟩
  | @stagedRecovery other newAuthority record stored apart =>
      by_cases here : other = issuer
      · subst here
        refine .inl ⟨rfl, ?_⟩
        intro recovery live
        obtain rfl := Option.some.inj (written_here live).1
        exact ⟨rfl, rfl, authorityOf_stored stored, apart, rfl⟩
      · exact .inr ⟨here, written_apart here⟩
  | @unstagedRecovery _ other | @executed _ other =>
      by_cases here : other = issuer
      · subst here
        refine .inl ⟨rfl, ?_⟩
        intro recovery live
        cases (written_here live).1
      · exact .inr ⟨here, written_apart here⟩
  | @accepted _ other =>
      by_cases here : other = issuer
      · subst here
        refine .inl ⟨rfl, ?_⟩
        intro recovery live
        obtain ⟨retired, nonzero⟩ := written_here live
        obtain ⟨old, -, rfl⟩ := Option.map_eq_some_iff.mp retired
        exact absurd rfl (of_decide_eq_true nonzero)
      · exact .inr ⟨here, written_apart here⟩
  | elsewhere quiet unmoved =>
      refine .inr ⟨?_, by rw [liveRecovery, liveRecovery, unmoved.recoveries]⟩
      cases label <;> first | exact id | cases quiet

theorem accept_guard {successor : Pubkey} (stepped : step r (.acceptIssuerAuthority successor issuer) = .ok r') :
    ∃ record transfer, r.issuers issuer = some record ∧ r.issuerTransfers issuer = some transfer ∧
      transfer.currentAuthority = record.authority ∧ transfer.newAuthority = successor ∧ r.now < transfer.window.expiresAt := by
  cases role_effect stepped with
  | accepted stored pending current named inTime => exact ⟨_, _, stored, pending, current, named, inTime⟩
  | elsewhere quiet => cases quiet

theorem execute_guard {successor : Pubkey} (stepped : step r (.executeIssuerRecovery successor issuer) = .ok r') :
    ∃ record recovery, r.issuers issuer = some record ∧ r.issuerRecoveries issuer = some recovery ∧
      recovery.currentAuthority = record.authority ∧ recovery.proposedBy = r.platform.admin ∧ recovery.newAuthority = successor ∧
      recovery.window.eta ≤ r.now := by
  cases role_effect stepped with
  | executed stored pending current proposer named due => exact ⟨_, _, stored, pending, current, proposer, named, due⟩
  | elsewhere quiet => cases quiet

def Signable (r : Registry) : Prop :=
  ∀ issuer authority, authorityOf r issuer = some authority → authority ≠ 0

theorem signable_written {other : Nat} {record : Issuer} (signable : Signable r) (nonzero : record.authority ≠ 0)
    (written : r'.issuers = Function.update r.issuers other (some record)) : Signable r' := by
  intro issuer authority seated
  rw [authorityOf_written written] at seated
  split at seated
  case isTrue =>
    obtain rfl := Option.some.inj seated
    exact nonzero
  case isFalse => exact signable issuer authority seated

theorem signable_step (signable : Signable r) (stepped : step r label = .ok r') : Signable r' := by
  cases role_effect stepped with
  | registered _ named nonzero => exact signable_written signable (named ▸ nonzero) rfl
  | reassigned _ named nonzero => exact signable_written signable (named ▸ nonzero) rfl
  | accepted _ _ _ _ _ nonzero => exact signable_written signable nonzero rfl
  | executed _ _ _ _ _ _ _ nonzero => exact signable_written signable nonzero rfl
  | granted | staged | unstaged | stagedRecovery | unstagedRecovery => exact signable
  | elsewhere _ unmoved =>
      intro issuer authority seated
      exact signable issuer authority (unmoved.authorities issuer ▸ seated)

end proposals

/-! ## Copies of the authority

A sale keeps the authority that opened it and a payout vault the sale's, until somebody brings the copy up to date.
The checks of these instructions that read no role only refuse more, and are left out.
-/

structure RoleCopy where
  issuer : Nat
  authority : Pubkey
  deriving DecidableEq, Repr

structure Offices where
  registry : Registry
  sales : Nat → Option RoleCopy
  founders : Nat → Option RoleCopy

inductive OfficeLabel where
  | role (label : RegistryLabel)
  | openSale (authority : Pubkey) (sale issuer : Nat)
  | openPayoutVault (authority : Pubkey) (sale : Nat)
  | syncSaleAuthority (sale issuer : Nat)
  | syncPayoutFounder (sale issuer : Nat)
  deriving DecidableEq, Repr

instance : Inhabited OfficeLabel := ⟨.role default⟩

def openSale (o : Offices) (authority : Pubkey) (sale issuer : Nat) : Except RegistryError Offices := do
  let record ← okOr (o.registry.issuers issuer) .accountNotInitialized
  require (record.authority = authority) .unauthorized
  require (o.sales sale = none) .accountAlreadyInUse
  return { o with sales := Function.update o.sales sale (some { issuer, authority }) }

def openPayoutVault (o : Offices) (authority : Pubkey) (sale : Nat) : Except RegistryError Offices := do
  let opened ← okOr (o.sales sale) .accountNotInitialized
  require (opened.authority = authority) .unauthorized
  require (o.founders sale = none) .accountAlreadyInUse
  return { o with founders := Function.update o.founders sale (some { issuer := opened.issuer, authority }) }

def syncCopy (r : Registry) (copies : Nat → Option RoleCopy) (sale issuer : Nat) : Except RegistryError (Nat → Option RoleCopy) := do
  let copy ← okOr (copies sale) .accountNotInitialized
  let record ← okOr (r.issuers issuer) .accountNotInitialized
  require (copy.issuer = issuer) .unauthorized
  return Function.update copies sale (some { copy with authority := record.authority })

def syncSaleAuthority (o : Offices) (sale issuer : Nat) : Except RegistryError Offices := do
  let sales ← syncCopy o.registry o.sales sale issuer
  return { o with sales }

def syncPayoutFounder (o : Offices) (sale issuer : Nat) : Except RegistryError Offices := do
  let founders ← syncCopy o.registry o.founders sale issuer
  return { o with founders }

def officeStep (o : Offices) : OfficeLabel → Except RegistryError Offices
  | .role label => do
      let registry ← step o.registry label
      return { o with registry }
  | .openSale authority sale issuer => openSale o authority sale issuer
  | .openPayoutVault authority sale => openPayoutVault o authority sale
  | .syncSaleAuthority sale issuer => syncSaleAuthority o sale issuer
  | .syncPayoutFounder sale issuer => syncPayoutFounder o sale issuer

def offices (registry : Registry) : Offices :=
  { registry, sales := fun _ => none, founders := fun _ => none }

def OfficeLabel.grants (issuer : Nat) (before : BitVec 8) : OfficeLabel → BitVec 8
  | .role label => label.grants issuer before
  | _ => before

def OfficeLabel.isRole (P : RegistryLabel → Prop) : OfficeLabel → Prop
  | .role label => P label
  | _ => False

def OfficeLabel.copiesSale (sale : Nat) : OfficeLabel → Prop
  | .openSale _ other _ | .syncSaleAuthority other _ => other = sale
  | _ => False

def OfficeLabel.copiesFounder (sale : Nat) : OfficeLabel → Prop
  | .openPayoutVault _ other | .syncPayoutFounder other _ => other = sale
  | _ => False

section office
variable {o o' : Offices} {label : OfficeLabel}

theorem office_registry (stepped : officeStep o label = .ok o') :
    (∃ role, label = .role role ∧ step o.registry role = .ok o'.registry) ∨ (∀ role, label ≠ .role role) ∧ o'.registry = o.registry := by
  cases label with
  | role role =>
      simp only [officeStep, bind_eq_ok, pure_eq_ok] at stepped
      obtain ⟨registry, moved, rfl⟩ := stepped
      exact .inl ⟨role, rfl, moved⟩
  | openSale | openPayoutVault | syncSaleAuthority | syncPayoutFounder =>
      simp only [officeStep, openSale, openPayoutVault, syncSaleAuthority, syncPayoutFounder, bind_eq_ok, pure_eq_ok] at stepped
      refine .inr ⟨by rintro role ⟨⟩, ?_⟩
      obtain ⟨-, -, -, -, -, -, rfl⟩ := stepped
      rfl

theorem office_slot {β : Type} {slot : Registry → Option β} {writes : RegistryLabel → Prop} {Q : Registry → RegistryLabel → β → Prop}
    (steps : ∀ {r label r'}, step r label = .ok r' →
      writes label ∧ (∀ v, slot r' = some v → Q r label v) ∨ ¬ writes label ∧ slot r' = slot r)
    (stepped : officeStep o label = .ok o') :
    label.isRole writes ∧ (∀ v, slot o'.registry = some v → ∃ role, label = .role role ∧ Q o.registry role v) ∨
      ¬ label.isRole writes ∧ slot o'.registry = slot o.registry := by
  rcases office_registry stepped with ⟨role, rfl, moved⟩ | ⟨other, same⟩
  · rcases steps moved with ⟨wrote, made⟩ | kept
    · exact .inl ⟨wrote, fun v live => ⟨role, rfl, made v live⟩⟩
    · exact .inr kept
  · refine .inr ⟨?_, by rw [same]⟩
    cases label with
    | role role => exact absurd rfl (other role)
    | _ => exact id

theorem syncCopy_ok {r : Registry} {copies copies' : Nat → Option RoleCopy} {sale issuer : Nat}
    (synced : syncCopy r copies sale issuer = .ok copies') :
    ∃ authority, authorityOf r issuer = some authority ∧ copies' = Function.update copies sale (some { issuer, authority }) := by
  simp only [syncCopy, bind_eq_ok, okOr_eq_ok, require_eq_ok, pure_eq_ok, exists_const] at synced
  obtain ⟨copy, -, record, stored, rfl, rfl⟩ := synced
  exact ⟨record.authority, authorityOf_stored stored, rfl⟩

theorem copies_written {copies copies' : Nat → Option RoleCopy} {Q : RoleCopy → Prop} {other : Nat} {written : RoleCopy} (sale : Nat)
    (table : copies' = Function.update copies other (some written)) (current : Q written) :
    other = sale ∧ (∀ copy, copies' sale = some copy → Q copy) ∨ ¬ other = sale ∧ copies' sale = copies sale := by
  subst table
  by_cases here : other = sale
  · subst here
    refine .inl ⟨rfl, ?_⟩
    intro copy found
    rw [Function.update_self] at found
    obtain rfl := Option.some.inj found
    exact current
  · exact .inr ⟨here, Function.update_of_ne (Ne.symm here) _ _⟩

theorem sale_step {sale : Nat} (stepped : officeStep o label = .ok o') :
    label.copiesSale sale ∧ (∀ copy, o'.sales sale = some copy → authorityOf o.registry copy.issuer = some copy.authority) ∨
      ¬ label.copiesSale sale ∧ o'.sales sale = o.sales sale := by
  cases label with
  | role role =>
      simp only [officeStep, bind_eq_ok, pure_eq_ok] at stepped
      obtain ⟨-, -, rfl⟩ := stepped
      exact .inr ⟨id, rfl⟩
  | openPayoutVault authority other =>
      simp only [officeStep, openPayoutVault, bind_eq_ok, pure_eq_ok] at stepped
      obtain ⟨-, -, -, -, -, -, rfl⟩ := stepped
      exact .inr ⟨id, rfl⟩
  | syncPayoutFounder other issuer =>
      simp only [officeStep, syncPayoutFounder, bind_eq_ok, pure_eq_ok] at stepped
      obtain ⟨-, -, rfl⟩ := stepped
      exact .inr ⟨id, rfl⟩
  | openSale authority other issuer =>
      simp only [officeStep, openSale, bind_eq_ok, okOr_eq_ok, require_eq_ok, pure_eq_ok, exists_const] at stepped
      obtain ⟨record, stored, rfl, -, rfl⟩ := stepped
      exact copies_written sale rfl (authorityOf_stored stored)
  | syncSaleAuthority other issuer =>
      simp only [officeStep, syncSaleAuthority, bind_eq_ok, pure_eq_ok] at stepped
      obtain ⟨sales, synced, rfl⟩ := stepped
      obtain ⟨authority, seated, table⟩ := syncCopy_ok synced
      exact copies_written (Q := fun copy => authorityOf o.registry copy.issuer = some copy.authority) sale table seated

def FounderCopied (sale : Nat) (o : Offices) (label : OfficeLabel) (copy : RoleCopy) : Prop :=
  label = .openPayoutVault copy.authority sale ∧ o.sales sale = some copy ∨
    label = .syncPayoutFounder sale copy.issuer ∧ authorityOf o.registry copy.issuer = some copy.authority

theorem founder_step {sale : Nat} (stepped : officeStep o label = .ok o') :
    label.copiesFounder sale ∧ (∀ copy, o'.founders sale = some copy → FounderCopied sale o label copy) ∨
      ¬ label.copiesFounder sale ∧ o'.founders sale = o.founders sale := by
  cases label with
  | role role =>
      simp only [officeStep, bind_eq_ok, pure_eq_ok] at stepped
      obtain ⟨-, -, rfl⟩ := stepped
      exact .inr ⟨id, rfl⟩
  | openSale authority other issuer =>
      simp only [officeStep, openSale, bind_eq_ok, pure_eq_ok] at stepped
      obtain ⟨-, -, -, -, -, -, rfl⟩ := stepped
      exact .inr ⟨id, rfl⟩
  | syncSaleAuthority other issuer =>
      simp only [officeStep, syncSaleAuthority, bind_eq_ok, pure_eq_ok] at stepped
      obtain ⟨-, -, rfl⟩ := stepped
      exact .inr ⟨id, rfl⟩
  | openPayoutVault authority other =>
      simp only [officeStep, openPayoutVault, bind_eq_ok, okOr_eq_ok, require_eq_ok, pure_eq_ok, exists_const] at stepped
      obtain ⟨opened, stored, rfl, -, rfl⟩ := stepped
      by_cases here : other = sale
      · subst here
        exact copies_written (Q := FounderCopied other o _) other rfl (.inl ⟨rfl, stored⟩)
      · exact .inr ⟨here, Function.update_of_ne (Ne.symm here) _ _⟩
  | syncPayoutFounder other issuer =>
      simp only [officeStep, syncPayoutFounder, bind_eq_ok, pure_eq_ok] at stepped
      obtain ⟨founders, synced, rfl⟩ := stepped
      obtain ⟨authority, seated, table⟩ := syncCopy_ok synced
      by_cases here : other = sale
      · subst here
        exact copies_written (Q := FounderCopied other o _) other table (.inr ⟨rfl, seated⟩)
      · refine .inr ⟨here, ?_⟩
        show founders sale = o.founders sale
        rw [table, Function.update_of_ne (Ne.symm here)]

end office

/-! ## Whole histories -/

section run
variable {initial : Offices}

structure NoResidue (run : Run officeStep initial) : Prop where
  powers : ∀ i ≤ run.length, ∀ issuer capability, capability ≠ 0 → Empowered (run.state i).registry issuer capability →
    ∃ j < i, (∃ role, run.label j = .role role ∧ Empowers (run.state j).registry issuer capability role) ∧
      ∀ k, j < k → k ≤ i → Empowered (run.state k).registry issuer capability
  grants : ∀ i j, i ≤ j → j ≤ run.length → ∀ issuer, (∀ k, i ≤ k → k < j → ¬ (run.label k).isRole (RegistryLabel.reassigns issuer)) →
    capabilities (run.state j).registry issuer =
      (List.range' i (j - i)).foldl (fun before k => (run.label k).grants issuer before) (capabilities (run.state i).registry issuer)
  /-- A rotation was proposed by the authority that it replaces, and no later transfer instruction or executed recovery has
  consumed the proposal. A registration recovery may have moved the role away and back. -/
  rotations : ∀ j < run.length, ∀ successor issuer, run.label j = .role (.acceptIssuerAuthority successor issuer) →
    ∃ i < j, ∃ former, run.label i = .role (.proposeIssuerAuthority former issuer successor) ∧ successor ≠ former ∧
      authorityOf (run.state i).registry issuer = some former ∧ authorityOf (run.state j).registry issuer = some former ∧
      (run.state j).registry.now < (run.state i).registry.now + proposalWindowSecs ∧
      ∀ k, i < k → k < j → ¬ (run.label k).isRole (RegistryLabel.settlesTransfer issuer)
  -- Likewise for a recovery, a full notice after its proposal; the super admin may also have changed and come back.
  recoveries : ∀ j < run.length, ∀ successor issuer, run.label j = .role (.executeIssuerRecovery successor issuer) →
    ∃ i < j, ∃ former, run.label i = .role (.proposeIssuerRecovery (run.state j).registry.platform.admin issuer successor) ∧
      successor ≠ former ∧ (run.state i).registry.platform.admin = (run.state j).registry.platform.admin ∧
      authorityOf (run.state i).registry issuer = some former ∧ authorityOf (run.state j).registry issuer = some former ∧
      (run.state i).registry.now + issuerRecoveryDelaySecs ≤ (run.state j).registry.now ∧
      ∀ k, i < k → k < j → ¬ (run.label k).isRole (RegistryLabel.settlesRecovery issuer)
  sales : ∀ i ≤ run.length, ∀ sale copy, (run.state i).sales sale = some copy →
    ∃ j < i, (run.label j).copiesSale sale ∧ authorityOf (run.state j).registry copy.issuer = some copy.authority ∧
      ∀ k, j < k → k < i → ¬ (run.label k).copiesSale sale
  founders : ∀ i ≤ run.length, ∀ sale copy, (run.state i).founders sale = some copy →
    ∃ j < i, (run.label j).copiesFounder sale ∧ FounderCopied sale (run.state j) (run.label j) copy ∧
      ∀ k, j < k → k < i → ¬ (run.label k).copiesFounder sale

theorem registry_invariant {registry : Registry} {P : Registry → Prop} (start : P registry)
    (preserved : ∀ r label r', P r → step r label = .ok r' → P r') (run : Run officeStep (offices registry)) :
    ∀ i ≤ run.length, P (run.state i).registry := by
  apply run.invariant (P := fun o => P o.registry) start
  intro o label o' holds stepped
  rcases office_registry stepped with ⟨role, -, moved⟩ | ⟨-, same⟩
  · exact preserved _ _ _ holds moved
  · rw [same]
    exact holds

theorem powers_run {run : Run officeStep initial} {issuer : Nat} {capability : BitVec 8} (positive : capability ≠ 0)
    (clean : ∀ i ≤ run.length, Clean (run.state i).registry) (initially : ¬ Empowered initial.registry issuer capability) (i : Nat)
    (within : i ≤ run.length) (empowered : Empowered (run.state i).registry issuer capability) :
    ∃ j < i, (∃ role, run.label j = .role role ∧ Empowers (run.state j).registry issuer capability role) ∧
      ∀ k, j < k → k ≤ i → Empowered (run.state k).registry issuer capability := by
  obtain ⟨j, before, lacking, since⟩ := run.lastWrite (fun o => Empowered o.registry issuer capability) (v := True)
    (eq_true empowered) (fun same => initially (of_eq_true same))
  have inside : j < run.length := Nat.lt_of_lt_of_le before within
  refine ⟨j, before, ?_, fun k after upto => of_eq_true (since k after upto)⟩
  have after : Empowered (run.state (j + 1)).registry issuer capability := of_eq_true (since (j + 1) (Nat.lt_succ_self j) before)
  rcases office_registry (run.next j inside) with ⟨role, label, moved⟩ | ⟨-, same⟩
  · refine ⟨role, label, (empowered_step positive (clean j (Nat.le_of_lt inside)) moved after).resolve_left ?_⟩
    exact fun had => lacking (eq_true had)
  · rw [same] at after
    exact absurd (eq_true after) lacking

theorem grants_step {o o' : Offices} {label : OfficeLabel} {issuer : Nat} (clean : Clean o.registry)
    (stepped : officeStep o label = .ok o') (kept : ¬ label.isRole (RegistryLabel.reassigns issuer)) :
    capabilities o'.registry issuer = label.grants issuer (capabilities o.registry issuer) := by
  rcases office_registry stepped with ⟨role, rfl, moved⟩ | ⟨other, same⟩
  · exact capabilities_step clean moved kept
  · rw [same]
    cases label with
    | role role => exact absurd rfl (other role)
    | _ => rfl

theorem grants_run {run : Run officeStep initial} {issuer i : Nat} (clean : ∀ i ≤ run.length, Clean (run.state i).registry) (j : Nat)
    (after : i ≤ j) : j ≤ run.length → (∀ k, i ≤ k → k < j → ¬ (run.label k).isRole (RegistryLabel.reassigns issuer)) →
    capabilities (run.state j).registry issuer =
      (List.range' i (j - i)).foldl (fun before k => (run.label k).grants issuer before) (capabilities (run.state i).registry issuer) := by
  induction j, after using Nat.le_induction with
  | base =>
      intro _ _
      rw [Nat.sub_self]
      rfl
  | succ j after ih =>
      intro within kept
      have sofar := ih (Nat.le_of_succ_le within) fun k later before => kept k later (Nat.lt_succ_of_lt before)
      rw [grants_step (clean j (Nat.le_of_succ_le within)) (run.next j within) (kept j after (Nat.lt_succ_self j)), sofar,
        Nat.succ_sub after, List.range'_concat, List.foldl_append, Nat.one_mul, Nat.add_sub_cancel' after]
      rfl

theorem rotations_run {run : Run officeStep initial} {issuer : Nat} (fresh : liveTransfer issuer initial.registry = none)
    (signable : ∀ i ≤ run.length, Signable (run.state i).registry) (j : Nat) (within : j < run.length) (successor : Pubkey)
    (accepts : run.label j = .role (.acceptIssuerAuthority successor issuer)) :
    ∃ i < j, ∃ former, run.label i = .role (.proposeIssuerAuthority former issuer successor) ∧ successor ≠ former ∧
      authorityOf (run.state i).registry issuer = some former ∧ authorityOf (run.state j).registry issuer = some former ∧
      (run.state j).registry.now < (run.state i).registry.now + proposalWindowSecs ∧
      ∀ k, i < k → k < j → ¬ (run.label k).isRole (RegistryLabel.settlesTransfer issuer) := by
  have stepped := run.next j within
  rcases office_registry stepped with ⟨role, label, moved⟩ | ⟨other, -⟩
  · obtain rfl : role = .acceptIssuerAuthority successor issuer := OfficeLabel.role.inj (label.symm.trans accepts)
    obtain ⟨record, transfer, stored, pending, current, named, inTime⟩ := accept_guard moved
    have nonzero := signable j (Nat.le_of_lt within) issuer record.authority (authorityOf_stored stored)
    have live : liveTransfer issuer (run.state j).registry = some transfer := by
      rw [liveTransfer, pending]
      exact Option.filter_some_pos (decide_eq_true (current ▸ nonzero))
    obtain ⟨i, before, -, ⟨role, proposal, made⟩, since⟩ :=
      run.lastWriter (fun o => liveTransfer issuer o.registry) (OfficeLabel.isRole (RegistryLabel.settlesTransfer issuer)) _ fresh
        (fun _ _ _ moved => office_slot transfer_step moved) j (Nat.le_of_lt within) transfer live
    refine ⟨i, before, transfer.currentAuthority, ?_, named ▸ made.other, made.seated, ?_, ?_, since⟩
    · rw [proposal, made.made, named]
    · rw [authorityOf_stored stored, current]
    · rw [made.window] at inTime
      simpa [windowAt] using inTime
  · exact absurd accepts (other _)

theorem recoveries_run {run : Run officeStep initial} {issuer : Nat} (fresh : liveRecovery issuer initial.registry = none)
    (signable : ∀ i ≤ run.length, Signable (run.state i).registry) (j : Nat) (within : j < run.length) (successor : Pubkey)
    (executes : run.label j = .role (.executeIssuerRecovery successor issuer)) :
    ∃ i < j, ∃ former, run.label i = .role (.proposeIssuerRecovery (run.state j).registry.platform.admin issuer successor) ∧
      successor ≠ former ∧ (run.state i).registry.platform.admin = (run.state j).registry.platform.admin ∧
      authorityOf (run.state i).registry issuer = some former ∧ authorityOf (run.state j).registry issuer = some former ∧
      (run.state i).registry.now + issuerRecoveryDelaySecs ≤ (run.state j).registry.now ∧
      ∀ k, i < k → k < j → ¬ (run.label k).isRole (RegistryLabel.settlesRecovery issuer) := by
  have stepped := run.next j within
  rcases office_registry stepped with ⟨role, label, moved⟩ | ⟨other, -⟩
  · obtain rfl : role = .executeIssuerRecovery successor issuer := OfficeLabel.role.inj (label.symm.trans executes)
    obtain ⟨record, recovery, stored, pending, current, proposer, named, due⟩ := execute_guard moved
    have nonzero := signable j (Nat.le_of_lt within) issuer record.authority (authorityOf_stored stored)
    have live : liveRecovery issuer (run.state j).registry = some recovery := by
      rw [liveRecovery, pending]
      exact Option.filter_some_pos (decide_eq_true (current ▸ nonzero))
    obtain ⟨i, before, -, ⟨role, proposal, made⟩, since⟩ :=
      run.lastWriter (fun o => liveRecovery issuer o.registry) (OfficeLabel.isRole (RegistryLabel.settlesRecovery issuer)) _ fresh
        (fun _ _ _ moved => office_slot recovery_step moved) j (Nat.le_of_lt within) recovery live
    refine ⟨i, before, recovery.currentAuthority, ?_, named ▸ made.other, made.proposer.symm.trans proposer, made.seated, ?_, ?_, since⟩
    · rw [proposal, made.made, named, proposer]
    · rw [authorityOf_stored stored, current]
    · rw [made.window] at due
      exact due
  · exact absurd executes (other _)

end run

/-- Whoever has been the authority of an issuer, what counts is the role as it is now: no rotation or recovery gives
a capability, brings one back or leaves one behind, and copies of the role are those of their last sync. -/
theorem rotation_leaves_no_residue {admin : Pubkey} {upgradeAuthority : Option Pubkey} {now : Int}
    (run : Run officeStep (offices (initializePlatform admin upgradeAuthority now))) : NoResidue run := by
  have clean : ∀ i ≤ run.length, Clean (run.state i).registry :=
    registry_invariant (fun _ _ _ => rfl) (fun _ _ _ clean stepped => clean_step clean stepped) run
  have signable : ∀ i ≤ run.length, Signable (run.state i).registry := by
    apply registry_invariant _ (fun _ _ _ signable stepped => signable_step signable stepped) run
    intro issuer authority seated
    cases seated
  refine ⟨?powers, ?grants, ?rotations, ?recoveries, ?sales, ?founders⟩
  case powers =>
    intro i within issuer capability positive empowered
    refine powers_run positive clean ?_ i within empowered
    intro initially
    obtain ⟨authority, seated, -⟩ := empowered_iff.mp initially
    cases seated
  case grants =>
    intro i j after within issuer kept
    exact grants_run clean j after within kept
  case rotations =>
    intro j within successor issuer accepts
    exact rotations_run rfl signable j within successor accepts
  case recoveries =>
    intro j within successor issuer executes
    exact recoveries_run rfl signable j within successor executes
  case sales =>
    intro i within sale
    exact run.lastWriter (Offices.sales · sale) (OfficeLabel.copiesSale sale)
      (fun o _ copy => authorityOf o.registry copy.issuer = some copy.authority) rfl (fun _ _ _ stepped => sale_step stepped) i within
  case founders =>
    intro i within sale
    exact run.lastWriter (Offices.founders · sale) (OfficeLabel.copiesFounder sale) (FounderCopied sale) rfl
      (fun _ _ _ stepped => founder_step stepped) i within

end Mancipatio.Authority
