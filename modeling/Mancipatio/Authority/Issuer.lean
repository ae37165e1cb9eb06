import Mancipatio.Authority.Platform

/-!
# Issuer roles

Registration, the capabilities granted to an issuer authority, and the three ways in which that
authority changes: rotation, recovery after a notice, and the recovery of an unused registration.
-/

namespace Mancipatio.Authority
open Checked

def issuerRecoveryDelaySecs : Int := 604800
def issuerPermissionsAll : BitVec 8 := 7

def registerIssuer (r : Registry) (authority : Pubkey) (issuer : Nat) : Except RegistryError Registry := do
  require (¬ isPaused r.platform.pauseFlags pauseOnboarding) .platformPaused
  require (r.issuers issuer = none) .accountAlreadyInUse
  let issuersCount ← okOr (checkedAdd 64 r.platform.issuersCount 1) .overflow
  return { r with
    issuers := Function.update r.issuers issuer (some { authority, kybStatus := .pending, assetsCount := 0 })
    platform := { r.platform with issuersCount } }

def verifyIssuerKyb (r : Registry) (admin : Pubkey) (issuer : Nat) (approved : Bool) :
    Except RegistryError Registry := do
  require (r.platform.admin = admin) .unauthorized
  let record ← okOr (r.issuers issuer) .accountNotInitialized
  let kybStatus := if approved then KybStatus.verified else KybStatus.rejected
  return { r with issuers := Function.update r.issuers issuer (some { record with kybStatus }) }

/-- The part of `create_asset` that touches the issuer. -/
def createAsset (r : Registry) (authority : Pubkey) (issuer : Nat) : Except RegistryError Registry := do
  require (¬ isPaused r.platform.pauseFlags pauseOnboarding) .platformPaused
  let record ← okOr (r.issuers issuer) .accountNotInitialized
  require (record.authority = authority) .unauthorized
  require (record.kybStatus = .verified) .issuerNotVerified
  let assetsCount ← okOr (checkedAdd 64 record.assetsCount 1) .overflow
  return { r with issuers := Function.update r.issuers issuer (some { record with assetsCount }) }

def setPermissions (r : Registry) (issuer : Nat) (authority : Pubkey) (grant : Option IssuerPermissions) : Registry :=
  { r with
    permissions := Function.update r.permissions issuer (Function.update (r.permissions issuer) authority grant) }

def setIssuerPermissions (r : Registry) (superAdmin : Pubkey) (issuer : Nat) (capabilities : BitVec 8) :
    Except RegistryError Registry := do
  require (r.platform.admin = superAdmin) .unauthorized
  let record ← okOr (r.issuers issuer) .accountNotInitialized
  require (capabilities = 0 ∨ record.kybStatus = .verified) .issuerNotVerified
  require (capabilities &&& ~~~ issuerPermissionsAll = 0) .invalidIssuerPermissions
  return setPermissions r issuer record.authority (some { capabilities, updatedBy := superAdmin })

/-- Re-assigns an unused registration at once. Grants and pending proposals stay as they are. -/
def recoverIssuerRegistration (r : Registry) (superAdmin newAuthority : Pubkey) (issuer : Nat) :
    Except RegistryError Registry := do
  require (r.platform.admin = superAdmin) .unauthorized
  let record ← okOr (r.issuers issuer) .accountNotInitialized
  require (record.assetsCount = 0 ∧ (record.kybStatus = .pending ∨ record.kybStatus = .rejected))
    .issuerRegistrationNotRecoverable
  return { r with
    issuers := Function.update r.issuers issuer
      (some { record with authority := newAuthority, kybStatus := .pending }) }

/-! ## Rotation -/

def proposeIssuerAuthority (r : Registry) (authority : Pubkey) (issuer : Nat) (newAuthority : Pubkey) :
    Except RegistryError Registry := do
  let record ← okOr (r.issuers issuer) .accountNotInitialized
  require (record.authority = authority) .unauthorized
  require (r.blocked record.authority = false) .partyBlocklisted
  validateNewAuthority record.authority newAuthority
  let proposal ← writeProposal record.authority newAuthority authority r.now 0
  return { r with issuerTransfers := Function.update r.issuerTransfers issuer (some proposal) }

/-- The capabilities of the outgoing authority move to the incoming one, and a pending recovery is
retired. -/
def acceptIssuerAuthority (r : Registry) (newAuthority : Pubkey) (issuer : Nat) : Except RegistryError Registry := do
  let record ← okOr (r.issuers issuer) .accountNotInitialized
  let transfer ← okOr (r.issuerTransfers issuer) .accountNotInitialized
  require (transfer.currentAuthority = record.authority ∧ transfer.proposedBy = record.authority ∧
    transfer.newAuthority = newAuthority) .invalidAuthorityTransfer
  require (r.blocked record.authority = false) .partyBlocklisted
  requireNotExpired r.now transfer
  require (¬ isActiveAdmin r newAuthority ∨ isActiveAdmin r record.authority) .invalidProposedAuthority
  let carried := (r.permissions issuer record.authority).getD { capabilities := 0, updatedBy := 0 }
  let granted := setPermissions (setPermissions r issuer record.authority none) issuer newAuthority (some carried)
  return { granted with
    issuers := Function.update r.issuers issuer (some { record with authority := newAuthority })
    issuerTransfers := Function.update r.issuerTransfers issuer none
    issuerRecoveries := Function.update r.issuerRecoveries issuer
      ((r.issuerRecoveries issuer).map IssuerRecovery.retired) }

def cancelIssuerAuthorityTransfer (r : Registry) (authority : Pubkey) (issuer : Nat) :
    Except RegistryError Registry := do
  let record ← okOr (r.issuers issuer) .accountNotInitialized
  require (record.authority = authority) .unauthorized
  let _ ← okOr (r.issuerTransfers issuer) .accountNotInitialized
  return { r with issuerTransfers := Function.update r.issuerTransfers issuer none }

/-! ## Recovery -/

def proposeIssuerRecovery (r : Registry) (superAdmin : Pubkey) (issuer : Nat) (newAuthority : Pubkey) :
    Except RegistryError Registry := do
  require (r.platform.admin = superAdmin) .unauthorized
  let record ← okOr (r.issuers issuer) .accountNotInitialized
  validateNewAuthority record.authority newAuthority
  let window ← openWindow r.now issuerRecoveryDelaySecs
  return { r with
    issuerRecoveries := Function.update r.issuerRecoveries issuer
      (some { currentAuthority := record.authority, newAuthority, proposedBy := superAdmin, window }) }

def cancelIssuerRecovery (r : Registry) (canceller : Pubkey) (issuer : Nat) : Except RegistryError Registry := do
  let record ← okOr (r.issuers issuer) .accountNotInitialized
  let _ ← okOr (r.issuerRecoveries issuer) .accountNotInitialized
  require (canceller = record.authority ∨ canceller = r.platform.admin) .unauthorized
  return { r with issuerRecoveries := Function.update r.issuerRecoveries issuer none }

/-- Both grants are closed, none is written, and a pending rotation is retired. -/
def executeIssuerRecovery (r : Registry) (newAuthority : Pubkey) (issuer : Nat) : Except RegistryError Registry := do
  let record ← okOr (r.issuers issuer) .accountNotInitialized
  let recovery ← okOr (r.issuerRecoveries issuer) .accountNotInitialized
  require (recovery.currentAuthority = record.authority ∧ recovery.proposedBy = r.platform.admin ∧
    recovery.newAuthority = newAuthority) .invalidIssuerRecovery
  require (recovery.window.eta ≤ r.now) .issuerRecoveryTimelockActive
  require (r.now < recovery.window.expiresAt) .issuerRecoveryExpired
  require (¬ isActiveAdmin r newAuthority) .invalidIssuerRecovery
  let closed := setPermissions (setPermissions r issuer record.authority none) issuer newAuthority none
  return { closed with
    issuers := Function.update r.issuers issuer (some { record with authority := newAuthority })
    issuerTransfers := Function.update r.issuerTransfers issuer
      ((r.issuerTransfers issuer).map AuthorityProposal.retired)
    issuerRecoveries := Function.update r.issuerRecoveries issuer none }

end Mancipatio.Authority
