import Mancipatio.Basic

/-!
# KYC entries and registries

A holder is eligible while its entry is approved and unexpired and its jurisdiction is approved and not
blocked by the registry.
-/

namespace Mancipatio
open Checked

inductive KycStatus where
  | pending
  | approved
  | revoked
  | expired
  deriving DecidableEq, Repr

abbrev JurisdictionBitmap := BitVec 1024

structure KycRegistry where
  authority : Pubkey
  approvedJurisdictions : JurisdictionBitmap
  blockedJurisdictions : JurisdictionBitmap
  deriving DecidableEq, Repr

structure KycEntry where
  registry : Pubkey
  holder : Pubkey
  status : KycStatus
  jurisdiction : Nat
  expiry : Int
  deriving DecidableEq, Repr

def requireKycEntryCurrent (entry : KycEntry) (now : Int) : Except RegistryError Unit := do
  require (entry.status = .approved) .receiverNotApproved
  require (now < entry.expiry) .receiverKycExpired

def requireJurisdictionAllowed (registry : KycRegistry) (jurisdiction : Nat) : Except RegistryError Unit :=
  require (registry.approvedJurisdictions.getLsbD jurisdiction = true ∧
    registry.blockedJurisdictions.getLsbD jurisdiction = false) .receiverJurisdictionBlocked

structure KycEntry.Eligible (entry : KycEntry) (registry : KycRegistry) (now : Int) : Prop where
  approved : entry.status = .approved
  unexpired : now < entry.expiry
  jurisdictionApproved : registry.approvedJurisdictions.getLsbD entry.jurisdiction = true
  jurisdictionUnblocked : registry.blockedJurisdictions.getLsbD entry.jurisdiction = false

theorem requireKycEntryCurrent_ok {entry : KycEntry} {now : Int} {u : Unit} :
    requireKycEntryCurrent entry now = .ok u ↔ entry.status = .approved ∧ now < entry.expiry := by
  simp [requireKycEntryCurrent]

theorem requireJurisdictionAllowed_ok {registry : KycRegistry} {jurisdiction : Nat} {u : Unit} :
    requireJurisdictionAllowed registry jurisdiction = .ok u ↔
      registry.approvedJurisdictions.getLsbD jurisdiction = true ∧
        registry.blockedJurisdictions.getLsbD jurisdiction = false := by
  simp [requireJurisdictionAllowed]

end Mancipatio
