import Mancipatio.Hook.Config

/-!
# The receiver gate of the registry program

The registry decides for itself whether a receiver may be handed units, from the accounts that the caller
lists: deliveries out of an escrow and issuance do not pass through the hook's own check.
-/

namespace Mancipatio
open Checked Borsh

def hookConfigMinLen : Nat := 138
def kycExpiryClawbackGraceSecs : Int := 2592000

inductive ReceiverKycOutcome where
  | approved
  | openByConfig
  | configUnavailable
  deriving DecidableEq, Repr

def KycRegistryAccount.requireJurisdictionAllowed (registry : KycRegistryAccount) (jurisdiction : Nat) :
    Except RegistryError Unit :=
  require (jurisdiction / 8 < jurisdictionBitmapBytes ∧
    jurisdictionBit registry.approvedJurisdictions.toList jurisdiction = true ∧
    jurisdictionBit registry.blockedJurisdictions.toList jurisdiction = false) .receiverJurisdictionBlocked

section receiver
variable (find : FindProgramAddress) (chain : Chain)

def configuredRegistry (data : List UInt8) : Except RegistryError Pubkey := do
  require (data.getD 105 0 = 1) .invalidKycRegistry
  return keyAt data 106

def requireApprovedReceiver (tail : List Pubkey) (registryKey receiver : Pubkey) (now : Int) : Except RegistryError Unit := do
  let entryKey := kycEntryAddress find registryKey receiver
  require (entryKey ∈ tail) .receiverNotApproved
  require ((chain entryKey).ownedBy assetRegistryProgram) .receiverNotApproved
  let entry ← okOr (KycEntryAccount.type.tryDeserialize (chain entryKey).data) .accountDidNotDeserialize
  requireKycEntryCurrent entry.entry now
  require (registryKey ∈ tail) .invalidKycRegistry
  require ((chain registryKey).ownedBy assetRegistryProgram) .invalidKycRegistry
  let registry ← okOr (KycRegistryAccount.type.tryDeserialize (chain registryKey).data) .accountDidNotDeserialize
  registry.requireJurisdictionAllowed entry.jurisdiction.toNat

def configuredOutcome (tail : List Pubkey) (data : List UInt8) (receiver : Pubkey) (now : Int) :
    Except RegistryError ReceiverKycOutcome := do
  require (hookConfigMinLen ≤ data.length) .invalidKycRegistry
  if data.getD 104 0 ≠ 1 then
    return .openByConfig
  else do
    let registryKey ← configuredRegistry data
    requireApprovedReceiver find chain tail registryKey receiver now
    return .approved

def receiverKycOutcome (tail : List Pubkey) (mint receiver : Pubkey) (now : Int) :
    Except RegistryError ReceiverKycOutcome :=
  let configKey := hookConfigAddress find mint
  if configKey ∈ tail ∧ (chain configKey).ownedBy transferHookProgram then
    configuredOutcome find chain tail (chain configKey).data receiver now
  else
    .ok .configUnavailable

def requireReceiverKyc (tail : List Pubkey) (mint receiver : Pubkey) (now : Int) : Except RegistryError Unit := do
  let _ ← receiverKycOutcome find chain tail mint receiver now

/-- Issuance never reaches the hook, so the mode must be proven: by the configuration, or by the list of
extra accounts being exactly as long as it is in `Open` mode. -/
def requireReceiverKycForMintTo (openLength : Nat) (tail : List Pubkey) (mint receiver : Pubkey) (now : Int) :
    Except RegistryError Unit := do
  match ← receiverKycOutcome find chain tail mint receiver now with
  | .approved | .openByConfig => return ()
  | .configUnavailable => do
      let metasKey := extraMetasAddress find mint
      require (metasKey ∈ tail) .kycProofRequired
      require ((chain metasKey).ownedBy transferHookProgram) .kycProofRequired
      require ((chain metasKey).data.length = openLength) .kycProofRequired

def readHookConfig (config : Account) (mint shareClass : Pubkey) : Except RegistryError Bool := do
  require (config.owner = transferHookProgram) .hookConfigInvalid
  require (hookConfigMinLen ≤ config.data.length ∧ keyAt config.data 8 = mint ∧ keyAt config.data 40 = shareClass)
    .hookConfigInvalid
  return config.data.getD 104 0 = 1

/-! ## Clawback from an ineligible holder -/

inductive ClawbackReason where
  | revoked
  | expired
  deriving DecidableEq, Repr

structure ClawbackContext where
  isAdmin : Bool
  mintInitialized : Bool
  quarantineActive : Bool
  kycRegistry : Pubkey
  deriving DecidableEq, Repr

/-- The entry of a clawback: revoked, or expired for longer than the grace period. -/
def clawbackReason (entry : KycEntry) (now : Int) : Except RegistryError ClawbackReason := do
  let reason := if entry.status = .revoked then ClawbackReason.revoked else .expired
  require (entry.status = .revoked ∨ saturatingAddInt 64 entry.expiry kycExpiryClawbackGraceSecs ≤ now)
    .clawbackHolderStillEligible
  return reason

def clawbackFromHolder (ctx : ClawbackContext) (mint holder : Pubkey) (now : Int) : Except RegistryError ClawbackReason := do
  require (ctx.isAdmin = true) .accountNotInitialized
  require (ctx.mintInitialized = true) .mintNotInitialized
  require ((chain (escrowMarkerAddress find holder)).data = []) .clawbackTargetIsEscrow
  require (ctx.quarantineActive = true) .clawbackDestinationInvalid
  require ((chain ctx.kycRegistry).ownedBy assetRegistryProgram) .accountNotInitialized
  let _ ← okOr (KycRegistryAccount.type.tryDeserialize (chain ctx.kycRegistry).data) .accountDidNotDeserialize
  let entryKey := kycEntryAddress find ctx.kycRegistry holder
  require ((chain entryKey).ownedBy assetRegistryProgram) .accountNotInitialized
  let entry ← okOr (KycEntryAccount.type.tryDeserialize (chain entryKey).data) .accountDidNotDeserialize
  let config := chain (hookConfigAddress find mint)
  require (config.ownedBy transferHookProgram) .invalidKycRegistry
  require (hookConfigMinLen ≤ config.data.length) .invalidKycRegistry
  require (config.data.getD 104 0 = 1) .clawbackNotKycGated
  let registryKey ← configuredRegistry config.data
  require (ctx.kycRegistry = registryKey) .invalidKycRegistry
  clawbackReason entry.entry now

end receiver

theorem requireJurisdictionAllowed_eq (registry : KycRegistryAccount) (jurisdiction : Nat) :
    registry.requireJurisdictionAllowed jurisdiction = requireJurisdictionAllowed registry.registry jurisdiction := by
  apply require_congr
  simp only [KycRegistryAccount.registry]
  rw [bitmap_getLsbD, ← Bool.not_eq_true, ← Bool.not_eq_true, bitmap_getLsbD]
  tauto

end Mancipatio
