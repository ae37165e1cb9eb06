import Mancipatio.Hook.Config

/-!
# The transfer hook

What the hook program decides on every transfer of units of a share class. The caller supplies the list of
accounts; the hook reads the accounts of the registry program by raw offset.
-/

namespace Mancipatio.Hook
open Checked Borsh

def kycEntryMinLen : Nat := 120
def kycRegistryMinLen : Nat := 296
def kycStatusApproved : UInt8 := 1

/-! ## Readers -/

def kycEntryStatus (data : List UInt8) : Except HookError UInt8 := do
  require (kycEntryMinLen ≤ data.length) .invalidKycEntry
  return data.getD 72 0

def kycEntryJurisdiction (data : List UInt8) : Except HookError Nat := do
  require (kycEntryMinLen ≤ data.length) .invalidKycEntry
  return Bytes.ofLittleEndian (slice data 73 2)

def kycEntryExpiry (data : List UInt8) : Except HookError Int := do
  require (kycEntryMinLen ≤ data.length) .invalidKycEntry
  return (BitVec.ofNat 64 (Bytes.ofLittleEndian (slice data 76 8))).toInt

def kycRegistryBitmaps (data : List UInt8) : Except HookError (List UInt8 × List UInt8) := do
  require (kycRegistryMinLen ≤ data.length) .invalidKycRegistry
  return (slice data 40 jurisdictionBitmapBytes, slice data 168 jurisdictionBitmapBytes)

def jurisdictionAllowed (jurisdiction : Nat) (approved blocked : List UInt8) : Bool :=
  jurisdiction / 8 < jurisdictionBitmapBytes ∧ jurisdictionBit approved jurisdiction = true ∧
    jurisdictionBit blocked jurisdiction = false

/-! ## The decision -/

structure TokenView where
  owner : Pubkey
  immutableOwner : Bool
  deriving DecidableEq, Repr

structure SplToken where
  account : List UInt8 → Option TokenView
  permanentDelegate : List UInt8 → Option Pubkey

section execute
variable (spl : SplToken) (find : FindProgramAddress) (chain : Chain)

def isShareClassAccount (account : Account) : Prop :=
  8 ≤ account.data.length ∧ account.data.take 8 = [169, 98, 255, 104, 159, 47, 105, 6]
  deriving Decidable

/-- The only exception for a blocked owner: the share class itself moves the units, as the mint's permanent
delegate, into an escrow of the registry. -/
def requireQuarantineClawback (mint destination destinationOwner authority : Pubkey)
    (expectedShareClass : Option Pubkey) : Except HookError Unit := do
  require ((chain authority).owner = assetRegistryProgram ∧ isShareClassAccount (chain authority)) .senderBlocked
  require (∀ shareClass ∈ expectedShareClass, authority = shareClass) .senderBlocked
  require ((chain mint).owner = token2022Program) .senderBlocked
  require (spl.permanentDelegate (chain mint).data = some authority) .senderBlocked
  require (destination = escrowAddress find destinationOwner) .senderBlocked

/-- `none` without a proven marker, `some none` for a platform escrow, `some (some owner)` for an escrow
that only refunds `owner`. -/
def markerPolicy (account : Option Pubkey) (owner : Pubkey) : Option (Option Pubkey) := do
  let key ← account
  let data := (chain key).data
  if key ≠ escrowMarkerAddress find owner ∨ (chain key).owner ≠ assetRegistryProgram then
    none
  else if 9 ≤ data.length ∧ data.take 8 = [180, 74, 152, 91, 29, 38, 13, 81] then
    some none
  else if 57 ≤ data.length ∧ data.take 8 = [11, 3, 104, 6, 28, 163, 95, 48] then
    some (some (keyAt data 8))
  else
    none

def receiverVerdict (config : TransferHookConfig) (registry entry : Pubkey) (now : Int) : Except HookError Unit := do
  let expectedRegistry ← okOr config.kycRegistry .kycRegistryRequired
  require (registry = expectedRegistry) .invalidKycRegistry
  require ((chain entry).ownedBy assetRegistryProgram) .receiverNotApproved
  require ((chain registry).ownedBy assetRegistryProgram) .invalidKycRegistry
  let status ← kycEntryStatus (chain entry).data
  require (status = kycStatusApproved) .receiverNotApproved
  let expiry ← kycEntryExpiry (chain entry).data
  require (now < expiry) .holderKycExpired
  let jurisdiction ← kycEntryJurisdiction (chain entry).data
  let (approved, blocked) ← kycRegistryBitmaps (chain registry).data
  require (jurisdictionAllowed jurisdiction approved blocked = true) .jurisdictionBlocked

def requireUnblocked (blocked : Prop) [Decidable blocked] (exception : Except HookError Unit) : Except HookError Unit :=
  if blocked then exception else .ok ()

def executeKycGated (accounts : List Pubkey) (config : TransferHookConfig) (source destination : TokenView)
    (blocked : Prop) [Decidable blocked] (clawback : Except HookError Unit) (now : Int) : Except HookError Unit := do
  let destinationIsEscrow := (markerPolicy find chain accounts[10]? destination.owner).isSome
  let sourceRoutingExempt := match markerPolicy find chain accounts[11]? source.owner with
    | none => false
    | some none => true
    | some (some refundOwner) => refundOwner ≠ 0 ∧ refundOwner = destination.owner
  requireUnblocked blocked do
    require (destinationIsEscrow = true) .senderBlocked
    clawback
  if destinationIsEscrow || sourceRoutingExempt then
    return ()
  else do
    let registry ← okOr accounts[7]? .missingExtraAccount
    let entry ← okOr accounts[9]? .missingExtraAccount
    receiverVerdict chain config registry entry now

def processExecute (accounts : List Pubkey) (now : Int) : Except HookError Unit := do
  let source ← okOr accounts[0]? .missingExtraAccount
  let mint ← okOr accounts[1]? .missingExtraAccount
  let destination ← okOr accounts[2]? .missingExtraAccount
  let authority ← okOr accounts[3]? .missingExtraAccount
  require ((chain source).owner = token2022Program) .invalidTokenAccount
  require ((chain destination).owner = token2022Program) .invalidTokenAccount
  let sourceView ← okOr (spl.account (chain source).data) .accountDidNotDeserialize
  let destinationView ← okOr (spl.account (chain destination).data) .accountDidNotDeserialize
  require (destinationView.immutableOwner = true) .immutableOwnerRequired
  let blockEntry ← okOr accounts[5]? .missingExtraAccount
  require (blockEntry = blockEntryAddress find sourceView.owner) .invalidBlockEntry
  let blocked := (chain blockEntry).ownedBy transferHookProgram
  let clawback := requireQuarantineClawback spl find chain mint destination destinationView.owner authority
  match accounts[6]?.filter fun key => (chain key).owner = transferHookProgram with
  | none => requireUnblocked blocked (clawback none)
  | some configKey => do
      let config ← okOr (TransferHookConfig.type.tryDeserialize (chain configKey).data) .accountDidNotDeserialize
      require (configKey = hookConfigAddress find mint) .unauthorized
      require (config.mint = mint) .unauthorized
      if config.restrictionMode = .kycGated then
        executeKycGated find chain accounts config sourceView destinationView blocked (clawback (some config.shareClass)) now
      else
        requireUnblocked blocked (clawback (some config.shareClass))

end execute

/-! ## What the readers find in a record -/

section readers
variable {data : List UInt8} {e : KycEntryAccount} {r : KycRegistryAccount}

theorem kycEntryStatus_eq (read : KycEntryAccount.type.tryDeserialize data = some e) :
    kycEntryStatus data = .ok e.status.toByte := by
  obtain ⟨enough, status, -, -⟩ := entry_fields read
  simp only [kycEntryStatus, bind_eq_ok, require_eq_ok, pure_eq_ok, exists_const]
  exact ⟨enough, status⟩

theorem kycEntryJurisdiction_eq (read : KycEntryAccount.type.tryDeserialize data = some e) :
    kycEntryJurisdiction data = .ok e.jurisdiction.toNat := by
  obtain ⟨enough, -, jurisdiction, -⟩ := entry_fields read
  simp only [kycEntryJurisdiction, bind_eq_ok, require_eq_ok, pure_eq_ok, exists_const]
  have fits : e.jurisdiction.toNat < 256 ^ 2 := e.jurisdiction.isLt
  rw [jurisdiction, Bytes.ofLittleEndian_littleEndian, Nat.mod_eq_of_lt fits]
  exact ⟨enough, rfl⟩

theorem kycEntryExpiry_eq (read : KycEntryAccount.type.tryDeserialize data = some e) :
    kycEntryExpiry data = .ok e.expiry.toInt := by
  obtain ⟨enough, -, -, expiry⟩ := entry_fields read
  simp only [kycEntryExpiry, bind_eq_ok, require_eq_ok, pure_eq_ok, exists_const]
  rw [expiry, ofLittleEndian_word (by norm_num)]
  exact ⟨enough, rfl⟩

theorem kycRegistryBitmaps_eq (read : KycRegistryAccount.type.tryDeserialize data = some r) :
    kycRegistryBitmaps data = .ok (r.approvedJurisdictions.toList, r.blockedJurisdictions.toList) := by
  obtain ⟨enough, approved, blocked⟩ := registry_fields read
  simp only [kycRegistryBitmaps, bind_eq_ok, require_eq_ok, pure_eq_ok, exists_const]
  exact ⟨enough, Prod.ext approved blocked⟩

end readers

end Mancipatio.Hook
