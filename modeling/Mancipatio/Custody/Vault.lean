import Mancipatio.Kyc

/-!
# Custody vaults

The escrow behind quarantine, vesting and delivery. A delivery escrow holds its beneficiary's own
deposits and can hand them back; every other vault is funded by issuance or clawback and can only burn.
-/

namespace Mancipatio.Custody
open Checked

def deliveryEscrowMinDeadlineSecs : Int := 86400
def deliveryEscrowMaxDeadlineSecs : Int := 31536000

inductive VaultType where
  | vesting
  | conversionPending
  | deliveryEscrow
  | redemptionQueue
  deriving DecidableEq, Repr

inductive RealizeAction where
  | burnAndAttest
  | transferToBeneficiary
  | burnAndPayout
  deriving DecidableEq, Repr

inductive VaultState where
  | active
  | triggered
  | realized
  | reverted
  | expired
  | returned
  deriving DecidableEq, Repr

structure CustodyVault where
  authority : Pubkey
  vaultType : VaultType
  realizeAction : RealizeAction
  amount : Nat
  state : VaultState
  deadline : Int
  beneficiary : Pubkey
  deposited : Nat
  kycRegistry : Pubkey
  deriving DecidableEq, Repr

def CustodyVault.quarantine (vault : CustodyVault) : Prop :=
  vault.vaultType = .redemptionQueue ∧ vault.realizeAction = .burnAndAttest
  deriving Decidable

/-- Only a delivery escrow pins the registry in which its realize checks the beneficiary. -/
def pinnedRegistry (vaultType : VaultType) (kycRegistry : Option Pubkey) : Except RegistryError Pubkey :=
  if vaultType = .deliveryEscrow then
    okOr kycRegistry .custodyKycRegistryRequired
  else
    match kycRegistry with
    | none => .ok 0
    | some _ => .error .custodyKycRegistryNotAllowed

def requireDeliveryDeadline (vaultType : VaultType) (deadline now : Int) : Except RegistryError Unit :=
  if vaultType = .deliveryEscrow then do
    let earliest ← okOr (checkedAddInt 64 now deliveryEscrowMinDeadlineSecs) .overflow
    let latest ← okOr (checkedAddInt 64 now deliveryEscrowMaxDeadlineSecs) .overflow
    require (earliest ≤ deadline ∧ deadline ≤ latest) .deliveryDeadlineOutOfRange
  else
    .ok ()

def openCustodyVault (authority : Pubkey) (isAdmin mintInitialized : Bool) (pauseFlags : PauseFlags)
    (vaultType : VaultType) (realizeAction : RealizeAction) (amount : Nat) (deadline : Int)
    (beneficiary : Pubkey) (kycRegistry : Option Pubkey) (now : Int) : Except RegistryError CustodyVault := do
  require (isAdmin = true) .accountNotInitialized
  require (mintInitialized = true) .mintNotInitialized
  require ((vaultType = .redemptionQueue ∧ realizeAction = .burnAndAttest) ∨
    ¬ isPaused pauseFlags pauseCustodyEntry) .platformPaused
  require (vaultType ≠ .deliveryEscrow ∨ beneficiary ≠ 0) .beneficiaryRequired
  let kycRegistry ← pinnedRegistry vaultType kycRegistry
  require (0 ≤ deadline) .invalidDeadline
  requireDeliveryDeadline vaultType deadline now
  require (realizeAction = .burnAndAttest) .unsupportedRealizeAction
  require (vaultType ≠ .conversionPending) .vaultTypeRetired
  require (vaultType = .deliveryEscrow ∨ beneficiary = 0) .beneficiaryNotAllowed
  return { authority, vaultType, realizeAction, amount, state := .active, deadline, beneficiary,
           deposited := 0, kycRegistry }

def depositToCustodyVault (vault : CustodyVault) (depositor : Pubkey) (amount : Nat)
    (pauseFlags : PauseFlags) : Except RegistryError CustodyVault := do
  require (vault.state = .active) .vaultNotAcceptingDeposits
  require (¬ isPaused pauseFlags pauseCustodyEntry) .platformPaused
  require (0 < amount) .invalidDepositAmount
  require (vault.realizeAction = .burnAndAttest) .unsupportedRealizeAction
  require (vault.vaultType = .deliveryEscrow ∧ depositor = vault.beneficiary) .depositorNotBeneficiary
  let deposited ← okOr (checkedAdd 64 vault.deposited amount) .overflow
  return { vault with deposited }

def triggerCustodyVault (vault : CustodyVault) (authority : Pubkey) (isAdmin : Bool) :
    Except RegistryError CustodyVault := do
  require (vault.authority = authority) .unauthorized
  require (vault.state = .active) .invalidVaultState
  require (isAdmin = true) .accountNotInitialized
  return { vault with state := .triggered }

def requireRealizeKyc (vault : CustodyVault) (kycRegistry : Option (Pubkey × KycRegistry))
    (kycEntry : Option KycEntry) (now : Int) : Except RegistryError Unit :=
  if vault.vaultType = .deliveryEscrow then do
    require (vault.kycRegistry ≠ 0) .custodyKycRegistryRequired
    let registry ← okOr kycRegistry .custodyKycRegistryRequired
    require (registry.1 = vault.kycRegistry) .custodyKycRegistryMismatch
    let entry ← okOr kycEntry .receiverNotApproved
    require (entry.registry = registry.1 ∧ entry.holder = vault.beneficiary) .receiverNotApproved
    requireKycEntryCurrent entry now
    requireJurisdictionAllowed registry.2 entry.jurisdiction
  else
    .ok ()

def burnEscrow (escrow circulatingSupply : Nat) : Except RegistryError Nat :=
  okOr (checkedSub circulatingSupply escrow) .overflow

def realizeCustodyVault (vault : CustodyVault) (authority : Pubkey) (isAdmin : Bool)
    (kycRegistry : Option (Pubkey × KycRegistry)) (kycEntry : Option KycEntry)
    (escrow circulatingSupply : Nat) (now : Int) : Except RegistryError (CustodyVault × Nat) := do
  require (vault.authority = authority) .unauthorized
  require (vault.state = .triggered) .invalidVaultState
  require (isAdmin = true) .accountNotInitialized
  require (vault.realizeAction = .burnAndAttest) .unsupportedRealizeAction
  requireRealizeKyc vault kycRegistry kycEntry now
  let circulatingSupply ← burnEscrow escrow circulatingSupply
  return ({ vault with state := .realized }, circulatingSupply)

def revertCustodyVault (vault : CustodyVault) (payer : Pubkey) (isAdmin : Bool)
    (escrow circulatingSupply : Nat) (now : Int) : Except RegistryError (CustodyVault × Nat) := do
  require (vault.state = .active) .invalidVaultState
  require (vault.vaultType ≠ .deliveryEscrow) .deliveryVaultUseReturn
  require (vault.deadline ≤ now) .vaultNotExpired
  require ((payer = vault.authority ∧ isAdmin = true) ∨ 0 < vault.deadline) .revertNotAllowed
  let circulatingSupply ← burnEscrow escrow circulatingSupply
  return ({ vault with state := .reverted }, circulatingSupply)

/-- A return that could pay nothing reports why. -/
def surfaceRefusal (release : EscrowRelease) (escrow : Nat) : Except RegistryError Unit :=
  if release.payout = 0 ∧ 0 < escrow then
    match release.surplusRefusal with
    | some refusal => .error refusal
    | none => .ok ()
  else
    .ok ()

/-- Hands the escrow back to the beneficiary. A surplus that the receiver gate refuses stays in the
escrow and keeps the vault open. -/
def returnCustodyVault (vault : CustodyVault) (signer : Pubkey) (isAdmin : Bool) (escrow : Nat)
    (receiver : ReceiverKyc) (now : Int) : Except RegistryError (CustodyVault × EscrowRelease) := do
  require (vault.vaultType = .deliveryEscrow) .invalidVaultState
  require (vault.beneficiary ≠ 0) .beneficiaryRequired
  require (vault.state = .active ∨ vault.state = .triggered) .invalidVaultState
  require ((signer = vault.authority ∧ isAdmin = true) ∨ (0 < vault.deadline ∧ vault.deadline ≤ now))
    .returnNotAllowed
  let release := splitEscrowRelease escrow vault.deposited receiver
  surfaceRefusal release escrow
  let spent := { vault with deposited := vault.deposited - release.fromLedger }
  return (if release.withheld = 0 then { spent with state := .returned } else spent, release)

/-! ## What the instructions do -/

section effects
variable {vault vault' : CustodyVault} {authority : Pubkey} {isAdmin : Bool} {now : Int}
variable {escrow circulatingSupply circulatingSupply' : Nat} {pauseFlags : PauseFlags}

theorem requireDeliveryDeadline_ok {vaultType : VaultType} {deadline : Int} {u : Unit}
    (checked : requireDeliveryDeadline vaultType deadline now = .ok u) (delivery : vaultType = .deliveryEscrow) :
    now + deliveryEscrowMinDeadlineSecs ≤ deadline ∧ deadline ≤ now + deliveryEscrowMaxDeadlineSecs := by
  simp only [requireDeliveryDeadline, delivery, if_true, bind_eq_ok, okOr_eq_ok, checkedAddInt_eq_some,
    require_eq_ok] at checked
  obtain ⟨_, ⟨rfl, -⟩, _, ⟨rfl, -⟩, window⟩ := checked
  exact window

theorem openCustodyVault_ok {mintInitialized : Bool} {vaultType : VaultType} {realizeAction : RealizeAction}
    {amount : Nat} {deadline : Int} {beneficiary : Pubkey} {kycRegistry : Option Pubkey}
    (opened : openCustodyVault authority isAdmin mintInitialized pauseFlags vaultType realizeAction amount
      deadline beneficiary kycRegistry now = .ok vault) :
    vault.state = .active ∧ vault.deposited = 0 ∧ vault.realizeAction = .burnAndAttest ∧
      vault.vaultType ≠ .conversionPending ∧ 0 ≤ vault.deadline ∧
      (vault.vaultType = .deliveryEscrow → vault.beneficiary ≠ 0 ∧
        now + deliveryEscrowMinDeadlineSecs ≤ vault.deadline ∧
        vault.deadline ≤ now + deliveryEscrowMaxDeadlineSecs) := by
  simp only [openCustodyVault, bind_eq_ok, require_eq_ok, pure_eq_ok, exists_const] at opened
  obtain ⟨-, -, -, named, registry, -, nonneg, _, window, burning, retired, -, rfl⟩ := opened
  refine ⟨rfl, rfl, burning, retired, nonneg, ?_⟩
  intro delivery
  exact ⟨named.resolve_left (not_not_intro delivery), requireDeliveryDeadline_ok window delivery⟩

theorem depositToCustodyVault_ok {depositor : Pubkey} {amount : Nat}
    (deposited : depositToCustodyVault vault depositor amount pauseFlags = .ok vault') :
    vault.state = .active ∧ vault.vaultType = .deliveryEscrow ∧ depositor = vault.beneficiary ∧
      0 < amount ∧ vault' = { vault with deposited := vault.deposited + amount } := by
  simp only [depositToCustodyVault, bind_eq_ok, require_eq_ok, okOr_eq_ok, checkedAdd_eq_some, pure_eq_ok,
    exists_const] at deposited
  obtain ⟨active, -, positive, -, ⟨delivery, own⟩, _, ⟨rfl, -⟩, rfl⟩ := deposited
  exact ⟨active, delivery, own, positive, rfl⟩

theorem triggerCustodyVault_ok (triggered : triggerCustodyVault vault authority isAdmin = .ok vault') :
    vault.state = .active ∧ vault' = { vault with state := .triggered } := by
  simp only [triggerCustodyVault, bind_eq_ok, require_eq_ok, pure_eq_ok, exists_const] at triggered
  obtain ⟨-, active, -, rfl⟩ := triggered
  exact ⟨active, rfl⟩

theorem burnEscrow_ok (burned : burnEscrow escrow circulatingSupply = .ok circulatingSupply') :
    escrow ≤ circulatingSupply ∧ circulatingSupply' = circulatingSupply - escrow := by
  simp only [burnEscrow, okOr_eq_ok, checkedSub_eq_some] at burned
  exact ⟨burned.2, burned.1.symm⟩

theorem realizeCustodyVault_ok {kycRegistry : Option (Pubkey × KycRegistry)} {kycEntry : Option KycEntry}
    (realized : realizeCustodyVault vault authority isAdmin kycRegistry kycEntry escrow circulatingSupply now =
      .ok (vault', circulatingSupply')) :
    vault.state = .triggered ∧ vault' = { vault with state := .realized } ∧
      burnEscrow escrow circulatingSupply = .ok circulatingSupply' := by
  simp only [realizeCustodyVault, bind_eq_ok, require_eq_ok, pure_eq_ok, Prod.mk.injEq, exists_const] at realized
  obtain ⟨-, triggered, -, -, -, -, _, burned, rfl, rfl⟩ := realized
  exact ⟨triggered, rfl, burned⟩

theorem revertCustodyVault_ok {payer : Pubkey}
    (reverted : revertCustodyVault vault payer isAdmin escrow circulatingSupply now =
      .ok (vault', circulatingSupply')) :
    vault.state = .active ∧ vault.vaultType ≠ .deliveryEscrow ∧ vault' = { vault with state := .reverted } ∧
      burnEscrow escrow circulatingSupply = .ok circulatingSupply' := by
  simp only [revertCustodyVault, bind_eq_ok, require_eq_ok, pure_eq_ok, Prod.mk.injEq, exists_const] at reverted
  obtain ⟨active, burning, -, -, _, burned, rfl, rfl⟩ := reverted
  exact ⟨active, burning, rfl, burned⟩

theorem returnCustodyVault_ok {signer : Pubkey} {receiver : ReceiverKyc} {release : EscrowRelease}
    (returned : returnCustodyVault vault signer isAdmin escrow receiver now = .ok (vault', release)) :
    vault.vaultType = .deliveryEscrow ∧ (vault.state = .active ∨ vault.state = .triggered) ∧
      release = splitEscrowRelease escrow vault.deposited receiver ∧
      vault' = { vault with
        deposited := vault.deposited - release.fromLedger
        state := if release.withheld = 0 then .returned else vault.state } := by
  simp only [returnCustodyVault, bind_eq_ok, require_eq_ok, pure_eq_ok, Prod.mk.injEq, exists_const] at returned
  obtain ⟨delivery, -, running, -, -, -, rfl, rfl⟩ := returned
  refine ⟨delivery, running, rfl, ?_⟩
  split <;> rfl

theorem surfaceRefusal_of_payable {deposited : Nat} {receiver : ReceiverKyc}
    (payable : 0 < deposited ∨ receiver = .ok () ∨ escrow ≤ deposited) :
    surfaceRefusal (splitEscrowRelease escrow deposited receiver) escrow = .ok () := by
  have stuck : ¬ ((splitEscrowRelease escrow deposited receiver).payout = 0 ∧ 0 < escrow) := by
    have below := splitEscrowRelease_ledger_le_payout escrow deposited receiver
    rcases payable with positive | rest
    · omega
    · rw [splitEscrowRelease_payout_eq _ _ _ rest]
      omega
  rw [surfaceRefusal, if_neg stuck]

theorem returnCustodyVault_succeeds {signer : Pubkey} {receiver : ReceiverKyc}
    (delivery : vault.vaultType = .deliveryEscrow) (named : vault.beneficiary ≠ 0)
    (running : vault.state = .active ∨ vault.state = .triggered)
    (allowed : (signer = vault.authority ∧ isAdmin = true) ∨ (0 < vault.deadline ∧ vault.deadline ≤ now))
    (payable : 0 < vault.deposited ∨ receiver = .ok () ∨ escrow ≤ vault.deposited) :
    ∃ vault', returnCustodyVault vault signer isAdmin escrow receiver now =
      .ok (vault', splitEscrowRelease escrow vault.deposited receiver) := by
  simp only [returnCustodyVault, bind_eq_ok, require_eq_ok, pure_eq_ok, Prod.mk.injEq, exists_const]
  exact ⟨_, delivery, named, running, allowed, (), surfaceRefusal_of_payable payable, rfl, trivial⟩

end effects

end Mancipatio.Custody
