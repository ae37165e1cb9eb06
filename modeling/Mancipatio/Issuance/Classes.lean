import Mancipatio.Authority.Rotation
import Mancipatio.Custody.Vault
import Mancipatio.Library.Holdings
import Mancipatio.Sales.Sale

/-!
# Share classes

A draft asset is given its share classes one after the other. The units of a class are minted by a sale, or by
its issuer into the treasury or into an escrow that only burns or pays claims.
-/

namespace Mancipatio.Issuance
open Checked Authority Custody Sales

inductive IssuanceError where
  | registry (error : RegistryError)
  | assetNotDraft
  | assetHasNoShareClasses
  | invalidShareClassIndex
  | tooManyShareClasses
  | invalidRightsBitfield
  | invalidLiqPref
  | physicalGoodRequiresUnitSupply
  | physicalGoodSingleClass
  | physicalGoodPostLaunchMint
  | mintAlreadyInitialized
  | mintDestinationVaultNotBurnOnly
  | mintDestinationNotBound
  | treasuryMintRequiresAdmin
  deriving DecidableEq, Repr

def registry {α : Type} (x : Except RegistryError α) : Except IssuanceError α :=
  x.mapError .registry

@[simp] theorem registry_eq_ok {α : Type} {x : Except RegistryError α} {a : α} : registry x = .ok a ↔ x = .ok a := by
  cases x <;> simp [registry, Except.mapError]

/-! ## Assets and their classes -/

def issuerPermissionMint : BitVec 8 := 1
def rightsMask : BitVec 8 := 0x3f
def maxShareClasses : Nat := 32
def minLiqPrefBps : Nat := 10000

inductive AssetType where
  | equity
  | revenueShare
  | royalty
  | realEstate
  | debt
  | commodity
  | physicalGood
  | other
  deriving DecidableEq, Repr

inductive AssetStatus where
  | draft
  | active
  | frozen
  | woundDown
  deriving DecidableEq, Repr

structure Asset where
  assetType : AssetType
  status : AssetStatus
  shareClassesCount : Nat
  deriving DecidableEq, Repr

structure ClassTerms where
  rightsBitfield : BitVec 8
  liqPrefMultiplierBps : Nat
  maxSupply : Option Nat
  mintablePostLaunch : Bool
  deriving DecidableEq, Repr

/-- Who owns a token account: a wallet, an account of this program, or another program. -/
inductive Holder where
  | key (key : Pubkey)
  | vault (vault : Nat)
  | issuance (issuance : Nat)
  | program (n : Nat)
  deriving DecidableEq, Repr

/-- The token accounts of a share mint. Escrows lie at addresses of their own; anybody may open further accounts
for any owner. -/
inductive Account where
  | custodyEscrow (vault : Nat)
  | rightsEscrow (issuance : Nat)
  | token (owner : Holder) (n : Nat)
  deriving DecidableEq, Repr

def Account.owner : Account → Holder
  | .custodyEscrow vault => .vault vault
  | .rightsEscrow issuance => .issuance issuance
  | .token owner _ => owner

structure ClassLedger where
  shareClass : ShareClass
  supply : Nat
  units : Account → Nat
  vaults : Nat → Option CustodyVault
  issuances : Nat → Bool

structure IssuerContext where
  registry : Registry
  issuer : Nat
  authority : Pubkey
  proof : ProofAccount
  assetStatus : AssetStatus

def requireVerifiedIssuer (ctx : IssuerContext) : Except RegistryError Unit := do
  let record ← okOr (ctx.registry.issuers ctx.issuer) .accountNotInitialized
  require (record.kybStatus = .verified) .issuerNotVerified
  require (record.authority = ctx.authority) .unauthorized

def addShareClass (ctx : IssuerContext) (asset : Asset) (used : Bool) (classIndex : Nat) (terms : ClassTerms) :
    Except IssuanceError (Asset × ShareClass) := do
  registry (requireVerifiedIssuer ctx)
  require (¬ isPaused ctx.registry.platform.pauseFlags pauseOnboarding) (.registry .platformPaused)
  require (asset.status = .draft) .assetNotDraft
  require (used = false) (.registry .accountAlreadyInUse)
  require (classIndex = asset.shareClassesCount) .invalidShareClassIndex
  require (classIndex < maxShareClasses) .tooManyShareClasses
  require (terms.rightsBitfield &&& ~~~ rightsMask = 0) .invalidRightsBitfield
  require (minLiqPrefBps ≤ terms.liqPrefMultiplierBps) .invalidLiqPref
  require (asset.assetType ≠ .physicalGood ∨ terms.maxSupply = some 1) .physicalGoodRequiresUnitSupply
  require (asset.assetType ≠ .physicalGood ∨ classIndex = 0) .physicalGoodSingleClass
  require (asset.assetType ≠ .physicalGood ∨ terms.mintablePostLaunch = false) .physicalGoodPostLaunchMint
  let shareClassesCount ← okOr (checkedAdd 8 classIndex 1) (.registry .overflow)
  return ({ asset with shareClassesCount },
    { mintInitialized := false, maxSupply := terms.maxSupply, circulatingSupply := 0, lifetimeMinted := 0,
      cumulativeCap := asset.assetType = .physicalGood, supplyLocked := false,
      mintablePostLaunch := terms.mintablePostLaunch, version := shareClassStateVersion })

def activateAsset (ctx : IssuerContext) (isAdmin : Bool) (asset : Asset) : Except IssuanceError Asset := do
  require (isAdmin = true) (.registry .accountNotInitialized)
  let record ← okOr (ctx.registry.issuers ctx.issuer) (.registry .accountNotInitialized)
  require (record.kybStatus = .verified) (.registry .issuerNotVerified)
  require (asset.status = .draft) .assetNotDraft
  require (0 < asset.shareClassesCount) .assetHasNoShareClasses
  return { asset with status := .active }

def initializeShareClassMint (ctx : IssuerContext) (c : ClassLedger) : Except IssuanceError ClassLedger := do
  registry (requireVerifiedIssuer ctx)
  require (c.shareClass.mintInitialized = false) .mintAlreadyInitialized
  require (¬ isPaused ctx.registry.platform.pauseFlags pauseOnboarding) (.registry .platformPaused)
  registry (requireIssuerPermission ctx.registry ctx.proof ctx.issuer ctx.authority issuerPermissionMint)
  return { c with shareClass := { c.shareClass with mintInitialized := true } }

def lockSupply (isAdmin : Bool) (c : ClassLedger) : Except IssuanceError ClassLedger := do
  require (isAdmin = true) (.registry .accountNotInitialized)
  return { c with shareClass := { c.shareClass with supplyLocked := true } }

/-! ## Minting -/

/-- The token program keeps the supply in 64 bits. -/
def mintTo (c : ClassLedger) (destination : Account) (amount : Nat) : Except IssuanceError ClassLedger := do
  let supply ← okOr (checkedAdd 64 c.supply amount) (.registry .overflow)
  return { c with supply, units := Holdings.credit c.units destination amount }

/-- Looks among the accounts appended to a mint for the parent that owns the destination. -/
def boundToEscrowParent (c : ClassLedger) (destination : Account) : List Holder → Except IssuanceError Bool
  | [] => .ok false
  | parent :: rest =>
      if parent ≠ destination.owner then
        boundToEscrowParent c destination rest
      else
        match parent with
        | .vault id =>
            match c.vaults id with
            | some vault =>
                if destination ≠ .custodyEscrow id ∨ vault.state ≠ .active then
                  boundToEscrowParent c destination rest
                else do
                  require (vault.vaultType ≠ .deliveryEscrow ∧ vault.realizeAction = .burnAndAttest) .mintDestinationVaultNotBurnOnly
                  return true
            | none => boundToEscrowParent c destination rest
        | .issuance id =>
            if c.issuances id ∧ destination = .rightsEscrow id then
              .ok true
            else
              boundToEscrowParent c destination rest
        | _ => boundToEscrowParent c destination rest

def mintToTreasury (ctx : IssuerContext) (c : ClassLedger) (destination : Account) (remaining : List Holder) (amount : Nat) :
    Except IssuanceError ClassLedger := do
  registry (requireVerifiedIssuer ctx)
  require (ctx.assetStatus = .active) (.registry .assetNotActive)
  require (c.shareClass.mintInitialized = true) (.registry .mintNotInitialized)
  require (¬ isPaused ctx.registry.platform.pauseFlags pausePrimary) (.registry .platformPaused)
  registry (requireIssuerPermission ctx.registry ctx.proof ctx.issuer ctx.authority issuerPermissionMint)
  let (circulatingSupply, lifetimeMinted) ← registry (nextIssuanceSupply c.shareClass amount)
  require (c.shareClass.supplyLocked = false ∨ c.shareClass.mintablePostLaunch = true) (.registry .supplyLocked)
  let boundToParent ← boundToEscrowParent c destination remaining
  require (destination.owner = .key ctx.authority ∨ boundToParent = true) .mintDestinationNotBound
  require (destination.owner ≠ .key ctx.authority ∨
    ctx.proof = .admin ctx.authority ∧ isActiveAdmin ctx.registry ctx.authority) .treasuryMintRequiresAdmin
  let minted ← mintTo c destination amount
  return { minted with shareClass := { c.shareClass with circulatingSupply, lifetimeMinted } }

/-! ## What the instructions do -/

theorem nextIssuanceSupply_ok {shareClass : ShareClass} {amount circulating lifetime : Nat}
    (next : nextIssuanceSupply shareClass amount = .ok (circulating, lifetime)) :
    circulating = shareClass.circulatingSupply + amount ∧ lifetime = shareClass.lifetimeMinted + amount ∧
      ∀ max ∈ shareClass.maxSupply, (if shareClass.cumulativeCap then lifetime else circulating) ≤ max := by
  simp only [nextIssuanceSupply, bind_eq_ok, require_eq_ok, okOr_eq_ok, checkedAdd_eq_some, pure_eq_ok, Prod.mk.injEq,
    exists_const] at next
  obtain ⟨-, _, ⟨rfl, -⟩, _, ⟨rfl, -⟩, within, rfl, rfl⟩ := next
  exact ⟨rfl, rfl, within⟩

/-- An escrow whose every exit burns. -/
def BurnOnly (vault : CustodyVault) : Prop :=
  vault.vaultType ≠ .deliveryEscrow ∧ vault.realizeAction = .burnAndAttest

theorem boundToEscrowParent_ok {c : ClassLedger} {destination : Account} {remaining : List Holder}
    (bound : boundToEscrowParent c destination remaining = .ok true) :
    (∃ id vault, destination = .custodyEscrow id ∧ c.vaults id = some vault ∧ vault.state = .active ∧ BurnOnly vault) ∨
      ∃ id, destination = .rightsEscrow id ∧ c.issuances id = true := by
  induction remaining with
  | nil => cases bound
  | cons parent rest ih =>
      cases parent with
      | key | program =>
          simp only [boundToEscrowParent, ite_self] at bound
          exact ih bound
      | issuance id =>
          simp only [boundToEscrowParent] at bound
          split_ifs at bound with other own
          · exact ih bound
          · exact .inr ⟨id, own.2, own.1⟩
          · exact ih bound
      | vault id =>
          simp only [boundToEscrowParent] at bound
          split_ifs at bound with other
          · exact ih bound
          cases stored : c.vaults id with
          | none =>
              rw [stored] at bound
              exact ih bound
          | some vault =>
              rw [stored] at bound
              simp only at bound
              split_ifs at bound with foreign
              · exact ih bound
              · push Not at foreign
                simp only [bind_eq_ok, require_eq_ok, pure_eq_ok, exists_const, and_true] at bound
                exact .inl ⟨id, vault, foreign.1, stored, foreign.2, bound⟩

end Mancipatio.Issuance
