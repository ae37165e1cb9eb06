import Mancipatio.Payout.Vault

/-!
# Primary sales

An Admin approves a sale of a share class within bounds; the issuer opens it and consumes the approval;
buyers pay into its proceeds escrow and are minted the units.
-/

namespace Mancipatio.Sales
open Checked Payout

def shareClassStateVersion : Nat := 2
def saleApprovalMaxTtlSecs : Int := 7776000
def maxSaleDurationSecs : Int := 31536000

inductive SaleStatus where
  | open
  | closed
  deriving DecidableEq, Repr

structure ShareClass where
  mintInitialized : Bool
  maxSupply : Option Nat
  circulatingSupply : Nat
  lifetimeMinted : Nat
  cumulativeCap : Bool
  supplyLocked : Bool
  mintablePostLaunch : Bool
  version : Nat
  deriving DecidableEq, Repr

structure SaleApproval where
  issuer : Pubkey
  paymentMint : Pubkey
  maxGrossRaise : Nat
  minPricePerUnit : Nat
  maxPricePerUnit : Nat
  raiseType : RaiseType
  expiresAt : Int
  applicationHash : Hash
  approvedBy : Pubkey
  cliffMonths : Nat
  vestingMonths : Nat
  deriving DecidableEq, Repr

structure SaleParams where
  pricePerUnit : Nat
  totalForSale : Nat
  startTs : Int
  endTs : Int
  raiseType : RaiseType
  cliffMonths : Nat
  vestingMonths : Nat
  deriving DecidableEq, Repr

structure Sale where
  paymentMint : Pubkey
  authority : Pubkey
  pricePerUnit : Nat
  totalForSale : Nat
  sold : Nat
  startTs : Int
  endTs : Int
  status : SaleStatus
  raiseType : RaiseType
  cliffMonths : Nat
  vestingMonths : Nat
  applicationHash : Hash
  deriving DecidableEq, Repr

/-! ## Approvals -/

def scheduleOk (raiseType : RaiseType) (cliffMonths vestingMonths : Nat) : Bool :=
  match raiseType with
  | .mature => cliffMonths = 0 ∧ vestingMonths = 0
  | .startup => cliffMonths < vestingMonths

def approveSale (isAdmin issuerVerified saleUsed approved : Bool) (approval : SaleApproval) (now : Int) :
    Except RegistryError SaleApproval := do
  require (isAdmin = true) .accountNotInitialized
  require (issuerVerified = true) .issuerNotVerified
  require (saleUsed = false) .saleIdAlreadyUsed
  require (approved = false) .accountAlreadyInUse
  let latestExpiry ← okOr (checkedAddInt 64 now saleApprovalMaxTtlSecs) .overflow
  require (0 < approval.maxGrossRaise ∧ 0 < approval.minPricePerUnit ∧
    approval.minPricePerUnit ≤ approval.maxPricePerUnit ∧ approval.applicationHash ≠ 0 ∧
    now < approval.expiresAt ∧ approval.expiresAt ≤ latestExpiry) .invalidSaleApproval
  require (scheduleOk approval.raiseType approval.cliffMonths approval.vestingMonths = true) .invalidSaleApproval
  return approval

/-! ## Opening -/

structure OpenContext where
  authority : Pubkey
  issuer : Pubkey
  issuerAuthority : Pubkey
  paymentMint : Pubkey
  issuerVerified : Bool
  assetActive : Bool
  approverIsAdmin : Bool
  pauseFlags : PauseFlags
  issuerFrozen : Bool

def openSale (ctx : OpenContext) (shareClass : ShareClass) (saleUsed : Bool) (approval : SaleApproval) (p : SaleParams)
    (now : Int) : Except RegistryError Sale := do
  require (ctx.issuerVerified = true) .issuerNotVerified
  require (ctx.issuerAuthority = ctx.authority) .unauthorized
  require (ctx.assetActive = true) .assetNotActive
  require (shareClass.mintInitialized = true) .mintNotInitialized
  require (saleUsed = false) .accountAlreadyInUse
  require (approval.issuer = ctx.issuer ∧ approval.paymentMint = ctx.paymentMint) .saleApprovalMismatch
  require (ctx.approverIsAdmin = true) .accountNotInitialized
  require (¬ isPaused ctx.pauseFlags pausePrimary) .platformPaused
  require (ctx.issuerFrozen = false) .issuerProceedsFrozen
  require (p.raiseType ≠ .startup ∨ ¬ isPaused ctx.pauseFlags pausePayoutModules) .platformPaused
  require (0 < p.totalForSale) .invalidSaleParams
  require (0 < p.pricePerUnit) .invalidSalePrice
  require (0 < p.endTs) .saleDurationInvalid
  require (p.startTs < p.endTs) .invalidSaleParams
  let latestEnd ← okOr (checkedAddInt 64 (max p.startTs now) maxSaleDurationSecs) .overflow
  require (p.endTs ≤ latestEnd) .saleDurationInvalid
  require (p.raiseType ≠ .startup ∨ p.cliffMonths < p.vestingMonths) .invalidRaiseParams
  require (now ≤ approval.expiresAt) .saleApprovalExpired
  require (p.raiseType = approval.raiseType) .saleApprovalMismatch
  require (p.cliffMonths = approval.cliffMonths ∧ p.vestingMonths = approval.vestingMonths) .saleVestingOutsideApproval
  require (p.startTs ≤ approval.expiresAt) .saleStartsAfterApprovalExpiry
  require (approval.minPricePerUnit ≤ p.pricePerUnit ∧ p.pricePerUnit ≤ approval.maxPricePerUnit)
    .salePriceOutsideApproval
  let gross ← okOr (checkedMul 64 p.pricePerUnit p.totalForSale) .saleExceedsApprovedRaise
  require (gross ≤ approval.maxGrossRaise) .saleExceedsApprovedRaise
  return { paymentMint := ctx.paymentMint, authority := ctx.authority, pricePerUnit := p.pricePerUnit,
           totalForSale := p.totalForSale, sold := 0, startTs := p.startTs, endTs := p.endTs, status := .open,
           raiseType := p.raiseType, cliffMonths := p.cliffMonths, vestingMonths := p.vestingMonths,
           applicationHash := approval.applicationHash }

/-! ## Buying -/

def nextIssuanceSupply (shareClass : ShareClass) (amount : Nat) : Except RegistryError (Nat × Nat) := do
  require (shareClass.version = shareClassStateVersion) .accountMigrationRequired
  let circulating ← okOr (checkedAdd 64 shareClass.circulatingSupply amount) .overflow
  let lifetime ← okOr (checkedAdd 64 shareClass.lifetimeMinted amount) .overflow
  require (∀ max ∈ shareClass.maxSupply, (if shareClass.cumulativeCap then lifetime else circulating) ≤ max)
    .maxSupplyExceeded
  return (circulating, lifetime)

structure BuyContext where
  buyer : Pubkey
  issuerVerified : Bool
  pauseFlags : PauseFlags
  buyerBlocked : Bool
  issuerFrozen : Bool
  receiver : ReceiverKyc

def buy (ctx : BuyContext) (sale : Sale) (shareClass : ShareClass) (amount : Nat) (now : Int) :
    Except RegistryError (Sale × ShareClass × Nat) := do
  require (sale.status = .open) .saleNotOpen
  require (ctx.issuerVerified = true) .issuerNotVerified
  require (¬ isPaused ctx.pauseFlags pausePrimary) .platformPaused
  require (ctx.buyerBlocked = false) .partyBlocklisted
  require (ctx.issuerFrozen = false) .issuerProceedsFrozen
  require (sale.raiseType ≠ .startup ∨ ¬ isPaused ctx.pauseFlags pausePayoutModules) .platformPaused
  require (0 < amount) .invalidSaleParams
  require (shareClass.supplyLocked = false ∨ shareClass.mintablePostLaunch = true) .supplyLocked
  let (circulatingSupply, lifetimeMinted) ← nextIssuanceSupply shareClass amount
  require (sale.startTs ≤ now) .saleNotStarted
  require (sale.endTs = 0 ∨ now ≤ sale.endTs) .saleWindowClosed
  let sold ← okOr (checkedAdd 64 sale.sold amount) .overflow
  require (sold ≤ sale.totalForSale) .saleSoldOut
  let cost ← okOr (checkedMul 64 sale.pricePerUnit amount) .overflow
  ctx.receiver
  return ({ sale with sold }, { shareClass with circulatingSupply, lifetimeMinted }, cost)

/-! ## Closing -/

structure CloseContext where
  authority : Pubkey
  pauseFlags : PauseFlags
  issuerFrozen : Bool
  authorityBlocked : Bool
  destinationBlocked : Bool

def closeSale (ctx : CloseContext) (sale : Sale) : Except RegistryError Sale := do
  require (sale.authority = ctx.authority) .unauthorized
  require (sale.status = .open) .saleNotOpen
  require (¬ isPaused ctx.pauseFlags pauseIssuerProceeds) .platformPaused
  require (ctx.issuerFrozen = false) .issuerProceedsFrozen
  require (ctx.authorityBlocked = false ∧ ctx.destinationBlocked = false) .partyBlocklisted
  require (sale.raiseType = .mature) .invalidRaiseParams
  return { sale with status := .closed }

/-! ## Effects -/

theorem approveSale_ok {isAdmin issuerVerified saleUsed approved : Bool} {approval approval' : SaleApproval} {now : Int}
    (accepted : approveSale isAdmin issuerVerified saleUsed approved approval now = .ok approval') :
    isAdmin = true ∧ saleUsed = false ∧ approval' = approval := by
  simp only [approveSale, bind_eq_ok, require_eq_ok, pure_eq_ok, exists_const] at accepted
  obtain ⟨admin, -, unused, -, _, -, -, -, rfl⟩ := accepted
  exact ⟨admin, unused, rfl⟩

structure Within (sale : Sale) (approval : SaleApproval) : Prop where
  price : approval.minPricePerUnit ≤ sale.pricePerUnit ∧ sale.pricePerUnit ≤ approval.maxPricePerUnit
  gross : sale.pricePerUnit * sale.totalForSale ≤ approval.maxGrossRaise
  fits : sale.pricePerUnit * sale.totalForSale < 2 ^ 64
  positive : 0 < sale.pricePerUnit
  window : sale.startTs ≤ approval.expiresAt ∧ 0 < sale.endTs
  sold : sale.sold ≤ sale.totalForSale

theorem openSale_ok {ctx : OpenContext} {shareClass : ShareClass} {saleUsed : Bool} {approval : SaleApproval} {p : SaleParams} {now : Int}
    {sale : Sale} (opened : openSale ctx shareClass saleUsed approval p now = .ok sale) :
    saleUsed = false ∧ Within sale approval ∧ sale.sold = 0 ∧ sale.status = .open ∧
      sale.paymentMint = approval.paymentMint := by
  simp only [openSale, bind_eq_ok, require_eq_ok, okOr_eq_ok, checkedMul_eq_some, pure_eq_ok, exists_const] at opened
  obtain ⟨-, -, -, -, unused, ⟨-, mint⟩, -, -, -, -, -, positive, ends, -, _, -, -, -, -, -, -, starts, price, _,
    ⟨rfl, fits⟩, gross, rfl⟩ := opened
  exact ⟨unused, ⟨price, gross, fits, positive, ⟨starts, ends⟩, Nat.zero_le _⟩, rfl, rfl, mint.symm⟩

theorem buy_ok {ctx : BuyContext} {sale sale' : Sale} {shareClass shareClass' : ShareClass} {amount cost : Nat} {now : Int}
    (bought : buy ctx sale shareClass amount now = .ok (sale', shareClass', cost)) :
    sale.status = .open ∧ sale.startTs ≤ now ∧ (sale.endTs = 0 ∨ now ≤ sale.endTs) ∧
      sale.sold + amount ≤ sale.totalForSale ∧ cost = sale.pricePerUnit * amount ∧
      sale' = { sale with sold := sale.sold + amount } := by
  simp only [buy, bind_eq_ok, require_eq_ok, okOr_eq_ok, checkedAdd_eq_some, checkedMul_eq_some, pure_eq_ok, Prod.exists,
    Prod.mk.injEq, exists_const] at bought
  obtain ⟨open', -, -, -, -, -, -, -, _, _, -, started, running, _, ⟨rfl, -⟩, within, _, ⟨rfl, -⟩, _, -, rfl, -, rfl⟩ :=
    bought
  exact ⟨open', started, running, within, rfl, rfl⟩

theorem closeSale_ok {ctx : CloseContext} {sale sale' : Sale} (closed : closeSale ctx sale = .ok sale') :
    sale.status = .open ∧ sale' = { sale with status := .closed } := by
  simp only [closeSale, bind_eq_ok, require_eq_ok, pure_eq_ok, exists_const] at closed
  obtain ⟨-, open', -, -, -, -, rfl⟩ := closed
  exact ⟨open', rfl⟩

end Mancipatio.Sales
