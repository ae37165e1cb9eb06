import Mancipatio.Basic

/-!
# OTC deals

A bilateral swap between a named buyer and seller: whichever deposit lands second settles both legs in
the same instruction. Every instruction returns the deal and the token movements it makes.
-/

namespace Mancipatio.Otc
open Checked

def otcDealMaxTtlSecs : Int := 7776000

inductive OtcDealStatus where
  | open
  | completed
  | cancelled
  | expired
  deriving DecidableEq, Repr

structure OtcDeal where
  admin : Pubkey
  buyer : Pubkey
  seller : Pubkey
  amount : Nat
  price : Nat
  assetDeposited : Bool
  paymentDeposited : Bool
  status : OtcDealStatus
  expiresAt : Int
  assetDepositedAmount : Nat
  paymentDepositedAmount : Nat
  deriving DecidableEq, Repr

structure OtcLegs where
  assetFromSeller : Nat := 0
  paymentFromBuyer : Nat := 0
  assetToBuyer : Nat := 0
  assetToSeller : Nat := 0
  paymentToSeller : Nat := 0
  paymentToBuyer : Nat := 0
  deriving DecidableEq, Repr

def createOtcDeal (authority : Pubkey) (isAdmin mintInitialized : Bool) (pauseFlags : PauseFlags)
    (buyer seller : Pubkey) (amount price : Nat) (expiresAt now : Int) : Except RegistryError OtcDeal := do
  require (isAdmin = true) .accountNotInitialized
  require (mintInitialized = true) .mintNotInitialized
  require (¬ isPaused pauseFlags pauseSecondary) .platformPaused
  require (0 < amount ∧ 0 < price) .invalidDealParams
  require (buyer ≠ seller) .invalidDealParams
  let latest ← okOr (checkedAddInt 64 now otcDealMaxTtlSecs) .overflow
  require (now < expiresAt ∧ expiresAt ≤ latest) .dealExpiryOutOfRange
  return { admin := authority, buyer, seller, amount, price, assetDeposited := false,
           paymentDeposited := false, status := .open, expiresAt, assetDepositedAmount := 0,
           paymentDepositedAmount := 0 }

/-- Delivers exactly the deal's amounts; the buyer must pass the receiver gate. -/
def settleOtcDeal (deal : OtcDeal) (receiver : ReceiverKyc) (legs : OtcLegs) : Except RegistryError OtcLegs := do
  receiver
  return { legs with assetToBuyer := deal.amount, paymentToSeller := deal.price }

def depositOtcAsset (deal : OtcDeal) (seller : Pubkey) (pauseFlags : PauseFlags)
    (buyerBlocked sellerBlocked : Bool) (now : Int) (receiver : ReceiverKyc) :
    Except RegistryError (OtcDeal × OtcLegs) := do
  require (deal.seller = seller) .wrongDealParty
  require (deal.status = .open) .dealNotOpen
  require (deal.assetDeposited = false) .dealAlreadyDeposited
  require (¬ isPaused pauseFlags pauseSecondary) .platformPaused
  require (buyerBlocked = false) .partyBlocklisted
  require (sellerBlocked = false) .partyBlocklisted
  require (deal.expiresAt = 0 ∨ now ≤ deal.expiresAt) .dealExpired
  let deposited := { deal with assetDeposited := true, assetDepositedAmount := deal.amount }
  if deal.paymentDeposited then
    let legs ← settleOtcDeal deal receiver { assetFromSeller := deal.amount }
    return ({ deposited with status := .completed }, legs)
  else
    return (deposited, { assetFromSeller := deal.amount })

def depositOtcPayment (deal : OtcDeal) (buyer : Pubkey) (pauseFlags : PauseFlags)
    (buyerBlocked sellerBlocked : Bool) (now : Int) (receiver : ReceiverKyc) :
    Except RegistryError (OtcDeal × OtcLegs) := do
  require (deal.buyer = buyer) .wrongDealParty
  require (deal.status = .open) .dealNotOpen
  require (deal.paymentDeposited = false) .dealAlreadyDeposited
  require (¬ isPaused pauseFlags pauseSecondary) .platformPaused
  require (buyerBlocked = false) .partyBlocklisted
  require (sellerBlocked = false) .partyBlocklisted
  require (deal.expiresAt = 0 ∨ now ≤ deal.expiresAt) .dealExpired
  let deposited := { deal with paymentDeposited := true, paymentDepositedAmount := deal.price }
  if deal.assetDeposited then
    let legs ← settleOtcDeal deal receiver { paymentFromBuyer := deal.price }
    return ({ deposited with status := .completed }, legs)
  else
    return (deposited, { paymentFromBuyer := deal.price })

/-- Each side gets back its recorded deposit; units above the seller's ledger go to the seller only if
the receiver gate accepts it, and a refusal never fails the refund. -/
def refundOtcDeposits (deal : OtcDeal) (assetBalance paymentBalance : Nat) (receiver : ReceiverKyc) : OtcLegs :=
  { assetToSeller := (splitEscrowRelease assetBalance deal.assetDepositedAmount receiver).payout
    paymentToBuyer := min paymentBalance deal.paymentDepositedAmount }

def cancelOtcDeal (deal : OtcDeal) (isAdmin : Bool) (assetBalance paymentBalance : Nat)
    (receiver : ReceiverKyc) : Except RegistryError (OtcDeal × OtcLegs) := do
  require (isAdmin = true) .accountNotInitialized
  require (deal.status = .open) .dealNotOpen
  return ({ deal with status := .cancelled }, refundOtcDeposits deal assetBalance paymentBalance receiver)

def expireOtcDeal (deal : OtcDeal) (buyerBlocked sellerBlocked : Bool) (assetBalance paymentBalance : Nat)
    (now : Int) (receiver : ReceiverKyc) : Except RegistryError (OtcDeal × OtcLegs) := do
  require (deal.status = .open) .dealNotOpen
  require (0 < deal.expiresAt ∧ deal.expiresAt < now) .dealNotExpired
  require ((deal.paymentDeposited = false ∨ buyerBlocked = false) ∧
    (deal.assetDeposited = false ∨ sellerBlocked = false)) .partyBlocklisted
  return ({ deal with status := .expired }, refundOtcDeposits deal assetBalance paymentBalance receiver)

/-! ## What the instructions do -/

section effects
variable {deal deal' : OtcDeal} {legs : OtcLegs} {now : Int} {receiver : ReceiverKyc}
variable {pauseFlags : PauseFlags} {buyerBlocked sellerBlocked : Bool} {party : Pubkey}

theorem createOtcDeal_ok {authority buyer seller : Pubkey} {isAdmin mintInitialized : Bool}
    {amount price : Nat} {expiresAt : Int}
    (created : createOtcDeal authority isAdmin mintInitialized pauseFlags buyer seller amount price
      expiresAt now = .ok deal) :
    deal.status = .open ∧ deal.assetDeposited = false ∧ deal.paymentDeposited = false ∧
      deal.assetDepositedAmount = 0 ∧ deal.paymentDepositedAmount = 0 ∧ 0 < deal.expiresAt - now := by
  simp only [createOtcDeal, bind_eq_ok, require_eq_ok, okOr_eq_ok, pure_eq_ok, exists_const] at created
  obtain ⟨-, -, -, -, -, _, -, ⟨later, -⟩, rfl⟩ := created
  refine ⟨rfl, rfl, rfl, rfl, rfl, ?_⟩
  dsimp only
  omega

theorem depositOtcAsset_ok
    (deposited : depositOtcAsset deal party pauseFlags buyerBlocked sellerBlocked now receiver = .ok (deal', legs)) :
    deal.status = .open ∧ deal.assetDeposited = false ∧
      (deal.paymentDeposited = true ∧ receiver = .ok () ∧
        deal' = { deal with
          assetDeposited := true
          assetDepositedAmount := deal.amount
          status := .completed } ∧
        legs = { assetFromSeller := deal.amount, assetToBuyer := deal.amount, paymentToSeller := deal.price } ∨
      deal.paymentDeposited = false ∧
        deal' = { deal with assetDeposited := true, assetDepositedAmount := deal.amount } ∧
        legs = { assetFromSeller := deal.amount }) := by
  simp only [depositOtcAsset, bind_eq_ok, require_eq_ok, exists_const] at deposited
  obtain ⟨-, opened, fresh, -, -, -, -, deposited⟩ := deposited
  refine ⟨opened, fresh, ?_⟩
  cases funded : deal.paymentDeposited with
  | true =>
      simp only [funded, if_true, settleOtcDeal, bind_eq_ok, pure_eq_ok, Prod.mk.injEq] at deposited
      obtain ⟨_, ⟨⟨⟩, accepted, rfl⟩, rfl, rfl⟩ := deposited
      exact .inl ⟨rfl, accepted, rfl, rfl⟩
  | false =>
      simp only [funded, Bool.false_eq_true, if_false, pure_eq_ok, Prod.mk.injEq] at deposited
      obtain ⟨rfl, rfl⟩ := deposited
      exact .inr ⟨rfl, rfl, rfl⟩

theorem depositOtcPayment_ok
    (deposited : depositOtcPayment deal party pauseFlags buyerBlocked sellerBlocked now receiver =
      .ok (deal', legs)) :
    deal.status = .open ∧ deal.paymentDeposited = false ∧
      (deal.assetDeposited = true ∧ receiver = .ok () ∧
        deal' = { deal with
          paymentDeposited := true
          paymentDepositedAmount := deal.price
          status := .completed } ∧
        legs = { paymentFromBuyer := deal.price, assetToBuyer := deal.amount, paymentToSeller := deal.price } ∨
      deal.assetDeposited = false ∧
        deal' = { deal with paymentDeposited := true, paymentDepositedAmount := deal.price } ∧
        legs = { paymentFromBuyer := deal.price }) := by
  simp only [depositOtcPayment, bind_eq_ok, require_eq_ok, exists_const] at deposited
  obtain ⟨-, opened, fresh, -, -, -, -, deposited⟩ := deposited
  refine ⟨opened, fresh, ?_⟩
  cases funded : deal.assetDeposited with
  | true =>
      simp only [funded, if_true, settleOtcDeal, bind_eq_ok, pure_eq_ok, Prod.mk.injEq] at deposited
      obtain ⟨_, ⟨⟨⟩, accepted, rfl⟩, rfl, rfl⟩ := deposited
      exact .inl ⟨rfl, accepted, rfl, rfl⟩
  | false =>
      simp only [funded, Bool.false_eq_true, if_false, pure_eq_ok, Prod.mk.injEq] at deposited
      obtain ⟨rfl, rfl⟩ := deposited
      exact .inr ⟨rfl, rfl, rfl⟩

theorem cancelOtcDeal_ok {isAdmin : Bool} {assetBalance paymentBalance : Nat}
    (cancelled : cancelOtcDeal deal isAdmin assetBalance paymentBalance receiver = .ok (deal', legs)) :
    deal.status = .open ∧ deal' = { deal with status := .cancelled } ∧
      legs = refundOtcDeposits deal assetBalance paymentBalance receiver := by
  simp only [cancelOtcDeal, bind_eq_ok, require_eq_ok, pure_eq_ok, Prod.mk.injEq, exists_const] at cancelled
  obtain ⟨-, opened, rfl, rfl⟩ := cancelled
  exact ⟨opened, rfl, rfl⟩

theorem expireOtcDeal_ok {assetBalance paymentBalance : Nat}
    (expired : expireOtcDeal deal buyerBlocked sellerBlocked assetBalance paymentBalance now receiver =
      .ok (deal', legs)) :
    deal.status = .open ∧ deal' = { deal with status := .expired } ∧
      legs = refundOtcDeposits deal assetBalance paymentBalance receiver := by
  simp only [expireOtcDeal, bind_eq_ok, require_eq_ok, pure_eq_ok, Prod.mk.injEq, exists_const] at expired
  obtain ⟨opened, -, -, rfl, rfl⟩ := expired
  exact ⟨opened, rfl, rfl⟩

end effects

end Mancipatio.Otc
