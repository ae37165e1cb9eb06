import Mancipatio.Authority.Rotation
import Mancipatio.Issuance.Classes
import Mancipatio.Offers.Offer
import Mancipatio.Otc.Deal
import Mancipatio.Payout.Vault
import Mancipatio.Vesting.Instructions
import Mancipatio.Rights.Milestones
import Mancipatio.Distributions.Plan

/-!
# The pause law

Any admin pauses and only the super admin of the moment resumes. Between a pause and an entry that reads its bit lies
a call of the super admin that cleared it.
-/

namespace Mancipatio.Authority
open Checked Execution

/-! ## Who changes a bit -/

/-- The super admin of the moment clears bit `b`; the bit of the payout modules only on its own. -/
def RegistryLabel.clears (r : Registry) (b : Nat) : RegistryLabel → Prop
  | .setPause admin paused => admin = r.platform.admin ∧ paused = false ∧ (b = 0 ∨ b = 7)
  | .setPauseFlags authority _ clearMask => authority = r.platform.admin ∧ (clearMask.getLsbD b = true ∨ b = 7) ∧
      clearMask ≠ 0 ∧ (b = 6 → clearMask = pausePayoutModules)
  | _ => False

def RegistryLabel.raises (r : Registry) (b : Nat) : RegistryLabel → Prop
  | .setPause admin paused => admin = r.platform.admin ∧ paused = true ∧ b = 0
  | .setPauseFlags authority setMask _ => (authority = r.platform.admin ∨ isActiveAdmin r authority) ∧
      setMask.getLsbD b = true ∧ b < 7
  | _ => False

def RegistryLabel.pauses : RegistryLabel → Bool
  | .setPause _ _ | .setPauseFlags _ _ _ => true
  | _ => false

section steps
variable {r r' : Registry} {label : RegistryLabel} {b : Nat}

theorem pauseFlags_kept (stepped : step r label = .ok r') (quiet : label.pauses = false) :
    r'.platform.pauseFlags = r.platform.pauseFlags := by
  by_cases writes : label.writesRoles = true
  · cases step_effect stepped with
    | paused calm => exact absurd writes (Bool.eq_false_iff.mp calm)
    | elsewhere _ same => exact same.pauseFlags
    | _ => rfl
  simp only [step, bind_eq_ok] at stepped
  obtain ⟨-, -, stepped⟩ := stepped
  cases label with
  | setPause | setPauseFlags => cases quiet
  | openCustodyVault authority vault =>
      simp only [handle, openCustodyVault, bind_eq_ok, pure_eq_ok] at stepped
      obtain ⟨-, -, -, -, rfl⟩ := stepped
      rfl
  | closeCustodyVault vault =>
      simp only [handle, closeCustodyVault, bind_eq_ok, pure_eq_ok] at stepped
      obtain ⟨-, -, -, -, rfl⟩ := stepped
      rfl
  | registerIssuer authority issuer =>
      simp only [handle, registerIssuer, bind_eq_ok, pure_eq_ok] at stepped
      obtain ⟨-, -, -, -, -, -, rfl⟩ := stepped
      rfl
  | verifyIssuerKyb admin issuer approved =>
      simp only [handle, verifyIssuerKyb, bind_eq_ok, pure_eq_ok] at stepped
      obtain ⟨-, -, -, -, rfl⟩ := stepped
      rfl
  | createAsset authority issuer =>
      simp only [handle, createAsset, bind_eq_ok, pure_eq_ok] at stepped
      obtain ⟨-, -, -, -, -, -, -, -, -, -, rfl⟩ := stepped
      rfl
  | setIssuerPermissions superAdmin issuer capabilities =>
      simp only [handle, setIssuerPermissions, bind_eq_ok, pure_eq_ok] at stepped
      obtain ⟨-, -, -, -, -, -, -, -, rfl⟩ := stepped
      rfl
  | proposeIssuerAuthority authority issuer newAuthority =>
      simp only [handle, proposeIssuerAuthority, bind_eq_ok, pure_eq_ok] at stepped
      obtain ⟨-, -, -, -, -, -, -, -, -, -, rfl⟩ := stepped
      rfl
  | cancelIssuerAuthorityTransfer authority issuer =>
      simp only [handle, cancelIssuerAuthorityTransfer, bind_eq_ok, pure_eq_ok] at stepped
      obtain ⟨-, -, -, -, -, -, rfl⟩ := stepped
      rfl
  | setUpgradeAuthority | setBlocked | tick =>
      cases stepped
      rfl
  | _ => exact absurd rfl writes

theorem onboarding_bit : ∀ b < 8, pauseOnboarding.getLsbD b = decide (b = 0) := by
  decide

theorem payoutModules_bit : ∀ b < 8, pausePayoutModules.getLsbD b = decide (b = 6) := by
  decide

theorem bootstrap_bit : ∀ b < 8, platformBootstrapOpen.getLsbD b = decide (b = 7) := by
  decide

theorem defined_bit : ∀ b < 8, pauseFlagsAll.getLsbD b = decide (b < 7) := by
  decide

theorem setPause_bit {admin : Pubkey} {paused : Bool} (stepped : step r (.setPause admin paused) = .ok r') (small : b < 8) :
    admin = r.platform.admin ∧ r'.platform.pauseFlags.getLsbD b =
      if paused then r.platform.pauseFlags.getLsbD b || decide (b = 0)
      else r.platform.pauseFlags.getLsbD b && ! (decide (b = 0) || decide (b = 7)) := by
  simp only [step, handle, setPause, bind_eq_ok, require_eq_ok, pure_eq_ok, exists_const] at stepped
  obtain ⟨-, own, rfl⟩ := stepped
  refine ⟨own.symm, ?_⟩
  cases paused with
  | true =>
      simp only [if_true]
      rw [BitVec.getLsbD_or, onboarding_bit b small]
  | false =>
      simp only [Bool.false_eq_true, if_false]
      rw [BitVec.getLsbD_and, BitVec.getLsbD_not, BitVec.getLsbD_or, onboarding_bit b small, bootstrap_bit b small,
        decide_eq_true small, Bool.true_and]

theorem setPauseFlags_bit {authority : Pubkey} {setMask clearMask : PauseFlags}
    (stepped : step r (.setPauseFlags authority setMask clearMask) = .ok r') (small : b < 8) :
    (authority = r.platform.admin ∨ isActiveAdmin r authority) ∧ (setMask.getLsbD b = true → b < 7) ∧
      (clearMask = 0 ∨ authority = r.platform.admin) ∧
      (clearMask.getLsbD 6 = true → clearMask = pausePayoutModules) ∧
      r'.platform.pauseFlags.getLsbD b = ((r.platform.pauseFlags.getLsbD b || setMask.getLsbD b) && ! clearMask.getLsbD b &&
        ! (decide (clearMask ≠ 0) && decide (b = 7))) := by
  simp only [step, handle, setPauseFlags, bind_eq_ok, require_eq_ok, pure_eq_ok, exists_const, decide_eq_true_eq] at stepped
  obtain ⟨-, entitled, ⟨defined, -⟩, clearing, payout, rfl⟩ := stepped
  refine ⟨entitled, ?_, clearing, ?_, ?_⟩
  · intro set
    have within := congrArg (BitVec.getLsbD · b) defined
    simp only [BitVec.getLsbD_and, BitVec.getLsbD_not, defined_bit b small, set, small] at within
    simpa using within
  · intro cleared
    apply payout.resolve_left
    intro apart
    have six := congrArg (BitVec.getLsbD · 6) apart
    simp only [BitVec.getLsbD_and, payoutModules_bit 6 (by decide), cleared] at six
    cases six
  · dsimp only
    by_cases none' : clearMask = 0
    · rw [if_neg (not_not.mpr none'), none']
      simp only [BitVec.getLsbD_and, BitVec.getLsbD_or, BitVec.getLsbD_not]
      simp [small]
    · rw [if_pos none']
      simp only [BitVec.getLsbD_and, BitVec.getLsbD_or, BitVec.getLsbD_not, bootstrap_bit b small]
      rw [decide_eq_true small, decide_eq_true none', Bool.true_and, Bool.true_and, Bool.true_and]

theorem clears_of_fallen (stepped : step r label = .ok r') (small : b < 8) (had : r.platform.pauseFlags.getLsbD b = true)
    (lost : r'.platform.pauseFlags.getLsbD b = false) : label.clears r b := by
  cases label with
  | setPause admin paused =>
      obtain ⟨own, bit⟩ := setPause_bit stepped small
      rw [bit, had] at lost
      cases paused with
      | true => cases lost
      | false => exact ⟨own, rfl, by simpa [or_iff_not_imp_left] using lost⟩
  | setPauseFlags authority setMask clearMask =>
      obtain ⟨-, -, clearing, payout, bit⟩ := setPauseFlags_bit stepped small
      rw [bit, had] at lost
      by_cases none' : clearMask = 0
      · simp [none'] at lost
      refine ⟨clearing.resolve_left none', ?_, none', ?_⟩
      · cases cleared : clearMask.getLsbD b with
        | true => exact .inl rfl
        | false =>
            rw [cleared] at lost
            simp only [Bool.true_or, Bool.not_false, Bool.true_and, Bool.not_eq_false', Bool.and_eq_true, decide_eq_true_eq] at lost
            exact .inr lost.2
      · rintro rfl
        apply payout
        cases cleared : clearMask.getLsbD 6 with
        | true => rfl
        | false =>
            rw [cleared] at lost
            simp at lost
  | _ =>
      rw [pauseFlags_kept stepped rfl, had] at lost
      cases lost

theorem raises_of_risen (stepped : step r label = .ok r') (small : b < 8) (lacked : r.platform.pauseFlags.getLsbD b = false)
    (has : r'.platform.pauseFlags.getLsbD b = true) : label.raises r b := by
  cases label with
  | setPause admin paused =>
      obtain ⟨own, bit⟩ := setPause_bit stepped small
      rw [bit, lacked] at has
      cases paused with
      | true => exact ⟨own, rfl, by simpa using has⟩
      | false => cases has
  | setPauseFlags authority setMask clearMask =>
      obtain ⟨entitled, defined, -, -, bit⟩ := setPauseFlags_bit stepped small
      rw [bit, lacked] at has
      have set : setMask.getLsbD b = true := by
        cases set : setMask.getLsbD b with
        | true => rfl
        | false =>
            rw [set] at has
            cases has
      exact ⟨entitled, set, defined set⟩
  | _ =>
      rw [pauseFlags_kept stepped rfl, lacked] at has
      cases has

theorem closed_of_clears (stepped : step r label = .ok r') (clears : label.clears r b) :
    r'.platform.pauseFlags.getLsbD 7 = false := by
  cases label with
  | setPause admin paused =>
      obtain ⟨-, rfl, -⟩ := clears
      rw [(setPause_bit stepped (by decide)).2]
      simp
  | setPauseFlags authority setMask clearMask =>
      obtain ⟨-, -, some', -⟩ := clears
      obtain ⟨-, -, -, -, bit⟩ := setPauseFlags_bit stepped (b := 7) (by decide)
      rw [bit, decide_eq_true some']
      simp
  | _ => cases clears

end steps

/-! ## Entries -/

/-- An instruction that reads the mask goes through while the platform is as in `r`, whatever its other accounts and
arguments are. -/
inductive Enters (r : Registry) : PauseFlags → Prop
  | registerIssuer {authority issuer r'} : registerIssuer r authority issuer = .ok r' → Enters r pauseOnboarding
  | createAsset {authority issuer r'} : createAsset r authority issuer = .ok r' → Enters r pauseOnboarding
  | addShareClass {ctx : Issuance.IssuerContext} {asset used classIndex terms result} : ctx.registry = r →
      Issuance.addShareClass ctx asset used classIndex terms = .ok result → Enters r pauseOnboarding
  | initializeShareClassMint {ctx : Issuance.IssuerContext} {c c'} : ctx.registry = r →
      Issuance.initializeShareClassMint ctx c = .ok c' → Enters r pauseOnboarding
  | openSale {ctx : Sales.OpenContext} {shareClass saleUsed approval p now sale} : ctx.pauseFlags = r.platform.pauseFlags →
      Sales.openSale ctx shareClass saleUsed approval p now = .ok sale → Enters r pausePrimary
  | openStartupSale {ctx : Sales.OpenContext} {shareClass saleUsed approval p now sale} :
      ctx.pauseFlags = r.platform.pauseFlags → p.raiseType = .startup →
      Sales.openSale ctx shareClass saleUsed approval p now = .ok sale → Enters r pausePayoutModules
  | buy {ctx : Sales.BuyContext} {sale shareClass amount now result} : ctx.pauseFlags = r.platform.pauseFlags →
      Sales.buy ctx sale shareClass amount now = .ok result → Enters r pausePrimary
  | buyStartup {ctx : Sales.BuyContext} {sale shareClass amount now result} : ctx.pauseFlags = r.platform.pauseFlags →
      sale.raiseType = .startup → Sales.buy ctx sale shareClass amount now = .ok result → Enters r pausePayoutModules
  | mintToTreasury {ctx : Issuance.IssuerContext} {c destination remaining amount c'} : ctx.registry = r →
      Issuance.mintToTreasury ctx c destination remaining amount = .ok c' → Enters r pausePrimary
  | createOffer {mintInitialized used maker mint paymentMint amount price expiresAt now offer} :
      Offers.createOffer mintInitialized used r.platform.pauseFlags maker mint paymentMint amount price expiresAt now =
        .ok offer → Enters r pauseSecondary
  | depositToOfferEscrow {offer maker amount offer'} :
      Offers.depositToOfferEscrow offer maker r.platform.pauseFlags amount = .ok offer' → Enters r pauseSecondary
  | takeOffer {offer takerBlocked makerBlocked receiver now offer'} :
      Offers.takeOffer offer r.platform.pauseFlags takerBlocked makerBlocked receiver now = .ok offer' → Enters r pauseSecondary
  | createOtcDeal {authority isAdmin mintInitialized buyer seller amount price expiresAt now deal} :
      Otc.createOtcDeal authority isAdmin mintInitialized r.platform.pauseFlags buyer seller amount price expiresAt now =
        .ok deal → Enters r pauseSecondary
  | depositOtcAsset {deal seller buyerBlocked sellerBlocked now receiver result} :
      Otc.depositOtcAsset deal seller r.platform.pauseFlags buyerBlocked sellerBlocked now receiver = .ok result →
      Enters r pauseSecondary
  | depositOtcPayment {deal buyer buyerBlocked sellerBlocked now receiver result} :
      Otc.depositOtcPayment deal buyer r.platform.pauseFlags buyerBlocked sellerBlocked now receiver = .ok result →
      Enters r pauseSecondary
  -- every vault but the quarantine of a clawback, which can only burn
  | openCustodyVault {authority isAdmin mintInitialized vaultType realizeAction amount deadline beneficiary kycRegistry now vault} :
      ¬ (vaultType = .redemptionQueue ∧ realizeAction = .burnAndAttest) →
      Custody.openCustodyVault authority isAdmin mintInitialized r.platform.pauseFlags vaultType realizeAction amount deadline
        beneficiary kycRegistry now = .ok vault → Enters r pauseCustodyEntry
  | depositToCustodyVault {vault depositor amount vault'} :
      Custody.depositToCustodyVault vault depositor amount r.platform.pauseFlags = .ok vault' → Enters r pauseCustodyEntry
  | depositToVestingEscrow {s identity depositor amount result} :
      Vesting.depositToVestingEscrow s identity depositor r.platform.pauseFlags amount = .ok result →
      Enters r pauseDistributions
  | createDistribution {isAdmin mintInitialized address funder paymentMint escrow accounts source totalAmount snapshotSupply
      batchRoot batchCount result} :
      Distributions.createDistribution isAdmin mintInitialized r.platform.pauseFlags address funder paymentMint escrow accounts
        source totalAmount snapshotSupply batchRoot batchCount = .ok result → Enters r pauseDistributions
  | distributeBatch {hashv d plan receipt accounts isAdmin batchId recipients amounts proof result} :
      Distributions.distributeBatch hashv d plan receipt accounts isAdmin r.platform.pauseFlags batchId recipients amounts
        proof = .ok result → Enters r pauseDistributions
  | routeYield {v isAdmin amount investorRoot totalWeight result} :
      Payout.routeYield v isAdmin r.platform.pauseFlags amount investorRoot totalWeight = .ok result →
      Enters r (pauseDistributions ||| pausePayoutModules)
  | createRightsIssuance {state authority isAdmin issuance escrow underlyingMint state'} :
      Rights.createRightsIssuance state authority isAdmin r.platform.pauseFlags issuance escrow underlyingMint = .ok state' →
      Enters r (pauseDistributions ||| pausePayoutModules)
  | publishMilestone {state authority isAdmin key merkleRoot amountPool unlockTs state'} :
      Rights.publishMilestone state authority isAdmin r.platform.pauseFlags key merkleRoot amountPool unlockTs = .ok state' →
      Enters r (pauseDistributions ||| pausePayoutModules)
  | closeSale {ctx : Sales.CloseContext} {sale sale'} : ctx.pauseFlags = r.platform.pauseFlags →
      Sales.closeSale ctx sale = .ok sale' → Enters r pauseIssuerProceeds
  | releasePayout {v issuerFrozen founderBlocked now result} :
      Payout.releasePayout v r.platform.pauseFlags issuerFrozen founderBlocked now = .ok result → Enters r pauseIssuerProceeds
  | claimFounderYield {v founder issuerFrozen founderBlocked result} :
      Payout.claimFounderYield v founder r.platform.pauseFlags issuerFrozen founderBlocked = .ok result →
      Enters r pauseIssuerProceeds

theorem enters_unpaused {r : Registry} {mask : PauseFlags} (enters : Enters r mask) : ¬ isPaused r.platform.pauseFlags mask := by
  cases enters with
  | registerIssuer entered =>
      simp only [registerIssuer, bind_eq_ok, require_eq_ok, exists_const] at entered
      exact entered.1
  | createAsset entered =>
      simp only [createAsset, bind_eq_ok, require_eq_ok, exists_const] at entered
      exact entered.1
  | addShareClass here entered =>
      subst here
      simp only [Issuance.addShareClass, bind_eq_ok, require_eq_ok, exists_const] at entered
      obtain ⟨-, -, unpaused, -⟩ := entered
      exact unpaused
  | initializeShareClassMint here entered =>
      subst here
      simp only [Issuance.initializeShareClassMint, bind_eq_ok, require_eq_ok, exists_const] at entered
      obtain ⟨-, -, -, unpaused, -⟩ := entered
      exact unpaused
  | openSale here entered =>
      simp only [Sales.openSale, here, bind_eq_ok, require_eq_ok, exists_const] at entered
      obtain ⟨-, -, -, -, -, -, -, unpaused, -⟩ := entered
      exact unpaused
  | openStartupSale here startup entered =>
      simp only [Sales.openSale, here, bind_eq_ok, require_eq_ok, exists_const] at entered
      obtain ⟨-, -, -, -, -, -, -, -, -, unpaused, -⟩ := entered
      exact unpaused.resolve_left (not_not.mpr startup)
  | buy here entered =>
      simp only [Sales.buy, here, bind_eq_ok, require_eq_ok, exists_const] at entered
      obtain ⟨-, -, unpaused, -⟩ := entered
      exact unpaused
  | buyStartup here startup entered =>
      simp only [Sales.buy, here, bind_eq_ok, require_eq_ok, exists_const] at entered
      obtain ⟨-, -, -, -, -, unpaused, -⟩ := entered
      exact unpaused.resolve_left (not_not.mpr startup)
  | mintToTreasury here entered =>
      subst here
      simp only [Issuance.mintToTreasury, bind_eq_ok, require_eq_ok, exists_const] at entered
      obtain ⟨-, -, -, -, unpaused, -⟩ := entered
      exact unpaused
  | createOffer entered =>
      simp only [Offers.createOffer, bind_eq_ok, require_eq_ok, exists_const] at entered
      obtain ⟨-, -, unpaused, -⟩ := entered
      exact unpaused
  | depositToOfferEscrow entered =>
      simp only [Offers.depositToOfferEscrow, bind_eq_ok, require_eq_ok, exists_const] at entered
      obtain ⟨-, -, unpaused, -⟩ := entered
      exact unpaused
  | takeOffer entered =>
      simp only [Offers.takeOffer, bind_eq_ok, require_eq_ok, exists_const] at entered
      obtain ⟨-, unpaused, -⟩ := entered
      exact unpaused
  | createOtcDeal entered =>
      simp only [Otc.createOtcDeal, bind_eq_ok, require_eq_ok, exists_const] at entered
      obtain ⟨-, -, unpaused, -⟩ := entered
      exact unpaused
  | depositOtcAsset entered =>
      simp only [Otc.depositOtcAsset, bind_eq_ok, require_eq_ok, exists_const] at entered
      obtain ⟨-, -, -, unpaused, -⟩ := entered
      exact unpaused
  | depositOtcPayment entered =>
      simp only [Otc.depositOtcPayment, bind_eq_ok, require_eq_ok, exists_const] at entered
      obtain ⟨-, -, -, unpaused, -⟩ := entered
      exact unpaused
  | openCustodyVault other entered =>
      simp only [Custody.openCustodyVault, bind_eq_ok, require_eq_ok, exists_const] at entered
      obtain ⟨-, -, unpaused, -⟩ := entered
      exact unpaused.resolve_left other
  | depositToCustodyVault entered =>
      simp only [Custody.depositToCustodyVault, bind_eq_ok, require_eq_ok, exists_const] at entered
      obtain ⟨-, unpaused, -⟩ := entered
      exact unpaused
  | depositToVestingEscrow entered =>
      simp only [Vesting.depositToVestingEscrow, bind_eq_ok, require_eq_ok, exists_const] at entered
      obtain ⟨-, -, unpaused, -⟩ := entered
      exact unpaused
  | createDistribution entered =>
      simp only [Distributions.createDistribution, bind_eq_ok, require_eq_ok, exists_const] at entered
      obtain ⟨-, -, -, -, _, -, -, unpaused, -⟩ := entered
      exact unpaused
  | distributeBatch entered =>
      simp only [Distributions.distributeBatch, bind_eq_ok, require_eq_ok, exists_const] at entered
      obtain ⟨-, unpaused, -⟩ := entered
      exact unpaused
  | routeYield entered =>
      simp only [Payout.routeYield, bind_eq_ok, require_eq_ok, exists_const] at entered
      obtain ⟨-, -, unpaused, -⟩ := entered
      exact unpaused
  | createRightsIssuance entered =>
      simp only [Rights.createRightsIssuance, bind_eq_ok, require_eq_ok, exists_const] at entered
      obtain ⟨-, -, -, unpaused, -⟩ := entered
      exact unpaused
  | publishMilestone entered =>
      simp only [Rights.publishMilestone, bind_eq_ok, require_eq_ok, exists_const] at entered
      obtain ⟨-, _, -, -, -, unpaused, -⟩ := entered
      exact unpaused
  | closeSale here entered =>
      simp only [Sales.closeSale, here, bind_eq_ok, require_eq_ok, exists_const] at entered
      obtain ⟨-, -, unpaused, -⟩ := entered
      exact unpaused
  | releasePayout entered =>
      simp only [Payout.releasePayout, bind_eq_ok, require_eq_ok, exists_const] at entered
      obtain ⟨-, unpaused, -⟩ := entered
      exact unpaused
  | claimFounderYield entered =>
      simp only [Payout.claimFounderYield, bind_eq_ok, require_eq_ok, exists_const] at entered
      obtain ⟨-, unpaused, -⟩ := entered
      exact unpaused

theorem not_enters_of_bit {r : Registry} {mask : PauseFlags} {b : Nat} (paused : r.platform.pauseFlags.getLsbD b = true)
    (reads : mask.getLsbD b = true) : ¬ Enters r mask := by
  intro enters
  apply enters_unpaused enters
  intro none'
  have bit := congrArg (BitVec.getLsbD · b) none'
  simp only [BitVec.getLsbD_and, paused, reads] at bit
  simp at bit

/-! ## Runs -/

/-- In every run of the role instructions since the platform was initialized: between a time with a bit set and a later
one without it, or at which an entry that reads it goes through, the super admin of that moment cleared the bit, and the
bit of the payout modules in a call of its own; a bit that rises is a pause bit that an admin set; and the bootstrap window
is closed by the first clear and never opens again. -/
theorem pause_law (admin : Pubkey) (upgradeAuthority : Option Pubkey) (now : Int)
    (run : Run step (initializePlatform admin upgradeAuthority now)) :
    (∀ b < 8, ∀ i j, i ≤ j → j ≤ run.length → (run.state i).platform.pauseFlags.getLsbD b = true →
      (run.state j).platform.pauseFlags.getLsbD b = false ∨ (∃ mask, mask.getLsbD b = true ∧ Enters (run.state j) mask) →
      ∃ k, i ≤ k ∧ k < j ∧ (run.label k).clears (run.state k) b) ∧
    (∀ b < 8, ∀ i j, i ≤ j → j ≤ run.length → (run.state i).platform.pauseFlags.getLsbD b = false →
      (run.state j).platform.pauseFlags.getLsbD b = true →
      ∃ k, i ≤ k ∧ k < j ∧ (run.label k).raises (run.state k) b) ∧
    (∀ i j, i < j → j ≤ run.length → ∀ b, (run.label i).clears (run.state i) b →
      ¬ (run.state j).platform.bootstrapOpen) := by
  have fallen : ∀ b < 8, ∀ i j, i ≤ j → j ≤ run.length → (run.state i).platform.pauseFlags.getLsbD b = true →
      (run.state j).platform.pauseFlags.getLsbD b = false →
      ∃ k, i ≤ k ∧ k < j ∧ (run.label k).clears (run.state k) b := by
    intro b small i j ordered within had lost
    obtain ⟨k, later, earlier, held, gone⟩ := run.givenUp (P := fun r => r.platform.pauseFlags.getLsbD b = true) ordered had
      (Bool.eq_false_iff.mp lost)
    exact ⟨k, later, earlier,
      clears_of_fallen (run.next k (Nat.lt_of_lt_of_le earlier within)) small held (Bool.eq_false_iff.mpr gone)⟩
  have risen : ∀ b < 8, ∀ i j, i ≤ j → j ≤ run.length → (run.state i).platform.pauseFlags.getLsbD b = false →
      (run.state j).platform.pauseFlags.getLsbD b = true →
      ∃ k, i ≤ k ∧ k < j ∧ (run.label k).raises (run.state k) b := by
    intro b small i j ordered within lacked has
    obtain ⟨k, later, earlier, held, gone⟩ := run.givenUp (P := fun r => r.platform.pauseFlags.getLsbD b = false) ordered
      lacked (by simp [has])
    rw [Bool.not_eq_false] at gone
    exact ⟨k, later, earlier, raises_of_risen (run.next k (Nat.lt_of_lt_of_le earlier within)) small held gone⟩
  refine ⟨?fall, risen, ?bootstrap⟩
  case fall =>
    intro b small i j ordered within had lost
    rcases lost with lost | ⟨mask, reads, enters⟩
    · exact fallen b small i j ordered within had lost
    · apply fallen b small i j ordered within had
      rw [Bool.eq_false_iff]
      intro still
      exact not_enters_of_bit still reads enters
  case bootstrap =>
    intro i j before within b clears bootstrap
    have closed := closed_of_clears (run.next i (Nat.lt_of_lt_of_le before within)) clears
    obtain ⟨k, later, earlier, raises⟩ := risen 7 (by decide) (i + 1) j before within closed (bootstrapOpen_iff.mp bootstrap)
    cases label : run.label k with
    | setPause => simp [label, RegistryLabel.raises] at raises
    | setPauseFlags => simp [label, RegistryLabel.raises] at raises
    | _ =>
        rw [label] at raises
        cases raises

end Mancipatio.Authority
