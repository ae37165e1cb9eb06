import Mancipatio.Authority.Machine
import Mancipatio.Payout.Machine
import Mancipatio.Sales.Containment

/-!
# The freeze of an issuer's proceeds

The sales and payout vaults of every share class together with the roles: a freeze is found through the chain from the
share class over its asset to the issuer, at an address that anyone can send lamports to.
-/

namespace Mancipatio.Freeze
open Checked Execution Ledger Authority Sales Payout

structure IssuerFreeze where
  frozenBy : Pubkey
  frozenAt : Int
  reasonHash : Hash
  deriving DecidableEq, Repr

structure FreezeAccount where
  lamports : Nat
  freeze : Option IssuerFreeze
  deriving DecidableEq, Repr

/-- Owned by the system program and without data, whatever lamports it holds. -/
def isUnset (account : FreezeAccount) : Prop :=
  account.freeze = none
  deriving Decidable

structure Treasury where
  registry : Registry
  -- the issuer of an asset, and the asset of a share class
  assets : Pubkey → Option Nat
  classes : Pubkey → Option Pubkey
  freezes : Nat → FreezeAccount
  launchpad : Launchpad
  payouts : SaleKey → Option PayoutEscrow

inductive TreasuryLabel where
  | role (label : RegistryLabel)
  | createAsset (authority : Pubkey) (issuer : Nat) (asset : Pubkey)
  | addShareClass (asset shareClass : Pubkey)
  | freezeIssuerProceeds (authority : Pubkey) (issuer : Nat) (reasonHash : Hash)
  | unfreezeIssuerProceeds (superAdmin : Pubkey) (issuer : Nat)
  | sendLamports (issuer lamports : Nat)
  | sale (instruction : SaleInstruction)
  | payout (key : SaleKey) (instruction : PayoutInstruction)
  | tick (seconds : Nat)

instance : Inhabited TreasuryLabel := ⟨.tick 0⟩

def issuerOf (s : Treasury) (key : SaleKey) : Option Nat :=
  (s.classes key.1).bind s.assets

def isFrozen (s : Treasury) (issuer : Nat) : Prop :=
  ¬ isUnset (s.freezes issuer)
  deriving Decidable

def issuerFrozen (s : Treasury) (key : SaleKey) : Except RegistryError Bool := do
  let asset ← okOr (s.classes key.1) .accountNotInitialized
  let issuer ← okOr (s.assets asset) .accountNotInitialized
  return decide (isFrozen s issuer)

def freezeIssuerProceeds (s : Treasury) (authority : Pubkey) (issuer : Nat) (reasonHash : Hash) :
    Except RegistryError Treasury := do
  let _ ← okOr (s.registry.issuers issuer) .accountNotInitialized
  require (isUnset (s.freezes issuer)) .accountAlreadyInUse
  require (authority = s.registry.platform.admin ∨ isActiveAdmin s.registry authority) .unauthorized
  return { s with
    freezes := Function.update s.freezes issuer
      { s.freezes issuer with freeze := some { frozenBy := authority, frozenAt := s.registry.now, reasonHash } } }

/-- Closes the account, whose lamports go to the freezer. -/
def unfreezeIssuerProceeds (s : Treasury) (superAdmin : Pubkey) (issuer : Nat) : Except RegistryError Treasury := do
  require (s.registry.platform.admin = superAdmin) .unauthorized
  let _ ← okOr (s.freezes issuer).freeze .accountNotInitialized
  return { s with freezes := Function.update s.freezes issuer { lamports := 0, freeze := none } }

/-! ## What the instructions read -/

def saleOf : SaleInstruction → Option SaleKey
  | .openSale _ key _ | .buy _ key _ _ | .closeSale _ key _ | .openPayoutVault _ _ key => some key
  | _ => none

def saleReading (pauseFlags : PauseFlags) (issuerFrozen : Bool) : SaleInstruction → SaleInstruction
  | .openSale ctx key params => .openSale { ctx with pauseFlags, issuerFrozen } key params
  | .buy ctx key payment amount => .buy { ctx with pauseFlags, issuerFrozen } key payment amount
  | .closeSale ctx key destination => .closeSale { ctx with pauseFlags, issuerFrozen } key destination
  | .openPayoutVault authority _ key => .openPayoutVault authority issuerFrozen key
  | instruction => instruction

def saleFreeze (s : Treasury) (instruction : SaleInstruction) : Except RegistryError Bool :=
  match saleOf instruction with
  | some key => issuerFrozen s key
  | none => .ok false

def paysFounder : PayoutInstruction → Bool
  | .releasePayout _ _ _ | .claimFounderYield _ _ _ _ => true
  | _ => false

def payoutReading (pauseFlags : PauseFlags) (issuerFrozen : Bool) : PayoutInstruction → PayoutInstruction
  | .releasePayout _ _ founderBlocked => .releasePayout pauseFlags issuerFrozen founderBlocked
  | .claimFounderYield founder _ _ founderBlocked => .claimFounderYield founder pauseFlags issuerFrozen founderBlocked
  | .routeYield isAdmin _ amount investorRoot totalWeight => .routeYield isAdmin pauseFlags amount investorRoot totalWeight
  | instruction => instruction

def payoutFreeze (s : Treasury) (key : SaleKey) (instruction : PayoutInstruction) : Except RegistryError Bool :=
  if paysFounder instruction then issuerFrozen s key else .ok false

def sweptInto (launchpad : Launchpad) (payouts : SaleKey → Option PayoutEscrow) :
    SaleInstruction → SaleKey → Option PayoutEscrow
  | .openPayoutVault _ _ key => Function.update payouts key ((launchpad.vaults key).map fun vault => opened vault launchpad.now)
  | _ => payouts

/-! ## The system -/

def step (hashv : Hashv) (s : Treasury) : TreasuryLabel → Except RegistryError Treasury
  -- the clock and the creation of an asset have labels of their own
  | .role (.tick _) | .role (.createAsset _ _) | .sale (.tick _) | .payout _ (.tick _) => .error .missingSignature
  | .role label => do
      return { s with registry := ← Authority.step s.registry label }
  | .createAsset authority issuer asset => do
      require (s.assets asset = none) .accountAlreadyInUse
      let registry ← Authority.step s.registry (.createAsset authority issuer)
      return { s with registry, assets := Function.update s.assets asset (some issuer) }
  | .addShareClass asset shareClass => do
      require ((s.assets asset).isSome = true) .accountNotInitialized
      require (s.classes shareClass = none) .accountAlreadyInUse
      return { s with classes := Function.update s.classes shareClass (some asset) }
  | .freezeIssuerProceeds authority issuer reasonHash => freezeIssuerProceeds s authority issuer reasonHash
  | .unfreezeIssuerProceeds superAdmin issuer => unfreezeIssuerProceeds s superAdmin issuer
  | .sendLamports issuer lamports =>
      return { s with
        freezes := Function.update s.freezes issuer
          { s.freezes issuer with lamports := (s.freezes issuer).lamports + lamports } }
  | .sale instruction => do
      let frozen ← saleFreeze s instruction
      let launchpad ← Sales.step s.launchpad (saleReading s.registry.platform.pauseFlags frozen instruction)
      return { s with launchpad, payouts := sweptInto launchpad s.payouts instruction }
  | .payout key instruction => do
      let frozen ← payoutFreeze s key instruction
      let escrow ← okOr (s.payouts key) .accountNotInitialized
      let escrow ← Payout.step hashv escrow (payoutReading s.registry.platform.pauseFlags frozen instruction)
      return { s with payouts := Function.update s.payouts key (some escrow) }
  | .tick seconds =>
      return { s with
        registry := { s.registry with now := s.registry.now + seconds }
        launchpad := { s.launchpad with now := s.launchpad.now + seconds }
        payouts := fun key => (s.payouts key).map fun escrow => { escrow with now := escrow.now + seconds } }

def treasury (admin : Pubkey) (upgradeAuthority : Option Pubkey) (lamports : Nat → Nat)
    (shareClasses : Pubkey → Option ShareClass) (wallets : Pubkey → Option (TokenAccount Address)) (now : Int) : Treasury :=
  { registry := initializePlatform admin upgradeAuthority now, assets := fun _ => none, classes := fun _ => none,
    freezes := fun issuer => { lamports := lamports issuer, freeze := none },
    launchpad := launchpad shareClasses wallets now, payouts := fun _ => none }

inductive Effect (hashv : Hashv) (s : Treasury) : TreasuryLabel → Treasury → Prop
  | role {label registry} : Effect hashv s (.role label) { s with registry }
  | created {authority issuer asset registry} (fresh : s.assets asset = none) :
      Effect hashv s (.createAsset authority issuer asset)
        { s with registry, assets := Function.update s.assets asset (some issuer) }
  | added {asset shareClass} (fresh : s.classes shareClass = none) :
      Effect hashv s (.addShareClass asset shareClass)
        { s with classes := Function.update s.classes shareClass (some asset) }
  | froze {authority issuer reasonHash} (unset : ¬ isFrozen s issuer)
      (entitled : authority = s.registry.platform.admin ∨ isActiveAdmin s.registry authority) :
      Effect hashv s (.freezeIssuerProceeds authority issuer reasonHash)
        { s with
          freezes := Function.update s.freezes issuer
            { s.freezes issuer with freeze := some { frozenBy := authority, frozenAt := s.registry.now, reasonHash } } }
  | lifted {issuer} (held : isFrozen s issuer) :
      Effect hashv s (.unfreezeIssuerProceeds s.registry.platform.admin issuer)
        { s with freezes := Function.update s.freezes issuer { lamports := 0, freeze := none } }
  | funded {issuer lamports} :
      Effect hashv s (.sendLamports issuer lamports)
        { s with
          freezes := Function.update s.freezes issuer
            { s.freezes issuer with lamports := (s.freezes issuer).lamports + lamports } }
  | sold {instruction frozen launchpad} (chain : saleFreeze s instruction = .ok frozen)
      (moved : Sales.step s.launchpad (saleReading s.registry.platform.pauseFlags frozen instruction) = .ok launchpad) :
      Effect hashv s (.sale instruction) { s with launchpad, payouts := sweptInto launchpad s.payouts instruction }
  | paid {key instruction frozen escrow escrow'} (chain : payoutFreeze s key instruction = .ok frozen)
      (held : s.payouts key = some escrow)
      (moved : Payout.step hashv escrow (payoutReading s.registry.platform.pauseFlags frozen instruction) = .ok escrow') :
      Effect hashv s (.payout key instruction) { s with payouts := Function.update s.payouts key (some escrow') }
  | ticked {seconds} :
      Effect hashv s (.tick seconds)
        { s with
          registry := { s.registry with now := s.registry.now + seconds }
          launchpad := { s.launchpad with now := s.launchpad.now + seconds }
          payouts := fun key => (s.payouts key).map fun escrow => { escrow with now := escrow.now + seconds } }

theorem step_effect {hashv : Hashv} {s t : Treasury} {label : TreasuryLabel} (stepped : step hashv s label = .ok t) :
    Effect hashv s label t := by
  unfold step at stepped
  split at stepped
  case h_1 | h_2 | h_3 | h_4 => cases stepped
  case h_5 =>
    simp only [bind_eq_ok, pure_eq_ok] at stepped
    obtain ⟨registry, -, rfl⟩ := stepped
    exact .role
  case h_6 =>
    simp only [bind_eq_ok, require_eq_ok, pure_eq_ok, exists_const] at stepped
    obtain ⟨fresh, registry, -, rfl⟩ := stepped
    exact .created fresh
  case h_7 =>
    simp only [bind_eq_ok, require_eq_ok, pure_eq_ok, exists_const] at stepped
    obtain ⟨-, fresh, rfl⟩ := stepped
    exact .added fresh
  case h_8 =>
    simp only [freezeIssuerProceeds, bind_eq_ok, require_eq_ok, pure_eq_ok, exists_const] at stepped
    obtain ⟨_, -, unset, entitled, rfl⟩ := stepped
    exact .froze (not_not_intro unset) entitled
  case h_9 =>
    simp only [unfreezeIssuerProceeds, bind_eq_ok, require_eq_ok, okOr_eq_ok, pure_eq_ok, exists_const] at stepped
    obtain ⟨rfl, freeze, held, rfl⟩ := stepped
    exact .lifted (by simp [isFrozen, isUnset, held])
  case h_10 =>
    cases stepped
    exact .funded
  case h_11 =>
    simp only [bind_eq_ok, pure_eq_ok] at stepped
    obtain ⟨frozen, chain, launchpad, moved, rfl⟩ := stepped
    exact .sold chain moved
  case h_12 =>
    simp only [bind_eq_ok, okOr_eq_ok, pure_eq_ok] at stepped
    obtain ⟨frozen, chain, escrow, held, escrow', moved, rfl⟩ := stepped
    exact .paid chain held moved
  case h_13 =>
    cases stepped
    exact .ticked

/-! ## The chain of a sale and the freeze of an issuer -/

section steps
variable {hashv : Hashv} {s t : Treasury} {label : TreasuryLabel} {key : SaleKey} {issuer : Nat}

theorem issuerFrozen_of_chain {frozen : Bool} (chain : issuerOf s key = some issuer)
    (read : issuerFrozen s key = .ok frozen) : frozen = decide (isFrozen s issuer) := by
  obtain ⟨asset, class', owner⟩ := Option.bind_eq_some_iff.mp chain
  simp only [issuerFrozen, bind_eq_ok, okOr_eq_ok, pure_eq_ok] at read
  obtain ⟨asset', class'', issuer', owner', rfl⟩ := read
  obtain rfl : asset = asset' := Option.some.inj (class'.symm.trans class'')
  obtain rfl : issuer = issuer' := Option.some.inj (owner.symm.trans owner')
  rfl

theorem extended_row {κ γ : Type} [DecidableEq κ] {table : κ → Option γ} {new other : κ} {row row' : γ}
    (fresh : table new = none) (stored : table other = some row) :
    Function.update table new (some row') other = some row := by
  have apart : other ≠ new := by
    rintro rfl
    rw [fresh] at stored
    cases stored
  rw [Function.update_of_ne apart, stored]

theorem issuerOf_kept (stepped : step hashv s label = .ok t) (chain : issuerOf s key = some issuer) :
    issuerOf t key = some issuer := by
  obtain ⟨asset, class', owner⟩ := Option.bind_eq_some_iff.mp chain
  apply Option.bind_eq_some_iff.mpr
  cases step_effect stepped with
  | created fresh => exact ⟨asset, class', extended_row fresh owner⟩
  | added fresh => exact ⟨asset, extended_row fresh class', owner⟩
  | role | froze | lifted | funded | sold | paid | ticked => exact ⟨asset, class', owner⟩

theorem freeze_written (freezes : Nat → FreezeAccount) (written : Nat) (account : FreezeAccount) (issuer : Nat) :
    (Function.update freezes written account issuer).freeze =
      if issuer = written then account.freeze else (freezes issuer).freeze := by
  by_cases same : issuer = written
  · subst same
    rw [Function.update_self, if_pos rfl]
  · rw [Function.update_of_ne same, if_neg same]

theorem freeze_step (stepped : step hashv s label = .ok t) (issuer : Nat) :
    (t.freezes issuer).freeze = (s.freezes issuer).freeze ∨
      (∃ authority reasonHash, label = .freezeIssuerProceeds authority issuer reasonHash ∧ ¬ isFrozen s issuer ∧
        (authority = s.registry.platform.admin ∨ isActiveAdmin s.registry authority)) ∨
      (label = .unfreezeIssuerProceeds s.registry.platform.admin issuer ∧ isFrozen s issuer) := by
  cases step_effect stepped with
  | role | created | added | sold | paid | ticked => exact .inl rfl
  | @froze authority other reasonHash unset entitled =>
      by_cases same : issuer = other
      · subst same
        exact .inr (.inl ⟨authority, reasonHash, rfl, unset, entitled⟩)
      · exact .inl ((freeze_written _ _ _ _).trans (if_neg same))
  | @lifted other held =>
      by_cases same : issuer = other
      · subst same
        exact .inr (.inr ⟨rfl, held⟩)
      · exact .inl ((freeze_written _ _ _ _).trans (if_neg same))
  | @funded other lamports =>
      left
      rw [freeze_written]
      by_cases same : issuer = other
      · rw [if_pos same, same]
      · rw [if_neg same]

/-! ## The sales of a frozen issuer -/

theorem sale_refused {v v' : Launchpad} {instruction : SaleInstruction} {pauseFlags : PauseFlags}
    (named : saleOf instruction = some key)
    (stepped : Sales.step v (saleReading pauseFlags true instruction) = .ok v') : False := by
  cases instruction with
  | openSale ctx _ params =>
      simp only [saleReading, Sales.step, Sales.openSale, bind_eq_ok, require_eq_ok, exists_const] at stepped
      obtain ⟨_, -, _, -, _, ⟨-, -, -, -, -, -, -, -, unfrozen, -⟩, -⟩ := stepped
      cases unfrozen
  | buy ctx _ payment amount =>
      simp only [saleReading, Sales.step, buy, bind_eq_ok, require_eq_ok, exists_const] at stepped
      obtain ⟨_, -, _, -, _, ⟨-, -, -, -, unfrozen, -⟩, -⟩ := stepped
      cases unfrozen
  | closeSale ctx _ destination =>
      simp only [saleReading, Sales.step, closeSale, bind_eq_ok, require_eq_ok, exists_const] at stepped
      obtain ⟨_, -, _, -, _, -, -, _, ⟨-, -, -, unfrozen, -⟩, -⟩ := stepped
      cases unfrozen
  | openPayoutVault authority _ _ =>
      simp only [saleReading, Sales.step, Payout.openPayoutVault, bind_eq_ok, require_eq_ok, exists_const] at stepped
      obtain ⟨_, -, _, -, -, _, -, _, ⟨-, -, -, unfrozen, -⟩, -⟩ := stepped
      cases unfrozen
  | _ => cases named

structure Untouched (v v' : Launchpad) (key : SaleKey) : Prop where
  proceeds : Kept v.accounts v'.accounts (.proceeds key)
  sale : (v'.sales key).map (fun sale => { sale with authority := 0 }) = (v.sales key).map fun sale => { sale with authority := 0 }

theorem saleOf_reading (pauseFlags : PauseFlags) (frozen : Bool) (instruction : SaleInstruction) :
    saleOf (saleReading pauseFlags frozen instruction) = saleOf instruction := by
  cases instruction <;> rfl

theorem sweep_untouched {v v' : Launchpad} {instruction : SaleInstruction} (closes : instruction.closes = true)
    (other : saleOf instruction ≠ some key) (stepped : Sales.step v instruction = .ok v') : Untouched v v' key := by
  cases instruction with
  | closeSale ctx target destination =>
      have apart : key ≠ target := fun same => other (same ▸ rfl)
      simp only [Sales.step, bind_eq_ok, okOr_eq_ok, pure_eq_ok] at stepped
      obtain ⟨_, -, _, -, _, -, _, -, _, -, accounts, drained, rfl⟩ := stepped
      exact ⟨(drain_ok drained).2 key apart, congrArg _ (Function.update_of_ne apart _ _)⟩
  | openPayoutVault authority issuerFrozen target =>
      have apart : key ≠ target := fun same => other (same ▸ rfl)
      simp only [Sales.step, bind_eq_ok, okOr_eq_ok, pure_eq_ok] at stepped
      obtain ⟨_, -, _, -, _, -, between, initialized, _, -, accounts, drained, rfl⟩ := stepped
      obtain rfl := initializeTokenEscrow_ok initialized
      have kept : Kept v.accounts accounts (.proceeds key) := (kept_update_of_ne (by simp)).trans ((drain_ok drained).2 key apart)
      exact ⟨kept, congrArg _ (Function.update_of_ne apart _ _)⟩
  | _ => cases closes

theorem sale_untouched {v v' : Launchpad} {instruction : SaleInstruction} (sound : Sound v)
    (other : saleOf instruction ≠ some key) (stepped : Sales.step v instruction = .ok v') : Untouched v v' key := by
  cases Sales.step_effect stepped with
  | approved | revoked => exact ⟨.refl _ _, rfl⟩
  | @opened ctx target params approval sale =>
      have apart : key ≠ target := fun same => other (same ▸ rfl)
      exact ⟨kept_update_of_ne (proceeds_ne apart), congrArg _ (Function.update_of_ne apart _ _)⟩
  | @bought ctx target payment amount sale shareClasses accounts _ _ _ _ _ moved =>
      have apart : key ≠ target := fun same => other (same ▸ rfl)
      exact ⟨transfer_kept (payment_ne sound key moved) moved, congrArg _ (Function.update_of_ne apart _ _)⟩
  | closed closes => exact sweep_untouched closes other stepped
  | @synced target authority sale stored =>
      refine ⟨.refl _ _, ?_⟩
      by_cases same : key = target
      · subst same
        dsimp only
        rw [Function.update_self, stored]
        rfl
      · exact congrArg _ (Function.update_of_ne same _ _)
  | outside _ kept => exact ⟨kept key, rfl⟩

/-! ## The payout vaults of a frozen issuer -/

/-- An investor of the snapshot draws what is left of its share of the principal or of the yield. -/
inductive InvestorExit (hashv : Hashv) (v v' : PayoutEscrow) : PayoutInstruction → Prop
  | refund {round investor weight proof vote} (stored : v.votes round = some vote) (returned : v.vault.state = .cancelled)
      (proven : verifyMerkleProof hashv vote.snapshotRoot (snapshotLeaf hashv investor weight) proof = true)
      (drawn : claimedBy investor v.refundClaims + v.escrow = claimedBy investor v'.refundClaims + v'.escrow)
      (entitled : claimedBy investor v'.refundClaims ≤
        ProRata.share weight.toNat (v.vault.totalAmount - v.vault.released) v.vault.totalWeight) :
      InvestorExit hashv v v' (.claimRefund round investor weight proof)
  | yield {investor weight proof}
      (proven : verifyMerkleProof hashv v.vault.investorYieldRoot (snapshotLeaf hashv investor weight) proof = true)
      (drawn : claimedBy investor v.yieldClaims + v.escrow = claimedBy investor v'.yieldClaims + v'.escrow)
      (entitled : claimedBy investor v'.yieldClaims ≤
        ProRata.share weight.toNat v.vault.investorYieldPool v.vault.totalWeight) :
      InvestorExit hashv v v' (.claimInvestorYield investor weight proof)

theorem claimedBy_upsert (claim : ClaimRecord) (claims : List ClaimRecord) :
    claimedBy claim.investor (Rows.upsert ClaimRecord.investor claim claims) = claim.claimed := by
  rw [claimedBy, Rows.lookup_upsert, if_pos rfl]
  rfl

theorem payout_exits {v v' : PayoutEscrow} {instruction : PayoutInstruction} {pauseFlags : PauseFlags} {frozen : Bool}
    (closed : paysFounder instruction = true → frozen = true)
    (stepped : Payout.step hashv v (payoutReading pauseFlags frozen instruction) = .ok v') :
    v.escrow ≤ v'.escrow ∨ InvestorExit hashv v v' instruction := by
  cases instruction with
  | releasePayout =>
      obtain rfl := closed rfl
      simp only [payoutReading, Payout.step, releasePayout, bind_eq_ok, require_eq_ok, exists_const] at stepped
      obtain ⟨_, ⟨-, -, unfrozen, -⟩, -⟩ := stepped
      cases unfrozen
  | claimFounderYield =>
      obtain rfl := closed rfl
      simp only [payoutReading, Payout.step, claimFounderYield, bind_eq_ok, require_eq_ok, exists_const] at stepped
      obtain ⟨_, ⟨-, -, unfrozen, -⟩, -⟩ := stepped
      cases unfrozen
  | claimRefund round investor weight proof =>
      simp only [payoutReading, Payout.step, pay, bind_eq_ok, okOr_eq_ok, checkedSub_eq_some, pure_eq_ok, Prod.exists] at stepped
      obtain ⟨vote, stored, claim, amount, refunded, escrow, ⟨rfl, enough⟩, rfl⟩ := stepped
      obtain ⟨returned, -, rfl, proven, entitled, drawn⟩ := claimRefund_ok refunded
      right
      refine .refund stored returned proven ?_ ?_
      · dsimp only
        rw [claimedBy_upsert]
        omega
      · dsimp only
        rwa [claimedBy_upsert]
  | claimInvestorYield investor weight proof =>
      simp only [payoutReading, Payout.step, pay, bind_eq_ok, okOr_eq_ok, checkedSub_eq_some, pure_eq_ok, Prod.exists] at stepped
      obtain ⟨claim, amount, claimed, escrow, ⟨rfl, enough⟩, rfl⟩ := stepped
      obtain ⟨rfl, proven, entitled, -, drawn⟩ := claimInvestorYield_ok claimed
      right
      refine .yield proven ?_ ?_
      · dsimp only
        rw [claimedBy_upsert]
        omega
      · dsimp only
        rwa [claimedBy_upsert]
  | postUpdate | freezeVault =>
      simp only [payoutReading, Payout.step, bind_eq_ok, pure_eq_ok] at stepped
      obtain ⟨_, -, rfl⟩ := stepped
      exact .inl (Nat.le_refl _)
  | openVaultVote =>
      simp only [payoutReading, Payout.step, bind_eq_ok, pure_eq_ok, Prod.exists] at stepped
      obtain ⟨_, _, -, rfl⟩ := stepped
      exact .inl (Nat.le_refl _)
  | castVaultVote | finalizeVaultVote =>
      simp only [payoutReading, Payout.step, bind_eq_ok, pure_eq_ok, Prod.exists] at stepped
      obtain ⟨_, -, _, _, -, rfl⟩ := stepped
      exact .inl (Nat.le_refl _)
  | routeYield =>
      simp only [payoutReading, Payout.step, bind_eq_ok, pure_eq_ok, Prod.exists] at stepped
      obtain ⟨_, kept, -, rfl⟩ := stepped
      exact .inl (Nat.le_add_right _ _)
  | syncPayoutFounder | tick =>
      simp only [payoutReading, Payout.step, pure_eq_ok] at stepped
      subst stepped
      exact .inl (Nat.le_refl _)
  | inboundTransfer amount =>
      simp only [payoutReading, Payout.step, pure_eq_ok] at stepped
      subst stepped
      exact .inl (Nat.le_add_right _ _)

/-! ## A step while an issuer is frozen -/

structure Spared (hashv : Hashv) (s t : Treasury) (label : TreasuryLabel) (key : SaleKey) : Prop where
  sale : Untouched s.launchpad t.launchpad key
  named : ∀ instruction, label = .sale instruction → saleOf instruction ≠ some key
  unopened : s.payouts key = none → t.payouts key = none
  exits : ∀ v, s.payouts key = some v → ∃ v', t.payouts key = some v' ∧
    (v.escrow ≤ v'.escrow ∨ ∃ instruction, label = .payout key instruction ∧ InvestorExit hashv v v' instruction)

theorem spared_of_same (launchpad : t.launchpad = s.launchpad) (payouts : t.payouts = s.payouts)
    (other : ∀ instruction, label ≠ .sale instruction) : Spared hashv s t label key where
  sale := by
    rw [launchpad]
    exact ⟨.refl _ _, rfl⟩
  named := fun instruction same => absurd same (other instruction)
  unopened := by rw [payouts]; exact id
  exits := by
    intro v held
    rw [payouts]
    exact ⟨v, held, .inl (Nat.le_refl _)⟩

theorem sweptInto_of_ne {launchpad : Launchpad} {payouts : SaleKey → Option PayoutEscrow} {instruction : SaleInstruction}
    (other : saleOf instruction ≠ some key) : sweptInto launchpad payouts instruction key = payouts key := by
  unfold sweptInto
  split
  · next target =>
      have apart : key ≠ target := fun same => other (same ▸ rfl)
      rw [Function.update_of_ne apart]
  · rfl

theorem sold_spared {instruction : SaleInstruction} {frozen : Bool} {launchpad : Launchpad} (sound : Sound s.launchpad)
    (held : isFrozen s issuer) (chain : issuerOf s key = some issuer) (read : saleFreeze s instruction = .ok frozen)
    (moved : Sales.step s.launchpad (saleReading s.registry.platform.pauseFlags frozen instruction) = .ok launchpad) :
    Spared hashv s { s with launchpad, payouts := sweptInto launchpad s.payouts instruction } (.sale instruction) key := by
  have other : saleOf instruction ≠ some key := by
    intro named
    simp only [saleFreeze, named] at read
    obtain rfl := issuerFrozen_of_chain chain read
    rw [decide_eq_true held] at moved
    exact sale_refused named moved
  have same : sweptInto launchpad s.payouts instruction key = s.payouts key := sweptInto_of_ne other
  refine ⟨?_, ?_, ?_, ?_⟩
  · apply sale_untouched sound _ moved
    rwa [saleOf_reading]
  · intro instruction' label
    cases label
    exact other
  · exact same.trans
  · intro v stored
    exact ⟨v, same.trans stored, .inl (Nat.le_refl _)⟩

theorem paid_spared {target : SaleKey} {instruction : PayoutInstruction} {frozen : Bool} {escrow escrow' : PayoutEscrow}
    (held : isFrozen s issuer) (chain : issuerOf s key = some issuer) (read : payoutFreeze s target instruction = .ok frozen)
    (stored : s.payouts target = some escrow)
    (moved : Payout.step hashv escrow (payoutReading s.registry.platform.pauseFlags frozen instruction) = .ok escrow') :
    Spared hashv s { s with payouts := Function.update s.payouts target (some escrow') } (.payout target instruction) key := by
  refine ⟨⟨.refl _ _, rfl⟩, ?_, ?_, ?_⟩
  · intro _ same
    cases same
  · intro absent
    have apart : key ≠ target := by
      rintro rfl
      rw [absent] at stored
      cases stored
    exact (Function.update_of_ne apart _ _).trans absent
  · intro v found
    by_cases same : key = target
    · subst same
      obtain rfl : escrow = v := Option.some.inj (stored.symm.trans found)
      have closed : paysFounder instruction = true → frozen = true := by
        intro pays
        rw [payoutFreeze, if_pos pays] at read
        rw [issuerFrozen_of_chain chain read, decide_eq_true held]
      refine ⟨escrow', Function.update_self _ _ _, ?_⟩
      exact (payout_exits closed moved).imp_right fun exit => ⟨instruction, rfl, exit⟩
    · exact ⟨v, (Function.update_of_ne same _ _).trans found, .inl (Nat.le_refl _)⟩

theorem ticked_spared {seconds : Nat} :
    Spared hashv s
      { s with
        registry := { s.registry with now := s.registry.now + seconds }
        launchpad := { s.launchpad with now := s.launchpad.now + seconds }
        payouts := fun key => (s.payouts key).map fun escrow => { escrow with now := escrow.now + seconds } }
      (.tick seconds) key where
  sale := ⟨.refl _ _, rfl⟩
  named := by
    intro _ same
    cases same
  unopened := by
    intro absent
    dsimp only
    rw [absent]
    rfl
  exits := by
    intro v found
    dsimp only
    rw [found]
    exact ⟨_, rfl, .inl (Nat.le_refl _)⟩

theorem spared_step (sound : Sound s.launchpad) (held : isFrozen s issuer) (chain : issuerOf s key = some issuer)
    (stepped : step hashv s label = .ok t) : Spared hashv s t label key := by
  cases step_effect stepped with
  | role | created | added | froze | lifted | funded =>
      refine spared_of_same rfl rfl ?_
      intro _ same
      cases same
  | sold read moved => exact sold_spared sound held chain read moved
  | paid read stored moved => exact paid_spared held chain read stored moved
  | ticked => exact ticked_spared

theorem sound_treasury_step (sound : Sound s.launchpad) (stepped : step hashv s label = .ok t) : Sound t.launchpad := by
  cases step_effect stepped with
  | role | created | added | froze | lifted | funded | paid => exact sound
  | sold read moved => exact sound_step sound moved
  | @ticked seconds =>
      have moved : Sales.step s.launchpad (.tick seconds) = .ok { s.launchpad with now := s.launchpad.now + seconds } := rfl
      exact sound_step sound moved

end steps

/-! ## Runs -/

section runs
variable {hashv : Hashv} {admin : Pubkey} {upgradeAuthority : Option Pubkey} {lamports : Nat → Nat}
variable {shareClasses : Pubkey → Option ShareClass} {wallets : Pubkey → Option (TokenAccount Address)} {now : Int}
variable (run : Run (step hashv) (treasury admin upgradeAuthority lamports shareClasses wallets now))

/-- The then super admin lifts the freeze of an issuer at some step between two times. -/
def LiftedBetween (issuer i j : Nat) : Prop :=
  ∃ k, i ≤ k ∧ k < j ∧ run.label k = .unfreezeIssuerProceeds (run.state k).registry.platform.admin issuer

/-- What a sale and its payout vault are spared of between two times. -/
structure Contained (key : SaleKey) (i j : Nat) : Prop where
  sale : Untouched (run.state i).launchpad (run.state j).launchpad key
  steps : ∀ k, i ≤ k → k < j → Spared hashv (run.state k) (run.state (k + 1)) (run.label k) key

theorem Untouched.trans {v v' v'' : Launchpad} {key : SaleKey} (first : Untouched v v' key) (second : Untouched v' v'' key) :
    Untouched v v'' key :=
  ⟨first.proceeds.trans second.proceeds, second.sale.trans first.sale⟩

theorem Contained.snoc {key : SaleKey} {i j : Nat} (contained : Contained run key i j)
    (spared : Spared hashv (run.state j) (run.state (j + 1)) (run.label j) key) : Contained run key i (j + 1) where
  sale := contained.sale.trans spared.sale
  steps := by
    intro k after before
    rcases Nat.lt_or_eq_of_le (Nat.le_of_lt_succ before) with earlier | rfl
    · exact contained.steps k after earlier
    · exact spared

theorem sound_treasury : ∀ i ≤ run.length, Sound (run.state i).launchpad := by
  apply run.invariant (P := fun s => Sound s.launchpad) (sound_launchpad shareClasses wallets now)
  intro s label t sound stepped
  exact sound_treasury_step sound stepped

theorem issuerOf_later {key : SaleKey} {issuer i j : Nat} (within : j ≤ run.length) (ordered : i ≤ j)
    (chain : issuerOf (run.state i) key = some issuer) : issuerOf (run.state j) key = some issuer := by
  apply run.invariant_from (P := fun s => issuerOf s key = some issuer) chain _ j within ordered
  intro k before _ known
  exact issuerOf_kept (run.next k before) known

/-- The freeze of an issuer begins and ends with the two instructions alone. Unless the super admin lifts it, it stands as
it was recorded, and every sale of the issuer keeps its proceeds while only proven investors draw on its payout vault. -/
theorem freeze_contains :
    (∀ k < run.length, ∀ issuer, ¬ isFrozen (run.state k) issuer → isFrozen (run.state (k + 1)) issuer →
      ∃ authority reasonHash, run.label k = .freezeIssuerProceeds authority issuer reasonHash ∧
        (authority = (run.state k).registry.platform.admin ∨ isActiveAdmin (run.state k).registry authority)) ∧
    ∀ issuer i j, i ≤ j → j ≤ run.length → isFrozen (run.state i) issuer →
      LiftedBetween run issuer i j ∨
        ((run.state j).freezes issuer).freeze = ((run.state i).freezes issuer).freeze ∧
        ∀ key, issuerOf (run.state i) key = some issuer → Contained run key i j := by
  constructor
  · intro k before issuer unset held
    rcases freeze_step (run.next k before) issuer with same | ⟨authority, reasonHash, named, -, entitled⟩ | lifted
    · rw [isFrozen, isUnset, same] at held
      exact absurd held unset
    · exact ⟨authority, reasonHash, named, entitled⟩
    · exact absurd lifted.2 unset
  · intro issuer i j ordered
    induction j, ordered using Nat.le_induction with
    | base =>
        intro within held
        refine .inr ⟨rfl, fun key chain => ⟨⟨.refl _ _, rfl⟩, ?_⟩⟩
        intro k after before
        exact absurd after (Nat.not_le.mpr before)
    | succ j ordered ih =>
        intro within held
        rcases ih (Nat.le_of_succ_le within) held with ⟨k, after, before, lifted⟩ | ⟨same, contained⟩
        · exact .inl ⟨k, after, Nat.lt_succ_of_lt before, lifted⟩
        · have still : isFrozen (run.state j) issuer := by
            rwa [isFrozen, isUnset, same]
          rcases freeze_step (run.next j within) issuer with kept | ⟨_, _, _, unset, _⟩ | lifted
          · refine .inr ⟨kept.trans same, fun key chain => ?_⟩
            apply (contained key chain).snoc
            have known := issuerOf_later run (Nat.le_of_succ_le within) ordered chain
            exact spared_step (sound_treasury run j (Nat.le_of_succ_le within)) still known (run.next j within)
          · exact absurd still unset
          · exact .inl ⟨j, ordered, Nat.lt_succ_self j, lifted.1⟩

end runs

/-- Lamports at the freeze address neither freeze an issuer nor keep an Admin from freezing it, once. -/
example : accepts (step fun _ => 0) (treasury 1 none (fun _ => 7) (fun _ => none) (fun _ => none) 0)
      [.role (.setPause 1 false), .role (.registerIssuer 5 0), .role (.verifyIssuerKyb 1 0 true), .createAsset 5 0 20,
        .addShareClass 20 30, .sendLamports 0 9, .freezeIssuerProceeds 1 0 8] = true ∧
    accepts (step fun _ => 0) (treasury 1 none (fun _ => 7) (fun _ => none) (fun _ => none) 0)
      [.role (.setPause 1 false), .role (.registerIssuer 5 0), .freezeIssuerProceeds 1 0 8, .sendLamports 0 9,
        .freezeIssuerProceeds 1 0 8] = false := by
  decide +kernel

end Mancipatio.Freeze
