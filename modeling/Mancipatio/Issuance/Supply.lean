import Mancipatio.Issuance.Classes
import Mancipatio.Library.Execution

/-!
# The supply of an asset's share classes

Mints, the vaults that burn, clawbacks, claims, and whatever holders do with their own units, in any order. Checks
that read nothing of a class only refuse more and are left out of its burns and moves.
-/

namespace Mancipatio.Issuance
open Checked Execution Authority Custody Sales

structure Book where
  asset : Asset
  classes : Nat → Option ClassLedger

inductive ClassLabel where
  | initializeShareClassMint (ctx : IssuerContext)
  | lockSupply (isAdmin : Bool)
  | mintToTreasury (ctx : IssuerContext) (destination : Account) (remaining : List Holder) (amount : Nat)
  | buy (ctx : BuyContext) (sale : Sale) (account amount : Nat) (now : Int)
  | openCustodyVault (id : Nat) (authority : Pubkey) (isAdmin : Bool) (pauseFlags : PauseFlags) (vaultType : VaultType)
      (realizeAction : RealizeAction) (amount : Nat) (deadline : Int) (beneficiary : Pubkey) (kycRegistry : Option Pubkey) (now : Int)
  | depositToCustodyVault (id : Nat) (depositor : Pubkey) (account amount : Nat) (pauseFlags : PauseFlags)
  | triggerCustodyVault (id : Nat) (authority : Pubkey) (isAdmin : Bool)
  | realizeCustodyVault (id : Nat) (authority : Pubkey) (isAdmin : Bool) (kycRegistry : Option (Pubkey × KycRegistry))
      (kycEntry : Option KycEntry) (now : Int)
  | revertCustodyVault (id : Nat) (payer : Pubkey) (isAdmin : Bool) (now : Int)
  | returnCustodyVault (id : Nat) (signer : Pubkey) (isAdmin : Bool) (account : Nat) (receiver : ReceiverKyc) (now : Int)
  | acceptCustodyAuthority (id : Nat) (newAuthority : Pubkey)
  | seizeIntoQuarantine (id : Nat) (source : Account) (amount : Nat)
  | createRightsIssuance (id : Nat)
  | claimMilestone (id : Nat) (claimer : Pubkey) (account amount : Nat)
  -- whatever the owner of an account has the token program do
  | transfer (owner : Holder) (account : Nat) (destination : Account) (amount : Nat)
  | burn (owner : Holder) (account amount : Nat)

inductive BookLabel where
  | addShareClass (ctx : IssuerContext) (classIndex : Nat) (terms : ClassTerms)
  | activateAsset (ctx : IssuerContext) (isAdmin : Bool)
  | onClass (classIndex : Nat) (label : ClassLabel)

instance : Inhabited BookLabel := ⟨.onClass 0 (.lockSupply false)⟩

def moveUnits (c : ClassLedger) (source destination : Account) (amount : Nat) : Except IssuanceError ClassLedger := do
  let units ← okOr (Holdings.move c.units source destination amount) (.registry .insufficientFunds)
  return { c with units }

def burnFrom (c : ClassLedger) (account : Account) (amount : Nat) : Except IssuanceError ClassLedger := do
  let units ← okOr (Holdings.debit c.units account amount) (.registry .insufficientFunds)
  let supply ← okOr (checkedSub c.supply amount) (.registry .overflow)
  return { c with units, supply }

def setVault (c : ClassLedger) (id : Nat) (vault : CustodyVault) : ClassLedger :=
  { c with vaults := Function.update c.vaults id (some vault) }

def setCirculating (c : ClassLedger) (circulatingSupply : Nat) : ClassLedger :=
  { c with shareClass := { c.shareClass with circulatingSupply } }

def VaultState.running (state : VaultState) : Prop :=
  state = .active ∨ state = .triggered
  deriving Decidable

/-- The escrow marker of a vault is closed with the vault, an issuance keeps its identity. -/
def ClassLedger.marked (c : ClassLedger) : Holder → Bool
  | .vault id => (c.vaults id).any fun vault => decide (VaultState.running vault.state)
  | .issuance id => c.issuances id
  | _ => false

def seizeIntoQuarantine (c : ClassLedger) (id : Nat) (source : Account) (amount : Nat) : Except IssuanceError ClassLedger := do
  require (c.marked source.owner = false) (.registry .clawbackTargetIsEscrow)
  let vault ← okOr (c.vaults id) (.registry .clawbackDestinationInvalid)
  require (vault.quarantine ∧ vault.state = .active) (.registry .clawbackDestinationInvalid)
  let seized := if amount = 0 then c.units source else amount
  require (0 < seized) (.registry .nothingToClaim)
  moveUnits c source (.custodyEscrow id) seized

def classStep (asset : Asset) (c : ClassLedger) : ClassLabel → Except IssuanceError ClassLedger
  | .initializeShareClassMint ctx => initializeShareClassMint ctx c
  | .lockSupply isAdmin => lockSupply isAdmin c
  | .mintToTreasury ctx destination remaining amount =>
      mintToTreasury { ctx with assetStatus := asset.status } c destination remaining amount
  | .buy ctx sale account amount now => do
      let (_, shareClass, _) ← registry (buy ctx sale c.shareClass amount now)
      let minted ← mintTo c (.token (.key ctx.buyer) account) amount
      return { minted with shareClass }
  | .openCustodyVault id authority isAdmin pauseFlags vaultType realizeAction amount deadline beneficiary kycRegistry now => do
      require (c.vaults id = none) (.registry .accountAlreadyInUse)
      let vault ← registry (openCustodyVault authority isAdmin c.shareClass.mintInitialized pauseFlags vaultType realizeAction
        amount deadline beneficiary kycRegistry now)
      return setVault c id vault
  | .depositToCustodyVault id depositor account amount pauseFlags => do
      let vault ← okOr (c.vaults id) (.registry .accountNotInitialized)
      let vault ← registry (depositToCustodyVault vault depositor amount pauseFlags)
      moveUnits (setVault c id vault) (.token (.key depositor) account) (.custodyEscrow id) amount
  | .triggerCustodyVault id authority isAdmin => do
      let vault ← okOr (c.vaults id) (.registry .accountNotInitialized)
      let vault ← registry (triggerCustodyVault vault authority isAdmin)
      return setVault c id vault
  | .realizeCustodyVault id authority isAdmin kycRegistry kycEntry now => do
      let vault ← okOr (c.vaults id) (.registry .accountNotInitialized)
      let escrow := c.units (.custodyEscrow id)
      let (vault, circulatingSupply) ←
        registry (realizeCustodyVault vault authority isAdmin kycRegistry kycEntry escrow c.shareClass.circulatingSupply now)
      burnFrom (setCirculating (setVault c id vault) circulatingSupply) (.custodyEscrow id) escrow
  | .revertCustodyVault id payer isAdmin now => do
      let vault ← okOr (c.vaults id) (.registry .accountNotInitialized)
      let escrow := c.units (.custodyEscrow id)
      let (vault, circulatingSupply) ←
        registry (revertCustodyVault vault payer isAdmin escrow c.shareClass.circulatingSupply now)
      burnFrom (setCirculating (setVault c id vault) circulatingSupply) (.custodyEscrow id) escrow
  | .returnCustodyVault id signer isAdmin account receiver now => do
      let vault ← okOr (c.vaults id) (.registry .accountNotInitialized)
      let (returned, release) ← registry (returnCustodyVault vault signer isAdmin (c.units (.custodyEscrow id)) receiver now)
      moveUnits (setVault c id returned) (.custodyEscrow id) (.token (.key vault.beneficiary) account) release.payout
  | .acceptCustodyAuthority id newAuthority => do
      let vault ← okOr (c.vaults id) (.registry .accountNotInitialized)
      return setVault c id { vault with authority := newAuthority }
  | .seizeIntoQuarantine id source amount => seizeIntoQuarantine c id source amount
  | .createRightsIssuance id => return { c with issuances := Function.update c.issuances id true }
  | .claimMilestone id claimer account amount => moveUnits c (.rightsEscrow id) (.token (.key claimer) account) amount
  | .transfer owner account destination amount => moveUnits c (.token owner account) destination amount
  | .burn owner account amount => burnFrom c (.token owner account) amount

def bookStep (b : Book) : BookLabel → Except IssuanceError Book
  | .addShareClass ctx classIndex terms => do
      let (asset, shareClass) ← addShareClass ctx b.asset (b.classes classIndex).isSome classIndex terms
      let opened := { shareClass, supply := 0, units := fun _ => 0, vaults := fun _ => none, issuances := fun _ => false }
      return { asset, classes := Function.update b.classes classIndex (some opened) }
  | .activateAsset ctx isAdmin => do
      let asset ← activateAsset ctx isAdmin b.asset
      return { b with asset }
  | .onClass classIndex label => do
      let c ← okOr (b.classes classIndex) (.registry .accountNotInitialized)
      let c ← classStep b.asset c label
      return { b with classes := Function.update b.classes classIndex (some c) }

def createAsset (assetType : AssetType) : Book :=
  { asset := { assetType, status := .draft, shareClassesCount := 0 }, classes := fun _ => none }

/-! ## What a step does to the counters -/

def ClassLabel.minted : ClassLabel → Nat
  | .mintToTreasury _ _ _ amount | .buy _ _ _ amount _ => amount
  | _ => 0

def ClassLabel.retired (c : ClassLedger) : ClassLabel → Nat
  | .realizeCustodyVault id _ _ _ _ _ | .revertCustodyVault id _ _ _ => c.units (.custodyEscrow id)
  | _ => 0

def ClassLabel.destroyed : ClassLabel → Nat
  | .burn _ _ amount => amount
  | _ => 0

def cap (shareClass : ShareClass) : Prop :=
  ∀ max ∈ shareClass.maxSupply,
    (if shareClass.cumulativeCap then shareClass.lifetimeMinted else shareClass.circulatingSupply) ≤ max

def terms (shareClass : ShareClass) : Option Nat × Bool × Bool :=
  (shareClass.maxSupply, shareClass.cumulativeCap, shareClass.mintablePostLaunch)

structure Balanced (c : ClassLedger) (label : ClassLabel) (c' : ClassLedger) : Prop where
  lifetime : c'.shareClass.lifetimeMinted = c.shareClass.lifetimeMinted + label.minted
  circulating : c'.shareClass.circulatingSupply + label.retired c = c.shareClass.circulatingSupply + label.minted
  supply : c'.supply + label.retired c + label.destroyed = c.supply + label.minted
  units : Holdings.Total c.units c.supply → Holdings.Total c'.units c'.supply
  capped : cap c.shareClass → cap c'.shareClass
  terms : terms c'.shareClass = terms c.shareClass
  locked : c.shareClass.supplyLocked = true → c'.shareClass.supplyLocked = true ∧
    (c.shareClass.mintablePostLaunch = true ∨ label.minted = 0)

section steps
variable {asset : Asset} {c c' : ClassLedger} {label : ClassLabel} {source destination account : Account} {amount : Nat}

theorem moveUnits_ok (moved : moveUnits c source destination amount = .ok c') :
    ∃ units, Holdings.move c.units source destination amount = some units ∧ c' = { c with units } := by
  simp only [moveUnits, bind_eq_ok, okOr_eq_ok, pure_eq_ok] at moved
  obtain ⟨units, moved, rfl⟩ := moved
  exact ⟨units, moved, rfl⟩

theorem burnFrom_ok (burned : burnFrom c account amount = .ok c') :
    ∃ units, Holdings.debit c.units account amount = some units ∧ amount ≤ c.supply ∧
      c' = { c with units, supply := c.supply - amount } := by
  simp only [burnFrom, bind_eq_ok, okOr_eq_ok, checkedSub_eq_some, pure_eq_ok] at burned
  obtain ⟨units, debited, _, ⟨rfl, enough⟩, rfl⟩ := burned
  exact ⟨units, debited, enough, rfl⟩

theorem mintTo_ok (minted : mintTo c destination amount = .ok c') :
    c' = { c with supply := c.supply + amount, units := Holdings.credit c.units destination amount } := by
  simp only [mintTo, bind_eq_ok, okOr_eq_ok, checkedAdd_eq_some, pure_eq_ok] at minted
  obtain ⟨_, ⟨rfl, -⟩, rfl⟩ := minted
  rfl

theorem balanced_of_moved (minted : label.minted = 0) (retired : label.retired c = 0) (destroyed : label.destroyed = 0)
    (shareClass : c'.shareClass = c.shareClass) (supply : c'.supply = c.supply)
    (units : Holdings.Total c.units c.supply → Holdings.Total c'.units c.supply) : Balanced c label c' where
  lifetime := by rw [minted, shareClass, Nat.add_zero]
  circulating := by rw [minted, retired, shareClass]
  supply := by rw [minted, retired, destroyed, supply]
  units := by
    rw [supply]
    exact units
  capped := by
    rw [shareClass]
    exact id
  terms := by rw [shareClass]
  locked := by
    rw [shareClass]
    exact fun locked => ⟨locked, .inr minted⟩

theorem balanced_of_moveUnits {d : ClassLedger} (minted : label.minted = 0) (retired : label.retired c = 0)
    (destroyed : label.destroyed = 0) (shareClass : d.shareClass = c.shareClass) (supply : d.supply = c.supply)
    (units : d.units = c.units) (moved : moveUnits d source destination amount = .ok c') : Balanced c label c' := by
  obtain ⟨after, gone, rfl⟩ := moveUnits_ok moved
  rw [units] at gone
  exact balanced_of_moved minted retired destroyed shareClass supply fun total => total.move gone

theorem balanced_of_minted {circulatingSupply lifetimeMinted : Nat} (minted : label.minted = amount) (retired : label.retired c = 0)
    (destroyed : label.destroyed = 0) (next : nextIssuanceSupply c.shareClass amount = .ok (circulatingSupply, lifetimeMinted))
    (open' : c.shareClass.supplyLocked = false ∨ c.shareClass.mintablePostLaunch = true) :
    Balanced c label
      { c with
        shareClass := { c.shareClass with circulatingSupply, lifetimeMinted }
        supply := c.supply + amount
        units := Holdings.credit c.units destination amount } := by
  obtain ⟨rfl, rfl, within⟩ := nextIssuanceSupply_ok next
  refine ⟨by rw [minted], by rw [minted, retired]; rfl, by rw [minted, retired, destroyed]; rfl, Holdings.Total.credit,
    fun _ => within, rfl, ?_⟩
  intro locked
  refine ⟨locked, .inl (open'.resolve_left ?_)⟩
  rw [locked]
  exact Bool.noConfusion

theorem balanced_of_retired {vault : CustodyVault} {id circulatingSupply escrow : Nat} (minted : label.minted = 0)
    (retired : label.retired c = escrow) (destroyed : label.destroyed = 0)
    (counted : burnEscrow escrow c.shareClass.circulatingSupply = .ok circulatingSupply)
    (burned : burnFrom (setCirculating (setVault c id vault) circulatingSupply) account escrow = .ok c') : Balanced c label c' := by
  obtain ⟨enough, rfl⟩ := burnEscrow_ok counted
  obtain ⟨units, debited, within, rfl⟩ := burnFrom_ok burned
  change escrow ≤ c.supply at within
  refine ⟨by rw [minted]; rfl, ?_, ?_, fun total => total.debit debited, ?_, rfl, ?_⟩
  · rw [minted, retired]
    exact Nat.sub_add_cancel enough
  · rw [minted, retired, destroyed]
    exact Nat.sub_add_cancel within
  · intro capped max member
    have before := capped max member
    show (if c.shareClass.cumulativeCap then c.shareClass.lifetimeMinted else c.shareClass.circulatingSupply - escrow) ≤ max
    split
    case isTrue cumulative => rwa [if_pos cumulative] at before
    case isFalse current =>
      rw [if_neg current] at before
      omega
  · exact fun locked => ⟨locked, .inr minted⟩

theorem class_balanced (stepped : classStep asset c label = .ok c') : Balanced c label c' := by
  cases label with
  | initializeShareClassMint ctx =>
      simp only [classStep, initializeShareClassMint, bind_eq_ok, pure_eq_ok] at stepped
      obtain ⟨-, -, -, -, -, -, -, -, rfl⟩ := stepped
      exact ⟨rfl, rfl, rfl, id, id, rfl, fun locked => ⟨locked, .inr rfl⟩⟩
  | lockSupply isAdmin =>
      simp only [classStep, lockSupply, bind_eq_ok, pure_eq_ok] at stepped
      obtain ⟨-, -, rfl⟩ := stepped
      exact ⟨rfl, rfl, rfl, id, id, rfl, fun _ => ⟨rfl, .inr rfl⟩⟩
  | mintToTreasury ctx destination remaining amount =>
      simp only [classStep, mintToTreasury, bind_eq_ok, require_eq_ok, registry_eq_ok, pure_eq_ok, Prod.exists, exists_const] at stepped
      obtain ⟨-, -, -, -, -, -, -, circulating, lifetime, next, unlocked, -, -, -, -, minted, emitted, rfl⟩ := stepped
      rw [mintTo_ok emitted]
      exact balanced_of_minted rfl rfl rfl next unlocked
  | buy ctx sale account amount now =>
      simp only [classStep, buy, bind_eq_ok, require_eq_ok, registry_eq_ok, pure_eq_ok, Prod.exists, Prod.mk.injEq, exists_const] at stepped
      obtain ⟨_, _, _, ⟨-, -, -, -, -, -, -, unlocked, circulating, lifetime, next, -, -, -, -, -, -, -, -, -, -, rfl, -⟩, minted,
        emitted, rfl⟩ := stepped
      rw [mintTo_ok emitted]
      exact balanced_of_minted rfl rfl rfl next unlocked
  | openCustodyVault =>
      simp only [classStep, bind_eq_ok, pure_eq_ok] at stepped
      obtain ⟨-, -, vault, -, rfl⟩ := stepped
      exact balanced_of_moved rfl rfl rfl rfl rfl id
  | depositToCustodyVault id depositor account amount pauseFlags =>
      simp only [classStep, bind_eq_ok] at stepped
      obtain ⟨-, -, vault, -, moved⟩ := stepped
      exact balanced_of_moveUnits (d := setVault c id vault) rfl rfl rfl rfl rfl rfl moved
  | triggerCustodyVault =>
      simp only [classStep, bind_eq_ok, pure_eq_ok] at stepped
      obtain ⟨-, -, vault, -, rfl⟩ := stepped
      exact balanced_of_moved rfl rfl rfl rfl rfl id
  | realizeCustodyVault id authority isAdmin kycRegistry kycEntry now =>
      simp only [classStep, bind_eq_ok, registry_eq_ok, Prod.exists] at stepped
      obtain ⟨_, -, vault, circulating, realized, burned⟩ := stepped
      exact balanced_of_retired rfl rfl rfl (realizeCustodyVault_ok realized).2.2 burned
  | revertCustodyVault id payer isAdmin now =>
      simp only [classStep, bind_eq_ok, registry_eq_ok, Prod.exists] at stepped
      obtain ⟨_, -, vault, circulating, reverted, burned⟩ := stepped
      exact balanced_of_retired rfl rfl rfl (revertCustodyVault_ok reverted).2.2.2 burned
  | returnCustodyVault id signer isAdmin account receiver now =>
      simp only [classStep, bind_eq_ok, Prod.exists] at stepped
      obtain ⟨_, -, returned, release, -, moved⟩ := stepped
      exact balanced_of_moveUnits (d := setVault c id returned) rfl rfl rfl rfl rfl rfl moved
  | acceptCustodyAuthority =>
      simp only [classStep, bind_eq_ok, pure_eq_ok] at stepped
      obtain ⟨-, -, rfl⟩ := stepped
      exact balanced_of_moved rfl rfl rfl rfl rfl id
  | seizeIntoQuarantine id source amount =>
      simp only [classStep, seizeIntoQuarantine, bind_eq_ok] at stepped
      obtain ⟨-, -, -, -, -, -, -, -, moved⟩ := stepped
      exact balanced_of_moveUnits rfl rfl rfl rfl rfl rfl moved
  | createRightsIssuance =>
      cases stepped
      exact balanced_of_moved rfl rfl rfl rfl rfl id
  | claimMilestone => exact balanced_of_moveUnits rfl rfl rfl rfl rfl rfl stepped
  | transfer => exact balanced_of_moveUnits rfl rfl rfl rfl rfl rfl stepped
  | burn owner account amount =>
      obtain ⟨units, debited, enough, rfl⟩ := burnFrom_ok stepped
      refine ⟨rfl, rfl, ?_, fun total => total.debit debited, id, rfl, fun locked => ⟨locked, .inr rfl⟩⟩
      exact Nat.sub_add_cancel enough

end steps

/-! ## Whole histories -/

structure Sound (c : ClassLedger) : Prop where
  units : Holdings.Total c.units c.supply
  supply : c.supply ≤ c.shareClass.circulatingSupply
  circulating : c.shareClass.circulatingSupply ≤ c.shareClass.lifetimeMinted
  capped : cap c.shareClass

theorem Sound.step {c c' : ClassLedger} {label : ClassLabel} (sound : Sound c) (balanced : Balanced c label c') : Sound c' where
  units := balanced.units sound.units
  supply := by
    have supply := balanced.supply
    have circulating := balanced.circulating
    have before := sound.supply
    omega
  circulating := by
    have circulating := balanced.circulating
    have lifetime := balanced.lifetime
    have before := sound.circulating
    omega
  capped := balanced.capped sound.capped

theorem Sound.burns {c : ClassLedger} (sound : Sound c) (account : Account) (id : Nat) (vault : CustodyVault) :
    burnEscrow (c.units account) c.shareClass.circulatingSupply = .ok (c.shareClass.circulatingSupply - c.units account) ∧
      ∃ c', burnFrom (setCirculating (setVault c id vault) (c.shareClass.circulatingSupply - c.units account)) account
        (c.units account) = .ok c' := by
  have held := sound.units.le account
  constructor
  · simp only [burnEscrow, okOr_eq_ok, checkedSub_eq_some]
    exact ⟨trivial, held.trans sound.supply⟩
  · simp only [burnFrom, bind_eq_ok, okOr_eq_ok, checkedSub_eq_some, pure_eq_ok]
    exact ⟨_, _, Holdings.debit_eq_some.mpr ⟨Nat.le_refl _, rfl⟩, _, ⟨rfl, held⟩, rfl⟩

theorem realize_succeeds {asset : Asset} {c : ClassLedger} {id : Nat} {vault : CustodyVault} {kycRegistry : Option (Pubkey × KycRegistry)}
    {kycEntry : Option KycEntry} {now : Int} (sound : Sound c) (stored : c.vaults id = some vault) (triggered : vault.state = .triggered)
    (burning : vault.realizeAction = .burnAndAttest) (eligible : requireRealizeKyc vault kycRegistry kycEntry now = .ok ()) :
    ∃ c', classStep asset c (.realizeCustodyVault id vault.authority true kycRegistry kycEntry now) = .ok c' := by
  obtain ⟨counted, c', burned⟩ := sound.burns (.custodyEscrow id) id { vault with state := .realized }
  refine ⟨c', ?_⟩
  simp only [classStep, bind_eq_ok, okOr_eq_ok, registry_eq_ok, Prod.exists]
  refine ⟨vault, stored, _, _, ?_, burned⟩
  simp only [realizeCustodyVault, bind_eq_ok, require_eq_ok, pure_eq_ok, exists_const]
  exact ⟨trivial, triggered, trivial, burning, (), eligible, _, counted, rfl⟩

theorem revert_succeeds {asset : Asset} {c : ClassLedger} {id : Nat} {vault : CustodyVault} {now : Int} (sound : Sound c)
    (stored : c.vaults id = some vault) (active : vault.state = .active) (burns : vault.vaultType ≠ .deliveryEscrow)
    (due : vault.deadline ≤ now) : ∃ c', classStep asset c (.revertCustodyVault id vault.authority true now) = .ok c' := by
  obtain ⟨counted, c', burned⟩ := sound.burns (.custodyEscrow id) id { vault with state := .reverted }
  refine ⟨c', ?_⟩
  simp only [classStep, bind_eq_ok, okOr_eq_ok, registry_eq_ok, Prod.exists]
  refine ⟨vault, stored, _, _, ?_, burned⟩
  simp only [revertCustodyVault, bind_eq_ok, require_eq_ok, pure_eq_ok, exists_const]
  exact ⟨active, burns, due, .inl ⟨trivial, trivial⟩, _, counted, rfl⟩

section book
variable {b b' : Book} {label : BookLabel}

inductive BookEffect (b : Book) : BookLabel → Book → Prop
  | opened {ctx classIndex terms asset shareClass} (added : addShareClass ctx b.asset (b.classes classIndex).isSome classIndex terms =
        .ok (asset, shareClass)) :
      BookEffect b (.addShareClass ctx classIndex terms)
        { asset
          classes := Function.update b.classes classIndex
            (some { shareClass, supply := 0, units := fun _ => 0, vaults := fun _ => none, issuances := fun _ => false }) }
  | activated {ctx isAdmin} : BookEffect b (.activateAsset ctx isAdmin) { b with asset := { b.asset with status := .active } }
  | moved {classIndex label c c'} (stored : b.classes classIndex = some c) (stepped : classStep b.asset c label = .ok c') :
      BookEffect b (.onClass classIndex label) { b with classes := Function.update b.classes classIndex (some c') }

theorem book_effect (stepped : bookStep b label = .ok b') : BookEffect b label b' := by
  cases label with
  | addShareClass ctx classIndex terms =>
      simp only [bookStep, bind_eq_ok, pure_eq_ok, Prod.exists] at stepped
      obtain ⟨asset, shareClass, added, rfl⟩ := stepped
      exact .opened added
  | activateAsset ctx isAdmin =>
      simp only [bookStep, activateAsset, bind_eq_ok, pure_eq_ok] at stepped
      obtain ⟨_, ⟨-, -, -, -, -, -, -, -, -, -, rfl⟩, rfl⟩ := stepped
      exact .activated
  | onClass classIndex label =>
      simp only [bookStep, bind_eq_ok, okOr_eq_ok, pure_eq_ok] at stepped
      obtain ⟨c, stored, c', moved, rfl⟩ := stepped
      exact .moved stored moved

structure Fresh (asset : Asset) (classIndex : Nat) (shareClass : ShareClass) : Prop where
  zero : shareClass.circulatingSupply = 0 ∧ shareClass.lifetimeMinted = 0
  unit : asset.assetType = .physicalGood →
    classIndex = 0 ∧ shareClass.maxSupply = some 1 ∧ shareClass.cumulativeCap = true

theorem addShareClass_ok {ctx : IssuerContext} {asset asset' : Asset} {used : Bool} {classIndex : Nat} {terms : ClassTerms}
    {shareClass : ShareClass} (added : addShareClass ctx asset used classIndex terms = .ok (asset', shareClass)) :
    used = false ∧ asset'.assetType = asset.assetType ∧ Fresh asset classIndex shareClass := by
  simp only [addShareClass, bind_eq_ok, require_eq_ok, pure_eq_ok, Prod.mk.injEq, exists_const] at added
  obtain ⟨-, -, -, -, unused, -, -, -, -, unit, single, -, _, -, rfl, rfl⟩ := added
  refine ⟨unused, rfl, ⟨rfl, rfl⟩, ?_⟩
  intro physical
  exact ⟨single.resolve_left (not_not_intro physical), unit.resolve_left (not_not_intro physical), decide_eq_true physical⟩

def AllSound (b : Book) : Prop :=
  ∀ k c, b.classes k = some c → Sound c

theorem allSound_step (sound : AllSound b) (effect : BookEffect b label b') : AllSound b' := by
  intro k c stored
  cases effect with
  | opened added =>
      rcases updated_row stored with ⟨-, rfl⟩ | ⟨-, old⟩
      · obtain ⟨-, -, fresh⟩ := addShareClass_ok added
        refine ⟨Holdings.total_zero, Nat.zero_le _, fresh.zero.1.le.trans (Nat.zero_le _), ?_⟩
        intro max _
        show (if _ then _ else _) ≤ max
        rw [fresh.zero.1, fresh.zero.2, ite_self]
        exact Nat.zero_le _
      · exact sound k c old
  | activated => exact sound k c stored
  | moved before stepped =>
      rcases updated_row stored with ⟨-, rfl⟩ | ⟨-, old⟩
      · exact (sound _ _ before).step (class_balanced stepped)
      · exact sound k c old

structure Unique (assetType : AssetType) (b : Book) : Prop where
  kind : b.asset.assetType = assetType
  single : assetType = .physicalGood → ∀ k c, b.classes k = some c →
    k = 0 ∧ c.shareClass.maxSupply = some 1 ∧ c.shareClass.cumulativeCap = true

theorem unique_step {assetType : AssetType} (unique : Unique assetType b) (effect : BookEffect b label b') : Unique assetType b' := by
  obtain ⟨same, single⟩ := unique
  cases effect with
  | opened added =>
      obtain ⟨-, kept, fresh⟩ := addShareClass_ok added
      refine ⟨kept.trans same, ?_⟩
      intro physical k c stored
      rcases updated_row stored with ⟨rfl, rfl⟩ | ⟨-, old⟩
      · exact fresh.unit (same.trans physical)
      · exact single physical k c old
  | activated => exact ⟨same, single⟩
  | moved before stepped =>
      refine ⟨same, ?_⟩
      intro physical k c stored
      rcases updated_row stored with ⟨rfl, rfl⟩ | ⟨-, old⟩
      · obtain ⟨zero, unit, cumulative⟩ := single physical _ _ before
        have kept := (class_balanced stepped).terms
        simp only [terms, Prod.mk.injEq] at kept
        exact ⟨zero, kept.1.trans unit, kept.2.1.trans cumulative⟩
      · exact single physical k c old

/-! ### The counters as totals -/

def lifetimeOf (k : Nat) (b : Book) : Nat :=
  (b.classes k).elim 0 fun c => c.shareClass.lifetimeMinted

def circulatingOf (k : Nat) (b : Book) : Nat :=
  (b.classes k).elim 0 fun c => c.shareClass.circulatingSupply

def supplyOf (k : Nat) (b : Book) : Nat :=
  (b.classes k).elim 0 ClassLedger.supply

def BookLabel.on (k : Nat) (count : ClassLedger → ClassLabel → Nat) (b : Book) : BookLabel → Nat
  | .onClass j label => if j = k then (b.classes k).elim 0 fun c => count c label else 0
  | _ => 0

theorem book_counters {k : Nat} (effect : BookEffect b label b') :
    lifetimeOf k b' = lifetimeOf k b + BookLabel.on k (fun _ => ClassLabel.minted) b label ∧
      circulatingOf k b' + BookLabel.on k (fun c label => label.retired c) b label =
        circulatingOf k b + BookLabel.on k (fun _ => ClassLabel.minted) b label ∧
      supplyOf k b' + BookLabel.on k (fun c label => label.retired c) b label + BookLabel.on k (fun _ => ClassLabel.destroyed) b label =
        supplyOf k b + BookLabel.on k (fun _ => ClassLabel.minted) b label := by
  unfold lifetimeOf circulatingOf supplyOf
  cases effect with
  | @opened _ classIndex _ _ shareClass added =>
      obtain ⟨unused, -, fresh⟩ := addShareClass_ok added
      by_cases here : k = classIndex
      · subst here
        have empty := Option.not_isSome_iff_eq_none.mp (Bool.eq_false_iff.mp unused)
        dsimp only [BookLabel.on]
        rw [Function.update_self, empty]
        exact ⟨fresh.zero.2, fresh.zero.1, rfl⟩
      · dsimp only [BookLabel.on]
        rw [Function.update_of_ne here]
        exact ⟨rfl, rfl, rfl⟩
  | activated => exact ⟨rfl, rfl, rfl⟩
  | @moved classIndex _ c c' stored stepped =>
      by_cases here : classIndex = k
      · subst here
        have balanced := class_balanced stepped
        simp only [BookLabel.on, if_true, Function.update_self, stored, Option.elim_some]
        exact ⟨balanced.lifetime, balanced.circulating, balanced.supply⟩
      · dsimp only [BookLabel.on]
        rw [if_neg here, if_neg here, if_neg here, Function.update_of_ne (Ne.symm here)]
        exact ⟨rfl, rfl, rfl⟩

end book

theorem onClass_ok {k : Nat} {b b' : Book} {label : ClassLabel} (stepped : bookStep b (.onClass k label) = .ok b') :
    ∃ c c', b.classes k = some c ∧ b'.classes k = some c' ∧ classStep b.asset c label = .ok c' := by
  simp only [bookStep, bind_eq_ok, okOr_eq_ok, pure_eq_ok] at stepped
  obtain ⟨c, stored, c', moved, rfl⟩ := stepped
  exact ⟨c, c', stored, Function.update_self _ _ _, moved⟩

structure SupplyLaw {initial : Book} (assetType : AssetType) (run : Run bookStep initial) : Prop where
  sound : ∀ i ≤ run.length, ∀ k c, (run.state i).classes k = some c → Sound c
  lifetime : ∀ i ≤ run.length, ∀ k, lifetimeOf k (run.state i) = run.total (BookLabel.on k fun _ => ClassLabel.minted) i
  circulating : ∀ i ≤ run.length, ∀ k,
    circulatingOf k (run.state i) + run.total (BookLabel.on k fun c label => label.retired c) i = lifetimeOf k (run.state i)
  supply : ∀ i ≤ run.length, ∀ k,
    supplyOf k (run.state i) + run.total (BookLabel.on k fun _ => ClassLabel.destroyed) i = circulatingOf k (run.state i)
  burns : ∀ i ≤ run.length, ∀ k c, (run.state i).classes k = some c → ∀ id vault, c.vaults id = some vault →
    (∀ kycRegistry kycEntry now, vault.state = .triggered → vault.realizeAction = .burnAndAttest →
      requireRealizeKyc vault kycRegistry kycEntry now = .ok () →
      ∃ b, bookStep (run.state i) (.onClass k (.realizeCustodyVault id vault.authority true kycRegistry kycEntry now)) = .ok b) ∧
    ∀ now, vault.state = .active → vault.vaultType ≠ .deliveryEscrow → vault.deadline ≤ now →
      ∃ b, bookStep (run.state i) (.onClass k (.revertCustodyVault id vault.authority true now)) = .ok b
  locks : ∀ i < run.length, ∀ k isAdmin, run.label i = .onClass k (.lockSupply isAdmin) → isAdmin = true ∧
    ∃ c c', (run.state i).classes k = some c ∧ (run.state (i + 1)).classes k = some c' ∧ c'.shareClass.supplyLocked = true ∧
      c'.shareClass.mintablePostLaunch = c.shareClass.mintablePostLaunch
  -- unless the class was opened as mintable
  locked : ∀ i j, i ≤ j → j ≤ run.length → ∀ k c, (run.state i).classes k = some c → c.shareClass.supplyLocked = true →
    c.shareClass.mintablePostLaunch = false → lifetimeOf k (run.state j) = lifetimeOf k (run.state i)
  -- even after the first unit was burned
  unique : assetType = .physicalGood → ∀ i ≤ run.length, ∀ k c, (run.state i).classes k = some c →
    k = 0 ∧ c.shareClass.lifetimeMinted ≤ 1 ∧ ∀ account, c.units account ≤ 1

section run
variable {assetType : AssetType} {run : Run bookStep (createAsset assetType)}

theorem allSound_run (i : Nat) (within : i ≤ run.length) : AllSound (run.state i) := by
  apply run.invariant (P := AllSound) _ _ i within
  · intro k c stored
    cases stored
  · intro b label b' sound stepped
    exact allSound_step sound (book_effect stepped)

theorem unique_run (i : Nat) (within : i ≤ run.length) : Unique assetType (run.state i) := by
  apply run.invariant (P := Unique assetType) _ _ i within
  · refine ⟨rfl, ?_⟩
    intro _ k c stored
    cases stored
  · intro b label b' unique stepped
    exact unique_step unique (book_effect stepped)

theorem counters_run {k : Nat} (i : Nat) : i ≤ run.length →
    lifetimeOf k (run.state i) = run.total (BookLabel.on k fun _ => ClassLabel.minted) i ∧
      circulatingOf k (run.state i) + run.total (BookLabel.on k fun c label => label.retired c) i = lifetimeOf k (run.state i) ∧
      supplyOf k (run.state i) + run.total (BookLabel.on k fun _ => ClassLabel.destroyed) i = circulatingOf k (run.state i) := by
  induction i with
  | zero =>
      intro _
      rw [run.starts]
      exact ⟨rfl, rfl, rfl⟩
  | succ i ih =>
      intro within
      obtain ⟨lifetime, circulating, supply⟩ := ih (Nat.le_of_succ_le within)
      obtain ⟨minted, retired, destroyed⟩ := book_counters (k := k) (book_effect (run.next i within))
      simp only [Run.total]
      omega

def Closed (k minted : Nat) (b : Book) : Prop :=
  ∃ c, b.classes k = some c ∧ c.shareClass.supplyLocked = true ∧ c.shareClass.mintablePostLaunch = false ∧
    c.shareClass.lifetimeMinted = minted

theorem closed_step {k minted : Nat} {b b' : Book} {label : BookLabel} (closed : Closed k minted b) (effect : BookEffect b label b') :
    Closed k minted b' := by
  obtain ⟨c, stored, locked, never, count⟩ := closed
  cases effect with
  | @opened _ classIndex _ _ _ added =>
      obtain ⟨unused, -, -⟩ := addShareClass_ok added
      have apart : k ≠ classIndex := by
        rintro rfl
        rw [stored] at unused
        cases unused
      exact ⟨c, (Function.update_of_ne apart _ _).trans stored, locked, never, count⟩
  | activated => exact ⟨c, stored, locked, never, count⟩
  | @moved classIndex _ before after stored' stepped =>
      by_cases here : k = classIndex
      · subst here
        obtain rfl := Option.some.inj (stored.symm.trans stored')
        have balanced := class_balanced stepped
        obtain ⟨still, mintable | none'⟩ := balanced.locked locked
        · rw [never] at mintable
          cases mintable
        · have kept := balanced.terms
          simp only [terms, Prod.mk.injEq] at kept
          refine ⟨after, Function.update_self _ _ _, still, kept.2.2.trans never, ?_⟩
          rw [balanced.lifetime, none', Nat.add_zero, count]
      · exact ⟨c, (Function.update_of_ne here _ _).trans stored, locked, never, count⟩

end run

/-- Whatever is minted, seized, claimed, burned by vaults or by holders, the counters of a class say what happened to it. -/
theorem supply_law {assetType : AssetType} (run : Run bookStep (createAsset assetType)) : SupplyLaw assetType run := by
  refine ⟨fun i within => allSound_run i within, ?lifetime, ?circulating, ?supply, ?burns, ?locks, ?locked, ?unique⟩
  case lifetime => exact fun i within k => (counters_run i within).1
  case circulating => exact fun i within k => (counters_run i within).2.1
  case supply => exact fun i within k => (counters_run i within).2.2
  case burns =>
    intro i within k c stored id vault held
    have sound := allSound_run i within k c stored
    refine ⟨?_, ?_⟩
    · intro kycRegistry kycEntry now triggered burning eligible
      have realizes : ∃ c', classStep (run.state i).asset c
          (.realizeCustodyVault id vault.authority true kycRegistry kycEntry now) = .ok c' :=
        realize_succeeds sound held triggered burning eligible
      obtain ⟨c', realized⟩ := realizes
      simp only [bookStep, bind_eq_ok, okOr_eq_ok, pure_eq_ok]
      exact ⟨_, c, stored, c', realized, rfl⟩
    · intro now active burning due
      have reverts : ∃ c', classStep (run.state i).asset c (.revertCustodyVault id vault.authority true now) = .ok c' :=
        revert_succeeds sound held active burning due
      obtain ⟨c', reverted⟩ := reverts
      simp only [bookStep, bind_eq_ok, okOr_eq_ok, pure_eq_ok]
      exact ⟨_, c, stored, c', reverted, rfl⟩
  case locks =>
    intro i within k isAdmin label
    have stepped := run.next i within
    rw [label] at stepped
    obtain ⟨c, c', before, after, locked⟩ := onClass_ok stepped
    simp only [classStep, lockSupply, bind_eq_ok, require_eq_ok, pure_eq_ok, exists_const] at locked
    obtain ⟨admin, rfl⟩ := locked
    exact ⟨admin, c, _, before, after, rfl, rfl⟩
  case locked =>
    intro i j after within k c stored locked never
    have closed : Closed k c.shareClass.lifetimeMinted (run.state j) := by
      apply run.invariant_from (P := Closed k c.shareClass.lifetimeMinted) _ _ j within after
      · exact ⟨c, stored, locked, never, rfl⟩
      · intro m inside _ closed
        exact closed_step closed (book_effect (run.next m inside))
    obtain ⟨c', stored', -, -, same⟩ := closed
    rw [lifetimeOf, lifetimeOf, stored, stored']
    exact same
  case unique =>
    intro physical i within k c stored
    obtain ⟨zero, unit, cumulative⟩ := (unique_run i within).single physical k c stored
    have sound := allSound_run i within k c stored
    have single : c.shareClass.lifetimeMinted ≤ 1 := by
      have capped := sound.capped 1 unit
      rwa [if_pos cumulative] at capped
    exact ⟨zero, single, fun account => (sound.units.le account).trans (sound.supply.trans (sound.circulating.trans single))⟩

end Mancipatio.Issuance
