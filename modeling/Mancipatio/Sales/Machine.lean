import Mancipatio.Sales.Sale
import Mancipatio.Library.Execution
import Mancipatio.Library.Ledger

/-!
# The sales of all share classes as a state machine
-/

namespace Mancipatio.Sales
open Checked Execution Ledger Payout

abbrev SaleKey := Pubkey × BitVec 64

inductive Address where
  | key (key : Pubkey)
  | sale (key : SaleKey)
  | proceeds (key : SaleKey)
  | vault (key : SaleKey)
  | payoutEscrow (key : SaleKey)
  deriving DecidableEq

structure Launchpad where
  shareClasses : Pubkey → Option ShareClass
  approvals : SaleKey → Option SaleApproval
  sales : SaleKey → Option Sale
  vaults : SaleKey → Option PayoutVault
  accounts : Accounts Address
  now : Int

inductive SaleInstruction where
  | approveSale (isAdmin issuerVerified : Bool) (key : SaleKey) (approval : SaleApproval)
  | revokeSaleApproval (isAdmin : Bool) (key : SaleKey)
  | openSale (ctx : OpenContext) (key : SaleKey) (params : SaleParams)
  | buy (ctx : BuyContext) (key : SaleKey) (payment : Address) (amount : Nat)
  | closeSale (ctx : CloseContext) (key : SaleKey) (destination : Address)
  | openPayoutVault (authority : Pubkey) (issuerFrozen : Bool) (key : SaleKey)
  | syncSaleAuthority (key : SaleKey) (authority : Pubkey)
  -- the other instructions on a share class
  | setShareClass (key : Pubkey) (shareClass : ShareClass)
  -- whatever the token program lets others do
  | setAccount (key : Pubkey) (account : Option (TokenAccount Address))
  | inboundTransfer (key : SaleKey) (amount : Nat)
  | setFrozen (key : SaleKey) (frozen : Bool)
  | tick (seconds : Nat)

instance : Inhabited SaleInstruction := ⟨.tick 0⟩

/-- The program closes the account of a swept escrow. -/
def drain (accounts : Accounts Address) (mint : Pubkey) (key : SaleKey) (destination : Address) (amount : Nat) :
    Except RegistryError (Accounts Address) := do
  let swept ← sweep .insufficientFunds (.key mint) (.proceeds key) (.sale key) accounts destination amount
  require (balance swept (.proceeds key) = 0) .escrowNotEmpty
  return Function.update swept (.proceeds key) none

def initializeTokenEscrow (accounts : Accounts Address) (address owner : Address) (mint : Pubkey) :
    Except RegistryError (Accounts Address) := do
  require (accounts address = none) .accountAlreadyInUse
  return Function.update accounts address (some { mint := .key mint, owner, amount := 0, frozen := false })

def changeProceeds (v : Launchpad) (key : SaleKey) (change : TokenAccount Address → TokenAccount Address) :
    Except RegistryError Launchpad := do
  let proceeds ← okOr (v.accounts (.proceeds key)) .accountNotInitialized
  return { v with accounts := Function.update v.accounts (.proceeds key) (some (change proceeds)) }

def step (v : Launchpad) : SaleInstruction → Except RegistryError Launchpad
  | .approveSale isAdmin issuerVerified key approval => do
      let approval ← approveSale isAdmin issuerVerified (v.sales key).isSome (v.approvals key).isSome approval v.now
      return { v with approvals := Function.update v.approvals key (some approval) }
  | .revokeSaleApproval isAdmin key => do
      require (isAdmin = true) .accountNotInitialized
      let _ ← okOr (v.approvals key) .accountNotInitialized
      return { v with approvals := Function.update v.approvals key none }
  | .openSale ctx key params => do
      let shareClass ← okOr (v.shareClasses key.1) .accountNotInitialized
      let approval ← okOr (v.approvals key) .accountNotInitialized
      let sale ← openSale ctx shareClass (v.sales key).isSome approval params v.now
      let accounts ← initializeTokenEscrow v.accounts (.proceeds key) (.sale key) sale.paymentMint
      return { v with
        approvals := Function.update v.approvals key none
        sales := Function.update v.sales key (some sale)
        accounts }
  | .buy ctx key payment amount => do
      let sale ← okOr (v.sales key) .accountNotInitialized
      let shareClass ← okOr (v.shareClasses key.1) .accountNotInitialized
      let (sale, shareClass, cost) ← buy ctx sale shareClass amount v.now
      let accounts ←
        transfer .insufficientFunds (.key sale.paymentMint) payment (.key ctx.buyer) v.accounts (.proceeds key) cost
      return { v with
        sales := Function.update v.sales key (some sale)
        shareClasses := Function.update v.shareClasses key.1 (some shareClass)
        accounts }
  | .closeSale ctx key destination => do
      let sale ← okOr (v.sales key) .accountNotInitialized
      let proceeds ← okOr (v.accounts (.proceeds key)) .accountNotInitialized
      let payee ← okOr (v.accounts destination) .accountNotInitialized
      require (payee.mint = .key sale.paymentMint) .unauthorized
      let closed ← closeSale ctx sale
      let accounts ← drain v.accounts sale.paymentMint key destination proceeds.amount
      return { v with sales := Function.update v.sales key (some closed), accounts }
  | .openPayoutVault authority issuerFrozen key => do
      let sale ← okOr (v.sales key) .accountNotInitialized
      let proceeds ← okOr (v.accounts (.proceeds key)) .accountNotInitialized
      require (v.vaults key = none) .accountAlreadyInUse
      let accounts ← initializeTokenEscrow v.accounts (.payoutEscrow key) (.vault key) sale.paymentMint
      let vault ← openPayoutVault sale.authority authority (sale.status = .open) sale.raiseType sale.cliffMonths
        sale.vestingMonths proceeds.amount issuerFrozen v.now
      let accounts ← drain accounts sale.paymentMint key (.payoutEscrow key) proceeds.amount
      return { v with
        sales := Function.update v.sales key (some { sale with status := .closed })
        vaults := Function.update v.vaults key (some vault)
        accounts }
  | .syncSaleAuthority key authority => do
      let sale ← okOr (v.sales key) .accountNotInitialized
      return { v with sales := Function.update v.sales key (some { sale with authority }) }
  | .setShareClass key shareClass =>
      return { v with shareClasses := Function.update v.shareClasses key (some shareClass) }
  | .setAccount key account => return { v with accounts := Function.update v.accounts (.key key) account }
  | .inboundTransfer key amount =>
      changeProceeds v key fun proceeds => { proceeds with amount := proceeds.amount + amount }
  | .setFrozen key frozen => changeProceeds v key fun proceeds => { proceeds with frozen }
  | .tick seconds => return { v with now := v.now + seconds }

def launchpad (shareClasses : Pubkey → Option ShareClass) (wallets : Pubkey → Option (TokenAccount Address))
    (now : Int) : Launchpad :=
  { shareClasses, approvals := fun _ => none, sales := fun _ => none, vaults := fun _ => none,
    accounts := fun | .key key => wallets key | _ => none, now }

/-! ## What a step does -/

def SaleInstruction.closes : SaleInstruction → Bool
  | .closeSale _ _ _ | .openPayoutVault _ _ _ => true
  | _ => false

def SaleInstruction.isOutside : SaleInstruction → Bool
  | .setShareClass _ _ | .setAccount _ _ | .inboundTransfer _ _ | .setFrozen _ _ | .tick _ => true
  | _ => false

inductive Effect (v : Launchpad) : SaleInstruction → Launchpad → Prop
  | approved {issuerVerified key approval} : v.sales key = none →
      Effect v (.approveSale true issuerVerified key approval)
        { v with approvals := Function.update v.approvals key (some approval) }
  | revoked {isAdmin key} : Effect v (.revokeSaleApproval isAdmin key)
      { v with approvals := Function.update v.approvals key none }
  | opened {ctx key params approval sale} : v.approvals key = some approval → v.sales key = none →
      Within sale approval → sale.sold = 0 → sale.status = .open →
      Effect v (.openSale ctx key params)
        { v with
          approvals := Function.update v.approvals key none
          sales := Function.update v.sales key (some sale)
          accounts := Function.update v.accounts (.proceeds key)
            (some { mint := .key sale.paymentMint, owner := .sale key, amount := 0, frozen := false }) }
  | bought {ctx key payment amount sale shareClasses accounts} : v.sales key = some sale → sale.status = .open →
      sale.startTs ≤ v.now → (sale.endTs = 0 ∨ v.now ≤ sale.endTs) → sale.sold + amount ≤ sale.totalForSale →
      transfer RegistryError.insufficientFunds (.key sale.paymentMint) payment (.key ctx.buyer) v.accounts (.proceeds key)
        (sale.pricePerUnit * amount) = .ok accounts →
      Effect v (.buy ctx key payment amount)
        { v with
          sales := Function.update v.sales key (some { sale with sold := sale.sold + amount })
          shareClasses
          accounts }
  | closed {instruction key sale vaults accounts} : instruction.closes = true → v.sales key = some sale →
      sale.status = .open → (∀ other, other ≠ key → Kept v.accounts accounts (.proceeds other)) →
      accounts (.proceeds key) = none →
      Effect v instruction
        { v with sales := Function.update v.sales key (some { sale with status := .closed }), vaults, accounts }
  | synced {key authority sale} : v.sales key = some sale → Effect v (.syncSaleAuthority key authority)
      { v with sales := Function.update v.sales key (some { sale with authority }) }
  | outside {instruction shareClasses accounts now} : instruction.isOutside = true →
      (∀ key, Kept v.accounts accounts (.proceeds key)) →
      Effect v instruction { v with shareClasses, accounts, now }

section inversion
variable {v v' : Launchpad}

theorem drain_ok {accounts accounts' : Accounts Address} {mint : Pubkey} {key : SaleKey} {destination : Address}
    {amount : Nat} (drained : drain accounts mint key destination amount = .ok accounts') :
    accounts' (.proceeds key) = none ∧ ∀ other, other ≠ key → Kept accounts accounts' (.proceeds other) := by
  simp only [drain, bind_eq_ok, require_eq_ok, pure_eq_ok, exists_const] at drained
  obtain ⟨swept, moved, -, rfl⟩ := drained
  refine ⟨Function.update_self _ _ _, fun other apart => ?_⟩
  have distinct : Address.proceeds other ≠ Address.proceeds key := fun same => apart (Address.proceeds.inj same)
  exact (sweep_kept distinct moved).trans (kept_update_of_ne distinct)

theorem initializeTokenEscrow_ok {accounts accounts' : Accounts Address} {address owner : Address} {mint : Pubkey}
    (initialized : initializeTokenEscrow accounts address owner mint = .ok accounts') :
    accounts' = Function.update accounts address (some { mint := .key mint, owner, amount := 0, frozen := false }) := by
  simp only [initializeTokenEscrow, bind_eq_ok, require_eq_ok, pure_eq_ok, exists_const] at initialized
  exact initialized.2.symm

theorem changeProceeds_effect {instruction : SaleInstruction} {key : SaleKey}
    {change : TokenAccount Address → TokenAccount Address} (outside : instruction.isOutside = true)
    (changed : changeProceeds v key change = .ok v') (title : ∀ account, (change account).title = account.title)
    (more : ∀ account, account.amount ≤ (change account).amount) : Effect v instruction v' := by
  simp only [changeProceeds, bind_eq_ok, okOr_eq_ok, pure_eq_ok] at changed
  obtain ⟨proceeds, held, rfl⟩ := changed
  apply Effect.outside outside
  intro other
  by_cases same : Address.proceeds other = Address.proceeds key
  · rw [same]
    constructor
    · rw [Function.update_self, held, Option.map_some, Option.map_some, title]
    · rw [balance_update_self, balance_of_held held]
      exact more proceeds
  · exact kept_update_of_ne same

theorem openSale_effect {ctx : OpenContext} {key : SaleKey} {params : SaleParams}
    (stepped : step v (.openSale ctx key params) = .ok v') : Effect v (.openSale ctx key params) v' := by
  simp only [step, bind_eq_ok, okOr_eq_ok, pure_eq_ok] at stepped
  obtain ⟨shareClass, -, approval, stored, sale, opened, accounts, initialized, rfl⟩ := stepped
  obtain rfl := initializeTokenEscrow_ok initialized
  obtain ⟨unused, within, sold, open', -⟩ := openSale_ok opened
  exact .opened stored (Option.isNone_iff_eq_none.mp (by simpa using unused)) within sold open'

theorem buy_effect {ctx : BuyContext} {key : SaleKey} {payment : Address} {amount : Nat}
    (stepped : step v (.buy ctx key payment amount) = .ok v') : Effect v (.buy ctx key payment amount) v' := by
  simp only [step, bind_eq_ok, okOr_eq_ok, pure_eq_ok, Prod.exists] at stepped
  obtain ⟨sale, stored, shareClass, -, sale', shareClass', cost, bought, accounts, moved, rfl⟩ := stepped
  obtain ⟨open', started, running, within, rfl, rfl⟩ := buy_ok bought
  exact .bought stored open' started running within moved

theorem step_effect {instruction : SaleInstruction} (stepped : step v instruction = .ok v') : Effect v instruction v' := by
  cases instruction with
  | approveSale isAdmin issuerVerified key approval =>
      simp only [step, bind_eq_ok, pure_eq_ok] at stepped
      obtain ⟨_, accepted, rfl⟩ := stepped
      obtain ⟨rfl, unused, rfl⟩ := approveSale_ok accepted
      exact .approved (Option.isNone_iff_eq_none.mp (by simpa using unused))
  | revokeSaleApproval isAdmin key =>
      simp only [step, bind_eq_ok, pure_eq_ok] at stepped
      obtain ⟨_, -, _, -, rfl⟩ := stepped
      exact .revoked
  | openSale => exact openSale_effect stepped
  | buy => exact buy_effect stepped
  | closeSale ctx key destination =>
      simp only [step, bind_eq_ok, okOr_eq_ok, pure_eq_ok] at stepped
      obtain ⟨sale, stored, proceeds, -, payee, -, _, -, closed, done, accounts, drained, rfl⟩ := stepped
      obtain ⟨open', rfl⟩ := closeSale_ok done
      obtain ⟨gone, kept⟩ := drain_ok drained
      exact .closed rfl stored open' kept gone
  | openPayoutVault authority issuerFrozen key =>
      simp only [step, bind_eq_ok, okOr_eq_ok, pure_eq_ok] at stepped
      obtain ⟨sale, stored, proceeds, -, _, -, between, initialized, vault, opened, accounts, drained, rfl⟩ := stepped
      obtain rfl := initializeTokenEscrow_ok initialized
      obtain ⟨gone, kept⟩ := drain_ok drained
      have open' : sale.status = .open := by
        simp only [openPayoutVault, bind_eq_ok, require_eq_ok, exists_const] at opened
        simpa using opened.2.1
      refine .closed rfl stored open' (fun other apart => ?_) gone
      exact (kept_update_of_ne (by simp)).trans (kept other apart)
  | syncSaleAuthority key authority =>
      simp only [step, bind_eq_ok, okOr_eq_ok, pure_eq_ok] at stepped
      obtain ⟨sale, stored, rfl⟩ := stepped
      exact .synced stored
  | setAccount key account =>
      simp only [step, pure_eq_ok] at stepped
      subst stepped
      exact .outside rfl fun other => kept_update_of_ne (by simp)
  | inboundTransfer key amount =>
      exact changeProceeds_effect rfl stepped (fun _ => rfl) fun _ => Nat.le_add_right _ _
  | setFrozen key frozen => exact changeProceeds_effect rfl stepped (fun _ => rfl) fun _ => Nat.le_refl _
  | setShareClass | tick =>
      simp only [step, pure_eq_ok] at stepped
      subst stepped
      exact .outside rfl fun key => .refl _ _

end inversion

end Mancipatio.Sales
