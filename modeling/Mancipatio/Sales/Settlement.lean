import Mancipatio.Sales.Containment
import Mancipatio.Payout.Completion

/-!
# How a sale is settled
-/

namespace Mancipatio.Sales
open Checked Execution Ledger Payout

/-! ## Open sales -/

structure Settling (v : Launchpad) : Prop where
  escrow : ∀ key sale account, v.sales key = some sale → sale.status = .open → v.accounts (.proceeds key) = some account →
    account.mint = .key sale.paymentMint
  unopened : ∀ key, (∀ sale, v.sales key = some sale → sale.status = .open) →
    v.vaults key = none ∧ v.accounts (.payoutEscrow key) = none
  schedule : ∀ key sale, v.sales key = some sale → sale.raiseType = .startup → sale.cliffMonths < sale.vestingMonths

section steps
variable {v v' : Launchpad} {instruction : SaleInstruction} {key : SaleKey}

theorem absent_of_holder {accounts accounts' : Accounts Address} {address : Address}
    (same : (accounts' address).map TokenAccount.holder = (accounts address).map TokenAccount.holder)
    (absent : accounts address = none) : accounts' address = none := by
  rw [absent, Option.map_none, Option.map_eq_none_iff] at same
  exact same

theorem drain_absent {accounts accounts' : Accounts Address} {mint : Pubkey} {destination : Address} {amount : Nat}
    {address : Address} (drained : drain accounts mint key destination amount = .ok accounts')
    (absent : accounts address = none) : accounts' address = none := by
  simp only [drain, bind_eq_ok, require_eq_ok, pure_eq_ok, exists_const] at drained
  obtain ⟨swept, moved, -, rfl⟩ := drained
  by_cases same : address = .proceeds key
  · rw [same, Function.update_self]
  · rw [Function.update_of_ne same]
    exact absent_of_holder (sweep_holder moved address) absent

theorem vaults_step (stepped : step v instruction = .ok v') :
    (∃ authority issuerFrozen, instruction = .openPayoutVault authority issuerFrozen key) ∨
      v'.vaults key = v.vaults key ∧ (v.accounts (.payoutEscrow key) = none → v'.accounts (.payoutEscrow key) = none) := by
  have untouched : ∀ address account, Address.payoutEscrow key ≠ address → v.accounts (.payoutEscrow key) = none →
      Function.update v.accounts address account (.payoutEscrow key) = none :=
    fun address account apart absent => (Function.update_of_ne apart _ _).trans absent
  cases instruction with
  | setShareClass | tick =>
      simp only [step, pure_eq_ok] at stepped
      subst stepped
      exact .inr ⟨rfl, id⟩
  | approveSale | syncSaleAuthority =>
      simp only [step, bind_eq_ok, okOr_eq_ok, pure_eq_ok] at stepped
      obtain ⟨_, -, rfl⟩ := stepped
      exact .inr ⟨rfl, id⟩
  | revokeSaleApproval =>
      simp only [step, bind_eq_ok, okOr_eq_ok, pure_eq_ok] at stepped
      obtain ⟨_, -, _, -, rfl⟩ := stepped
      exact .inr ⟨rfl, id⟩
  | setAccount other account =>
      simp only [step, pure_eq_ok] at stepped
      subst stepped
      refine .inr ⟨rfl, ?_⟩
      dsimp only
      apply untouched
      simp
  | inboundTransfer other amount | setFrozen other frozen =>
      simp only [step, changeProceeds, bind_eq_ok, okOr_eq_ok, pure_eq_ok] at stepped
      obtain ⟨_, -, rfl⟩ := stepped
      refine .inr ⟨rfl, ?_⟩
      dsimp only
      apply untouched
      simp
  | openSale ctx other params =>
      simp only [step, bind_eq_ok, okOr_eq_ok, pure_eq_ok] at stepped
      obtain ⟨_, -, _, -, _, -, _, initialized, rfl⟩ := stepped
      obtain rfl := initializeTokenEscrow_ok initialized
      refine .inr ⟨rfl, ?_⟩
      dsimp only
      apply untouched
      simp
  | buy ctx other payment amount =>
      simp only [step, bind_eq_ok, okOr_eq_ok, pure_eq_ok, Prod.exists] at stepped
      obtain ⟨_, -, _, -, _, _, _, -, _, moved, rfl⟩ := stepped
      exact .inr ⟨rfl, absent_of_holder (transfer_holder moved _)⟩
  | closeSale ctx other destination =>
      simp only [step, bind_eq_ok, okOr_eq_ok, pure_eq_ok] at stepped
      obtain ⟨_, -, _, -, _, -, _, -, _, -, _, drained, rfl⟩ := stepped
      exact .inr ⟨rfl, drain_absent drained⟩
  | openPayoutVault authority issuerFrozen other =>
      by_cases same : other = key
      · subst same
        exact .inl ⟨authority, issuerFrozen, rfl⟩
      · simp only [step, bind_eq_ok, okOr_eq_ok, pure_eq_ok] at stepped
        obtain ⟨_, -, _, -, _, -, _, initialized, _, -, _, drained, rfl⟩ := stepped
        obtain rfl := initializeTokenEscrow_ok initialized
        have apart : Address.payoutEscrow key ≠ .payoutEscrow other := fun equal => same (Address.payoutEscrow.inj equal).symm
        refine .inr ⟨Function.update_of_ne (Ne.symm same) _ _, fun absent => drain_absent drained ?_⟩
        rwa [Function.update_of_ne apart]

theorem openPayoutVault_closes {authority : Pubkey} {issuerFrozen : Bool}
    (stepped : step v (.openPayoutVault authority issuerFrozen key) = .ok v') :
    ∃ sale vault proceeds, v.sales key = some sale ∧ v.accounts (.proceeds key) = some proceeds ∧
      openPayoutVault sale.authority authority (sale.status = .open) sale.raiseType sale.cliffMonths sale.vestingMonths
        proceeds.amount issuerFrozen v.now = .ok vault ∧
      v'.sales key = some { sale with status := .closed } ∧ v'.vaults key = some vault ∧
      v'.accounts (.proceeds key) = none := by
  simp only [step, bind_eq_ok, okOr_eq_ok, pure_eq_ok] at stepped
  obtain ⟨sale, stored, proceeds, held, _, -, _, -, vault, opened, _, drained, rfl⟩ := stepped
  exact ⟨sale, vault, proceeds, stored, held, opened, Function.update_self _ _ _, Function.update_self _ _ _,
    (drain_ok drained).1⟩

theorem closed_step {sale : Sale} (stepped : step v instruction = .ok v') (stored : v.sales key = some sale)
    (closed : sale.status = .closed) : ∃ sale', v'.sales key = some sale' ∧ sale'.status = .closed := by
  have rewritten : ∀ other before after, v.sales other = some before → (other = key → after.status = .closed) →
      ∃ sale', Function.update v.sales other (some after) key = some sale' ∧ sale'.status = .closed := by
    intro other before after _ same
    by_cases equal : other = key
    · subst equal
      exact ⟨after, Function.update_self _ _ _, same rfl⟩
    · exact ⟨sale, by rwa [Function.update_of_ne (Ne.symm equal)], closed⟩
  cases step_effect stepped with
  | approved | revoked | outside => exact ⟨sale, stored, closed⟩
  | @opened _ other _ _ new _ unused =>
      have apart : key ≠ other := by
        rintro rfl
        rw [unused] at stored
        cases stored
      exact ⟨sale, (Function.update_of_ne apart _ _).trans stored, closed⟩
  | @bought _ other _ _ before _ _ found open' =>
      apply rewritten other before _ found
      rintro rfl
      obtain rfl := Option.some.inj (stored.symm.trans found)
      rw [closed] at open'
      cases open'
  | @closed _ other before _ _ _ found =>
      exact rewritten other before _ found fun _ => rfl
  | @synced other _ before found =>
      apply rewritten other before _ found
      rintro rfl
      obtain rfl := Option.some.inj (stored.symm.trans found)
      exact closed

theorem openSale_schedule {ctx : OpenContext} {params : SaleParams} (stepped : step v (.openSale ctx key params) = .ok v') :
    ∃ sale, v'.sales = Function.update v.sales key (some sale) ∧
      (sale.raiseType = .startup → sale.cliffMonths < sale.vestingMonths) := by
  simp only [step, bind_eq_ok, okOr_eq_ok, pure_eq_ok] at stepped
  obtain ⟨_, -, _, -, sale, opened, _, -, rfl⟩ := stepped
  refine ⟨sale, rfl, ?_⟩
  simp only [openSale, bind_eq_ok, require_eq_ok, okOr_eq_ok, pure_eq_ok, exists_const] at opened
  obtain ⟨-, -, -, -, -, -, -, -, -, -, -, -, -, -, _, -, -, schedule, -, -, -, -, -, _, -, -, rfl⟩ := opened
  intro startup
  exact schedule.resolve_left (fun other => other startup)

theorem schedule_step (settling : Settling v) (stepped : step v instruction = .ok v') :
    ∀ key sale, v'.sales key = some sale → sale.raiseType = .startup → sale.cliffMonths < sale.vestingMonths := by
  intro key sale found startup
  cases step_effect stepped with
  | approved | revoked | outside => exact settling.schedule key sale found startup
  | @opened ctx other params _ new =>
      obtain ⟨sale', sales, schedule⟩ := openSale_schedule stepped
      rw [sales] at found
      rcases updated_row found with ⟨rfl, rfl⟩ | ⟨-, old⟩
      · exact schedule startup
      · exact settling.schedule key sale old startup
  | @bought _ other _ _ before _ _ stored | @closed _ other before _ _ _ stored | @synced other _ before stored =>
      rcases updated_row found with ⟨rfl, rfl⟩ | ⟨-, old⟩
      · exact settling.schedule key before stored startup
      · exact settling.schedule key sale old startup

theorem unopened_step (settling : Settling v) (stepped : step v instruction = .ok v') :
    ∀ key, (∀ sale, v'.sales key = some sale → sale.status = .open) →
      v'.vaults key = none ∧ v'.accounts (.payoutEscrow key) = none := by
  intro key running
  have before : ∀ sale, v.sales key = some sale → sale.status = .open := by
    intro sale stored
    cases status : sale.status with
    | «open» => rfl
    | closed =>
        obtain ⟨sale', stored', closed⟩ := closed_step stepped stored status
        rw [running sale' stored'] at closed
        cases closed
  obtain ⟨none, absent⟩ := settling.unopened key before
  rcases @vaults_step v v' instruction key stepped with ⟨authority, issuerFrozen, rfl⟩ | ⟨same, kept⟩
  · obtain ⟨sale, _, _, -, -, -, closed, -⟩ := openPayoutVault_closes stepped
    cases running _ closed
  · exact ⟨same.trans none, kept absent⟩

theorem escrow_step (settling : Settling v) (sound : Sound v) (stepped : step v instruction = .ok v') :
    ∀ key sale account, v'.sales key = some sale → sale.status = .open → v'.accounts (.proceeds key) = some account →
      account.mint = .key sale.paymentMint := by
  intro key sale account found running held
  have keeps : ∀ {accounts before}, v.sales key = some before → before.status = .open →
      Kept v.accounts accounts (.proceeds key) → accounts (.proceeds key) = some account →
      account.mint = .key before.paymentMint := by
    intro accounts before stored open' kept held
    obtain ⟨old, holds, -⟩ := sound.funded key before stored open'
    obtain ⟨account', held', mint, -⟩ := kept.held holds
    obtain rfl := Option.some.inj (held.symm.trans held')
    exact mint.trans (settling.escrow key before old stored open' holds)
  cases step_effect stepped with
  | approved | revoked => exact settling.escrow key sale account found running held
  | outside _ kept => exact keeps found running (kept key) held
  | @opened ctx other params _ new =>
      rcases updated_row found with ⟨rfl, rfl⟩ | ⟨apart, old⟩
      · dsimp only at held
        rw [Function.update_self, Option.some.injEq] at held
        rw [← held]
      · exact keeps old running (kept_update_of_ne (proceeds_ne apart)) held
  | @bought _ other _ _ before _ accounts stored open' _ _ _ moved =>
      have kept : Kept v.accounts accounts (.proceeds key) := transfer_kept (payment_ne sound key moved) moved
      rcases updated_row found with ⟨rfl, rfl⟩ | ⟨-, old⟩
      · have mint := @keeps accounts before stored open' kept held
        exact mint
      · exact keeps old running kept held
  | @closed _ other before _ accounts _ stored open' kept =>
      rcases updated_row found with ⟨rfl, rfl⟩ | ⟨apart, old⟩
      · cases running
      · exact keeps old running (kept key apart) held
  | @synced other _ before stored =>
      rcases updated_row found with ⟨rfl, rfl⟩ | ⟨-, old⟩
      · exact settling.escrow key before account stored running held
      · exact settling.escrow key sale account old running held

theorem settling_launchpad (shareClasses : Pubkey → Option ShareClass) (wallets : Pubkey → Option (TokenAccount Address))
    (now : Int) : Settling (launchpad shareClasses wallets now) where
  escrow := by simp [launchpad]
  unopened := by simp [launchpad]
  schedule := by simp [launchpad]

theorem settling_run {shareClasses : Pubkey → Option ShareClass} {wallets : Pubkey → Option (TokenAccount Address)}
    {now : Int} (run : Run step (launchpad shareClasses wallets now)) : ∀ i ≤ run.length, Settling (run.state i) := by
  intro i within
  have start : Settling (run.state 0) := by
    rw [run.starts]
    exact settling_launchpad shareClasses wallets now
  refine run.invariant_from (P := Settling) start ?_ i within (Nat.zero_le i)
  intro i within _ settling
  have sound := sound_run run i within.le
  have stepped := run.next i within
  exact ⟨escrow_step settling sound stepped, unopened_step settling stepped, schedule_step settling stepped⟩

end steps

/-! ## The ways out -/

def Settled (v : Launchpad) (key : SaleKey) (sale : Sale) : Prop :=
  v.sales key = some { sale with status := .closed } ∧ v.accounts (.proceeds key) = none

section exits
variable {v : Launchpad} {key : SaleKey} {sale : Sale} {proceeds : TokenAccount Address}

theorem drain_succeeds {accounts : Accounts Address} {mint : Pubkey} {destination : Address} {payee : TokenAccount Address}
    (held : accounts (.proceeds key) = some proceeds) (own : proceeds.mint = .key mint ∧ proceeds.owner = .sale key)
    (received : accounts destination = some payee) (paid : payee.mint = .key mint)
    (thawed : proceeds.frozen = false ∧ payee.frozen = false) (apart : destination ≠ .proceeds key)
    (room : payee.amount + proceeds.amount < 2 ^ 64) :
    ∃ accounts', drain accounts mint key destination proceeds.amount = .ok accounts' := by
  have swept : ∃ swept, sweep RegistryError.insufficientFunds (.key mint) (.proceeds key) (.sale key) accounts destination
      proceeds.amount = .ok swept := by
    unfold sweep
    split
    · exact transfer_succeeds held received (Ne.symm apart) ⟨own.1, paid, own.2⟩ thawed (Nat.le_refl _) room
    · exact ⟨accounts, rfl⟩
  obtain ⟨swept, moved⟩ := swept
  have emptied := sweep_balance moved (.proceeds key)
  rw [if_pos rfl, if_neg apart, Nat.add_zero, balance_of_held held] at emptied
  refine ⟨Function.update swept (.proceeds key) none, ?_⟩
  simp only [drain, bind_eq_ok, require_eq_ok, pure_eq_ok, exists_const]
  exact ⟨swept, moved, by omega, rfl⟩

theorem closeSale_settles {ctx : CloseContext} {destination : Address} {payee : TokenAccount Address}
    (stored : v.sales key = some sale) (open' : sale.status = .open) (mature : sale.raiseType = .mature)
    (held : v.accounts (.proceeds key) = some proceeds)
    (own : proceeds.mint = .key sale.paymentMint ∧ proceeds.owner = .sale key) (signer : sale.authority = ctx.authority)
    (running : ¬ isPaused ctx.pauseFlags pauseIssuerProceeds) (unfrozen : ctx.issuerFrozen = false)
    (unblocked : ctx.authorityBlocked = false ∧ ctx.destinationBlocked = false)
    (received : v.accounts destination = some payee) (paid : payee.mint = .key sale.paymentMint)
    (thawed : proceeds.frozen = false ∧ payee.frozen = false) (apart : destination ≠ .proceeds key)
    (room : payee.amount + proceeds.amount < 2 ^ 64) :
    ∃ v', step v (.closeSale ctx key destination) = .ok v' ∧ Settled v' key sale := by
  obtain ⟨accounts, drained⟩ := drain_succeeds held own received paid thawed apart room
  refine ⟨{ v with sales := Function.update v.sales key (some { sale with status := .closed }), accounts }, ?_,
    Function.update_self _ _ _, (drain_ok drained).1⟩
  simp only [step, closeSale, bind_eq_ok, okOr_eq_ok, require_eq_ok, pure_eq_ok, exists_const]
  exact ⟨sale, stored, proceeds, held, payee, received, paid, _, ⟨signer, open', running, unfrozen, unblocked, mature, rfl⟩,
    accounts, drained, rfl⟩

theorem openPayoutVault_enabled (stored : v.sales key = some sale) (open' : sale.status = .open)
    (startup : sale.raiseType = .startup) (schedule : sale.cliffMonths < sale.vestingMonths)
    (unopened : v.vaults key = none ∧ v.accounts (.payoutEscrow key) = none)
    (held : v.accounts (.proceeds key) = some proceeds)
    (own : proceeds.mint = .key sale.paymentMint ∧ proceeds.owner = .sale key) (thawed : proceeds.frozen = false)
    (amount : proceeds.amount < 2 ^ 64) (clock : 0 ≤ v.now) (date : v.now + sale.cliffMonths * month < 2 ^ 63) :
    (∃ v', step v (.openPayoutVault sale.authority false key) = .ok v') ↔
      sale.vestingMonths - sale.cliffMonths ≤ proceeds.amount := by
  constructor
  · rintro ⟨v', stepped⟩
    obtain ⟨sale', vault, proceeds', stored', held', opened, -⟩ := openPayoutVault_closes stepped
    obtain rfl := Option.some.inj (stored.symm.trans stored')
    obtain rfl := Option.some.inj (held.symm.trans held')
    exact (openPayoutVault_ok opened).2.1
  · intro enough
    have initialized : initializeTokenEscrow v.accounts (.payoutEscrow key) (.vault key) sale.paymentMint =
        .ok (Function.update v.accounts (.payoutEscrow key)
          (some { mint := .key sale.paymentMint, owner := .vault key, amount := 0, frozen := false })) := by
      simp only [initializeTokenEscrow, bind_eq_ok, require_eq_ok, pure_eq_ok, exists_const]
      exact ⟨unopened.2, trivial⟩
    have created : ∃ vault, openPayoutVault sale.authority sale.authority (decide (sale.status = .open)) sale.raiseType
        sale.cliffMonths sale.vestingMonths proceeds.amount false v.now = .ok vault := by
      simp only [openPayoutVault, bind_eq_ok, require_eq_ok, okOr_eq_ok, checkedAddInt_eq_some, pure_eq_ok, exists_const]
      exact ⟨_, trivial, decide_eq_true open', startup, trivial, by omega, schedule, enough, _,
        ⟨rfl, by unfold month at *; omega, date⟩, rfl⟩
    obtain ⟨vault, created⟩ := created
    have apart : Address.payoutEscrow key ≠ .proceeds key := by simp
    have room : 0 + proceeds.amount < 2 ^ 64 := (Nat.zero_add _).symm ▸ amount
    have received := @Function.update_self Address (fun _ => Option (TokenAccount Address)) _ (.payoutEscrow key)
      (some { mint := .key sale.paymentMint, owner := .vault key, amount := 0, frozen := false }) v.accounts
    obtain ⟨accounts, drained⟩ := drain_succeeds ((Function.update_of_ne (Ne.symm apart) _ _).trans held) own
      received rfl ⟨thawed, rfl⟩ apart room
    refine ⟨{ v with
      sales := Function.update v.sales key (some { sale with status := .closed })
      vaults := Function.update v.vaults key (some vault)
      accounts }, ?_⟩
    · simp only [step, bind_eq_ok, okOr_eq_ok, require_eq_ok, pure_eq_ok, exists_const]
      exact ⟨sale, stored, proceeds, held, unopened.1, _, initialized, vault, created, accounts, drained, rfl⟩

theorem open_step {v' : Launchpad} {instruction : SaleInstruction} (stepped : step v instruction = .ok v')
    (stored : v.sales key = some sale) (open' : sale.status = .open) :
    (∃ sale', v'.sales key = some sale' ∧ sale'.status = .open) ∨
      (∃ ctx destination, instruction = .closeSale ctx key destination) ∨
      ∃ authority issuerFrozen, instruction = .openPayoutVault authority issuerFrozen key := by
  have elsewhere : ∀ other after, other ≠ key →
      ∃ sale', Function.update v.sales other (some after) key = some sale' ∧ sale'.status = .open :=
    fun other after apart => ⟨sale, by rwa [Function.update_of_ne (Ne.symm apart)], open'⟩
  by_cases closes : instruction.closes = true
  · cases instruction with
    | closeSale ctx other destination =>
        by_cases same : other = key
        · subst same
          exact .inr (.inl ⟨ctx, destination, rfl⟩)
        · simp only [step, bind_eq_ok, okOr_eq_ok, pure_eq_ok] at stepped
          obtain ⟨_, -, _, -, _, -, _, -, _, -, _, -, rfl⟩ := stepped
          exact .inl (elsewhere other _ same)
    | openPayoutVault authority issuerFrozen other =>
        by_cases same : other = key
        · subst same
          exact .inr (.inr ⟨authority, issuerFrozen, rfl⟩)
        · simp only [step, bind_eq_ok, okOr_eq_ok, pure_eq_ok] at stepped
          obtain ⟨_, -, _, -, _, -, _, -, _, -, _, -, rfl⟩ := stepped
          exact .inl (elsewhere other _ same)
    | _ => cases closes
  · left
    cases step_effect stepped with
    | approved | revoked | outside => exact ⟨sale, stored, open'⟩
    | @opened _ other _ _ new _ unused =>
        apply elsewhere other new
        rintro rfl
        rw [unused] at stored
        cases stored
    | @bought _ other _ _ before _ _ found running | @synced other _ before found =>
        by_cases same : other = key
        · subst same
          obtain rfl := Option.some.inj (stored.symm.trans found)
          exact ⟨_, Function.update_self _ _ _, open'⟩
        · exact elsewhere other _ same
    | closed ends => exact absurd ends closes

/-- Below a base unit for each tranche, a Startup sale stays open whatever is done. -/
theorem unsettled_step {v' : Launchpad} {instruction : SaleInstruction} (stored : v.sales key = some sale)
    (open' : sale.status = .open) (startup : sale.raiseType = .startup) (held : v.accounts (.proceeds key) = some proceeds)
    (few : proceeds.amount < sale.vestingMonths - sale.cliffMonths) (stepped : step v instruction = .ok v') :
    ∃ sale', v'.sales key = some sale' ∧ sale'.status = .open := by
  rcases open_step stepped stored open' with unclosed | ⟨ctx, destination, rfl⟩ | ⟨authority, issuerFrozen, rfl⟩
  · exact unclosed
  · simp only [step, bind_eq_ok, okOr_eq_ok, pure_eq_ok] at stepped
    obtain ⟨sale', stored', _, -, _, -, _, -, _, done, -⟩ := stepped
    obtain rfl := Option.some.inj (stored.symm.trans stored')
    simp only [closeSale, bind_eq_ok, require_eq_ok, exists_const] at done
    obtain ⟨-, -, -, -, -, mature, -⟩ := done
    rw [startup] at mature
    cases mature
  · obtain ⟨sale', vault, proceeds', stored', held', opened, -⟩ := openPayoutVault_closes stepped
    obtain rfl := Option.some.inj (stored.symm.trans stored')
    obtain rfl := Option.some.inj (held.symm.trans held')
    have enough := (openPayoutVault_ok opened).2.1
    omega

end exits

/-! ## The statement -/

/-- Every tranche of a new vault can be released. Each release pays more than nothing, or it fails. -/
def PaysOut (vault : PayoutVault) (now : Int) : Prop :=
  ∀ hashv, ∃ v, Leads hashv (opened vault now) v ∧ v.vault.tranchesReleased = vault.numTranches ∧
    v.vault.released = vault.totalAmount ∧ v.vault.state = .completed ∧ v.escrow = 0

/-- A Mature sale can be closed at any time. A Startup sale can be turned into a payout vault exactly when its
escrow holds a base unit for each tranche, and nothing closes it before. -/
theorem sale_settles {shareClasses : Pubkey → Option ShareClass} {wallets : Pubkey → Option (TokenAccount Address)}
    {now : Int} (run : Run step (launchpad shareClasses wallets now)) : ∀ i ≤ run.length, ∀ key sale,
      (run.state i).sales key = some sale → sale.status = .open → sale.endTs < (run.state i).now →
      ∃ proceeds, (run.state i).accounts (.proceeds key) = some proceeds ∧
        (sale.raiseType = .mature → ∀ ctx destination payee, sale.authority = ctx.authority →
          ¬ isPaused ctx.pauseFlags pauseIssuerProceeds → ctx.issuerFrozen = false →
          ctx.authorityBlocked = false ∧ ctx.destinationBlocked = false →
          (run.state i).accounts destination = some payee → payee.mint = .key sale.paymentMint →
          proceeds.frozen = false ∧ payee.frozen = false → destination ≠ .proceeds key →
          payee.amount + proceeds.amount < 2 ^ 64 →
          ∃ v', step (run.state i) (.closeSale ctx key destination) = .ok v' ∧ Settled v' key sale) ∧
        (sale.raiseType = .startup → proceeds.frozen = false → proceeds.amount < 2 ^ 64 → sale.vestingMonths < 2 ^ 8 →
          (run.state i).now + 511 * month < 2 ^ 63 →
          ((∃ v', step (run.state i) (.openPayoutVault sale.authority false key) = .ok v') ↔
            sale.vestingMonths - sale.cliffMonths ≤ proceeds.amount) ∧
          ∀ v', step (run.state i) (.openPayoutVault sale.authority false key) = .ok v' → Settled v' key sale ∧
            ∃ vault, v'.vaults key = some vault ∧ PaysOut vault (run.state i).now) ∧
        (sale.raiseType = .startup → proceeds.amount < sale.vestingMonths - sale.cliffMonths →
          ∀ instruction v', step (run.state i) instruction = .ok v' →
            ∃ sale', v'.sales key = some sale' ∧ sale'.status = .open) := by
  intro i within key sale stored open' ended
  have sound := sound_run run i within
  have settling := settling_run run i within
  obtain ⟨-, -, -, -, approval, -, -, holds⟩ := sale_origin run within stored
  obtain ⟨proceeds, held, -⟩ := sound.funded key sale stored open'
  have own := And.intro (settling.escrow key sale proceeds stored open' held) (sound.owned key proceeds held)
  have clock : 0 ≤ (run.state i).now := by
    have positive := holds.window.2
    omega
  refine ⟨proceeds, held, ?_, ?_, ?_⟩
  case refine_1 =>
    intro mature ctx destination payee signer running unfrozen unblocked received paid thawed apart room
    exact closeSale_settles stored open' mature held own signer running unfrozen unblocked received paid thawed apart room
  case refine_2 =>
    intro startup thawed amount months late
    have schedule := settling.schedule key sale stored startup
    have unopened := settling.unopened key fun other found => by
      obtain rfl := Option.some.inj (stored.symm.trans found)
      exact open'
    have date : (run.state i).now + sale.cliffMonths * month < 2 ^ 63 := by
      unfold month at *
      omega
    refine ⟨openPayoutVault_enabled stored open' startup schedule unopened held own thawed amount clock date, ?_⟩
    intro v' stepped
    obtain ⟨sale', vault, proceeds', stored', held', created, closed, kept, gone⟩ := openPayoutVault_closes stepped
    obtain rfl := Option.some.inj (stored.symm.trans stored')
    obtain rfl := Option.some.inj (held.symm.trans held')
    refine ⟨⟨closed, gone⟩, vault, kept, ?_⟩
    intro hashv
    have total : vault.totalAmount = proceeds.amount := by
      obtain ⟨-, -, shape⟩ := openPayoutVault_ok created
      rw [shape]
    rw [total]
    exact opened_completes clock months amount late created
  case refine_3 =>
    intro startup few instruction v' stepped
    exact unsettled_step stored open' startup held few stepped

/-! ## A Startup sale that sells nothing -/

def startupApproval : SaleApproval :=
  { exampleApproval with raiseType := .startup, vestingMonths := 2 }

def startupParams : SaleParams :=
  { exampleParams with raiseType := .startup, vestingMonths := 2 }

def startupSale : Sale :=
  { exampleSale with raiseType := .startup, vestingMonths := 2 }

def unsoldRun : Run step exampleLaunchpad :=
  .ofLabels _ _
    [.approveSale true true (1, 1) startupApproval, .openSale exampleOpening (1, 1) startupParams, .tick 1000] rfl

def fundedRun : Run step exampleLaunchpad :=
  .ofLabels _ _
    [.approveSale true true (1, 1) startupApproval, .openSale exampleOpening (1, 1) startupParams,
      .inboundTransfer (1, 1) 10, .tick 1000] rfl

theorem unsold_startup_stays_open :
    (unsoldRun.state 3).sales (1, 1) = some startupSale ∧ startupSale.status = .open ∧
      startupSale.endTs < (unsoldRun.state 3).now ∧
      ∀ instruction v', step (unsoldRun.state 3) instruction = .ok v' →
        ∃ sale', v'.sales (1, 1) = some sale' ∧ sale'.status = .open := by
  refine ⟨rfl, rfl, by decide +kernel, fun instruction v' stepped => ?_⟩
  exact @unsettled_step _ _ startupSale _ _ _ rfl rfl rfl rfl (by decide) stepped

theorem sale_settles_example : ∃ v', step (fundedRun.state 4) (.openPayoutVault 5 false (1, 1)) = .ok v' := by
  obtain ⟨proceeds, held, -, startup, -⟩ :=
    sale_settles fundedRun 4 (by decide) (1, 1) startupSale rfl rfl (by decide +kernel)
  obtain rfl : proceeds = { mint := .key 3, owner := .sale (1, 1), amount := 10, frozen := false } :=
    Option.some.inj (held.symm.trans rfl)
  exact (startup rfl rfl (by decide) (by decide) (by decide +kernel)).1.mpr (by decide)

end Mancipatio.Sales
