import Mancipatio.Sales.Machine
import Mancipatio.Payout.Schedule

/-!
# A sale stays within its approval
-/

namespace Mancipatio.Sales
open Checked Execution Ledger Payout

/-! ## The books of the sales -/

structure Sound (v : Launchpad) : Prop where
  consumed : ∀ key sale, v.sales key = some sale → v.approvals key = none
  owned : ∀ key account, v.accounts (.proceeds key) = some account → account.owner = .sale key
  funded : ∀ key sale, v.sales key = some sale → sale.status = .open →
    ∃ account, v.accounts (.proceeds key) = some account ∧ sale.pricePerUnit * sale.sold ≤ account.amount

theorem sound_launchpad (shareClasses : Pubkey → Option ShareClass) (wallets : Pubkey → Option (TokenAccount Address))
    (now : Int) : Sound (launchpad shareClasses wallets now) where
  consumed := by simp [launchpad]
  owned := by simp [launchpad]
  funded := by simp [launchpad]

theorem proceeds_ne {key other : SaleKey} (apart : other ≠ key) : Address.proceeds other ≠ Address.proceeds key :=
  fun same => apart (Address.proceeds.inj same)

theorem funded_kept {v : Launchpad} (sound : Sound v) {accounts : Accounts Address} {key : SaleKey} {sale : Sale}
    (stored : v.sales key = some sale) (open' : sale.status = .open) (kept : Kept v.accounts accounts (.proceeds key)) :
    ∃ account, accounts (.proceeds key) = some account ∧ sale.pricePerUnit * sale.sold ≤ account.amount := by
  obtain ⟨account, held, covered⟩ := sound.funded key sale stored open'
  obtain ⟨account', held', -, -, more⟩ := kept.held held
  exact ⟨account', held', covered.trans more⟩

theorem owned_kept {v : Launchpad} (sound : Sound v) {accounts : Accounts Address} {key : SaleKey}
    {account : TokenAccount Address} (kept : Kept v.accounts accounts (.proceeds key))
    (held : accounts (.proceeds key) = some account) : account.owner = .sale key := by
  obtain ⟨before, held', owner⟩ := kept.origin held
  exact owner.symm.trans (sound.owned key before held')

theorem payment_ne {v : Launchpad} (sound : Sound v) {accounts : Accounts Address} {mint payment destination : Address}
    {buyer : Pubkey} {cost : Nat} (key : SaleKey)
    (moved : transfer RegistryError.insufficientFunds mint payment (.key buyer) v.accounts destination cost = .ok accounts) :
    Address.proceeds key ≠ payment := by
  rintro rfl
  obtain ⟨payer, -, held, -, ⟨-, -, owner⟩, -⟩ := transfer_ok moved
  have owned := sound.owned key payer held
  rw [owner] at owned
  cases owned

theorem sound_step {v v' : Launchpad} {instruction : SaleInstruction} (sound : Sound v)
    (stepped : step v instruction = .ok v') : Sound v' := by
  cases step_effect stepped with
  | @approved _ key approval unused =>
      refine { sound with consumed := ?_ }
      intro other sale stored
      have apart : other ≠ key := by
        rintro rfl
        rw [unused] at stored
        cases stored
      exact (Function.update_of_ne apart _ _).trans (sound.consumed other sale stored)
  | @revoked _ key =>
      refine { sound with consumed := ?_ }
      intro other sale stored
      by_cases same : other = key
      · subst same
        exact Function.update_self _ _ _
      · exact (Function.update_of_ne same _ _).trans (sound.consumed other sale stored)
  | @opened ctx key params approval sale approved unused within sold open' =>
      refine ⟨?_, ?_, ?_⟩
      · intro other row found
        rcases updated_cases found with ⟨rfl, -⟩ | ⟨apart, old⟩
        · exact Function.update_self _ _ _
        · exact (Function.update_of_ne apart _ _).trans (sound.consumed other row old)
      · intro other account held
        by_cases same : other = key
        · subst same
          dsimp only at held
          rw [Function.update_self, Option.some.injEq] at held
          rw [← held]
        · dsimp only at held
          rw [Function.update_of_ne (proceeds_ne same)] at held
          exact sound.owned other account held
      · intro other row found running
        rcases updated_cases found with ⟨rfl, new⟩ | ⟨apart, old⟩
        · obtain rfl := Option.some.inj new
          exact ⟨_, Function.update_self _ _ _, by rw [sold]; exact Nat.zero_le _⟩
        · exact funded_kept sound old running (kept_update_of_ne (proceeds_ne apart))
  | @bought ctx key payment amount sale shareClasses accounts stored open' started running within moved =>
      have kept : ∀ other, Kept v.accounts accounts (.proceeds other) :=
        fun other => transfer_kept (payment_ne sound other moved) moved
      refine ⟨?_, fun other account held => owned_kept sound (kept other) held, ?_⟩
      · intro other row found
        rcases updated_cases found with ⟨rfl, -⟩ | ⟨-, old⟩
        · exact sound.consumed other sale stored
        · exact sound.consumed other row old
      · intro other row found status
        rcases updated_cases found with ⟨rfl, new⟩ | ⟨apart, old⟩
        · obtain rfl := Option.some.inj new
          obtain ⟨account, held, covered⟩ := sound.funded other sale stored open'
          obtain ⟨account', held', -⟩ := (kept other).held held
          have paid := transfer_balance moved (.proceeds other)
          rw [if_neg (payment_ne sound other moved), if_pos rfl, balance_of_held held, balance_of_held held'] at paid
          refine ⟨account', held', ?_⟩
          dsimp only
          rw [Nat.mul_add]
          omega
        · exact funded_kept sound old status (kept other)
  | @closed _ key sale vaults accounts _ stored open' kept gone =>
      refine ⟨?_, ?_, ?_⟩
      · intro other row found
        rcases updated_cases found with ⟨rfl, -⟩ | ⟨-, old⟩
        · exact sound.consumed other sale stored
        · exact sound.consumed other row old
      · intro other account held
        by_cases same : other = key
        · subst same
          dsimp only at held
          rw [gone] at held
          cases held
        · exact owned_kept sound (kept other same) held
      · intro other row found status
        rcases updated_cases found with ⟨rfl, new⟩ | ⟨apart, old⟩
        · obtain rfl := Option.some.inj new
          cases status
        · exact funded_kept sound old status (kept other apart)
  | @synced key authority sale stored =>
      refine { sound with consumed := ?_, funded := ?_ }
      · intro other row found
        rcases updated_cases found with ⟨rfl, -⟩ | ⟨-, old⟩
        · exact sound.consumed other sale stored
        · exact sound.consumed other row old
      · intro other row found status
        rcases updated_cases found with ⟨rfl, new⟩ | ⟨-, old⟩
        · obtain rfl := Option.some.inj new
          exact sound.funded other sale stored status
        · exact sound.funded other row old status
  | outside _ kept =>
      exact
        { consumed := sound.consumed
          owned := fun key account held => owned_kept sound (kept key) held
          funded := fun key sale stored status => funded_kept sound stored status (kept key) }

/-! ## Where a sale and an approval come from -/

section histories
variable {v v' : Launchpad} {instruction : SaleInstruction} {key : SaleKey}

theorem approval_step {approval : SaleApproval} (stepped : step v instruction = .ok v')
    (differs : v.approvals key ≠ some approval) (stored : v'.approvals key = some approval) :
    ∃ issuerVerified, instruction = .approveSale true issuerVerified key approval := by
  cases step_effect stepped with
  | @approved issuerVerified other approval' unused =>
      rcases updated_cases stored with ⟨rfl, new⟩ | ⟨-, old⟩
      · obtain rfl := Option.some.inj new
        exact ⟨issuerVerified, rfl⟩
      · exact absurd old differs
  | revoked | opened =>
      rcases updated_cases stored with ⟨-, new⟩ | ⟨-, old⟩
      · cases new
      · exact absurd old differs
  | bought | closed | synced | outside => exact absurd stored differs

theorem Within.bought {sale : Sale} {approval : SaleApproval} {amount : Nat} (within : Within sale approval)
    (left : sale.sold + amount ≤ sale.totalForSale) : Within { sale with sold := sale.sold + amount } approval where
  price := within.price
  gross := within.gross
  fits := within.fits
  positive := within.positive
  window := within.window
  sold := left

theorem Within.raised_le {sale : Sale} {approval : SaleApproval} (within : Within sale approval) :
    sale.pricePerUnit * sale.sold ≤ approval.maxGrossRaise :=
  calc sale.pricePerUnit * sale.sold ≤ sale.pricePerUnit * sale.totalForSale := Nat.mul_le_mul_left _ within.sold
    _ ≤ approval.maxGrossRaise := within.gross

theorem sale_step {sale' : Sale} (stepped : step v instruction = .ok v') (stored : v'.sales key = some sale') :
    (∃ ctx p approval, instruction = .openSale ctx key p ∧ v.approvals key = some approval ∧ Within sale' approval) ∨
      ∃ sale, v.sales key = some sale ∧ ∀ approval, Within sale approval → Within sale' approval := by
  cases step_effect stepped with
  | approved | revoked | outside => exact .inr ⟨sale', stored, fun _ within => within⟩
  | @opened ctx _ params approval sale approved unused within =>
      rcases updated_cases stored with ⟨rfl, new⟩ | ⟨-, old⟩
      · obtain rfl := Option.some.inj new
        exact .inl ⟨ctx, params, approval, rfl, approved, within⟩
      · exact .inr ⟨sale', old, fun _ within => within⟩
  | @bought ctx _ payment amount sale shareClasses accounts before _ _ _ left =>
      rcases updated_cases stored with ⟨rfl, new⟩ | ⟨-, old⟩
      · obtain rfl := Option.some.inj new
        exact .inr ⟨sale, before, fun _ within => within.bought left⟩
      · exact .inr ⟨sale', old, fun _ within => within⟩
  | @closed _ _ sale _ _ _ before | @synced _ _ sale before =>
      rcases updated_cases stored with ⟨rfl, new⟩ | ⟨-, old⟩
      · obtain rfl := Option.some.inj new
        exact .inr ⟨sale, before, fun _ within => { within with }⟩
      · exact .inr ⟨sale', old, fun _ within => within⟩

theorem sale_kept (stepped : step v instruction = .ok v') (stored : v.sales key ≠ none) : v'.sales key ≠ none := by
  have rewritten : ∀ other sale, Function.update v.sales other (some sale) key ≠ none := by
    intro other sale
    by_cases same : key = other
    · subst same
      simp
    · rwa [Function.update_of_ne same]
  cases step_effect stepped with
  | approved | revoked | outside => exact stored
  | opened | bought | closed | synced => exact rewritten _ _

theorem openSale_fresh {ctx : OpenContext} {p : SaleParams} (stepped : step v (.openSale ctx key p) = .ok v') :
    v.sales key = none ∧ v'.sales key ≠ none ∧ v'.approvals key = none ∧ ∃ approval, v.approvals key = some approval := by
  cases step_effect stepped with
  | @opened _ _ _ approval sale approved unused =>
      exact ⟨unused, by simp, Function.update_self _ _ _, approval, approved⟩
  | closed closes => cases closes
  | outside outside => cases outside

theorem buy_window {ctx : BuyContext} {payment : Address} {amount : Nat}
    (stepped : step v (.buy ctx key payment amount) = .ok v') :
    ∃ sale, v.sales key = some sale ∧ sale.startTs ≤ v.now ∧ (sale.endTs = 0 ∨ v.now ≤ sale.endTs) := by
  cases step_effect stepped with
  | @bought _ _ _ _ sale _ _ stored _ started running => exact ⟨sale, stored, started, running⟩
  | closed closes => cases closes
  | outside outside => cases outside

end histories

section runs
variable {shareClasses : Pubkey → Option ShareClass} {wallets : Pubkey → Option (TokenAccount Address)} {now : Int}
variable (run : Run step (launchpad shareClasses wallets now))

theorem sound_run : ∀ i ≤ run.length, Sound (run.state i) := by
  apply run.invariant (sound_launchpad shareClasses wallets now)
  intro v instruction v' sound stepped
  exact sound_step sound stepped

theorem sales_kept {key : SaleKey} {i j : Nat} (within : j ≤ run.length) (ordered : i ≤ j)
    (stored : (run.state i).sales key ≠ none) : (run.state j).sales key ≠ none := by
  apply run.invariant_from (P := fun v => v.sales key ≠ none) stored _ j within ordered
  intro k lt _ kept
  exact sale_kept (run.next k lt) kept

theorem sale_origin {key : SaleKey} {i : Nat} (within : i ≤ run.length) {sale : Sale}
    (stored : (run.state i).sales key = some sale) :
    ∃ j < i, ∃ ctx p approval, run.label j = .openSale ctx key p ∧ (run.state j).approvals key = some approval ∧
      Within sale approval := by
  induction i generalizing sale with
  | zero =>
      rw [run.starts] at stored
      cases stored
  | succ i ih =>
      rcases sale_step (run.next i within) stored with ⟨ctx, p, approval, opened, approved, kept⟩ | ⟨before, old, kept⟩
      · exact ⟨i, Nat.lt_succ_self i, ctx, p, approval, opened, approved, kept⟩
      · obtain ⟨j, lt, ctx, p, approval, opened, approved, holds⟩ := ih (Nat.le_of_succ_le within) old
        exact ⟨j, Nat.lt_succ_of_lt lt, ctx, p, approval, opened, approved, kept approval holds⟩

/-- An approval that is stored was recorded by an Admin and has stood unchanged since. -/
theorem approval_origin {key : SaleKey} {i : Nat} (within : i ≤ run.length) {approval : SaleApproval}
    (stored : (run.state i).approvals key = some approval) :
    ∃ k < i, (∃ issuerVerified, run.label k = .approveSale true issuerVerified key approval) ∧
      ∀ j, k < j → j ≤ i → (run.state j).approvals key = some approval := by
  obtain ⟨k, lt, differs, since⟩ := run.lastWrite (fun v => v.approvals key) stored (by simp [launchpad])
  exact ⟨k, lt, approval_step (run.next k (lt.trans_le within)) differs (since (k + 1) (Nat.lt_succ_self k) lt), since⟩

end runs

/-! ## Overflows -/

theorem approveSale_raises {isAdmin issuerVerified saleUsed approved : Bool} {approval : SaleApproval} {now : Int}
    (fits : (checkedAddInt 64 now saleApprovalMaxTtlSecs).isSome) :
    Raises NoOverflow (approveSale isAdmin issuerVerified saleUsed approved approval now) := by
  obtain ⟨latestExpiry, exact⟩ := Option.isSome_iff_exists.mp fits
  unfold approveSale
  refine .guard (by decide) fun _ => ?_
  refine .guard (by decide) fun _ => ?_
  refine .guard (by decide) fun _ => ?_
  refine .guard (by decide) fun _ => ?_
  refine .fits exact ?_
  refine .guard (by decide) fun _ => ?_
  refine .guard (by decide) fun _ => ?_
  exact .pure _

theorem openSale_raises {ctx : OpenContext} {shareClass : ShareClass} {saleUsed : Bool} {approval : SaleApproval}
    {p : SaleParams} {now : Int} (fits : (checkedAddInt 64 (max p.startTs now) maxSaleDurationSecs).isSome) :
    Raises NoOverflow (openSale ctx shareClass saleUsed approval p now) := by
  obtain ⟨latestEnd, exact⟩ := Option.isSome_iff_exists.mp fits
  unfold openSale
  iterate 14 refine .guard (by decide) fun _ => ?_
  refine .fits exact ?_
  iterate 7 refine .guard (by decide) fun _ => ?_
  -- a gross raise beyond 64 bits exceeds every approval
  refine .bind (.okOr (by decide)) fun gross _ => ?_
  refine .guard (by decide) fun _ => ?_
  exact .pure _

theorem nextIssuanceSupply_raises {shareClass : ShareClass} {amount : Nat}
    (circulating : shareClass.circulatingSupply + amount < 2 ^ 64)
    (lifetime : shareClass.lifetimeMinted + amount < 2 ^ 64) : Raises NoOverflow (nextIssuanceSupply shareClass amount) := by
  unfold nextIssuanceSupply
  refine .guard (by decide) fun _ => ?_
  refine .fits (checkedAdd_eq_some.mpr ⟨rfl, circulating⟩) ?_
  refine .fits (checkedAdd_eq_some.mpr ⟨rfl, lifetime⟩) ?_
  refine .guard (by decide) fun _ => ?_
  exact .pure _

theorem buy_raises {ctx : BuyContext} {sale : Sale} {approval : SaleApproval} {shareClass : ShareClass} {amount : Nat}
    {now : Int} (within : Within sale approval) (left : sale.sold + amount ≤ sale.totalForSale)
    (circulating : shareClass.circulatingSupply + amount < 2 ^ 64)
    (lifetime : shareClass.lifetimeMinted + amount < 2 ^ 64) (receiver : Raises NoOverflow ctx.receiver) :
    Raises NoOverflow (buy ctx sale shareClass amount now) := by
  have raised : sale.pricePerUnit * (sale.sold + amount) < 2 ^ 64 :=
    (Nat.mul_le_mul_left _ left).trans_lt within.fits
  have sold : sale.sold + amount < 2 ^ 64 := (Nat.le_mul_of_pos_left _ within.positive).trans_lt raised
  have cost : sale.pricePerUnit * amount < 2 ^ 64 :=
    (Nat.mul_le_mul_left _ (Nat.le_add_left _ _)).trans_lt raised
  unfold buy
  iterate 8 refine .guard (by decide) fun _ => ?_
  refine .bind (nextIssuanceSupply_raises circulating lifetime) fun supply _ => ?_
  refine .guard (by decide) fun _ => ?_
  refine .guard (by decide) fun _ => ?_
  refine .fits (checkedAdd_eq_some.mpr ⟨rfl, sold⟩) ?_
  refine .guard (by decide) fun _ => ?_
  refine .fits (checkedMul_eq_some.mpr ⟨rfl, cost⟩) ?_
  exact .bind receiver fun _ _ => .pure _

theorem closeSale_raises (ctx : CloseContext) (sale : Sale) : Raises NoOverflow (closeSale ctx sale) := by
  unfold closeSale
  iterate 6 refine .guard (by decide) fun _ => ?_
  exact .pure _

/-! ## Containment -/

def Opens {initial : Launchpad} (run : Run step initial) (i : Nat) (key : SaleKey) : Prop :=
  i < run.length ∧ ∃ ctx p, run.label i = .openSale ctx key p

/-- A purchase overflows for units that are not for sale, or when a counter of the share class is full. -/
theorem sale_approval_containment (shareClasses : Pubkey → Option ShareClass)
    (wallets : Pubkey → Option (TokenAccount Address)) (now : Int)
    (run : Run step (launchpad shareClasses wallets now)) :
    (∀ key i j, Opens run i key → Opens run j key → i = j) ∧
    (∀ key i, Opens run i key → ∃ approval, ∃ k < i,
      (∃ issuerVerified, run.label k = .approveSale true issuerVerified key approval) ∧
      (∀ j, k < j → j ≤ i → (run.state j).approvals key = some approval) ∧
      ∀ j, i < j → j ≤ run.length → (run.state j).approvals key = none) ∧
    (∀ key, ∀ i ≤ run.length, ∀ sale, (run.state i).sales key = some sale →
      (∃ j < i, Opens run j key ∧ ∃ approval, (run.state j).approvals key = some approval ∧
        approval.minPricePerUnit ≤ sale.pricePerUnit ∧ sale.pricePerUnit ≤ approval.maxPricePerUnit ∧
        sale.pricePerUnit * sale.sold ≤ approval.maxGrossRaise ∧ sale.startTs ≤ approval.expiresAt) ∧
      sale.sold ≤ sale.totalForSale ∧
      (sale.status = .open → ∃ account, (run.state i).accounts (.proceeds key) = some account ∧
        sale.pricePerUnit * sale.sold ≤ account.amount)) ∧
    (∀ i < run.length, ∀ ctx key payment amount, run.label i = .buy ctx key payment amount →
      ∃ sale, (run.state i).sales key = some sale ∧ sale.startTs ≤ (run.state i).now ∧ (run.state i).now ≤ sale.endTs) ∧
    (∀ key, ∀ i ≤ run.length, ∀ sale, (run.state i).sales key = some sale →
      ∀ ctx shareClass amount now, sale.sold + amount ≤ sale.totalForSale →
        shareClass.circulatingSupply + amount < 2 ^ 64 → shareClass.lifetimeMinted + amount < 2 ^ 64 →
        Raises NoOverflow ctx.receiver → Raises NoOverflow (buy ctx sale shareClass amount now)) ∧
    (∀ isAdmin issuerVerified saleUsed approved approval now,
      (checkedAddInt 64 now saleApprovalMaxTtlSecs).isSome →
        Raises NoOverflow (approveSale isAdmin issuerVerified saleUsed approved approval now)) ∧
    (∀ ctx shareClass saleUsed approval p now, (checkedAddInt 64 (max p.startTs now) maxSaleDurationSecs).isSome →
      Raises NoOverflow (openSale ctx shareClass saleUsed approval p now)) ∧
    ∀ ctx sale, Raises NoOverflow (closeSale ctx sale) := by
  refine ⟨?once, ?consumes, ?contained, ?window, ?purchase, ?approve, ?opening, closeSale_raises⟩
  case once =>
    have notLater : ∀ key i j, Opens run i key → Opens run j key → ¬ i < j := by
      rintro key i j ⟨lt, ctx, p, first⟩ ⟨lt', ctx', p', second⟩ ordered
      have stored := (openSale_fresh (first ▸ run.next i lt)).2.1
      have fresh := (openSale_fresh (second ▸ run.next j lt')).1
      exact sales_kept run lt'.le ordered stored fresh
    intro key i j first second
    exact Nat.le_antisymm (Nat.le_of_not_lt (notLater key j i second first)) (Nat.le_of_not_lt (notLater key i j first second))
  case consumes =>
    rintro key i ⟨lt, ctx, p, opens⟩
    obtain ⟨-, stored, -, approval, approved⟩ := openSale_fresh (opens ▸ run.next i lt)
    obtain ⟨k, before, recorded, since⟩ := approval_origin run lt.le approved
    refine ⟨approval, k, before, recorded, since, fun j after within => ?_⟩
    obtain ⟨sale, found⟩ := Option.ne_none_iff_exists'.mp (sales_kept run within after stored)
    exact (sound_run run j within).consumed key sale found
  case contained =>
    intro key i within sale stored
    obtain ⟨j, lt, ctx, p, approval, opens, approved, holds⟩ := sale_origin run within stored
    refine ⟨⟨j, lt, ⟨lt.trans_le within, ctx, p, opens⟩, approval, approved, holds.price.1, holds.price.2, holds.raised_le,
      holds.window.1⟩, holds.sold, ?_⟩
    exact (sound_run run i within).funded key sale stored
  case window =>
    intro i lt ctx key payment amount label
    obtain ⟨sale, stored, started, running⟩ := buy_window (label ▸ run.next i lt)
    obtain ⟨-, -, -, -, approval, -, -, holds⟩ := sale_origin run lt.le stored
    refine ⟨sale, stored, started, running.resolve_left ?_⟩
    exact holds.window.2.ne'
  case purchase =>
    intro key i within sale stored ctx shareClass amount now left circulating lifetime receiver
    obtain ⟨-, -, -, -, approval, -, -, holds⟩ := sale_origin run within stored
    exact buy_raises holds left circulating lifetime receiver
  case approve =>
    intro _ _ _ _ _ _ fits
    exact approveSale_raises fits
  case opening =>
    intro _ _ _ _ _ _ fits
    exact openSale_raises fits

/-! ## A purchase that overflows -/

def mintedOut : ShareClass :=
  { mintInitialized := true, maxSupply := none, circulatingSupply := 0, lifetimeMinted := 2 ^ 64 - 1, cumulativeCap := false,
    supplyLocked := false, mintablePostLaunch := false, version := 2 }

def exampleApproval : SaleApproval :=
  { issuer := 2, paymentMint := 3, maxGrossRaise := 100, minPricePerUnit := 1, maxPricePerUnit := 5, raiseType := .mature,
    expiresAt := 1000, applicationHash := 7, approvedBy := 4, cliffMonths := 0, vestingMonths := 0 }

def exampleParams : SaleParams :=
  { pricePerUnit := 2, totalForSale := 10, startTs := 0, endTs := 500, raiseType := .mature, cliffMonths := 0,
    vestingMonths := 0 }

def exampleOpening : OpenContext :=
  { authority := 5, issuer := 2, issuerAuthority := 5, paymentMint := 3, issuerVerified := true, assetActive := true,
    approverIsAdmin := true, pauseFlags := 0, issuerFrozen := false }

def exampleBuyer : BuyContext :=
  { buyer := 6, issuerVerified := true, pauseFlags := 0, buyerBlocked := false, issuerFrozen := false, receiver := .ok () }

def exampleSale : Sale :=
  { paymentMint := 3, authority := 5, pricePerUnit := 2, totalForSale := 10, sold := 0, startTs := 0, endTs := 500,
    status := .open, raiseType := .mature, cliffMonths := 0, vestingMonths := 0, applicationHash := 7 }

def exampleLaunchpad : Launchpad :=
  launchpad (fun _ => some mintedOut) (fun _ => none) 0

def exampleApproved : Launchpad :=
  { exampleLaunchpad with approvals := Function.update exampleLaunchpad.approvals (1, 1) (some exampleApproval) }

def exampleOpened : Launchpad :=
  { exampleApproved with
    approvals := Function.update exampleApproved.approvals (1, 1) none
    sales := Function.update exampleApproved.sales (1, 1) (some exampleSale)
    accounts := Function.update exampleApproved.accounts (.proceeds (1, 1))
      (some { mint := .key 3, owner := .sale (1, 1), amount := 0, frozen := false }) }

def exampleRun : Run step exampleLaunchpad where
  length := 2
  state := fun | 0 => exampleLaunchpad | 1 => exampleApproved | _ => exampleOpened
  label := fun
    | 0 => .approveSale true true (1, 1) exampleApproval
    | _ => .openSale exampleOpening (1, 1) exampleParams
  starts := rfl
  next := fun
    | 0, _ => rfl
    | 1, _ => rfl

/-- The sale was opened within its approval and sold nothing yet, but one unit of it cannot be bought. -/
theorem purchase_overflows : ∃ sale shareClass, (exampleRun.state 2).sales (1, 1) = some sale ∧
    (exampleRun.state 2).shareClasses 1 = some shareClass ∧ sale.sold + 1 ≤ sale.totalForSale ∧
    buy exampleBuyer sale shareClass 1 (exampleRun.state 2).now = .error .overflow :=
  ⟨exampleSale, mintedOut, rfl, rfl, by decide, rfl⟩

end Mancipatio.Sales
