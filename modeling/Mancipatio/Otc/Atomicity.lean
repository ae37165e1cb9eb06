import Mancipatio.Otc.Deal
import Mancipatio.Library.Execution

/-!
# Atomicity of OTC deals

The deal, its two escrows and the accounts of its two parties as a state machine. Third parties may
send units into either escrow, and the parties may change their own accounts in any way between the
deal's instructions.
-/

namespace Mancipatio.Otc
open Checked Execution

structure OtcAccounts where
  sellerAsset : Nat
  buyerAsset : Nat
  sellerPayment : Nat
  buyerPayment : Nat
  deriving DecidableEq, Repr

structure OtcEscrows where
  deal : OtcDeal
  assetEscrow : Nat
  paymentEscrow : Nat
  accounts : OtcAccounts
  now : Int
  deriving DecidableEq, Repr

structure AssetHook where
  dealBlocked : Bool
  immutableOwner : Bool
  deriving DecidableEq, Repr

inductive OtcInstruction where
  | depositOtcAsset (seller : Pubkey) (pauseFlags : PauseFlags) (buyerBlocked sellerBlocked : Bool)
      (receiver : ReceiverKyc) (hook : AssetHook)
  | depositOtcPayment (buyer : Pubkey) (pauseFlags : PauseFlags) (buyerBlocked sellerBlocked : Bool)
      (receiver : ReceiverKyc) (hook : AssetHook)
  | cancelOtcDeal (isAdmin : Bool) (receiver : ReceiverKyc) (hook : AssetHook)
  | expireOtcDeal (buyerBlocked sellerBlocked : Bool) (receiver : ReceiverKyc) (hook : AssetHook)
  | inboundAsset (amount : Nat)
  | inboundPayment (amount : Nat)
  | elsewhere (accounts : OtcAccounts)
  | tick (seconds : Nat)

instance : Inhabited OtcInstruction := ⟨.tick 0⟩

def debit (balance amount : Nat) : Except RegistryError Nat :=
  okOr (checkedSub balance amount) .insufficientFunds

-- A deposit passes: the handler has found its seller unblocked, and the program created the escrow account itself.
def hookVerdict (hook : AssetHook) (legs : OtcLegs) : Except RegistryError Unit :=
  if 0 < legs.assetToBuyer + legs.assetToSeller then do
    require (hook.immutableOwner = true) .immutableOwnerRequired
    require (hook.dealBlocked = false) .senderBlocked
  else
    .ok ()

/-- The token programs carry out the transfers of an instruction, or refuse all of them. -/
def transfer (e : OtcEscrows) (deal : OtcDeal) (legs : OtcLegs) (hook : AssetHook) : Except RegistryError OtcEscrows := do
  let sellerAsset ← debit e.accounts.sellerAsset legs.assetFromSeller
  let buyerPayment ← debit e.accounts.buyerPayment legs.paymentFromBuyer
  let assetEscrow ← debit (e.assetEscrow + legs.assetFromSeller) (legs.assetToBuyer + legs.assetToSeller)
  let paymentEscrow ←
    debit (e.paymentEscrow + legs.paymentFromBuyer) (legs.paymentToSeller + legs.paymentToBuyer)
  hookVerdict hook legs
  return { e with
    deal, assetEscrow, paymentEscrow
    accounts :=
      { sellerAsset := sellerAsset + legs.assetToSeller
        buyerAsset := e.accounts.buyerAsset + legs.assetToBuyer
        sellerPayment := e.accounts.sellerPayment + legs.paymentToSeller
        buyerPayment := buyerPayment + legs.paymentToBuyer } }

def step (e : OtcEscrows) : OtcInstruction → Except RegistryError OtcEscrows
  | .depositOtcAsset seller pauseFlags buyerBlocked sellerBlocked receiver hook => do
      let (deal, legs) ← depositOtcAsset e.deal seller pauseFlags buyerBlocked sellerBlocked e.now receiver
      transfer e deal legs hook
  | .depositOtcPayment buyer pauseFlags buyerBlocked sellerBlocked receiver hook => do
      let (deal, legs) ← depositOtcPayment e.deal buyer pauseFlags buyerBlocked sellerBlocked e.now receiver
      transfer e deal legs hook
  | .cancelOtcDeal isAdmin receiver hook => do
      let (deal, legs) ← cancelOtcDeal e.deal isAdmin e.assetEscrow e.paymentEscrow receiver
      transfer e deal legs hook
  | .expireOtcDeal buyerBlocked sellerBlocked receiver hook => do
      let (deal, legs) ←
        expireOtcDeal e.deal buyerBlocked sellerBlocked e.assetEscrow e.paymentEscrow e.now receiver
      transfer e deal legs hook
  | .inboundAsset amount => return { e with assetEscrow := e.assetEscrow + amount }
  | .inboundPayment amount => return { e with paymentEscrow := e.paymentEscrow + amount }
  | .elsewhere accounts => return { e with accounts }
  | .tick seconds => return { e with now := e.now + seconds }

def opened (deal : OtcDeal) (accounts : OtcAccounts) (now : Int) : OtcEscrows :=
  { deal, assetEscrow := 0, paymentEscrow := 0, accounts, now }

/-! ## What a step can do -/

theorem debit_ok {balance amount left : Nat} (debited : debit balance amount = .ok left) :
    left + amount = balance := by
  simp only [debit, okOr_eq_ok, checkedSub_eq_some] at debited
  omega

theorem transfer_ok {e e' : OtcEscrows} {deal : OtcDeal} {legs : OtcLegs} {hook : AssetHook}
    (moved : transfer e deal legs hook = .ok e') :
    e'.deal = deal ∧ e'.now = e.now ∧
      e'.assetEscrow + legs.assetToBuyer + legs.assetToSeller = e.assetEscrow + legs.assetFromSeller ∧
      e'.paymentEscrow + legs.paymentToSeller + legs.paymentToBuyer =
        e.paymentEscrow + legs.paymentFromBuyer ∧
      e'.accounts.sellerAsset + legs.assetFromSeller = e.accounts.sellerAsset + legs.assetToSeller ∧
      e'.accounts.buyerAsset = e.accounts.buyerAsset + legs.assetToBuyer ∧
      e'.accounts.sellerPayment = e.accounts.sellerPayment + legs.paymentToSeller ∧
      e'.accounts.buyerPayment + legs.paymentFromBuyer = e.accounts.buyerPayment + legs.paymentToBuyer := by
  simp only [transfer, bind_eq_ok, pure_eq_ok] at moved
  obtain ⟨_, asset, _, payment, _, assetLeft, _, paymentLeft, _, -, rfl⟩ := moved
  have asset := debit_ok asset
  have payment := debit_ok payment
  have assetLeft := debit_ok assetLeft
  have paymentLeft := debit_ok paymentLeft
  refine ⟨rfl, rfl, ?_, ?_, ?_, rfl, rfl, ?_⟩ <;> dsimp only <;> omega

def refundGate : OtcInstruction → ReceiverKyc
  | .cancelOtcDeal _ receiver _ => receiver
  | .expireOtcDeal _ _ receiver _ => receiver
  | _ => .ok ()

inductive Effect (gate : ReceiverKyc) (e e' : OtcEscrows) : Prop where
  | sellerDeposited (opened : e.deal.status = .open) (fresh : e.deal.assetDeposited = false)
      (unfunded : e.deal.paymentDeposited = false)
      (deal : e'.deal = { e.deal with assetDeposited := true, assetDepositedAmount := e.deal.amount })
      (asset : e'.assetEscrow = e.assetEscrow + e.deal.amount)
      (payment : e'.paymentEscrow = e.paymentEscrow)
  | buyerDeposited (opened : e.deal.status = .open) (fresh : e.deal.paymentDeposited = false)
      (unfunded : e.deal.assetDeposited = false)
      (deal : e'.deal = { e.deal with paymentDeposited := true, paymentDepositedAmount := e.deal.price })
      (asset : e'.assetEscrow = e.assetEscrow)
      (payment : e'.paymentEscrow = e.paymentEscrow + e.deal.price)
  | settled (opened : e.deal.status = .open) (completed : e'.deal.status = .completed)
      (delivered : e'.accounts.buyerAsset = e.accounts.buyerAsset + e.deal.amount)
      (paid : e'.accounts.sellerPayment = e.accounts.sellerPayment + e.deal.price)
  | refunded (opened : e.deal.status = .open)
      (closed : e'.deal.status = .cancelled ∨ e'.deal.status = .expired)
      (asset : e'.accounts.sellerAsset = e.accounts.sellerAsset +
        (splitEscrowRelease e.assetEscrow e.deal.assetDepositedAmount gate).payout)
      (payment : e'.accounts.buyerPayment =
        e.accounts.buyerPayment + min e.paymentEscrow e.deal.paymentDepositedAmount)
      (undelivered : e'.accounts.buyerAsset = e.accounts.buyerAsset)
      (unpaid : e'.accounts.sellerPayment = e.accounts.sellerPayment)
  | outside (deal : e'.deal = e.deal) (asset : e.assetEscrow ≤ e'.assetEscrow)
      (payment : e.paymentEscrow ≤ e'.paymentEscrow)

private theorem refund_effect {e e' : OtcEscrows} {gate : ReceiverKyc} {status : OtcDealStatus} {hook : AssetHook}
    (opened : e.deal.status = .open) (closed : status = .cancelled ∨ status = .expired)
    (moved : transfer e { e.deal with status }
      (refundOtcDeposits e.deal e.assetEscrow e.paymentEscrow gate) hook = .ok e') : Effect gate e e' := by
  obtain ⟨deal, -, -, -, asset, undelivered, unpaid, payment⟩ := transfer_ok moved
  exact .refunded opened (by rw [deal]; exact closed) asset payment undelivered unpaid

theorem step_effect {e e' : OtcEscrows} {i : OtcInstruction} (stepped : step e i = .ok e') :
    Effect (refundGate i) e e' := by
  cases i with
  | depositOtcAsset seller pauseFlags buyerBlocked sellerBlocked receiver hook =>
      simp only [step, bind_eq_ok, Prod.exists] at stepped
      obtain ⟨deal, legs, deposited, moved⟩ := stepped
      obtain ⟨opened, fresh, ⟨funded, -, rfl, rfl⟩ | ⟨unfunded, rfl, rfl⟩⟩ := depositOtcAsset_ok deposited
      · obtain ⟨deal, -, -, -, -, delivered, paid, -⟩ := transfer_ok moved
        exact .settled opened (by rw [deal]) delivered paid
      · obtain ⟨deal, -, asset, payment, -⟩ := transfer_ok moved
        exact .sellerDeposited opened fresh unfunded deal asset payment
  | depositOtcPayment buyer pauseFlags buyerBlocked sellerBlocked receiver hook =>
      simp only [step, bind_eq_ok, Prod.exists] at stepped
      obtain ⟨deal, legs, deposited, moved⟩ := stepped
      obtain ⟨opened, fresh, ⟨funded, -, rfl, rfl⟩ | ⟨unfunded, rfl, rfl⟩⟩ := depositOtcPayment_ok deposited
      · obtain ⟨deal, -, -, -, -, delivered, paid, -⟩ := transfer_ok moved
        exact .settled opened (by rw [deal]) delivered paid
      · obtain ⟨deal, -, asset, payment, -⟩ := transfer_ok moved
        exact .buyerDeposited opened fresh unfunded deal asset payment
  | cancelOtcDeal isAdmin receiver hook =>
      simp only [step, bind_eq_ok, Prod.exists] at stepped
      obtain ⟨deal, legs, cancelled, moved⟩ := stepped
      obtain ⟨opened, rfl, rfl⟩ := cancelOtcDeal_ok cancelled
      exact refund_effect opened (.inl rfl) moved
  | expireOtcDeal buyerBlocked sellerBlocked receiver hook =>
      simp only [step, bind_eq_ok, Prod.exists] at stepped
      obtain ⟨deal, legs, expired, moved⟩ := stepped
      obtain ⟨opened, rfl, rfl⟩ := expireOtcDeal_ok expired
      exact refund_effect opened (.inr rfl) moved
  | inboundAsset amount =>
      simp only [step, pure_eq_ok] at stepped
      subst stepped
      exact .outside rfl (Nat.le_add_right _ _) (Nat.le_refl _)
  | inboundPayment amount =>
      simp only [step, pure_eq_ok] at stepped
      subst stepped
      exact .outside rfl (Nat.le_refl _) (Nat.le_add_right _ _)
  | elsewhere accounts =>
      simp only [step, pure_eq_ok] at stepped
      subst stepped
      exact .outside rfl (Nat.le_refl _) (Nat.le_refl _)
  | tick seconds =>
      simp only [step, pure_eq_ok] at stepped
      subst stepped
      exact .outside rfl (Nat.le_refl _) (Nat.le_refl _)

/-! ## Invariants -/

structure Recorded (e : OtcEscrows) : Prop where
  atMostOne : ¬ (e.deal.assetDeposited = true ∧ e.deal.paymentDeposited = true)
  assetLedger : e.deal.assetDepositedAmount = if e.deal.assetDeposited then e.deal.amount else 0
  paymentLedger : e.deal.paymentDepositedAmount = if e.deal.paymentDeposited then e.deal.price else 0
  assetHeld : e.deal.assetDepositedAmount ≤ e.assetEscrow
  paymentHeld : e.deal.paymentDepositedAmount ≤ e.paymentEscrow

theorem recorded_opened {deal : OtcDeal} {accounts : OtcAccounts} {now : Int}
    (asset : deal.assetDeposited = false) (payment : deal.paymentDeposited = false)
    (assetLedger : deal.assetDepositedAmount = 0) (paymentLedger : deal.paymentDepositedAmount = 0) :
    Recorded (opened deal accounts now) where
  atMostOne := by simp [opened, asset]
  assetLedger := by simp [opened, asset, assetLedger]
  paymentLedger := by simp [opened, payment, paymentLedger]
  assetHeld := by simp [opened, assetLedger]
  paymentHeld := by simp [opened, paymentLedger]

theorem recorded_step {e e' : OtcEscrows} {i : OtcInstruction}
    (recorded : e.deal.status = .open → Recorded e) (stepped : step e i = .ok e')
    (opened' : e'.deal.status = .open) : Recorded e' := by
  cases step_effect stepped with
  | sellerDeposited opened fresh unfunded deal asset payment =>
      have before := recorded opened
      exact
        { atMostOne := by simp [deal, unfunded]
          assetLedger := by simp [deal]
          paymentLedger := by simpa [deal] using before.paymentLedger
          assetHeld := by simp [deal, asset]
          paymentHeld := by simpa [deal, payment] using before.paymentHeld }
  | buyerDeposited opened fresh unfunded deal asset payment =>
      have before := recorded opened
      exact
        { atMostOne := by simp [deal, unfunded]
          assetLedger := by simpa [deal] using before.assetLedger
          paymentLedger := by simp [deal]
          assetHeld := by simpa [deal, asset] using before.assetHeld
          paymentHeld := by simp [deal, payment] }
  | settled opened completed delivered paid => simp [completed] at opened'
  | refunded opened closed asset payment undelivered unpaid =>
      rcases closed with closed | closed <;> simp [closed] at opened'
  | outside deal asset payment =>
      rw [deal] at opened'
      have before := recorded opened'
      exact
        { atMostOne := by simpa only [deal] using before.atMostOne
          assetLedger := by simpa only [deal] using before.assetLedger
          paymentLedger := by simpa only [deal] using before.paymentLedger
          assetHeld := by rw [deal]; exact Nat.le_trans before.assetHeld asset
          paymentHeld := by rw [deal]; exact Nat.le_trans before.paymentHeld payment }

theorem closed_step {e e' : OtcEscrows} {i : OtcInstruction} (closed : e.deal.status ≠ .open)
    (stepped : step e i = .ok e') : e'.deal = e.deal := by
  cases step_effect stepped with
  | outside deal asset payment => exact deal
  | sellerDeposited opened => exact absurd opened closed
  | buyerDeposited opened => exact absurd opened closed
  | settled opened => exact absurd opened closed
  | refunded opened => exact absurd opened closed

/-! ## What the terminal steps pay -/

/-- What the seller receives when its side is refunded: its deposit, and units that others sent into
the escrow only if the receiver gate accepts it. -/
def sellerRefund (e : OtcEscrows) (gate : ReceiverKyc) : Nat :=
  match gate with
  | .ok () => e.assetEscrow
  | .error _ => e.deal.assetDepositedAmount

theorem payout_eq_sellerRefund {e : OtcEscrows} (recorded : Recorded e) (gate : ReceiverKyc) :
    (splitEscrowRelease e.assetEscrow e.deal.assetDepositedAmount gate).payout = sellerRefund e gate := by
  have held := recorded.assetHeld
  unfold splitEscrowRelease sellerRefund
  dsimp only
  split
  · cases gate <;> dsimp only <;> omega
  · cases gate <;> dsimp only
    omega

inductive Closing (gate : ReceiverKyc) (e e' : OtcEscrows) : Prop where
  | completed (status : e'.deal.status = .completed)
      (delivered : e'.accounts.buyerAsset = e.accounts.buyerAsset + e.deal.amount)
      (paid : e'.accounts.sellerPayment = e.accounts.sellerPayment + e.deal.price)
  | refunded (status : e'.deal.status = .cancelled ∨ e'.deal.status = .expired)
      (asset : e'.accounts.sellerAsset = e.accounts.sellerAsset + sellerRefund e gate)
      (payment : e'.accounts.buyerPayment = e.accounts.buyerPayment + e.deal.paymentDepositedAmount)
      (undelivered : e'.accounts.buyerAsset = e.accounts.buyerAsset)
      (unpaid : e'.accounts.sellerPayment = e.accounts.sellerPayment)

theorem closing_step {e e' : OtcEscrows} {i : OtcInstruction} (recorded : Recorded e)
    (opened : e.deal.status = .open) (stepped : step e i = .ok e') (closed : e'.deal.status ≠ .open) :
    Closing (refundGate i) e e' := by
  cases step_effect stepped with
  | sellerDeposited _ fresh unfunded deal => exact absurd (by rw [deal]; exact opened) closed
  | buyerDeposited _ fresh unfunded deal => exact absurd (by rw [deal]; exact opened) closed
  | outside deal => exact absurd (deal ▸ opened) closed
  | settled _ completed delivered paid => exact .completed completed delivered paid
  | refunded _ status asset payment undelivered unpaid =>
      rw [payout_eq_sellerRefund recorded] at asset
      rw [Nat.min_eq_right recorded.paymentHeld] at payment
      exact .refunded status asset payment undelivered unpaid

/-! ## Nothing that others send in can block the deal -/

/-- The hook lets the units out: the deal is not on the blocklist and the payee's account keeps its owner. -/
def AssetHook.Passes (hook : AssetHook) : Prop :=
  hook.dealBlocked = false ∧ hook.immutableOwner = true

theorem hookVerdict_ok {hook : AssetHook} {legs : OtcLegs} :
    hookVerdict hook legs = .ok () ↔ hook.Passes ∨ legs.assetToBuyer + legs.assetToSeller = 0 := by
  unfold hookVerdict AssetHook.Passes
  split
  case isTrue units =>
    simp only [bind_eq_ok, require_eq_ok, exists_const, units.ne', or_false]
    exact and_comm
  case isFalse none' =>
    simp only [true_iff]
    omega

theorem debit_of_le {balance amount : Nat} (enough : amount ≤ balance) :
    debit balance amount = .ok (balance - amount) := by
  simp [debit, okOr, checkedSub, enough]

theorem transfer_succeeds {e : OtcEscrows} {deal : OtcDeal} {legs : OtcLegs} {hook : AssetHook}
    (seller : legs.assetFromSeller ≤ e.accounts.sellerAsset)
    (buyer : legs.paymentFromBuyer ≤ e.accounts.buyerPayment)
    (asset : legs.assetToBuyer + legs.assetToSeller ≤ e.assetEscrow + legs.assetFromSeller)
    (payment : legs.paymentToSeller + legs.paymentToBuyer ≤ e.paymentEscrow + legs.paymentFromBuyer) :
    (∃ e', transfer e deal legs hook = .ok e') ↔ hook.Passes ∨ legs.assetToBuyer + legs.assetToSeller = 0 := by
  simp only [transfer, debit_of_le seller, debit_of_le buyer, debit_of_le asset, debit_of_le payment,
    bind_eq_ok, pure_eq_ok, Except.ok.injEq, exists_eq_left', ← hookVerdict_ok]
  constructor
  · intro done
    obtain ⟨_, ⟨⟩, passed, -⟩ := done
    exact passed
  · intro passed
    exact ⟨_, (), passed, rfl⟩

theorem refund_succeeds {e : OtcEscrows} (recorded : Recorded e) (deal : OtcDeal) (receiver : ReceiverKyc) (hook : AssetHook) :
    (∃ e', transfer e deal (refundOtcDeposits e.deal e.assetEscrow e.paymentEscrow receiver) hook = .ok e') ↔
      hook.Passes ∨ sellerRefund e receiver = 0 := by
  rw [← payout_eq_sellerRefund recorded receiver]
  rw [transfer_succeeds]
  · simp only [refundOtcDeposits, Nat.zero_add]
  · exact Nat.zero_le _
  · exact Nat.zero_le _
  · simpa [refundOtcDeposits] using splitEscrowRelease_payout_le _ _ _
  · simp only [refundOtcDeposits]
    omega

/-- Whatever the escrows hold: an administrator can cancel, anybody can expire an overdue deal of
unblocked parties, and a deposit that the deal accepts goes through if its party has the units; only the hook can
stop units on their way out of the asset escrow. -/
structure Unblockable (e : OtcEscrows) : Prop where
  cancel : ∀ receiver hook, (∃ e', step e (.cancelOtcDeal true receiver hook) = .ok e') ↔
    hook.Passes ∨ sellerRefund e receiver = 0
  expire : 0 < e.deal.expiresAt → e.deal.expiresAt < e.now → ∀ receiver hook,
    (∃ e', step e (.expireOtcDeal false false receiver hook) = .ok e') ↔ hook.Passes ∨ sellerRefund e receiver = 0
  deposit : ∀ seller pauseFlags buyerBlocked sellerBlocked receiver hook accepted,
    depositOtcAsset e.deal seller pauseFlags buyerBlocked sellerBlocked e.now receiver = .ok accepted →
    e.deal.amount ≤ e.accounts.sellerAsset → (hook.Passes ∨ e.deal.paymentDeposited = false) →
    ∃ e', step e (.depositOtcAsset seller pauseFlags buyerBlocked sellerBlocked receiver hook) = .ok e'
  pay : ∀ buyer pauseFlags buyerBlocked sellerBlocked receiver hook accepted,
    depositOtcPayment e.deal buyer pauseFlags buyerBlocked sellerBlocked e.now receiver = .ok accepted →
    e.deal.price ≤ e.accounts.buyerPayment → (hook.Passes ∨ e.deal.assetDeposited = false) →
    ∃ e', step e (.depositOtcPayment buyer pauseFlags buyerBlocked sellerBlocked receiver hook) = .ok e'

theorem unblockable {e : OtcEscrows} (recorded : Recorded e) (opened : e.deal.status = .open) :
    Unblockable e where
  cancel := by
    intro receiver hook
    rw [← refund_succeeds recorded { e.deal with status := .cancelled } receiver hook]
    simp [step, cancelOtcDeal, require, opened]
  expire := by
    intro positive overdue receiver hook
    rw [← refund_succeeds recorded { e.deal with status := .expired } receiver hook]
    simp [step, expireOtcDeal, require, opened, positive, overdue]
  deposit := by
    intro seller pauseFlags buyerBlocked sellerBlocked receiver hook accepted deposited funds released
    obtain ⟨deal, legs⟩ := accepted
    have held := recorded.paymentHeld
    have ledger := recorded.paymentLedger
    have moves : ∃ e', transfer e deal legs hook = .ok e' := by
      obtain ⟨-, -, ⟨funded, -, rfl, rfl⟩ | ⟨unfunded, rfl, rfl⟩⟩ := depositOtcAsset_ok deposited
      · simp only [funded, if_true] at ledger
        rw [transfer_succeeds funds (Nat.zero_le _) (by dsimp only; omega) (by dsimp only; omega)]
        exact .inl (released.resolve_right (by simp [funded]))
      · rw [transfer_succeeds funds (Nat.zero_le _) (by dsimp only; omega) (by dsimp only; omega)]
        exact .inr rfl
    obtain ⟨e', moved⟩ := moves
    exact ⟨e', by simpa [step, deposited] using moved⟩
  pay := by
    intro buyer pauseFlags buyerBlocked sellerBlocked receiver hook accepted deposited funds released
    obtain ⟨deal, legs⟩ := accepted
    have held := recorded.assetHeld
    have ledger := recorded.assetLedger
    have moves : ∃ e', transfer e deal legs hook = .ok e' := by
      obtain ⟨-, -, ⟨funded, -, rfl, rfl⟩ | ⟨unfunded, rfl, rfl⟩⟩ := depositOtcPayment_ok deposited
      · simp only [funded, if_true] at ledger
        rw [transfer_succeeds (Nat.zero_le _) funds (by dsimp only; omega) (by dsimp only; omega)]
        exact .inl (released.resolve_right (by simp [funded]))
      · rw [transfer_succeeds (Nat.zero_le _) funds (by dsimp only; omega) (by dsimp only; omega)]
        exact .inr rfl
    obtain ⟨e', moved⟩ := moves
    exact ⟨e', by simpa [step, deposited] using moved⟩

/-! ## The statement -/

theorem recorded_run {deal : OtcDeal} {accounts : OtcAccounts} {now : Int}
    (start : Recorded (opened deal accounts now)) (run : Run step (opened deal accounts now)) :
    ∀ i ≤ run.length, (run.state i).deal.status = .open → Recorded (run.state i) := by
  apply run.invariant (P := fun e => e.deal.status = .open → Recorded e)
  · intro _
    exact start
  · intro e i e' recorded stepped opened'
    exact recorded_step recorded stepped opened'

/-- An open deal has at most one side deposited and holds what it records; it closes at most once; a
completion delivers exactly the deal's amounts, and a refund pays each side its own deposit and
delivers nothing, the seller receiving foreign units only through the receiver gate. Only the hook's verdict on units that
leave the asset escrow can block a deal. -/
theorem otc_deal_atomic {authority buyer seller : Pubkey} {isAdmin mintInitialized : Bool}
    {pauseFlags : PauseFlags} {amount price : Nat} {expiresAt now : Int} {deal : OtcDeal}
    (created : createOtcDeal authority isAdmin mintInitialized pauseFlags buyer seller amount price
      expiresAt now = .ok deal) (accounts : OtcAccounts) (run : Run step (opened deal accounts now)) :
    (∀ i ≤ run.length, (run.state i).deal.status = .open →
      Recorded (run.state i) ∧ Unblockable (run.state i)) ∧
    (∀ first last, first ≤ last → last ≤ run.length → (run.state first).deal.status ≠ .open →
      (run.state last).deal = (run.state first).deal) ∧
    ∀ i < run.length, (run.state i).deal.status = .open → (run.state (i + 1)).deal.status ≠ .open →
      Closing (refundGate (run.label i)) (run.state i) (run.state (i + 1)) := by
  obtain ⟨-, asset, payment, assetLedger, paymentLedger, -⟩ := createOtcDeal_ok created
  have recorded := recorded_run (recorded_opened asset payment assetLedger paymentLedger) run
  refine ⟨?_, ?_, ?_⟩
  · intro i within opened
    exact ⟨recorded i within opened, unblockable (recorded i within opened) opened⟩
  · intro first last ordered within closed
    refine run.invariant_from (P := fun e => e.deal = (run.state first).deal) rfl ?_ last within ordered
    intro i before after same
    rw [← same] at closed ⊢
    exact closed_step closed (run.next i before)
  · intro i within opened closed
    exact closing_step (recorded i (Nat.le_of_lt within) opened) opened (run.next i within) closed

def RefundsExactly {initial : OtcEscrows} (run : Run step initial) : Prop :=
  ∀ i < run.length, (run.state i).deal.status = .open →
    (run.state (i + 1)).deal.status = .cancelled ∨ (run.state (i + 1)).deal.status = .expired →
      (run.state (i + 1)).accounts.sellerAsset =
          (run.state i).accounts.sellerAsset + (run.state i).deal.assetDepositedAmount ∧
        (run.state (i + 1)).accounts.buyerPayment =
          (run.state i).accounts.buyerPayment + (run.state i).deal.paymentDepositedAmount

def exampleDeal : OtcDeal :=
  { admin := 1, buyer := 2, seller := 3, amount := 10, price := 50, assetDeposited := false,
    paymentDeposited := false, status := .open, expiresAt := 100, assetDepositedAmount := 0,
    paymentDepositedAmount := 0 }

def exampleRun : Run step (opened exampleDeal ⟨10, 0, 0, 50⟩ 0) :=
  .ofLabels _ _ [.depositOtcAsset 3 0 false false (.ok ()) ⟨false, true⟩, .inboundAsset 3,
    .cancelOtcDeal true (.ok ()) ⟨false, true⟩] rfl

/-- The same deal on the blocklist, with only the payment deposited: one foreign unit keeps it from being cancelled. -/
example : accepts step (opened exampleDeal ⟨10, 0, 0, 50⟩ 0)
      [.depositOtcPayment 2 0 false false (.ok ()) ⟨true, true⟩, .cancelOtcDeal true (.ok ()) ⟨true, true⟩] = true ∧
    accepts step (opened exampleDeal ⟨10, 0, 0, 50⟩ 0)
      [.depositOtcPayment 2 0 false false (.ok ()) ⟨true, true⟩, .inboundAsset 1,
        .cancelOtcDeal true (.ok ()) ⟨true, true⟩] = false := by
  decide

theorem refund_pays_foreign_units : ¬ RefundsExactly exampleRun := by
  intro exact
  have refund := (exact 2 (by decide) rfl (.inl rfl)).1
  exact absurd refund (by decide)

theorem otc_deal_atomic_example :
    Closing (.ok ()) (exampleRun.state 2) (exampleRun.state 3) :=
  have created : createOtcDeal 1 true true 0 2 3 10 50 100 0 = .ok exampleDeal := rfl
  (otc_deal_atomic created ⟨10, 0, 0, 50⟩ exampleRun).2.2 2 (by decide) rfl (by decide)

end Mancipatio.Otc
