import Mancipatio.Offers.Lifecycle
import Mancipatio.Otc.Atomicity
import Mancipatio.Custody.Lifecycle
import Mancipatio.Vesting.Machine

/-!
# The escrow releases and their callers
-/

namespace Mancipatio.Releases
open Checked Execution Ledger

/-! ## The split -/

section split
variable {balance deposited : Nat} {receiver : ReceiverKyc}

theorem withheld_eq : (splitEscrowRelease balance deposited receiver).withheld =
    balance - (splitEscrowRelease balance deposited receiver).payout := by
  have whole := splitEscrowRelease_payout_add_withheld balance deposited receiver
  omega

theorem withheld_of_refused {e : RegistryError} (refused : receiver = .error e) :
    (splitEscrowRelease balance deposited receiver).withheld = balance - deposited := by
  rw [withheld_eq, splitEscrowRelease_payout_of_refused _ _ _ refused]
  omega

theorem payout_le_add (surplus : Nat) : (splitEscrowRelease balance deposited receiver).payout ≤
    (splitEscrowRelease (balance + surplus) deposited receiver).payout := by
  cases verdict : receiver with
  | ok u =>
      rw [splitEscrowRelease_payout_eq _ _ _ (.inl rfl), splitEscrowRelease_payout_eq _ _ _ (.inl rfl)]
      exact Nat.le_add_right _ _
  | error e =>
      rw [splitEscrowRelease_payout_of_refused _ _ _ rfl, splitEscrowRelease_payout_of_refused _ _ _ rfl]
      exact min_le_min_right _ (Nat.le_add_right _ _)

theorem fromLedger_add_iff (surplus : Nat) :
    (splitEscrowRelease (balance + surplus) deposited receiver).fromLedger =
        (splitEscrowRelease balance deposited receiver).fromLedger ↔
      surplus = 0 ∨ deposited ≤ balance := by
  rw [splitEscrowRelease_fromLedger, splitEscrowRelease_fromLedger]
  omega

end split

structure SplitLaw (balance deposited : Nat) (receiver : ReceiverKyc) : Prop where
  whole : (splitEscrowRelease balance deposited receiver).payout +
    (splitEscrowRelease balance deposited receiver).withheld = balance
  capped : (splitEscrowRelease balance deposited receiver).fromLedger = min deposited balance
  paid : (splitEscrowRelease balance deposited receiver).fromLedger ≤
    (splitEscrowRelease balance deposited receiver).payout
  accepted : receiver = .ok () → (splitEscrowRelease balance deposited receiver).payout = balance
  refused : ∀ refusal, receiver = .error refusal →
    (splitEscrowRelease balance deposited receiver).withheld = balance - deposited
  grows : ∀ surplus, (splitEscrowRelease balance deposited receiver).payout ≤
    (splitEscrowRelease (balance + surplus) deposited receiver).payout
  ledgerGrows : ∀ surplus, (splitEscrowRelease balance deposited receiver).fromLedger ≤
    (splitEscrowRelease (balance + surplus) deposited receiver).fromLedger
  ledgerStays : ∀ surplus, (splitEscrowRelease (balance + surplus) deposited receiver).fromLedger =
      (splitEscrowRelease balance deposited receiver).fromLedger ↔
    surplus = 0 ∨ deposited ≤ balance

theorem splitLaw (balance deposited : Nat) (receiver : ReceiverKyc) : SplitLaw balance deposited receiver where
  whole := splitEscrowRelease_payout_add_withheld balance deposited receiver
  capped := by rw [splitEscrowRelease_fromLedger, Nat.min_comm]
  paid := by
    rw [splitEscrowRelease_fromLedger]
    exact splitEscrowRelease_ledger_le_payout balance deposited receiver
  accepted := fun accepted => splitEscrowRelease_payout_eq _ _ _ (.inl accepted)
  refused := fun _ => withheld_of_refused
  grows := payout_le_add
  ledgerGrows := by
    intro surplus
    rw [splitEscrowRelease_fromLedger, splitEscrowRelease_fromLedger]
    exact min_le_min_right _ (Nat.le_add_right _ _)
  ledgerStays := fromLedger_add_iff

/-! ## What a release leaves behind -/

structure Spent (receiver : ReceiverKyc) (ledger escrow ledger' escrow' : Nat) : Prop where
  debited : ledger' + min ledger escrow = ledger
  retained : escrow' = (splitEscrowRelease escrow ledger receiver).withheld

theorem spent {receiver : ReceiverKyc} {ledger escrow : Nat} : Spent receiver ledger escrow
    (ledger - (splitEscrowRelease escrow ledger receiver).fromLedger)
    (escrow - (splitEscrowRelease escrow ledger receiver).payout) where
  debited := by
    rw [splitEscrowRelease_fromLedger]
    omega
  retained := withheld_eq.symm

theorem Spent.cleared {receiver : ReceiverKyc} {ledger escrow ledger' escrow' : Nat}
    (spent : Spent receiver ledger escrow ledger' escrow') (held : ledger ≤ escrow) : ledger' = 0 := by
  have left := spent.debited
  rw [Nat.min_eq_left held] at left
  omega

/-! ## Offers -/

section offers
open Offers

def offerRefund : OfferInstruction → Option (OfferKey × ReceiverKyc)
  | .cancelOffer _ receiver key _ _ => some (key, receiver)
  | .expireOffer receiver key _ _ => some (key, receiver)
  | _ => none

variable {m m' : Market} {key : OfferKey} {receiver : ReceiverKyc}

structure OfferRefunded (m m' : Market) (key : OfferKey) (receiver : ReceiverKyc) (offer offer' : Offer) : Prop where
  before : m.offers key = some (.live offer)
  opened : offer.status = .open
  after : m'.offers key = some (.live offer')
  closed : offer'.status ≠ .open
  spent : Spent receiver offer.deposited (balance m.shares (.escrow key)) offer'.deposited
    (balance m'.shares (.escrow key))

theorem payOut_escrow (sound : Sound m) {offer : Offer} {makerShares : Address} {immutableOwner : Bool} {payout : Nat}
    {account : TokenAccount Address} {shares : Accounts Address}
    (held : holderAccount m.shares makerShares (.key offer.maker) offer.mint = .ok account)
    (paid : payOut m offer.mint key makerShares immutableOwner payout = .ok shares) :
    balance shares (.escrow key) = balance m.shares (.escrow key) - payout := by
  obtain ⟨found, -, owner⟩ := holderAccount_ok held
  have apart : makerShares ≠ Address.escrow key := by
    rintro rfl
    have owned := sound.owned key account found
    rw [owner] at owned
    cases owned
  have moved := sweep_balance (payOut_ok paid) (.escrow key)
  rw [if_pos rfl, if_neg apart, Nat.add_zero] at moved
  rw [← moved, Nat.add_sub_cancel]

theorem offerRefund_step (sound : Sound m) {instruction : OfferInstruction} (stepped : step m instruction = .ok m')
    (refund : offerRefund instruction = some (key, receiver)) :
    ∃ offer offer', OfferRefunded m m' key receiver offer offer' := by
  cases instruction with
  | cancelOffer maker receiver' key' makerShares immutableOwner =>
      obtain ⟨rfl, rfl⟩ : key' = key ∧ receiver' = receiver := by simpa [offerRefund] using refund
      simp only [step, cancelOffer, release, bind_eq_ok, require_eq_ok, okOr_eq_ok, pure_eq_ok, exists_const,
        Prod.exists, Prod.mk.injEq] at stepped
      obtain ⟨offer, live, account, held, payee, found, _, _, ⟨-, opened, rfl, rfl⟩, shares, paid, rfl⟩ := stepped
      rw [← balance_of_held held] at paid ⊢
      refine ⟨offer, _, liveOffer_ok live, opened, Function.update_self .., by simp, ?_⟩
      dsimp only
      rw [payOut_escrow sound found paid]
      exact spent
  | expireOffer receiver' key' makerShares immutableOwner =>
      obtain ⟨rfl, rfl⟩ : key' = key ∧ receiver' = receiver := by simpa [offerRefund] using refund
      simp only [step, expireOffer, release, bind_eq_ok, require_eq_ok, okOr_eq_ok, pure_eq_ok, exists_const,
        Prod.exists, Prod.mk.injEq] at stepped
      obtain ⟨offer, live, account, held, payee, found, _, _, ⟨opened, -, rfl, rfl⟩, shares, paid, rfl⟩ := stepped
      rw [← balance_of_held held] at paid ⊢
      refine ⟨offer, _, liveOffer_ok live, opened, Function.update_self .., by simp, ?_⟩
      dsimp only
      rw [payOut_escrow sound found paid]
      exact spent
  | _ => simp [offerRefund] at refund

theorem offerRefund_clears (sound : Sound m) {offer offer' : Offer}
    (refunded : OfferRefunded m m' key receiver offer offer') : offer'.deposited = 0 := by
  obtain ⟨account, held, -, covered⟩ := sound.escrowed key offer refunded.before refunded.opened
  apply refunded.spent.cleared
  rwa [balance_of_held held]

end offers

/-! ## Deals, vaults and vesting series -/

section deals
open Otc

def dealRefund : OtcInstruction → Option ReceiverKyc
  | .cancelOtcDeal _ receiver _ => some receiver
  | .expireOtcDeal _ _ receiver _ => some receiver
  | _ => none

structure DealRefunded (receiver : ReceiverKyc) (e e' : OtcEscrows) : Prop where
  opened : e.deal.status = .open
  closed : ∃ status, status ≠ .open ∧ e'.deal = { e.deal with status }
  asset : e'.assetEscrow = (splitEscrowRelease e.assetEscrow e.deal.assetDepositedAmount receiver).withheld
  payment : e'.paymentEscrow = e.paymentEscrow - e.deal.paymentDepositedAmount

theorem transfer_refund {e e' : OtcEscrows} {receiver : ReceiverKyc} {status : OtcDealStatus} {hook : AssetHook}
    (opened : e.deal.status = .open) (closed : status ≠ .open)
    (moved : Otc.transfer e { e.deal with status } (refundOtcDeposits e.deal e.assetEscrow e.paymentEscrow receiver)
      hook = .ok e') : DealRefunded receiver e e' := by
  obtain ⟨deal, -, asset, payment, -⟩ := Otc.transfer_ok moved
  simp only [refundOtcDeposits, Nat.add_zero] at asset payment
  refine ⟨opened, ⟨status, closed, deal⟩, ?_, ?_⟩
  · rw [withheld_eq]
    exact Nat.eq_sub_of_add_eq asset
  · omega

theorem dealRefund_step {e e' : OtcEscrows} {instruction : OtcInstruction} {receiver : ReceiverKyc}
    (stepped : step e instruction = .ok e') (refund : dealRefund instruction = some receiver) :
    DealRefunded receiver e e' := by
  cases instruction with
  | cancelOtcDeal isAdmin receiver' hook =>
      obtain rfl : receiver' = receiver := by simpa [dealRefund] using refund
      simp only [step, bind_eq_ok, Prod.exists] at stepped
      obtain ⟨deal, legs, cancelled, moved⟩ := stepped
      obtain ⟨opened, rfl, rfl⟩ := cancelOtcDeal_ok cancelled
      exact transfer_refund opened (by decide) moved
  | expireOtcDeal buyerBlocked sellerBlocked receiver' hook =>
      obtain rfl : receiver' = receiver := by simpa [dealRefund] using refund
      simp only [step, bind_eq_ok, Prod.exists] at stepped
      obtain ⟨deal, legs, expired, moved⟩ := stepped
      obtain ⟨opened, rfl, rfl⟩ := expireOtcDeal_ok expired
      exact transfer_refund opened (by decide) moved
  | _ => simp [dealRefund] at refund

end deals

section vaults
open Custody

theorem returnCustodyVault_step {c c' : CustodyEscrow} {signer : Pubkey} {isAdmin : Bool} {receiver : ReceiverKyc}
    (stepped : step c (.returnCustodyVault signer isAdmin receiver) = .ok c') :
    Spent receiver c.vault.deposited c.escrow c'.vault.deposited c'.escrow ∧
      c'.vault.state = if c'.escrow = 0 then .returned else c.vault.state := by
  simp only [step, bind_eq_ok, pure_eq_ok, Prod.exists] at stepped
  obtain ⟨vault, release, returned, -, -, escrow, debited, rfl⟩ := stepped
  obtain ⟨-, -, rfl, rfl⟩ := returnCustodyVault_ok returned
  obtain ⟨-, rfl⟩ := debit_ok debited
  refine ⟨spent, ?_⟩
  dsimp only
  rw [← withheld_eq]

end vaults

section series
open Vesting

variable {identity identity' : EscrowIdentity} {escrowAmount reserved ownConsumed amount : Nat} {receiver : ReceiverKyc}

theorem withdrawAvailable_spent
    (withdrawn : withdrawAvailable identity escrowAmount reserved ownConsumed receiver = .ok (identity', amount)) :
    reserved ≤ escrowAmount - amount ∧
      Spent receiver (identity.ownDeposited - ownConsumed - identity.ownRefunded) (escrowAmount - reserved)
        (identity'.ownDeposited - ownConsumed - identity'.ownRefunded) (escrowAmount - amount - reserved) := by
  simp only [withdrawAvailable, bind_eq_ok, require_eq_ok, okOr_eq_ok, checkedAdd_eq_some, pure_eq_ok,
    Prod.mk.injEq, exists_const] at withdrawn
  obtain ⟨positive, _, ⟨rfl, -⟩, rfl, rfl⟩ := withdrawn
  have within := splitEscrowRelease_payout_le (escrowAmount - reserved)
    (identity.ownDeposited - ownConsumed - identity.ownRefunded) receiver
  refine ⟨by omega, ?_⟩
  dsimp only
  rw [← Nat.sub_sub, Nat.sub_right_comm escrowAmount]
  exact spent

/-- What a withdrawal may take is above the reserve, and its ledger is the client's own deposits that are
neither consumed nor refunded. -/
structure SeriesWithdrawn (reserved ownConsumed : Nat) (receiver : ReceiverKyc) (v v' : VestingEscrow) : Prop where
  unmoved : v'.series = v.series
  covered : reserved ≤ v'.escrow
  spent : Spent receiver (v.identity.ownDeposited - ownConsumed - v.identity.ownRefunded) (v.escrow - reserved)
    (v'.identity.ownDeposited - ownConsumed - v'.identity.ownRefunded) (v'.escrow - reserved)

theorem withdrawUnvested_step {v v' : VestingEscrow} {authority : Pubkey}
    (stepped : step v (.withdrawUnvested authority receiver) = .ok v') :
    SeriesWithdrawn (v.series.finalCumulative - v.series.totalReleased) v.series.totalReleased receiver v v' := by
  simp only [step, withdrawUnvested, bind_eq_ok, require_eq_ok, pure_eq_ok, Prod.exists, exists_const] at stepped
  obtain ⟨identity, amount, ⟨-, -, -, withdrawn⟩, rfl⟩ := stepped
  obtain ⟨within, spent⟩ := withdrawAvailable_spent withdrawn
  exact ⟨rfl, within, spent⟩

theorem withdrawVestingSurplus_step {v v' : VestingEscrow} {authority : Pubkey}
    (stepped : step v (.withdrawVestingSurplus authority receiver) = .ok v') :
    SeriesWithdrawn (v.series.totalAllocated - v.series.totalReleased) v.series.totalAllocated receiver v v' := by
  simp only [step, withdrawVestingSurplus, bind_eq_ok, require_eq_ok, okOr_eq_ok, checkedSub_eq_some, pure_eq_ok,
    Prod.exists, exists_const] at stepped
  obtain ⟨identity, amount, ⟨-, -, -, -, -, -, _, ⟨rfl, -⟩, withdrawn⟩, rfl⟩ := stepped
  obtain ⟨within, spent⟩ := withdrawAvailable_spent withdrawn
  exact ⟨rfl, within, spent⟩

end series

/-! ## The law -/

/-- The split as its callers use it. Every refund of an offer clears its ledger; a deal keeps its record
and is over; a vault stays open exactly for what was withheld; a vesting series keeps its reserve. -/
theorem split_escrow_release_law :
    (∀ balance deposited receiver, SplitLaw balance deposited receiver) ∧
    (∀ shares payments blocked now (run : Run Offers.step (Offers.market shares payments blocked now)),
      ∀ i < run.length, ∀ key receiver, offerRefund (run.label i) = some (key, receiver) →
        ∃ offer offer', OfferRefunded (run.state i) (run.state (i + 1)) key receiver offer offer' ∧
          offer'.deposited = 0) ∧
    (∀ e e' instruction receiver, Otc.step e instruction = .ok e' → dealRefund instruction = some receiver →
      DealRefunded receiver e e') ∧
    (∀ c c' signer isAdmin receiver, Custody.step c (.returnCustodyVault signer isAdmin receiver) = .ok c' →
      Spent receiver c.vault.deposited c.escrow c'.vault.deposited c'.escrow ∧
        c'.vault.state = if c'.escrow = 0 then .returned else c.vault.state) ∧
    (∀ v v' authority receiver, Vesting.step v (.withdrawUnvested authority receiver) = .ok v' →
      SeriesWithdrawn (v.series.finalCumulative - v.series.totalReleased) v.series.totalReleased receiver v v') ∧
    ∀ v v' authority receiver, Vesting.step v (.withdrawVestingSurplus authority receiver) = .ok v' →
      SeriesWithdrawn (v.series.totalAllocated - v.series.totalReleased) v.series.totalAllocated receiver v v' := by
  refine ⟨splitLaw, ?offers, fun _ _ _ _ => dealRefund_step, fun _ _ _ _ _ => returnCustodyVault_step,
    fun _ _ _ _ => withdrawUnvested_step,
    fun _ _ _ _ => withdrawVestingSurplus_step⟩
  case offers =>
    intro shares payments blocked now run i within key receiver refund
    have sound := run.invariant (Offers.sound_market shares payments blocked now)
      (fun m a m' => Offers.sound_step) i (Nat.le_of_lt within)
    obtain ⟨offer, offer', refunded⟩ := offerRefund_step sound (run.next i within) refund
    exact ⟨offer, offer', refunded, offerRefund_clears sound refunded⟩

theorem ledger_part_grows : ¬ ∀ balance deposited receiver surplus,
    (splitEscrowRelease (balance + surplus) deposited receiver).fromLedger =
      (splitEscrowRelease balance deposited receiver).fromLedger := by
  intro unmoved
  exact absurd (unmoved 0 10 (.ok ()) 5) (by decide)

end Mancipatio.Releases
