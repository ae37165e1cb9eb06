import Mancipatio.Vesting.Instructions
import Mancipatio.Library.Execution

/-!
# One vesting series as a state machine

The state is the series with its positions, its refund ledger, the escrow balance and the clock. The
escrow is debited by the instructions only; anybody may send units into it.
-/

namespace Mancipatio.Vesting
open Checked Execution

structure VestingEscrow where
  series : VestingSeries
  identity : EscrowIdentity
  positions : List VestingPosition
  escrow : Nat
  now : Int
  deriving DecidableEq, Repr

inductive VestingInstruction where
  | addVestingPosition (authority wallet : Pubkey) (allocation : Nat)
  | finalizeVestingSeries (authority : Pubkey)
  | depositToVestingEscrow (depositor : Pubkey) (pauseFlags : PauseFlags) (amount : Nat)
  | approveVestingTranche (authority : Pubkey) (trancheIndex : Nat)
  | claimVested (recipient : Pubkey) (positionIndex : Nat) (recipientBlocked : Bool) (receiver : ReceiverKyc)
  | pushVested (positionIndex : Nat) (recipientBlocked : Bool) (receiver : ReceiverKyc)
  | cancelVestingSeries (authority : Pubkey)
  | withdrawUnvested (authority : Pubkey) (receiver : ReceiverKyc)
  | withdrawVestingSurplus (authority : Pubkey) (receiver : ReceiverKyc)
  | disableVestingCancellation (authority : Pubkey)
  | recoverVestingPosition (authority : Pubkey) (positionIndex : Nat) (newWallet : Pubkey)
  | inboundTransfer (amount : Nat)
  | tick (seconds : Nat)

instance : Inhabited VestingInstruction := ⟨.tick 0⟩

def release (v : VestingEscrow) (positionIndex : Nat)
    (handle : VestingSeries → VestingPosition → Except RegistryError (VestingSeries × VestingPosition × Nat)) :
    Except RegistryError VestingEscrow := do
  let position ← okOr v.positions[positionIndex]? .accountNotInitialized
  let (series, position, amount) ← handle v.series position
  return { v with series, positions := v.positions.set positionIndex position, escrow := v.escrow - amount }

def step (v : VestingEscrow) : VestingInstruction → Except RegistryError VestingEscrow
  | .addVestingPosition authority wallet allocation => do
      let (series, position) ← addVestingPosition v.series authority wallet allocation
      return { v with series, positions := v.positions ++ [position] }
  | .finalizeVestingSeries authority => do
      return { v with series := ← finalizeVestingSeries v.series authority v.now }
  | .depositToVestingEscrow depositor pauseFlags amount => do
      let (series, identity) ← depositToVestingEscrow v.series v.identity depositor pauseFlags amount
      return { v with series, identity, escrow := v.escrow + amount }
  | .approveVestingTranche authority trancheIndex => do
      return { v with series := ← approveVestingTranche v.series authority trancheIndex }
  | .claimVested recipient positionIndex recipientBlocked receiver =>
      release v positionIndex fun s p => claimVested s p recipient recipientBlocked v.escrow v.now receiver
  | .pushVested positionIndex recipientBlocked receiver =>
      release v positionIndex fun s p => pushVested s p recipientBlocked v.escrow v.now receiver
  | .cancelVestingSeries authority => do
      return { v with series := ← cancelVestingSeries v.series authority v.now }
  | .withdrawUnvested authority receiver => do
      let (identity, amount) ← withdrawUnvested v.series v.identity authority v.escrow receiver
      return { v with identity, escrow := v.escrow - amount }
  | .withdrawVestingSurplus authority receiver => do
      let (identity, amount) ← withdrawVestingSurplus v.series v.identity authority v.escrow receiver
      return { v with identity, escrow := v.escrow - amount }
  | .disableVestingCancellation authority => do
      return { v with series := ← disableVestingCancellation v.series authority }
  | .recoverVestingPosition authority positionIndex newWallet => do
      let position ← okOr v.positions[positionIndex]? .accountNotInitialized
      let position ← recoverVestingPosition v.series position authority newWallet
      return { v with positions := v.positions.set positionIndex position }
  | .inboundTransfer amount => return { v with escrow := v.escrow + amount }
  | .tick seconds => return { v with now := v.now + seconds }

def opened (series : VestingSeries) (identity : EscrowIdentity) (now : Int) : VestingEscrow :=
  { series, identity, positions := [], escrow := 0, now }

def entitlement (v : VestingEscrow) (p : VestingPosition) : Nat :=
  vestingPositionEntitlement p.allocation (vestingDeliverableCumulative v.series v.now) v.series.totalAllocated

/-! ## What the instructions do -/

section effects
variable {s s' : VestingSeries} {p p' : VestingPosition} {identity identity' : EscrowIdentity}
variable {authority : Pubkey} {escrowAmount amount : Nat} {now : Int} {receiver : ReceiverKyc}

theorem addVestingPosition_ok {wallet : Pubkey} {allocation : Nat}
    (added : addVestingPosition s authority wallet allocation = .ok (s', p')) :
    s.status = .draft ∧ s.totalAllocated + allocation < 2 ^ 64 ∧
      s' = { s with positionsCount := s.positionsCount + 1, totalAllocated := s.totalAllocated + allocation } ∧
      p' = { index := s.positionsCount, wallet, allocation, released := 0 } := by
  simp only [addVestingPosition, bind_eq_ok, require_eq_ok, okOr_eq_ok, checkedAdd_eq_some, pure_eq_ok,
    Prod.mk.injEq, exists_const] at added
  obtain ⟨-, draft, -, _, ⟨rfl, -⟩, _, ⟨rfl, fits⟩, rfl, rfl⟩ := added
  exact ⟨draft, fits, rfl, rfl⟩

theorem finalizeVestingSeries_ok (finalized : finalizeVestingSeries s authority now = .ok s') :
    s.status = .draft ∧ s.totalAllocated = scheduled s.tranches ∧ s' = { s with status := .active } := by
  simp only [finalizeVestingSeries, bind_eq_ok, require_eq_ok, okOr_eq_ok, pure_eq_ok, exists_const] at finalized
  obtain ⟨-, draft, total, computed, ⟨-, -, matched⟩, -, -, -, -, rfl⟩ := finalized
  exact ⟨draft, matched.trans (vestingScheduleTotal_ok computed).1, rfl⟩

theorem depositToVestingEscrow_ok {depositor : Pubkey} {pauseFlags : PauseFlags}
    (deposited : depositToVestingEscrow s identity depositor pauseFlags amount = .ok (s', identity')) :
    s.status ≠ .cancelled ∧ s.deposited + amount ≤ scheduled s.tranches ∧
      s' = { s with deposited := s.deposited + amount } := by
  simp only [depositToVestingEscrow, bind_eq_ok, require_eq_ok, okOr_eq_ok, checkedAdd_eq_some,
    exists_const] at deposited
  obtain ⟨uncancelled, -, -, -, _, ⟨rfl, -⟩, total, computed, within, deposited⟩ := deposited
  rw [(vestingScheduleTotal_ok computed).1] at within
  refine ⟨by rcases uncancelled with h | h <;> simp [h], within, ?_⟩
  split at deposited
  · simp only [bind_eq_ok, okOr_eq_ok, pure_eq_ok, Prod.mk.injEq] at deposited
    obtain ⟨-, -, rfl, -⟩ := deposited
    rfl
  · simp only [pure_eq_ok, Prod.mk.injEq] at deposited
    exact deposited.1.symm

theorem approveVestingTranche_ok {trancheIndex : Nat}
    (approved : approveVestingTranche s authority trancheIndex = .ok s') :
    s.status = .active ∧ s' = { s with approvedMask := s.approvedMask ||| (1 <<< trancheIndex) } := by
  simp only [approveVestingTranche, bind_eq_ok, require_eq_ok, pure_eq_ok, exists_const] at approved
  obtain ⟨-, active, -, -, rfl⟩ := approved
  exact ⟨active, rfl⟩

theorem releaseVested_ok (released : releaseVested s p escrowAmount now receiver = .ok (s', p', amount)) :
    s.status ≠ .draft ∧ s.totalAllocated = scheduled s.tranches ∧ receiver = .ok () ∧ 0 < amount ∧
      amount = min (vestingPositionEntitlement p.allocation (vestingDeliverableCumulative s now)
        s.totalAllocated - p.released) escrowAmount ∧
      s' = { s with totalReleased := s.totalReleased + amount } ∧
      p' = { p with released := p.released + amount } := by
  simp only [releaseVested, bind_eq_ok, require_eq_ok, okOr_eq_ok, checkedAdd_eq_some, pure_eq_ok,
    Prod.mk.injEq, exists_const] at released
  obtain ⟨notDraft, total, computed, ⟨matched, -⟩, positive, ⟨⟩, accepted, released⟩ := released
  obtain ⟨_, ⟨rfl, -⟩, _, ⟨rfl, -⟩, rfl, rfl, rfl⟩ := released
  exact ⟨notDraft, matched ▸ (vestingScheduleTotal_ok computed).1, accepted, positive, rfl, rfl, rfl⟩

theorem cancelVestingSeries_ok (fits : scheduled s.tranches < 2 ^ 64) (bps : s.preCliffBps ≤ 10000)
    (cancelled : cancelVestingSeries s authority now = .ok s') :
    s.status ≠ .cancelled ∧ ∃ finalCumulative,
      s' = { s with finalCumulative, status := .cancelled, cancelledAt := now } ∧
      finalCumulative ≤ s.totalAllocated ∧
      (finalCumulative = 0 ∨ s.totalAllocated = scheduled s.tranches) ∧
      (s.status = .active → vestingCumulative s.tranches now ≤ finalCumulative) := by
  simp only [cancelVestingSeries, bind_eq_ok, require_eq_ok, exists_const] at cancelled
  obtain ⟨-, uncancelled, -, cancelled⟩ := cancelled
  refine ⟨by rcases uncancelled with h | h <;> simp [h], ?_⟩
  split at cancelled
  · next draft =>
      rw [pure_eq_ok] at cancelled
      exact ⟨0, cancelled.symm, Nat.zero_le _, .inl rfl, by simp [draft]⟩
  · simp only [bind_eq_ok, require_eq_ok, pure_eq_ok, exists_const] at cancelled
    obtain ⟨total, computed, ⟨matched, -⟩, rfl⟩ := cancelled
    have whole : s.totalAllocated = scheduled s.tranches := matched ▸ (vestingScheduleTotal_ok computed).1
    have vested := unlocked_le_scheduled s.tranches fun entry => entry.1.unlockTs ≤ now
    rw [← vestingCumulative_eq fits, ← whole] at vested
    refine ⟨_, rfl, ?_, .inr whole, fun _ => ?_⟩
    · split
      · exact (truncate_le _ _).trans (Nat.div_le_of_le_mul (by rw [Nat.mul_comm]; gcongr))
      · exact vested
    · split
      · next nothing => exact nothing ▸ Nat.zero_le _
      · exact Nat.le_refl _

theorem withdrawAvailable_ok {reserved ownConsumed : Nat}
    (withdrawn : withdrawAvailable identity escrowAmount reserved ownConsumed receiver = .ok (identity', amount)) :
    amount ≤ escrowAmount - reserved := by
  simp only [withdrawAvailable, bind_eq_ok, require_eq_ok, okOr_eq_ok, pure_eq_ok, Prod.mk.injEq,
    exists_const] at withdrawn
  obtain ⟨-, -, -, -, rfl⟩ := withdrawn
  exact splitEscrowRelease_payout_le _ _ _

theorem withdrawUnvested_ok
    (withdrawn : withdrawUnvested s identity authority escrowAmount receiver = .ok (identity', amount)) :
    s.status = .cancelled ∧ amount ≤ escrowAmount - (s.finalCumulative - s.totalReleased) := by
  simp only [withdrawUnvested, bind_eq_ok, require_eq_ok, exists_const] at withdrawn
  obtain ⟨-, -, cancelled, withdrawn⟩ := withdrawn
  exact ⟨cancelled, withdrawAvailable_ok withdrawn⟩

theorem withdrawVestingSurplus_ok
    (withdrawn : withdrawVestingSurplus s identity authority escrowAmount receiver = .ok (identity', amount)) :
    s.status = .active ∧ amount ≤ escrowAmount - (s.totalAllocated - s.totalReleased) := by
  simp only [withdrawVestingSurplus, bind_eq_ok, require_eq_ok, okOr_eq_ok, checkedSub_eq_some,
    exists_const] at withdrawn
  obtain ⟨-, -, active, -, -, -, _, ⟨rfl, -⟩, withdrawn⟩ := withdrawn
  exact ⟨active, withdrawAvailable_ok withdrawn⟩

theorem disableVestingCancellation_ok (disabled : disableVestingCancellation s authority = .ok s') :
    s' = { s with cancellationEnabled := false } := by
  simp only [disableVestingCancellation, bind_eq_ok, require_eq_ok, pure_eq_ok, exists_const] at disabled
  exact disabled.2.2.2.symm

theorem recoverVestingPosition_ok {newWallet : Pubkey}
    (recovered : recoverVestingPosition s p authority newWallet = .ok p') :
    p' = { p with wallet := newWallet } := by
  simp only [recoverVestingPosition, bind_eq_ok, require_eq_ok, pure_eq_ok, exists_const] at recovered
  exact recovered.2.2.2.symm

end effects

inductive Effect (v : VestingEscrow) : VestingEscrow → Prop where
  | positionAdded (wallet : Pubkey) (allocation : Nat) (draft : v.series.status = .draft)
      (fits : v.series.totalAllocated + allocation < 2 ^ 64) :
      Effect v { v with
        series := { v.series with
          positionsCount := v.series.positionsCount + 1
          totalAllocated := v.series.totalAllocated + allocation }
        positions := v.positions ++ [{ index := v.series.positionsCount, wallet, allocation, released := 0 }] }
  | finalized (draft : v.series.status = .draft)
      (whole : v.series.totalAllocated = scheduled v.series.tranches) :
      Effect v { v with series := { v.series with status := .active } }
  | deposited (amount : Nat) (identity : EscrowIdentity) (uncancelled : v.series.status ≠ .cancelled)
      (credited : v.series.deposited + amount ≤ scheduled v.series.tranches) :
      Effect v { v with
        series := { v.series with deposited := v.series.deposited + amount }, identity
        escrow := v.escrow + amount }
  | approved (extra : BitVec 64) (active : v.series.status = .active) :
      Effect v { v with series := { v.series with approvedMask := v.series.approvedMask ||| extra } }
  | released {i : Nat} {p : VestingPosition} (amount : Nat) (stored : v.positions[i]? = some p)
      (started : v.series.status ≠ .draft)
      (capped : amount = min (entitlement v p - p.released) v.escrow) :
      Effect v { v with
        series := { v.series with totalReleased := v.series.totalReleased + amount }
        positions := v.positions.set i { p with released := p.released + amount }
        escrow := v.escrow - amount }
  | cancelled (finalCumulative : Nat) (uncancelled : v.series.status ≠ .cancelled)
      (bounded : finalCumulative ≤ v.series.totalAllocated)
      (whole : finalCumulative = 0 ∨ v.series.totalAllocated = scheduled v.series.tranches)
      (vested : v.series.status = .active → vestingCumulative v.series.tranches v.now ≤ finalCumulative) :
      Effect v { v with series := { v.series with finalCumulative, status := .cancelled, cancelledAt := v.now } }
  | unvestedWithdrawn (amount : Nat) (identity : EscrowIdentity) (isCancelled : v.series.status = .cancelled)
      (within : amount ≤ v.escrow - (v.series.finalCumulative - v.series.totalReleased)) :
      Effect v { v with identity, escrow := v.escrow - amount }
  | surplusWithdrawn (amount : Nat) (identity : EscrowIdentity) (active : v.series.status = .active)
      (within : amount ≤ v.escrow - (v.series.totalAllocated - v.series.totalReleased)) :
      Effect v { v with identity, escrow := v.escrow - amount }
  | cancellationDisabled : Effect v { v with series := { v.series with cancellationEnabled := false } }
  | recovered {i : Nat} {p : VestingPosition} (stored : v.positions[i]? = some p) (wallet : Pubkey) :
      Effect v { v with positions := v.positions.set i { p with wallet } }
  | received (amount : Nat) : Effect v { v with escrow := v.escrow + amount }
  | ticked (seconds : Nat) : Effect v { v with now := v.now + seconds }

private theorem release_effect {v v' : VestingEscrow} {i : Nat} (receiver : ReceiverKyc)
    {handle : VestingSeries → VestingPosition → Except RegistryError (VestingSeries × VestingPosition × Nat)}
    (released : release v i handle = .ok v')
    (handles : ∀ s p r, handle s p = .ok r → releaseVested s p v.escrow v.now receiver = .ok r) :
    Effect v v' := by
  simp only [release, bind_eq_ok, okOr_eq_ok, pure_eq_ok, Prod.exists] at released
  obtain ⟨p, stored, s', p', amount, handled, rfl⟩ := released
  obtain ⟨started, -, -, -, capped, rfl, rfl⟩ := releaseVested_ok (handles _ _ _ handled)
  exact .released amount stored started capped

theorem step_effect {v v' : VestingEscrow} {instruction : VestingInstruction}
    (fits : scheduled v.series.tranches < 2 ^ 64) (bps : v.series.preCliffBps ≤ 10000)
    (stepped : step v instruction = .ok v') : Effect v v' := by
  cases instruction with
  | addVestingPosition authority wallet allocation =>
      simp only [step, bind_eq_ok, pure_eq_ok, Prod.exists] at stepped
      obtain ⟨s, p, added, rfl⟩ := stepped
      obtain ⟨draft, fits, rfl, rfl⟩ := addVestingPosition_ok added
      exact .positionAdded wallet allocation draft fits
  | finalizeVestingSeries authority =>
      simp only [step, bind_eq_ok, pure_eq_ok] at stepped
      obtain ⟨s, finalized, rfl⟩ := stepped
      obtain ⟨draft, whole, rfl⟩ := finalizeVestingSeries_ok finalized
      exact .finalized draft whole
  | depositToVestingEscrow depositor pauseFlags amount =>
      simp only [step, bind_eq_ok, pure_eq_ok, Prod.exists] at stepped
      obtain ⟨s, identity, deposited, rfl⟩ := stepped
      obtain ⟨uncancelled, credited, rfl⟩ := depositToVestingEscrow_ok deposited
      exact .deposited amount identity uncancelled credited
  | approveVestingTranche authority trancheIndex =>
      simp only [step, bind_eq_ok, pure_eq_ok] at stepped
      obtain ⟨s, approved, rfl⟩ := stepped
      obtain ⟨active, rfl⟩ := approveVestingTranche_ok approved
      exact .approved _ active
  | claimVested recipient positionIndex recipientBlocked receiver =>
      simp only [step] at stepped
      refine release_effect receiver stepped fun s p r claimed => ?_
      simp only [claimVested, bind_eq_ok, require_eq_ok, exists_const] at claimed
      exact claimed.2.2.2
  | pushVested positionIndex recipientBlocked receiver =>
      simp only [step] at stepped
      refine release_effect receiver stepped fun s p r pushed => ?_
      simp only [pushVested, bind_eq_ok, require_eq_ok, exists_const] at pushed
      exact pushed.2.2
  | cancelVestingSeries authority =>
      simp only [step, bind_eq_ok, pure_eq_ok] at stepped
      obtain ⟨s, cancelled, rfl⟩ := stepped
      obtain ⟨uncancelled, finalCumulative, rfl, bounded, whole, vested⟩ :=
        cancelVestingSeries_ok fits bps cancelled
      exact .cancelled finalCumulative uncancelled bounded whole vested
  | withdrawUnvested authority receiver =>
      simp only [step, bind_eq_ok, pure_eq_ok, Prod.exists] at stepped
      obtain ⟨identity, amount, withdrawn, rfl⟩ := stepped
      obtain ⟨cancelled, within⟩ := withdrawUnvested_ok withdrawn
      exact .unvestedWithdrawn amount identity cancelled within
  | withdrawVestingSurplus authority receiver =>
      simp only [step, bind_eq_ok, pure_eq_ok, Prod.exists] at stepped
      obtain ⟨identity, amount, withdrawn, rfl⟩ := stepped
      obtain ⟨active, within⟩ := withdrawVestingSurplus_ok withdrawn
      exact .surplusWithdrawn amount identity active within
  | disableVestingCancellation authority =>
      simp only [step, bind_eq_ok, pure_eq_ok] at stepped
      obtain ⟨s, disabled, rfl⟩ := stepped
      exact disableVestingCancellation_ok disabled ▸ .cancellationDisabled
  | recoverVestingPosition authority positionIndex newWallet =>
      simp only [step, bind_eq_ok, okOr_eq_ok, pure_eq_ok] at stepped
      obtain ⟨p, stored, p', recovered, rfl⟩ := stepped
      exact recoverVestingPosition_ok recovered ▸ .recovered stored newWallet
  | inboundTransfer amount =>
      simp only [step, pure_eq_ok] at stepped
      exact stepped ▸ .received amount
  | tick seconds =>
      simp only [step, pure_eq_ok] at stepped
      exact stepped ▸ .ticked seconds

end Mancipatio.Vesting
