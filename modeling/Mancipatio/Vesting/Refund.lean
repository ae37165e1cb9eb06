import Mancipatio.Vesting.Entitlement

/-!
# The unchecked refund of a vesting client

A client whom the receiver gate refuses is repaid from its own deposits only, and only as far as they have
not gone to a beneficiary. A withdrawal counts what has been released by then.
-/

namespace Mancipatio.Vesting
open Checked Execution Rows

def promised (v : VestingEscrow) : Nat :=
  (v.positions.map (entitlement v)).sum

/-- What the escrow could repay the client of a cancelled series now without a verdict on it. -/
def unchecked (v : VestingEscrow) : Nat :=
  min (v.escrow - (v.series.finalCumulative - v.series.totalReleased))
    (v.identity.ownDeposited - v.series.totalReleased - v.identity.ownRefunded)

def takeBack (v : VestingEscrow) : Nat :=
  v.identity.ownRefunded + unchecked v

def VestingInstruction.verdict : VestingInstruction → Option ReceiverKyc
  | .withdrawUnvested _ receiver | .withdrawVestingSurplus _ receiver => some receiver
  | _ => none

/-- What is free in the escrow can be repaid with every entitlement counted against the client's own
deposits; or nothing is left to be claimed, or nothing of its own to be repaid. -/
def Reserves (v : VestingEscrow) : Prop :=
  v.escrow - (v.series.finalCumulative - v.series.totalReleased) ≤
      v.identity.ownDeposited - v.identity.ownRefunded - promised v ∨
    v.series.totalReleased = promised v ∨
    v.identity.ownDeposited ≤ v.series.totalReleased + v.identity.ownRefunded
  deriving Decidable

/-! ## Withdrawals by a refused client -/

theorem withdrawAvailable_refused {identity identity' : EscrowIdentity} {escrowAmount reserved ownConsumed amount : Nat}
    {receiver : ReceiverKyc} (refused : receiver ≠ .ok ())
    (withdrawn : withdrawAvailable identity escrowAmount reserved ownConsumed receiver = .ok (identity', amount)) :
    amount = min (escrowAmount - reserved) (identity.ownDeposited - ownConsumed - identity.ownRefunded) ∧ 0 < amount ∧
      identity' = { identity with ownRefunded := identity.ownRefunded + amount } := by
  cases receiver with
  | ok u => exact absurd rfl refused
  | error e =>
      simp only [withdrawAvailable, bind_eq_ok, require_eq_ok, okOr_eq_ok, checkedAdd_eq_some, pure_eq_ok,
        Prod.mk.injEq, exists_const, splitEscrowRelease_fromLedger] at withdrawn
      obtain ⟨positive, _, ⟨rfl, -⟩, rfl, rfl⟩ := withdrawn
      rw [splitEscrowRelease_payout_of_refused _ _ _ rfl] at positive ⊢
      exact ⟨rfl, positive, rfl⟩

theorem withdrawUnvested_refused {v v' : VestingEscrow} {authority : Pubkey} {receiver : ReceiverKyc}
    (refused : receiver ≠ .ok ()) (stepped : step v (.withdrawUnvested authority receiver) = .ok v') :
    v.series.status = .cancelled ∧ 0 < unchecked v ∧
      v' = { v with
        identity := { v.identity with ownRefunded := v.identity.ownRefunded + unchecked v }
        escrow := v.escrow - unchecked v } := by
  simp only [step, withdrawUnvested, bind_eq_ok, require_eq_ok, pure_eq_ok, Prod.exists, exists_const] at stepped
  obtain ⟨identity, amount, ⟨-, -, cancelled, withdrawn⟩, rfl⟩ := stepped
  obtain ⟨exact, positive, rfl⟩ := withdrawAvailable_refused refused withdrawn
  obtain rfl : amount = unchecked v := exact
  exact ⟨cancelled, positive, rfl⟩

/-- While a series is active its allocations use up every deposit, so nothing is left to refund. -/
theorem withdrawVestingSurplus_refused {v v' : VestingEscrow} {authority : Pubkey} {receiver : ReceiverKyc}
    (solvent : Solvent v) (own : v.identity.ownDeposited ≤ v.series.deposited) (refused : receiver ≠ .ok ()) :
    step v (.withdrawVestingSurplus authority receiver) ≠ .ok v' := by
  intro stepped
  simp only [step, bind_eq_ok, pure_eq_ok, Prod.exists] at stepped
  obtain ⟨identity, amount, withdrawn, rfl⟩ := stepped
  have active := (withdrawVestingSurplus_ok withdrawn).1
  simp only [withdrawVestingSurplus, bind_eq_ok, require_eq_ok, okOr_eq_ok, exists_const] at withdrawn
  obtain ⟨-, -, -, -, -, -, _, -, withdrawn⟩ := withdrawn
  obtain ⟨exact, positive, -⟩ := withdrawAvailable_refused refused withdrawn
  have credited := solvent.credited
  have whole := solvent.matched active
  omega

theorem depositToVestingEscrow_identity {s s' : VestingSeries} {identity identity' : EscrowIdentity}
    {depositor : Pubkey} {pauseFlags : PauseFlags} {amount : Nat}
    (deposited : depositToVestingEscrow s identity depositor pauseFlags amount = .ok (s', identity')) :
    identity'.ownRefunded = identity.ownRefunded ∧
      identity.ownDeposited ≤ identity'.ownDeposited ∧ identity'.ownDeposited ≤ identity.ownDeposited + amount := by
  simp only [depositToVestingEscrow, bind_eq_ok, require_eq_ok, exists_const] at deposited
  obtain ⟨-, -, -, -, _, -, -, -, -, deposited⟩ := deposited
  split at deposited
  · simp only [bind_eq_ok, okOr_eq_ok, checkedAdd_eq_some, pure_eq_ok, Prod.mk.injEq] at deposited
    obtain ⟨_, ⟨rfl, -⟩, -, rfl⟩ := deposited
    exact ⟨rfl, Nat.le_add_right _ _, Nat.le_refl _⟩
  · simp only [pure_eq_ok, Prod.mk.injEq] at deposited
    obtain ⟨-, rfl⟩ := deposited
    exact ⟨rfl, Nat.le_refl _, Nat.le_add_right _ _⟩

/-! ## The entitlements of a cancelled series -/

theorem promised_step {v v' : VestingEscrow} (effect : Effect v v') (cancelled : v.series.status = .cancelled) :
    promised v' = promised v := by
  obtain ⟨cancelled', final⟩ := frozen_step effect cancelled
  have total : v'.series.totalAllocated = v.series.totalAllocated := by
    cases effect with
    | positionAdded wallet allocation draft =>
        rw [cancelled] at draft
        cases draft
    | _ => rfl
  have same : entitlement v' = entitlement v := by
    funext p
    rw [entitlement, entitlement, vestingDeliverableCumulative_cancelled cancelled,
      vestingDeliverableCumulative_cancelled cancelled', final, total]
  rw [promised, promised, same]
  cases effect with
  | positionAdded wallet allocation draft =>
      rw [cancelled] at draft
      cases draft
  | released amount stored | recovered stored => exact sum_set_of_eq _ stored (by rfl)
  | _ => rfl

theorem released_le_promised {v : VestingEscrow} (solvent : Solvent v) : v.series.totalReleased ≤ promised v := by
  rw [← solvent.releases]
  exact List.sum_le_sum fun p member => solvent.entitled p member

/-! ## Every run whose withdrawals reserve for the claims -/

structure Refundable (v : VestingEscrow) : Prop where
  own : v.identity.ownDeposited ≤ v.series.deposited
  counted : v.identity.ownRefunded = 0 ∨
    v.series.status = .cancelled ∧ v.identity.ownRefunded + promised v ≤ v.identity.ownDeposited

theorem refundable_opened {authority : Pubkey} {tranches : List VestingTranche} {timingMode : VestingTimingMode}
    {deliveryMode : VestingDeliveryMode} {approvalWindowSecs : Int} {recoveryEnabled cancellationEnabled : Bool}
    {preCliffBps : Nat} {s : VestingSeries} {identity : EscrowIdentity} {now : Int}
    (created : createVestingSeries authority tranches timingMode deliveryMode approvalWindowSecs
      recoveryEnabled cancellationEnabled preCliffBps = .ok (s, identity)) : Refundable (opened s identity now) := by
  simp only [createVestingSeries, bind_eq_ok, require_eq_ok, exists_const] at created
  obtain ⟨-, -, total, -, created⟩ := created
  cases timingMode <;>
    · simp only [bind_eq_ok, require_eq_ok, pure_eq_ok, exists_const, Prod.mk.injEq] at created
      obtain ⟨-, -, -, rfl, rfl⟩ := created
      exact ⟨Nat.le_refl _, .inl rfl⟩

theorem refundable_kept {v v' : VestingEscrow} (refundable : Refundable v) (effect : Effect v v')
    (identity : v'.identity = v.identity) (deposited : v'.series.deposited = v.series.deposited) : Refundable v' where
  own := by
    rw [identity, deposited]
    exact refundable.own
  counted := by
    rw [identity]
    apply refundable.counted.imp_right
    rintro ⟨cancelled, covered⟩
    rw [promised_step effect cancelled]
    exact ⟨(frozen_step effect cancelled).1, covered⟩

theorem refundable_step {v v' : VestingEscrow} {instruction : VestingInstruction} (solvent : Solvent v)
    (refundable : Refundable v) (refused : instruction.verdict ≠ some (.ok ()))
    (reserves : ∀ authority receiver, instruction = .withdrawUnvested authority receiver → Reserves v)
    (stepped : step v instruction = .ok v') : Refundable v' := by
  have effect := step_effect solvent.fits solvent.preCliff stepped
  cases instruction with
  | depositToVestingEscrow depositor pauseFlags amount =>
      simp only [step, bind_eq_ok, pure_eq_ok, Prod.exists] at stepped
      obtain ⟨s, identity, deposited, rfl⟩ := stepped
      obtain ⟨kept, -, bounded⟩ := depositToVestingEscrow_identity deposited
      obtain ⟨uncancelled, -, rfl⟩ := depositToVestingEscrow_ok deposited
      refine ⟨bounded.trans (Nat.add_le_add_right refundable.own _), .inl ?_⟩
      rcases refundable.counted with none | ⟨cancelled, -⟩
      · exact kept.trans none
      · exact absurd cancelled uncancelled
  | withdrawUnvested authority receiver =>
      have rejected : receiver ≠ .ok () := by
        rintro rfl
        exact refused rfl
      obtain ⟨cancelled, positive, rfl⟩ := withdrawUnvested_refused rejected stepped
      refine ⟨refundable.own, .inr ⟨cancelled, ?_⟩⟩
      rw [promised_step effect cancelled]
      have enough := reserves authority receiver rfl
      unfold Reserves at enough
      unfold unchecked at positive ⊢
      dsimp only
      omega
  | withdrawVestingSurplus authority receiver =>
      have rejected : receiver ≠ .ok () := by
        rintro rfl
        exact refused rfl
      exact absurd stepped (withdrawVestingSurplus_refused solvent refundable.own rejected)
  | claimVested | pushVested =>
      obtain ⟨i, p, amount, -, -, rfl⟩ := release_ok rfl stepped
      exact refundable_kept refundable effect rfl rfl
  | addVestingPosition authority wallet allocation =>
      simp only [step, bind_eq_ok, pure_eq_ok, Prod.exists] at stepped
      obtain ⟨s, p, added, rfl⟩ := stepped
      obtain ⟨-, -, rfl, -⟩ := addVestingPosition_ok added
      exact refundable_kept refundable effect rfl rfl
  | finalizeVestingSeries authority =>
      simp only [step, bind_eq_ok, pure_eq_ok] at stepped
      obtain ⟨s, finalized, rfl⟩ := stepped
      obtain ⟨-, -, rfl⟩ := finalizeVestingSeries_ok finalized
      exact refundable_kept refundable effect rfl rfl
  | approveVestingTranche authority trancheIndex =>
      simp only [step, bind_eq_ok, pure_eq_ok] at stepped
      obtain ⟨s, approved, rfl⟩ := stepped
      obtain ⟨-, rfl⟩ := approveVestingTranche_ok approved
      exact refundable_kept refundable effect rfl rfl
  | cancelVestingSeries authority =>
      simp only [step, bind_eq_ok, pure_eq_ok] at stepped
      obtain ⟨s, cancelled, rfl⟩ := stepped
      obtain ⟨-, finalCumulative, rfl, -⟩ := cancelVestingSeries_ok solvent.fits solvent.preCliff cancelled
      exact refundable_kept refundable effect rfl rfl
  | disableVestingCancellation authority =>
      simp only [step, bind_eq_ok, pure_eq_ok] at stepped
      obtain ⟨s, disabled, rfl⟩ := stepped
      obtain rfl := disableVestingCancellation_ok disabled
      exact refundable_kept refundable effect rfl rfl
  | recoverVestingPosition authority positionIndex newWallet =>
      simp only [step, bind_eq_ok, pure_eq_ok] at stepped
      obtain ⟨p, -, p', -, rfl⟩ := stepped
      exact refundable_kept refundable effect rfl rfl
  | inboundTransfer amount | tick seconds =>
      simp only [step, pure_eq_ok] at stepped
      subst stepped
      exact refundable_kept refundable effect rfl rfl

theorem refundable_bound {v : VestingEscrow} (solvent : Solvent v) (refundable : Refundable v) :
    v.identity.ownRefunded ≤ v.identity.ownDeposited - v.series.totalReleased := by
  have released := released_le_promised solvent
  rcases refundable.counted with none | ⟨-, covered⟩ <;> omega

/-! ## A withdrawal before or after the claims -/

def AllClaimed (v : VestingEscrow) : Prop :=
  ∀ p ∈ v.positions, p.released = entitlement v p

theorem released_eq_promised {v : VestingEscrow} (solvent : Solvent v) (claimed : AllClaimed v) :
    v.series.totalReleased = promised v := by
  rw [← solvent.releases, promised]
  exact congrArg List.sum (List.map_congr_left claimed)

structure OnlyReleased (v v' : VestingEscrow) : Prop where
  identity : v'.identity = v.identity
  status : v'.series.status = .cancelled
  final : v'.series.finalCumulative = v.series.finalCumulative
  promises : promised v' = promised v
  conserved : v'.escrow + v'.series.totalReleased = v.escrow + v.series.totalReleased

theorem onlyReleased_run {v : VestingEscrow} (start : Solvent v) (cancelled : v.series.status = .cancelled)
    (run : Run step v) (releases : ∀ i < run.length, (run.label i).releases = true) :
    ∀ i ≤ run.length, Solvent (run.state i) ∧ OnlyReleased v (run.state i) := by
  intro i within
  refine run.invariant_from (P := fun w => Solvent w ∧ OnlyReleased v w) ?_ ?_ i within (Nat.zero_le i)
  · rw [run.starts]
    exact ⟨start, rfl, cancelled, rfl, rfl, rfl⟩
  · rintro m inside - ⟨solvent, kept⟩
    have effect := step_effect solvent.fits solvent.preCliff (run.next m inside)
    obtain ⟨k, p, amount, -, capped, after⟩ := release_ok (releases m inside) (run.next m inside)
    have enough : amount ≤ (run.state m).escrow := capped ▸ Nat.min_le_right _ _
    have conserved := kept.conserved
    refine ⟨solvent_effect solvent effect, ?_, (frozen_step effect kept.status).1, ?_, ?_, ?_⟩
    · rw [after]
      exact kept.identity
    · rw [(frozen_step effect kept.status).2, kept.final]
    · rw [promised_step effect kept.status, kept.promises]
    · rw [after]
      dsimp only
      omega

theorem draw_order {free own released refunded promise drew : Nat}
    (exact : drew = min free (own - released - refunded)) (positive : 0 < drew) (sofar : released ≤ promise) :
    refunded + drew + min (free - drew) (own - promise - (refunded + drew)) =
        refunded + min free (own - promise - refunded) ↔
      free ≤ own - refunded - promise ∨ released = promise ∨ own ≤ released + refunded := by
  by_cases covered : free ≤ own - refunded - promise
  · simp only [covered, true_or, iff_true]
    omega
  · by_cases claimed : released = promise
    · simp only [claimed, true_or, or_true, iff_true]
      omega
    · simp only [covered, claimed, false_or]
      constructor <;> omega

/-- Once everybody has claimed, an earlier withdrawal stays within what the claims left of the client's
deposits, and equals what waiting would have given, exactly when it reserved for the claims. -/
theorem withdrawal_order {v drawn : VestingEscrow} {authority : Pubkey} {receiver : ReceiverKyc}
    (solvent : Solvent v) (refused : receiver ≠ .ok ())
    (stepped : step v (.withdrawUnvested authority receiver) = .ok drawn) (before : Run step drawn)
    (after : Run step v) (releasesBefore : ∀ i < before.length, (before.label i).releases = true)
    (releasesAfter : ∀ i < after.length, (after.label i).releases = true)
    (claimedBefore : AllClaimed (before.state before.length)) (claimedAfter : AllClaimed (after.state after.length)) :
    ((before.state before.length).identity.ownRefunded ≤ (before.state before.length).identity.ownDeposited -
      (before.state before.length).series.totalReleased ↔ Reserves v) ∧
    (takeBack (before.state before.length) = takeBack (after.state after.length) ↔ Reserves v) := by
  have effect := step_effect solvent.fits solvent.preCliff stepped
  have promises : promised drawn = promised v :=
    promised_step effect (withdrawUnvested_refused refused stepped).1
  have solventDrawn := solvent_effect solvent effect
  obtain ⟨cancelled, positive, rfl⟩ := withdrawUnvested_refused refused stepped
  obtain ⟨solventB, keptB⟩ := onlyReleased_run solventDrawn cancelled before releasesBefore _ (Nat.le_refl _)
  obtain ⟨solventA, keptA⟩ := onlyReleased_run solvent cancelled after releasesAfter _ (Nat.le_refl _)
  have endB := (released_eq_promised solventB claimedBefore).trans (keptB.promises.trans promises)
  have endA := (released_eq_promised solventA claimedAfter).trans keptA.promises
  have sofar := released_le_promised solvent
  have promiseB : promised v ≤ v.series.finalCumulative := by
    have bounded := sum_entitlement_le solvent
    rwa [vestingDeliverableCumulative_cancelled cancelled] at bounded
  have balanceB := keptB.conserved
  have balanceA := keptA.conserved
  rw [endB] at balanceB
  rw [endA] at balanceA
  have drew : unchecked v = min (v.escrow - (v.series.finalCumulative - v.series.totalReleased))
    (v.identity.ownDeposited - v.series.totalReleased - v.identity.ownRefunded) := rfl
  have refundedB : (before.state before.length).identity.ownRefunded = v.identity.ownRefunded + unchecked v := by
    rw [keptB.identity]
  have depositedB : (before.state before.length).identity.ownDeposited = v.identity.ownDeposited := by
    rw [keptB.identity]
  have finalB : (before.state before.length).series.finalCumulative = v.series.finalCumulative := keptB.final
  dsimp only at balanceB
  unfold takeBack Reserves
  constructor
  · rw [refundedB, depositedB, endB]
    omega
  · have freeB : (before.state before.length).escrow - (v.series.finalCumulative - promised v) =
        v.escrow - (v.series.finalCumulative - v.series.totalReleased) - unchecked v := by omega
    have freeA : (after.state after.length).escrow - (v.series.finalCumulative - promised v) =
        v.escrow - (v.series.finalCumulative - v.series.totalReleased) := by omega
    have laterB : unchecked (before.state before.length) =
        min (v.escrow - (v.series.finalCumulative - v.series.totalReleased) - unchecked v)
          (v.identity.ownDeposited - promised v - (v.identity.ownRefunded + unchecked v)) := by
      rw [unchecked, refundedB, depositedB, finalB, endB, freeB]
    have laterA : unchecked (after.state after.length) =
        min (v.escrow - (v.series.finalCumulative - v.series.totalReleased))
          (v.identity.ownDeposited - promised v - v.identity.ownRefunded) := by
      rw [unchecked, keptA.identity, keptA.final, endA, freeA]
    rw [laterB, laterA, refundedB, keptA.identity]
    exact draw_order drew positive sofar

/-- Where every withdrawal of a refused client reserves for the claims, what it has been repaid is always
within its own deposits less all releases. A withdrawal that does not reserve breaks that bound as soon as
everybody has claimed, and gives the client more than the same withdrawal made after the claims. -/
theorem refund_counts_every_release {authority : Pubkey} {tranches : List VestingTranche}
    {timingMode : VestingTimingMode} {deliveryMode : VestingDeliveryMode} {approvalWindowSecs : Int}
    {recoveryEnabled cancellationEnabled : Bool} {preCliffBps : Nat} {s : VestingSeries}
    {identity : EscrowIdentity} {now : Int}
    (created : createVestingSeries authority tranches timingMode deliveryMode approvalWindowSecs
      recoveryEnabled cancellationEnabled preCliffBps = .ok (s, identity))
    (run : Run step (opened s identity now))
    (refused : ∀ i < run.length, (run.label i).verdict ≠ some (.ok ())) :
    ((∀ i < run.length, ∀ authority receiver, run.label i = .withdrawUnvested authority receiver →
        Reserves (run.state i)) →
      ∀ i ≤ run.length, (run.state i).identity.ownRefunded ≤
        (run.state i).identity.ownDeposited - (run.state i).series.totalReleased) ∧
    ∀ i ≤ run.length, ∀ authority receiver drawn, receiver ≠ .ok () →
      step (run.state i) (.withdrawUnvested authority receiver) = .ok drawn →
      ∀ (before : Run step drawn) (after : Run step (run.state i)),
        (∀ j < before.length, (before.label j).releases = true) →
        (∀ j < after.length, (after.label j).releases = true) →
        AllClaimed (before.state before.length) → AllClaimed (after.state after.length) →
        ((before.state before.length).identity.ownRefunded ≤ (before.state before.length).identity.ownDeposited -
          (before.state before.length).series.totalReleased ↔ Reserves (run.state i)) ∧
        (takeBack (before.state before.length) = takeBack (after.state after.length) ↔ Reserves (run.state i)) := by
  obtain ⟨fits, bps, draft, allocated, released, deposited⟩ := createVestingSeries_ok created
  have solvent := solvent_run (solvent_opened fits bps draft allocated released deposited) run
  constructor
  · intro reserves i within
    have refundable : Refundable (run.state i) := by
      refine run.invariant_from ?_ ?_ i within (Nat.zero_le i)
      · rw [run.starts]
        exact refundable_opened created
      · intro m inside _ refundable
        exact refundable_step (solvent m inside.le) refundable (refused m inside)
          (fun authority receiver withdrawn => reserves m inside authority receiver withdrawn) (run.next m inside)
    exact refundable_bound (solvent i within) refundable
  · intro i within authority receiver drawn rejected stepped before after releasesB releasesA claimedB claimedA
    exact withdrawal_order (solvent i within) rejected stepped before after releasesB releasesA claimedB claimedA

def giftInstructions : List VestingInstruction :=
  [.addVestingPosition 7 1 100, .finalizeVestingSeries 7, .depositToVestingEscrow 7 0 50,
    .depositToVestingEscrow 3 0 50, .tick 10, .cancelVestingSeries 7,
    .withdrawUnvested 7 (.error .receiverNotApproved), .claimVested 1 0 false (.ok ())]

def giftRun : Run step (opened exampleSeries ⟨7, 0, 0⟩ 0) :=
  .ofLabels _ _ giftInstructions rfl

def patientRun : Run step (giftRun.state 6) :=
  .ofLabels _ _ [.claimVested 1 0 false (.ok ())] rfl

theorem gift_creates_unchecked_refund :
    ¬ ((∀ i ≤ giftRun.length, (giftRun.state i).identity.ownRefunded ≤
        (giftRun.state i).identity.ownDeposited - (giftRun.state i).series.totalReleased) ∧
      takeBack (giftRun.state giftRun.length) = takeBack (patientRun.state patientRun.length)) := by
  rintro ⟨bounded, -⟩
  have exceeds : 50 ≤ 0 := bounded 8 (by decide)
  cases exceeds

def ownRun : Run step (opened exampleSeries ⟨7, 0, 0⟩ 0) :=
  .ofLabels _ _
    [.addVestingPosition 7 1 100, .finalizeVestingSeries 7, .depositToVestingEscrow 7 0 100, .tick 10,
      .cancelVestingSeries 7, .withdrawUnvested 7 (.error .receiverNotApproved), .claimVested 1 0 false (.ok ())]
    rfl

theorem refund_counts_every_release_example :
    (ownRun.state 7).identity.ownRefunded = 50 ∧
      (ownRun.state 7).identity.ownRefunded ≤
        (ownRun.state 7).identity.ownDeposited - (ownRun.state 7).series.totalReleased := by
  have created : createVestingSeries 7 [⟨10, 50⟩, ⟨20, 50⟩] .auto .claim 0 false true 0 =
    .ok (exampleSeries, ⟨7, 0, 0⟩) := rfl
  have refused : ∀ i < ownRun.length, (ownRun.label i).verdict ≠ some (.ok ()) := by
    intro i within
    change i < 7 at within
    interval_cases i <;> simp [ownRun, Run.ofLabels, VestingInstruction.verdict]
  refine ⟨by decide, (refund_counts_every_release created ownRun refused).1 ?_ 7 (by decide)⟩
  intro i within authority receiver withdrawn
  change i < 7 at within
  interval_cases i <;> first | cases withdrawn; done | decide

end Mancipatio.Vesting
