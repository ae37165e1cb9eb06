import Mancipatio.Vesting.Solvency

/-!
# Vested value is kept

What the release path computes for a position never goes down, across every status of its series.
-/

namespace Mancipatio.Vesting
open Checked Execution Rows

/-! ## One step of the curve -/

theorem curve_step {v v' : VestingEscrow} (solvent : Solvent v) (effect : Effect v v')
    (started : v.series.status ≠ .draft) :
    v'.series.totalAllocated = v.series.totalAllocated ∧
      vestingDeliverableCumulative v.series v.now ≤ vestingDeliverableCumulative v'.series v'.now := by
  cases effect with
  | positionAdded wallet allocation draft | finalized draft => exact absurd draft started
  | deposited amount identity uncancelled =>
      refine ⟨rfl, ?_⟩
      cases status : v.series.status with
      | draft => exact absurd status started
      | cancelled => exact absurd status uncancelled
      | active =>
          exact deliverable_active_mono status status solvent.fits rfl rfl rfl
            (by simp : v.series.approvedMask = v.series.approvedMask ||| 0) rfl
            (Nat.le_add_right _ _) (Int.le_refl _)
  | approved extra active =>
      refine ⟨rfl, ?_⟩
      exact deliverable_active_mono active active solvent.fits rfl rfl rfl rfl rfl (Nat.le_refl _)
        (Int.le_refl _)
  | cancelled finalCumulative uncancelled _ _ vested =>
      refine ⟨rfl, ?_⟩
      cases status : v.series.status with
      | draft => exact absurd status started
      | cancelled => exact absurd status uncancelled
      | active => exact (deliverable_le_vested status solvent.fits v.now).trans (vested status)
  | ticked seconds =>
      refine ⟨rfl, ?_⟩
      cases status : v.series.status with
      | draft => exact absurd status started
      | cancelled => simp [status]
      | active =>
          exact deliverable_active_mono status status solvent.fits rfl rfl rfl
            (by simp : v.series.approvedMask = v.series.approvedMask ||| 0) rfl
            (Nat.le_refl _) (by simp)
  | released | unvestedWithdrawn | surplusWithdrawn | cancellationDisabled | recovered | received =>
      exact ⟨rfl, Nat.le_refl _⟩

theorem positions_step {v v' : VestingEscrow} (effect : Effect v v') {k : Nat} {p : VestingPosition}
    (stored : v.positions[k]? = some p) :
    ∃ p', v'.positions[k]? = some p' ∧ p'.allocation = p.allocation := by
  cases effect with
  | positionAdded =>
      obtain ⟨within, -⟩ := List.getElem?_eq_some_iff.mp stored
      exact ⟨p, by rw [List.getElem?_append_left within, stored], rfl⟩
  | @released i q amount found =>
      by_cases same : i = k
      · subst same
        obtain rfl : q = p := Option.some.inj (found.symm.trans stored)
        exact ⟨{ q with released := q.released + amount }, List.getElem?_set_self (List.getElem?_eq_some_iff.mp stored).1, rfl⟩
      · exact ⟨p, by simp [same, stored], rfl⟩
  | @recovered i q found wallet =>
      by_cases same : i = k
      · subst same
        obtain rfl : q = p := Option.some.inj (found.symm.trans stored)
        exact ⟨{ q with wallet }, List.getElem?_set_self (List.getElem?_eq_some_iff.mp stored).1, rfl⟩
      · exact ⟨p, by simp [same, stored], rfl⟩
  | _ => exact ⟨p, stored, rfl⟩

theorem entitlement_draft {v : VestingEscrow} (draft : v.series.status = .draft) (p : VestingPosition) :
    entitlement v p = 0 := by
  rw [entitlement, vestingDeliverableCumulative_draft draft, vestingPositionEntitlement]
  split <;> simp [truncate]

def Kept (v v' : VestingEscrow) : Prop :=
  ∀ (k : Nat) p, v.positions[k]? = some p →
    ∃ p', v'.positions[k]? = some p' ∧ p'.allocation = p.allocation ∧ entitlement v p ≤ entitlement v' p'

theorem kept_step {v v' : VestingEscrow} (solvent : Solvent v) (effect : Effect v v') : Kept v v' := by
  intro k p stored
  obtain ⟨p', stored', allocation⟩ := positions_step effect stored
  refine ⟨p', stored', allocation, ?_⟩
  by_cases draft : v.series.status = .draft
  · rw [entitlement_draft draft]
    exact Nat.zero_le _
  · obtain ⟨total, grown⟩ := curve_step solvent effect draft
    rw [entitlement_eq_share solvent (mem_of_stored stored),
      entitlement_eq_share (solvent_effect solvent effect) (mem_of_stored stored'), allocation, total]
    exact ProRata.share_mono _ _ grown

/-! ## The frozen curve -/

theorem frozen_step {v v' : VestingEscrow} (effect : Effect v v') (cancelled : v.series.status = .cancelled) :
    v'.series.status = .cancelled ∧ v'.series.finalCumulative = v.series.finalCumulative := by
  cases effect with
  | positionAdded wallet allocation draft | finalized draft =>
      rw [cancelled] at draft
      cases draft
  | approved extra active =>
      rw [cancelled] at active
      cases active
  | cancelled finalCumulative uncancelled => exact absurd cancelled uncancelled
  | _ => exact ⟨cancelled, rfl⟩

/-- What a cancellation now would leave to the positions together: nothing of a draft, all that has vested of
an active series and, where nothing has, its pre-cliff share. -/
def frozenValue (v : VestingEscrow) : Nat :=
  if v.series.status = .draft then 0
  else if vestingCumulative v.series.tranches v.now = 0 then v.series.totalAllocated * v.series.preCliffBps / 10000
  else vestingCumulative v.series.tranches v.now

theorem preCliff_le {total bps : Nat} (bounded : bps ≤ 10000) : total * bps / 10000 ≤ total := by
  apply Nat.div_le_of_le_mul
  rw [Nat.mul_comm]
  exact Nat.mul_le_mul_right _ bounded

theorem cancel_step {v v' : VestingEscrow} {authority : Pubkey} (solvent : Solvent v)
    (stepped : step v (.cancelVestingSeries authority) = .ok v') :
    v.series.status ≠ .cancelled ∧ v'.series.status = .cancelled ∧ v'.series.finalCumulative = frozenValue v := by
  simp only [step, bind_eq_ok, pure_eq_ok] at stepped
  obtain ⟨s, cancelled, rfl⟩ := stepped
  have uncancelled := (cancelVestingSeries_ok solvent.fits solvent.preCliff cancelled).1
  simp only [cancelVestingSeries, bind_eq_ok, require_eq_ok, exists_const] at cancelled
  obtain ⟨-, -, -, cancelled⟩ := cancelled
  refine ⟨uncancelled, ?_⟩
  unfold frozenValue
  split at cancelled
  · next draft =>
      rw [pure_eq_ok] at cancelled
      subst cancelled
      exact ⟨rfl, (if_pos draft).symm⟩
  · next started =>
      simp only [bind_eq_ok, require_eq_ok, pure_eq_ok, exists_const] at cancelled
      obtain ⟨total, -, -, rfl⟩ := cancelled
      rw [if_neg started]
      refine ⟨rfl, ?_⟩
      dsimp only
      split
      · exact truncate_of_lt ((preCliff_le solvent.preCliff).trans_lt solvent.totalFits)
      · rfl

/-- A cancellation takes nothing that had vested, was deliverable or has been released. -/
theorem frozenValue_covers {v : VestingEscrow} (solvent : Solvent v) (uncancelled : v.series.status ≠ .cancelled) :
    vestingDeliverableCumulative v.series v.now ≤ frozenValue v ∧
      (v.series.status = .active → vestingCumulative v.series.tranches v.now ≤ frozenValue v) ∧
      v.series.totalReleased ≤ frozenValue v := by
  have vested : v.series.status = .active → vestingCumulative v.series.tranches v.now ≤ frozenValue v := by
    intro active
    rw [frozenValue, if_neg (by simp [active])]
    split
    · next nothing => exact nothing ▸ Nat.zero_le _
    · exact Nat.le_refl _
  have delivered : vestingDeliverableCumulative v.series v.now ≤ frozenValue v := by
    cases status : v.series.status with
    | draft =>
        rw [vestingDeliverableCumulative_draft status]
        exact Nat.zero_le _
    | cancelled => exact absurd status uncancelled
    | active => exact (deliverable_le_vested status solvent.fits v.now).trans (vested status)
  exact ⟨delivered, vested, (released_le_deliverable solvent).trans delivered⟩

theorem vestingCumulative_mono {tranches : List VestingTranche} (fits : scheduled tranches < 2 ^ 64) {ts ts' : Int}
    (later : ts ≤ ts') : vestingCumulative tranches ts ≤ vestingCumulative tranches ts' := by
  rw [vestingCumulative_eq fits, vestingCumulative_eq fits]
  apply unlocked_mono
  intro entry _ reached
  exact decide_eq_true ((of_decide_eq_true reached).trans later)

/-- Where anything had vested, the frozen curve stays below the schedule. -/
theorem frozenValue_le_vested {v : VestingEscrow} (fits : scheduled v.series.tranches < 2 ^ 64) {ts : Int}
    (later : v.now ≤ ts) (vested : vestingCumulative v.series.tranches v.now ≠ 0) :
    frozenValue v ≤ vestingCumulative v.series.tranches ts := by
  unfold frozenValue
  split
  · exact Nat.zero_le _
  · exact vestingCumulative_mono fits later

theorem schedule_step {v v' : VestingEscrow} (effect : Effect v v') :
    v'.series.tranches = v.series.tranches ∧ v'.series.approvalWindowSecs = v.series.approvalWindowSecs ∧
      v.now ≤ v'.now := by
  cases effect with
  | ticked seconds => exact ⟨rfl, rfl, by simp⟩
  | _ => exact ⟨rfl, rfl, Int.le_refl _⟩

/-! ## Delivery catches up with vesting -/

def WindowsFit (s : VestingSeries) : Prop :=
  ∀ t ∈ s.tranches, (checkedAddInt 64 t.unlockTs s.approvalWindowSecs).isSome

theorem windowsFit_created {authority : Pubkey} {tranches : List VestingTranche}
    {timingMode : VestingTimingMode} {deliveryMode : VestingDeliveryMode} {approvalWindowSecs : Int}
    {recoveryEnabled cancellationEnabled : Bool} {preCliffBps : Nat} {s : VestingSeries}
    {identity : EscrowIdentity}
    (created : createVestingSeries authority tranches timingMode deliveryMode approvalWindowSecs
      recoveryEnabled cancellationEnabled preCliffBps = .ok (s, identity)) : WindowsFit s := by
  simp only [createVestingSeries, bind_eq_ok, require_eq_ok, exists_const] at created
  obtain ⟨-, -, total, -, created⟩ := created
  cases timingMode <;>
    · simp only [bind_eq_ok, require_eq_ok, pure_eq_ok, exists_const, Prod.mk.injEq] at created
      obtain ⟨-, fit, -, rfl, -⟩ := created
      exact fit

theorem windowsFit_step {v v' : VestingEscrow} (effect : Effect v v') (fit : WindowsFit v.series) :
    WindowsFit v'.series := by
  cases effect <;> exact fit

def Lapsed (v : VestingEscrow) : Prop :=
  ∀ t ∈ v.series.tranches, t.unlockTs ≤ v.now → t.unlockTs + v.series.approvalWindowSecs ≤ v.now

theorem due_of_lapsed {v : VestingEscrow} (fit : WindowsFit v.series) (lapsed : Lapsed v)
    {entry : VestingTranche × Nat} (member : entry ∈ v.series.tranches.zipIdx) (reached : entry.1.unlockTs ≤ v.now) :
    due v.series v.now entry = true := by
  have stored : entry.1 ∈ v.series.tranches := (List.mem_zipIdx' member).2 ▸ List.getElem_mem _
  unfold due
  cases v.series.timingMode with
  | auto => exact decide_eq_true reached
  | approval =>
      obtain ⟨deadline, exact⟩ := Option.isSome_iff_exists.mp (fit entry.1 stored)
      have ends := lapsed entry.1 stored reached
      rw [checkedAddInt_eq_some] at exact
      simp only [trancheDeliverable, decide_eq_true_eq, Option.any_eq_true]
      refine ⟨reached, .inr ⟨deadline, checkedAddInt_eq_some.mpr exact, ?_⟩⟩
      rw [← exact.1]
      exact ends

/-- A funded series delivers all that has vested, approved or not, once the windows have passed. -/
theorem deliverable_eq_vested {v : VestingEscrow} (solvent : Solvent v) (fit : WindowsFit v.series)
    (active : v.series.status = .active) (funded : v.series.totalAllocated ≤ v.series.deposited)
    (lapsed : Lapsed v) :
    vestingDeliverableCumulative v.series v.now = vestingCumulative v.series.tranches v.now := by
  apply Nat.le_antisymm (deliverable_le_vested active solvent.fits v.now)
  have whole := solvent.matched active
  have vested := unlocked_le_scheduled v.series.tranches fun entry => entry.1.unlockTs ≤ v.now
  rw [vestingDeliverableCumulative_active active solvent.fits, vestingCumulative_eq solvent.fits]
  split
  · omega
  · apply unlocked_mono
    intro entry member reached
    exact due_of_lapsed fit lapsed member (of_decide_eq_true reached)

/-! ## What the releases paid -/

def VestingInstruction.releases : VestingInstruction → Bool
  | .claimVested _ _ _ _ | .pushVested _ _ _ => true
  | _ => false

private theorem released_ok {v v' : VestingEscrow} {i : Nat} (receiver : ReceiverKyc)
    {handle : VestingSeries → VestingPosition → Except RegistryError (VestingSeries × VestingPosition × Nat)}
    (released : release v i handle = .ok v')
    (handles : ∀ s p r, handle s p = .ok r → releaseVested s p v.escrow v.now receiver = .ok r) :
    ∃ p amount, v.positions[i]? = some p ∧ amount = min (entitlement v p - p.released) v.escrow ∧
      v' = { v with
        series := { v.series with totalReleased := v.series.totalReleased + amount }
        positions := v.positions.set i { p with released := p.released + amount }
        escrow := v.escrow - amount } := by
  simp only [release, bind_eq_ok, okOr_eq_ok, pure_eq_ok, Prod.exists] at released
  obtain ⟨p, stored, s', p', amount, handled, rfl⟩ := released
  obtain ⟨-, -, -, -, capped, rfl, rfl⟩ := releaseVested_ok (handles _ _ _ handled)
  exact ⟨p, amount, stored, capped, rfl⟩

theorem release_ok {v v' : VestingEscrow} {instruction : VestingInstruction}
    (releases : instruction.releases = true) (stepped : step v instruction = .ok v') :
    ∃ i p amount, v.positions[i]? = some p ∧ amount = min (entitlement v p - p.released) v.escrow ∧
      v' = { v with
        series := { v.series with totalReleased := v.series.totalReleased + amount }
        positions := v.positions.set i { p with released := p.released + amount }
        escrow := v.escrow - amount } := by
  cases instruction with
  | claimVested recipient positionIndex recipientBlocked receiver =>
      simp only [step] at stepped
      refine ⟨positionIndex, released_ok receiver stepped ?_⟩
      intro s p r claimed
      simp only [claimVested, bind_eq_ok, require_eq_ok, exists_const] at claimed
      exact claimed.2.2.2
  | pushVested positionIndex recipientBlocked receiver =>
      simp only [step] at stepped
      refine ⟨positionIndex, released_ok receiver stepped ?_⟩
      intro s p r pushed
      simp only [pushVested, bind_eq_ok, require_eq_ok, exists_const] at pushed
      exact pushed.2.2
  | _ => cases releases

def delivered (v : VestingEscrow) (instruction : VestingInstruction) : Nat :=
  if instruction.releases then (step v instruction).toOption.elim 0 fun v' => v.escrow - v'.escrow else 0

theorem delivered_step {v v' : VestingEscrow} {instruction : VestingInstruction}
    (fits : scheduled v.series.tranches < 2 ^ 64) (bps : v.series.preCliffBps ≤ 10000)
    (stepped : step v instruction = .ok v') :
    v'.series.totalReleased = v.series.totalReleased + delivered v instruction := by
  by_cases releases : instruction.releases = true
  · obtain ⟨i, p, amount, -, capped, rfl⟩ := release_ok releases stepped
    have enough : amount ≤ v.escrow := capped ▸ Nat.min_le_right _ _
    rw [delivered, if_pos releases, stepped]
    show v.series.totalReleased + amount = v.series.totalReleased + (v.escrow - (v.escrow - amount))
    rw [Nat.sub_sub_self enough]
  rw [delivered, if_neg releases, Nat.add_zero]
  cases instruction with
  | claimVested | pushVested => exact absurd rfl releases
  | addVestingPosition authority wallet allocation =>
      simp only [step, bind_eq_ok, pure_eq_ok, Prod.exists] at stepped
      obtain ⟨s, p, added, rfl⟩ := stepped
      obtain ⟨-, -, rfl, -⟩ := addVestingPosition_ok added
      rfl
  | finalizeVestingSeries authority =>
      simp only [step, bind_eq_ok, pure_eq_ok] at stepped
      obtain ⟨s, finalized, rfl⟩ := stepped
      obtain ⟨-, -, rfl⟩ := finalizeVestingSeries_ok finalized
      rfl
  | depositToVestingEscrow depositor pauseFlags amount =>
      simp only [step, bind_eq_ok, pure_eq_ok, Prod.exists] at stepped
      obtain ⟨s, identity, deposited, rfl⟩ := stepped
      obtain ⟨-, -, rfl⟩ := depositToVestingEscrow_ok deposited
      rfl
  | approveVestingTranche authority trancheIndex =>
      simp only [step, bind_eq_ok, pure_eq_ok] at stepped
      obtain ⟨s, approved, rfl⟩ := stepped
      obtain ⟨-, rfl⟩ := approveVestingTranche_ok approved
      rfl
  | cancelVestingSeries authority =>
      simp only [step, bind_eq_ok, pure_eq_ok] at stepped
      obtain ⟨s, cancelled, rfl⟩ := stepped
      obtain ⟨-, finalCumulative, rfl, -⟩ := cancelVestingSeries_ok fits bps cancelled
      rfl
  | disableVestingCancellation authority =>
      simp only [step, bind_eq_ok, pure_eq_ok] at stepped
      obtain ⟨s, disabled, rfl⟩ := stepped
      rw [disableVestingCancellation_ok disabled]
  | withdrawUnvested authority receiver | withdrawVestingSurplus authority receiver =>
      simp only [step, bind_eq_ok, pure_eq_ok, Prod.exists] at stepped
      obtain ⟨identity, amount, -, rfl⟩ := stepped
      rfl
  | recoverVestingPosition authority positionIndex newWallet =>
      simp only [step, bind_eq_ok, pure_eq_ok] at stepped
      obtain ⟨p, -, p', -, rfl⟩ := stepped
      rfl
  | inboundTransfer amount | tick seconds =>
      simp only [step, pure_eq_ok] at stepped
      rw [← stepped]

/-! ## The statement -/

theorem delivered_run {s : VestingSeries} {identity : EscrowIdentity} {now : Int}
    (start : Solvent (opened s identity now)) (fresh : s.totalReleased = 0) (run : Run step (opened s identity now)) :
    ∀ n ≤ run.length, run.total delivered n = (run.state n).series.totalReleased := by
  intro n within
  induction n with
  | zero =>
      rw [run.starts]
      exact fresh.symm
  | succ n ih =>
      have solvent := solvent_run start run n (Nat.le_of_succ_le within)
      rw [Run.total, ih (Nat.le_of_succ_le within)]
      exact (delivered_step solvent.fits solvent.preCliff (run.next n within)).symm

theorem frozen_run {s : VestingSeries} {identity : EscrowIdentity} {now : Int}
    (start : Solvent (opened s identity now)) (run : Run step (opened s identity now)) {i j : Nat}
    {authority : Pubkey} (cancel : run.label i = .cancelVestingSeries authority) (before : i < j)
    (within : j ≤ run.length) :
    vestingDeliverableCumulative (run.state j).series (run.state j).now = frozenValue (run.state i) ∧
      (run.state j).series.tranches = (run.state i).series.tranches ∧ (run.state i).now ≤ (run.state j).now := by
  have effect : ∀ m < run.length, Effect (run.state m) (run.state (m + 1)) := by
    intro m inside
    have solvent := solvent_run start run m inside.le
    exact step_effect solvent.fits solvent.preCliff (run.next m inside)
  have made := run.next i (before.trans_le within)
  rw [cancel] at made
  obtain ⟨-, status, value⟩ := cancel_step (solvent_run start run i (before.le.trans within)) made
  obtain ⟨schedule, -, clock⟩ := schedule_step (effect i (before.trans_le within))
  have frozen : (run.state j).series.status = .cancelled ∧
      (run.state j).series.finalCumulative = frozenValue (run.state i) ∧
      (run.state j).series.tranches = (run.state i).series.tranches ∧ (run.state i).now ≤ (run.state j).now := by
    refine run.invariant_from (P := fun v => v.series.status = .cancelled ∧
      v.series.finalCumulative = frozenValue (run.state i) ∧
      v.series.tranches = (run.state i).series.tranches ∧ (run.state i).now ≤ v.now)
      ⟨status, value, schedule, clock⟩ ?_ j within before
    rintro m inside - ⟨status, value, schedule, clock⟩
    obtain ⟨status', value'⟩ := frozen_step (effect m inside) status
    obtain ⟨schedule', -, clock'⟩ := schedule_step (effect m inside)
    exact ⟨status', value'.trans value, schedule'.trans schedule, clock.trans clock'⟩
  rw [vestingDeliverableCumulative_cancelled frozen.1]
  exact ⟨frozen.2.1, frozen.2.2⟩

/-- No step lowers the entitlement of a position. A cancellation freezes the curve at no less than what had
vested, was deliverable or was released. Until then delivery never runs ahead of vesting, and catches up
with it in a funded series once the approval windows have passed. The releases add up to at most the
allocations. -/
theorem vested_value_is_kept {authority : Pubkey} {tranches : List VestingTranche}
    {timingMode : VestingTimingMode} {deliveryMode : VestingDeliveryMode} {approvalWindowSecs : Int}
    {recoveryEnabled cancellationEnabled : Bool} {preCliffBps : Nat} {s : VestingSeries}
    {identity : EscrowIdentity} {now : Int}
    (created : createVestingSeries authority tranches timingMode deliveryMode approvalWindowSecs
      recoveryEnabled cancellationEnabled preCliffBps = .ok (s, identity))
    (run : Run step (opened s identity now)) :
    (∀ i < run.length, Kept (run.state i) (run.state (i + 1))) ∧
    (∀ i < run.length, ∀ authority, run.label i = .cancelVestingSeries authority →
      vestingDeliverableCumulative (run.state i).series (run.state i).now ≤ frozenValue (run.state i) ∧
      ((run.state i).series.status = .active →
        vestingCumulative (run.state i).series.tranches (run.state i).now ≤ frozenValue (run.state i)) ∧
      (run.state i).series.totalReleased ≤ frozenValue (run.state i) ∧
      ∀ j, i < j → j ≤ run.length →
        vestingDeliverableCumulative (run.state j).series (run.state j).now = frozenValue (run.state i) ∧
        (vestingCumulative (run.state i).series.tranches (run.state i).now ≠ 0 →
          frozenValue (run.state i) ≤ vestingCumulative (run.state j).series.tranches (run.state j).now)) ∧
    (∀ i ≤ run.length, (run.state i).series.status ≠ .cancelled →
      vestingDeliverableCumulative (run.state i).series (run.state i).now ≤
        vestingCumulative (run.state i).series.tranches (run.state i).now) ∧
    (∀ i ≤ run.length, (run.state i).series.status = .active →
      (run.state i).series.totalAllocated ≤ (run.state i).series.deposited → Lapsed (run.state i) →
      vestingDeliverableCumulative (run.state i).series (run.state i).now =
        vestingCumulative (run.state i).series.tranches (run.state i).now) ∧
    ∀ n ≤ run.length, run.total delivered n = ((run.state n).positions.map VestingPosition.released).sum ∧
      run.total delivered n ≤ (run.state n).series.totalAllocated := by
  obtain ⟨fits, bps, draft, allocated, released, deposited⟩ := createVestingSeries_ok created
  have start : Solvent (opened s identity now) := solvent_opened fits bps draft allocated released deposited
  have solvent := solvent_run start run
  have effect : ∀ m < run.length, Effect (run.state m) (run.state (m + 1)) := by
    intro m inside
    exact step_effect (solvent m inside.le).fits (solvent m inside.le).preCliff (run.next m inside)
  refine ⟨?_, ?_, ?_, ?_, ?_⟩
  · intro i within
    exact kept_step (solvent i within.le) (effect i within)
  · intro i within authority cancel
    have made := run.next i within
    rw [cancel] at made
    obtain ⟨uncancelled, -, -⟩ := cancel_step (solvent i within.le) made
    obtain ⟨delivered, vested, paid⟩ := frozenValue_covers (solvent i within.le) uncancelled
    refine ⟨delivered, vested, paid, ?_⟩
    intro j before inside
    obtain ⟨frozen, schedule, later⟩ := frozen_run start run cancel before inside
    refine ⟨frozen, ?_⟩
    intro something
    rw [schedule]
    exact frozenValue_le_vested (solvent i within.le).fits later something
  · intro i within uncancelled
    cases status : (run.state i).series.status with
    | draft =>
        rw [vestingDeliverableCumulative_draft status]
        exact Nat.zero_le _
    | cancelled => exact absurd status uncancelled
    | active => exact deliverable_le_vested status (solvent i within).fits _
  · intro i within active funded lapsed
    refine deliverable_eq_vested (solvent i within) ?_ active funded lapsed
    refine run.invariant_from (P := fun v => WindowsFit v.series) ?_ ?_ i within (Nat.zero_le i)
    · rw [run.starts]
      exact windowsFit_created created
    · intro m inside _ fit
      exact windowsFit_step (effect m inside) fit
  · intro n within
    rw [delivered_run start released run n within]
    refine ⟨(solvent n within).releases.symm, ?_⟩
    exact (released_le_deliverable (solvent n within)).trans (deliverable_le_total (solvent n within))

def unfundedRun : Run step (opened exampleSeries ⟨7, 0, 0⟩ 0) :=
  .ofLabels _ _ [.addVestingPosition 7 1 100, .finalizeVestingSeries 7, .tick 20] rfl

theorem unfunded_series_lags_vesting :
    ¬ ∀ i ≤ unfundedRun.length,
      vestingDeliverableCumulative (unfundedRun.state i).series (unfundedRun.state i).now ≤
        vestingCumulative (unfundedRun.state i).series.tranches (unfundedRun.state i).now ∧
      (Lapsed (unfundedRun.state i) →
        vestingDeliverableCumulative (unfundedRun.state i).series (unfundedRun.state i).now =
          vestingCumulative (unfundedRun.state i).series.tranches (unfundedRun.state i).now) := by
  intro claimed
  have lapsed : Lapsed (unfundedRun.state 3) := by
    show ∀ t ∈ exampleSeries.tranches, t.unlockTs ≤ (20 : Int) → t.unlockTs + 0 ≤ (20 : Int)
    decide
  have same : 0 = 100 := (claimed 3 (by decide)).2 lapsed
  cases same

theorem vested_value_is_kept_example :
    Kept (exampleRun.state 6) (exampleRun.state 7) ∧ frozenValue (exampleRun.state 6) = 50 ∧
      exampleRun.total delivered 8 ≤ (exampleRun.state 8).series.totalAllocated := by
  have created : createVestingSeries 7 [⟨10, 50⟩, ⟨20, 50⟩] .auto .claim 0 false true 0 =
    .ok (exampleSeries, ⟨7, 0, 0⟩) := rfl
  have kept := vested_value_is_kept created exampleRun
  exact ⟨kept.1 6 (by decide), by decide, (kept.2.2.2.2 8 (by decide)).2⟩

end Mancipatio.Vesting
