import Mancipatio.Vesting.Machine
import Mancipatio.Library.Rows

/-!
# Vesting solvency

The escrow of a funded series always covers what is still owed to every position. The argument
relates three quantities: the sum of the floored entitlements, the series-level promise they are
shares of, and what was deposited.
-/

namespace Mancipatio.Vesting
open Checked Execution Rows

/-! ## The invariant of a series -/

structure Solvent (v : VestingEscrow) : Prop where
  fits : scheduled v.series.tranches < 2 ^ 64
  totalFits : v.series.totalAllocated < 2 ^ 64
  preCliff : v.series.preCliffBps ≤ 10000
  allocations : (v.positions.map VestingPosition.allocation).sum = v.series.totalAllocated
  releases : (v.positions.map VestingPosition.released).sum = v.series.totalReleased
  entitled : ∀ p ∈ v.positions, p.released ≤ entitlement v p
  credited : v.series.deposited ≤ scheduled v.series.tranches
  matched : v.series.status = .active → v.series.totalAllocated = scheduled v.series.tranches
  frozen : v.series.status = .cancelled → v.series.finalCumulative ≤ v.series.totalAllocated
  whole : v.series.status = .cancelled →
    v.series.finalCumulative = 0 ∨ v.series.totalAllocated = scheduled v.series.tranches
  funded : v.series.status ≠ .cancelled → v.series.deposited ≤ v.escrow + v.series.totalReleased
  reserved : v.series.status = .cancelled →
    min v.series.deposited v.series.finalCumulative ≤ v.escrow + v.series.totalReleased

theorem deliverable_le_total {v : VestingEscrow} (solvent : Solvent v) :
    vestingDeliverableCumulative v.series v.now ≤ v.series.totalAllocated := by
  cases status : v.series.status with
  | active =>
      rw [vestingDeliverableCumulative_active status solvent.fits, solvent.matched status]
      split
      · exact Nat.zero_le _
      · exact unlocked_le_scheduled _ _
  | cancelled => rw [vestingDeliverableCumulative_cancelled status]; exact solvent.frozen status
  | draft => rw [vestingDeliverableCumulative_draft status]; exact Nat.zero_le _

theorem allocation_le {v : VestingEscrow} (solvent : Solvent v) {p : VestingPosition}
    (member : p ∈ v.positions) : p.allocation ≤ v.series.totalAllocated :=
  solvent.allocations ▸ le_sum VestingPosition.allocation member

theorem entitlement_eq_share {v : VestingEscrow} (solvent : Solvent v) {p : VestingPosition}
    (member : p ∈ v.positions) :
    entitlement v p = ProRata.share p.allocation (vestingDeliverableCumulative v.series v.now)
      v.series.totalAllocated :=
  vestingPositionEntitlement_eq (allocation_le solvent member)
    ((deliverable_le_total solvent).trans_lt solvent.totalFits)

/-- The floored entitlements add up to at most the cumulative they are shares of. -/
theorem sum_entitlement_le {v : VestingEscrow} (solvent : Solvent v) :
    (v.positions.map (entitlement v)).sum ≤ vestingDeliverableCumulative v.series v.now := by
  rw [List.map_congr_left fun p member => entitlement_eq_share solvent member]
  exact ProRata.sum_share_le_pool _ _ solvent.allocations.le

theorem released_le_deliverable {v : VestingEscrow} (solvent : Solvent v) :
    v.series.totalReleased ≤ vestingDeliverableCumulative v.series v.now := by
  rw [← solvent.releases]
  exact (List.sum_le_sum fun p member => solvent.entitled p member).trans (sum_entitlement_le solvent)

theorem released_eq_zero {v : VestingEscrow} (solvent : Solvent v)
    (nothing : vestingDeliverableCumulative v.series v.now = 0) {p : VestingPosition}
    (member : p ∈ v.positions) : p.released = 0 := by
  have covered := solvent.entitled p member
  rw [entitlement_eq_share solvent member, nothing, ProRata.share, Nat.mul_zero, Nat.zero_div] at covered
  exact Nat.le_zero.mp covered

theorem entitled_of_grown {v v' : VestingEscrow} (solvent : Solvent v)
    (positions : v'.positions = v.positions)
    (total : v'.series.totalAllocated = v.series.totalAllocated)
    (grown : vestingDeliverableCumulative v.series v.now ≤ vestingDeliverableCumulative v'.series v'.now)
    (fits : vestingDeliverableCumulative v'.series v'.now < 2 ^ 64) :
    ∀ p ∈ v'.positions, p.released ≤ entitlement v' p := by
  intro p member
  rw [positions] at member
  calc p.released ≤ entitlement v p := solvent.entitled p member
    _ = ProRata.share p.allocation (vestingDeliverableCumulative v.series v.now) v.series.totalAllocated :=
        entitlement_eq_share solvent member
    _ ≤ ProRata.share p.allocation (vestingDeliverableCumulative v'.series v'.now) v.series.totalAllocated :=
        ProRata.share_mono _ _ grown
    _ = entitlement v' p := by
        rw [entitlement, total, vestingPositionEntitlement_eq (allocation_le solvent member) fits]

/-! ## The curve only grows -/

theorem deliverable_active_mono {s s' : VestingSeries} {now now' : Int} {extra : BitVec 64}
    (active : s.status = .active) (active' : s'.status = .active) (fits : scheduled s.tranches < 2 ^ 64)
    (tranches : s'.tranches = s.tranches) (mode : s'.timingMode = s.timingMode)
    (window : s'.approvalWindowSecs = s.approvalWindowSecs)
    (mask : s'.approvedMask = s.approvedMask ||| extra) (total : s'.totalAllocated = s.totalAllocated)
    (deposited : s.deposited ≤ s'.deposited) (later : now ≤ now') :
    vestingDeliverableCumulative s now ≤ vestingDeliverableCumulative s' now' := by
  rw [vestingDeliverableCumulative_active active fits,
    vestingDeliverableCumulative_active active' (tranches ▸ fits), total, tranches]
  split
  · exact Nat.zero_le _
  · rw [if_neg (by omega)]
    exact unlocked_mono fun entry _ isDue => due_mono later mode window mask isDue

theorem deliverable_active_lt {s : VestingSeries} (active : s.status = .active)
    (fits : scheduled s.tranches < 2 ^ 64) (now : Int) : vestingDeliverableCumulative s now < 2 ^ 64 := by
  rw [vestingDeliverableCumulative_active active fits]
  split
  · exact Nat.two_pow_pos 64
  · exact (unlocked_le_scheduled _ _).trans_lt fits

theorem entitled_of_active {v v' : VestingEscrow} {e : BitVec 64} (solvent : Solvent v)
    (active : v.series.status = .active) (active' : v'.series.status = .active)
    (positions : v'.positions = v.positions) (tranches : v'.series.tranches = v.series.tranches)
    (mode : v'.series.timingMode = v.series.timingMode)
    (window : v'.series.approvalWindowSecs = v.series.approvalWindowSecs)
    (mask : v'.series.approvedMask = v.series.approvedMask ||| e)
    (total : v'.series.totalAllocated = v.series.totalAllocated)
    (deposited : v.series.deposited ≤ v'.series.deposited) (later : v.now ≤ v'.now) :
    ∀ p ∈ v'.positions, p.released ≤ entitlement v' p :=
  entitled_of_grown solvent positions total
    (deliverable_active_mono active active' solvent.fits tranches mode window mask total deposited later)
    (deliverable_active_lt active' (tranches ▸ solvent.fits) _)

theorem deliverable_le_vested {s : VestingSeries} (active : s.status = .active)
    (fits : scheduled s.tranches < 2 ^ 64) (now : Int) :
    vestingDeliverableCumulative s now ≤ vestingCumulative s.tranches now := by
  rw [vestingDeliverableCumulative_active active fits, vestingCumulative_eq fits]
  split
  · exact Nat.zero_le _
  · exact unlocked_mono fun entry _ isDue => decide_eq_true (due_unlocked isDue)

/-! ## One instruction preserves solvency -/

theorem createVestingSeries_ok {authority : Pubkey} {tranches : List VestingTranche}
    {timingMode : VestingTimingMode} {deliveryMode : VestingDeliveryMode} {approvalWindowSecs : Int}
    {recoveryEnabled cancellationEnabled : Bool} {preCliffBps : Nat} {s : VestingSeries}
    {identity : EscrowIdentity}
    (created : createVestingSeries authority tranches timingMode deliveryMode approvalWindowSecs
      recoveryEnabled cancellationEnabled preCliffBps = .ok (s, identity)) :
    scheduled s.tranches < 2 ^ 64 ∧ s.preCliffBps ≤ 10000 ∧ s.status = .draft ∧ s.totalAllocated = 0 ∧
      s.totalReleased = 0 ∧ s.deposited = 0 := by
  simp only [createVestingSeries, bind_eq_ok, require_eq_ok, exists_const] at created
  obtain ⟨-, -, total, computed, created⟩ := created
  have fits := (vestingScheduleTotal_ok computed).2
  cases timingMode <;>
    · simp only [bind_eq_ok, require_eq_ok, pure_eq_ok, exists_const, Prod.mk.injEq] at created
      obtain ⟨-, -, bps, rfl, -⟩ := created
      exact ⟨fits, bps, rfl, rfl, rfl, rfl⟩

theorem solvent_opened {s : VestingSeries} {identity : EscrowIdentity} {now : Int}
    (fits : scheduled s.tranches < 2 ^ 64) (bps : s.preCliffBps ≤ 10000) (draft : s.status = .draft)
    (allocated : s.totalAllocated = 0) (released : s.totalReleased = 0) (deposited : s.deposited = 0) :
    Solvent (opened s identity now) where
  fits := fits
  totalFits := by simp [opened, allocated]
  preCliff := bps
  allocations := by simp [opened, allocated]
  releases := by simp [opened, released]
  entitled := by simp [opened]
  credited := by simp [opened, deposited]
  matched := by simp [opened, draft]
  frozen := by simp [opened, draft]
  whole := by simp [opened, draft]
  funded := by simp [opened, deposited]
  reserved := by simp [opened, draft]

section steps
variable {v : VestingEscrow} (solvent : Solvent v)
include solvent

theorem solvent_addVestingPosition {wallet : Pubkey} {allocation : Nat} (draft : v.series.status = .draft)
    (fits : v.series.totalAllocated + allocation < 2 ^ 64) :
    Solvent { v with
      series := { v.series with
        positionsCount := v.series.positionsCount + 1
        totalAllocated := v.series.totalAllocated + allocation }
      positions := v.positions ++ [{ index := v.series.positionsCount, wallet, allocation, released := 0 }] } :=
  { solvent with
    totalFits := fits
    allocations := by simp [solvent.allocations]
    releases := by simp [solvent.releases]
    entitled := by
      intro p member
      rcases List.mem_append.mp member with old | new
      · rw [released_eq_zero solvent (vestingDeliverableCumulative_draft draft _) old]
        exact Nat.zero_le _
      · rw [List.mem_singleton.mp new]
        exact Nat.zero_le _
    matched := by simp [draft]
    frozen := by simp [draft]
    whole := by simp [draft]
    reserved := by simp [draft] }

theorem solvent_finalizeVestingSeries (draft : v.series.status = .draft)
    (whole : v.series.totalAllocated = scheduled v.series.tranches) :
    Solvent { v with series := { v.series with status := .active } } :=
  { solvent with
    entitled := by
      intro p member
      rw [released_eq_zero solvent (vestingDeliverableCumulative_draft draft _) member]
      exact Nat.zero_le _
    matched := fun _ => whole
    frozen := by simp
    whole := by simp
    funded := fun _ => solvent.funded (by simp [draft])
    reserved := by simp }

theorem solvent_depositToVestingEscrow {amount : Nat} {identity : EscrowIdentity}
    (opened : v.series.status ≠ .cancelled)
    (credited : v.series.deposited + amount ≤ scheduled v.series.tranches) :
    Solvent { v with
      series := { v.series with deposited := v.series.deposited + amount }, identity,
      escrow := v.escrow + amount } :=
  { solvent with
    entitled := by
      cases status : v.series.status with
      | cancelled => exact absurd status opened
      | draft =>
          intro p member
          rw [released_eq_zero solvent (vestingDeliverableCumulative_draft status _) member]
          exact Nat.zero_le _
      | active =>
          exact entitled_of_active (e := 0) solvent status status rfl rfl rfl rfl (by simp) rfl
            (Nat.le_add_right _ _) (Int.le_refl _)
    credited := credited
    funded := fun _ => by have := solvent.funded opened; dsimp only; omega
    reserved := fun cancelled => absurd cancelled opened }

theorem solvent_approveVestingTranche (active : v.series.status = .active) (e : BitVec 64) :
    Solvent { v with series := { v.series with approvedMask := v.series.approvedMask ||| e } } :=
  { solvent with
    entitled := entitled_of_active (e := e) solvent active active rfl rfl rfl rfl rfl rfl (Nat.le_refl _)
      (Int.le_refl _) }

theorem solvent_released {i amount : Nat} {p : VestingPosition} (stored : v.positions[i]? = some p)
    (capped : amount = min (entitlement v p - p.released) v.escrow) :
    Solvent { v with
      series := { v.series with totalReleased := v.series.totalReleased + amount }
      positions := v.positions.set i { p with released := p.released + amount }
      escrow := v.escrow - amount } :=
  { solvent with
    allocations := (sum_set_of_eq _ stored (by rfl)).trans solvent.allocations
    releases := by
      have moved := sum_set_add VestingPosition.released stored { p with released := p.released + amount }
      have releases := solvent.releases
      dsimp only at moved ⊢
      omega
    entitled := by
      refine forall_set solvent.entitled ?_
      have covered : p.released ≤ entitlement v p := solvent.entitled p (mem_of_stored stored)
      show p.released + amount ≤ entitlement v p
      omega
    funded := fun uncancelled => by have := solvent.funded uncancelled; dsimp only; omega
    reserved := fun cancelled => by have := solvent.reserved cancelled; dsimp only; omega }

theorem solvent_cancelVestingSeries {finalCumulative : Nat} (uncancelled : v.series.status ≠ .cancelled)
    (bounded : finalCumulative ≤ v.series.totalAllocated)
    (whole : finalCumulative = 0 ∨ v.series.totalAllocated = scheduled v.series.tranches)
    (vested : v.series.status = .active → vestingCumulative v.series.tranches v.now ≤ finalCumulative) :
    Solvent { v with series := { v.series with finalCumulative, status := .cancelled, cancelledAt := v.now } } :=
  { solvent with
    entitled := by
      refine entitled_of_grown solvent rfl rfl ?_ (bounded.trans_lt solvent.totalFits)
      show vestingDeliverableCumulative v.series v.now ≤ finalCumulative
      cases status : v.series.status with
      | cancelled => exact absurd status uncancelled
      | draft => rw [vestingDeliverableCumulative_draft status]; exact Nat.zero_le _
      | active => exact (deliverable_le_vested status solvent.fits v.now).trans (vested status)
    matched := by simp
    frozen := fun _ => bounded
    whole := fun _ => whole
    funded := by simp
    reserved := fun _ => (Nat.min_le_left _ _).trans (solvent.funded uncancelled) }

theorem solvent_withdrawn (promise : Nat) {amount : Nat} {identity : EscrowIdentity}
    (status : v.series.status ≠ .draft)
    (active : v.series.status = .active → promise = v.series.totalAllocated)
    (cancelled : v.series.status = .cancelled → promise = v.series.finalCumulative)
    (within : amount ≤ v.escrow - (promise - v.series.totalReleased)) :
    Solvent { v with identity, escrow := v.escrow - amount } :=
  { solvent with
    funded := fun uncancelled => by
      cases now : v.series.status with
      | draft => exact absurd now status
      | cancelled => exact absurd now uncancelled
      | active =>
          have funded := solvent.funded uncancelled
          have credited := solvent.credited
          have matched := solvent.matched now
          have promised := active now
          dsimp only
          omega
    reserved := fun isCancelled => by
      have promised := cancelled isCancelled
      have reserved := solvent.reserved isCancelled
      dsimp only
      omega }

theorem solvent_disableVestingCancellation :
    Solvent { v with series := { v.series with cancellationEnabled := false } } :=
  { solvent with }

theorem solvent_recoverVestingPosition {i : Nat} {p : VestingPosition} (stored : v.positions[i]? = some p)
    (wallet : Pubkey) : Solvent { v with positions := v.positions.set i { p with wallet } } :=
  { solvent with
    allocations := (sum_set_of_eq _ stored (by rfl)).trans solvent.allocations
    releases := (sum_set_of_eq _ stored (by rfl)).trans solvent.releases
    entitled := forall_set solvent.entitled (solvent.entitled p (mem_of_stored stored)) }

theorem solvent_inboundTransfer (amount : Nat) : Solvent { v with escrow := v.escrow + amount } :=
  { solvent with
    funded := fun uncancelled => by have := solvent.funded uncancelled; dsimp only; omega
    reserved := fun cancelled => by have := solvent.reserved cancelled; dsimp only; omega }

theorem solvent_tick (seconds : Nat) : Solvent { v with now := v.now + seconds } :=
  { solvent with
    entitled := by
      cases status : v.series.status with
      | active =>
          exact entitled_of_active (e := 0) solvent status status rfl rfl rfl rfl (by simp) rfl
            (Nat.le_refl _) (by simp)
      | cancelled =>
          simpa only [entitlement, vestingDeliverableCumulative_cancelled status] using solvent.entitled
      | draft => simpa only [entitlement, vestingDeliverableCumulative_draft status] using solvent.entitled }

end steps

theorem solvent_effect {v v' : VestingEscrow} (solvent : Solvent v) (effect : Effect v v') : Solvent v' := by
  cases effect with
  | positionAdded wallet allocation draft fits => exact solvent_addVestingPosition solvent draft fits
  | finalized draft whole => exact solvent_finalizeVestingSeries solvent draft whole
  | deposited amount identity uncancelled credited =>
      exact solvent_depositToVestingEscrow solvent uncancelled credited
  | approved extra active => exact solvent_approveVestingTranche solvent active extra
  | released amount stored started capped => exact solvent_released solvent stored capped
  | cancelled finalCumulative uncancelled bounded whole vested =>
      exact solvent_cancelVestingSeries solvent uncancelled bounded whole vested
  | unvestedWithdrawn amount identity cancelled within =>
      exact solvent_withdrawn solvent v.series.finalCumulative (by simp [cancelled])
        (by simp [cancelled]) (fun _ => rfl) within
  | surplusWithdrawn amount identity active within =>
      exact solvent_withdrawn solvent v.series.totalAllocated (by simp [active]) (fun _ => rfl) (by simp [active]) within
  | cancellationDisabled => exact solvent_disableVestingCancellation solvent
  | recovered stored wallet => exact solvent_recoverVestingPosition solvent stored wallet
  | received amount => exact solvent_inboundTransfer solvent amount
  | ticked seconds => exact solvent_tick solvent seconds

theorem solvent_run {s : VestingSeries} {identity : EscrowIdentity} {now : Int}
    (start : Solvent (opened s identity now)) (run : Run step (opened s identity now)) :
    ∀ i ≤ run.length, Solvent (run.state i) :=
  run.invariant start fun _ _ _ solvent stepped =>
    solvent_effect solvent (step_effect solvent.fits solvent.preCliff stepped)

/-! ## Funding that was once complete stays complete -/

def promise (v : VestingEscrow) : Nat :=
  match v.series.status with
  | .draft => 0
  | .active => v.series.totalAllocated
  | .cancelled => v.series.finalCumulative

def Backed (v : VestingEscrow) : Prop :=
  v.series.status ≠ .draft ∧ promise v ≤ v.escrow + v.series.totalReleased

/-- The funding gate of an active series; for a cancelled one, that the deposits, or the escrow
together with what it has paid, reach the frozen cumulative. -/
def FullyFunded (v : VestingEscrow) : Prop :=
  (v.series.status = .active ∧ v.series.totalAllocated ≤ v.series.deposited) ∨
  (v.series.status = .cancelled ∧ (v.series.finalCumulative ≤ v.series.deposited ∨
    v.series.finalCumulative ≤ v.escrow + v.series.totalReleased))

theorem backed_of_fullyFunded {v : VestingEscrow} (solvent : Solvent v) (funded : FullyFunded v) :
    Backed v := by
  rcases funded with ⟨active, covered⟩ | ⟨cancelled, covered⟩
  · have deposited := solvent.funded (by simp [active])
    exact ⟨by simp [active], by simp only [promise, active]; omega⟩
  · have reserved := solvent.reserved cancelled
    exact ⟨by simp [cancelled], by simp only [promise, cancelled]; omega⟩

theorem backed_effect {v v' : VestingEscrow} (backed : Backed v) (effect : Effect v v') : Backed v' := by
  obtain ⟨started, covered⟩ := backed
  cases effect with
  | positionAdded wallet allocation draft fits => exact absurd draft started
  | finalized draft whole => exact absurd draft started
  | deposited amount identity uncancelled credited =>
      refine ⟨started, covered.trans ?_⟩
      dsimp only
      omega
  | approved extra active => exact ⟨started, covered⟩
  | released amount stored started capped =>
      refine ⟨started, covered.trans ?_⟩
      dsimp only
      omega
  | cancelled finalCumulative uncancelled bounded whole vested =>
      refine ⟨by simp, ?_⟩
      cases status : v.series.status with
      | draft => exact absurd status started
      | cancelled => exact absurd status uncancelled
      | active =>
          simp only [promise, status] at covered ⊢
          omega
  | unvestedWithdrawn amount identity cancelled within =>
      refine ⟨started, ?_⟩
      simp only [promise, cancelled] at covered ⊢
      omega
  | surplusWithdrawn amount identity active within =>
      refine ⟨started, ?_⟩
      simp only [promise, active] at covered ⊢
      omega
  | cancellationDisabled => exact ⟨started, covered⟩
  | recovered stored wallet => exact ⟨started, covered⟩
  | received amount =>
      refine ⟨started, covered.trans ?_⟩
      dsimp only
      omega
  | ticked seconds => exact ⟨started, covered⟩

/-! ## Every position can be paid in full -/

theorem owed_le_escrow {v : VestingEscrow} (solvent : Solvent v) (backed : Backed v) :
    (v.positions.map fun p => entitlement v p - p.released).sum ≤ v.escrow := by
  have owed := ProRata.sum_sub_add_sum v.positions (entitlement v) VestingPosition.released solvent.entitled
  have promised := sum_entitlement_le solvent
  have covered := backed.2
  have releases := solvent.releases
  have delivered : vestingDeliverableCumulative v.series v.now ≤ promise v := by
    unfold promise
    cases status : v.series.status with
    | draft => exact absurd status backed.1
    | active => exact deliverable_le_total solvent
    | cancelled => rw [vestingDeliverableCumulative_cancelled status]
  omega

theorem vestingScheduleTotal_scheduled {tranches : List VestingTranche} (fits : scheduled tranches < 2 ^ 64) :
    vestingScheduleTotal tranches = .ok (scheduled tranches) := by
  have folds : ∀ start, start + scheduled tranches < 2 ^ 64 →
      tranches.foldlM (fun sum tranche =>
        okOr (checkedAdd 64 sum tranche.amount) RegistryError.invalidVestingSchedule) start =
        .ok (start + scheduled tranches) := by
    clear fits
    induction tranches with
    | nil => intro start _; rfl
    | cons t rest ih =>
        intro start fits
        simp only [scheduled, List.map_cons, List.sum_cons] at fits ih ⊢
        have sum : okOr (checkedAdd 64 start t.amount) RegistryError.invalidVestingSchedule =
            .ok (start + t.amount) := by
          simp only [okOr_eq_ok, checkedAdd_eq_some, true_and]
          omega
        rw [List.foldlM_cons, sum, ← Nat.add_assoc]
        exact ih _ (by omega)
  simpa [vestingScheduleTotal] using folds 0 (by omega)

theorem whole_of_owed {v : VestingEscrow} (solvent : Solvent v) {p : VestingPosition}
    (member : p ∈ v.positions) (owed : p.released < entitlement v p) :
    v.series.totalAllocated = scheduled v.series.tranches := by
  have deliverable : vestingDeliverableCumulative v.series v.now ≠ 0 := by
    intro nothing
    rw [entitlement_eq_share solvent member, nothing, ProRata.share, Nat.mul_zero, Nat.zero_div] at owed
    exact Nat.not_lt_zero _ owed
  cases status : v.series.status with
  | draft => exact absurd (vestingDeliverableCumulative_draft status _) deliverable
  | active => exact solvent.matched status
  | cancelled =>
      rw [vestingDeliverableCumulative_cancelled status] at deliverable
      exact (solvent.whole status).resolve_left deliverable

/-- A release whose recipient passes the receiver gate pays exactly what is owed to the position. -/
theorem releaseVested_pays {v : VestingEscrow} (solvent : Solvent v) (backed : Backed v)
    {p : VestingPosition} (member : p ∈ v.positions) (owed : p.released < entitlement v p) :
    releaseVested v.series p v.escrow v.now (.ok ()) =
      .ok ({ v.series with totalReleased := v.series.totalReleased + (entitlement v p - p.released) },
        { p with released := entitlement v p }, entitlement v p - p.released) := by
  have enough : entitlement v p - p.released ≤ v.escrow :=
    (le_sum (fun p => entitlement v p - p.released) member).trans (owed_le_escrow solvent backed)
  have bounded : entitlement v p ≤ v.series.totalAllocated := by
    rw [entitlement_eq_share solvent member]
    exact (ProRata.share_le_pool (allocation_le solvent member)).trans (deliverable_le_total solvent)
  have outstanding : v.series.totalReleased + (entitlement v p - p.released) ≤ v.series.totalAllocated := by
    have sums := ProRata.sum_sub_add_sum v.positions (entitlement v) VestingPosition.released solvent.entitled
    have one : entitlement v p - p.released ≤ (v.positions.map fun p => entitlement v p - p.released).sum :=
      le_sum (fun p => entitlement v p - p.released) member
    have promised := sum_entitlement_le solvent
    have delivered := deliverable_le_total solvent
    have releases := solvent.releases
    omega
  have fits := solvent.totalFits
  have started := backed.1
  have whole := whole_of_owed solvent member owed
  have total := vestingScheduleTotal_scheduled solvent.fits
  unfold entitlement at owed enough bounded outstanding ⊢
  simp only [releaseVested, bind_eq_ok, require_eq_ok, okOr_eq_ok, checkedAdd_eq_some, pure_eq_ok, total,
    exists_const, Except.ok.injEq, exists_eq_left', Nat.min_eq_left enough]
  refine ⟨started, ⟨whole.symm, by omega⟩, by omega, trivial, _, ⟨rfl, by omega⟩, _, ⟨rfl, by omega⟩, ?_⟩
  rw [Nat.add_sub_cancel' owed.le]

/-- Once a series is fully funded, every later escrow covers the unreleased floored entitlements of all
positions together, so that any of them can be released in full, in any order. A series cancelled
before it was funded keeps what was deposited, up to the frozen cumulative. -/
theorem escrow_covers_entitlements {authority : Pubkey} {tranches : List VestingTranche}
    {timingMode : VestingTimingMode} {deliveryMode : VestingDeliveryMode} {approvalWindowSecs : Int}
    {recoveryEnabled cancellationEnabled : Bool} {preCliffBps : Nat} {s : VestingSeries}
    {identity : EscrowIdentity} {now : Int}
    (created : createVestingSeries authority tranches timingMode deliveryMode approvalWindowSecs
      recoveryEnabled cancellationEnabled preCliffBps = .ok (s, identity))
    (run : Run step (opened s identity now)) :
    (∀ first last, first ≤ last → last ≤ run.length → FullyFunded (run.state first) →
      ((run.state last).positions.map fun p => entitlement (run.state last) p - p.released).sum ≤
        (run.state last).escrow ∧
      ∀ p ∈ (run.state last).positions, p.released < entitlement (run.state last) p →
        ∃ series, releaseVested (run.state last).series p (run.state last).escrow (run.state last).now (.ok ()) =
          .ok (series, { p with released := entitlement (run.state last) p },
            entitlement (run.state last) p - p.released)) ∧
    ∀ i ≤ run.length, (run.state i).series.status = .cancelled →
      min (run.state i).series.deposited (run.state i).series.finalCumulative ≤
        (run.state i).escrow + (run.state i).series.totalReleased := by
  obtain ⟨fits, bps, draft, allocated, released, deposited⟩ := createVestingSeries_ok created
  have solvent := solvent_run (solvent_opened fits bps draft allocated released deposited) run
  refine ⟨fun first last ordered within funded => ?_, fun i within => (solvent i within).reserved⟩
  have backed : Backed (run.state last) := by
    refine run.invariant_from (backed_of_fullyFunded (solvent first (ordered.trans within)) funded)
      (fun i within after backed => ?_) last within ordered
    exact backed_effect backed
      (step_effect (solvent i within.le).fits (solvent i within.le).preCliff (run.next i within))
  exact ⟨owed_le_escrow (solvent last within) backed,
    fun p member owed => ⟨_, releaseVested_pays (solvent last within) backed member owed⟩⟩

def exampleSeries : VestingSeries :=
  { authority := 7, totalAllocated := 0, deposited := 0, totalReleased := 0, timingMode := .auto,
    deliveryMode := .claim, status := .draft, approvalWindowSecs := 0, recoveryEnabled := false,
    cancellationEnabled := true, preCliffBps := 0, approvedMask := 0, cancelledAt := 0,
    finalCumulative := 0, positionsCount := 0, tranches := [⟨10, 50⟩, ⟨20, 50⟩] }

def exampleInstructions : List VestingInstruction :=
  [.addVestingPosition 7 1 33, .addVestingPosition 7 2 67, .finalizeVestingSeries 7,
    .depositToVestingEscrow 7 0 100, .tick 10, .claimVested 1 0 false (.ok ()), .cancelVestingSeries 7,
    .withdrawUnvested 7 (.ok ())]

def exampleRun : Run step (opened exampleSeries ⟨7, 0, 0⟩ 0) :=
  .ofLabels _ _ exampleInstructions rfl

theorem escrow_covers_entitlements_example :
    (exampleRun.state 4).series.totalAllocated ≤ (exampleRun.state 4).series.deposited ∧
      (exampleRun.state 8).escrow = 34 ∧
      ((exampleRun.state 8).positions.map fun p => entitlement (exampleRun.state 8) p - p.released).sum ≤
        (exampleRun.state 8).escrow :=
  have created : createVestingSeries 7 [⟨10, 50⟩, ⟨20, 50⟩] .auto .claim 0 false true 0 =
    .ok (exampleSeries, ⟨7, 0, 0⟩) := rfl
  ⟨by decide, by decide, ((escrow_covers_entitlements created exampleRun).1 4 8 (by decide) (by decide)
    (.inl ⟨rfl, by decide⟩)).1⟩

end Mancipatio.Vesting
