import Mathlib
import Mancipatio.Basic
import Mancipatio.Library.ProRata

/-!
# Vesting series: schedule arithmetic

A series promises a schedule of tranches, shared pro rata by its positions. The cumulative curves
below are what release, cancellation and withdrawal are computed from.
-/

namespace Mancipatio.Vesting
open Checked

inductive VestingTimingMode where
  | auto
  | approval
  deriving DecidableEq, Repr

inductive VestingDeliveryMode where
  | push
  | claim
  deriving DecidableEq, Repr

inductive VestingSeriesStatus where
  | active
  | cancelled
  | draft
  deriving DecidableEq, Repr

structure VestingTranche where
  unlockTs : Int
  amount : Nat
  deriving DecidableEq, Repr

structure VestingSeries where
  authority : Pubkey
  totalAllocated : Nat
  deposited : Nat
  totalReleased : Nat
  timingMode : VestingTimingMode
  deliveryMode : VestingDeliveryMode
  status : VestingSeriesStatus
  approvalWindowSecs : Int
  recoveryEnabled : Bool
  cancellationEnabled : Bool
  preCliffBps : Nat
  approvedMask : BitVec 64
  cancelledAt : Int
  finalCumulative : Nat
  positionsCount : Nat
  tranches : List VestingTranche
  deriving DecidableEq, Repr

structure VestingPosition where
  index : Nat
  wallet : Pubkey
  allocation : Nat
  released : Nat
  deriving DecidableEq, Repr

/-! ## The schedule -/

def vestingScheduleTotal (tranches : List VestingTranche) : Except RegistryError Nat :=
  tranches.foldlM (fun sum tranche => okOr (checkedAdd 64 sum tranche.amount) .invalidVestingSchedule) 0

def vestingCumulative (tranches : List VestingTranche) (ts : Int) : Nat :=
  (tranches.filter fun t => t.unlockTs ≤ ts).foldl (fun acc t => saturatingAdd 64 acc t.amount) 0

/-- In approval mode a tranche counts once it is approved or its approval window has lapsed. -/
def trancheDeliverable (series : VestingSeries) (ts : Int) (entry : VestingTranche × Nat) : Bool :=
  entry.1.unlockTs ≤ ts ∧
    (series.approvedMask &&& (1 <<< entry.2) ≠ 0 ∨
      (checkedAddInt 64 entry.1.unlockTs series.approvalWindowSecs).any (· ≤ ts))

def vestingDeliverableCumulative (series : VestingSeries) (ts : Int) : Nat :=
  if series.status = .cancelled then
    series.finalCumulative
  else if series.status = .draft ∨ series.totalAllocated = 0 ∨ series.deposited < series.totalAllocated then
    0
  else
    match series.timingMode with
    | .auto => vestingCumulative series.tranches ts
    | .approval =>
        (series.tranches.zipIdx.filter (trancheDeliverable series ts)).foldl
          (fun acc entry => saturatingAdd 64 acc entry.1.amount) 0

def vestingPositionEntitlement (allocation deliverableCumulative totalAllocated : Nat) : Nat :=
  if totalAllocated = 0 then 0
  else truncate 64 (allocation * deliverableCumulative / totalAllocated)

/-! ## What the schedule amounts to -/

def scheduled (tranches : List VestingTranche) : Nat :=
  (tranches.map VestingTranche.amount).sum

private theorem foldlM_checkedAdd {tranches : List VestingTranche} {start total : Nat} :
    tranches.foldlM (fun sum tranche =>
        okOr (checkedAdd 64 sum tranche.amount) RegistryError.invalidVestingSchedule) start = .ok total →
      start + scheduled tranches = total ∧ (start < 2 ^ 64 → total < 2 ^ 64) := by
  induction tranches generalizing start with
  | nil => simp +contextual [scheduled]
  | cons t rest ih =>
      intro folded
      simp only [List.foldlM_cons, bind_eq_ok, okOr_eq_ok, checkedAdd_eq_some] at folded
      obtain ⟨sum, ⟨rfl, fits⟩, folded⟩ := folded
      obtain ⟨total, bounded⟩ := ih folded
      refine ⟨?_, fun _ => bounded fits⟩
      simp only [scheduled, List.map_cons, List.sum_cons] at total ⊢
      omega

theorem vestingScheduleTotal_ok {tranches : List VestingTranche} {total : Nat}
    (computed : vestingScheduleTotal tranches = .ok total) :
    total = scheduled tranches ∧ scheduled tranches < 2 ^ 64 := by
  obtain ⟨sum, fits⟩ := foldlM_checkedAdd computed
  have bounded := fits (Nat.two_pow_pos 64)
  omega

private theorem foldl_saturatingAdd {α : Type} (entries : List α) (amount : α → Nat) (start : Nat)
    (fits : start + (entries.map amount).sum < 2 ^ 64) :
    entries.foldl (fun acc e => saturatingAdd 64 acc (amount e)) start =
      start + (entries.map amount).sum := by
  induction entries generalizing start with
  | nil => simp
  | cons e rest ih =>
      simp only [List.map_cons, List.sum_cons, List.foldl_cons] at fits ⊢
      rw [saturatingAdd_of_lt (by omega), ih _ (by omega)]
      omega

def unlocked (tranches : List VestingTranche) (due : VestingTranche × Nat → Bool) : Nat :=
  ((tranches.zipIdx.filter due).map fun entry => entry.1.amount).sum

theorem unlocked_mono {tranches : List VestingTranche} {due due' : VestingTranche × Nat → Bool}
    (sooner : ∀ entry ∈ tranches.zipIdx, due entry = true → due' entry = true) :
    unlocked tranches due ≤ unlocked tranches due' := by
  have kept : (tranches.zipIdx.filter due).Sublist (tranches.zipIdx.filter due') := by
    rw [show tranches.zipIdx.filter due = (tranches.zipIdx.filter due').filter due by
      rw [List.filter_filter]
      refine List.filter_congr fun entry member => ?_
      cases now : due entry <;> simp [now, sooner entry member]]
    exact List.filter_sublist
  exact (kept.map _).sum_le_sum fun _ _ => Nat.zero_le _

theorem unlocked_le_scheduled (tranches : List VestingTranche) (due : VestingTranche × Nat → Bool) :
    unlocked tranches due ≤ scheduled tranches := by
  have whole : scheduled tranches = ((tranches.zipIdx).map fun entry => entry.1.amount).sum := by
    rw [show (fun entry : VestingTranche × Nat => entry.1.amount) = VestingTranche.amount ∘ Prod.fst from rfl,
      ← List.map_map, List.zipIdx_map_fst, scheduled]
  rw [whole]
  exact (List.filter_sublist.map _).sum_le_sum fun _ _ => Nat.zero_le _

theorem vestingCumulative_eq {tranches : List VestingTranche} (fits : scheduled tranches < 2 ^ 64)
    (ts : Int) :
    vestingCumulative tranches ts = unlocked tranches fun entry => entry.1.unlockTs ≤ ts := by
  have indexed : (tranches.filter fun t => t.unlockTs ≤ ts).map VestingTranche.amount =
      (tranches.zipIdx.filter fun entry => entry.1.unlockTs ≤ ts).map fun entry => entry.1.amount := by
    conv_lhs => rw [← List.zipIdx_map_fst 0 tranches, List.filter_map, List.map_map]
    rfl
  have bounded : ((tranches.filter fun t => t.unlockTs ≤ ts).map VestingTranche.amount).sum < 2 ^ 64 := by
    rw [indexed]
    exact (unlocked_le_scheduled tranches _).trans_lt fits
  rw [vestingCumulative, foldl_saturatingAdd _ _ _ (by omega), Nat.zero_add, indexed, unlocked]

def due (series : VestingSeries) (ts : Int) (entry : VestingTranche × Nat) : Bool :=
  match series.timingMode with
  | .auto => entry.1.unlockTs ≤ ts
  | .approval => trancheDeliverable series ts entry

theorem due_unlocked {series : VestingSeries} {ts : Int} {entry : VestingTranche × Nat}
    (isDue : due series ts entry = true) : entry.1.unlockTs ≤ ts := by
  unfold due trancheDeliverable at isDue
  cases mode : series.timingMode <;> simp_all

theorem approved_mono {mask extra bit : BitVec 64} (approved : mask &&& bit ≠ 0) :
    (mask ||| extra) &&& bit ≠ 0 := by
  intro cleared
  apply approved
  calc mask &&& bit = mask &&& ((mask ||| extra) &&& bit) := by ext i; simp; grind
    _ = 0 := by rw [cleared]; simp

theorem due_mono {series series' : VestingSeries} {ts ts' : Int} {extra : BitVec 64}
    {entry : VestingTranche × Nat} (later : ts ≤ ts') (mode : series'.timingMode = series.timingMode)
    (window : series'.approvalWindowSecs = series.approvalWindowSecs)
    (mask : series'.approvedMask = series.approvedMask ||| extra)
    (isDue : due series ts entry = true) : due series' ts' entry = true := by
  unfold due at isDue ⊢
  rw [mode]
  cases timing : series.timingMode with
  | auto =>
      simp only [timing, decide_eq_true_eq] at isDue ⊢
      omega
  | approval =>
      simp only [timing, trancheDeliverable, decide_eq_true_eq, Option.any_eq_true] at isDue ⊢
      obtain ⟨unlocked, approved | ⟨deadline, exact, lapsed⟩⟩ := isDue
      · exact ⟨unlocked.trans later, .inl (mask ▸ approved_mono approved)⟩
      · exact ⟨unlocked.trans later, .inr ⟨deadline, window ▸ exact, lapsed.trans later⟩⟩

theorem vestingDeliverableCumulative_active {series : VestingSeries} (active : series.status = .active)
    (fits : scheduled series.tranches < 2 ^ 64) (ts : Int) :
    vestingDeliverableCumulative series ts =
      if series.totalAllocated = 0 ∨ series.deposited < series.totalAllocated then 0
      else unlocked series.tranches (due series ts) := by
  unfold vestingDeliverableCumulative due
  simp only [active, reduceCtorEq, if_false, false_or]
  split
  · rfl
  · cases series.timingMode with
    | auto => exact vestingCumulative_eq fits ts
    | approval =>
        dsimp only
        rw [foldl_saturatingAdd _ (fun entry : VestingTranche × Nat => entry.1.amount), Nat.zero_add]
        · rfl
        · have bounded := unlocked_le_scheduled series.tranches (trancheDeliverable series ts)
          unfold unlocked at bounded
          omega

@[simp] theorem vestingDeliverableCumulative_draft {series : VestingSeries}
    (draft : series.status = .draft) (ts : Int) : vestingDeliverableCumulative series ts = 0 := by
  simp [vestingDeliverableCumulative, draft]

@[simp] theorem vestingDeliverableCumulative_cancelled {series : VestingSeries}
    (cancelled : series.status = .cancelled) (ts : Int) :
    vestingDeliverableCumulative series ts = series.finalCumulative := by
  simp [vestingDeliverableCumulative, cancelled]

theorem vestingPositionEntitlement_eq {allocation cumulative total : Nat}
    (bounded : allocation ≤ total) (fits : cumulative < 2 ^ 64) :
    vestingPositionEntitlement allocation cumulative total = ProRata.share allocation cumulative total := by
  unfold vestingPositionEntitlement
  split
  · next none => simp [ProRata.share, none]
  · exact truncate_of_lt ((ProRata.share_le_pool bounded).trans_lt fits)

end Mancipatio.Vesting
