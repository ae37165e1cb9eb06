import Mancipatio.Payout.Schedule

/-!
# The front's view of a payout vault

The front computes from a decoded vault and its own clock which instruction the program would accept. Its
numbers are exact, as doubles are while times stay below 2 ^ 53.
-/

namespace Mancipatio.Payout
open Checked Execution

def monthSeconds : Int := 2592000
def frontFreezeThreshold : Int := 3

def periodTs (vault : PayoutVault) (periodIndex : Nat) : Int :=
  vault.startTs + periodIndex * monthSeconds

def nextReleaseReady (vault : PayoutVault) (nowSec : Int) : Bool :=
  if vault.version ≠ 2 ∨ vault.state ≠ .active then
    false
  else if vault.numTranches ≤ vault.tranchesReleased then
    false
  else if nowSec < periodTs vault vault.tranchesReleased then
    false
  else
    decide (vault.tranchesReleased < vault.updatesPosted)

def nextUpdateDue (vault : PayoutVault) (nowSec : Int) : Bool :=
  if vault.version ≠ 2 ∨ vault.state ≠ .active then
    false
  else if vault.numTranches ≤ vault.updatesPosted then
    false
  else
    decide (periodTs vault vault.updatesPosted ≤ nowSec)

def periodsOverdue (vault : PayoutVault) (nowSec : Int) : Int :=
  let start := vault.startTs
  let elapsed := if nowSec ≤ start then 0 else (nowSec - start) / monthSeconds + 1
  let periodsElapsed := max 0 (min elapsed vault.numTranches)
  max 0 (periodsElapsed - vault.updatesPosted)

def isFreezable (vault : PayoutVault) (nowSec : Int) : Bool :=
  decide (vault.version = 2 ∧ vault.state = .active ∧ frontFreezeThreshold ≤ periodsOverdue vault nowSec)

/-! ## Agreement -/

structure Agrees (vault : PayoutVault) (now : Int) : Prop where
  freezable : isFreezable vault now = true ↔ ∃ vault', freezeVault vault now = .ok vault'
  update : nextUpdateDue vault now = true ↔ ∃ vault', postUpdate vault vault.founder now = .ok vault'
  release : nextReleaseReady vault now = true ↔ ∃ released, releasePayout vault 0 false false now = .ok released
  overdue : overduePeriods vault now = .ok (periodsOverdue vault now)

/-- No update is owed exactly at the start, the schedule is not over, and the next due date can be told. -/
def WithinSchedule (vault : PayoutVault) (now : Int) : Prop :=
  (now = vault.startTs → 0 < vault.updatesPosted) ∧ now < vault.startTs + vault.numTranches * month ∧
    vault.startTs + vault.updatesPosted * month < 2 ^ 63

section agreement
variable {v : PayoutEscrow} {now : Int}

theorem overduePeriods_eq {vault : PayoutVault} (begun : 0 ≤ vault.startTs) (few : vault.updatesPosted < 2 ^ 8)
    (clock : now < 2 ^ 63) {overdue : Int} : overduePeriods vault now = .ok overdue ↔
      vault.startTs + vault.updatesPosted * month < 2 ^ 63 ∧
        overdue = if now < vault.startTs + vault.updatesPosted * month then 0
          else (now - (vault.startTs + vault.updatesPosted * month)) / month + 1 := by
  constructor
  · intro counted
    simp only [overduePeriods, oldestDueTs, bind_eq_ok, okOr_eq_ok, checkedMulInt_eq_some,
      checkedAddInt_eq_some] at counted
    obtain ⟨_, ⟨_, ⟨rfl, -⟩, rfl, -, fits⟩, counted⟩ := counted
    refine ⟨fits, ?_⟩
    split at counted
    · next early =>
        rw [pure_eq_ok] at counted
        rw [if_pos early, counted]
    · next late =>
        simp only [bind_eq_ok, okOr_eq_ok, checkedAddInt_eq_some, pure_eq_ok] at counted
        obtain ⟨_, ⟨rfl, -⟩, rfl⟩ := counted
        rw [if_neg late]
        rfl
  · rintro ⟨fits, rfl⟩
    simp only [overduePeriods, oldestDueTs, bind_eq_ok, okOr_eq_ok, checkedMulInt_eq_some, checkedAddInt_eq_some]
    refine ⟨_, ⟨_, ⟨rfl, ?_⟩, rfl, ?_, fits⟩, ?_⟩
    · unfold month
      omega
    · unfold month
      omega
    · split
      · rfl
      · next late =>
          simp only [bind_eq_ok, okOr_eq_ok, checkedAddInt_eq_some, pure_eq_ok]
          refine ⟨_, ⟨rfl, ?_⟩, rfl⟩
          unfold month at *
          omega

/-- The two counts of overdue periods are the same number within the schedule, and only there. -/
theorem overdue_agrees (begun : 0 ≤ v.vault.startTs) (few : v.vault.numTranches < 2 ^ 8)
    (promised : v.vault.updatesPosted ≤ v.vault.numTranches) (clock : now < 2 ^ 63) :
    overduePeriods v.vault now = .ok (periodsOverdue v.vault now) ↔ WithinSchedule v.vault now := by
  rw [overduePeriods_eq begun (promised.trans_lt few) clock]
  unfold WithinSchedule periodsOverdue monthSeconds month
  dsimp only
  split <;> split <;> omega

theorem periodsOverdue_le (vault : PayoutVault) (now : Int) :
    periodsOverdue vault now ≤ max 0 ((vault.numTranches : Int) - vault.updatesPosted) := by
  unfold periodsOverdue
  dsimp only
  omega

theorem unpaid_of_active (on : OnSchedule v) (active : v.vault.state = .active) : v.vault.released < v.vault.totalAmount := by
  rcases on.paid with ⟨pending, -, sofar⟩ | ⟨-, completed, -⟩
  · calc v.vault.released = v.vault.trancheAmount * v.vault.tranchesReleased := sofar
      _ < v.vault.trancheAmount * v.vault.numTranches := Nat.mul_lt_mul_of_pos_left pending on.share
      _ ≤ v.vault.totalAmount := Nat.mul_comm v.vault.trancheAmount _ ▸ on.whole
  · rw [active] at completed
    cases completed

theorem freezable_agrees (on : OnSchedule v) (current : v.vault.version = 2)
    (counted : overduePeriods v.vault now = .ok (periodsOverdue v.vault now)) :
    isFreezable v.vault now = true ↔ ∃ vault', freezeVault v.vault now = .ok vault' := by
  simp only [isFreezable, decide_eq_true_eq, freezeVault, bind_eq_ok, require_eq_ok, pure_eq_ok, exists_const, counted,
    Except.ok.injEq, current, true_and]
  constructor
  · rintro ⟨active, missed⟩
    have few := periodsOverdue_le v.vault now
    have more : v.vault.updatesPosted < v.vault.numTranches := by
      unfold frontFreezeThreshold at missed
      omega
    exact ⟨_, active, ⟨more, unpaid_of_active on active⟩, _, rfl, missed, rfl⟩
  · rintro ⟨_, active, -, _, rfl, missed, -⟩
    exact ⟨active, missed⟩

theorem date_fits_iff (begun : 0 ≤ v.vault.startTs) (clock : now < 2 ^ 63) (n : Nat) :
    (∃ date, checkedAddInt 64 v.vault.startTs (n * month) = some date ∧ date ≤ now) ↔ periodTs v.vault n ≤ now := by
  simp only [checkedAddInt_eq_some]
  unfold periodTs month monthSeconds
  constructor
  · rintro ⟨_, ⟨rfl, -⟩, reached⟩
    exact reached
  · intro reached
    exact ⟨_, ⟨rfl, by omega, by omega⟩, reached⟩

theorem update_agrees (begun : 0 ≤ v.vault.startTs) (few : v.vault.numTranches < 2 ^ 8)
    (current : v.vault.version = 2) (clock : now < 2 ^ 63) :
    nextUpdateDue v.vault now = true ↔ ∃ vault', postUpdate v.vault v.vault.founder now = .ok vault' := by
  have reached := date_fits_iff begun clock v.vault.updatesPosted
  simp only [postUpdate, bind_eq_ok, require_eq_ok, okOr_eq_ok, checkedAdd_eq_some, pure_eq_ok, exists_const, true_and]
  unfold nextUpdateDue
  constructor
  · intro due
    simp only [current, ne_eq, not_true_eq_false, false_or] at due
    split at due
    · cases due
    · split at due
      · cases due
      · next active more =>
          obtain ⟨date, fits, reached⟩ := reached.mpr (of_decide_eq_true due)
          exact ⟨_, not_not.mp active, Nat.lt_of_not_le more, date, fits, reached, _, ⟨rfl, by omega⟩, rfl⟩
  · rintro ⟨_, active, more, date, fits, late, -⟩
    rw [if_neg (by simp [current, active]), if_neg (Nat.not_le.mpr more)]
    exact decide_eq_true (reached.mp ⟨date, fits, late⟩)

theorem trancheDue_succeeds (on : OnSchedule v) (active : v.vault.state = .active)
    (pending : v.vault.tranchesReleased < v.vault.numTranches)
    (reached : ∃ date, checkedAddInt 64 v.vault.startTs (v.vault.tranchesReleased * month) = some date ∧ date ≤ now)
    (reported : v.vault.tranchesReleased < v.vault.updatesPosted) :
    ∃ amount, trancheDue v.vault now = .ok amount ∧ 0 < amount ∧ v.vault.released + amount ≤ v.vault.totalAmount := by
  obtain ⟨date, fits, late⟩ := reached
  have unpaid := unpaid_of_active on active
  by_cases last : v.vault.tranchesReleased + 1 = v.vault.numTranches
  · refine ⟨v.vault.totalAmount - v.vault.released, ?_, by omega, by omega⟩
    simp only [trancheDue, on.startup, bind_eq_ok, require_eq_ok, okOr_eq_ok, exists_const, if_pos last]
    exact ⟨pending, date, fits, late, reported, checkedSub_eq_some.mpr ⟨rfl, unpaid.le⟩⟩
  · refine ⟨v.vault.trancheAmount, ?_, on.share, ?_⟩
    · simp only [trancheDue, on.startup, bind_eq_ok, require_eq_ok, okOr_eq_ok, exists_const, if_neg last, pure_eq_ok]
      exact ⟨pending, date, fits, late, reported, trivial⟩
    · have advanced := @onSchedule_released v v.vault.trancheAmount on active (by rw [if_neg last])
      rw [if_neg last] at advanced
      calc v.vault.released + v.vault.trancheAmount = v.vault.trancheAmount * (v.vault.tranchesReleased + 1) := advanced
        _ ≤ v.vault.trancheAmount * v.vault.numTranches := Nat.mul_le_mul_left _ pending
        _ ≤ v.vault.totalAmount := Nat.mul_comm v.vault.trancheAmount _ ▸ on.whole

theorem release_agrees (on : OnSchedule v) (bounded : Bounded v) (current : v.vault.version = 2) (clock : now < 2 ^ 63) :
    nextReleaseReady v.vault now = true ↔ ∃ released, releasePayout v.vault 0 false false now = .ok released := by
  have reached := date_fits_iff bounded.begun clock v.vault.tranchesReleased
  unfold nextReleaseReady
  constructor
  · intro ready
    simp only [current, ne_eq, not_true_eq_false, false_or] at ready
    split at ready
    · cases ready
    · split at ready
      · cases ready
      · split at ready
        · cases ready
        · next active more late =>
            have active := not_not.mp active
            obtain ⟨date, fits, late⟩ := reached.mpr (Int.not_lt.mp late)
            obtain ⟨amount, due, positive, within⟩ :=
              trancheDue_succeeds on active (Nat.lt_of_not_le more) ⟨date, fits, late⟩ (of_decide_eq_true ready)
            have funds := bounded.funds
            have few := bounded.few
            simp only [releasePayout, bind_eq_ok, require_eq_ok, okOr_eq_ok, checkedAdd_eq_some, pure_eq_ok, exists_const]
            exact ⟨_, active, by decide, trivial, trivial, amount, due, positive, _, ⟨rfl, by omega⟩, _, ⟨rfl, by omega⟩, rfl⟩
  · rintro ⟨released, passes⟩
    simp only [releasePayout, trancheDue, on.startup, bind_eq_ok, require_eq_ok, okOr_eq_ok, exists_const] at passes
    obtain ⟨active, -, -, -, _, ⟨pending, date, fits, late, reported, -⟩, -⟩ := passes
    rw [if_neg (by simp [current, active]), if_neg (Nat.not_le.mpr pending),
      if_neg (Int.not_lt.mpr (reached.mp ⟨date, fits, late⟩))]
    exact decide_eq_true reported

end agreement

/-! ## The statement -/

theorem version_step {hashv : Hashv} {v v' : PayoutEscrow} {instruction : PayoutInstruction}
    (stepped : step hashv v instruction = .ok v') : v'.vault.version = v.vault.version := by
  cases step_effect stepped with
  | elsewhere quiet =>
      cases instruction with
      | claimRefund | claimInvestorYield =>
          simp only [step, bind_eq_ok, pure_eq_ok, Prod.exists] at stepped
          grind
      | routeYield isAdmin pauseFlags amount investorRoot totalWeight =>
          simp only [step, bind_eq_ok, pure_eq_ok, Prod.exists] at stepped
          obtain ⟨vault, kept, routed, rfl⟩ := stepped
          obtain ⟨-, -, -, -, founderThird, investorThird, -, rfl⟩ := routeYield_ok routed
          rfl
      | claimFounderYield founder pauseFlags issuerFrozen founderBlocked =>
          simp only [step, bind_eq_ok, pure_eq_ok, Prod.exists] at stepped
          obtain ⟨vault, amount, claimed, _, -, rfl⟩ := stepped
          obtain ⟨-, rfl⟩ := claimFounderYield_ok claimed
          rfl
      | syncPayoutFounder | inboundTransfer | tick =>
          simp only [step, pure_eq_ok] at stepped
          rw [← stepped]
      | _ => cases quiet
  | _ => rfl

def shortVault : PayoutVault := { exampleVault with numTranches := 2, trancheAmount := 50 }

/-- Two tranches, both past due: the program counts three missed periods and freezes, the front counts two. -/
theorem short_schedule_freezes :
    openPayoutVault 9 9 true .startup 0 2 100 false 0 = .ok shortVault ∧
      overduePeriods shortVault 5184000 = .ok 3 ∧ periodsOverdue shortVault 5184000 = 2 ∧
      freezeVault shortVault 5184000 = .ok { shortVault with state := .frozen } ∧
      isFreezable shortVault 5184000 = false := by
  decide +kernel

/-- Ready updates and releases are shown for every vault at any time; the count of overdue periods, and with it
the front's freeze test, is the program's only within the schedule. -/
theorem front_agrees_within_schedule {hashv : Hashv} {saleAuthority authority : Pubkey} {saleOpen issuerFrozen : Bool}
    {raiseType : RaiseType} {cliffMonths vestingMonths proceeds : Nat} {now : Int} {vault : PayoutVault}
    (clock : 0 ≤ now) (months : vestingMonths < 2 ^ 8) (funds : proceeds < 2 ^ 64)
    (created : openPayoutVault saleAuthority authority saleOpen raiseType cliffMonths vestingMonths
      proceeds issuerFrozen now = .ok vault)
    (run : Run (step hashv) (opened vault now)) :
    ∀ i ≤ run.length, ∀ t < 2 ^ 63, Agrees (run.state i).vault t ↔ WithinSchedule (run.state i).vault t := by
  intro i within t representable
  have on := onSchedule_run (onSchedule_opened created) run i within
  have bounded : Bounded (run.state i) :=
    run.invariant (bounded_opened clock months funds created) (fun _ _ _ => bounded_step) i within
  have current : (run.state i).vault.version = 2 := by
    apply run.invariant (P := fun v => v.vault.version = 2) _ (fun v instruction v' before stepped =>
      (version_step stepped).trans before) i within
    obtain ⟨-, -, rfl⟩ := openPayoutVault_ok created
    rfl
  have counts := @overdue_agrees (run.state i) t bounded.begun bounded.few on.promised representable
  constructor
  · intro agrees
    exact counts.mp agrees.overdue
  · intro scheduled
    have counted := counts.mpr scheduled
    exact
      { freezable := freezable_agrees on current counted
        update := update_agrees bounded.begun bounded.few current representable
        release := release_agrees on bounded current representable
        overdue := counted }

/-! After the first report the vault is within its schedule until its last month is over. -/

theorem front_agrees_within_schedule_example :
    Agrees (exampleRun.state 1).vault 7776000 ∧ ¬ Agrees (exampleRun.state 1).vault 10368000 := by
  have created : openPayoutVault 9 9 true .startup 0 4 100 false 0 = .ok exampleVault := rfl
  have agrees := front_agrees_within_schedule (Int.le_refl 0) (by decide) (by decide) created exampleRun 1 (by decide)
  constructor
  · exact (agrees 7776000 (by decide)).mpr (by unfold WithinSchedule; decide +kernel)
  · intro wrong
    have scheduled := (agrees 10368000 (by decide)).mp wrong
    revert scheduled
    unfold WithinSchedule
    decide +kernel

end Mancipatio.Payout
