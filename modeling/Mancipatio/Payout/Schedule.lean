import Mancipatio.Payout.Effect
import Mancipatio.Payout.Solvency

/-!
# The release schedule of a payout vault
-/

namespace Mancipatio.Payout
open Checked Execution Rows

/-! ## The schedule of every run -/

structure OnSchedule (v : PayoutEscrow) : Prop where
  startup : v.vault.raiseType = .startup
  whole : v.vault.numTranches * v.vault.trancheAmount ≤ v.vault.totalAmount
  share : 0 < v.vault.trancheAmount
  reported : v.vault.tranchesReleased ≤ v.vault.updatesPosted
  promised : v.vault.updatesPosted ≤ v.vault.numTranches
  paid : v.vault.tranchesReleased < v.vault.numTranches ∧ v.vault.state ≠ .completed ∧
      v.vault.released = v.vault.trancheAmount * v.vault.tranchesReleased ∨
    v.vault.tranchesReleased = v.vault.numTranches ∧ v.vault.state = .completed ∧
      v.vault.released = v.vault.totalAmount

theorem openPayoutVault_ok {saleAuthority authority : Pubkey} {saleOpen issuerFrozen : Bool} {raiseType : RaiseType}
    {cliffMonths vestingMonths proceeds : Nat} {now : Int} {vault : PayoutVault}
    (created : openPayoutVault saleAuthority authority saleOpen raiseType cliffMonths vestingMonths
      proceeds issuerFrozen now = .ok vault) :
    cliffMonths < vestingMonths ∧ vestingMonths - cliffMonths ≤ proceeds ∧
      vault = { founder := authority, raiseType := .startup, totalAmount := proceeds, released := 0,
                startTs := now + cliffMonths * month, numTranches := vestingMonths - cliffMonths,
                trancheAmount := proceeds / (vestingMonths - cliffMonths), tranchesReleased := 0, updatesPosted := 0,
                lastUpdateTs := 0, founderYieldClaimable := 0, investorYieldPool := 0, investorYieldRoot := 0,
                totalWeight := 0, state := .active, version := payoutStateVersion, voteRound := 0,
                votePending := false } := by
  simp only [openPayoutVault, bind_eq_ok, require_eq_ok, okOr_eq_ok, checkedAddInt_eq_some, pure_eq_ok,
    exists_const] at created
  obtain ⟨-, -, -, -, -, some, enough, _, ⟨rfl, -⟩, rfl⟩ := created
  exact ⟨some, enough, rfl⟩

theorem onSchedule_opened {saleAuthority authority : Pubkey} {saleOpen issuerFrozen : Bool} {raiseType : RaiseType}
    {cliffMonths vestingMonths proceeds : Nat} {now : Int} {vault : PayoutVault}
    (created : openPayoutVault saleAuthority authority saleOpen raiseType cliffMonths vestingMonths
      proceeds issuerFrozen now = .ok vault) : OnSchedule (opened vault now) := by
  obtain ⟨some, enough, rfl⟩ := openPayoutVault_ok created
  have several : 0 < vestingMonths - cliffMonths := Nat.sub_pos_of_lt some
  exact
    { startup := rfl
      whole := Nat.mul_div_le _ _
      share := Nat.div_pos enough several
      reported := Nat.le_refl _
      promised := Nat.zero_le _
      paid := .inl ⟨several, by simp [opened], by simp [opened]⟩ }

theorem onSchedule_released {v : PayoutEscrow} {amount : Nat} (on : OnSchedule v) (active : v.vault.state = .active)
    (exact : amount = if v.vault.tranchesReleased + 1 = v.vault.numTranches
      then v.vault.totalAmount - v.vault.released else v.vault.trancheAmount) :
    (if v.vault.tranchesReleased + 1 = v.vault.numTranches
      then v.vault.released + amount = v.vault.totalAmount
      else v.vault.released + amount = v.vault.trancheAmount * (v.vault.tranchesReleased + 1)) := by
  rcases on.paid with ⟨pending, -, sofar⟩ | ⟨-, completed, -⟩
  · split at exact
    · next last =>
        rw [if_pos last]
        have bounded : v.vault.released ≤ v.vault.totalAmount := by
          calc v.vault.released = v.vault.trancheAmount * v.vault.tranchesReleased := sofar
            _ ≤ v.vault.trancheAmount * v.vault.numTranches := Nat.mul_le_mul_left _ pending.le
            _ ≤ v.vault.totalAmount := Nat.mul_comm v.vault.trancheAmount _ ▸ on.whole
        omega
    · next more =>
        rw [if_neg more, exact, sofar, Nat.mul_succ]
  · rw [active] at completed
    cases completed

theorem onSchedule_step {hashv : Hashv} {v v' : PayoutEscrow} {instruction : PayoutInstruction}
    (on : OnSchedule v) (stepped : step hashv v instruction = .ok v') : OnSchedule v' := by
  cases step_effect stepped with
  | posted active more =>
      exact { on with
        reported := on.reported.trans (Nat.le_succ _)
        promised := more }
  | @released pauseFlags issuerFrozen founderBlocked amount escrow active pending reported exact positive =>
      have advanced := onSchedule_released on active exact
      refine { on with reported := reported, paid := ?_ }
      dsimp only
      split at advanced
      · next last =>
          rw [if_pos last]
          exact .inr ⟨last, rfl, advanced⟩
      · next more =>
          rw [if_neg more]
          exact .inl ⟨Nat.lt_of_le_of_ne pending more, by simp, advanced⟩
  | frozen active | returned stored active | extended stored active =>
      refine { on with paid := ?_ }
      rcases on.paid with ⟨pending, -, sofar⟩ | ⟨-, completed, -⟩
      · exact .inl ⟨pending, by simp, sofar⟩
      · rw [active] at completed
        cases completed
  | voteOpened | cast => exact { on with }
  | elsewhere _ same =>
      obtain ⟨raise, total, released, -, count, share, done, posted⟩ := same.schedule
      exact
        { startup := raise.trans on.startup
          whole := by
            rw [count, share, total]
            exact on.whole
          share := by
            rw [share]
            exact on.share
          reported := by
            rw [done, posted]
            exact on.reported
          promised := by
            rw [posted, count]
            exact on.promised
          paid := by
            rw [done, count, same.state, released, share, total]
            exact on.paid }

theorem onSchedule_run {hashv : Hashv} {initial : PayoutEscrow} (start : OnSchedule initial)
    (run : Run (step hashv) initial) : ∀ i ≤ run.length, OnSchedule (run.state i) := by
  apply run.invariant start
  intro v instruction v' on stepped
  exact onSchedule_step on stepped

/-! ## Machine arithmetic -/

def NoOverflow (e : RegistryError) : Prop :=
  e ≠ .overflow ∧ e ≠ .arithmeticOverflow
  deriving Decidable

structure Bounded (v : PayoutEscrow) : Prop where
  few : v.vault.numTranches < 2 ^ 8
  funds : v.vault.totalAmount < 2 ^ 64
  clock : 0 ≤ v.now
  begun : 0 ≤ v.vault.startTs
  near : v.vault.startTs ≤ v.now + 255 * month
  idle : v.vault.votePending = false → v.vault.voteRound * minVaultVotingPeriodSecs ≤ v.now
  voting : v.vault.votePending = true → ∃ vote, v.votes v.vault.voteRound = some vote ∧
    v.vault.voteRound * minVaultVotingPeriodSecs ≤ vote.endTs
  keyed : ∀ round vote, v.votes round = some vote → vote.round = round ∧ v.vault.totalWeight ≠ 0

theorem overduePeriods_ok {vault : PayoutVault} {now overdue : Int} (counted : overduePeriods vault now = .ok overdue) :
    now < vault.startTs + vault.updatesPosted * month ∧ overdue = 0 ∨
      vault.startTs + vault.updatesPosted * month ≤ now ∧
        overdue = (now - (vault.startTs + vault.updatesPosted * month)) / month + 1 := by
  simp only [overduePeriods, oldestDueTs, bind_eq_ok, okOr_eq_ok, checkedMulInt_eq_some, checkedAddInt_eq_some] at counted
  obtain ⟨_, ⟨_, ⟨rfl, -⟩, rfl, -⟩, counted⟩ := counted
  split at counted
  · next early =>
      rw [pure_eq_ok] at counted
      exact .inl ⟨early, counted.symm⟩
  · next late =>
      simp only [bind_eq_ok, okOr_eq_ok, checkedAddInt_eq_some, pure_eq_ok] at counted
      obtain ⟨_, ⟨rfl, -⟩, rfl⟩ := counted
      exact .inr ⟨Int.not_lt.mp late, rfl⟩

/-- The shift of an Extend brings the oldest due date into the month that follows. -/
theorem due_rebased {vault : PayoutVault} {now overdue : Int} (counted : overduePeriods vault now = .ok overdue) :
    now < vault.startTs + overdue * month + vault.updatesPosted * month ∧
      (vault.startTs + vault.updatesPosted * month ≤ now →
        vault.startTs + overdue * month + vault.updatesPosted * month ≤ now + month) ∧ 0 ≤ overdue := by
  rcases overduePeriods_ok counted with ⟨early, rfl⟩ | ⟨late, rfl⟩
  · refine ⟨by simpa using early, ?_, Int.le_refl _⟩
    intro due
    exact absurd due (Int.not_le.mpr early)
  · rw [Int.add_right_comm]
    generalize vault.startTs + vault.updatesPosted * month = due at late ⊢
    unfold month
    omega

theorem bounded_opened {saleAuthority authority : Pubkey} {saleOpen issuerFrozen : Bool} {raiseType : RaiseType}
    {cliffMonths vestingMonths proceeds : Nat} {now : Int} {vault : PayoutVault} (clock : 0 ≤ now)
    (months : vestingMonths < 2 ^ 8) (funds : proceeds < 2 ^ 64)
    (created : openPayoutVault saleAuthority authority saleOpen raiseType cliffMonths vestingMonths
      proceeds issuerFrozen now = .ok vault) : Bounded (opened vault now) := by
  obtain ⟨some, -, rfl⟩ := openPayoutVault_ok created
  exact
    { few := (Nat.sub_le _ _).trans_lt months
      funds := funds
      clock := clock
      begun := by
        simp only [opened, month]
        omega
      near := by
        simp only [opened, month]
        omega
      idle := by simpa [opened] using clock
      voting := by simp [opened]
      keyed := by simp [opened] }

theorem bounded_round {v : PayoutEscrow} (bounded : Bounded v) {round : Nat} {vote : VaultVote}
    (stored : v.votes round = some vote) (pending : v.vault.votePending = true)
    (current : vote.round = v.vault.voteRound) :
    v.vault.voteRound * minVaultVotingPeriodSecs ≤ vote.endTs := by
  obtain ⟨latest, found, sofar⟩ := bounded.voting pending
  rw [← current, (bounded.keyed round vote stored).1, stored] at found
  cases found
  exact sofar

theorem keyed_decided {v : PayoutEscrow} (bounded : Bounded v) {round r : Nat} {vote other : VaultVote}
    {outcome : VaultVoteOutcome} (stored : v.votes round = some vote)
    (found : Function.update v.votes round (some { vote with outcome }) r = some other) :
    other.round = r ∧ v.vault.totalWeight ≠ 0 := by
  obtain ⟨own, weighted⟩ := bounded.keyed round vote stored
  refine ⟨?_, weighted⟩
  rcases updated_row found with ⟨rfl, rfl⟩ | ⟨-, old⟩
  · exact own
  · exact (bounded.keyed r other old).1

theorem bounded_step {hashv : Hashv} {v v' : PayoutEscrow} {instruction : PayoutInstruction}
    (bounded : Bounded v) (stepped : step hashv v instruction = .ok v') : Bounded v' := by
  cases step_effect stepped with
  | posted | released | frozen => exact { bounded with }
  | @voteOpened isAdmin snapshotRoot totalWeight votingPeriod frozen idle positive same notice =>
      refine { bounded with idle := by simp, voting := ?_, keyed := ?_ }
      · intro _
        refine ⟨_, Function.update_self _ _ _, ?_⟩
        have sofar := bounded.idle idle
        unfold minVaultVotingPeriodSecs at *
        dsimp only
        push_cast
        omega
      · intro round vote found
        refine ⟨?_, positive.ne'⟩
        by_cases new : round = v.vault.voteRound + 1
        · subst new
          simp only [Function.update_self, Option.some.injEq] at found
          rw [← found]
        · exact (bounded.keyed round vote (by simpa [new] using found)).1
  | @cast round voter weight proof choice vote stored open' first frozen pending current =>
      obtain ⟨own, weighted⟩ := bounded.keyed round vote stored
      refine { bounded with voting := ?_, keyed := ?_ }
      · intro _
        obtain ⟨latest, found, sofar⟩ := bounded.voting pending
        rw [← current, own, stored] at found
        cases found
        rw [← current, own] at sofar ⊢
        refine ⟨_, Function.update_self _ _ _, ?_⟩
        cases choice <;> exact sofar
      · intro r other found
        refine ⟨?_, weighted⟩
        by_cases same : r = round
        · subst same
          simp only [Function.update_self, Option.some.injEq] at found
          rw [← found]
          cases choice <;> exact own
        · exact (bounded.keyed r other (by simpa [same] using found)).1
  | @returned round vote stored frozen pending current open' ended =>
      refine { bounded with idle := ?_, voting := by simp, keyed := ?_ }
      · intro _
        exact (bounded_round bounded stored pending current).trans ended
      · intro r other found
        exact keyed_decided bounded stored found
  | @extended round vote overdue stored frozen pending current open' ended fewer counted =>
      obtain ⟨-, within, forward⟩ := due_rebased counted
      refine { bounded with idle := ?_, voting := by simp, begun := ?_, near := ?_, keyed := ?_ }
      · have begun := bounded.begun
        unfold month at *
        dsimp only
        omega
      · have near := bounded.near
        rcases overduePeriods_ok counted with ⟨-, rfl⟩ | ⟨late, -⟩
        · simpa using near
        · have rebased := within late
          unfold month at *
          dsimp only
          omega
      · intro _
        exact (bounded_round bounded stored pending current).trans ended
      · intro r other found
        exact keyed_decided bounded stored found
  | elsewhere _ same =>
      obtain ⟨-, total, -, start, count, -, -, -⟩ := same.schedule
      have later := same.now
      exact
        { few := by
            rw [count]
            exact bounded.few
          funds := by
            rw [total]
            exact bounded.funds
          clock := bounded.clock.trans later
          begun := by
            rw [start]
            exact bounded.begun
          near := by
            rw [start]
            exact bounded.near.trans (Int.add_le_add_right later _)
          idle := by
            rw [same.votePending, same.voteRound]
            exact fun idle => (bounded.idle idle).trans later
          voting := by
            rw [same.votePending, same.voteRound, same.votes]
            exact bounded.voting
          keyed := by
            rw [same.votes]
            intro round vote stored
            obtain ⟨own, weighted⟩ := bounded.keyed round vote stored
            exact ⟨own, same.weight weighted ▸ weighted⟩ }

/-! ## No instruction overflows -/

section overflow
variable {hashv : Hashv} {v : PayoutEscrow} (on : OnSchedule v) (bounded : Bounded v)
variable (late : v.now + 511 * month < 2 ^ 63)
include on bounded late

omit on in
theorem date_fits {n : Nat} (few : n ≤ v.vault.numTranches) :
    checkedAddInt 64 v.vault.startTs (n * month) = some (v.vault.startTs + n * month) := by
  have count := bounded.few
  have begun := bounded.begun
  have near := bounded.near
  rw [checkedAddInt_eq_some]
  unfold month at *
  omega

omit on in
theorem postUpdate_raises (founder : Pubkey) : Raises NoOverflow (postUpdate v.vault founder v.now) := by
  unfold postUpdate
  refine .guard (by decide) fun _ => ?_
  refine .guard (by decide) fun _ => ?_
  refine .guard (by decide) fun more => ?_
  refine .fits (date_fits bounded late more.le) ?_
  refine .guard (by decide) fun _ => ?_
  have few := bounded.few
  refine .fits (checkedAdd_eq_some.mpr ⟨rfl, by omega⟩) ?_
  exact .pure _

theorem trancheDue_raises : Raises NoOverflow (trancheDue v.vault v.now) := by
  unfold trancheDue
  rw [on.startup]
  dsimp only
  refine .guard (by decide) fun pending => ?_
  refine .fits (date_fits bounded late pending.le) ?_
  refine .guard (by decide) fun _ => ?_
  refine .guard (by decide) fun _ => ?_
  split
  · rcases on.paid with ⟨-, -, sofar⟩ | ⟨done, -⟩
    · have covered : v.vault.released ≤ v.vault.totalAmount := by
        calc v.vault.released = v.vault.trancheAmount * v.vault.tranchesReleased := sofar
          _ ≤ v.vault.trancheAmount * v.vault.numTranches := Nat.mul_le_mul_left _ pending.le
          _ ≤ v.vault.totalAmount := Nat.mul_comm v.vault.trancheAmount _ ▸ on.whole
      intro e raised
      rw [okOr_eq_error, checkedSub, if_pos covered] at raised
      cases raised.1
    · exact absurd done pending.ne
  · exact .pure _

theorem releasePayout_raises (pauseFlags : PauseFlags) (issuerFrozen founderBlocked : Bool) :
    Raises NoOverflow (releasePayout v.vault pauseFlags issuerFrozen founderBlocked v.now) := by
  unfold releasePayout
  refine .guard (by decide) fun active => ?_
  refine .guard (by decide) fun _ => ?_
  refine .guard (by decide) fun _ => ?_
  refine .guard (by decide) fun _ => ?_
  refine .bind (trancheDue_raises on bounded late) ?_
  intro amount due
  refine .guard (by decide) fun _ => ?_
  obtain ⟨pending, exact⟩ := trancheDue_ok due
  have advanced := onSchedule_released on active exact
  have within : v.vault.released + amount ≤ v.vault.totalAmount := by
    split at advanced
    · exact advanced.le
    · calc v.vault.released + amount = v.vault.trancheAmount * (v.vault.tranchesReleased + 1) := advanced
        _ ≤ v.vault.trancheAmount * v.vault.numTranches := Nat.mul_le_mul_left _ pending
        _ ≤ v.vault.totalAmount := Nat.mul_comm v.vault.trancheAmount _ ▸ on.whole
  have funds := bounded.funds
  have few := bounded.few
  refine .fits (checkedAdd_eq_some.mpr ⟨rfl, by omega⟩) ?_
  refine .fits (checkedAdd_eq_some.mpr ⟨rfl, by omega⟩) ?_
  exact .pure _

theorem overduePeriods_raises : Raises NoOverflow (overduePeriods v.vault v.now) := by
  have count := bounded.few
  have posted := on.promised
  have date := date_fits bounded late on.promised
  have clock := bounded.clock
  have begun := bounded.begun
  unfold overduePeriods oldestDueTs
  rw [bind_assoc]
  refine .fits (checkedMulInt_eq_some.mpr ⟨rfl, ?_⟩) ?_
  · unfold month
    omega
  refine .fits date ?_
  split
  · exact .pure _
  · refine .fits (checkedAddInt_eq_some.mpr ⟨rfl, ?_⟩) (.pure _)
    unfold month at *
    omega

theorem freezeVault_raises : Raises NoOverflow (freezeVault v.vault v.now) := by
  unfold freezeVault
  refine .guard (by decide) fun _ => ?_
  refine .guard (by decide) fun _ => ?_
  refine .bind (overduePeriods_raises on bounded late) ?_
  intro overdue _
  exact .guard (by decide) fun _ => .pure _

omit on in
theorem openVaultVote_raises {isAdmin : Bool} {snapshotRoot : Hash} {totalWeight : Nat} {votingPeriod : Int}
    (period : v.now + votingPeriod < 2 ^ 63) :
    Raises NoOverflow (openVaultVote v.vault isAdmin snapshotRoot totalWeight votingPeriod v.now) := by
  unfold openVaultVote
  refine .guard (by decide) fun _ => ?_
  refine .guard (by decide) fun _ => ?_
  refine .guard (by decide) fun _ => ?_
  refine .guard (by decide) fun idle => ?_
  have rounds := bounded.idle idle
  have clock := bounded.clock
  unfold minVaultVotingPeriodSecs month at *
  refine .fits (checkedAdd_eq_some.mpr ⟨rfl, by omega⟩) ?_
  refine .guard (by decide) fun positive => ?_
  refine .guard (by decide) fun _ => ?_
  refine .fits (checkedAddInt_eq_some.mpr ⟨rfl, by omega⟩) ?_
  exact .guard (by decide) fun _ => .pure _

theorem finalizeVaultVote_raises (vote : VaultVote) : Raises NoOverflow (finalizeVaultVote v.vault vote v.now) := by
  unfold finalizeVaultVote
  refine .guard (by decide) fun _ => ?_
  refine .guard (by decide) fun _ => ?_
  refine .guard (by decide) fun _ => ?_
  refine .guard (by decide) fun _ => ?_
  refine .guard (by decide) fun _ => ?_
  split
  · exact .pure _
  · refine .bind (overduePeriods_raises on bounded late) ?_
    intro overdue counted
    obtain ⟨-, within, forward⟩ := due_rebased counted
    have clock := bounded.clock
    have begun := bounded.begun
    have near := bounded.near
    have shifted : v.vault.startTs + overdue * month ≤ v.now + 255 * month := by
      rcases overduePeriods_ok counted with ⟨-, rfl⟩ | ⟨due, -⟩
      · simpa using near
      · have rebased := within due
        unfold month at *
        omega
    unfold month at *
    refine .fits (checkedMulInt_eq_some.mpr ⟨rfl, by omega⟩) ?_
    exact .fits (checkedAddInt_eq_some.mpr ⟨rfl, by omega⟩) (.pure _)

end overflow

theorem castVaultVote_raises {hashv : Hashv} {vault : PayoutVault} {vote : VaultVote} {recorded : Bool} {voter : Pubkey}
    {weight : BitVec 64} {proof : List Hash} {choice : VaultVoteChoice} {now : Int}
    (fits : vote.returnWeight + vote.extendWeight + weight.toNat < 2 ^ 64) :
    Raises NoOverflow (castVaultVote hashv vault vote recorded voter weight proof choice now) := by
  unfold castVaultVote
  refine .guard (by decide) fun _ => ?_
  refine .guard (by decide) fun _ => ?_
  refine .guard (by decide) fun _ => ?_
  refine .guard (by decide) fun _ => ?_
  refine .guard (by decide) fun _ => ?_
  refine .guard (by decide) fun _ => ?_
  refine .guard (by decide) fun _ => ?_
  refine .fits (checkedAdd_eq_some.mpr ⟨rfl, by omega⟩) ?_
  refine .fits (checkedAdd_eq_some.mpr ⟨rfl, fits⟩) ?_
  refine .guard (by decide) fun _ => ?_
  cases choice with
  | returnCapital => exact .fits (checkedAdd_eq_some.mpr ⟨rfl, by omega⟩) (.pure _)
  | extend => exact .fits (checkedAdd_eq_some.mpr ⟨rfl, by omega⟩) (.pure _)

theorem claimRefund_raises {hashv : Hashv} {vault : PayoutVault} {vote : VaultVote} {claimed : Nat} {investor : Pubkey}
    {weight : BitVec 64} {proof : List Hash} (funds : vault.totalAmount < 2 ^ 64)
    (covered : vault.released ≤ vault.totalAmount) (weighted : vault.totalWeight ≠ 0) :
    Raises NoOverflow (claimRefund hashv vault vote claimed investor weight proof) := by
  unfold claimRefund
  refine .guard (by decide) fun _ => ?_
  refine .guard (by decide) fun _ => ?_
  refine .guard (by decide) fun _ => ?_
  refine .guard (by decide) fun _ => ?_
  refine .guard (by decide) fun _ => ?_
  refine .guard (by decide) fun _ => ?_
  refine .fits (checkedSub_eq_some.mpr ⟨rfl, covered⟩) ?_
  have small : vault.totalAmount - vault.released < 2 ^ 64 := by omega
  have product : weight.toNat * (vault.totalAmount - vault.released) < 2 ^ 128 := by
    calc weight.toNat * (vault.totalAmount - vault.released) < 2 ^ 64 * 2 ^ 64 :=
          Nat.mul_lt_mul_of_lt_of_le weight.isLt small.le (by decide)
      _ = 2 ^ 128 := by norm_num
  unfold poolShare
  rw [bind_assoc]
  refine .fits (checkedMul_eq_some.mpr ⟨rfl, product⟩) ?_
  rw [bind_assoc]
  refine .fits (checkedDiv_eq_some.mpr ⟨rfl, weighted⟩) ?_
  rw [pure_bind]
  exact .guard (by decide) fun _ => .pure _

def PayoutInstruction.ofSchedule : PayoutInstruction → Bool
  | .postUpdate _ | .releasePayout _ _ _ | .freezeVault | .openVaultVote _ _ _ _ | .castVaultVote _ _ _ _ _
  | .finalizeVaultVote _ | .claimRefund _ _ _ _ => true
  | _ => false

/-- The voting period ends at a representable date, and the weights of a vote at a representable sum. -/
def ArgumentsFit (v : PayoutEscrow) : PayoutInstruction → Prop
  | .openVaultVote _ _ _ votingPeriod => v.now + votingPeriod < 2 ^ 63
  | .castVaultVote round _ weight _ _ =>
      ∀ vote, v.votes round = some vote → vote.returnWeight + vote.extendWeight + weight.toNat < 2 ^ 64
  | _ => True

theorem released_covered {v : PayoutEscrow} (on : OnSchedule v) : v.vault.released ≤ v.vault.totalAmount := by
  rcases on.paid with ⟨pending, -, sofar⟩ | ⟨-, -, all⟩
  · calc v.vault.released = v.vault.trancheAmount * v.vault.tranchesReleased := sofar
      _ ≤ v.vault.trancheAmount * v.vault.numTranches := Nat.mul_le_mul_left _ pending.le
      _ ≤ v.vault.totalAmount := Nat.mul_comm v.vault.trancheAmount _ ▸ on.whole
  · exact all.le

theorem pay_raises (escrow amount : Nat) : Raises NoOverflow (pay escrow amount) :=
  .okOr (by decide)

theorem step_raises {hashv : Hashv} {v : PayoutEscrow} {instruction : PayoutInstruction} (on : OnSchedule v)
    (bounded : Bounded v) (late : v.now + 511 * month < 2 ^ 63) (scheduled : instruction.ofSchedule = true)
    (fits : ArgumentsFit v instruction) : Raises NoOverflow (step hashv v instruction) := by
  cases instruction with
  | postUpdate founder => exact .bind (postUpdate_raises bounded late founder) fun _ _ => .pure _
  | releasePayout pauseFlags issuerFrozen founderBlocked =>
      refine .bind (releasePayout_raises on bounded late pauseFlags issuerFrozen founderBlocked) ?_
      intro _ _
      exact .bind (pay_raises _ _) fun _ _ => .pure _
  | freezeVault => exact .bind (freezeVault_raises on bounded late) fun _ _ => .pure _
  | openVaultVote => exact .bind (openVaultVote_raises bounded late fits) fun _ _ => .pure _
  | castVaultVote round voter weight proof choice =>
      refine .bind (.okOr (by decide)) ?_
      intro vote stored
      rw [okOr_eq_ok] at stored
      exact .bind (castVaultVote_raises (fits vote stored)) fun _ _ => .pure _
  | finalizeVaultVote round =>
      refine .bind (.okOr (by decide)) ?_
      intro vote _
      exact .bind (finalizeVaultVote_raises on bounded late vote) fun _ _ => .pure _
  | claimRefund round investor weight proof =>
      refine .bind (.okOr (by decide)) ?_
      intro vote stored
      rw [okOr_eq_ok] at stored
      have weighted := (bounded.keyed round vote stored).2
      refine .bind (claimRefund_raises bounded.funds (released_covered on) weighted) ?_
      intro _ _
      exact .bind (pay_raises _ _) fun _ _ => .pure _
  | _ => cases scheduled

/-! ## The statement -/

/-- Tranches follow updates, pay `trancheAmount` each and the whole remainder with the last, which alone
completes the vault. A release is never empty and needs an active vault. Where the committed snapshots are
honest, refunds stay within what was not released. No arithmetic fails before the end of the calendar. -/
theorem payout_release_schedule {hashv : Hashv} {saleAuthority authority : Pubkey} {saleOpen issuerFrozen : Bool}
    {raiseType : RaiseType} {cliffMonths vestingMonths proceeds : Nat} {now : Int} {vault : PayoutVault}
    (created : openPayoutVault saleAuthority authority saleOpen raiseType cliffMonths vestingMonths
      proceeds issuerFrozen now = .ok vault)
    (run : Run (step hashv) (opened vault now)) :
    (∀ i ≤ run.length, OnSchedule (run.state i)) ∧
    (∀ i < run.length, ∀ pauseFlags issuerFrozen founderBlocked,
      run.label i = .releasePayout pauseFlags issuerFrozen founderBlocked →
      (run.state i).vault.state = .active ∧ ∃ amount, 0 < amount ∧
        (run.state (i + 1)).vault.released = (run.state i).vault.released + amount ∧
        (run.state (i + 1)).escrow + amount = (run.state i).escrow) ∧
    (∀ S : Set (List UInt8), Set.InjOn hashv S → (∀ i < run.length, Admissible hashv S (run.label i)) →
      ∀ i ≤ run.length, (run.state i).vault.released + refunded (run.state i) ≤ (run.state i).vault.totalAmount) ∧
    (0 ≤ now → vestingMonths < 2 ^ 8 → proceeds < 2 ^ 64 → ∀ i ≤ run.length, (run.state i).now + 511 * month < 2 ^ 63 →
      ∀ instruction, instruction.ofSchedule = true → ArgumentsFit (run.state i) instruction →
        Raises NoOverflow (step hashv (run.state i) instruction)) := by
  have on := onSchedule_run (onSchedule_opened created) run
  refine ⟨on, ?_, ?_, ?_⟩
  · intro i within pauseFlags issuerFrozen founderBlocked label
    have stepped := run.next i within
    rw [label] at stepped
    generalize run.state (i + 1) = after at stepped ⊢
    cases releasePayout_effect stepped with
    | @released _ _ _ amount escrow active _ _ _ positive balance => exact ⟨active, amount, positive, rfl, balance⟩
    | elsewhere quiet => cases quiet
  · intro S collisionFree admissible i within
    have solvent := solvent_run (solvent_opened created) collisionFree run admissible i within
    have released := released_le solvent
    have refunds := refunded_le solvent
    omega
  · intro clock months funds i within late instruction scheduled fits
    have bounded : Bounded (run.state i) := by
      apply run.invariant (bounded_opened clock months funds created) _ i within
      intro v instruction v' bounded stepped
      exact bounded_step bounded stepped
    exact step_raises (on i within) bounded late scheduled fits

/-! A snapshot of weights 200 and 1, stated to weigh 100, refunds more principal than the vault holds. -/

def heavyLeaf : Hash := 0x3300bdd35f991abf2ec0f242d545ec18fc69e3f54c5d50e4de65525ea9cc8743
def lightLeaf : Hash := 0x4addefcc88f86afc4435cc9d384eaac16e339b6d05fa8ca02c85c5ab1159271f
def heavyRoot : Hash := 0xb7985d7a22fb87825260cb88492c31399bac4562ecae5f6ae8792bfcc02bef2d

/-- SHA-256 on the three strings that the snapshot hashes. -/
def heavyHashv : Hashv := fun x =>
  if x = snapshotBytes (1, 200) then heavyLeaf
  else if x = snapshotBytes (2, 1) then lightLeaf
  else if x = keyBytes heavyLeaf ++ keyBytes lightLeaf then heavyRoot
  else 0

def heavyRun : Run (step heavyHashv) (opened exampleVault 0) :=
  .ofLabels _ _
    [.postUpdate 9, .releasePayout 0 false false, .inboundTransfer 100, .tick 7776000, .freezeVault,
      .openVaultVote true heavyRoot 100 604800, .castVaultVote 1 2 1 [heavyLeaf] .returnCapital, .tick 604800,
      .finalizeVaultVote 1, .claimRefund 1 1 200 [lightLeaf]]
    rfl

/-- A vault opened in the last second of the calendar, whose second update has no date. -/
def lateRun : Run (step heavyHashv) (opened { exampleVault with startTs := 2 ^ 63 - 1 } (2 ^ 63 - 1)) :=
  .ofLabels _ _ [.postUpdate 9] rfl

theorem schedule_exceeded :
    (¬ ∀ i ≤ heavyRun.length,
      (heavyRun.state i).vault.released + refunded (heavyRun.state i) ≤ (heavyRun.state i).vault.totalAmount) ∧
    ¬ ∀ i ≤ lateRun.length, Raises NoOverflow (step heavyHashv (lateRun.state i) (.postUpdate 9)) := by
  constructor
  · intro within
    have exceeds : 175 ≤ 100 := within 10 (by decide)
    exact absurd exceeds (by decide)
  · intro safe
    have failed : step heavyHashv (lateRun.state 1) (.postUpdate 9) = .error .arithmeticOverflow := rfl
    exact (safe 1 (by decide) _ failed).2 rfl

theorem payout_release_schedule_example :
    OnSchedule (exampleRun.state 11) ∧
      Raises NoOverflow (step exampleHashv (exampleRun.state 1) (.releasePayout 0 false false)) := by
  have created : openPayoutVault 9 9 true .startup 0 4 100 false 0 = .ok exampleVault := rfl
  have schedule := payout_release_schedule created exampleRun
  exact ⟨schedule.1 11 (by decide), schedule.2.2.2 (by decide) (by decide) (by decide) 1 (by decide) (by decide)
    _ rfl trivial⟩

end Mancipatio.Payout
