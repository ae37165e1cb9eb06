import Mancipatio.Payout.Schedule

/-!
# Freezes, vote rounds and extensions of a payout vault
-/

namespace Mancipatio.Payout
open Checked Execution Rows

/-! ## The books of the votes -/

def recorded (records : List VaultVoteRecord) (round : Nat) (choice : VaultVoteChoice) : Nat :=
  ((records.filter fun r => r.round = round ∧ r.choice = choice).map VaultVoteRecord.weight).sum

theorem recorded_append {records : List VaultVoteRecord} {record : VaultVoteRecord} (round : Nat)
    (choice : VaultVoteChoice) :
    recorded (records ++ [record]) round choice =
      recorded records round choice + if record.round = round ∧ record.choice = choice then record.weight else 0 := by
  unfold recorded
  rw [List.filter_append, List.map_append, List.sum_append]
  split
  · next counts => simp [counts]
  · next other => simp [other]

structure Counted (v : PayoutEscrow) : Prop where
  stored : ∀ round vote, v.votes round = some vote → vote.round = round ∧ round ≤ v.vault.voteRound
  undecided : ∀ round vote, v.votes round = some vote → vote.outcome = .pending →
    v.vault.votePending = true ∧ round = v.vault.voteRound
  voting : v.vault.votePending = true → v.vault.state = .frozen
  returned : ∀ round vote, v.votes round = some vote → vote.outcome = .returnCapital → v.vault.state = .cancelled
  distinct : (v.voteRecords.map fun r => (r.round, r.voter)).Nodup
  rounds : ∀ r ∈ v.voteRecords, r.round ≤ v.vault.voteRound
  tallied : ∀ round vote, v.votes round = some vote →
    vote.returnWeight = recorded v.voteRecords round .returnCapital ∧
      vote.extendWeight = recorded v.voteRecords round .extend
  weights : ∀ round vote, v.votes round = some vote →
    v.vault.totalWeight ≠ 0 ∧ vote.returnWeight + vote.extendWeight ≤ v.vault.totalWeight

theorem counted_opened (vault : PayoutVault) (now : Int) (fresh : vault.votePending = false) :
    Counted (opened vault now) where
  stored := by simp [opened]
  undecided := by simp [opened]
  voting := by simp [opened, fresh]
  returned := by simp [opened]
  distinct := by simp [opened]
  rounds := by simp [opened]
  tallied := by simp [opened]
  weights := by simp [opened]

theorem recorded_new {records : List VaultVoteRecord} {last : Nat} (rounds : ∀ r ∈ records, r.round ≤ last)
    (choice : VaultVoteChoice) : recorded records (last + 1) choice = 0 := by
  have none : (records.filter fun r => r.round = last + 1 ∧ r.choice = choice) = [] := by
    apply List.filter_eq_nil_iff.mpr
    intro r member
    have early := rounds r member
    simp only [decide_eq_true_eq, not_and]
    intro same
    omega
  rw [recorded, none]
  rfl

theorem counted_voteOpened {v : PayoutEscrow} {snapshotRoot : Hash} {totalWeight : Nat} {votingPeriod : Int}
    (counted : Counted v) (frozen : v.vault.state = .frozen) (idle : v.vault.votePending = false)
    (positive : 0 < totalWeight) (same : v.vault.totalWeight = 0 ∨ v.vault.totalWeight = totalWeight) :
    Counted { v with
      vault := { v.vault with voteRound := v.vault.voteRound + 1, votePending := true, totalWeight }
      votes := Function.update v.votes (v.vault.voteRound + 1) (some
        { round := v.vault.voteRound + 1, snapshotRoot, startTs := v.now, endTs := v.now + votingPeriod,
          returnWeight := 0, extendWeight := 0, outcome := .pending, version := payoutStateVersion }) } where
  stored := by
    intro r other found
    rcases updated_row found with ⟨rfl, rfl⟩ | ⟨-, old⟩
    · exact ⟨rfl, Nat.le_refl _⟩
    · exact ⟨(counted.stored r other old).1, (counted.stored r other old).2.trans (Nat.le_succ _)⟩
  undecided := by
    intro r other found pending
    rcases updated_row found with ⟨rfl, rfl⟩ | ⟨-, old⟩
    · exact ⟨rfl, rfl⟩
    · have voting := (counted.undecided r other old pending).1
      rw [idle] at voting
      cases voting
  voting := fun _ => frozen
  returned := by
    intro r other found decided
    rcases updated_row found with ⟨rfl, rfl⟩ | ⟨-, old⟩
    · cases decided
    · exact counted.returned r other old decided
  distinct := counted.distinct
  rounds := fun r member => (counted.rounds r member).trans (Nat.le_succ _)
  tallied := by
    intro r other found
    rcases updated_row found with ⟨rfl, rfl⟩ | ⟨-, old⟩
    · exact ⟨(recorded_new counted.rounds _).symm, (recorded_new counted.rounds _).symm⟩
    · exact counted.tallied r other old
  weights := by
    intro r other found
    refine ⟨positive.ne', ?_⟩
    rcases updated_row found with ⟨rfl, rfl⟩ | ⟨-, old⟩
    · exact Nat.zero_le _
    · obtain ⟨weighted, within⟩ := counted.weights r other old
      exact same.resolve_left weighted ▸ within

theorem counted_cast {v : PayoutEscrow} {round : Nat} {voter : Pubkey} {weight : Nat} {choice : VaultVoteChoice}
    {vote : VaultVote} (counted : Counted v) (stored : v.votes round = some vote) (pending : vote.outcome = .pending)
    (first : ∀ r ∈ v.voteRecords, ¬ (r.round = round ∧ r.voter = voter))
    (within : vote.returnWeight + vote.extendWeight + weight ≤ v.vault.totalWeight) :
    Counted { v with
      votes := Function.update v.votes round (some (tally vote weight choice))
      voteRecords := v.voteRecords ++ [{ round := vote.round, voter, weight, choice }] } := by
  obtain ⟨own, bounded⟩ := counted.stored round vote stored
  have kept : (tally vote weight choice).round = vote.round ∧ (tally vote weight choice).outcome = vote.outcome := by
    cases choice <;> exact ⟨rfl, rfl⟩
  refine { counted with
    stored := ?_, undecided := ?_, returned := ?_, distinct := ?_, rounds := ?_, tallied := ?_, weights := ?_ }
  · intro r other found
    rcases updated_row found with ⟨rfl, rfl⟩ | ⟨-, old⟩
    · exact ⟨kept.1.trans own, bounded⟩
    · exact counted.stored r other old
  · intro r other found undecided
    rcases updated_row found with ⟨rfl, rfl⟩ | ⟨-, old⟩
    · exact counted.undecided r vote stored pending
    · exact counted.undecided r other old undecided
  · intro r other found decided
    rcases updated_row found with ⟨rfl, rfl⟩ | ⟨-, old⟩
    · rw [kept.2, pending] at decided
      cases decided
    · exact counted.returned r other old decided
  · rw [List.map_append]
    apply List.nodup_append.mpr
    refine ⟨counted.distinct, List.nodup_singleton _, ?_⟩
    intro pair member other last same
    obtain ⟨r, found, rfl⟩ := List.mem_map.mp member
    rw [List.map_singleton, List.mem_singleton] at last
    rw [last, Prod.mk.injEq] at same
    exact first r found ⟨same.1.trans own, same.2⟩
  · intro r member
    rcases List.mem_append.mp member with old | new
    · exact counted.rounds r old
    · rw [List.mem_singleton.mp new, own]
      exact bounded
  · intro r other found
    rw [recorded_append, recorded_append]
    rcases updated_row found with ⟨rfl, rfl⟩ | ⟨apart, old⟩
    · obtain ⟨returns, extends'⟩ := counted.tallied r vote stored
      rw [← returns, ← extends']
      cases choice <;> simp [tally, own]
    · have elsewhere : vote.round ≠ r := fun same => apart (same.symm.trans own)
      rw [if_neg (fun same => elsewhere same.1), if_neg (fun same => elsewhere same.1)]
      exact counted.tallied r other old
  · intro r other found
    rcases updated_row found with ⟨rfl, rfl⟩ | ⟨-, old⟩
    · refine ⟨(counted.weights r vote stored).1, ?_⟩
      cases choice <;> simp only [tally] <;> omega
    · exact counted.weights r other old

theorem counted_decided {v : PayoutEscrow} {round : Nat} {vote : VaultVote} {startTs : Int}
    {outcome : VaultVoteOutcome} {state : PayoutVaultState} (counted : Counted v) (stored : v.votes round = some vote)
    (frozen : v.vault.state = .frozen) (current : vote.round = v.vault.voteRound) (decided : outcome ≠ .pending)
    (returns : outcome = .returnCapital → state = .cancelled) :
    Counted { v with
      vault := { v.vault with votePending := false, startTs, state }
      votes := Function.update v.votes round (some { vote with outcome }) } := by
  refine { counted with
    stored := ?_, undecided := ?_, voting := by simp, returned := ?_, tallied := ?_, weights := ?_ }
  · intro r other found
    rcases updated_row found with ⟨rfl, rfl⟩ | ⟨-, old⟩
    · exact counted.stored r vote stored
    · exact counted.stored r other old
  · intro r other found undecided
    rcases updated_row found with ⟨rfl, rfl⟩ | ⟨apart, old⟩
    · exact absurd undecided decided
    · have latest := (counted.undecided r other old undecided).2
      have own := (counted.stored round vote stored).1
      exact absurd (latest.trans (current.symm.trans own)) apart
  · intro r other found back
    rcases updated_row found with ⟨rfl, rfl⟩ | ⟨-, old⟩
    · exact returns back
    · have cancelled := counted.returned r other old back
      rw [frozen] at cancelled
      cases cancelled
  · intro r other found
    rcases updated_row found with ⟨rfl, rfl⟩ | ⟨-, old⟩
    · exact counted.tallied r vote stored
    · exact counted.tallied r other old
  · intro r other found
    rcases updated_row found with ⟨rfl, rfl⟩ | ⟨-, old⟩
    · exact counted.weights r vote stored
    · exact counted.weights r other old

theorem counted_step {hashv : Hashv} {v v' : PayoutEscrow} {instruction : PayoutInstruction} (counted : Counted v)
    (stepped : step hashv v instruction = .ok v') : Counted v' := by
  cases step_effect stepped with
  | posted => exact { counted with }
  | @released _ _ _ amount escrow active =>
      have quiet : v.vault.votePending = false := by
        by_contra pending
        have frozen := counted.voting (Bool.of_not_eq_false pending)
        rw [active] at frozen
        cases frozen
      refine { counted with voting := ?_, returned := ?_ }
      · rw [quiet]
        simp
      · intro round vote found back
        have cancelled := counted.returned round vote found back
        rw [active] at cancelled
        cases cancelled
  | frozen active =>
      refine { counted with voting := fun _ => rfl, returned := ?_ }
      intro round vote found back
      have cancelled := counted.returned round vote found back
      rw [active] at cancelled
      cases cancelled
  | voteOpened frozen idle positive same => exact counted_voteOpened counted frozen idle positive same
  | cast stored pending first _ _ _ _ within => exact counted_cast counted stored pending first within
  | returned stored frozen _ current =>
      exact counted_decided counted stored frozen current (by simp) fun _ => rfl
  | extended stored frozen _ current =>
      exact counted_decided counted stored frozen current (by simp) fun back => by cases back
  | elsewhere _ same =>
      exact
        { stored := by
            rw [same.votes, same.voteRound]
            exact counted.stored
          undecided := by
            rw [same.votes, same.voteRound, same.votePending]
            exact counted.undecided
          voting := by
            rw [same.votePending, same.state]
            exact counted.voting
          returned := by
            rw [same.votes, same.state]
            exact counted.returned
          distinct := by
            rw [same.voteRecords]
            exact counted.distinct
          rounds := by
            rw [same.voteRecords, same.voteRound]
            exact counted.rounds
          tallied := by
            rw [same.votes, same.voteRecords]
            exact counted.tallied
          weights := by
            rw [same.votes]
            intro round vote stored
            obtain ⟨weighted, within⟩ := counted.weights round vote stored
            rw [same.weight weighted]
            exact ⟨weighted, within⟩ }

/-! ## A decided round stays as it is -/

theorem decided_step {hashv : Hashv} {v v' : PayoutEscrow} {instruction : PayoutInstruction} {round : Nat}
    {vote : VaultVote} (counted : Counted v) (stored : v.votes round = some vote) (decided : vote.outcome ≠ .pending)
    (stepped : step hashv v instruction = .ok v') : v'.votes round = some vote := by
  have early := (counted.stored round vote stored).2
  -- The rounds that a cast and a decision rewrite are pending.
  have apart : ∀ {r other}, v.votes r = some other → other.outcome = .pending → round ≠ r := by
    intro r other found pending same
    subst same
    rw [stored] at found
    cases found
    exact decided pending
  cases step_effect stepped with
  | posted | released | frozen => exact stored
  | voteOpened =>
      have older : round ≠ v.vault.voteRound + 1 := by omega
      exact (Function.update_of_ne older _ _).trans stored
  | cast found pending => exact (Function.update_of_ne (apart found pending) _ _).trans stored
  | returned found _ _ _ pending | extended found _ _ _ pending =>
      exact (Function.update_of_ne (apart found pending) _ _).trans stored
  | elsewhere _ same => exact (congrFun same.votes round).trans stored

section history
variable {hashv : Hashv} {initial : PayoutEscrow} (start : Counted initial) (run : Run (step hashv) initial)
include start

theorem counted_run : ∀ i ≤ run.length, Counted (run.state i) := by
  apply run.invariant start
  intro v instruction v' counted stepped
  exact counted_step counted stepped

theorem decided_run {first : Nat} {round : Nat} {vote : VaultVote}
    (stored : (run.state first).votes round = some vote) (decided : vote.outcome ≠ .pending) :
    ∀ i ≤ run.length, first ≤ i → (run.state i).votes round = some vote := by
  apply run.invariant_from (P := fun v => v.votes round = some vote) stored
  intro i within _ kept
  exact decided_step (counted_run start run i within.le) kept decided (run.next i within)

omit start in
theorem finalized_decided {i round : Nat} (within : i < run.length) (label : run.label i = .finalizeVaultVote round) :
    ∃ vote, (run.state (i + 1)).votes round = some vote ∧ vote.outcome ≠ .pending := by
  have stepped := run.next i within
  rw [label] at stepped
  generalize run.state (i + 1) = after at stepped ⊢
  cases finalizeVaultVote_effect stepped with
  | returned | extended => exact ⟨_, Function.update_self _ _ _, by simp⟩
  | elsewhere quiet => cases quiet

theorem finalized_once {i j round : Nat} (within : j < run.length) (before : i < j)
    (label : run.label i = .finalizeVaultVote round) : run.label j ≠ .finalizeVaultVote round := by
  intro again
  obtain ⟨vote, stored, decided⟩ := finalized_decided run (before.trans within) label
  have kept := decided_run start run stored decided j within.le before
  have stepped := run.next j within
  rw [again] at stepped
  generalize run.state (j + 1) = after at stepped
  have pending : ∀ {other}, (run.state j).votes round = some other → other.outcome ≠ .pending := by
    intro other found
    rw [kept] at found
    cases found
    exact decided
  cases finalizeVaultVote_effect stepped with
  | returned found _ _ _ undecided | extended found _ _ _ undecided => exact pending found undecided
  | elsewhere quiet => cases quiet

theorem extended_before {first round : Nat} {vote : VaultVote} (within : first < run.length)
    (label : run.label first = .freezeVault) (stored : (run.state first).votes round = some vote) :
    vote.outcome = .extend := by
  have counted := counted_run start run first within.le
  have stepped := run.next first within
  rw [label] at stepped
  generalize run.state (first + 1) = after at stepped
  cases freezeVault_effect stepped with
  | frozen active =>
      cases outcome : vote.outcome with
      | extend => rfl
      | pending =>
          have frozen := counted.voting (counted.undecided round vote stored outcome).1
          rw [active] at frozen
          cases frozen
      | returnCapital =>
          have cancelled := counted.returned round vote stored outcome
          rw [active] at cancelled
          cases cancelled
  | elsewhere quiet => cases quiet

theorem old_round_dead {first round j : Nat} {vote : VaultVote} (within : first < run.length)
    (label : run.label first = .freezeVault) (stored : (run.state first).votes round = some vote)
    (after : first ≤ j) (upto : j ≤ run.length) :
    (step hashv (run.state j) (.finalizeVaultVote round)).isOk = false ∧
      ∀ investor weight proof, (step hashv (run.state j) (.claimRefund round investor weight proof)).isOk = false := by
  have outcome := extended_before start run within label stored
  have kept := decided_run start run stored (by simp [outcome]) j upto after
  constructor
  · cases stepped : step hashv (run.state j) (.finalizeVaultVote round) with
    | error => rfl
    | ok next =>
        cases finalizeVaultVote_effect stepped with
        | returned found _ _ _ pending | extended found _ _ _ pending =>
            rw [kept] at found
            cases found
            rw [outcome] at pending
            cases pending
        | elsewhere quiet => cases quiet
  · intro investor weight proof
    cases stepped : step hashv (run.state j) (.claimRefund round investor weight proof) with
    | error => rfl
    | ok next =>
        simp only [step, bind_eq_ok, okOr_eq_ok, pure_eq_ok, Prod.exists] at stepped
        obtain ⟨other, found, claim, payout, claimed, -⟩ := stepped
        simp only [claimRefund, bind_eq_ok, require_eq_ok, exists_const] at claimed
        obtain ⟨-, -, -, ⟨-, returns⟩, -⟩ := claimed
        rw [kept] at found
        cases found
        rw [outcome] at returns
        cases returns

end history

theorem totalWeight_step {hashv : Hashv} {v v' : PayoutEscrow} {instruction : PayoutInstruction}
    (weighed : v.vault.totalWeight ≠ 0) (stepped : step hashv v instruction = .ok v') :
    v'.vault.totalWeight = v.vault.totalWeight := by
  cases step_effect stepped with
  | posted | released | frozen | cast | returned | extended => rfl
  | voteOpened _ _ _ same => exact (same.resolve_left weighed).symm
  | elsewhere _ same => exact same.weight weighed

theorem totalWeight_run {hashv : Hashv} {initial : PayoutEscrow} (run : Run (step hashv) initial) {i j : Nat}
    {isAdmin : Bool} {snapshotRoot : Hash} {totalWeight : Nat} {votingPeriod : Int} (within : j ≤ run.length)
    (before : i < j) (label : run.label i = .openVaultVote isAdmin snapshotRoot totalWeight votingPeriod) :
    (run.state j).vault.totalWeight = totalWeight := by
  have stepped := run.next i (before.trans_le within)
  rw [label] at stepped
  have weighed : totalWeight ≠ 0 ∧ (run.state (i + 1)).vault.totalWeight = totalWeight := by
    generalize run.state (i + 1) = after at stepped ⊢
    cases openVaultVote_effect stepped with
    | voteOpened _ _ positive => exact ⟨positive.ne', rfl⟩
    | elsewhere quiet => cases quiet
  refine run.invariant_from (P := fun v => v.vault.totalWeight = totalWeight) weighed.2 ?_ j within before
  intro k within _ sofar
  have nonzero : (run.state k).vault.totalWeight ≠ 0 := by
    rw [sofar]
    exact weighed.1
  exact (totalWeight_step nonzero (run.next k within)).trans sofar

/-! ## Due dates -/

def dueTs (v : PayoutVault) : Int :=
  v.startTs + v.updatesPosted * month

structure Dated (v : PayoutEscrow) : Prop where
  representable : -2 ^ 63 ≤ v.vault.startTs
  posted : ∀ k < v.vault.updatesPosted, v.vault.startTs + k * month ≤ v.now
  missed : v.vault.state = .frozen → dueTs v.vault + (missedFreezeThreshold - 1) * month ≤ v.now

theorem dated_frozen {v v' : PayoutEscrow} (dated : Dated v) (frozen : v.vault.state = .frozen)
    (start : v'.vault.startTs = v.vault.startTs) (posted : v'.vault.updatesPosted = v.vault.updatesPosted)
    (now : v'.now = v.now) : Dated v' where
  representable := by
    rw [start]
    exact dated.representable
  posted := by
    rw [start, posted, now]
    exact dated.posted
  missed := by
    intro _
    unfold dueTs
    rw [start, posted, now]
    exact dated.missed frozen

theorem dated_extended {v : PayoutEscrow} {overdue : Int} (dated : Dated v) (frozen : v.vault.state = .frozen)
    (counted : overduePeriods v.vault v.now = .ok overdue) :
    -2 ^ 63 ≤ v.vault.startTs + overdue * month ∧
      ∀ k < v.vault.updatesPosted, v.vault.startTs + overdue * month + k * month ≤ v.now := by
  have missed := dated.missed frozen
  have begun := dated.representable
  unfold dueTs missedFreezeThreshold at missed
  rcases overduePeriods_ok counted with ⟨early, -⟩ | ⟨late, rfl⟩
  · unfold month at *
    omega
  · constructor
    · unfold month at *
      omega
    · intro k before
      unfold month at *
      omega

theorem dated_step {hashv : Hashv} {v v' : PayoutEscrow} {instruction : PayoutInstruction} (dated : Dated v)
    (stepped : step hashv v instruction = .ok v') : Dated v' := by
  cases step_effect stepped with
  | posted active more reached =>
      refine { dated with posted := ?_, missed := ?_ }
      · intro k before
        rcases Nat.lt_succ_iff_lt_or_eq.mp before with earlier | rfl
        · exact dated.posted k earlier
        · exact reached
      · intro frozen
        rw [active] at frozen
        cases frozen
  | released active =>
      refine { dated with missed := ?_ }
      dsimp only
      intro frozen
      split at frozen <;> cases frozen
  | frozen active more unpaid counted missed =>
      refine { dated with missed := ?_ }
      intro _
      unfold dueTs missedFreezeThreshold at *
      rcases overduePeriods_ok counted with ⟨-, rfl⟩ | ⟨late, rfl⟩
      · omega
      · dsimp only
        unfold month at *
        omega
  | voteOpened frozen | cast _ _ _ frozen => exact dated_frozen dated frozen rfl rfl rfl
  | returned => exact { dated with missed := by simp }
  | extended _ frozen _ _ _ _ _ counted =>
      obtain ⟨begun, posted⟩ := dated_extended dated frozen counted
      exact ⟨begun, posted, by simp⟩
  | elsewhere _ same =>
      obtain ⟨-, -, -, start, -, -, -, posted⟩ := same.schedule
      exact
        { representable := by
            rw [start]
            exact dated.representable
          posted := by
            rw [start, posted]
            exact fun k before => (dated.posted k before).trans same.now
          missed := by
            unfold dueTs
            rw [same.state, start, posted]
            exact fun frozen => (dated.missed frozen).trans same.now }

theorem dueTs_step {hashv : Hashv} {v v' : PayoutEscrow} {instruction : PayoutInstruction}
    (stepped : step hashv v instruction = .ok v') : dueTs v.vault ≤ dueTs v'.vault := by
  unfold dueTs
  cases step_effect stepped with
  | posted =>
      unfold month
      push_cast
      omega
  | released | frozen | voteOpened | cast | returned => exact Int.le_refl _
  | extended _ _ _ _ _ _ _ counted =>
      obtain ⟨-, -, forward⟩ := due_rebased counted
      unfold month
      dsimp only
      omega
  | elsewhere _ same =>
      obtain ⟨-, -, -, start, -, -, -, posted⟩ := same.schedule
      rw [start, posted]

theorem dated_opened {saleAuthority authority : Pubkey} {saleOpen issuerFrozen : Bool} {raiseType : RaiseType}
    {cliffMonths vestingMonths proceeds : Nat} {now : Int} {vault : PayoutVault}
    (created : openPayoutVault saleAuthority authority saleOpen raiseType cliffMonths vestingMonths
      proceeds issuerFrozen now = .ok vault) : Dated (opened vault now) := by
  have start : -2 ^ 63 ≤ vault.startTs := by
    simp only [openPayoutVault, bind_eq_ok, require_eq_ok, okOr_eq_ok, checkedAddInt_eq_some, pure_eq_ok,
      exists_const] at created
    obtain ⟨-, -, -, -, -, -, -, _, ⟨rfl, fits, -⟩, rfl⟩ := created
    exact fits
  obtain ⟨-, -, rfl⟩ := openPayoutVault_ok created
  exact
    { representable := start
      posted := by simp [opened]
      missed := by simp [opened] }

section releasable
variable {v : PayoutEscrow} (on : OnSchedule v) (dated : Dated v)
include on dated

theorem trancheDue_reported (clock : v.now < 2 ^ 63) (pending : v.vault.tranchesReleased < v.vault.updatesPosted) :
    ∃ amount, trancheDue v.vault v.now = .ok amount ∧ 0 < amount ∧ v.vault.released + amount ≤ v.vault.totalAmount := by
  have some := pending.trans_le on.promised
  have reached := dated.posted _ pending
  have begun := dated.representable
  have fits : checkedAddInt 64 v.vault.startTs (v.vault.tranchesReleased * month) =
      Option.some (v.vault.startTs + v.vault.tranchesReleased * month) := by
    rw [checkedAddInt_eq_some]
    unfold month at *
    omega
  rcases on.paid with ⟨-, -, sofar⟩ | ⟨done, -⟩
  · have covered : v.vault.released + v.vault.trancheAmount ≤ v.vault.totalAmount := by
      calc v.vault.released + v.vault.trancheAmount
          = v.vault.trancheAmount * (v.vault.tranchesReleased + 1) := by rw [sofar, Nat.mul_succ]
        _ ≤ v.vault.trancheAmount * v.vault.numTranches := Nat.mul_le_mul_left _ some
        _ ≤ v.vault.totalAmount := Nat.mul_comm v.vault.trancheAmount _ ▸ on.whole
    have share := on.share
    by_cases last : v.vault.tranchesReleased + 1 = v.vault.numTranches
    · refine ⟨v.vault.totalAmount - v.vault.released, ?_, by omega, by omega⟩
      simp [trancheDue, on.startup, some, fits, reached, pending, last]
      omega
    · refine ⟨v.vault.trancheAmount, ?_, share, covered⟩
      simp [trancheDue, on.startup, some, fits, reached, pending, last]
  · exact absurd done some.ne

theorem releasePayout_reported (active : v.vault.state = .active) (clock : v.now < 2 ^ 63)
    (funds : v.vault.totalAmount < 2 ^ 64) (few : v.vault.numTranches < 2 ^ 8)
    (pending : v.vault.tranchesReleased < v.vault.updatesPosted) {pauseFlags : PauseFlags}
    (unpaused : ¬ isPaused pauseFlags pauseIssuerProceeds) :
    ∃ vault amount, releasePayout v.vault pauseFlags false false v.now = .ok (vault, amount) := by
  obtain ⟨amount, due, positive, within⟩ := trancheDue_reported on dated clock pending
  have promised := on.promised
  refine ⟨{ v.vault with
    released := v.vault.released + amount
    tranchesReleased := v.vault.tranchesReleased + 1
    state := if v.vault.tranchesReleased + 1 = v.vault.numTranches then .completed else v.vault.state }, amount, ?_⟩
  simp only [releasePayout, bind_eq_ok, require_eq_ok, okOr_eq_ok, checkedAdd_eq_some, pure_eq_ok, Prod.mk.injEq,
    exists_const]
  exact ⟨active, unpaused, trivial, trivial, _, due, positive, _, ⟨rfl, by omega⟩, _, ⟨rfl, by omega⟩, rfl, rfl⟩

end releasable

theorem terms_step {hashv : Hashv} {v v' : PayoutEscrow} {instruction : PayoutInstruction}
    (stepped : step hashv v instruction = .ok v') :
    v'.vault.numTranches = v.vault.numTranches ∧ v'.vault.totalAmount = v.vault.totalAmount := by
  cases step_effect stepped with
  | posted | released | frozen | voteOpened | cast | returned | extended => exact ⟨rfl, rfl⟩
  | elsewhere _ same =>
      obtain ⟨-, total, -, -, count, -⟩ := same.schedule
      exact ⟨count, total⟩

/-! ## The statement -/

structure Current (v : PayoutEscrow) : Prop where
  none : ∀ overdue, overduePeriods v.vault v.now = .ok overdue → overdue = 0
  next : v.now < dueTs v.vault ∧ dueTs v.vault ≤ v.now + month
  posted : ∀ k < v.vault.updatesPosted, v.vault.startTs + k * month ≤ v.now
  unposted : ∀ k ≥ v.vault.updatesPosted, v.now < v.vault.startTs + k * month

theorem current_extended {hashv : Hashv} {v v' : PayoutEscrow} {round : Nat} (dated : Dated v)
    (stepped : step hashv v (.finalizeVaultVote round) = .ok v') (active : v'.vault.state = .active) : Current v' := by
  have after := dated_step dated stepped
  cases finalizeVaultVote_effect stepped with
  | returned => cases active
  | extended _ frozen _ _ _ _ _ counted =>
      have missed := dated.missed frozen
      obtain ⟨forward, within, -⟩ := due_rebased counted
      have late : v.vault.startTs + v.vault.updatesPosted * month ≤ v.now := by
        unfold dueTs missedFreezeThreshold month at missed
        unfold month
        omega
      refine ⟨?_, ⟨forward, within late⟩, after.posted, ?_⟩
      · intro overdue recounted
        rcases overduePeriods_ok recounted with ⟨-, zero⟩ | ⟨reached, -⟩
        · exact zero
        · exact absurd forward (Int.not_lt.mpr reached)
      · intro k unposted
        dsimp only at unposted ⊢
        unfold month at *
        omega
  | elsewhere quiet => cases quiet

/-- A round is finalized once and counts each voter once, its tallies are the sums of its records and
stay within its total weight, and a freeze outdates it. An Extend leaves the founder current, and the
next freeze waits until as many due dates as the threshold have come, the next one counted. A reported
tranche is releasable whenever the vault is active. -/
theorem freeze_vote_extend {hashv : Hashv} {saleAuthority authority : Pubkey} {saleOpen issuerFrozen : Bool}
    {raiseType : RaiseType} {cliffMonths vestingMonths proceeds : Nat} {now : Int} {vault : PayoutVault}
    (created : openPayoutVault saleAuthority authority saleOpen raiseType cliffMonths vestingMonths
      proceeds issuerFrozen now = .ok vault)
    (run : Run (step hashv) (opened vault now)) :
    (∀ i j round, i < j → j < run.length → run.label i = .finalizeVaultVote round →
      run.label j ≠ .finalizeVaultVote round) ∧
    (∀ i ≤ run.length, Counted (run.state i)) ∧
    (∀ i j, i < j → j ≤ run.length → ∀ isAdmin snapshotRoot totalWeight votingPeriod,
      run.label i = .openVaultVote isAdmin snapshotRoot totalWeight votingPeriod →
      (run.state j).vault.totalWeight = totalWeight) ∧
    (∀ i j, i ≤ j → i < run.length → j ≤ run.length → run.label i = .freezeVault →
      ∀ round vote, (run.state i).votes round = some vote →
      (step hashv (run.state j) (.finalizeVaultVote round)).isOk = false ∧
        ∀ investor weight proof, (step hashv (run.state j) (.claimRefund round investor weight proof)).isOk = false) ∧
    (∀ i < run.length, ∀ round, run.label i = .finalizeVaultVote round →
      (run.state (i + 1)).vault.state = .active → Current (run.state (i + 1)) ∧
      ∀ j, i < j → j < run.length → run.label j = .freezeVault →
        ∀ k < missedFreezeThreshold, dueTs (run.state (i + 1)).vault + k * month ≤ (run.state j).now) ∧
    (vestingMonths < 2 ^ 8 → proceeds < 2 ^ 64 → ∀ i ≤ run.length, (run.state i).now < 2 ^ 63 →
      (run.state i).vault.state = .active → (run.state i).vault.tranchesReleased < (run.state i).vault.updatesPosted →
      ∀ pauseFlags, ¬ isPaused pauseFlags pauseIssuerProceeds →
      (∃ vault' amount, releasePayout (run.state i).vault pauseFlags false false (run.state i).now = .ok (vault', amount)) ∧
      ∀ S : Set (List UInt8), Set.InjOn hashv S → (∀ i < run.length, Admissible hashv S (run.label i)) →
        ∃ v', step hashv (run.state i) (.releasePayout pauseFlags false false) = .ok v') := by
  have fresh : vault.votePending = false := by
    obtain ⟨-, -, rfl⟩ := openPayoutVault_ok created
    rfl
  have start := counted_opened vault now fresh
  have dated : ∀ i ≤ run.length, Dated (run.state i) := by
    apply run.invariant (dated_opened created)
    intro v instruction v' dated stepped
    exact dated_step dated stepped
  refine ⟨?_, counted_run start run, ?_, ?_, ?_, ?_⟩
  · intro i j round before within label
    exact finalized_once start run within before label
  · intro i j before within isAdmin snapshotRoot totalWeight votingPeriod label
    exact totalWeight_run run within before label
  · intro i j ordered frozen within label round vote stored
    exact old_round_dead start run frozen label stored ordered within
  · intro i within round label active
    have stepped := run.next i within
    rw [label] at stepped
    refine ⟨current_extended (dated i within.le) stepped active, ?_⟩
    intro j before frozen label k below
    have grown : dueTs (run.state (i + 1)).vault ≤ dueTs (run.state (j + 1)).vault := by
      apply run.related (R := fun v v' => dueTs v.vault ≤ dueTs v'.vault) (fun _ => Int.le_refl _) Int.le_trans
        frozen (Nat.succ_le_succ before.le)
      intro k within _
      exact dueTs_step (run.next k within)
    have stopped := run.next j frozen
    rw [label] at stopped
    have missed := dated (j + 1) frozen
    generalize run.state (j + 1) = after at stopped missed grown
    cases freezeVault_effect stopped with
    | frozen =>
        have reached := missed.missed rfl
        dsimp only at reached grown
        unfold missedFreezeThreshold at *
        unfold month at *
        omega
    | elsewhere quiet => cases quiet
  · intro months funds i within clock active pending pauseFlags unpaused
    have on := onSchedule_run (onSchedule_opened created) run i within
    have terms : (run.state i).vault.numTranches < 2 ^ 8 ∧ (run.state i).vault.totalAmount < 2 ^ 64 := by
      obtain ⟨-, -, rfl⟩ := openPayoutVault_ok created
      refine run.invariant (P := fun v => v.vault.numTranches < 2 ^ 8 ∧ v.vault.totalAmount < 2 ^ 64)
        ⟨(Nat.sub_le _ _).trans_lt months, funds⟩ ?_ i within
      intro v instruction v' bounded stepped
      rw [(terms_step stepped).1, (terms_step stepped).2]
      exact bounded
    obtain ⟨vault', amount, released⟩ :=
      releasePayout_reported on (dated i within) active clock terms.2 terms.1 pending unpaused
    refine ⟨⟨vault', amount, released⟩, ?_⟩
    intro S collisionFree admissible
    have solvent := solvent_run (solvent_opened created) collisionFree run admissible i within
    have pays : payout hashv (run.state i) (.releasePayout pauseFlags false false) = some (.principal, amount) := by
      simp [payout, released, Except.toOption]
    have valid : Admissible hashv S (.releasePayout pauseFlags false false) := trivial
    obtain ⟨-, v', stepped, -⟩ := payout_covered solvent collisionFree valid pays
    exact ⟨v', stepped⟩

/-! A founder falls silent after the first tranche, and the investors extend in the third month overdue. -/

def extendRun : Run (step exampleHashv) (opened exampleVault 0) :=
  .ofLabels _ _
    [.postUpdate 9, .releasePayout 0 false false, .tick 7776000, .freezeVault, .openVaultVote true exampleRoot 100 604800,
      .castVaultVote 1 1 60 [exampleLeaf₂] .extend, .tick 604800, .finalizeVaultVote 1]
    rfl

theorem freeze_vote_extend_example : dueTs (extendRun.state 8).vault = 10368000 ∧ Current (extendRun.state 8) := by
  have created : openPayoutVault 9 9 true .startup 0 4 100 false 0 = .ok exampleVault := rfl
  obtain ⟨-, -, -, -, extended, -⟩ := freeze_vote_extend created extendRun
  exact ⟨rfl, (extended 7 (by decide) 1 rfl rfl).1⟩

end Mancipatio.Payout
