import Mancipatio.Payout.Machine

/-!
# What a step of a payout vault does to its schedule and its votes
-/

namespace Mancipatio.Payout
open Checked Execution Rows

structure Same (v v' : PayoutEscrow) : Prop where
  schedule : v'.vault.raiseType = v.vault.raiseType ∧ v'.vault.totalAmount = v.vault.totalAmount ∧
    v'.vault.released = v.vault.released ∧ v'.vault.startTs = v.vault.startTs ∧
    v'.vault.numTranches = v.vault.numTranches ∧ v'.vault.trancheAmount = v.vault.trancheAmount ∧
    v'.vault.tranchesReleased = v.vault.tranchesReleased ∧ v'.vault.updatesPosted = v.vault.updatesPosted
  state : v'.vault.state = v.vault.state
  voteRound : v'.vault.voteRound = v.vault.voteRound
  votePending : v'.vault.votePending = v.vault.votePending
  weight : v.vault.totalWeight ≠ 0 → v'.vault.totalWeight = v.vault.totalWeight
  votes : v'.votes = v.votes
  voteRecords : v'.voteRecords = v.voteRecords
  now : v.now ≤ v'.now

def PayoutInstruction.movesSchedule : PayoutInstruction → Bool
  | .postUpdate _ | .releasePayout _ _ _ | .freezeVault | .openVaultVote _ _ _ _ | .castVaultVote _ _ _ _ _
  | .finalizeVaultVote _ => true
  | _ => false

def tally (vote : VaultVote) (weight : Nat) : VaultVoteChoice → VaultVote
  | .returnCapital => { vote with returnWeight := vote.returnWeight + weight }
  | .extend => { vote with extendWeight := vote.extendWeight + weight }

inductive Effect (hashv : Hashv) (v : PayoutEscrow) : PayoutInstruction → PayoutEscrow → Prop
  | posted {founder} : v.vault.state = .active → v.vault.updatesPosted < v.vault.numTranches →
      v.vault.startTs + v.vault.updatesPosted * month ≤ v.now →
      Effect hashv v (.postUpdate founder)
        { v with vault := { v.vault with updatesPosted := v.vault.updatesPosted + 1, lastUpdateTs := v.now } }
  | released {pauseFlags issuerFrozen founderBlocked amount escrow} : v.vault.state = .active →
      v.vault.tranchesReleased < v.vault.numTranches → v.vault.tranchesReleased < v.vault.updatesPosted →
      amount = (if v.vault.tranchesReleased + 1 = v.vault.numTranches then v.vault.totalAmount - v.vault.released
        else v.vault.trancheAmount) →
      0 < amount → escrow + amount = v.escrow →
      Effect hashv v (.releasePayout pauseFlags issuerFrozen founderBlocked)
        { v with
          vault := { v.vault with
            released := v.vault.released + amount
            tranchesReleased := v.vault.tranchesReleased + 1
            state := if v.vault.tranchesReleased + 1 = v.vault.numTranches then .completed else .active }
          escrow }
  | frozen {overdue} : v.vault.state = .active → v.vault.updatesPosted < v.vault.numTranches →
      v.vault.released < v.vault.totalAmount → overduePeriods v.vault v.now = .ok overdue →
      missedFreezeThreshold ≤ overdue →
      Effect hashv v .freezeVault { v with vault := { v.vault with state := .frozen } }
  | voteOpened {isAdmin snapshotRoot totalWeight votingPeriod} : v.vault.state = .frozen →
      v.vault.votePending = false → 0 < totalWeight → (v.vault.totalWeight = 0 ∨ v.vault.totalWeight = totalWeight) →
      minVaultVotingPeriodSecs ≤ votingPeriod →
      Effect hashv v (.openVaultVote isAdmin snapshotRoot totalWeight votingPeriod)
        { v with
          vault := { v.vault with voteRound := v.vault.voteRound + 1, votePending := true, totalWeight }
          votes := Function.update v.votes (v.vault.voteRound + 1) (some
            { round := v.vault.voteRound + 1, snapshotRoot, startTs := v.now, endTs := v.now + votingPeriod,
              returnWeight := 0, extendWeight := 0, outcome := .pending, version := payoutStateVersion }) }
  | cast {round voter weight proof choice vote} : v.votes round = some vote → vote.outcome = .pending →
      (∀ r ∈ v.voteRecords, ¬ (r.round = round ∧ r.voter = voter)) → v.vault.state = .frozen →
      v.vault.votePending = true → vote.round = v.vault.voteRound → v.now < vote.endTs →
      vote.returnWeight + vote.extendWeight + weight.toNat ≤ v.vault.totalWeight →
      Effect hashv v (.castVaultVote round voter weight proof choice)
        { v with
          votes := Function.update v.votes round (some (tally vote weight.toNat choice))
          voteRecords := v.voteRecords ++ [{ round := vote.round, voter, weight := weight.toNat, choice }] }
  | returned {round vote} : v.votes round = some vote → v.vault.state = .frozen → v.vault.votePending = true →
      vote.round = v.vault.voteRound → vote.outcome = .pending → vote.endTs ≤ v.now →
      vote.extendWeight < vote.returnWeight →
      Effect hashv v (.finalizeVaultVote round)
        { v with
          vault := { v.vault with votePending := false, state := .cancelled }
          votes := Function.update v.votes round (some { vote with outcome := .returnCapital }) }
  | extended {round vote overdue} : v.votes round = some vote → v.vault.state = .frozen → v.vault.votePending = true →
      vote.round = v.vault.voteRound → vote.outcome = .pending → vote.endTs ≤ v.now →
      vote.returnWeight ≤ vote.extendWeight → overduePeriods v.vault v.now = .ok overdue →
      Effect hashv v (.finalizeVaultVote round)
        { v with
          vault := { v.vault with
            votePending := false, startTs := v.vault.startTs + overdue * month, state := .active }
          votes := Function.update v.votes round (some { vote with outcome := .extend }) }
  | elsewhere {instruction v'} : instruction.movesSchedule = false → Same v v' → Effect hashv v instruction v'

section inversion
variable {hashv : Hashv} {v v' : PayoutEscrow}

theorem same_refl (v : PayoutEscrow) : Same v v :=
  ⟨⟨rfl, rfl, rfl, rfl, rfl, rfl, rfl, rfl⟩, rfl, rfl, rfl, fun _ => rfl, rfl, rfl, Int.le_refl _⟩

theorem postUpdate_effect {founder : Pubkey} (stepped : step hashv v (.postUpdate founder) = .ok v') :
    Effect hashv v (.postUpdate founder) v' := by
  simp only [step, postUpdate, bind_eq_ok, require_eq_ok, okOr_eq_ok, checkedAdd_eq_some, checkedAddInt_eq_some,
    pure_eq_ok, exists_const] at stepped
  obtain ⟨_, ⟨-, active, more, _, ⟨rfl, -⟩, reached, _, ⟨rfl, -⟩, rfl⟩, rfl⟩ := stepped
  exact .posted active more reached

theorem releasePayout_effect {pauseFlags : PauseFlags} {issuerFrozen founderBlocked : Bool}
    (stepped : step hashv v (.releasePayout pauseFlags issuerFrozen founderBlocked) = .ok v') :
    Effect hashv v (.releasePayout pauseFlags issuerFrozen founderBlocked) v' := by
  simp only [step, bind_eq_ok, pure_eq_ok, Prod.exists] at stepped
  obtain ⟨vault, amount, released, escrow, paid, rfl⟩ := stepped
  have reported : v.vault.tranchesReleased < v.vault.updatesPosted := by
    simp only [releasePayout, trancheDue, bind_eq_ok, require_eq_ok, exists_const] at released
    obtain ⟨-, -, -, -, _, due, -⟩ := released
    cases raise : v.vault.raiseType with
    | mature => simp [raise] at due
    | startup =>
        simp only [raise, bind_eq_ok, require_eq_ok, exists_const] at due
        obtain ⟨-, _, -, -, reported, -⟩ := due
        exact reported
  simp only [releasePayout, bind_eq_ok, require_eq_ok, okOr_eq_ok, checkedAdd_eq_some, pure_eq_ok,
    Prod.mk.injEq, exists_const] at released
  obtain ⟨active, -, -, -, _, due, positive, _, ⟨rfl, -⟩, _, ⟨rfl, -⟩, rfl, rfl⟩ := released
  obtain ⟨pending, exact⟩ := trancheDue_ok due
  simp only [pay, okOr_eq_ok, checkedSub_eq_some] at paid
  rw [active]
  exact .released active pending reported exact positive (by omega)

theorem freezeVault_effect (stepped : step hashv v .freezeVault = .ok v') : Effect hashv v .freezeVault v' := by
  simp only [step, freezeVault, bind_eq_ok, require_eq_ok, pure_eq_ok, exists_const] at stepped
  obtain ⟨_, ⟨active, ⟨more, unpaid⟩, overdue, counted, missed, rfl⟩, rfl⟩ := stepped
  exact .frozen active more unpaid counted missed

theorem openVaultVote_effect {isAdmin : Bool} {snapshotRoot : Hash} {totalWeight : Nat} {votingPeriod : Int}
    (stepped : step hashv v (.openVaultVote isAdmin snapshotRoot totalWeight votingPeriod) = .ok v') :
    Effect hashv v (.openVaultVote isAdmin snapshotRoot totalWeight votingPeriod) v' := by
  simp only [step, openVaultVote, bind_eq_ok, require_eq_ok, okOr_eq_ok, checkedAdd_eq_some, checkedAddInt_eq_some,
    pure_eq_ok, Prod.exists, Prod.mk.injEq, exists_const] at stepped
  obtain ⟨_, _, ⟨-, frozen, -, idle, _, ⟨rfl, -⟩, ⟨positive, -⟩, notice, _, ⟨rfl, -⟩, same, rfl, rfl⟩, rfl⟩ := stepped
  exact .voteOpened frozen idle positive same notice

theorem castVaultVote_effect {round : Nat} {voter : Pubkey} {weight : BitVec 64} {proof : List Hash}
    {choice : VaultVoteChoice} (stepped : step hashv v (.castVaultVote round voter weight proof choice) = .ok v') :
    Effect hashv v (.castVaultVote round voter weight proof choice) v' := by
  simp only [step, bind_eq_ok, okOr_eq_ok, pure_eq_ok, Prod.exists] at stepped
  obtain ⟨vote, stored, vote', record, counted, rfl⟩ := stepped
  simp only [castVaultVote, bind_eq_ok, require_eq_ok, okOr_eq_ok, checkedAdd_eq_some, exists_const] at counted
  obtain ⟨open', fresh, -, ⟨pending, round'⟩, frozen, unclosed, -, _, ⟨rfl, -⟩, _, ⟨rfl, -⟩, ⟨-, within⟩, counted⟩ :=
    counted
  have first : ∀ r ∈ v.voteRecords, ¬ (r.round = round ∧ r.voter = voter) := by
    simpa using fresh
  have moved : vote' = tally vote weight.toNat choice ∧
      record = { round := vote.round, voter, weight := weight.toNat, choice } := by
    cases choice <;>
      · simp only [bind_eq_ok, okOr_eq_ok, checkedAdd_eq_some, pure_eq_ok, Prod.mk.injEq] at counted
        obtain ⟨_, ⟨rfl, -⟩, rfl, rfl⟩ := counted
        exact ⟨rfl, rfl⟩
  obtain ⟨rfl, rfl⟩ := moved
  exact .cast stored open' first frozen pending round' unclosed within

theorem finalizeVaultVote_effect {round : Nat} (stepped : step hashv v (.finalizeVaultVote round) = .ok v') :
    Effect hashv v (.finalizeVaultVote round) v' := by
  simp only [step, bind_eq_ok, okOr_eq_ok, pure_eq_ok, Prod.exists] at stepped
  obtain ⟨vote, stored, vault, vote', finalized, rfl⟩ := stepped
  simp only [finalizeVaultVote, bind_eq_ok, require_eq_ok, exists_const] at finalized
  obtain ⟨frozen, -, pending, ⟨round', open'⟩, ended, finalized⟩ := finalized
  split at finalized
  · next more =>
      simp only [pure_eq_ok, Prod.mk.injEq] at finalized
      obtain ⟨rfl, rfl⟩ := finalized
      exact .returned stored frozen pending round' open' ended more
  · next fewer =>
      simp only [bind_eq_ok, okOr_eq_ok, checkedMulInt_eq_some, checkedAddInt_eq_some, pure_eq_ok,
        Prod.mk.injEq] at finalized
      obtain ⟨overdue, counted, _, ⟨rfl, -⟩, _, ⟨rfl, -⟩, rfl, rfl⟩ := finalized
      exact .extended stored frozen pending round' open' ended (Nat.le_of_not_lt fewer) counted

theorem step_effect {instruction : PayoutInstruction} (stepped : step hashv v instruction = .ok v') :
    Effect hashv v instruction v' := by
  cases instruction with
  | postUpdate => exact postUpdate_effect stepped
  | releasePayout => exact releasePayout_effect stepped
  | freezeVault => exact freezeVault_effect stepped
  | openVaultVote => exact openVaultVote_effect stepped
  | castVaultVote => exact castVaultVote_effect stepped
  | finalizeVaultVote => exact finalizeVaultVote_effect stepped
  | claimRefund round investor weight proof =>
      simp only [step, bind_eq_ok, pure_eq_ok, Prod.exists] at stepped
      obtain ⟨_, -, _, _, -, _, -, rfl⟩ := stepped
      exact .elsewhere rfl { same_refl v with }
  | routeYield isAdmin pauseFlags amount investorRoot totalWeight =>
      simp only [step, bind_eq_ok, pure_eq_ok, Prod.exists] at stepped
      obtain ⟨vault, kept, routed, rfl⟩ := stepped
      obtain ⟨-, -, -, same, founderThird, investorThird, -, rfl⟩ := routeYield_ok routed
      exact .elsewhere rfl { same_refl v with weight := fun set => (same.resolve_left set).symm }
  | claimFounderYield founder pauseFlags issuerFrozen founderBlocked =>
      simp only [step, bind_eq_ok, pure_eq_ok, Prod.exists] at stepped
      obtain ⟨vault, amount, claimed, _, -, rfl⟩ := stepped
      obtain ⟨-, rfl⟩ := claimFounderYield_ok claimed
      exact .elsewhere rfl { same_refl v with }
  | claimInvestorYield investor weight proof =>
      simp only [step, bind_eq_ok, pure_eq_ok, Prod.exists] at stepped
      obtain ⟨_, _, -, _, -, rfl⟩ := stepped
      exact .elsewhere rfl { same_refl v with }
  | syncPayoutFounder | inboundTransfer =>
      simp only [step, pure_eq_ok] at stepped
      subst stepped
      exact .elsewhere rfl { same_refl v with }
  | tick seconds =>
      simp only [step, pure_eq_ok] at stepped
      subst stepped
      exact .elsewhere rfl { same_refl v with now := by simp }

end inversion

end Mancipatio.Payout
