import Mancipatio.Rights.Milestones

/-!
# Claims against milestones

Every issuance, every milestone and every claimer at once: what was paid is what the records say.
-/

namespace Mancipatio.Rights
open Checked Execution Ledger Tables

def claimedOf (milestone : Option VestingMilestone) : Nat :=
  milestone.elim 0 VestingMilestone.claimed

def paidFor (key : MilestoneKey) (_ : RightsState) : RightsLabel → Nat
  | .claimMilestone _ key' _ amount _ _ => if key' = key then amount.toNat else 0
  | _ => 0

def RightsLabel.pays : RightsLabel → Option (MilestoneKey × Pubkey)
  | .claimMilestone claimer key _ _ _ _ => some (key, claimer)
  | _ => none

def VestingMilestone.terms (milestone : VestingMilestone) : Hash × Nat × Int :=
  (milestone.merkleRoot, milestone.amountPool, milestone.unlockTs)

def RightsLabel.publishes : RightsLabel → Option (MilestoneKey × Hash × Nat × Int)
  | .publishMilestone _ _ _ key merkleRoot amountPool unlockTs => some (key, merkleRoot, amountPool.toNat, unlockTs)
  | _ => none

/-! ## Totals -/

structure Accounted (r : RightsState) : Prop where
  total : RowTotals RightsIssuance.totalClaimed claimedOf r.issuances r.milestones
  absent : ∀ issuance, r.issuances issuance = none → ∀ index, r.milestones (issuance, index) = none
  within : ∀ key milestone, r.milestones key = some milestone → milestone.claimed ≤ milestone.amountPool

theorem accounted_empty (accounts : Accounts Pubkey) (now : Int) : Accounted (noIssuances accounts now) := by
  refine ⟨?_, fun _ _ _ => rfl, ?_⟩
  · intro issuance record stored
    cases stored
  · intro key milestone stored
    cases stored

section steps
variable {hashv : Hashv} {r r' : RightsState} {label : RightsLabel}

theorem accounted_step (accounted : Accounted r) (stepped : step hashv r label = .ok r') : Accounted r' := by
  obtain ⟨total, absent, within⟩ := accounted
  cases step_effect stepped with
  | @opened authority isAdmin pauseFlags issuance escrow underlyingMint accounts fresh =>
      refine ⟨total.opened (fun index => by rw [absent issuance fresh index]; rfl) rfl, ?_, within⟩
      · intro other missing
        rcases updated_cases missing with ⟨-, new⟩ | ⟨-, earlier⟩
        · cases new
        · exact absent other earlier
  | @published authority isAdmin pauseFlags key merkleRoot amountPool unlockTs issuance count stored fresh =>
      refine ⟨total.rewritten stored (by rw [fresh]; rfl), ?_, ?_⟩
      · intro other missing index
        rcases updated_cases missing with ⟨-, new⟩ | ⟨apart, earlier⟩
        · cases new
        · have elsewhere : (other, index) ≠ key := fun both => apart (congrArg Prod.fst both)
          dsimp only
          rw [Function.update_of_ne elsewhere]
          exact absent other earlier index
      · intro other milestone found
        rcases updated_row found with ⟨-, rfl⟩ | ⟨-, earlier⟩
        · exact Nat.zero_le _
        · exact within other milestone earlier
  | @claimed claimer key claimerTokenAccount amount proof receiver issuance milestone destination accounts stored found
      unclaimed foreign held owner unlocked proved enough moved =>
      refine ⟨total.rewritten stored ?_, ?_, ?_⟩
      · rw [found]
        simp only [claimedOf, Option.elim]
        omega
      · intro other missing index
        rcases updated_cases missing with ⟨-, new⟩ | ⟨apart, earlier⟩
        · cases new
        · have elsewhere : (other, index) ≠ key := fun both => apart (congrArg Prod.fst both)
          dsimp only
          rw [Function.update_of_ne elsewhere]
          exact absent other earlier index
      · intro other milestone' found'
        rcases updated_row found' with ⟨-, rfl⟩ | ⟨-, earlier⟩
        · exact enough
        · exact within other milestone' earlier
  | inbound | elsewhere | ticked => exact ⟨total, absent, within⟩

theorem paid_step (key : MilestoneKey) (stepped : step hashv r label = .ok r') :
    claimedOf (r'.milestones key) = claimedOf (r.milestones key) + paidFor key r label := by
  cases step_effect stepped with
  | @published authority isAdmin pauseFlags published merkleRoot amountPool unlockTs issuance count stored fresh =>
      by_cases same : key = published
      · subst same
        simp [claimedOf, paidFor, fresh]
      · simp [paidFor, same]
  | @claimed claimer claimed claimerTokenAccount amount proof receiver issuance milestone destination accounts stored found =>
      by_cases same : key = claimed
      · subst same
        simp [claimedOf, paidFor, found]
      · simp [paidFor, same, Ne.symm same]
  | opened | inbound | elsewhere | ticked => rfl

theorem claims_step {slot : MilestoneKey × Pubkey} {claim : MilestoneClaim} (recorded : r.claims slot = some claim)
    (stepped : step hashv r label = .ok r') : r'.claims slot = some claim := by
  cases step_effect stepped with
  | @claimed claimer key _ _ _ _ _ _ _ _ _ _ unclaimed =>
      have other : slot ≠ (key, claimer) := by
        rintro rfl
        rw [unclaimed] at recorded
        cases recorded
      rw [← recorded]
      exact Function.update_of_ne other _ _
  | opened | published | inbound | elsewhere | ticked => exact recorded

theorem terms_step {key : MilestoneKey} {milestone : VestingMilestone} (stored : r'.milestones key = some milestone)
    (stepped : step hashv r label = .ok r') :
    (∃ earlier, r.milestones key = some earlier ∧ earlier.terms = milestone.terms) ∨
      label.publishes = some (key, milestone.terms) := by
  cases step_effect stepped with
  | published =>
      rcases updated_row stored with ⟨rfl, rfl⟩ | ⟨-, earlier⟩
      · exact .inr rfl
      · exact .inl ⟨milestone, earlier, rfl⟩
  | claimed _ found =>
      rcases updated_row stored with ⟨rfl, rfl⟩ | ⟨-, earlier⟩
      · exact .inl ⟨_, found, rfl⟩
      · exact .inl ⟨milestone, earlier, rfl⟩
  | opened | inbound | elsewhere | ticked => exact .inl ⟨milestone, stored, rfl⟩

theorem pays_step {slot : MilestoneKey × Pubkey} (paid : label.pays = some slot) (stepped : step hashv r label = .ok r') :
    r.claims slot = none ∧ r'.claims slot ≠ none := by
  cases step_effect stepped with
  | claimed _ _ unclaimed =>
      cases paid
      exact ⟨unclaimed, by simp⟩
  | opened | published | inbound | elsewhere | ticked => cases paid

theorem claim_proved {claimer claimerTokenAccount : Pubkey} {key : MilestoneKey} {amount : BitVec 64} {proof : List Hash}
    {receiver : ReceiverKyc} (stepped : step hashv r (.claimMilestone claimer key claimerTokenAccount amount proof receiver) = .ok r') :
    ∃ milestone, r.milestones key = some milestone ∧
      verifyMerkleProof hashv milestone.merkleRoot (snapshotLeaf hashv claimer amount) proof = true := by
  cases step_effect stepped with
  | claimed _ found _ _ _ _ _ proved => exact ⟨_, found, proved⟩

theorem claim_moves {claimer claimerTokenAccount : Pubkey} {key : MilestoneKey} {amount : BitVec 64} {proof : List Hash}
    {receiver : ReceiverKyc} (stepped : step hashv r (.claimMilestone claimer key claimerTokenAccount amount proof receiver) = .ok r') :
    ∃ issuance, r.issuances key.1 = some issuance ∧
      balance r'.accounts issuance.escrow + amount.toNat = balance r.accounts issuance.escrow ∧
      balance r'.accounts claimerTokenAccount = balance r.accounts claimerTokenAccount + amount.toNat ∧
      ∃ destination, r.accounts claimerTokenAccount = some destination ∧ destination.owner = claimer := by
  cases step_effect stepped with
  | @claimed _ _ _ _ _ _ issuance milestone destination accounts stored found unclaimed foreign held owner unlocked proved
      enough moved =>
      have apart : issuance.escrow ≠ claimerTokenAccount := by
        rintro same
        obtain ⟨payer, payee, sent, received, ⟨-, -, own⟩, -⟩ := transfer_ok moved
        obtain rfl : payer = destination := Option.some.inj (sent.symm.trans (same ▸ held))
        exact foreign (owner.symm.trans own)
      have source := transfer_balance moved issuance.escrow
      have target := transfer_balance moved claimerTokenAccount
      rw [if_pos rfl, if_neg apart.symm] at source
      rw [if_neg apart.symm, if_pos rfl] at target
      exact ⟨issuance, stored, source, target, destination, held, owner⟩

end steps

/-! ## Whole runs -/

section runs
variable {hashv : Hashv} {accounts : Accounts Pubkey} {now : Int}

structure NeverOverClaimed (run : Run (step hashv) (noIssuances accounts now)) : Prop where
  once : ∀ i j, i < j → j < run.length → ∀ slot, (run.label i).pays = some slot → (run.label j).pays ≠ some slot
  pool : ∀ n ≤ run.length, ∀ key milestone, (run.state n).milestones key = some milestone →
    run.total (paidFor key) n = milestone.claimed ∧ milestone.claimed ≤ milestone.amountPool ∧
      ∃ i < n, (run.label i).publishes = some (key, milestone.terms)
  total : ∀ n ≤ run.length, ∀ issuance record, (run.state n).issuances issuance = some record →
    record.totalClaimed = ∑ index : BitVec 16, run.total (paidFor (issuance, index)) n
  committed : ∀ i < run.length, ∀ claimer key claimerTokenAccount amount proof receiver,
    run.label i = .claimMilestone claimer key claimerTokenAccount amount proof receiver →
    ∃ milestone, (run.state i).milestones key = some milestone ∧
      verifyMerkleProof hashv milestone.merkleRoot (snapshotLeaf hashv claimer amount) proof = true ∧
      ∀ S totalWeight (snapshot : Snapshot hashv S milestone.merkleRoot totalWeight), Set.InjOn hashv S →
        (∀ x ∈ proofPreimages hashv claimer amount proof, x ∈ S) → (claimer, amount) ∈ snapshot.tree.leaves
  moved : ∀ i < run.length, ∀ claimer key claimerTokenAccount amount proof receiver,
    run.label i = .claimMilestone claimer key claimerTokenAccount amount proof receiver →
    ∃ issuance, (run.state i).issuances key.1 = some issuance ∧
      balance (run.state (i + 1)).accounts issuance.escrow + amount.toNat = balance (run.state i).accounts issuance.escrow ∧
      balance (run.state (i + 1)).accounts claimerTokenAccount =
        balance (run.state i).accounts claimerTokenAccount + amount.toNat ∧
      ∃ destination, (run.state i).accounts claimerTokenAccount = some destination ∧ destination.owner = claimer

variable (run : Run (step hashv) (noIssuances accounts now))

theorem paid_run (key : MilestoneKey) : ∀ n ≤ run.length,
    claimedOf ((run.state n).milestones key) = run.total (paidFor key) n := by
  intro n within
  induction n with
  | zero =>
      rw [run.starts]
      rfl
  | succ n ih => rw [paid_step key (run.next n within), ih (Nat.le_of_succ_le within), Run.total]

theorem recorded_run {i j : Nat} (after : i < j) (within : j ≤ run.length) {slot : MilestoneKey × Pubkey}
    (paid : (run.label i).pays = some slot) : (run.state j).claims slot ≠ none := by
  have first := (pays_step paid (run.next i (Nat.lt_of_lt_of_le after within))).2
  refine run.invariant_from (P := fun r => r.claims slot ≠ none) first ?_ j within after
  intro k inside _ recorded
  obtain ⟨claim, found⟩ := Option.ne_none_iff_exists'.mp recorded
  rw [claims_step found (run.next k inside)]
  exact Option.some_ne_none claim

theorem published_run (n : Nat) (within : n ≤ run.length) (key : MilestoneKey) (milestone : VestingMilestone)
    (stored : (run.state n).milestones key = some milestone) :
    ∃ i < n, (run.label i).publishes = some (key, milestone.terms) := by
  induction n generalizing milestone with
  | zero =>
      rw [run.starts] at stored
      cases stored
  | succ n ih =>
      rcases terms_step stored (run.next n within) with ⟨earlier, found, same⟩ | published
      · obtain ⟨i, before, published⟩ := ih (Nat.le_of_succ_le within) earlier found
        exact ⟨i, Nat.lt_succ_of_lt before, same ▸ published⟩
      · exact ⟨n, Nat.lt_succ_self n, published⟩

end runs

/-- Whatever is published and claimed, by whomever and with whatever proofs: a claimer is paid at most once
for a milestone, and only for a leaf of its root; the payments for a milestone stay within its published pool;
and the total of an issuance is the sum of what its milestones paid. -/
theorem milestones_never_over_claimed (hashv : Hashv) (accounts : Accounts Pubkey) (now : Int)
    (run : Run (step hashv) (noIssuances accounts now)) : NeverOverClaimed run := by
  have accounted : ∀ n ≤ run.length, Accounted (run.state n) :=
    run.invariant (accounted_empty accounts now) fun _ _ _ sound stepped => accounted_step sound stepped
  refine ⟨?once, ?pool, ?total, ?committed, ?moved⟩
  case once =>
    intro i j after within slot paid again
    exact recorded_run run after (Nat.le_of_lt within) paid (pays_step again (run.next j within)).1
  case pool =>
    intro n within key milestone stored
    refine ⟨?_, (accounted n within).within key milestone stored, published_run run n within key milestone stored⟩
    rw [← paid_run run key n within, stored]
    rfl
  case total =>
    intro n within issuance record stored
    refine ((accounted n within).total issuance record stored).trans ?_
    exact Finset.sum_congr rfl fun index _ => paid_run run (issuance, index) n within
  case committed =>
    intro i within claimer key claimerTokenAccount amount proof receiver labelled
    have stepped := run.next i within
    rw [labelled] at stepped
    obtain ⟨milestone, found, proved⟩ := claim_proved stepped
    refine ⟨milestone, found, proved, ?_⟩
    intro S totalWeight snapshot collisionFree hashed
    exact snapshot.member collisionFree hashed proved
  case moved =>
    intro i within claimer key claimerTokenAccount amount proof receiver labelled
    have stepped := run.next i within
    rw [labelled] at stepped
    exact claim_moves stepped

end Mancipatio.Rights
