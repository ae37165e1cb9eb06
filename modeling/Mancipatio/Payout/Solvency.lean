import Mancipatio.Payout.Machine

/-!
# Payout-vault solvency

One escrow backs four classes of claims: the tranches, the refunds of a cancelled vault, the founder's
yield and the investors' yield. The invariant keeps one linear inequality between the escrow and the
counters; what makes it enough is that the refunds and the investors' yield stay within their pools,
because each claim is a floored share of a leaf of the committed snapshot.
-/

namespace Mancipatio.Payout
open Checked Execution Rows

/-- Every root that an administrator commits is the root of a snapshot, and every string that a proof
hashes lies in `S`. -/
def Admissible (hashv : Hashv) (S : Set (List UInt8)) : PayoutInstruction → Prop
  | .openVaultVote _ root totalWeight _ => Nonempty (Snapshot hashv S root totalWeight)
  | .routeYield _ _ _ root totalWeight => Nonempty (Snapshot hashv S root totalWeight)
  | .claimRefund _ investor weight proof => ∀ x ∈ proofPreimages hashv investor weight proof, x ∈ S
  | .claimInvestorYield investor weight proof => ∀ x ∈ proofPreimages hashv investor weight proof, x ∈ S
  | _ => True

def WithinShares {hashv : Hashv} {S : Set (List UInt8)} {root : Hash} {totalWeight : Nat}
    (snapshot : Snapshot hashv S root totalWeight) (pool : Nat) (claims : List ClaimRecord) : Prop :=
  ∀ c ∈ claims, ∃ leaf ∈ snapshot.tree.leaves,
    leaf.1 = c.investor ∧ c.claimed ≤ ProRata.share leaf.2.toNat pool totalWeight

structure Solvent (hashv : Hashv) (S : Set (List UInt8)) (v : PayoutEscrow) : Prop where
  tranches : v.vault.numTranches * v.vault.trancheAmount ≤ v.vault.totalAmount
  schedule : v.vault.tranchesReleased < v.vault.numTranches ∧
      v.vault.released = v.vault.tranchesReleased * v.vault.trancheAmount ∨
    v.vault.numTranches ≤ v.vault.tranchesReleased ∧ v.vault.released = v.vault.totalAmount
  refundInvestors : (v.refundClaims.map ClaimRecord.investor).Nodup
  yieldInvestors : (v.yieldClaims.map ClaimRecord.investor).Nodup
  votes : ∀ round vote, v.votes round = some vote → vote.round = round ∧ v.vault.totalWeight ≠ 0 ∧
    Nonempty (Snapshot hashv S vote.snapshotRoot v.vault.totalWeight)
  yieldRoot : v.vault.investorYieldRoot = 0 ∧ v.vault.investorYieldPool = 0 ∧ v.yieldClaims = [] ∨
    v.vault.investorYieldRoot ≠ 0 ∧ v.vault.totalWeight ≠ 0 ∧
      Nonempty (Snapshot hashv S v.vault.investorYieldRoot v.vault.totalWeight)
  refunds : v.refundClaims = [] ∨ v.vault.state = .cancelled ∧
    ∃ vote, v.votes v.vault.voteRound = some vote ∧
      ∀ snapshot : Snapshot hashv S vote.snapshotRoot v.vault.totalWeight,
        WithinShares snapshot (v.vault.totalAmount - v.vault.released) v.refundClaims
  yields : ∀ snapshot : Snapshot hashv S v.vault.investorYieldRoot v.vault.totalWeight,
    WithinShares snapshot v.vault.investorYieldPool v.yieldClaims
  covered : v.vault.totalAmount + v.vault.founderYieldClaimable + v.vault.investorYieldPool ≤
    v.escrow + v.vault.released + refunded v + yieldPaid v

/-! ## The pools bound the claims -/

theorem WithinShares.sum_le {hashv : Hashv} {S : Set (List UInt8)} {root : Hash} {totalWeight pool : Nat}
    {snapshot : Snapshot hashv S root totalWeight} {claims : List ClaimRecord}
    (within : WithinShares snapshot pool claims) (distinct : (claims.map ClaimRecord.investor).Nodup) :
    (claims.map ClaimRecord.claimed).sum ≤ pool :=
  calc (claims.map ClaimRecord.claimed).sum
      ≤ (snapshot.tree.leaves.map fun leaf => ProRata.share leaf.2.toNat pool totalWeight).sum :=
        sum_le_of_keys ClaimRecord.investor Prod.fst _ _ distinct within
    _ ≤ pool := ProRata.sum_share_le_pool _ _ snapshot.weights

theorem WithinShares.mono {hashv : Hashv} {S : Set (List UInt8)} {root : Hash} {totalWeight pool pool' : Nat}
    {snapshot : Snapshot hashv S root totalWeight} {claims : List ClaimRecord}
    (within : WithinShares snapshot pool claims) (grows : pool ≤ pool') :
    WithinShares snapshot pool' claims := by
  intro c member
  obtain ⟨leaf, committed, same, bounded⟩ := within c member
  exact ⟨leaf, committed, same, bounded.trans (ProRata.share_mono _ _ grows)⟩

theorem WithinShares.upsert {hashv : Hashv} {S : Set (List UInt8)} {root : Hash} {totalWeight pool : Nat}
    {snapshot : Snapshot hashv S root totalWeight} {claims : List ClaimRecord} {claim : ClaimRecord}
    {weight : BitVec 64} {proof : List Hash} (within : WithinShares snapshot pool claims)
    (collisionFree : Set.InjOn hashv S)
    (hashed : ∀ x ∈ proofPreimages hashv claim.investor weight proof, x ∈ S)
    (proved : verifyMerkleProof hashv root (snapshotLeaf hashv claim.investor weight) proof = true)
    (bounded : claim.claimed ≤ ProRata.share weight.toNat pool totalWeight) :
    WithinShares snapshot pool (Rows.upsert ClaimRecord.investor claim claims) :=
  forall_upsert _ within ⟨_, snapshot.member collisionFree hashed proved, rfl, bounded⟩

section bounds
variable {hashv : Hashv} {S : Set (List UInt8)} {v : PayoutEscrow}

theorem released_le (solvent : Solvent hashv S v) : v.vault.released ≤ v.vault.totalAmount := by
  rcases solvent.schedule with ⟨pending, exact⟩ | ⟨-, all⟩
  · calc v.vault.released = v.vault.tranchesReleased * v.vault.trancheAmount := exact
      _ ≤ v.vault.numTranches * v.vault.trancheAmount := Nat.mul_le_mul_right _ pending.le
      _ ≤ v.vault.totalAmount := solvent.tranches
  · exact all.le

theorem refunded_le (solvent : Solvent hashv S v) :
    refunded v ≤ v.vault.totalAmount - v.vault.released := by
  rcases solvent.refunds with none | ⟨-, vote, stored, within⟩
  · simp [refunded, none]
  · obtain ⟨-, -, ⟨snapshot⟩⟩ := solvent.votes _ _ stored
    exact (within snapshot).sum_le solvent.refundInvestors

theorem yieldPaid_le (solvent : Solvent hashv S v) : yieldPaid v ≤ v.vault.investorYieldPool := by
  rcases solvent.yieldRoot with ⟨-, -, none⟩ | ⟨-, -, ⟨snapshot⟩⟩
  · simp [yieldPaid, none]
  · exact (solvent.yields snapshot).sum_le solvent.yieldInvestors

theorem refundClaims_eq_nil (solvent : Solvent hashv S v) (running : v.vault.state ≠ .cancelled) :
    v.refundClaims = [] :=
  solvent.refunds.resolve_right fun refunding => running refunding.1

end bounds

theorem sum_upsert_claims {claims : List ClaimRecord} {claim : ClaimRecord} {payout : Nat}
    (paid : claimedBy claim.investor claims + payout = claim.claimed) :
    ((upsert ClaimRecord.investor claim claims).map ClaimRecord.claimed).sum =
      (claims.map ClaimRecord.claimed).sum + payout := by
  have moved : ((upsert ClaimRecord.investor claim claims).map ClaimRecord.claimed).sum +
        (lookup ClaimRecord.investor claim.investor claims).elim 0 ClaimRecord.claimed =
      (claims.map ClaimRecord.claimed).sum + claim.claimed :=
    sum_upsert_add ClaimRecord.investor ClaimRecord.claimed claim
  unfold claimedBy at paid
  omega

/-! ## Each payout fits the class it is paid from -/

section payouts
variable {hashv : Hashv} {S : Set (List UInt8)} {v : PayoutEscrow} (solvent : Solvent hashv S v)
include solvent

theorem tranche_le {amount : Nat} (pending : v.vault.tranchesReleased < v.vault.numTranches)
    (exact : amount = if v.vault.tranchesReleased + 1 = v.vault.numTranches
      then v.vault.totalAmount - v.vault.released else v.vault.trancheAmount) :
    v.vault.released + amount ≤ v.vault.totalAmount := by
  have bounded := released_le solvent
  split at exact
  · omega
  · rcases solvent.schedule with ⟨-, sofar⟩ | ⟨done, -⟩
    · calc v.vault.released + amount
          = (v.vault.tranchesReleased + 1) * v.vault.trancheAmount := by rw [sofar, exact, Nat.succ_mul]
        _ ≤ v.vault.numTranches * v.vault.trancheAmount := Nat.mul_le_mul_right _ pending
        _ ≤ v.vault.totalAmount := solvent.tranches
    · omega

theorem refund_le {claim : ClaimRecord} {payout : Nat} {vote : VaultVote} {weight : BitVec 64}
    {proof : List Hash} (collisionFree : Set.InjOn hashv S)
    (stored : v.votes v.vault.voteRound = some vote)
    (hashed : ∀ x ∈ proofPreimages hashv claim.investor weight proof, x ∈ S)
    (proved : verifyMerkleProof hashv vote.snapshotRoot (snapshotLeaf hashv claim.investor weight) proof = true)
    (bounded : claim.claimed ≤
      ProRata.share weight.toNat (v.vault.totalAmount - v.vault.released) v.vault.totalWeight)
    (paid : claimedBy claim.investor v.refundClaims + payout = claim.claimed) :
    refunded v + payout ≤ v.vault.totalAmount - v.vault.released := by
  obtain ⟨-, -, ⟨snapshot⟩⟩ := solvent.votes _ _ stored
  have within : WithinShares snapshot (v.vault.totalAmount - v.vault.released) v.refundClaims := by
    rcases solvent.refunds with none | ⟨-, vote', stored', within⟩
    · simp [WithinShares, none]
    · obtain rfl : vote = vote' := Option.some.inj (stored.symm.trans stored')
      exact within snapshot
  rw [refunded, ← sum_upsert_claims paid]
  exact (within.upsert collisionFree hashed proved bounded).sum_le (nodup_upsert _ solvent.refundInvestors)

theorem investorYield_le {claim : ClaimRecord} {payout : Nat} {weight : BitVec 64} {proof : List Hash}
    (collisionFree : Set.InjOn hashv S)
    (hashed : ∀ x ∈ proofPreimages hashv claim.investor weight proof, x ∈ S)
    (proved : verifyMerkleProof hashv v.vault.investorYieldRoot (snapshotLeaf hashv claim.investor weight)
      proof = true)
    (bounded : claim.claimed ≤ ProRata.share weight.toNat v.vault.investorYieldPool v.vault.totalWeight)
    (paid : claimedBy claim.investor v.yieldClaims + payout = claim.claimed) :
    yieldPaid v + payout ≤ v.vault.investorYieldPool := by
  rcases solvent.yieldRoot with ⟨-, empty, none⟩ | ⟨-, -, ⟨snapshot⟩⟩
  · rw [empty, ProRata.share, Nat.mul_zero, Nat.zero_div] at bounded
    simp only [yieldPaid, none, List.map_nil, List.sum_nil]
    omega
  · rw [yieldPaid, ← sum_upsert_claims paid]
    exact ((solvent.yields snapshot).upsert collisionFree hashed proved bounded).sum_le
      (nodup_upsert _ solvent.yieldInvestors)

end payouts

/-! ## One instruction preserves solvency -/

theorem solvent_opened {hashv : Hashv} {S : Set (List UInt8)} {saleAuthority authority : Pubkey}
    {saleOpen issuerFrozen : Bool} {raiseType : RaiseType} {cliffMonths vestingMonths proceeds : Nat}
    {now : Int} {vault : PayoutVault}
    (created : openPayoutVault saleAuthority authority saleOpen raiseType cliffMonths vestingMonths
      proceeds issuerFrozen now = .ok vault) :
    Solvent hashv S (opened vault now) := by
  simp only [openPayoutVault, bind_eq_ok, require_eq_ok, okOr_eq_ok, pure_eq_ok, exists_const] at created
  obtain ⟨-, -, -, -, -, some, -, _, -, rfl⟩ := created
  exact
    { tranches := Nat.mul_div_le _ _
      schedule := .inl ⟨by simp only [opened]; omega, by simp [opened]⟩
      refundInvestors := by simp [opened]
      yieldInvestors := by simp [opened]
      votes := by simp [opened]
      yieldRoot := .inl ⟨rfl, rfl, rfl⟩
      refunds := .inl rfl
      yields := by simp [opened, WithinShares]
      covered := by simp only [opened]; omega }

theorem pay_ok {escrow amount left : Nat} (paid : pay escrow amount = .ok left) :
    left + amount = escrow := by
  simp only [pay, okOr_eq_ok, checkedSub_eq_some] at paid
  omega

section steps
variable {hashv : Hashv} {S : Set (List UInt8)} {v v' : PayoutEscrow} {i : PayoutInstruction}
variable (solvent : Solvent hashv S v)
include solvent

theorem solvent_releasePayout {pauseFlags : PauseFlags} {issuerFrozen founderBlocked : Bool}
    (stepped : step hashv v (.releasePayout pauseFlags issuerFrozen founderBlocked) = .ok v') :
    Solvent hashv S v' := by
  simp only [step, bind_eq_ok, pure_eq_ok, Prod.exists] at stepped
  obtain ⟨vault, amount, released, left, paid, rfl⟩ := stepped
  obtain ⟨active, pending, exact, state, running, rfl⟩ := releasePayout_ok released
  have fits := tranche_le solvent pending exact
  have claims := refundClaims_eq_nil solvent (by simp [active])
  exact
    { solvent with
      schedule := by
        dsimp only
        split at exact
        · have bounded := released_le solvent
          exact .inr ⟨by omega, by omega⟩
        · rcases solvent.schedule with ⟨-, sofar⟩ | ⟨done, -⟩
          · exact .inl ⟨by omega, by rw [sofar, exact, Nat.succ_mul]⟩
          · omega
      refunds := .inl claims
      covered := by
        have covered := solvent.covered
        have balance := pay_ok paid
        simp only [refunded, yieldPaid] at covered ⊢
        omega }

theorem solvent_openVaultVote {isAdmin : Bool} {snapshotRoot : Hash} {totalWeight : Nat} {votingPeriod : Int}
    (snapshot : Nonempty (Snapshot hashv S snapshotRoot totalWeight))
    (stepped : step hashv v (.openVaultVote isAdmin snapshotRoot totalWeight votingPeriod) = .ok v') :
    Solvent hashv S v' := by
  simp only [step, bind_eq_ok, pure_eq_ok, Prod.exists] at stepped
  obtain ⟨vault, vote, voteOpened, rfl⟩ := stepped
  obtain ⟨frozen, positive, same, round, rfl, rfl⟩ := openVaultVote_ok voteOpened
  have weight : v.vault.totalWeight ≠ 0 → v.vault.totalWeight = totalWeight := same.resolve_left
  have claims := refundClaims_eq_nil solvent (by simp [frozen])
  exact
    { solvent with
      votes := by
        intro r stored found
        by_cases new : r = vote.round
        · subst new
          obtain rfl : vote = stored := by simpa using found
          exact ⟨rfl, by simp only; omega, snapshot⟩
        · obtain ⟨keyed, committed, old⟩ := solvent.votes r stored (by simpa [new] using found)
          exact ⟨keyed, by simp only; omega, weight committed ▸ old⟩
      yieldRoot := by
        apply solvent.yieldRoot.imp_right
        rintro ⟨root, committed, old⟩
        exact ⟨root, by simp only; omega, weight committed ▸ old⟩
      refunds := .inl claims
      yields := by
        rcases solvent.yieldRoot with ⟨-, -, none⟩ | ⟨-, committed, -⟩
        · simp [none, WithinShares]
        · have old := solvent.yields
          rw [weight committed] at old
          exact old }

theorem solvent_routeYield {isAdmin : Bool} {pauseFlags : PauseFlags} {amount totalWeight : Nat}
    {investorRoot : Hash} (snapshot : Nonempty (Snapshot hashv S investorRoot totalWeight))
    (stepped : step hashv v (.routeYield isAdmin pauseFlags amount investorRoot totalWeight) = .ok v') :
    Solvent hashv S v' := by
  simp only [step, bind_eq_ok, pure_eq_ok, Prod.exists] at stepped
  obtain ⟨vault, kept, routed, rfl⟩ := stepped
  have active : v.vault.state = .active := by
    simp only [routeYield, bind_eq_ok, require_eq_ok, exists_const] at routed
    exact routed.2.1
  obtain ⟨positive, root, sameRoot, same, founderThird, investorThird, rfl, rfl⟩ := routeYield_ok routed
  have weight : v.vault.totalWeight ≠ 0 → v.vault.totalWeight = totalWeight := same.resolve_left
  have claims := refundClaims_eq_nil solvent (by simp [active])
  exact
    { solvent with
      votes := by
        intro r stored found
        obtain ⟨keyed, committed, old⟩ := solvent.votes r stored found
        exact ⟨keyed, by simp only; omega, weight committed ▸ old⟩
      yieldRoot := .inr ⟨root, by simp only; omega, snapshot⟩
      refunds := .inl claims
      yields := by
        rcases solvent.yieldRoot with ⟨-, -, none⟩ | ⟨set, committed, -⟩
        · simp [none, WithinShares]
        · have old := solvent.yields
          rw [weight committed, sameRoot.resolve_left set] at old
          exact fun snapshot => (old snapshot).mono (Nat.le_add_right _ _)
      covered := by
        have covered := solvent.covered
        simp only [refunded, yieldPaid] at covered ⊢
        omega }

theorem solvent_castVaultVote {round : Nat} {voter : Pubkey} {weight : BitVec 64} {proof : List Hash}
    {choice : VaultVoteChoice} (stepped : step hashv v (.castVaultVote round voter weight proof choice) = .ok v') :
    Solvent hashv S v' := by
  simp only [step, bind_eq_ok, okOr_eq_ok, pure_eq_ok, Prod.exists] at stepped
  obtain ⟨vote, stored, vote', record, cast, rfl⟩ := stepped
  have voting : v.vault.state = .frozen := by
    simp only [castVaultVote, bind_eq_ok, require_eq_ok, exists_const] at cast
    exact cast.2.2.2.2.1
  obtain ⟨sameRoot, sameRound⟩ := castVaultVote_ok cast
  have claims := refundClaims_eq_nil solvent (by simp [voting])
  exact
    { solvent with
      votes := by
        intro r found member
        by_cases voted : r = round
        · subst voted
          obtain rfl : vote' = found := by simpa using member
          obtain ⟨keyed, committed, old⟩ := solvent.votes r vote stored
          exact ⟨sameRound.trans keyed, committed, sameRoot ▸ old⟩
        · exact solvent.votes r found (by simpa [voted] using member)
      refunds := .inl claims }

theorem solvent_finalizeVaultVote {round : Nat}
    (stepped : step hashv v (.finalizeVaultVote round) = .ok v') : Solvent hashv S v' := by
  simp only [step, bind_eq_ok, okOr_eq_ok, pure_eq_ok, Prod.exists] at stepped
  obtain ⟨vote, stored, vault, vote', finalized, rfl⟩ := stepped
  obtain ⟨frozen, sameRoot, sameRound, startTs, state, rfl⟩ := finalizeVaultVote_ok finalized
  have claims := refundClaims_eq_nil solvent (by simp [frozen])
  exact
    { solvent with
      votes := by
        intro r found member
        by_cases closed : r = round
        · subst closed
          obtain rfl : vote' = found := by simpa using member
          obtain ⟨keyed, committed, old⟩ := solvent.votes r vote stored
          exact ⟨sameRound.trans keyed, committed, sameRoot ▸ old⟩
        · exact solvent.votes r found (by simpa [closed] using member)
      refunds := .inl claims }

theorem solvent_claimRefund {round : Nat} {investor : Pubkey} {weight : BitVec 64} {proof : List Hash}
    (collisionFree : Set.InjOn hashv S) (hashed : ∀ x ∈ proofPreimages hashv investor weight proof, x ∈ S)
    (stepped : step hashv v (.claimRefund round investor weight proof) = .ok v') : Solvent hashv S v' := by
  simp only [step, bind_eq_ok, okOr_eq_ok, pure_eq_ok, Prod.exists] at stepped
  obtain ⟨vote, stored, claim, payout, claimed, left, paid, rfl⟩ := stepped
  obtain ⟨cancelled, current, rfl, proved, bounded, exact⟩ := claimRefund_ok claimed
  rw [← (solvent.votes round vote stored).1, current] at stored
  exact
    { solvent with
      refundInvestors := nodup_upsert _ solvent.refundInvestors
      refunds := by
        refine .inr ⟨cancelled, vote, stored, fun snapshot => ?_⟩
        refine WithinShares.upsert ?_ collisionFree hashed proved bounded
        rcases solvent.refunds with none | ⟨-, vote', stored', within⟩
        · simp [WithinShares, none]
        · obtain rfl : vote = vote' := Option.some.inj (stored.symm.trans stored')
          exact within snapshot
      covered := by
        have covered := solvent.covered
        have balance := pay_ok paid
        have moved := sum_upsert_claims exact
        simp only [refunded, yieldPaid] at covered ⊢
        omega }

theorem solvent_claimInvestorYield {investor : Pubkey} {weight : BitVec 64} {proof : List Hash}
    (collisionFree : Set.InjOn hashv S) (hashed : ∀ x ∈ proofPreimages hashv investor weight proof, x ∈ S)
    (stepped : step hashv v (.claimInvestorYield investor weight proof) = .ok v') : Solvent hashv S v' := by
  simp only [step, bind_eq_ok, pure_eq_ok, Prod.exists] at stepped
  obtain ⟨claim, payout, claimed, left, paid, rfl⟩ := stepped
  obtain ⟨rfl, proved, bounded, more, exact⟩ := claimInvestorYield_ok claimed
  have pool : v.vault.investorYieldPool ≠ 0 := by
    intro empty
    rw [empty, ProRata.share, Nat.mul_zero, Nat.zero_div] at bounded
    omega
  exact
    { solvent with
      yieldInvestors := nodup_upsert _ solvent.yieldInvestors
      yieldRoot := by
        apply solvent.yieldRoot.imp_left
        rintro ⟨-, empty, -⟩
        exact absurd empty pool
      yields := fun snapshot => (solvent.yields snapshot).upsert collisionFree hashed proved bounded
      covered := by
        have covered := solvent.covered
        have balance := pay_ok paid
        have moved := sum_upsert_claims exact
        simp only [refunded, yieldPaid] at covered ⊢
        omega }

theorem solvent_claimFounderYield {founder : Pubkey} {pauseFlags : PauseFlags}
    {issuerFrozen founderBlocked : Bool}
    (stepped : step hashv v (.claimFounderYield founder pauseFlags issuerFrozen founderBlocked) = .ok v') :
    Solvent hashv S v' := by
  simp only [step, bind_eq_ok, pure_eq_ok, Prod.exists] at stepped
  obtain ⟨vault, amount, claimed, left, paid, rfl⟩ := stepped
  obtain ⟨rfl, rfl⟩ := claimFounderYield_ok claimed
  exact
    { solvent with
      covered := by
        have covered := solvent.covered
        have balance := pay_ok paid
        simp only [refunded, yieldPaid] at covered ⊢
        omega }

theorem solvent_step (collisionFree : Set.InjOn hashv S) (admissible : Admissible hashv S i)
    (stepped : step hashv v i = .ok v') : Solvent hashv S v' := by
  cases i with
  | postUpdate founder =>
      simp only [step, bind_eq_ok, pure_eq_ok] at stepped
      obtain ⟨vault, posted, rfl⟩ := stepped
      obtain rfl := postUpdate_ok posted
      exact { solvent with }
  | releasePayout => exact solvent_releasePayout solvent stepped
  | freezeVault =>
      simp only [step, bind_eq_ok, pure_eq_ok] at stepped
      obtain ⟨vault, frozen, rfl⟩ := stepped
      have active : v.vault.state = .active := by
        simp only [freezeVault, bind_eq_ok, require_eq_ok, exists_const] at frozen
        exact frozen.1
      have claims := refundClaims_eq_nil solvent (by simp [active])
      obtain rfl := freezeVault_ok frozen
      exact { solvent with refunds := .inl claims }
  | openVaultVote => exact solvent_openVaultVote solvent admissible stepped
  | castVaultVote => exact solvent_castVaultVote solvent stepped
  | finalizeVaultVote => exact solvent_finalizeVaultVote solvent stepped
  | claimRefund => exact solvent_claimRefund solvent collisionFree admissible stepped
  | routeYield => exact solvent_routeYield solvent admissible stepped
  | claimFounderYield => exact solvent_claimFounderYield solvent stepped
  | claimInvestorYield => exact solvent_claimInvestorYield solvent collisionFree admissible stepped
  | syncPayoutFounder newFounder =>
      simp only [step, pure_eq_ok] at stepped
      subst stepped
      exact { solvent with }
  | inboundTransfer amount =>
      simp only [step, pure_eq_ok] at stepped
      subst stepped
      have covered := solvent.covered
      exact { solvent with covered := by simp only [refunded, yieldPaid] at covered ⊢; omega }
  | tick seconds =>
      simp only [step, pure_eq_ok] at stepped
      subst stepped
      exact { solvent with }

end steps

theorem solvent_run {hashv : Hashv} {S : Set (List UInt8)} {initial : PayoutEscrow}
    (start : Solvent hashv S initial) (collisionFree : Set.InjOn hashv S) (run : Run (step hashv) initial)
    (admissible : ∀ i < run.length, Admissible hashv S (run.label i)) :
    ∀ i ≤ run.length, Solvent hashv S (run.state i) := by
  intro i within
  refine run.invariant_from (by rwa [run.starts]) (fun i within _ solvent => ?_) i within (Nat.zero_le i)
  exact solvent_step solvent collisionFree (admissible i within) (run.next i within)

/-! ## The claim classes -/

inductive ClaimClass where
  | principal
  | founderYield
  | investorYield
  deriving DecidableEq, Repr

def reserve (v : PayoutEscrow) : ClaimClass → Nat
  | .principal => v.vault.totalAmount - v.vault.released - refunded v
  | .founderYield => v.vault.founderYieldClaimable
  | .investorYield => v.vault.investorYieldPool - yieldPaid v

def payout (hashv : Hashv) (v : PayoutEscrow) : PayoutInstruction → Option (ClaimClass × Nat)
  | .releasePayout pauseFlags issuerFrozen founderBlocked =>
      (releasePayout v.vault pauseFlags issuerFrozen founderBlocked v.now).toOption.map
        fun released => (.principal, released.2)
  | .claimRefund round investor weight proof =>
      (v.votes round).bind fun vote =>
        (claimRefund hashv v.vault vote (claimedBy investor v.refundClaims) investor weight proof).toOption.map
          fun claimed => (.principal, claimed.2)
  | .claimFounderYield founder pauseFlags issuerFrozen founderBlocked =>
      (claimFounderYield v.vault founder pauseFlags issuerFrozen founderBlocked).toOption.map
        fun claimed => (.founderYield, claimed.2)
  | .claimInvestorYield investor weight proof =>
      (claimInvestorYield hashv v.vault (claimedBy investor v.yieldClaims) investor weight proof).toOption.map
        fun claimed => (.investorYield, claimed.2)
  | _ => none

/-- The escrow covers the three reserves together, and none of them is overdrawn. -/
structure Reserved (v : PayoutEscrow) : Prop where
  released : v.vault.released ≤ v.vault.totalAmount
  refunded : refunded v ≤ v.vault.totalAmount - v.vault.released
  yieldPaid : yieldPaid v ≤ v.vault.investorYieldPool
  covered : v.vault.totalAmount - v.vault.released - Payout.refunded v + v.vault.founderYieldClaimable +
    (v.vault.investorYieldPool - Payout.yieldPaid v) ≤ v.escrow

theorem reserved_of_solvent {hashv : Hashv} {S : Set (List UInt8)} {v : PayoutEscrow}
    (solvent : Solvent hashv S v) : Reserved v where
  released := released_le solvent
  refunded := refunded_le solvent
  yieldPaid := yieldPaid_le solvent
  covered := by
    have released := released_le solvent
    have refunds := refunded_le solvent
    have yields := yieldPaid_le solvent
    have covered := solvent.covered
    omega

theorem pay_of_le {escrow amount : Nat} (enough : amount ≤ escrow) : pay escrow amount = .ok (escrow - amount) := by
  simp [pay, enough]

theorem toOption_eq_some {ε α : Type} {x : Except ε α} {a : α} : x.toOption = some a ↔ x = .ok a := by
  cases x <;> simp [Except.toOption]

/-- An accepted claim draws on the reserve of its own class only, and the escrow can pay it. -/
theorem payout_covered {hashv : Hashv} {S : Set (List UInt8)} {v : PayoutEscrow} {i : PayoutInstruction}
    (solvent : Solvent hashv S v) (collisionFree : Set.InjOn hashv S) (admissible : Admissible hashv S i)
    {c : ClaimClass} {amount : Nat} (pays : payout hashv v i = some (c, amount)) :
    amount ≤ reserve v c ∧ ∃ v', step hashv v i = .ok v' ∧ v'.escrow + amount = v.escrow ∧
      ∀ c', c' ≠ c → reserve v' c' = reserve v c' := by
  have reserved := (reserved_of_solvent solvent).covered
  cases i with
  | releasePayout pauseFlags issuerFrozen founderBlocked =>
      simp only [payout, Option.map_eq_some_iff, toOption_eq_some, Prod.exists, Prod.mk.injEq] at pays
      obtain ⟨vault, amount, released, rfl, rfl⟩ := pays
      obtain ⟨active, pending, exact, state, -, rfl⟩ := releasePayout_ok released
      have fits := tranche_le solvent pending exact
      have claims := refundClaims_eq_nil solvent (by simp [active])
      have bounded : amount ≤ reserve v .principal := by simp [reserve, refunded, claims]; omega
      have enough : amount ≤ v.escrow := by simp only [reserve] at bounded; omega
      refine ⟨bounded, _, by simp [step, released, pay_of_le enough]; rfl, by dsimp only; omega, ?_⟩
      intro c' other
      cases c' <;> first | rfl | contradiction
  | claimRefund round investor weight proof =>
      simp only [payout, Option.bind_eq_some_iff, Option.map_eq_some_iff, toOption_eq_some, Prod.exists,
        Prod.mk.injEq] at pays
      obtain ⟨vote, stored, claim, amount, claimed, rfl, rfl⟩ := pays
      obtain ⟨cancelled, current, rfl, proved, share, exact⟩ := claimRefund_ok claimed
      have latest := stored
      rw [← (solvent.votes round vote stored).1, current] at latest
      have fits := refund_le solvent collisionFree latest admissible proved share exact
      have bounded : amount ≤ reserve v .principal := by simp only [reserve]; omega
      have enough : amount ≤ v.escrow := by simp only [reserve] at bounded; omega
      refine ⟨bounded, _, by simp [step, stored, okOr, claimed, pay_of_le enough]; rfl,
        by dsimp only; omega, ?_⟩
      intro c' other
      cases c' <;> first | rfl | contradiction
  | claimFounderYield founder pauseFlags issuerFrozen founderBlocked =>
      simp only [payout, Option.map_eq_some_iff, toOption_eq_some, Prod.exists, Prod.mk.injEq] at pays
      obtain ⟨vault, amount, claimed, rfl, rfl⟩ := pays
      obtain ⟨rfl, rfl⟩ := claimFounderYield_ok claimed
      have enough : v.vault.founderYieldClaimable ≤ v.escrow := by omega
      refine ⟨Nat.le_refl _, _, by simp [step, claimed, pay_of_le enough]; rfl, by dsimp only; omega, ?_⟩
      intro c' other
      cases c' <;> first | rfl | contradiction
  | claimInvestorYield investor weight proof =>
      simp only [payout, Option.map_eq_some_iff, toOption_eq_some, Prod.exists, Prod.mk.injEq] at pays
      obtain ⟨claim, amount, claimed, rfl, rfl⟩ := pays
      obtain ⟨rfl, proved, share, -, exact⟩ := claimInvestorYield_ok claimed
      have fits := investorYield_le solvent collisionFree admissible proved share exact
      have bounded : amount ≤ reserve v .investorYield := by simp only [reserve]; omega
      have enough : amount ≤ v.escrow := by simp only [reserve] at bounded; omega
      refine ⟨bounded, _, by simp [step, claimed, pay_of_le enough]; rfl, by dsimp only; omega, ?_⟩
      intro c' other
      cases c' <;> first | rfl | contradiction
  | _ => simp [payout] at pays

/-- In every run of a vault whose roots commit to snapshots of at most the stated total weight, the
escrow covers the unreleased principal net of refunds, the founder's yield and the unclaimed investor
yield together; every accepted claim is paid, and out of the reserve of its own class. -/
theorem payout_vault_solvent {hashv : Hashv} {S : Set (List UInt8)} (collisionFree : Set.InjOn hashv S)
    {saleAuthority authority : Pubkey} {saleOpen issuerFrozen : Bool} {raiseType : RaiseType}
    {cliffMonths vestingMonths proceeds : Nat} {now : Int} {vault : PayoutVault}
    (created : openPayoutVault saleAuthority authority saleOpen raiseType cliffMonths vestingMonths
      proceeds issuerFrozen now = .ok vault)
    (run : Run (step hashv) (opened vault now))
    (admissible : ∀ i < run.length, Admissible hashv S (run.label i)) :
    ∀ i ≤ run.length, Reserved (run.state i) ∧
      ∀ claim, Admissible hashv S claim → ∀ c amount, payout hashv (run.state i) claim = some (c, amount) →
        amount ≤ reserve (run.state i) c ∧
          ∃ v', step hashv (run.state i) claim = .ok v' ∧ v'.escrow + amount = (run.state i).escrow ∧
            ∀ c', c' ≠ c → reserve v' c' = reserve (run.state i) c' := by
  intro i within
  have solvent := solvent_run (solvent_opened created) collisionFree run admissible i within
  exact ⟨reserved_of_solvent solvent,
    fun claim valid c amount pays => payout_covered solvent collisionFree valid pays⟩

/-! A vault of 100 units over four tranches whose two investors, of weights 60 and 40, take it back. -/

def exampleTree : Merkle.Tree (Pubkey × BitVec 64) :=
  .node (.leaf (1, 60)) (.leaf (2, 40))

def exampleLeaf₁ : Hash := 0x78b13073f95a76c21efc9d62c8b4ebf9d0d4012689dbbaf87f367553448ccecd
def exampleLeaf₂ : Hash := 0x747ed9787598bed03cc91a3d0790f75bfbacfdf26a8918d1cd0bae88aee2d7f8
def exampleRoot : Hash := 0xdac1fcd271e460eb27375c905ac014cef47a63e175430b9b9f19d90194e7f697

/-- SHA-256 on the three strings that the example hashes. -/
def exampleHashv : Hashv := fun x =>
  if x = snapshotBytes (1, 60) then exampleLeaf₁
  else if x = snapshotBytes (2, 40) then exampleLeaf₂
  else if x = keyBytes exampleLeaf₂ ++ keyBytes exampleLeaf₁ then exampleRoot
  else 0

def exampleStrings : List (List UInt8) :=
  exampleTree.preimages exampleHashv keyBytes snapshotBytes

def exampleSnapshot : Snapshot exampleHashv { x | x ∈ exampleStrings } exampleRoot 100 where
  tree := exampleTree
  committed := by decide
  weights := by decide
  hashed := fun _ member => member

def exampleVault : PayoutVault :=
  { founder := 9, raiseType := .startup, totalAmount := 100, released := 0, startTs := 0, numTranches := 4,
    trancheAmount := 25, tranchesReleased := 0, updatesPosted := 0, lastUpdateTs := 0,
    founderYieldClaimable := 0, investorYieldPool := 0, investorYieldRoot := 0, totalWeight := 0,
    state := .active, version := 2, voteRound := 0, votePending := false }

def exampleInstructions : List PayoutInstruction :=
  [.postUpdate 9, .releasePayout 0 false false, .routeYield true 0 9 exampleRoot 100,
    .claimInvestorYield 1 60 [exampleLeaf₂], .tick 7776000, .freezeVault,
    .openVaultVote true exampleRoot 100 604800, .castVaultVote 1 1 60 [exampleLeaf₂] .returnCapital,
    .tick 604800, .finalizeVaultVote 1, .claimRefund 1 2 40 [exampleLeaf₁]]

def exampleRun : Run (step exampleHashv) (opened exampleVault 0) :=
  .ofLabels _ _ exampleInstructions rfl

theorem payout_vault_solvent_example :
    (exampleRun.state 11).escrow = 50 ∧ Reserved (exampleRun.state 11) := by
  have collisionFree : Set.InjOn exampleHashv { x | x ∈ exampleStrings } := by
    have distinct : ∀ x ∈ exampleStrings, ∀ y ∈ exampleStrings, exampleHashv x = exampleHashv y → x = y := by
      decide +kernel
    exact fun x hx y hy => distinct x hx y hy
  have created : openPayoutVault 9 9 true .startup 0 4 100 false 0 = .ok exampleVault := rfl
  have proofs : (∀ x ∈ proofPreimages exampleHashv 1 60 [exampleLeaf₂], x ∈ exampleStrings) ∧
      ∀ x ∈ proofPreimages exampleHashv 2 40 [exampleLeaf₁], x ∈ exampleStrings := by
    decide +kernel
  have valid : ∀ a ∈ exampleInstructions, Admissible exampleHashv { x | x ∈ exampleStrings } a := by
    simp only [exampleInstructions, Admissible, List.forall_mem_cons, Set.mem_ofPred_eq]
    exact ⟨trivial, trivial, ⟨exampleSnapshot⟩, proofs.1, trivial, trivial, ⟨exampleSnapshot⟩, trivial,
      trivial, trivial, proofs.2, by simp⟩
  exact ⟨by decide +kernel, (payout_vault_solvent collisionFree created exampleRun
    (fun i within => valid _ (Run.label_mem_ofLabels within)) 11 (by decide)).1⟩

end Mancipatio.Payout
