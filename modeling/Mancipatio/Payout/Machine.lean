import Mancipatio.Payout.Vault
import Mancipatio.Library.Execution
import Mancipatio.Library.ProRata
import Mancipatio.Library.Rows

/-!
# One payout vault as a state machine
-/

namespace Mancipatio.Payout
open Checked Execution Rows

structure PayoutEscrow where
  vault : PayoutVault
  votes : Nat → Option VaultVote
  voteRecords : List VaultVoteRecord
  refundClaims : List ClaimRecord
  yieldClaims : List ClaimRecord
  escrow : Nat
  now : Int

inductive PayoutInstruction where
  | postUpdate (founder : Pubkey)
  | releasePayout (pauseFlags : PauseFlags) (issuerFrozen founderBlocked : Bool)
  | freezeVault
  | openVaultVote (isAdmin : Bool) (snapshotRoot : Hash) (totalWeight : Nat) (votingPeriod : Int)
  | castVaultVote (round : Nat) (voter : Pubkey) (weight : BitVec 64) (proof : List Hash)
      (choice : VaultVoteChoice)
  | finalizeVaultVote (round : Nat)
  | claimRefund (round : Nat) (investor : Pubkey) (weight : BitVec 64) (proof : List Hash)
  | routeYield (isAdmin : Bool) (pauseFlags : PauseFlags) (amount : Nat) (investorRoot : Hash)
      (totalWeight : Nat)
  | claimFounderYield (founder : Pubkey) (pauseFlags : PauseFlags) (issuerFrozen founderBlocked : Bool)
  | claimInvestorYield (investor : Pubkey) (weight : BitVec 64) (proof : List Hash)
  | syncPayoutFounder (newFounder : Pubkey)
  | inboundTransfer (amount : Nat)
  | tick (seconds : Nat)

instance : Inhabited PayoutInstruction := ⟨.tick 0⟩

def pay (escrow amount : Nat) : Except RegistryError Nat :=
  okOr (checkedSub escrow amount) .insufficientFunds

def claimedBy (investor : Pubkey) (claims : List ClaimRecord) : Nat :=
  (lookup ClaimRecord.investor investor claims).elim 0 ClaimRecord.claimed

def refunded (v : PayoutEscrow) : Nat :=
  (v.refundClaims.map ClaimRecord.claimed).sum

def yieldPaid (v : PayoutEscrow) : Nat :=
  (v.yieldClaims.map ClaimRecord.claimed).sum

def step (hashv : Hashv) (v : PayoutEscrow) : PayoutInstruction → Except RegistryError PayoutEscrow
  | .postUpdate founder => do
      return { v with vault := ← postUpdate v.vault founder v.now }
  | .releasePayout pauseFlags issuerFrozen founderBlocked => do
      let (vault, amount) ← releasePayout v.vault pauseFlags issuerFrozen founderBlocked v.now
      return { v with vault, escrow := ← pay v.escrow amount }
  | .freezeVault => do
      return { v with vault := ← freezeVault v.vault v.now }
  | .openVaultVote isAdmin snapshotRoot totalWeight votingPeriod => do
      let (vault, vote) ← openVaultVote v.vault isAdmin snapshotRoot totalWeight votingPeriod v.now
      return { v with vault, votes := Function.update v.votes vote.round (some vote) }
  | .castVaultVote round voter weight proof choice => do
      let vote ← okOr (v.votes round) .accountNotInitialized
      let recorded := v.voteRecords.any fun r => r.round = round ∧ r.voter = voter
      let (vote, record) ← castVaultVote hashv v.vault vote recorded voter weight proof choice v.now
      return { v with votes := Function.update v.votes round (some vote),
                      voteRecords := v.voteRecords ++ [record] }
  | .finalizeVaultVote round => do
      let vote ← okOr (v.votes round) .accountNotInitialized
      let (vault, vote) ← finalizeVaultVote v.vault vote v.now
      return { v with vault, votes := Function.update v.votes round (some vote) }
  | .claimRefund round investor weight proof => do
      let vote ← okOr (v.votes round) .accountNotInitialized
      let (claim, payout) ←
        claimRefund hashv v.vault vote (claimedBy investor v.refundClaims) investor weight proof
      let escrow ← pay v.escrow payout
      return { v with refundClaims := upsert ClaimRecord.investor claim v.refundClaims, escrow }
  | .routeYield isAdmin pauseFlags amount investorRoot totalWeight => do
      let (vault, kept) ← routeYield v.vault isAdmin pauseFlags amount investorRoot totalWeight
      return { v with vault, escrow := v.escrow + kept }
  | .claimFounderYield founder pauseFlags issuerFrozen founderBlocked => do
      let (vault, amount) ← claimFounderYield v.vault founder pauseFlags issuerFrozen founderBlocked
      return { v with vault, escrow := ← pay v.escrow amount }
  | .claimInvestorYield investor weight proof => do
      let (claim, payout) ←
        claimInvestorYield hashv v.vault (claimedBy investor v.yieldClaims) investor weight proof
      let escrow ← pay v.escrow payout
      return { v with yieldClaims := upsert ClaimRecord.investor claim v.yieldClaims, escrow }
  | .syncPayoutFounder newFounder => return { v with vault := { v.vault with founder := newFounder } }
  | .inboundTransfer amount => return { v with escrow := v.escrow + amount }
  | .tick seconds => return { v with now := v.now + seconds }

def opened (vault : PayoutVault) (now : Int) : PayoutEscrow :=
  { vault, votes := fun _ => none, voteRecords := [], refundClaims := [], yieldClaims := [],
    escrow := vault.totalAmount, now }

/-! ## What the instructions do -/

section effects
variable {hashv : Hashv} {v v' : PayoutVault} {vote vote' : VaultVote} {now : Int} {amount : Nat}

theorem postUpdate_ok {founder : Pubkey} (posted : postUpdate v founder now = .ok v') :
    v' = { v with updatesPosted := v.updatesPosted + 1, lastUpdateTs := now } := by
  simp only [postUpdate, bind_eq_ok, require_eq_ok, okOr_eq_ok, checkedAdd_eq_some, pure_eq_ok,
    exists_const] at posted
  obtain ⟨-, -, -, -, -, -, _, ⟨rfl, -⟩, rfl⟩ := posted
  rfl

theorem trancheDue_ok (due : trancheDue v now = .ok amount) :
    v.tranchesReleased < v.numTranches ∧
      amount = if v.tranchesReleased + 1 = v.numTranches then v.totalAmount - v.released
        else v.trancheAmount := by
  unfold trancheDue at due
  cases raise : v.raiseType with
  | mature => simp [raise] at due
  | startup =>
      simp only [raise, bind_eq_ok, require_eq_ok, exists_const] at due
      obtain ⟨pending, -, -, -, -, due⟩ := due
      refine ⟨pending, ?_⟩
      split at due
      · next last =>
          rw [okOr_eq_ok, checkedSub_eq_some] at due
          rw [if_pos last, due.1]
      · next more =>
          rw [pure_eq_ok] at due
          rw [if_neg more, due]

theorem releasePayout_ok {pauseFlags : PauseFlags} {issuerFrozen founderBlocked : Bool}
    (released : releasePayout v pauseFlags issuerFrozen founderBlocked now = .ok (v', amount)) :
    v.state = .active ∧ v.tranchesReleased < v.numTranches ∧
      amount = (if v.tranchesReleased + 1 = v.numTranches then v.totalAmount - v.released
        else v.trancheAmount) ∧
      ∃ state, state ≠ .cancelled ∧ v' = { v with
        released := v.released + amount
        tranchesReleased := v.tranchesReleased + 1
        state } := by
  simp only [releasePayout, bind_eq_ok, require_eq_ok, okOr_eq_ok, checkedAdd_eq_some, pure_eq_ok,
    Prod.mk.injEq, exists_const] at released
  obtain ⟨active, -, -, -, _, due, -, _, ⟨rfl, -⟩, _, ⟨rfl, -⟩, rfl, rfl⟩ := released
  obtain ⟨pending, exact⟩ := trancheDue_ok due
  refine ⟨active, pending, exact, _, ?_, rfl⟩
  split <;> simp [active]

theorem freezeVault_ok (frozen : freezeVault v now = .ok v') : v' = { v with state := .frozen } := by
  simp only [freezeVault, bind_eq_ok, require_eq_ok, pure_eq_ok, exists_const] at frozen
  obtain ⟨-, -, -, -, -, rfl⟩ := frozen
  rfl

theorem openVaultVote_ok {isAdmin : Bool} {snapshotRoot : Hash} {totalWeight : Nat} {votingPeriod : Int}
    (opened : openVaultVote v isAdmin snapshotRoot totalWeight votingPeriod now = .ok (v', vote)) :
    v.state = .frozen ∧ 0 < totalWeight ∧ (v.totalWeight = 0 ∨ v.totalWeight = totalWeight) ∧
      vote.round = v.voteRound + 1 ∧ vote.snapshotRoot = snapshotRoot ∧
      v' = { v with voteRound := v.voteRound + 1, votePending := true, totalWeight } := by
  simp only [openVaultVote, bind_eq_ok, require_eq_ok, okOr_eq_ok, checkedAdd_eq_some, pure_eq_ok,
    Prod.mk.injEq, exists_const] at opened
  obtain ⟨-, frozen, -, -, _, ⟨rfl, -⟩, ⟨positive, -⟩, -, _, -, same, rfl, rfl⟩ := opened
  exact ⟨frozen, positive, same, rfl, rfl, rfl⟩

theorem castVaultVote_ok {recorded : Bool} {voter : Pubkey} {weight : BitVec 64} {proof : List Hash}
    {choice : VaultVoteChoice} {record : VaultVoteRecord}
    (cast : castVaultVote hashv v vote recorded voter weight proof choice now = .ok (vote', record)) :
    vote'.snapshotRoot = vote.snapshotRoot ∧ vote'.round = vote.round := by
  simp only [castVaultVote, bind_eq_ok, require_eq_ok, okOr_eq_ok, exists_const] at cast
  obtain ⟨-, -, -, -, -, -, -, _, -, _, -, -, cast⟩ := cast
  cases choice <;>
    · simp only [bind_eq_ok, okOr_eq_ok, pure_eq_ok, Prod.mk.injEq] at cast
      obtain ⟨_, -, rfl, -⟩ := cast
      exact ⟨rfl, rfl⟩

theorem finalizeVaultVote_ok (finalized : finalizeVaultVote v vote now = .ok (v', vote')) :
    v.state = .frozen ∧ vote'.snapshotRoot = vote.snapshotRoot ∧ vote'.round = vote.round ∧
      ∃ startTs state, v' = { v with votePending := false, startTs, state } := by
  simp only [finalizeVaultVote, bind_eq_ok, require_eq_ok, exists_const] at finalized
  obtain ⟨frozen, -, -, -, -, finalized⟩ := finalized
  refine ⟨frozen, ?_⟩
  split at finalized
  · simp only [pure_eq_ok, Prod.mk.injEq] at finalized
    obtain ⟨rfl, rfl⟩ := finalized
    exact ⟨rfl, rfl, v.startTs, _, rfl⟩
  · simp only [bind_eq_ok, okOr_eq_ok, pure_eq_ok, Prod.mk.injEq] at finalized
    obtain ⟨-, -, -, -, startTs, -, rfl, rfl⟩ := finalized
    exact ⟨rfl, rfl, startTs, _, rfl⟩

theorem poolShare_ok {weight : BitVec 64} {pool totalWeight entitlement : Nat}
    (shared : poolShare weight pool totalWeight = .ok entitlement) :
    totalWeight ≠ 0 ∧ entitlement ≤ ProRata.share weight.toNat pool totalWeight := by
  simp only [poolShare, bind_eq_ok, okOr_eq_ok, checkedMul_eq_some, checkedDiv_eq_some, pure_eq_ok] at shared
  obtain ⟨_, ⟨rfl, -⟩, _, ⟨rfl, positive⟩, rfl⟩ := shared
  exact ⟨positive, truncate_le _ _⟩

theorem claimRefund_ok {claimed : Nat} {investor : Pubkey} {weight : BitVec 64} {proof : List Hash}
    {claim : ClaimRecord}
    (refunded : claimRefund hashv v vote claimed investor weight proof = .ok (claim, amount)) :
    v.state = .cancelled ∧ vote.round = v.voteRound ∧ claim.investor = investor ∧
      verifyMerkleProof hashv vote.snapshotRoot (snapshotLeaf hashv investor weight) proof = true ∧
      claim.claimed ≤ ProRata.share weight.toNat (v.totalAmount - v.released) v.totalWeight ∧
      claimed + amount = claim.claimed := by
  simp only [claimRefund, bind_eq_ok, require_eq_ok, okOr_eq_ok, checkedSub_eq_some, pure_eq_ok,
    Prod.mk.injEq, exists_const] at refunded
  obtain ⟨cancelled, -, -, ⟨round, -⟩, -, proved, _, ⟨rfl, -⟩, _, shared, more, rfl, rfl⟩ := refunded
  exact ⟨cancelled, round, rfl, proved, (poolShare_ok shared).2, Nat.add_sub_cancel' more.le⟩

theorem routeYield_ok {isAdmin : Bool} {pauseFlags : PauseFlags} {investorRoot : Hash} {totalWeight kept : Nat}
    (routed : routeYield v isAdmin pauseFlags amount investorRoot totalWeight = .ok (v', kept)) :
    0 < totalWeight ∧ investorRoot ≠ 0 ∧ (v.investorYieldRoot = 0 ∨ v.investorYieldRoot = investorRoot) ∧
      (v.totalWeight = 0 ∨ v.totalWeight = totalWeight) ∧
      ∃ founderThird investorThird, kept = founderThird + investorThird ∧ v' = { v with
        founderYieldClaimable := v.founderYieldClaimable + founderThird
        investorYieldPool := v.investorYieldPool + investorThird
        investorYieldRoot := investorRoot
        totalWeight } := by
  simp only [routeYield, bind_eq_ok, require_eq_ok, okOr_eq_ok, checkedAdd_eq_some, pure_eq_ok,
    Prod.mk.injEq, exists_const] at routed
  obtain ⟨-, -, -, -, ⟨positive, root⟩, sameRoot, sameWeight, _, ⟨rfl, -⟩, _, ⟨rfl, -⟩, rfl, rfl⟩ := routed
  exact ⟨positive, root, sameRoot, sameWeight, _, _, rfl, rfl⟩

theorem claimFounderYield_ok {founder : Pubkey} {pauseFlags : PauseFlags} {issuerFrozen founderBlocked : Bool}
    (claimed : claimFounderYield v founder pauseFlags issuerFrozen founderBlocked = .ok (v', amount)) :
    amount = v.founderYieldClaimable ∧ v' = { v with founderYieldClaimable := 0 } := by
  simp only [claimFounderYield, bind_eq_ok, require_eq_ok, pure_eq_ok, Prod.mk.injEq, exists_const] at claimed
  obtain ⟨-, -, -, -, -, rfl, rfl⟩ := claimed
  exact ⟨rfl, rfl⟩

theorem claimInvestorYield_ok {claimed : Nat} {investor : Pubkey} {weight : BitVec 64} {proof : List Hash}
    {claim : ClaimRecord}
    (drawn : claimInvestorYield hashv v claimed investor weight proof = .ok (claim, amount)) :
    claim.investor = investor ∧
      verifyMerkleProof hashv v.investorYieldRoot (snapshotLeaf hashv investor weight) proof = true ∧
      claim.claimed ≤ ProRata.share weight.toNat v.investorYieldPool v.totalWeight ∧
      claimed < claim.claimed ∧ claimed + amount = claim.claimed := by
  simp only [claimInvestorYield, bind_eq_ok, require_eq_ok, pure_eq_ok, Prod.mk.injEq, exists_const] at drawn
  obtain ⟨proved, _, shared, more, rfl, rfl⟩ := drawn
  exact ⟨rfl, proved, (poolShare_ok shared).2, more, Nat.add_sub_cancel' more.le⟩

end effects

end Mancipatio.Payout
