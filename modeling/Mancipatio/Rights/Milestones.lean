import Mancipatio.Snapshot
import Mancipatio.Library.Tables
import Mancipatio.Library.Ledger

/-!
# Rights issuances

The underlying units of a rights token are delivered milestone by milestone: an admin publishes a pool and
a snapshot of entitlements, and each holder claims once with a proof.
-/

namespace Mancipatio.Rights
open Checked Execution Ledger

structure RightsIssuance where
  underlyingMint : Pubkey
  escrow : Pubkey
  authority : Pubkey
  totalClaimed : Nat
  milestonesCount : Nat
  deriving DecidableEq, Repr

structure VestingMilestone where
  merkleRoot : Hash
  amountPool : Nat
  claimed : Nat
  unlockTs : Int
  deriving DecidableEq, Repr

structure MilestoneClaim where
  amount : Nat
  deriving DecidableEq, Repr

abbrev MilestoneKey := Pubkey × BitVec 16

structure RightsState where
  issuances : Pubkey → Option RightsIssuance
  milestones : MilestoneKey → Option VestingMilestone
  claims : MilestoneKey × Pubkey → Option MilestoneClaim
  accounts : Accounts Pubkey
  now : Int

/-! ## Instructions -/

section instructions
variable (hashv : Hashv) (r : RightsState)

def createRightsIssuance (authority : Pubkey) (isAdmin : Bool) (pauseFlags : PauseFlags)
    (issuance escrow underlyingMint : Pubkey) : Except RegistryError RightsState := do
  require (isAdmin = true) .accountNotInitialized
  require (r.issuances issuance = none) .accountAlreadyInUse
  require (r.accounts escrow = none) .accountAlreadyInUse
  require (¬ isPaused pauseFlags (pauseDistributions ||| pausePayoutModules)) .platformPaused
  return { r with
    issuances := Function.update r.issuances issuance
      (some { underlyingMint, escrow, authority, totalClaimed := 0, milestonesCount := 0 })
    accounts := Function.update r.accounts escrow
      (some { mint := underlyingMint, owner := issuance, amount := 0, frozen := false }) }

def publishMilestone (authority : Pubkey) (isAdmin : Bool) (pauseFlags : PauseFlags) (key : MilestoneKey)
    (merkleRoot : Hash) (amountPool : BitVec 64) (unlockTs : Int) : Except RegistryError RightsState := do
  require (isAdmin = true) .accountNotInitialized
  let issuance ← okOr (r.issuances key.1) .accountNotInitialized
  require (issuance.authority = authority) .unauthorized
  require (r.milestones key = none) .accountAlreadyInUse
  require (¬ isPaused pauseFlags (pauseDistributions ||| pausePayoutModules)) .platformPaused
  let milestonesCount ← okOr (checkedAdd 16 issuance.milestonesCount 1) .overflow
  return { r with
    issuances := Function.update r.issuances key.1 (some { issuance with milestonesCount })
    milestones := Function.update r.milestones key
      (some { merkleRoot, amountPool := amountPool.toNat, claimed := 0, unlockTs }) }

/-- `receiver` is the verdict of the receiver-KYC gate. -/
def claimMilestone (claimer : Pubkey) (key : MilestoneKey) (claimerTokenAccount : Pubkey) (amount : BitVec 64)
    (proof : List Hash) (receiver : ReceiverKyc) : Except RegistryError RightsState := do
  -- a program address has no key to sign with
  require (claimer ≠ key.1) .missingSignature
  let issuance ← okOr (r.issuances key.1) .accountNotInitialized
  let milestone ← okOr (r.milestones key) .accountNotInitialized
  require (r.claims (key, claimer) = none) .accountAlreadyInUse
  let destination ← okOr (r.accounts claimerTokenAccount) .accountNotInitialized
  require (destination.mint = issuance.underlyingMint) .unauthorized
  require (destination.owner = claimer) .unauthorized
  require (milestone.unlockTs ≤ r.now) .milestoneLocked
  let leaf := snapshotLeaf hashv claimer amount
  require (verifyMerkleProof hashv milestone.merkleRoot leaf proof = true) .invalidMerkleProof
  let newClaimed ← okOr (checkedAdd 64 milestone.claimed amount.toNat) .overflow
  require (newClaimed ≤ milestone.amountPool) .milestonePoolExceeded
  receiver
  let accounts ← transfer .insufficientFunds issuance.underlyingMint issuance.escrow key.1 r.accounts claimerTokenAccount
    amount.toNat
  let totalClaimed ← okOr (checkedAdd 64 issuance.totalClaimed amount.toNat) .overflow
  return { r with
    issuances := Function.update r.issuances key.1 (some { issuance with totalClaimed })
    milestones := Function.update r.milestones key (some { milestone with claimed := newClaimed })
    claims := Function.update r.claims (key, claimer) (some { amount := amount.toNat })
    accounts }

end instructions

/-! ## Runs -/

/-- `setAccount` is whatever others do to token accounts that no issuance owns; `inboundTransfer` funds an
escrow. -/
inductive RightsLabel where
  | createRightsIssuance (authority : Pubkey) (isAdmin : Bool) (pauseFlags : PauseFlags)
      (issuance escrow underlyingMint : Pubkey)
  | publishMilestone (authority : Pubkey) (isAdmin : Bool) (pauseFlags : PauseFlags) (key : MilestoneKey)
      (merkleRoot : Hash) (amountPool : BitVec 64) (unlockTs : Int)
  | claimMilestone (claimer : Pubkey) (key : MilestoneKey) (claimerTokenAccount : Pubkey) (amount : BitVec 64)
      (proof : List Hash) (receiver : ReceiverKyc)
  | inboundTransfer (issuance : Pubkey) (amount : Nat)
  | setAccount (address : Pubkey) (account : Option (TokenAccount Pubkey))
  | tick (seconds : Nat)

def step (hashv : Hashv) (r : RightsState) : RightsLabel → Except RegistryError RightsState
  | .createRightsIssuance authority isAdmin pauseFlags issuance escrow underlyingMint =>
      createRightsIssuance r authority isAdmin pauseFlags issuance escrow underlyingMint
  | .publishMilestone authority isAdmin pauseFlags key merkleRoot amountPool unlockTs =>
      publishMilestone r authority isAdmin pauseFlags key merkleRoot amountPool unlockTs
  | .claimMilestone claimer key claimerTokenAccount amount proof receiver =>
      claimMilestone hashv r claimer key claimerTokenAccount amount proof receiver
  | .inboundTransfer issuance amount => do
      let record ← okOr (r.issuances issuance) .accountNotInitialized
      let escrow ← okOr (r.accounts record.escrow) .accountNotInitialized
      let amount ← okOr (checkedAdd 64 escrow.amount amount) .overflow
      return { r with accounts := Function.update r.accounts record.escrow (some { escrow with amount }) }
  | .setAccount address account => do
      require (∀ held ∈ r.accounts address, r.issuances held.owner = none) .unauthorized
      return { r with accounts := Function.update r.accounts address account }
  | .tick seconds => .ok { r with now := r.now + seconds }

def noIssuances (accounts : Accounts Pubkey) (now : Int) : RightsState where
  issuances := fun _ => none
  milestones := fun _ => none
  claims := fun _ => none
  accounts
  now

/-! ## What a step does -/

inductive Effect (hashv : Hashv) (r : RightsState) : RightsLabel → RightsState → Prop where
  | opened {authority isAdmin pauseFlags issuance escrow underlyingMint accounts} : r.issuances issuance = none →
      Effect hashv r (.createRightsIssuance authority isAdmin pauseFlags issuance escrow underlyingMint)
        { r with
          issuances := Function.update r.issuances issuance
            (some { underlyingMint, escrow, authority, totalClaimed := 0, milestonesCount := 0 })
          accounts }
  | published {authority isAdmin pauseFlags key merkleRoot amountPool unlockTs issuance milestonesCount} :
      r.issuances key.1 = some issuance → r.milestones key = none →
      Effect hashv r (.publishMilestone authority isAdmin pauseFlags key merkleRoot amountPool unlockTs)
        { r with
          issuances := Function.update r.issuances key.1 (some { issuance with milestonesCount })
          milestones := Function.update r.milestones key
            (some { merkleRoot, amountPool := amountPool.toNat, claimed := 0, unlockTs }) }
  | claimed {claimer key claimerTokenAccount amount proof receiver issuance milestone destination accounts} :
      r.issuances key.1 = some issuance → r.milestones key = some milestone → r.claims (key, claimer) = none →
      claimer ≠ key.1 → r.accounts claimerTokenAccount = some destination → destination.owner = claimer →
      milestone.unlockTs ≤ r.now →
      verifyMerkleProof hashv milestone.merkleRoot (snapshotLeaf hashv claimer amount) proof = true →
      milestone.claimed + amount.toNat ≤ milestone.amountPool →
      transfer RegistryError.insufficientFunds issuance.underlyingMint issuance.escrow key.1 r.accounts
        claimerTokenAccount amount.toNat = .ok accounts →
      Effect hashv r (.claimMilestone claimer key claimerTokenAccount amount proof receiver)
        { r with
          issuances := Function.update r.issuances key.1
            (some { issuance with totalClaimed := issuance.totalClaimed + amount.toNat })
          milestones := Function.update r.milestones key
            (some { milestone with claimed := milestone.claimed + amount.toNat })
          claims := Function.update r.claims (key, claimer) (some { amount := amount.toNat })
          accounts }
  | inbound {issuance amount accounts} : Effect hashv r (.inboundTransfer issuance amount) { r with accounts }
  | elsewhere {address account accounts} : Effect hashv r (.setAccount address account) { r with accounts }
  | ticked {seconds} : Effect hashv r (.tick seconds) { r with now := r.now + (seconds : Nat) }

theorem step_effect {hashv : Hashv} {r r' : RightsState} {label : RightsLabel} (stepped : step hashv r label = .ok r') :
    Effect hashv r label r' := by
  cases label with
  | createRightsIssuance authority isAdmin pauseFlags issuance escrow underlyingMint =>
      simp only [step, createRightsIssuance, bind_eq_ok, require_eq_ok, pure_eq_ok, exists_const] at stepped
      obtain ⟨-, fresh, -, -, rfl⟩ := stepped
      exact .opened fresh
  | publishMilestone authority isAdmin pauseFlags key merkleRoot amountPool unlockTs =>
      simp only [step, publishMilestone, bind_eq_ok, okOr_eq_ok, require_eq_ok, pure_eq_ok, exists_const] at stepped
      obtain ⟨-, issuance, stored, -, fresh, -, count, -, rfl⟩ := stepped
      exact .published stored fresh
  | claimMilestone claimer key claimerTokenAccount amount proof receiver =>
      simp only [step, claimMilestone, bind_eq_ok, okOr_eq_ok, require_eq_ok, checkedAdd_eq_some, pure_eq_ok,
        exists_const] at stepped
      obtain ⟨foreign, issuance, stored, milestone, found, unclaimed, destination, held, -, owner, unlocked, proved, _,
        ⟨rfl, -⟩, within, -, -, accounts, moved, _, ⟨rfl, -⟩, rfl⟩ := stepped
      exact .claimed stored found unclaimed foreign held owner unlocked proved within moved
  | inboundTransfer issuance amount =>
      simp only [step, bind_eq_ok, pure_eq_ok] at stepped
      obtain ⟨_, -, _, -, _, -, rfl⟩ := stepped
      exact .inbound
  | setAccount address account =>
      simp only [step, bind_eq_ok, pure_eq_ok] at stepped
      obtain ⟨_, -, rfl⟩ := stepped
      exact .elsewhere
  | tick seconds =>
      cases stepped
      exact .ticked

end Mancipatio.Rights
