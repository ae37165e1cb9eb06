import Mancipatio.Snapshot

/-!
# Payout vaults

A payout vault holds the proceeds of a startup sale and pays them to the founder in monthly tranches.
Investors can vote a frozen vault into returning the remaining principal; yield routed through the
vault is split between the founder, the platform and the investors.
-/

namespace Mancipatio.Payout
open Checked

def month : Int := 2592000
def missedFreezeThreshold : Int := 3
def minVaultVotingPeriodSecs : Int := 604800
def payoutStateVersion : Nat := 2

inductive RaiseType where
  | mature
  | startup
  deriving DecidableEq, Repr

inductive PayoutVaultState where
  | active
  | frozen
  | completed
  | cancelled
  deriving DecidableEq, Repr

inductive VaultVoteChoice where
  | returnCapital
  | extend
  deriving DecidableEq, Repr

inductive VaultVoteOutcome where
  | pending
  | returnCapital
  | extend
  deriving DecidableEq, Repr

inductive ClaimKind where
  | refund
  | investorYield
  deriving DecidableEq, Repr

structure PayoutVault where
  founder : Pubkey
  raiseType : RaiseType
  totalAmount : Nat
  released : Nat
  startTs : Int
  numTranches : Nat
  trancheAmount : Nat
  tranchesReleased : Nat
  updatesPosted : Nat
  lastUpdateTs : Int
  founderYieldClaimable : Nat
  investorYieldPool : Nat
  investorYieldRoot : Hash
  totalWeight : Nat
  state : PayoutVaultState
  version : Nat
  voteRound : Nat
  votePending : Bool
  deriving DecidableEq, Repr

structure VaultVote where
  round : Nat
  snapshotRoot : Hash
  startTs : Int
  endTs : Int
  returnWeight : Nat
  extendWeight : Nat
  outcome : VaultVoteOutcome
  version : Nat
  deriving DecidableEq, Repr

structure VaultVoteRecord where
  round : Nat
  voter : Pubkey
  weight : Nat
  choice : VaultVoteChoice
  deriving DecidableEq, Repr

structure ClaimRecord where
  kind : ClaimKind
  investor : Pubkey
  claimed : Nat
  deriving DecidableEq, Repr

/-! ## The schedule -/

def oldestDueTs (v : PayoutVault) : Except RegistryError Int := do
  let elapsed ← okOr (checkedMulInt 64 v.updatesPosted month) .overflow
  okOr (checkedAddInt 64 v.startTs elapsed) .overflow

def overduePeriods (v : PayoutVault) (now : Int) : Except RegistryError Int := do
  let due ← oldestDueTs v
  if now < due then
    return 0
  else
    let late ← okOr (checkedAddInt 64 now (-due)) .arithmeticOverflow
    return late / month + 1

/-! ## The instructions -/

def openPayoutVault (saleAuthority authority : Pubkey) (saleOpen : Bool) (raiseType : RaiseType)
    (cliffMonths vestingMonths proceeds : Nat) (issuerFrozen : Bool) (now : Int) :
    Except RegistryError PayoutVault := do
  require (saleAuthority = authority) .unauthorized
  require (saleOpen = true) .saleNotOpen
  require (raiseType = .startup) .invalidRaiseParams
  require (issuerFrozen = false) .issuerProceedsFrozen
  require (0 < proceeds) .nothingToRelease
  require (cliffMonths < vestingMonths) .invalidRaiseParams
  let numTranches := vestingMonths - cliffMonths
  require (numTranches ≤ proceeds) .invalidRaiseParams
  let startTs ← okOr (checkedAddInt 64 now (cliffMonths * month)) .arithmeticOverflow
  return { founder := authority, raiseType := .startup, totalAmount := proceeds, released := 0, startTs,
           numTranches, trancheAmount := proceeds / numTranches, tranchesReleased := 0, updatesPosted := 0,
           lastUpdateTs := 0, founderYieldClaimable := 0, investorYieldPool := 0, investorYieldRoot := 0,
           totalWeight := 0, state := .active, version := payoutStateVersion, voteRound := 0,
           votePending := false }

def postUpdate (v : PayoutVault) (founder : Pubkey) (now : Int) : Except RegistryError PayoutVault := do
  require (v.founder = founder) .notFounder
  require (v.state = .active) .vaultNotActive
  require (v.updatesPosted < v.numTranches) .nothingToRelease
  let periodStart ← okOr (checkedAddInt 64 v.startTs (v.updatesPosted * month)) .arithmeticOverflow
  require (periodStart ≤ now) .updateRequired
  let updatesPosted ← okOr (checkedAdd 32 v.updatesPosted 1) .arithmeticOverflow
  return { v with updatesPosted, lastUpdateTs := now }

def trancheDue (v : PayoutVault) (now : Int) : Except RegistryError Nat := do
  match v.raiseType with
  | .mature => .error .invalidRaiseParams
  | .startup =>
      require (v.tranchesReleased < v.numTranches) .nothingToRelease
      let trancheTs ← okOr (checkedAddInt 64 v.startTs (v.tranchesReleased * month)) .arithmeticOverflow
      require (trancheTs ≤ now) .trancheNotDue
      require (v.tranchesReleased < v.updatesPosted) .updateRequired
      if v.tranchesReleased + 1 = v.numTranches then
        okOr (checkedSub v.totalAmount v.released) .overflow
      else
        return v.trancheAmount

def releasePayout (v : PayoutVault) (pauseFlags : PauseFlags) (issuerFrozen founderBlocked : Bool)
    (now : Int) : Except RegistryError (PayoutVault × Nat) := do
  require (v.state = .active) .vaultNotActive
  require (¬ isPaused pauseFlags pauseIssuerProceeds) .platformPaused
  require (issuerFrozen = false) .issuerProceedsFrozen
  require (founderBlocked = false) .partyBlocklisted
  let amount ← trancheDue v now
  require (0 < amount) .nothingToRelease
  let released ← okOr (checkedAdd 64 v.released amount) .arithmeticOverflow
  let tranchesReleased ← okOr (checkedAdd 8 v.tranchesReleased 1) .arithmeticOverflow
  let state := if tranchesReleased = v.numTranches then .completed else v.state
  return ({ v with released, tranchesReleased, state }, amount)

def freezeVault (v : PayoutVault) (now : Int) : Except RegistryError PayoutVault := do
  require (v.state = .active) .vaultNotActive
  require (v.updatesPosted < v.numTranches ∧ v.released < v.totalAmount) .updateRequired
  let overdue ← overduePeriods v now
  require (missedFreezeThreshold ≤ overdue) .updateRequired
  return { v with state := .frozen }

def openVaultVote (v : PayoutVault) (isAdmin : Bool) (snapshotRoot : Hash) (totalWeight : Nat)
    (votingPeriod now : Int) : Except RegistryError (PayoutVault × VaultVote) := do
  require (isAdmin = true) .accountNotInitialized
  require (v.state = .frozen) .vaultNotFrozen
  require (v.version = payoutStateVersion) .accountMigrationRequired
  require (v.votePending = false) .vaultVoteAlreadyOpen
  let round ← okOr (checkedAdd 64 v.voteRound 1) .overflow
  require (0 < totalWeight ∧ 0 < votingPeriod) .invalidRaiseParams
  require (minVaultVotingPeriodSecs ≤ votingPeriod) .votingPeriodTooShort
  let endTs ← okOr (checkedAddInt 64 now votingPeriod) .overflow
  require (v.totalWeight = 0 ∨ v.totalWeight = totalWeight) .invalidRaiseParams
  return ({ v with voteRound := round, votePending := true, totalWeight },
          { round, snapshotRoot, startTs := now, endTs, returnWeight := 0, extendWeight := 0,
            outcome := .pending, version := payoutStateVersion })

section
variable (hashv : Hashv)

def castVaultVote (v : PayoutVault) (vote : VaultVote) (recorded : Bool) (voter : Pubkey)
    (weight : BitVec 64) (proof : List Hash) (choice : VaultVoteChoice) (now : Int) :
    Except RegistryError (VaultVote × VaultVoteRecord) := do
  require (vote.outcome = .pending) .voteInProgress
  require (recorded = false) .accountAlreadyInUse
  require (v.version = payoutStateVersion) .accountMigrationRequired
  require (v.votePending = true ∧ vote.round = v.voteRound) .invalidVaultVoteRound
  require (v.state = .frozen) .vaultNotFrozen
  require (now < vote.endTs) .votingClosed
  require (verifyMerkleProof hashv vote.snapshotRoot (snapshotLeaf hashv voter weight) proof) .invalidMerkleProof
  let cast ← okOr (checkedAdd 64 vote.returnWeight vote.extendWeight) .overflow
  let totalCast ← okOr (checkedAdd 64 cast weight.toNat) .overflow
  require (0 < weight.toNat ∧ totalCast ≤ v.totalWeight) .invalidRaiseParams
  let record : VaultVoteRecord := { round := vote.round, voter, weight := weight.toNat, choice }
  match choice with
  | .returnCapital =>
      let returnWeight ← okOr (checkedAdd 64 vote.returnWeight weight.toNat) .overflow
      return ({ vote with returnWeight }, record)
  | .extend =>
      let extendWeight ← okOr (checkedAdd 64 vote.extendWeight weight.toNat) .overflow
      return ({ vote with extendWeight }, record)

def finalizeVaultVote (v : PayoutVault) (vote : VaultVote) (now : Int) :
    Except RegistryError (PayoutVault × VaultVote) := do
  require (v.state = .frozen) .vaultNotFrozen
  require (v.version = payoutStateVersion) .accountMigrationRequired
  require (v.votePending = true) .invalidVaultVoteRound
  require (vote.round = v.voteRound ∧ vote.outcome = .pending) .invalidVaultVoteRound
  require (vote.endTs ≤ now) .voteInProgress
  if vote.extendWeight < vote.returnWeight then
    return ({ v with votePending := false, state := .cancelled }, { vote with outcome := .returnCapital })
  else
    let overdue ← overduePeriods v now
    let shift ← okOr (checkedMulInt 64 overdue month) .overflow
    let startTs ← okOr (checkedAddInt 64 v.startTs shift) .overflow
    return ({ v with votePending := false, startTs, state := .active }, { vote with outcome := .extend })

def poolShare (weight : BitVec 64) (pool totalWeight : Nat) : Except RegistryError Nat := do
  let product ← okOr (checkedMul 128 weight.toNat pool) .overflow
  let share ← okOr (checkedDiv product totalWeight) .overflow
  return truncate 64 share

/-- Returns the new cumulative claim and the amount paid out. -/
def claimRefund (v : PayoutVault) (vote : VaultVote) (claimed : Nat) (investor : Pubkey)
    (weight : BitVec 64) (proof : List Hash) : Except RegistryError (ClaimRecord × Nat) := do
  require (v.state = .cancelled) .notCancelled
  require (v.version = payoutStateVersion) .accountMigrationRequired
  require (v.votePending = false) .invalidVaultVoteRound
  require (vote.round = v.voteRound ∧ vote.outcome = .returnCapital) .invalidVaultVoteRound
  require (vote.version = payoutStateVersion) .invalidVaultVoteRound
  require (verifyMerkleProof hashv vote.snapshotRoot (snapshotLeaf hashv investor weight) proof) .invalidMerkleProof
  let remainingPrincipal ← okOr (checkedSub v.totalAmount v.released) .overflow
  let entitlement ← poolShare weight remainingPrincipal v.totalWeight
  require (claimed < entitlement) .alreadyClaimed
  return ({ kind := .refund, investor, claimed := entitlement }, entitlement - claimed)

/-- Returns the vault and the amount that stays in the escrow; the platform third leaves directly. -/
def routeYield (v : PayoutVault) (isAdmin : Bool) (pauseFlags : PauseFlags) (amount : Nat)
    (investorRoot : Hash) (totalWeight : Nat) : Except RegistryError (PayoutVault × Nat) := do
  require (isAdmin = true) .accountNotInitialized
  require (v.state = .active) .vaultNotActive
  require (¬ isPaused pauseFlags (pauseDistributions ||| pausePayoutModules)) .platformPaused
  require (3 ≤ amount) .invalidRaiseParams
  require (0 < totalWeight ∧ investorRoot ≠ 0) .invalidRaiseParams
  require (v.investorYieldRoot = 0 ∨ v.investorYieldRoot = investorRoot) .invalidRaiseParams
  require (v.totalWeight = 0 ∨ v.totalWeight = totalWeight) .invalidRaiseParams
  let third := amount / 3
  let investorThird := amount - third - third
  let founderYieldClaimable ← okOr (checkedAdd 64 v.founderYieldClaimable third) .overflow
  let investorYieldPool ← okOr (checkedAdd 64 v.investorYieldPool investorThird) .overflow
  return ({ v with founderYieldClaimable, investorYieldPool, investorYieldRoot := investorRoot, totalWeight },
          third + investorThird)

def claimFounderYield (v : PayoutVault) (founder : Pubkey) (pauseFlags : PauseFlags)
    (issuerFrozen founderBlocked : Bool) : Except RegistryError (PayoutVault × Nat) := do
  require (v.founder = founder) .notFounder
  require (¬ isPaused pauseFlags pauseIssuerProceeds) .platformPaused
  require (issuerFrozen = false) .issuerProceedsFrozen
  require (founderBlocked = false) .partyBlocklisted
  require (0 < v.founderYieldClaimable) .nothingToClaim
  return ({ v with founderYieldClaimable := 0 }, v.founderYieldClaimable)

def claimInvestorYield (v : PayoutVault) (claimed : Nat) (investor : Pubkey) (weight : BitVec 64)
    (proof : List Hash) : Except RegistryError (ClaimRecord × Nat) := do
  require (verifyMerkleProof hashv v.investorYieldRoot (snapshotLeaf hashv investor weight) proof) .invalidMerkleProof
  let entitlement ← poolShare weight v.investorYieldPool v.totalWeight
  require (claimed < entitlement) .nothingToClaim
  return ({ kind := .investorYield, investor, claimed := entitlement }, entitlement - claimed)

end

end Mancipatio.Payout
