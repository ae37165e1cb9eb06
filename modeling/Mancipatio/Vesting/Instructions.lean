import Mancipatio.Vesting.Series

/-!
# Vesting series: the instructions

Each instruction takes the accounts it reads and returns the ones it writes, together with the
amount it moves out of the escrow. The guards stand in the order in which the program checks them.
-/

namespace Mancipatio.Vesting
open Checked

def maxVestingTranches : Nat := 64
def minApprovalWindowSecs : Int := 3600
def maxApprovalWindowSecs : Int := 7776000

def ascending : List VestingTranche → Bool
  | t :: u :: rest => t.unlockTs < u.unlockTs && ascending (u :: rest)
  | _ => true

def createVestingSeries (authority : Pubkey) (tranches : List VestingTranche)
    (timingMode : VestingTimingMode) (deliveryMode : VestingDeliveryMode) (approvalWindowSecs : Int)
    (recoveryEnabled cancellationEnabled : Bool) (preCliffBps : Nat) :
    Except RegistryError (VestingSeries × EscrowIdentity) := do
  require (tranches ≠ [] ∧ tranches.length ≤ maxVestingTranches) .invalidVestingSchedule
  require ((∀ t ∈ tranches, 0 < t.amount) ∧ ascending tranches) .invalidVestingSchedule
  let _ ← vestingScheduleTotal tranches
  match timingMode with
  | .approval =>
      require (minApprovalWindowSecs ≤ approvalWindowSecs ∧ approvalWindowSecs ≤ maxApprovalWindowSecs)
        .invalidApprovalWindow
  | .auto => require (approvalWindowSecs = 0) .invalidApprovalWindow
  require (∀ t ∈ tranches, (checkedAddInt 64 t.unlockTs approvalWindowSecs).isSome) .invalidVestingSchedule
  require (preCliffBps ≤ 10000) .invalidPreCliffBps
  return ({ authority, totalAllocated := 0, deposited := 0, totalReleased := 0, timingMode, deliveryMode,
            status := .draft, approvalWindowSecs, recoveryEnabled, cancellationEnabled, preCliffBps,
            approvedMask := 0, cancelledAt := 0, finalCumulative := 0, positionsCount := 0, tranches },
          { refundOwner := authority, ownDeposited := 0, ownRefunded := 0 })

def addVestingPosition (s : VestingSeries) (authority wallet : Pubkey) (allocation : Nat) :
    Except RegistryError (VestingSeries × VestingPosition) := do
  require (s.authority = authority) .unauthorized
  require (s.status = .draft) .vestingNotDraft
  require (0 < allocation) .invalidVestingAllocation
  let positionsCount ← okOr (checkedAdd 32 s.positionsCount 1) .overflow
  let totalAllocated ← okOr (checkedAdd 64 s.totalAllocated allocation) .overflow
  return ({ s with positionsCount, totalAllocated },
          { index := s.positionsCount, wallet, allocation, released := 0 })

def finalizeVestingSeries (s : VestingSeries) (authority : Pubkey) (now : Int) :
    Except RegistryError VestingSeries := do
  require (s.authority = authority) .unauthorized
  require (s.status = .draft) .vestingNotDraft
  let total ← vestingScheduleTotal s.tranches
  require (0 < s.positionsCount ∧ 0 < total ∧ s.totalAllocated = total) .vestingAllocationMismatch
  let first ← okOr s.tranches.head? .invalidVestingSchedule
  require (now < first.unlockTs) .vestingStartReached
  require (s.totalReleased = 0 ∧ s.approvedMask = 0) .vestingAlreadyStarted
  return { s with status := .active }

def depositToVestingEscrow (s : VestingSeries) (identity : EscrowIdentity) (depositor : Pubkey)
    (pauseFlags : PauseFlags) (amount : Nat) : Except RegistryError (VestingSeries × EscrowIdentity) := do
  require (s.status = .draft ∨ s.status = .active) .vestingNotActive
  require (identity.refundOwner = s.authority) .unauthorized
  require (¬ isPaused pauseFlags pauseDistributions) .platformPaused
  require (0 < amount) .invalidDepositAmount
  let nextDeposited ← okOr (checkedAdd 64 s.deposited amount) .overflow
  let scheduleTotal ← vestingScheduleTotal s.tranches
  require (nextDeposited ≤ scheduleTotal) .vestingFundingExceedsSchedule
  if depositor = s.authority then
    let ownDeposited ← okOr (checkedAdd 64 identity.ownDeposited amount) .overflow
    return ({ s with deposited := nextDeposited }, { identity with ownDeposited })
  else
    return ({ s with deposited := nextDeposited }, identity)

def approveVestingTranche (s : VestingSeries) (authority : Pubkey) (trancheIndex : Nat) :
    Except RegistryError VestingSeries := do
  require (s.authority = authority) .unauthorized
  require (s.status = .active) .vestingNotActive
  require (s.timingMode = .approval) .vestingNotApprovalMode
  require (trancheIndex < s.tranches.length) .invalidTrancheIndex
  return { s with approvedMask := s.approvedMask ||| (1 <<< trancheIndex) }

/-- Shared by the two release instructions. The transfer is capped at the escrow balance, so that an
under-funded cancelled series pays what it has. -/
def releaseVested (s : VestingSeries) (p : VestingPosition) (escrowAmount : Nat) (now : Int)
    (receiver : ReceiverKyc) : Except RegistryError (VestingSeries × VestingPosition × Nat) := do
  require (s.status ≠ .draft) .vestingNotActive
  let scheduleTotal ← vestingScheduleTotal s.tranches
  require (scheduleTotal = s.totalAllocated ∧ 0 < scheduleTotal) .vestingAllocationMismatch
  let deliverableCum := vestingDeliverableCumulative s now
  let entitlement := vestingPositionEntitlement p.allocation deliverableCum s.totalAllocated
  let amount := min (entitlement - p.released) escrowAmount
  require (0 < amount) .vestingNothingToClaim
  receiver
  let released ← okOr (checkedAdd 64 p.released amount) .overflow
  let totalReleased ← okOr (checkedAdd 64 s.totalReleased amount) .overflow
  return ({ s with totalReleased }, { p with released }, amount)

def claimVested (s : VestingSeries) (p : VestingPosition) (recipient : Pubkey) (recipientBlocked : Bool)
    (escrowAmount : Nat) (now : Int) (receiver : ReceiverKyc) :
    Except RegistryError (VestingSeries × VestingPosition × Nat) := do
  require (s.deliveryMode = .claim) .vestingWrongDeliveryMode
  require (p.wallet = recipient) .unauthorized
  require (recipientBlocked = false) .partyBlocklisted
  releaseVested s p escrowAmount now receiver

def pushVested (s : VestingSeries) (p : VestingPosition) (recipientBlocked : Bool)
    (escrowAmount : Nat) (now : Int) (receiver : ReceiverKyc) :
    Except RegistryError (VestingSeries × VestingPosition × Nat) := do
  require (s.deliveryMode = .push) .vestingWrongDeliveryMode
  require (recipientBlocked = false) .partyBlocklisted
  releaseVested s p escrowAmount now receiver

def cancelVestingSeries (s : VestingSeries) (authority : Pubkey) (now : Int) :
    Except RegistryError VestingSeries := do
  require (s.authority = authority) .unauthorized
  require (s.status = .draft ∨ s.status = .active) .vestingNotActive
  require (s.status = .draft ∨ s.cancellationEnabled = true) .vestingNotCancellable
  if s.status = .draft then
    return { s with finalCumulative := 0, status := .cancelled, cancelledAt := now }
  else
    let total ← vestingScheduleTotal s.tranches
    require (total = s.totalAllocated ∧ 0 < total) .vestingAllocationMismatch
    let vestedCum := vestingCumulative s.tranches now
    let finalCumulative :=
      if vestedCum = 0 then truncate 64 (s.totalAllocated * s.preCliffBps / 10000) else vestedCum
    return { s with finalCumulative, status := .cancelled, cancelledAt := now }

def disableVestingCancellation (s : VestingSeries) (authority : Pubkey) :
    Except RegistryError VestingSeries := do
  require (s.authority = authority) .unauthorized
  require (s.status = .active) .vestingNotActive
  require (s.cancellationEnabled = true) .vestingNotCancellable
  return { s with cancellationEnabled := false }

def recoverVestingPosition (s : VestingSeries) (p : VestingPosition) (authority newWallet : Pubkey) :
    Except RegistryError VestingPosition := do
  require (s.authority = authority) .unauthorized
  require (s.recoveryEnabled = true) .vestingRecoveryDisabled
  require (s.status ≠ .draft) .vestingNotActive
  return { p with wallet := newWallet }

/-- Pays the client what the escrow holds above `reserved`: its own unconsumed deposits unchecked,
anything above them only when the gate accepts the client. -/
def withdrawAvailable (identity : EscrowIdentity) (escrowAmount reserved ownConsumed : Nat)
    (receiver : ReceiverKyc) : Except RegistryError (EscrowIdentity × Nat) := do
  let available := escrowAmount - reserved
  let ownRemaining := identity.ownDeposited - ownConsumed - identity.ownRefunded
  let release := splitEscrowRelease available ownRemaining receiver
  require (0 < release.payout) .vestingNothingToWithdraw
  let ownRefunded ← okOr (checkedAdd 64 identity.ownRefunded release.fromLedger) .overflow
  return ({ identity with ownRefunded }, release.payout)

def withdrawUnvested (s : VestingSeries) (identity : EscrowIdentity) (authority : Pubkey)
    (escrowAmount : Nat) (receiver : ReceiverKyc) : Except RegistryError (EscrowIdentity × Nat) := do
  require (s.authority = authority) .unauthorized
  require (identity.refundOwner = s.authority) .unauthorized
  require (s.status = .cancelled) .vestingNotCancelled
  withdrawAvailable identity escrowAmount (s.finalCumulative - s.totalReleased) s.totalReleased receiver

def withdrawVestingSurplus (s : VestingSeries) (identity : EscrowIdentity) (authority : Pubkey)
    (escrowAmount : Nat) (receiver : ReceiverKyc) : Except RegistryError (EscrowIdentity × Nat) := do
  require (s.authority = authority) .unauthorized
  require (identity.refundOwner = s.authority) .unauthorized
  require (s.status = .active) .vestingNotActive
  let scheduleTotal ← vestingScheduleTotal s.tranches
  require (0 < scheduleTotal ∧ scheduleTotal = s.totalAllocated) .vestingAllocationMismatch
  let reserved ← okOr (checkedSub s.totalAllocated s.totalReleased) .overflow
  withdrawAvailable identity escrowAmount reserved s.totalAllocated receiver

end Mancipatio.Vesting
