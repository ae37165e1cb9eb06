import Mancipatio.Library.Checked

/-!
# Shared vocabulary of the asset registry

Keys, errors, the pause byte of the platform account and the rule by which every program escrow
releases units.
-/

namespace Mancipatio
open Checked

/-- An account address: 32 bytes, most significant first. -/
abbrev Pubkey := BitVec 256

instance : LawfulBEq Pubkey := instLawfulBEq

inductive RegistryError where
  -- raised by the account framework: no account at the address, or already one
  | accountNotInitialized
  | accountAlreadyInUse
  | accountDidNotDeserialize
  -- raised by the token program
  | insufficientFunds
  -- a panic of the overflow-checked build
  | arithmeticOverflow
  | platformPaused
  | unauthorized
  | overflow
  | partyBlocklisted
  | receiverNotApproved
  | receiverKycExpired
  | receiverJurisdictionBlocked
  | kycExpiryInPast
  | kycExpiryTooFar
  | invalidKycRegistry
  | kycProofRequired
  | clawbackTargetIsEscrow
  | clawbackDestinationInvalid
  | clawbackNotKycGated
  | clawbackHolderStillEligible
  | invalidDepositAmount
  | saleNotOpen
  | invalidMerkleProof
  | vaultNotActive
  | trancheNotDue
  | updateRequired
  | nothingToRelease
  | vaultNotFrozen
  | voteInProgress
  | votingClosed
  | votingPeriodTooShort
  | vaultVoteAlreadyOpen
  | invalidVaultVoteRound
  | accountMigrationRequired
  | notFounder
  | alreadyClaimed
  | notCancelled
  | nothingToClaim
  | invalidRaiseParams
  | issuerProceedsFrozen
  | dealNotOpen
  | dealExpired
  | dealNotExpired
  | invalidDealParams
  | wrongDealParty
  | dealAlreadyDeposited
  | dealExpiryOutOfRange
  | mintNotInitialized
  | invalidVestingSchedule
  | invalidApprovalWindow
  | invalidPreCliffBps
  | vestingNotActive
  | vestingNotCancelled
  | vestingNotCancellable
  | vestingRecoveryDisabled
  | vestingWrongDeliveryMode
  | vestingNotApprovalMode
  | invalidTrancheIndex
  | vestingAlreadyStarted
  | invalidVestingAllocation
  | vestingNothingToClaim
  | vestingNothingToWithdraw
  | vestingAllocationMismatch
  | vestingNotDraft
  | vestingStartReached
  | vestingFundingExceedsSchedule
  | invalidVaultState
  | unsupportedRealizeAction
  | vaultNotExpired
  | beneficiaryRequired
  | beneficiaryNotAllowed
  | returnNotAllowed
  | revertNotAllowed
  | deliveryVaultUseReturn
  | invalidDeadline
  | depositorNotBeneficiary
  | vaultNotAcceptingDeposits
  | custodyKycRegistryRequired
  | custodyKycRegistryNotAllowed
  | custodyKycRegistryMismatch
  | vaultTypeRetired
  | deliveryDeadlineOutOfRange
  | invalidProposedAuthority
  | invalidAdminProposal
  | timelockActive
  | proposalExpired
  | cannotRevokePlatformAdmin
  | invalidAuthorityTransfer
  | platformRecoveryPending
  | invalidPlatformRecovery
  | invalidPauseFlags
  | pauseClearNotAllowed
  | payoutModulesClearNotExplicit
  | issuerNotVerified
  | invalidIssuerPermissions
  | issuerRegistrationNotRecoverable
  | invalidIssuerRecovery
  | issuerRecoveryTimelockActive
  | issuerRecoveryExpired
  | distributionNotActive
  | invalidDistributionParams
  | distributionOverdraw
  | invalidDistributionRecipient
  | refundNotFunderOwned
  | invalidDistributionPlan
  | assetNotActive
  | invalidSaleParams
  | invalidSalePrice
  | invalidSaleApproval
  | saleIdAlreadyUsed
  | saleApprovalExpired
  | saleApprovalMismatch
  | saleVestingOutsideApproval
  | saleStartsAfterApprovalExpiry
  | salePriceOutsideApproval
  | saleExceedsApprovedRaise
  | saleDurationInvalid
  | saleNotStarted
  | saleWindowClosed
  | saleSoldOut
  | supplyLocked
  | maxSupplyExceeded
  | invalidOfferParams
  | invalidExpiry
  | offerNotOpen
  | offerExpired
  | offerNotExpired
  | offerNotFunded
  | escrowNotEmpty
  | accountNotClosable
  -- raised by the runtime: a listed signer did not sign
  | missingSignature
  -- raised by the transfer hook
  | senderBlocked
  | immutableOwnerRequired
  | hookConfigInvalid
  | milestoneLocked
  | milestonePoolExceeded
  deriving DecidableEq, Repr

/-! ## The pause byte -/

abbrev PauseFlags := BitVec 8

def pauseOnboarding : PauseFlags := 1 <<< 0
def pausePrimary : PauseFlags := 1 <<< 1
def pauseSecondary : PauseFlags := 1 <<< 2
def pauseCustodyEntry : PauseFlags := 1 <<< 3
def pauseDistributions : PauseFlags := 1 <<< 4
def pauseIssuerProceeds : PauseFlags := 1 <<< 5
def pausePayoutModules : PauseFlags := 1 <<< 6
def pauseFlagsAll : PauseFlags := 0x7f
-- not a pause bit: the one-way mark of a platform that has never been unpaused
def platformBootstrapOpen : PauseFlags := 1 <<< 7

def isPaused (pauseFlags flag : PauseFlags) : Prop :=
  pauseFlags &&& flag ≠ 0
  deriving Decidable

/-! ## Escrow releases -/

/-- The verdict of the receiver-KYC gate on the account tail of an instruction. -/
abbrev ReceiverKyc := Except RegistryError Unit

structure EscrowRelease where
  payout : Nat
  fromLedger : Nat
  withheld : Nat
  surplusRefusal : Option RegistryError
  deriving DecidableEq, Repr

/-- The party's own deposit leaves unconditionally; units above it leave only to a receiver that the
gate accepts. -/
def splitEscrowRelease (balance deposited : Nat) (receiver : ReceiverKyc) : EscrowRelease :=
  let fromLedger := min balance deposited
  let surplus := balance - fromLedger
  if surplus = 0 then
    { payout := fromLedger, fromLedger, withheld := 0, surplusRefusal := none }
  else
    match receiver with
    | .ok () => { payout := balance, fromLedger, withheld := 0, surplusRefusal := none }
    | .error e => { payout := fromLedger, fromLedger, withheld := surplus, surplusRefusal := some e }

section splitEscrowRelease
variable (balance deposited : Nat) (receiver : ReceiverKyc)

@[simp] theorem splitEscrowRelease_fromLedger :
    (splitEscrowRelease balance deposited receiver).fromLedger = min balance deposited := by
  unfold splitEscrowRelease
  dsimp only
  split
  · rfl
  · cases receiver <;> rfl

theorem splitEscrowRelease_payout_le : (splitEscrowRelease balance deposited receiver).payout ≤ balance := by
  unfold splitEscrowRelease
  dsimp only
  split
  · exact Nat.min_le_left _ _
  · cases receiver with
    | ok => exact Nat.le_refl _
    | error => exact Nat.min_le_left _ _

theorem splitEscrowRelease_payout_add_withheld :
    (splitEscrowRelease balance deposited receiver).payout +
      (splitEscrowRelease balance deposited receiver).withheld = balance := by
  unfold splitEscrowRelease
  dsimp only
  split
  · dsimp only
    omega
  · cases receiver with
    | ok => rfl
    | error =>
        dsimp only
        omega

theorem splitEscrowRelease_ledger_le_payout :
    min balance deposited ≤ (splitEscrowRelease balance deposited receiver).payout := by
  unfold splitEscrowRelease
  dsimp only
  split
  · exact Nat.le_refl _
  · cases receiver with
    | ok => exact Nat.min_le_left _ _
    | error => exact Nat.le_refl _

theorem splitEscrowRelease_payout_of_refused {e : RegistryError} (refused : receiver = .error e) :
    (splitEscrowRelease balance deposited receiver).payout = min balance deposited := by
  unfold splitEscrowRelease
  dsimp only
  split
  · rfl
  · rw [refused]

theorem splitEscrowRelease_payout_eq (open' : receiver = .ok () ∨ balance ≤ deposited) :
    (splitEscrowRelease balance deposited receiver).payout = balance := by
  unfold splitEscrowRelease
  dsimp only
  split
  · dsimp only
    omega
  · rcases open' with rfl | covered
    · rfl
    · omega

end splitEscrowRelease

/-- The refund ledger that an escrow keeps for the one wallet it may repay unchecked. -/
structure EscrowIdentity where
  refundOwner : Pubkey
  ownDeposited : Nat
  ownRefunded : Nat
  deriving DecidableEq, Repr

end Mancipatio
