import Mancipatio.Snapshot
import Mancipatio.Library.Ledger

/-!
# Distributions

A distribution pushes a funded amount of payment units to holders in batches. The funder commits to
every batch in advance by a Merkle root; a paid batch leaves a receipt.
-/

namespace Mancipatio.Distributions
open Bytes Checked Ledger

def stateVersion : Nat := 1
def distributionStateVersion : Nat := 2
def maxDistributionBatchSize : Nat := 16

inductive DistributionStatus where
  | distributing
  | closed
  deriving DecidableEq, Repr

structure Distribution where
  address : Pubkey
  funder : Pubkey
  paymentMint : Pubkey
  escrow : Pubkey
  totalAmount : Nat
  distributedAmount : Nat
  paidCount : Nat
  status : DistributionStatus
  version : Nat
  deriving DecidableEq, Repr

structure DistributionPlan where
  batchRoot : Hash
  batchCount : Nat
  version : Nat
  deriving DecidableEq, Repr

structure DistributionBatch where
  batchId : BitVec 32
  batchHash : Hash
  totalAmount : Nat
  paidCount : Nat
  version : Nat
  deriving DecidableEq, Repr

/-! ## The commitment -/

abbrev BatchEntry := Pubkey × Pubkey × BitVec 64

def batchDomain : List UInt8 :=
  "mancipatio:distribution-batch:v1".toUTF8.toList

def entryBytes (entry : BatchEntry) : List UInt8 :=
  keyBytes entry.1 ++ keyBytes entry.2.1 ++ littleEndian 8 entry.2.2.toNat

def batchBytes (distribution : Pubkey) (batch : BitVec 32 × List BatchEntry) : List UInt8 :=
  batchDomain ++ keyBytes distribution ++ littleEndian 4 batch.1.toNat ++
    littleEndian 4 (truncate 32 batch.2.length) ++ batch.2.flatMap entryBytes

def distributionBatchLeaf (hashv : Hashv) (distribution : Pubkey) (batchId : BitVec 32)
    (entries : List BatchEntry) : Hash :=
  hashv (batchBytes distribution (batchId, entries))

theorem entryBytes_length (entry : BatchEntry) : (entryBytes entry).length = 72 := by
  simp [entryBytes, keyBytes_length]

theorem entryBytes_injective : Function.Injective entryBytes := by
  rintro ⟨a, w, v⟩ ⟨b, x, u⟩ same
  obtain ⟨keys, amounts⟩ := List.append_inj same (by simp [keyBytes_length])
  obtain ⟨accounts, wallets⟩ := List.append_inj keys (by simp [keyBytes_length])
  obtain rfl : a = b := keyBytes_injective accounts
  obtain rfl : w = x := keyBytes_injective wallets
  obtain rfl : v = u := BitVec.eq_of_toNat_eq (littleEndian_inj (n := 8) v.isLt u.isLt amounts)
  rfl

theorem batchBytes_injective (distribution : Pubkey) : Function.Injective (batchBytes distribution) := by
  rintro ⟨i, entries⟩ ⟨j, others⟩ same
  obtain ⟨headers, bodies⟩ := List.append_inj same (by simp [keyBytes_length])
  obtain ⟨prefixes, -⟩ := List.append_inj headers (by simp [keyBytes_length])
  obtain ⟨-, ids⟩ := List.append_inj prefixes rfl
  obtain rfl : i = j := BitVec.eq_of_toNat_eq (littleEndian_inj (n := 4) i.isLt j.isLt ids)
  obtain rfl : entries = others := flatMap_injective (by decide) entryBytes_length entryBytes_injective bodies
  rfl

theorem batchBytes_length (distribution : Pubkey) (batch : BitVec 32 × List BatchEntry) :
    (batchBytes distribution batch).length ≠ 2 * 32 := by
  have domain : batchDomain.length = 32 := by decide +kernel
  have header : 72 ≤ (batchBytes distribution batch).length := by
    simp only [batchBytes, List.length_append, keyBytes_length, littleEndian_length, domain]
    omega
  omega

/-! ## The instructions -/

def batchEntries (distribution : Distribution) (accounts : Accounts Pubkey) (payments : List (Pubkey × BitVec 64)) :
    Except RegistryError (List BatchEntry) :=
  payments.mapM fun payment => do
    let token ← okOr (accounts payment.1) .invalidDistributionRecipient
    require (token.mint = distribution.paymentMint) .invalidDistributionRecipient
    return (payment.1, token.owner, payment.2)

def batchTotal (amounts : List (BitVec 64)) : Except RegistryError Nat :=
  amounts.foldlM (fun sum amount => okOr (checkedAdd 64 sum amount.toNat) .overflow) 0

def createDistribution (isAdmin mintInitialized : Bool) (pauseFlags : PauseFlags) (address funder paymentMint escrow : Pubkey)
    (accounts : Accounts Pubkey) (source : Pubkey) (totalAmount snapshotSupply : Nat) (batchRoot : Hash)
    (batchCount : Nat) : Except RegistryError (Distribution × DistributionPlan × Accounts Pubkey) := do
  -- a program address has no key to sign with
  require (funder ≠ address) .missingSignature
  require (isAdmin = true) .accountNotInitialized
  require (mintInitialized = true) .mintNotInitialized
  require (accounts escrow = none) .accountAlreadyInUse
  let payer ← okOr (accounts source) .accountNotInitialized
  require (payer.mint = paymentMint ∧ payer.owner = funder) .unauthorized
  require (¬ isPaused pauseFlags pauseDistributions) .platformPaused
  require (batchRoot ≠ 0 ∧ 0 < batchCount ∧ 0 < snapshotSupply) .invalidDistributionPlan
  require (0 < totalAmount) .invalidDistributionParams
  let opened : Accounts Pubkey := Function.update accounts escrow
    (some { mint := paymentMint, owner := address, amount := 0, frozen := false })
  let funded ← transfer .insufficientFunds paymentMint source funder opened escrow totalAmount
  return ({ address, funder, paymentMint, escrow, totalAmount, distributedAmount := 0, paidCount := 0,
            status := .distributing, version := distributionStateVersion },
          { batchRoot, batchCount, version := stateVersion }, funded)

section
variable (hashv : Hashv)

/-- What a call of `distributeBatch` on a new batch changes; a replay changes nothing. -/
def distributeBatch (d : Distribution) (plan : DistributionPlan) (receipt : Option DistributionBatch)
    (accounts : Accounts Pubkey) (isAdmin : Bool) (pauseFlags : PauseFlags) (batchId : BitVec 32)
    (recipients : List Pubkey) (amounts : List (BitVec 64)) (proof : List Hash) :
    Except RegistryError (Option (Distribution × DistributionBatch × Accounts Pubkey)) := do
  require (isAdmin = true) .accountNotInitialized
  require (¬ isPaused pauseFlags pauseDistributions) .platformPaused
  require (amounts ≠ [] ∧ amounts.length ≤ maxDistributionBatchSize ∧ amounts.length = recipients.length ∧
    ∀ a ∈ amounts, 0 < a.toNat) .invalidDistributionParams
  require (d.version = distributionStateVersion ∧ plan.version = stateVersion ∧ batchId.toNat < plan.batchCount ∧
    proof.length ≤ 32) .invalidDistributionPlan
  let entries ← batchEntries d accounts (recipients.zip amounts)
  let hash := distributionBatchLeaf hashv d.address batchId entries
  match receipt with
  | some batch =>
      require (batch.version = stateVersion ∧ batch.batchId = batchId ∧ batch.batchHash = hash) .invalidDistributionPlan
      return none
  | none =>
      require (verifyMerkleProof hashv plan.batchRoot hash proof) .invalidMerkleProof
      require (d.status = .distributing) .distributionNotActive
      let escrow ← okOr (accounts d.escrow) .unauthorized
      require (escrow.owner = d.address ∧ escrow.mint = d.paymentMint) .unauthorized
      let total ← batchTotal amounts
      let distributedAmount ← okOr (checkedAdd 64 d.distributedAmount total) .overflow
      require (distributedAmount ≤ d.totalAmount) .distributionOverdraw
      let paid ← transferAll .insufficientFunds d.paymentMint d.escrow d.address accounts
        (recipients.zip (amounts.map BitVec.toNat))
      let paidCount ← okOr (checkedAdd 32 d.paidCount amounts.length) .overflow
      return some ({ d with distributedAmount, paidCount },
        { batchId, batchHash := hash, totalAmount := total, paidCount := amounts.length, version := stateVersion }, paid)

end

def closeDistribution (d : Distribution) (accounts : Accounts Pubkey) (isAdmin : Bool) (refundAccount : Pubkey) :
    Except RegistryError (Distribution × Accounts Pubkey) := do
  require (isAdmin = true) .accountNotInitialized
  require (d.status ≠ .closed) .distributionNotActive
  let escrow ← okOr (accounts d.escrow) .accountNotInitialized
  let refund ← okOr (accounts refundAccount) .accountNotInitialized
  require (refund.mint = d.paymentMint) .unauthorized
  require (refund.owner = d.funder) .refundNotFunderOwned
  let swept ← sweep .insufficientFunds d.paymentMint d.escrow d.address accounts refundAccount escrow.amount
  return ({ d with status := .closed }, Function.update swept d.escrow none)

end Mancipatio.Distributions
