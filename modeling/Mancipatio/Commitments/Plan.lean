import Mancipatio.Commitments.Trees
import Mancipatio.Library.JsonText
import Mancipatio.Texts

/-!
# Distribution plans

A plan fixes the recipients of a distribution in batches before it is funded, with the root and the proofs that the
program checks. A stored plan is compared with the plan that its own entries give.
-/

namespace Mancipatio.Commitments
open Bytes Checked Merkle Numerals JsonText

def distributionPlanBatchSize : Nat := 6
def distributionPlanMaxEntries : Nat := 5000
def u64Max : Nat := 2 ^ 64 - 1

def tokenClassic : String := "TokenkegQfeZyiNwAJbNbGKPFXCWuBvf9Ss623VQ5DA"
def assetRegistryProgramAddress : String := "FJs1EM1ND89L9sUXaS8VBKYXjmoXCkkVSJKRE19hmYxS"

structure PlanContext where
  distributionPda : String
  distributionId : String
  shareClass : String
  paymentMint : String
  paymentTokenProgram : String
  funder : String
  totalAmount : String
  snapshotSupply : String
  deriving DecidableEq

structure PlanEntry where
  tokenAccount : String
  tokenOwner : String
  amount : String
  deriving DecidableEq

structure PlanBatch where
  batchId : Nat
  entries : List PlanEntry
  leafHex : String
  proof : List String
  deriving DecidableEq

structure CanonicalPlan extends PlanContext where
  rootHex : String
  planHash : String
  batchCount : Nat
  batches : List PlanBatch
  allocatedAmount : String
  entryCount : Nat
  deriving DecidableEq

def CanonicalPlan.entries (plan : CanonicalPlan) : List PlanEntry :=
  plan.batches.flatMap PlanBatch.entries

/-! ## Texts -/

def u64 (value : String) (allowZero : Bool) : Except String Nat := do
  require (Canonical value ∧ decimalValue value ≤ u64Max ∧ (allowZero = true ∨ decimalValue value ≠ 0))
    "Distribution amounts and identifiers must be canonical u64 integers"
  return decimalValue value

def PlanEntry.value (entry : PlanEntry) : Nat :=
  decimalValue entry.amount

/-- Where an object of this type has no such field, it is not written. -/
def PlanEntry.field (entry : PlanEntry) : String → Value
  | "token_account" => .string entry.tokenAccount
  | "token_owner" => .string entry.tokenOwner
  | _ => .string entry.amount

def entryKeys : List String := ["token_account", "token_owner", "amount"]
def batchKeys : List String := ["batch_id", "entries", "leaf_hex", "proof"]

def PlanEntry.toJson (keys : List String) (entry : PlanEntry) : Value :=
  .object (keys.map fun key => (key, entry.field key))

def batchField (batchId : Nat) (entries : List Value) (leafHex : String) (proof : List String) : String → Value
  | "batch_id" => .number batchId
  | "entries" => .array entries
  | "leaf_hex" => .string leafHex
  | _ => .array (proof.map Value.string)

def PlanBatch.toJson (batch : PlanBatch) : Value :=
  .object (batchKeys.map fun key =>
    (key, batchField batch.batchId (batch.entries.map (PlanEntry.toJson entryKeys)) batch.leafHex batch.proof key))

def planJson (context : PlanContext) (groups : List (List PlanEntry)) : Value :=
  .object [("distribution_pda", .string context.distributionPda), ("distribution_id", .string context.distributionId),
    ("share_class", .string context.shareClass), ("payment_mint", .string context.paymentMint),
    ("payment_token_program", .string context.paymentTokenProgram), ("funder", .string context.funder),
    ("total_amount", .string context.totalAmount), ("snapshot_supply", .string context.snapshotSupply),
    ("batches", .array (groups.zipIdx.map fun group =>
      .object [("batch_id", .number group.2), ("entries", .array (group.1.map (PlanEntry.toJson entryKeys)))]))]

/-! ## The canonical plan -/

section
variable (kit : Kit)

def Kit.addressText (text : String) : Except String String := do
  let _ ← kit.address text
  return text

def entryBytes (entry : PlanEntry) : Except String (List UInt8) := do
  let account ← kit.encodeAddress entry.tokenAccount
  let owner ← kit.encodeAddress entry.tokenOwner
  let amount ← u64 entry.amount false
  return account ++ owner ++ littleEndian 8 amount

def distributionBatchLeaf (distribution : String) (batchId : Nat) (entries : List PlanEntry) : Except String (List UInt8) := do
  require (batchId ≤ 0xffffffff ∧ entries ≠ []) "Invalid distribution batch"
  let head ← kit.encodeAddress distribution
  let rows ← entries.mapM (entryBytes kit)
  return kit.sha256 ("mancipatio:distribution-batch:v1".toUTF8.toList ++ head ++ littleEndian 4 batchId ++
    littleEndian 4 entries.length ++ rows.flatten)

def canonicalContext (input : PlanContext) : Except String PlanContext := do
  return {
    distributionPda := ← kit.addressText input.distributionPda
    distributionId := Nat.repr (← u64 input.distributionId true)
    shareClass := ← kit.addressText input.shareClass
    paymentMint := ← kit.addressText input.paymentMint
    paymentTokenProgram := ← kit.addressText input.paymentTokenProgram
    funder := ← kit.addressText input.funder
    totalAmount := Nat.repr (← u64 input.totalAmount false)
    snapshotSupply := Nat.repr (← u64 input.snapshotSupply false) }

def findDistributionPda (shareClass : String) (distributionId : Nat) : Except String String := do
  let encoded ← kit.encodeAddress shareClass
  return kit.programDerivedAddress assetRegistryProgramAddress
    ["distribution".toUTF8.toList, encoded, littleEndian 8 distributionId]

def canonicalEntry (entry : PlanEntry) : Except String PlanEntry := do
  return {
    tokenAccount := ← kit.addressText entry.tokenAccount
    tokenOwner := ← kit.addressText entry.tokenOwner
    amount := Nat.repr (← u64 entry.amount false) }

end

def PlanEntry.before (a b : PlanEntry) : Prop :=
  a.tokenOwner < b.tokenOwner ∨ a.tokenOwner = b.tokenOwner ∧ a.tokenAccount ≤ b.tokenAccount

instance : DecidableRel PlanEntry.before :=
  fun _ _ => inferInstanceAs (Decidable (_ ∨ _))

def batchGroups : List PlanEntry → List (List PlanEntry)
  | [] => []
  | entry :: rest =>
      (entry :: rest).take distributionPlanBatchSize :: batchGroups ((entry :: rest).drop distributionPlanBatchSize)
termination_by entries => entries.length
decreasing_by
  simp only [distributionPlanBatchSize, List.length_drop, List.length_cons]
  omega

def planBatch (tree : List (List (List UInt8))) (group : (List PlanEntry × List UInt8) × Nat) : PlanBatch where
  batchId := group.2
  entries := group.1.1
  leafHex := hashHex group.1.2
  proof := (proofAt tree group.2).map hashHex

def canonicalDistributionPlan (kit : Kit) (input : PlanContext) (rawEntries : List PlanEntry) : Except String CanonicalPlan := do
  let context ← canonicalContext kit input
  require (context.paymentTokenProgram ∈ [tokenClassic, token2022]) "Unsupported payment token program"
  let expected ← findDistributionPda kit context.shareClass (decimalValue context.distributionId)
  require (expected = context.distributionPda) "Distribution PDA does not match the prepared id and share class"
  require (1 ≤ rawEntries.length ∧ rawEntries.length ≤ distributionPlanMaxEntries) "Use 1–5000 distribution recipients"
  let validated ← rawEntries.mapM (canonicalEntry kit)
  let entries := validated.insertionSort PlanEntry.before
  require ((entries.map PlanEntry.tokenOwner).Nodup ∧ (entries.map PlanEntry.tokenAccount).Nodup)
    "Distribution recipients must have unique owners and token accounts"
  let allocated := (entries.map PlanEntry.value).sum
  require (allocated = decimalValue context.totalAmount) "Distribution plan allocation must equal the full funded amount"
  require (∀ entry ∈ entries,
      kit.associatedTokenAddress entry.tokenOwner context.paymentMint context.paymentTokenProgram = entry.tokenAccount)
    "Distribution recipient account must be the committed owner's payment ATA"
  let groups := batchGroups entries
  let leaves ← groups.zipIdx.mapM fun group => distributionBatchLeaf kit context.distributionPda group.2 group.1
  let tree := treeLevels kit leaves
  return { context with
    rootHex := hashHex ((tree.getLast?.bind List.head?).getD [])
    planHash := hashHex (kit.sha256 (stringify (planJson context groups)).toUTF8.toList)
    batchCount := groups.length
    batches := (groups.zip leaves).zipIdx.map (planBatch tree)
    allocatedAmount := Nat.repr allocated
    entryCount := entries.length }

/-! ## Stored plans -/

structure StoredEntry extends PlanEntry where
  keys : List String
  complete : keys.Perm entryKeys

structure StoredBatch where
  batchId : Nat
  entries : List StoredEntry
  leafHex : String
  proof : List String
  keys : List String
  complete : keys.Perm batchKeys

structure StoredPlan extends PlanContext where
  rootHex : String
  planHash : String
  batchCount : Nat
  batches : List StoredBatch
  allocatedAmount : String
  entryCount : Nat

def StoredBatch.toJson (batch : StoredBatch) : Value :=
  .object (batch.keys.map fun key =>
    (key, batchField batch.batchId (batch.entries.map fun entry => entry.toPlanEntry.toJson entry.keys) batch.leafHex batch.proof key))

def StoredBatch.batch (batch : StoredBatch) : PlanBatch where
  batchId := batch.batchId
  entries := batch.entries.map StoredEntry.toPlanEntry
  leafHex := batch.leafHex
  proof := batch.proof

def StoredPlan.plan (stored : StoredPlan) : CanonicalPlan where
  toPlanContext := stored.toPlanContext
  rootHex := stored.rootHex
  planHash := stored.planHash
  batchCount := stored.batchCount
  batches := stored.batches.map StoredBatch.batch
  allocatedAmount := stored.allocatedAmount
  entryCount := stored.entryCount

def batchesText (batches : List Value) : String :=
  stringify (.array batches)

def assertStoredDistributionPlan (kit : Kit) (stored : StoredPlan) : Except String CanonicalPlan := do
  let canonical ← canonicalDistributionPlan kit stored.toPlanContext stored.plan.entries
  require (canonical.planHash = stored.planHash ∧ canonical.rootHex = stored.rootHex ∧ canonical.batchCount = stored.batchCount ∧
      batchesText (canonical.batches.map PlanBatch.toJson) = batchesText (stored.batches.map StoredBatch.toJson) ∧
      canonical.allocatedAmount = stored.allocatedAmount ∧ canonical.entryCount = stored.entryCount)
    "The saved distribution plan differs from its immutable commitment"
  return canonical

end Mancipatio.Commitments
