import Mancipatio.Commitments.Payable

/-!
# Stored plans

The store keeps the entries of a batch as `jsonb`, which orders the keys of an object by their lengths.
-/

namespace Mancipatio.Commitments
open Bytes Checked Merkle Numerals Ledger

def IsCanonical (kit : Kit) (plan : CanonicalPlan) : Prop :=
  ∃ input entries, canonicalDistributionPlan kit input entries = .ok plan

def StoredPlan.KeysInOrder (stored : StoredPlan) : Prop :=
  ∀ batch ∈ stored.batches, batch.keys = batchKeys ∧ ∀ entry ∈ batch.entries, entry.keys = entryKeys

theorem keys_of_fields {keys keys' : List String} {field field' : String → JsonText.Value}
    (same : keys.map (fun key => (key, field key)) = keys'.map fun key => (key, field' key)) :
    keys = keys' ∧ ∀ key ∈ keys, field key = field' key := by
  have names := congrArg (List.map Prod.fst) same
  simp only [List.map_map, Function.comp_def, List.map_id'] at names
  subst names
  refine ⟨rfl, fun key member => ?_⟩
  exact (Prod.mk.inj (List.map_inj_left.mp same key member)).2

theorem rows_of_texts {α β γ : Type} {f : α → γ} {g : β → γ} {h : β → α} {P : β → Prop}
    (each : ∀ a b, f a = g b → a = h b ∧ P b) {as : List α} {bs : List β} (same : as.map f = bs.map g) :
    as = bs.map h ∧ ∀ b ∈ bs, P b := by
  induction as generalizing bs with
  | nil =>
      cases bs with
      | nil => exact ⟨rfl, by simp⟩
      | cons b rest => cases same
  | cons a as ih =>
      cases bs with
      | nil => cases same
      | cons b bs =>
          rw [List.map_cons, List.map_cons, List.cons.injEq] at same
          obtain ⟨rfl, holds⟩ := each a b same.1
          obtain ⟨rfl, others⟩ := ih same.2
          exact ⟨rfl, List.forall_mem_cons.mpr ⟨holds, others⟩⟩

theorem entry_toJson {entry : PlanEntry} {stored : StoredEntry}
    (same : entry.toJson entryKeys = stored.toPlanEntry.toJson stored.keys) :
    entry = stored.toPlanEntry ∧ stored.keys = entryKeys := by
  obtain ⟨keys, fields⟩ := keys_of_fields (JsonText.Value.object.inj same)
  refine ⟨?_, keys.symm⟩
  have account := JsonText.Value.string.inj (fields "token_account" (by decide))
  have owner := JsonText.Value.string.inj (fields "token_owner" (by decide))
  have amount := JsonText.Value.string.inj (fields "amount" (by decide))
  obtain ⟨a, b, c⟩ := entry
  rw [PlanEntry.mk.injEq]
  exact ⟨account, owner, amount⟩

theorem batch_toJson {batch : PlanBatch} {stored : StoredBatch} (same : batch.toJson = stored.toJson) :
    batch = stored.batch ∧ stored.keys = batchKeys ∧ ∀ entry ∈ stored.entries, entry.keys = entryKeys := by
  obtain ⟨keys, fields⟩ := keys_of_fields (JsonText.Value.object.inj same)
  have id := JsonText.Value.number.inj (fields "batch_id" (by decide))
  have listed := JsonText.Value.array.inj (fields "entries" (by decide))
  have leaf := JsonText.Value.string.inj (fields "leaf_hex" (by decide))
  have proof := JsonText.Value.array.inj (fields "proof" (by decide))
  obtain ⟨entries, ordered⟩ := rows_of_texts (fun _ _ => entry_toJson) listed
  have proofs : batch.proof = stored.proof := List.map_injective_iff.mpr (fun _ _ => JsonText.Value.string.inj) proof
  refine ⟨?_, keys.symm, ordered⟩
  obtain ⟨a, b, c, d⟩ := batch
  rw [StoredBatch.batch, PlanBatch.mk.injEq]
  exact ⟨id, entries, leaf, proofs⟩

theorem toJson_of_ordered {stored : StoredBatch} (keys : stored.keys = batchKeys)
    (ordered : ∀ entry ∈ stored.entries, entry.keys = entryKeys) : stored.batch.toJson = stored.toJson := by
  have entries : (stored.entries.map StoredEntry.toPlanEntry).map (PlanEntry.toJson entryKeys) =
      stored.entries.map fun entry => entry.toPlanEntry.toJson entry.keys := by
    rw [List.map_map]
    apply List.map_congr_left
    intro entry member
    rw [ordered entry member]
    rfl
  rw [PlanBatch.toJson, StoredBatch.toJson, keys, ← entries]
  rfl

/-- A stored plan is accepted when it is a canonical plan, in its values and in the order of its keys. -/
theorem stored_accepted {kit : Kit} {stored : StoredPlan} :
    (∃ canonical, assertStoredDistributionPlan kit stored = .ok canonical) ↔ IsCanonical kit stored.plan ∧ stored.KeysInOrder := by
  simp only [assertStoredDistributionPlan, bind_eq_ok, pure_eq_ok]
  constructor
  · rintro ⟨_, canonical, planned, _, same, -⟩
    obtain ⟨hash, root, count, texts, allocated, entryCount⟩ := require_eq_ok.mp same
    have lists := JsonText.Value.array.inj (JsonText.stringify_injective texts)
    obtain ⟨batches, ordered⟩ := rows_of_texts (fun _ _ => batch_toJson) lists
    have context : canonical.toPlanContext = stored.toPlanContext := by
      obtain ⟨-, rfl⟩ := canonicalDistributionPlan_ok.mp planned
      rfl
    have values : canonical = stored.plan := by
      obtain ⟨context', rootHex, planHash, batchCount, batches', allocatedAmount, entryCount'⟩ := canonical
      rw [StoredPlan.plan, CanonicalPlan.mk.injEq]
      exact ⟨context, root, hash, count, batches, allocated, entryCount⟩
    rw [← values]
    exact ⟨⟨_, _, planned⟩, ordered⟩
  · rintro ⟨⟨input, entries, planned⟩, ordered⟩
    obtain ⟨accepts, plan⟩ := canonicalDistributionPlan_ok.mp planned
    have context : stored.toPlanContext = input := congrArg CanonicalPlan.toPlanContext plan
    have sorted : stored.plan.entries = entries.insertionSort PlanEntry.before := by rw [plan, assembled_entries]
    have again : canonicalDistributionPlan kit stored.toPlanContext stored.plan.entries = .ok stored.plan := by
      rw [context, sorted]
      exact canonicalDistributionPlan_perm (List.perm_insertionSort _ _).symm planned
    have texts : batchesText (stored.plan.batches.map PlanBatch.toJson) = batchesText (stored.batches.map StoredBatch.toJson) := by
      rw [StoredPlan.plan, List.map_map]
      congr 1
      apply List.map_congr_left
      intro batch member
      exact toJson_of_ordered (ordered batch member).1 (ordered batch member).2
    exact ⟨stored.plan, stored.plan, again, (), require_eq_ok.mpr ⟨rfl, rfl, rfl, texts, rfl, rfl⟩, rfl⟩

/-! ## What the store gives back -/

def jsonbEntryKeys : List String := ["amount", "token_owner", "token_account"]

def readBack (plan : CanonicalPlan) : StoredPlan :=
  { plan with
    batches := plan.batches.map fun batch =>
      { batchId := batch.batchId
        entries := batch.entries.map fun entry => { entry with keys := jsonbEntryKeys, complete := by decide }
        leafHex := batch.leafHex
        proof := batch.proof
        keys := batchKeys
        complete := .refl _ } }

theorem readBack_plan (plan : CanonicalPlan) : (readBack plan).plan = plan := by
  simp only [StoredPlan.plan, readBack, List.map_map, Function.comp_def, StoredBatch.batch]
  simp

theorem readBack_refused {kit : Kit} {plan : CanonicalPlan} (canonical : IsCanonical kit plan) :
    ¬ ∃ accepted, assertStoredDistributionPlan kit (readBack plan) = .ok accepted := by
  rw [stored_accepted]
  rintro ⟨-, ordered⟩
  obtain ⟨input, entries, planned⟩ := canonical
  obtain ⟨accepts, rfl⟩ := canonicalDistributionPlan_ok.mp planned
  have some' : entries.insertionSort PlanEntry.before ≠ [] := by
    apply List.ne_nil_of_length_pos
    rw [List.length_insertionSort]
    exact accepts.count.1
  obtain ⟨entry, member⟩ := List.exists_mem_of_ne_nil _ some'
  rw [← @assembled_entries kit input (entries.insertionSort PlanEntry.before), CanonicalPlan.entries,
    List.mem_flatMap] at member
  obtain ⟨batch, listed, member⟩ := member
  have keys := (ordered _ (List.mem_map_of_mem listed)).2 _ (List.mem_map_of_mem member)
  have apart : jsonbEntryKeys ≠ entryKeys := by decide
  exact apart keys

/-! ## Plans are payable in full -/

structure PayableInFull (kit : Kit) (input : PlanContext) (rawEntries : List PlanEntry) (plan : CanonicalPlan) : Prop where
  recipients : plan.entries.Perm rawEntries ∧ plan.entries.Pairwise PlanEntry.before
  sized : ∀ batch ∈ plan.batches, batch.entries ≠ [] ∧ batch.entries.length ≤ distributionPlanBatchSize ∧
    batch.entries.length ≤ Distributions.maxDistributionBatchSize
  ids : plan.batches.map PlanBatch.batchId = List.range plan.batchCount
  total : amountOf plan.batches = decimalValue plan.totalAmount
  permuted : ∀ others, rawEntries.Perm others → canonicalDistributionPlan kit input others = .ok plan
  onChain : ∃ top, plan.rootHex = hashHex (keyBytes top) ∧ (∀ batch ∈ plan.batches, Committed kit plan top batch) ∧
    ∀ (isAdmin mintInitialized : Bool) (fundingFlags pauseFlags : PauseFlags) (funder escrow source : Pubkey)
      (accounts : Accounts Pubkey) (snapshotSupply : Nat) created,
      Distributions.createDistribution isAdmin mintInitialized fundingFlags (kit.key plan.distributionPda) funder
        (kit.key plan.paymentMint) escrow accounts source (decimalValue plan.totalAmount) snapshotSupply top plan.batchCount =
          .ok created →
      (∀ entry ∈ plan.entries, escrow ≠ kit.key entry.tokenAccount ∧ ∃ token,
        created.2.2 (kit.key entry.tokenAccount) = some token ∧ token.owner = kit.key entry.tokenOwner ∧
        token.mint = kit.key plan.paymentMint ∧ token.frozen = false ∧
        token.amount + decimalValue plan.totalAmount < 2 ^ 64) →
      ¬ isPaused pauseFlags pauseDistributions → ∀ order, order.Perm plan.batches →
      ∃ calls v, List.Forall₂ (fun batch call => distributionPayment kit pauseFlags batch = .ok call) order calls ∧
        calls.foldlM (fun v call => Distributions.step kit.hashv v (.distributeBatch call)) (Distributions.opened created) = .ok v ∧
        v.distribution.distributedAmount = decimalValue plan.totalAmount ∧
        ∀ address, address ≠ escrow → balance v.accounts address = balance created.2.2 address + batchesPay kit plan.batches address

theorem batchesPay_perm {kit : Kit} {order batches : List PlanBatch} (perm : order.Perm batches) (address : Pubkey) :
    batchesPay kit order address = batchesPay kit batches address :=
  (perm.map _).sum_eq

theorem payable_in_full {kit : Kit} {input : PlanContext} {rawEntries : List PlanEntry} {plan : CanonicalPlan}
    (planned : canonicalDistributionPlan kit input rawEntries = .ok plan) : PayableInFull kit input rawEntries plan := by
  have perm : rawEntries.Perm (rawEntries.insertionSort PlanEntry.before) := (List.perm_insertionSort _ _).symm
  have permuted : ∀ others, rawEntries.Perm others → canonicalDistributionPlan kit input others = .ok plan :=
    fun others same => canonicalDistributionPlan_perm same planned
  obtain ⟨accepts, rfl⟩ := canonicalDistributionPlan_ok.mp planned
  have sorted := accepts.perm perm
  have nonempty : rawEntries.insertionSort PlanEntry.before ≠ [] := List.ne_nil_of_length_pos sorted.count.1
  obtain ⟨top, reached, root⟩ := @assembled_root kit input _ nonempty
  have committed := sorted.committed reached
  refine
    { recipients := ?recipients, sized := ?sized, ids := assembled_ids, total := ?total, permuted
      onChain := ⟨top, root, committed, ?onChain⟩ }
  case recipients =>
    rw [assembled_entries]
    exact ⟨perm.symm, List.pairwise_insertionSort _ _⟩
  case sized =>
    intro batch member
    obtain ⟨some', few⟩ := (committed batch member).sized
    exact ⟨some', few, few.trans (by decide)⟩
  case total =>
    rw [amountOf_assembled]
    exact sorted.allocated
  case onChain =>
    intro isAdmin mintInitialized fundingFlags pauseFlags funder escrow source accounts snapshotSupply created creation recipients
      unpaused order same
    rw [assembled_entries] at recipients
    have awaits := sorted.awaits same creation recipients
    obtain ⟨calls, v, each, run, total, balances⟩ :=
      pay_all unpaused (fun batch member => committed batch (same.mem_iff.mp member)) awaits
    obtain ⟨distribution, -, -⟩ := created_ok creation
    refine ⟨calls, v, each, run, ?_, ?_⟩
    · rw [total, Distributions.opened, distribution, amountOf, (same.map _).sum_eq, ← amountOf, amountOf_assembled, sorted.allocated]
      exact Nat.zero_add _
    · intro address apart
      have paid := balances address
      rw [Distributions.opened, distribution, if_neg apart, batchesPay_perm same, Nat.add_zero] at paid
      exact paid

/-- Every canonical plan is payable in full on chain. A stored plan is accepted exactly if it is canonical, when its
keys are in the order of the front or it is not canonical anyway, and only then. -/
theorem distribution_plans (kit : Kit) :
    (∀ input rawEntries plan, canonicalDistributionPlan kit input rawEntries = .ok plan →
      PayableInFull kit input rawEntries plan) ∧
    ∀ stored : StoredPlan,
      ((∃ canonical, assertStoredDistributionPlan kit stored = .ok canonical) ↔ IsCanonical kit stored.plan) ↔
        (IsCanonical kit stored.plan → stored.KeysInOrder) := by
  refine ⟨fun input rawEntries plan planned => payable_in_full planned, ?_⟩
  intro stored
  rw [stored_accepted]
  constructor
  · intro accepted canonical
    exact (accepted.mpr canonical).2
  · intro ordered
    exact ⟨And.left, fun canonical => ⟨canonical, ordered canonical⟩⟩

/-! ## A plan with seven recipients -/

def systemAddress : String := "11111111111111111111111111111111"
def exampleDistribution : String := "8nTYLqnzDLDPUn6CqQY3y18Q3x2Trq9q4haPCA658zS3"
def exampleRecipient : String := "2a8MS8dWyyYNgBHgtzeTwrsDKsE6RnCoUqnonB4C8Xc3"

def exampleEntries : List PlanEntry :=
  [⟨"AhzhzQ3CZLnLozytAw6AmLTRR3Yuq2VKTX5S8YbTPuke", "11111111111111111111111111111114", "40"⟩,
    ⟨exampleRecipient, systemAddress, "10"⟩,
    ⟨"AiBpPMDGazqbFTHCp273k8i6J3RZn2TYyUP7DL717BiF", "11111111111111111111111111111117", "70"⟩,
    ⟨"5oecEEcjHrLs3yyYXb17edYurXJeLDcfg3uYBCNbd7Uj", "11111111111111111111111111111112", "20"⟩,
    ⟨"RCJ5jmgiaU36sVeouXZ6XbiJXgE2AiePMVzAdzo2ZvV", "11111111111111111111111111111116", "60"⟩,
    ⟨"6aC9yXsHcKVjKQbKh31RhdU4JHG5qxmNsxqcjLs5s8Bk", "11111111111111111111111111111113", "30"⟩,
    ⟨"HQfbjQXqzLwUju7DVRcfua3C7kMYtRKqJGeUuEaC3mTW", "11111111111111111111111111111115", "50"⟩]

def exampleAccountKeys : List Pubkey :=
  [0x9039a9f4ecd9f541f364ca10c1e925f2b011104248d2f2673535f5e528d1fbc3,
    0x17582ab9b2ee41e302b3e182e3c7d68b3c975369d59d630e7c89ddebd65448d0,
    0x904639efe6c43e60f70102c6b5091b63a6386eb77c93fce1ff0d431554e7be30,
    0x4761fcdb99940e19b1ac60a51cffb6bf44fe4623a7942336b8bccb4d37ff99c0,
    0x632b5cd3c9e798758fa4449b83ba74f5b155e38caef667bea677257fd7934c6,
    0x52cb36cac55e27db15d00cff321b850779e6f0d4f4abe89b304e3a6f31d7b67b,
    0xf3cafe456eb34bd872c7187abb65d735e825bf3fd509801baf70f8c85779ca11]

def exampleAddresses : List (String × Pubkey) :=
  [(systemAddress, 0),
    (tokenClassic, 0x06ddf6e1d765a193d9cbe146ceeb79ac1cb485ed5f5b37913a8cf5857eff00a9),
    (exampleDistribution, 0x73a6f44643fd12531cce39209f29409fbc1c05c7f89e2af8cc1f72d0c6705de8)] ++
    (exampleEntries.map PlanEntry.tokenOwner).zip [3, 0, 6, 1, 5, 2, 4] ++
    (exampleEntries.map PlanEntry.tokenAccount).zip exampleAccountKeys

/-- The client library on the strings of the example. -/
def exampleKit : Kit where
  hashv := fun bytes =>
    -- the two batches, their parent and the plan
    if bytes.length = 504 then 0xc65784a3853c2a43cd7907b084c1c2af99ab71e72b8fddde4cf083a0d4d1496a
    else if bytes.length = 144 then 0x103a8b7714dc4f8e9288714ca07c6b10f81c3c2583abffc4ae5947e6eeabea20
    else if bytes.length = 64 then 0x2807f26239e8b4ca447993251e539332a91d3e7247750d42506b7960d8cfe7b7
    else 0xe6f317c701e0ccac5756c9c4ffb1b9743b55fc4df89fb39f841e6bb926e86813
  address := fun text => okOr (exampleAddresses.lookup text) "Expected base58 encoded address"
  programDerivedAddress := fun _ _ => exampleDistribution
  associatedTokenAddress := fun owner _ _ =>
    (((exampleEntries.map PlanEntry.tokenOwner).zip (exampleEntries.map PlanEntry.tokenAccount)).lookup owner).getD ""

def exampleContext : PlanContext where
  distributionPda := exampleDistribution
  distributionId := "7"
  shareClass := systemAddress
  paymentMint := systemAddress
  paymentTokenProgram := tokenClassic
  funder := systemAddress
  totalAmount := "280"
  snapshotSupply := "1"

theorem example_spells {text : String} (listed : (exampleAddresses.lookup text).isSome = true) : Spells exampleKit text := by
  obtain ⟨key, found⟩ := Option.isSome_iff_exists.mp listed
  exact ⟨key, okOr_eq_ok.mpr found⟩

theorem example_accepts : Accepts exampleKit exampleContext exampleEntries where
  context :=
    { addresses := ⟨⟨_, rfl⟩, ⟨_, rfl⟩, ⟨_, rfl⟩, ⟨_, rfl⟩, ⟨_, rfl⟩⟩
      distributionId := by decide +kernel
      totalAmount := by decide +kernel
      snapshotSupply := by decide +kernel }
  program := by decide +kernel
  pda := by decide +kernel
  count := by decide
  valid := by
    have listed : ∀ entry ∈ exampleEntries, (exampleAddresses.lookup entry.tokenAccount).isSome = true ∧
        (exampleAddresses.lookup entry.tokenOwner).isSome = true := by decide +kernel
    have amounts : ∀ entry ∈ exampleEntries, Canonical entry.amount ∧ entry.value ≤ u64Max ∧ entry.value ≠ 0 := by
      decide +kernel
    intro entry member
    obtain ⟨account, owner⟩ := listed entry member
    obtain ⟨canonical, fits, positive⟩ := amounts entry member
    exact ⟨example_spells account, example_spells owner, canonical, fits, positive⟩
  unique := by decide +kernel
  allocated := by decide +kernel
  accounts := by decide +kernel

def examplePlan : CanonicalPlan :=
  assembled exampleKit exampleContext (exampleEntries.insertionSort PlanEntry.before)

theorem example_planned : canonicalDistributionPlan exampleKit exampleContext exampleEntries = .ok examplePlan :=
  canonicalDistributionPlan_ok.mpr ⟨example_accepts, rfl⟩

theorem distribution_plans_example :
    amountOf examplePlan.batches = 280 ∧ examplePlan.batches.map PlanBatch.batchId = [0, 1] := by
  have payable := (distribution_plans exampleKit).1 _ _ _ example_planned
  have two : examplePlan.batchCount = 2 := by
    rw [examplePlan, assembled, batchGroups_length, List.length_insertionSort]
    rfl
  constructor
  · exact payable.total
  · rw [payable.ids, two]
    rfl

theorem stored_plan_refused :
    ¬ ((∃ canonical, assertStoredDistributionPlan exampleKit (readBack examplePlan) = .ok canonical) ↔
      IsCanonical exampleKit (readBack examplePlan).plan) := by
  intro accepted
  have canonical : IsCanonical exampleKit examplePlan := ⟨_, _, example_planned⟩
  apply readBack_refused canonical
  rw [accepted, readBack_plan]
  exact canonical

end Mancipatio.Commitments
