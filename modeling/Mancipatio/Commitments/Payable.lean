import Mancipatio.Commitments.Plan
import Mancipatio.Distributions.ExactlyOnce

namespace Mancipatio.Commitments
open Bytes Checked Merkle Numerals Ledger Rows
open Mancipatio.Distributions (BatchEntry BatchCall DistributionEscrow)

/-! ## What a plan accepts -/

theorem u64_ok {value : String} {allowZero : Bool} {n : Nat} :
    u64 value allowZero = .ok n ↔
      (Canonical value ∧ decimalValue value ≤ u64Max ∧ (allowZero = true ∨ decimalValue value ≠ 0)) ∧ n = decimalValue value := by
  simp only [u64, bind_eq_ok, pure_eq_ok]
  constructor
  · rintro ⟨_, checked, rfl⟩
    exact ⟨require_eq_ok.mp checked, rfl⟩
  · rintro ⟨checked, rfl⟩
    exact ⟨(), require_eq_ok.mpr checked, rfl⟩

section
variable (kit : Kit)

def Spells (text : String) : Prop :=
  ∃ key, kit.address text = .ok key

def Kit.key (text : String) : Pubkey :=
  match kit.address text with
  | .ok key => key
  | .error _ => 0

structure ValidEntry (entry : PlanEntry) : Prop where
  account : Spells kit entry.tokenAccount
  owner : Spells kit entry.tokenOwner
  canonical : Canonical entry.amount
  fits : entry.value ≤ u64Max
  positive : entry.value ≠ 0

structure ValidContext (context : PlanContext) : Prop where
  addresses : Spells kit context.distributionPda ∧ Spells kit context.shareClass ∧ Spells kit context.paymentMint ∧
    Spells kit context.paymentTokenProgram ∧ Spells kit context.funder
  distributionId : Canonical context.distributionId ∧ decimalValue context.distributionId ≤ u64Max
  totalAmount : Canonical context.totalAmount ∧ decimalValue context.totalAmount ≤ u64Max ∧ decimalValue context.totalAmount ≠ 0
  snapshotSupply : Canonical context.snapshotSupply ∧ decimalValue context.snapshotSupply ≤ u64Max ∧
    decimalValue context.snapshotSupply ≠ 0

def chainEntry (entry : PlanEntry) : BatchEntry :=
  (kit.key entry.tokenAccount, kit.key entry.tokenOwner, BitVec.ofNat 64 entry.value)

def chainLeaf (distribution : String) (group : List PlanEntry × Nat) : Hash :=
  Distributions.distributionBatchLeaf kit.hashv (kit.key distribution) (BitVec.ofNat 32 group.2) (group.1.map (chainEntry kit))

end

section
variable {kit : Kit}

theorem key_of_spelled {text : String} {key : Pubkey} (spelled : kit.address text = .ok key) : kit.key text = key := by
  rw [Kit.key, spelled]

theorem addressText_ok {text text' : String} : kit.addressText text = .ok text' ↔ Spells kit text ∧ text' = text := by
  simp only [Kit.addressText, bind_eq_ok, pure_eq_ok, Spells]
  constructor
  · rintro ⟨key, spelled, rfl⟩
    exact ⟨⟨key, spelled⟩, rfl⟩
  · rintro ⟨⟨key, spelled⟩, rfl⟩
    exact ⟨key, spelled, rfl⟩

theorem encodeAddress_ok {text : String} {bytes : List UInt8} (encoded : kit.encodeAddress text = .ok bytes) :
    bytes = keyBytes (kit.key text) := by
  obtain ⟨key, spelled, rfl⟩ := map_eq_ok.mp encoded
  rw [key_of_spelled spelled]

theorem encodeAddress_spelled {text : String} (spells : Spells kit text) :
    kit.encodeAddress text = .ok (keyBytes (kit.key text)) := by
  obtain ⟨key, spelled⟩ := spells
  rw [key_of_spelled spelled]
  exact map_eq_ok.mpr ⟨key, spelled, rfl⟩

theorem canonicalEntry_ok {entry entry' : PlanEntry} :
    canonicalEntry kit entry = .ok entry' ↔ ValidEntry kit entry ∧ entry' = entry := by
  simp only [canonicalEntry, bind_eq_ok, pure_eq_ok, addressText_ok, u64_ok]
  constructor
  · rintro ⟨_, ⟨account, rfl⟩, _, ⟨owner, rfl⟩, _, ⟨⟨canonical, fits, positive⟩, rfl⟩, rfl⟩
    refine ⟨⟨account, owner, canonical, fits, positive.resolve_left (by decide)⟩, ?_⟩
    rw [repr_decimalValue canonical]
  · rintro ⟨valid, rfl⟩
    refine ⟨_, ⟨valid.account, rfl⟩, _, ⟨valid.owner, rfl⟩, _, ⟨⟨valid.canonical, valid.fits, .inr valid.positive⟩, rfl⟩, ?_⟩
    rw [repr_decimalValue valid.canonical]

theorem canonicalContext_ok {input context : PlanContext} :
    canonicalContext kit input = .ok context ↔ ValidContext kit input ∧ context = input := by
  simp only [canonicalContext, bind_eq_ok, pure_eq_ok, addressText_ok, u64_ok]
  constructor
  · rintro ⟨_, ⟨pda, rfl⟩, _, ⟨⟨id, idFits, -⟩, rfl⟩, _, ⟨share, rfl⟩, _, ⟨mint, rfl⟩, _, ⟨program, rfl⟩, _, ⟨funder, rfl⟩, _,
      ⟨⟨total, totalFits, totalPositive⟩, rfl⟩, _, ⟨⟨supply, supplyFits, supplyPositive⟩, rfl⟩, rfl⟩
    refine ⟨⟨⟨pda, share, mint, program, funder⟩, ⟨id, idFits⟩, ⟨total, totalFits, totalPositive.resolve_left (by decide)⟩,
      ⟨supply, supplyFits, supplyPositive.resolve_left (by decide)⟩⟩, ?_⟩
    rw [repr_decimalValue id, repr_decimalValue total, repr_decimalValue supply]
  · rintro ⟨⟨⟨pda, share, mint, program, funder⟩, id, total, supply⟩, rfl⟩
    refine ⟨_, ⟨pda, rfl⟩, _, ⟨⟨id.1, id.2, .inl trivial⟩, rfl⟩, _, ⟨share, rfl⟩, _, ⟨mint, rfl⟩, _, ⟨program, rfl⟩, _, ⟨funder, rfl⟩,
      _, ⟨⟨total.1, total.2.1, .inr total.2.2⟩, rfl⟩, _, ⟨⟨supply.1, supply.2.1, .inr supply.2.2⟩, rfl⟩, ?_⟩
    rw [repr_decimalValue id.1, repr_decimalValue total.1, repr_decimalValue supply.1]

theorem validated_ok {rawEntries validated : List PlanEntry} :
    rawEntries.mapM (canonicalEntry kit) = .ok validated ↔ (∀ entry ∈ rawEntries, ValidEntry kit entry) ∧ validated = rawEntries := by
  rw [mapM_eq_ok]
  constructor
  · intro each
    induction each with
    | nil => exact ⟨by simp, rfl⟩
    | cons first _ ih =>
        obtain ⟨valid, rfl⟩ := canonicalEntry_ok.mp first
        obtain ⟨others, rfl⟩ := ih
        exact ⟨List.forall_mem_cons.mpr ⟨valid, others⟩, rfl⟩
  · rintro ⟨valid, rfl⟩
    rw [List.forall₂_same]
    exact fun entry member => canonicalEntry_ok.mpr ⟨valid entry member, rfl⟩

/-! ## Leaves -/

theorem entryBytes_ok {entry : PlanEntry} {bytes : List UInt8} (encoded : entryBytes kit entry = .ok bytes) :
    bytes = Distributions.entryBytes (chainEntry kit entry) := by
  simp only [entryBytes, bind_eq_ok, pure_eq_ok, u64_ok] at encoded
  obtain ⟨account, first, owner, second, _, ⟨⟨-, fits, -⟩, rfl⟩, rfl⟩ := encoded
  have small : decimalValue entry.amount < 2 ^ 64 := Nat.lt_of_le_of_lt fits (by decide)
  rw [encodeAddress_ok first, encodeAddress_ok second, Distributions.entryBytes, chainEntry, PlanEntry.value, BitVec.toNat_ofNat,
    Nat.mod_eq_of_lt small]

theorem distributionBatchLeaf_ok {distribution : String} {batchId : Nat} {entries : List PlanEntry} {leaf : List UInt8}
    (few : entries.length < 2 ^ 32) (made : distributionBatchLeaf kit distribution batchId entries = .ok leaf) :
    leaf = keyBytes (chainLeaf kit distribution (entries, batchId)) := by
  simp only [distributionBatchLeaf, bind_eq_ok, pure_eq_ok, require_eq_ok] at made
  obtain ⟨_, ⟨small, -⟩, head, encoded, rows, each, rfl⟩ := made
  have bodies : rows.flatten = (entries.map (chainEntry kit)).flatMap Distributions.entryBytes := by
    rw [mapM_eq_ok] at each
    clear few
    induction each with
    | nil => rfl
    | cons first _ ih => rw [List.flatten_cons, List.map_cons, List.flatMap_cons, entryBytes_ok first, ih]
  have batch : batchId < 2 ^ 32 := Nat.lt_of_le_of_lt small (by decide)
  rw [bodies, encodeAddress_ok encoded, Kit.sha256, chainLeaf, Distributions.distributionBatchLeaf, Distributions.batchBytes,
    Distributions.batchDomain, BitVec.toNat_ofNat, Nat.mod_eq_of_lt batch, List.length_map, truncate_of_lt few]

theorem distributionBatchLeaf_succeeds {distribution : String} {batchId : Nat} {entries : List PlanEntry}
    (spells : Spells kit distribution) (small : batchId < 2 ^ 32) (nonempty : entries ≠ [])
    (valid : ∀ entry ∈ entries, ValidEntry kit entry) :
    ∃ leaf, distributionBatchLeaf kit distribution batchId entries = .ok leaf := by
  have rows : ∃ rows, entries.mapM (entryBytes kit) = .ok rows := by
    refine ⟨entries.map fun entry => Distributions.entryBytes (chainEntry kit entry), ?_⟩
    rw [mapM_eq_ok, List.forall₂_map_right_iff, List.forall₂_same]
    intro entry member
    have fine := valid entry member
    have amount : u64 entry.amount false = .ok entry.value := u64_ok.mpr ⟨⟨fine.canonical, fine.fits, .inr fine.positive⟩, rfl⟩
    have bytes : ∃ bytes, entryBytes kit entry = .ok bytes := by
      simp only [entryBytes, encodeAddress_spelled fine.account, encodeAddress_spelled fine.owner, amount, bind_eq_ok]
      exact ⟨_, _, rfl, _, rfl, _, rfl, rfl⟩
    obtain ⟨bytes, made⟩ := bytes
    rw [made, entryBytes_ok made]
  obtain ⟨rows, each⟩ := rows
  simp only [distributionBatchLeaf, bind_eq_ok, pure_eq_ok, require_eq_ok]
  exact ⟨_, (), ⟨Nat.le_of_lt_succ small, nonempty⟩, _, encodeAddress_spelled spells, rows, each, rfl⟩

end

/-! ## Groups and order -/

theorem batchGroups_flatten (entries : List PlanEntry) : (batchGroups entries).flatten = entries := by
  fun_induction batchGroups entries with
  | case1 => rfl
  | case2 entry rest ih => rw [List.flatten_cons, ih, List.take_append_drop]

theorem batchGroups_sized (entries : List PlanEntry) :
    ∀ group ∈ batchGroups entries, group ≠ [] ∧ group.length ≤ distributionPlanBatchSize := by
  fun_induction batchGroups entries with
  | case1 => simp
  | case2 entry rest ih =>
      rintro group (_ | ⟨_, later⟩)
      · exact ⟨by simp [distributionPlanBatchSize], by simp⟩
      · exact ih group later

theorem batchGroups_length (entries : List PlanEntry) :
    (batchGroups entries).length = (entries.length + (distributionPlanBatchSize - 1)) / distributionPlanBatchSize := by
  fun_induction batchGroups entries with
  | case1 => rfl
  | case2 entry rest ih =>
      rw [List.length_cons, ih, List.length_drop, List.length_cons]
      unfold distributionPlanBatchSize
      omega

instance : Std.Total PlanEntry.before where
  total a b := by
    rcases lt_trichotomy a.tokenOwner b.tokenOwner with less | same | more
    · exact .inl (.inl less)
    · rcases le_total a.tokenAccount b.tokenAccount with le | ge
      · exact .inl (.inr ⟨same, le⟩)
      · exact .inr (.inr ⟨same.symm, ge⟩)
    · exact .inr (.inl more)

instance : IsTrans PlanEntry PlanEntry.before where
  trans a b c := by
    rintro (less | ⟨same, le⟩) (less' | ⟨same', le'⟩)
    · exact .inl (less.trans less')
    · exact .inl (same' ▸ less)
    · exact .inl (same ▸ less')
    · exact .inr ⟨same.trans same', le.trans le'⟩

theorem sorted_of_perm {entries others : List PlanEntry} (perm : entries.Perm others)
    (owners : (entries.map PlanEntry.tokenOwner).Nodup) :
    others.insertionSort PlanEntry.before = entries.insertionSort PlanEntry.before := by
  have members : ∀ {list : List PlanEntry} {entry : PlanEntry}, entry ∈ list.insertionSort PlanEntry.before → entry ∈ list :=
    fun member => List.mem_insertionSort _ |>.mp member
  apply List.Perm.eq_of_pairwise _ (List.pairwise_insertionSort _ _) (List.pairwise_insertionSort _ _)
  · exact ((List.perm_insertionSort _ _).trans perm.symm).trans (List.perm_insertionSort _ _).symm
  · intro a b first second ab ba
    have same : a.tokenOwner = b.tokenOwner := by
      rcases ab with less | ⟨same, -⟩
      · rcases ba with less' | ⟨same, -⟩
        · exact absurd (less.trans less') (lt_irrefl _)
        · exact same.symm
      · exact same
    exact List.inj_on_of_nodup_map owners (perm.mem_iff.mpr (members first)) (members second) same

/-! ## Canonical plans -/

structure Accepts (kit : Kit) (input : PlanContext) (entries : List PlanEntry) : Prop where
  context : ValidContext kit input
  program : input.paymentTokenProgram ∈ [tokenClassic, token2022]
  pda : findDistributionPda kit input.shareClass (decimalValue input.distributionId) = .ok input.distributionPda
  count : 1 ≤ entries.length ∧ entries.length ≤ distributionPlanMaxEntries
  valid : ∀ entry ∈ entries, ValidEntry kit entry
  unique : (entries.map PlanEntry.tokenOwner).Nodup ∧ (entries.map PlanEntry.tokenAccount).Nodup
  allocated : (entries.map PlanEntry.value).sum = decimalValue input.totalAmount
  accounts : ∀ entry ∈ entries,
    kit.associatedTokenAddress entry.tokenOwner input.paymentMint input.paymentTokenProgram = entry.tokenAccount

section
variable {kit : Kit} {input : PlanContext} {entries others : List PlanEntry}

theorem Accepts.perm (accepts : Accepts kit input entries) (perm : entries.Perm others) : Accepts kit input others where
  context := accepts.context
  program := accepts.program
  pda := accepts.pda
  count := by
    rw [← perm.length_eq]
    exact accepts.count
  valid := fun entry member => accepts.valid entry (perm.mem_iff.mpr member)
  unique := ⟨(perm.map _).nodup_iff.mp accepts.unique.1, (perm.map _).nodup_iff.mp accepts.unique.2⟩
  allocated := by
    rw [← (perm.map _).sum_eq]
    exact accepts.allocated
  accounts := fun entry member => accepts.accounts entry (perm.mem_iff.mpr member)

def planLeaves (kit : Kit) (input : PlanContext) (entries : List PlanEntry) : List Hash :=
  (batchGroups entries).zipIdx.map (chainLeaf kit input.distributionPda)

def assembled (kit : Kit) (input : PlanContext) (entries : List PlanEntry) : CanonicalPlan :=
  let leaves := (planLeaves kit input entries).map keyBytes
  { input with
    rootHex := hashHex (((treeLevels kit leaves).getLast?.bind List.head?).getD [])
    planHash := hashHex (kit.sha256 (JsonText.stringify (planJson input (batchGroups entries))).toUTF8.toList)
    batchCount := (batchGroups entries).length
    batches := ((batchGroups entries).zip leaves).zipIdx.map (planBatch (treeLevels kit leaves))
    allocatedAmount := Nat.repr (entries.map PlanEntry.value).sum
    entryCount := entries.length }

theorem Accepts.groups (accepts : Accepts kit input entries) {group : List PlanEntry × Nat}
    (member : group ∈ (batchGroups entries).zipIdx) :
    group.1 ≠ [] ∧ group.1.length < 2 ^ 32 ∧ group.2 < 2 ^ 32 ∧ ∀ entry ∈ group.1, ValidEntry kit entry := by
  obtain ⟨-, inside, found⟩ := List.mem_zipIdx member
  rw [Nat.zero_add, batchGroups_length] at inside
  have most := accepts.count.2
  simp only [distributionPlanBatchSize, distributionPlanMaxEntries] at inside most
  have stored : group.1 ∈ batchGroups entries := by
    rw [found]
    exact List.getElem_mem _
  obtain ⟨nonempty, sized⟩ := batchGroups_sized entries group.1 stored
  simp only [distributionPlanBatchSize] at sized
  refine ⟨nonempty, by omega, by omega, ?_⟩
  intro entry listed
  apply accepts.valid
  rw [← batchGroups_flatten entries]
  exact List.mem_flatten.mpr ⟨group.1, stored, listed⟩

theorem Accepts.leaves (accepts : Accepts kit input entries) {leaves : List (List UInt8)} :
    ((batchGroups entries).zipIdx.mapM fun group => distributionBatchLeaf kit input.distributionPda group.2 group.1) = .ok leaves ↔
      leaves = (planLeaves kit input entries).map keyBytes := by
  have made : ∀ group ∈ (batchGroups entries).zipIdx, ∀ leaf,
      distributionBatchLeaf kit input.distributionPda group.2 group.1 = .ok leaf ↔
        leaf = keyBytes (chainLeaf kit input.distributionPda group) := by
    intro group member leaf
    obtain ⟨nonempty, few, small, valid⟩ := accepts.groups member
    constructor
    · exact distributionBatchLeaf_ok few
    · rintro rfl
      obtain ⟨leaf, made⟩ := distributionBatchLeaf_succeeds accepts.context.addresses.1 small nonempty valid
      rw [made, distributionBatchLeaf_ok few made]
  rw [planLeaves, List.map_map]
  exact mapM_eq_map made

theorem canonicalDistributionPlan_ok {plan : CanonicalPlan} :
    canonicalDistributionPlan kit input entries = .ok plan ↔
      Accepts kit input entries ∧ plan = assembled kit input (entries.insertionSort PlanEntry.before) := by
  have perm : entries.Perm (entries.insertionSort PlanEntry.before) := (List.perm_insertionSort _ _).symm
  simp only [canonicalDistributionPlan, bind_eq_ok, canonicalContext_ok, validated_ok]
  constructor
  · rintro ⟨_, ⟨context, written⟩, _, program, _, pda, _, same, _, count, _, ⟨valid, validated⟩, _, unique, _, allocated, _, accounts,
      leaves, made, plan⟩
    obtain rfl := written.symm
    obtain rfl := validated.symm
    rw [require_eq_ok] at program same count unique allocated accounts
    subst same
    have accepts : Accepts kit input (entries.insertionSort PlanEntry.before) :=
      { context, program, pda, count := by rwa [← perm.length_eq], unique, allocated, accounts
        valid := fun entry member => valid entry (perm.mem_iff.mpr member) }
    obtain rfl := accepts.leaves.mp made
    exact ⟨accepts.perm perm.symm, (pure_eq_ok.mp plan).symm⟩
  · rintro ⟨accepts, rfl⟩
    have sorted := accepts.perm perm
    exact ⟨_, ⟨accepts.context, rfl⟩, (), require_eq_ok.mpr accepts.program, _, accepts.pda, (), require_eq_ok.mpr rfl, (),
      require_eq_ok.mpr accepts.count, _, ⟨accepts.valid, rfl⟩, (), require_eq_ok.mpr sorted.unique, (),
      require_eq_ok.mpr sorted.allocated, (), require_eq_ok.mpr sorted.accounts, _, sorted.leaves.mpr rfl, rfl⟩

theorem canonicalDistributionPlan_perm {plan : CanonicalPlan} (perm : entries.Perm others)
    (planned : canonicalDistributionPlan kit input entries = .ok plan) : canonicalDistributionPlan kit input others = .ok plan := by
  obtain ⟨accepts, rfl⟩ := canonicalDistributionPlan_ok.mp planned
  refine canonicalDistributionPlan_ok.mpr ⟨accepts.perm perm, ?_⟩
  rw [sorted_of_perm perm accepts.unique.1]

def committedBatch (kit : Kit) (input : PlanContext) (leaves : List Hash) (group : List PlanEntry × Nat) : PlanBatch where
  batchId := group.2
  entries := group.1
  leafHex := hashHex (keyBytes (chainLeaf kit input.distributionPda group))
  proof := (proofAt (levels (merkleParent kit.hashv) leaves) group.2).map fun sibling => hashHex (keyBytes sibling)

theorem assembled_batches :
    (assembled kit input entries).batches =
      (batchGroups entries).zipIdx.map (committedBatch kit input (planLeaves kit input entries)) := by
  apply List.ext_getElem
  · simp [assembled, planLeaves]
  · intro i inside inside'
    simp only [assembled, List.getElem_map, List.getElem_zipIdx, Nat.zero_add, List.getElem_zip, planBatch, committedBatch,
      treeLevels_proof, PlanBatch.mk.injEq, true_and]
    exact ⟨by simp [planLeaves], List.map_map⟩

theorem assembled_root (nonempty : entries ≠ []) :
    ∃ top, apex (merkleParent kit.hashv) (planLeaves kit input entries) = some top ∧
      (assembled kit input entries).rootHex = hashHex (keyBytes top) := by
  have some' : planLeaves kit input entries ≠ [] := by
    intro empty
    have groups : batchGroups entries = [] := by simpa [planLeaves] using empty
    apply nonempty
    rw [← batchGroups_flatten entries, groups, List.flatten_nil]
  obtain ⟨top, reached⟩ := @apex_exists _ (merkleParent kit.hashv) _ some'
  refine ⟨top, reached, ?_⟩
  simp only [assembled, treeLevels_top reached, Option.getD_some]

structure Committed (kit : Kit) (plan : CanonicalPlan) (top : Hash) (batch : PlanBatch) : Prop where
  sized : batch.entries ≠ [] ∧ batch.entries.length ≤ distributionPlanBatchSize
  counted : batch.batchId < plan.batchCount ∧ batch.batchId < 2 ^ 32
  valid : ∀ entry ∈ batch.entries, ValidEntry kit entry
  leaf : batch.leafHex = hashHex (keyBytes (chainLeaf kit plan.distributionPda (batch.entries, batch.batchId)))
  proof : ∃ siblings : List Hash, batch.proof = siblings.map (fun sibling => hashHex (keyBytes sibling)) ∧ siblings.length ≤ 32 ∧
    verifyMerkleProof kit.hashv top (chainLeaf kit plan.distributionPda (batch.entries, batch.batchId)) siblings = true

theorem Accepts.committed (accepts : Accepts kit input entries) {top : Hash}
    (reached : apex (merkleParent kit.hashv) (planLeaves kit input entries) = some top) :
    ∀ batch ∈ (assembled kit input entries).batches, Committed kit (assembled kit input entries) top batch := by
  rw [assembled_batches]
  intro batch member
  obtain ⟨group, listed, rfl⟩ := List.mem_map.mp member
  obtain ⟨nonempty, -, small, valid⟩ := accepts.groups listed
  obtain ⟨-, inside, found⟩ := List.mem_zipIdx listed
  rw [Nat.zero_add] at inside
  have stored : group.1 ∈ batchGroups entries := by
    rw [found]
    exact List.getElem_mem _
  have stands : (planLeaves kit input entries)[group.2]? = some (chainLeaf kit input.distributionPda group) := by
    have placed : (batchGroups entries).zipIdx[group.2]? = some group := by
      rw [List.getElem?_zipIdx, List.mem_zipIdx_iff_getElem?.mp listed, Option.map_some, Nat.zero_add]
    rw [planLeaves, List.getElem?_map, placed, Option.map_some]
  have most := accepts.count.2
  have fits : (planLeaves kit input entries).length ≤ 2 ^ 10 := by
    rw [planLeaves, List.length_map, List.length_zipIdx, batchGroups_length]
    simp only [distributionPlanBatchSize, distributionPlanMaxEntries] at most ⊢
    omega
  exact
    { sized := ⟨nonempty, (batchGroups_sized entries group.1 stored).2⟩
      counted := ⟨inside, small⟩
      valid := valid
      leaf := rfl
      proof := ⟨_, rfl, (proofAt_length fits group.2).trans (by decide), proof_accepted stands reached⟩ }

end

/-! ## Payments -/

def distributionPayment (kit : Kit) (pauseFlags : PauseFlags) (batch : PlanBatch) : Except String BatchCall := do
  let recipients ← batch.entries.mapM fun entry => kit.address entry.tokenAccount
  let proof ← batch.proof.mapM fun sibling => hashOfBytes <$> hashBytes sibling "Expected a 32-byte lowercase hash"
  return {
    isAdmin := true
    pauseFlags
    batchId := BitVec.ofNat 32 batch.batchId
    recipients
    amounts := batch.entries.map fun entry => BitVec.ofNat 64 entry.value
    proof }

def amountOf (batches : List PlanBatch) : Nat :=
  (batches.map fun batch => (batch.entries.map PlanEntry.value).sum).sum

def batchesPay (kit : Kit) (batches : List PlanBatch) (address : Pubkey) : Nat :=
  (batches.map fun batch => paidTo (batch.entries.map fun entry => (kit.key entry.tokenAccount, entry.value)) address).sum

/-- The recipient has its account, thawed, and units of one mint fit together. -/
structure Receives (kit : Kit) (v : DistributionEscrow) (escrow : TokenAccount Pubkey) (entry : PlanEntry) : Prop where
  apart : v.distribution.escrow ≠ kit.key entry.tokenAccount
  held : ∃ token, v.accounts (kit.key entry.tokenAccount) = some token ∧ token.owner = kit.key entry.tokenOwner ∧
    token.mint = v.distribution.paymentMint ∧ token.frozen = false ∧ token.amount + escrow.amount < 2 ^ 64

structure Awaits (kit : Kit) (plan : CanonicalPlan) (top : Hash) (v : DistributionEscrow) (rest : List PlanBatch) : Prop where
  accounted : Distributions.Accounted kit.hashv v
  distributing : v.distribution.status = .distributing
  terms : v.distribution.address = kit.key plan.distributionPda ∧ v.plan.batchRoot = top ∧ v.plan.batchCount = plan.batchCount
  fresh : ∀ batch ∈ rest, lookup Distributions.DistributionBatch.batchId (BitVec.ofNat 32 batch.batchId) v.batches = none
  ids : (rest.map PlanBatch.batchId).Nodup
  within : v.distribution.distributedAmount + amountOf rest ≤ v.distribution.totalAmount ∧ v.distribution.totalAmount < 2 ^ 64
  counted : v.distribution.paidCount + (rest.map fun batch => batch.entries.length).sum < 2 ^ 32
  escrow : ∃ escrow, v.accounts v.distribution.escrow = some escrow ∧ escrow.frozen = false ∧ amountOf rest ≤ escrow.amount ∧
    ∀ batch ∈ rest, ∀ entry ∈ batch.entries, Receives kit v escrow entry

section
variable {kit : Kit} {plan : CanonicalPlan} {top : Hash} {batch : PlanBatch} {pauseFlags : PauseFlags}

theorem distributionPayment_ok (committed : Committed kit plan top batch) :
    ∃ proof, distributionPayment kit pauseFlags batch = .ok
        { isAdmin := true, pauseFlags, batchId := BitVec.ofNat 32 batch.batchId
          recipients := batch.entries.map fun entry => kit.key entry.tokenAccount
          amounts := batch.entries.map fun entry => BitVec.ofNat 64 entry.value, proof } ∧
      proof.length ≤ 32 ∧
      verifyMerkleProof kit.hashv top (chainLeaf kit plan.distributionPda (batch.entries, batch.batchId)) proof = true := by
  obtain ⟨siblings, written, short, verified⟩ := committed.proof
  refine ⟨siblings, ?_, short, verified⟩
  have recipients : (batch.entries.mapM fun entry => kit.address entry.tokenAccount) =
      .ok (batch.entries.map fun entry => kit.key entry.tokenAccount) := by
    rw [mapM_eq_ok, List.forall₂_map_right_iff, List.forall₂_same]
    intro entry member
    obtain ⟨key, spelled⟩ := (committed.valid entry member).account
    rw [spelled, key_of_spelled spelled]
  have proof : (batch.proof.mapM fun sibling => hashOfBytes <$> hashBytes sibling "Expected a 32-byte lowercase hash") =
      .ok siblings := by
    rw [written, mapM_eq_ok, List.forall₂_map_left_iff, List.forall₂_same]
    intro sibling _
    rw [hashBytes_hashHex]
    exact congrArg Except.ok (hashOfBytes_keyBytes sibling)
  simp only [distributionPayment, recipients, proof, bind_eq_ok, pure_eq_ok]
  exact ⟨_, rfl, _, rfl, rfl⟩

theorem amount_toNat {entry : PlanEntry} (valid : ValidEntry kit entry) : (BitVec.ofNat 64 entry.value).toNat = entry.value := by
  have fits := valid.fits
  rw [BitVec.toNat_ofNat, Nat.mod_eq_of_lt]
  exact Nat.lt_of_le_of_lt fits (by decide)

theorem amounts_toNat (committed : Committed kit plan top batch) :
    (batch.entries.map fun entry => BitVec.ofNat 64 entry.value).map BitVec.toNat = batch.entries.map PlanEntry.value := by
  rw [List.map_map]
  exact List.map_congr_left fun entry member => amount_toNat (committed.valid entry member)

theorem batchTotal_succeeds (committed : Committed kit plan top batch)
    (small : (batch.entries.map PlanEntry.value).sum < 2 ^ 64) :
    Distributions.batchTotal (batch.entries.map fun entry => BitVec.ofNat 64 entry.value) =
      .ok (batch.entries.map PlanEntry.value).sum := by
  have general : ∀ (amounts : List (BitVec 64)) (start : Nat), start + (amounts.map BitVec.toNat).sum < 2 ^ 64 →
      amounts.foldlM (fun sum amount => okOr (checkedAdd 64 sum amount.toNat) RegistryError.overflow) start =
        .ok (start + (amounts.map BitVec.toNat).sum) := by
    intro amounts
    induction amounts with
    | nil => exact fun start _ => rfl
    | cons amount rest ih =>
        intro start fits
        rw [List.map_cons, List.sum_cons] at fits ⊢
        have now : okOr (checkedAdd 64 start amount.toNat) RegistryError.overflow = .ok (start + amount.toNat) := by
          rw [okOr_eq_ok, checkedAdd_eq_some]
          exact ⟨rfl, by omega⟩
        rw [List.foldlM_cons, now, ← Nat.add_assoc]
        exact ih (start + amount.toNat) (by omega)
  have total := general (batch.entries.map fun entry => BitVec.ofNat 64 entry.value) 0 (by
    rw [amounts_toNat committed]
    omega)
  rw [amounts_toNat committed, Nat.zero_add] at total
  exact total

theorem payments_eq (committed : Committed kit plan top batch) :
    (batch.entries.map fun entry => kit.key entry.tokenAccount).zip
        ((batch.entries.map fun entry => BitVec.ofNat 64 entry.value).map BitVec.toNat) =
      batch.entries.map fun entry => (kit.key entry.tokenAccount, entry.value) := by
  rw [amounts_toNat committed, List.zip_map']

theorem payments_total (entries : List PlanEntry) (kit : Kit) :
    ((entries.map fun entry => (kit.key entry.tokenAccount, entry.value)).map Prod.snd).sum = (entries.map PlanEntry.value).sum := by
  rw [List.map_map]
  rfl

theorem lookup_append_of_ne {batches : List Distributions.DistributionBatch} {receipt : Distributions.DistributionBatch}
    {batchId : BitVec 32} (fresh : lookup Distributions.DistributionBatch.batchId batchId batches = none)
    (apart : receipt.batchId ≠ batchId) :
    lookup Distributions.DistributionBatch.batchId batchId (batches ++ [receipt]) = none := by
  unfold lookup at fresh ⊢
  rw [List.find?_append, fresh]
  simp [apart]

variable {v : DistributionEscrow} {rest : List PlanBatch}

theorem Awaits.describes (awaits : Awaits kit plan top v (batch :: rest)) {call : BatchCall}
    (recipients : call.recipients = batch.entries.map fun entry => kit.key entry.tokenAccount)
    (amounts : call.amounts = batch.entries.map fun entry => BitVec.ofNat 64 entry.value) :
    Distributions.Describes v call (batch.entries.map (chainEntry kit)) := by
  obtain ⟨escrow, -, -, -, receives⟩ := awaits.escrow
  have each := receives batch List.mem_cons_self
  rw [Distributions.Describes, recipients, amounts, List.zip_map', Distributions.batchEntries, mapM_eq_ok,
    List.forall₂_map_left_iff, List.forall₂_map_right_iff, List.forall₂_same]
  intro entry member
  obtain ⟨token, held, owner, mint, -⟩ := (each entry member).held
  simp only [bind_eq_ok, okOr_eq_ok, require_eq_ok, pure_eq_ok]
  exact ⟨token, held, (), mint, by rw [owner, chainEntry]⟩

theorem amountOf_cons (batch : PlanBatch) (rest : List PlanBatch) :
    amountOf (batch :: rest) = (batch.entries.map PlanEntry.value).sum + amountOf rest := by
  rw [amountOf, List.map_cons, List.sum_cons, amountOf]

theorem Awaits.paid {call : BatchCall} {v' : DistributionEscrow} {accounts : Accounts Pubkey}
    (awaits : Awaits kit plan top v (batch :: rest)) (small : ∀ other ∈ batch :: rest, other.batchId < 2 ^ 32)
    (stepped : Distributions.step kit.hashv v (.distributeBatch call) = .ok v')
    (moved : transferAll RegistryError.insufficientFunds v.distribution.paymentMint v.distribution.escrow v.distribution.address
      v.accounts (batch.entries.map fun entry => (kit.key entry.tokenAccount, entry.value)) = .ok accounts)
    {receipt : Distributions.DistributionBatch} (id : receipt.batchId = BitVec.ofNat 32 batch.batchId)
    (result : v' = { v with
      distribution := { v.distribution with
        distributedAmount := v.distribution.distributedAmount + (batch.entries.map PlanEntry.value).sum
        paidCount := v.distribution.paidCount + batch.entries.length }
      batches := v.batches ++ [receipt]
      accounts }) : Awaits kit plan top v' rest := by
  obtain ⟨escrow, held, thawed, enough, receives⟩ := awaits.escrow
  have accounted := Distributions.accounted_step awaits.accounted stepped
  have ids := awaits.ids
  rw [List.map_cons, List.nodup_cons] at ids
  have within := awaits.within
  have counted := awaits.counted
  rw [amountOf_cons] at within enough
  rw [List.map_cons, List.sum_cons] at counted
  have others : ∀ payment ∈ batch.entries.map fun entry => (kit.key entry.tokenAccount, entry.value), payment.1 ≠ v.distribution.escrow := by
    intro payment member
    obtain ⟨entry, listed, rfl⟩ := List.mem_map.mp member
    exact Ne.symm (receives batch List.mem_cons_self entry listed).apart
  have left := transferAll_balance moved v.distribution.escrow
  rw [if_pos rfl, payments_total, paidTo_eq_zero others, Nat.add_zero, balance_of_held held] at left
  have kept := held_of_holder held (transferAll_holder moved v.distribution.escrow)
  subst result
  refine
    { accounted := accounted
      distributing := awaits.distributing
      terms := awaits.terms
      fresh := ?fresh
      ids := ids.2
      within := ⟨by dsimp only; omega, within.2⟩
      counted := by dsimp only; omega
      escrow := ⟨_, kept, thawed, by dsimp only; omega, ?receives⟩ }
  case fresh =>
    intro other member
    refine lookup_append_of_ne (awaits.fresh other (List.mem_cons_of_mem _ member)) ?_
    rw [id]
    intro same
    have numbers := congrArg BitVec.toNat same
    rw [BitVec.toNat_ofNat, BitVec.toNat_ofNat, Nat.mod_eq_of_lt (small batch List.mem_cons_self),
      Nat.mod_eq_of_lt (small other (List.mem_cons_of_mem _ member))] at numbers
    exact ids.1 (numbers ▸ List.mem_map_of_mem member)
  case receives =>
    intro other member entry listed
    obtain ⟨apart, token, has, owner, mint, open', room⟩ := receives other (List.mem_cons_of_mem _ member) entry listed
    refine ⟨apart, _, held_of_holder has (transferAll_holder moved _), owner, mint, open', ?_⟩
    have got := transferAll_balance moved (kit.key entry.tokenAccount)
    have share := paidTo_le (batch.entries.map fun entry => (kit.key entry.tokenAccount, entry.value)) (kit.key entry.tokenAccount)
    rw [if_neg (Ne.symm apart), Nat.add_zero, balance_of_held has] at got
    rw [payments_total] at share
    dsimp only
    omega

theorem pay_next (unpaused : ¬ isPaused pauseFlags pauseDistributions) (committed : Committed kit plan top batch)
    (small : ∀ other ∈ batch :: rest, other.batchId < 2 ^ 32) (awaits : Awaits kit plan top v (batch :: rest)) :
    ∃ call v', distributionPayment kit pauseFlags batch = .ok call ∧
      Distributions.step kit.hashv v (.distributeBatch call) = .ok v' ∧ Awaits kit plan top v' rest ∧
      v'.distribution = { v.distribution with
        distributedAmount := v.distribution.distributedAmount + amountOf [batch]
        paidCount := v.distribution.paidCount + batch.entries.length } ∧
      ∀ address, balance v'.accounts address + (if address = v.distribution.escrow then amountOf [batch] else 0) =
        balance v.accounts address + batchesPay kit [batch] address := by
  obtain ⟨proof, built, short, verified⟩ := @distributionPayment_ok _ _ _ _ pauseFlags committed
  obtain ⟨escrow, held, thawed, enough, receives⟩ := awaits.escrow
  obtain ⟨escrow', held', owner, mint, -⟩ := awaits.accounted.funded awaits.distributing
  obtain rfl : escrow = escrow' := Option.some.inj (held.symm.trans held')
  have within := awaits.within
  have counted := awaits.counted
  rw [amountOf_cons] at within enough
  rw [List.map_cons, List.sum_cons] at counted
  generalize built' : ({ isAdmin := true, pauseFlags, batchId := BitVec.ofNat 32 batch.batchId
                         recipients := batch.entries.map fun entry => kit.key entry.tokenAccount
                         amounts := batch.entries.map fun entry => BitVec.ofNat 64 entry.value, proof } : BatchCall) = call at built
  have payments : Distributions.paymentsOf call = batch.entries.map fun entry => (kit.key entry.tokenAccount, entry.value) := by
    rw [← built']
    exact payments_eq committed
  have total : Distributions.totalOf call.amounts = (batch.entries.map PlanEntry.value).sum := by
    rw [← built', Distributions.totalOf, amounts_toNat committed]
  have length : call.amounts.length = batch.entries.length := by rw [← built', List.length_map]
  have sized := committed.sized
  unfold distributionPlanBatchSize at sized
  have wellformed : Distributions.Wellformed v call := by
    subst built'
    refine ⟨rfl, unpaused, ⟨by simp [sized.1], ?_, by simp, ?_⟩, ?_, short⟩
    · rw [length]
      exact sized.2.trans (by decide)
    · intro amount member
      obtain ⟨entry, listed, rfl⟩ := List.mem_map.mp member
      rw [amount_toNat (committed.valid entry listed)]
      exact Nat.pos_of_ne_zero (committed.valid entry listed).positive
    · dsimp only
      rw [BitVec.toNat_ofNat, Nat.mod_eq_of_lt committed.counted.2, awaits.terms.2.2]
      exact committed.counted.1
  have described : Distributions.Describes v call (batch.entries.map (chainEntry kit)) :=
    awaits.describes (by rw [← built']) (by rw [← built'])
  have moved : ∃ accounts, transferAll RegistryError.insufficientFunds v.distribution.paymentMint v.distribution.escrow
      v.distribution.address v.accounts (Distributions.paymentsOf call) = .ok accounts := by
    rw [payments]
    apply transferAll_succeeds held ⟨mint, owner, thawed⟩
    · intro payment member
      obtain ⟨entry, listed, rfl⟩ := List.mem_map.mp member
      obtain ⟨apart, token, has, -, minted, open', room⟩ := receives batch List.mem_cons_self entry listed
      exact ⟨token, has, apart, minted, open', room⟩
    · rw [payments_total]
      omega
  obtain ⟨accounts, moved⟩ := moved
  have stepped := Distributions.payment_succeeds awaits.accounted wellformed described awaits.distributing
    (by rw [← built']; exact awaits.fresh batch List.mem_cons_self)
    (by
      rw [awaits.terms.2.1, Distributions.leafOf, awaits.terms.1, ← built']
      exact verified)
    (by
      rw [total, ← built']
      exact batchTotal_succeeds committed (by omega))
    ⟨within.2, by omega⟩ (by omega) moved
  rw [payments] at moved
  have balances := transferAll_balance moved
  rw [payments_total] at balances
  rw [total, length] at stepped
  refine ⟨call, _, built, stepped, awaits.paid small stepped moved ?_ rfl, ?_, ?_⟩
  · rw [Distributions.receiptOf, ← built']
  · simp [amountOf]
  · intro address
    simpa [amountOf, batchesPay] using balances address

theorem batchesPay_cons (batch : PlanBatch) (rest : List PlanBatch) (address : Pubkey) :
    batchesPay kit (batch :: rest) address = batchesPay kit [batch] address + batchesPay kit rest address := by
  simp [batchesPay]

/-- Calls for the batches, in this order, all go through. -/
theorem pay_all (unpaused : ¬ isPaused pauseFlags pauseDistributions) {order : List PlanBatch}
    (committed : ∀ batch ∈ order, Committed kit plan top batch) (awaits : Awaits kit plan top v order) :
    ∃ calls v', List.Forall₂ (fun batch call => distributionPayment kit pauseFlags batch = .ok call) order calls ∧
      calls.foldlM (fun v call => Distributions.step kit.hashv v (.distributeBatch call)) v = .ok v' ∧
      v'.distribution.distributedAmount = v.distribution.distributedAmount + amountOf order ∧
      ∀ address, balance v'.accounts address + (if address = v.distribution.escrow then amountOf order else 0) =
        balance v.accounts address + batchesPay kit order address := by
  induction order generalizing v with
  | nil => exact ⟨[], v, .nil, rfl, rfl, fun address => by simp [amountOf, batchesPay]⟩
  | cons batch rest ih =>
      have small : ∀ other ∈ batch :: rest, other.batchId < 2 ^ 32 := fun other member => (committed other member).counted.2
      obtain ⟨call, between, built, stepped, later, terms, moved⟩ :=
        pay_next unpaused (committed batch List.mem_cons_self) small awaits
      obtain ⟨calls, v', each, run, total, balances⟩ := ih (fun other member => committed other (List.mem_cons_of_mem _ member)) later
      refine ⟨call :: calls, v', .cons built each, by rw [List.foldlM_cons, stepped]; exact run, ?_, ?_⟩
      · rw [total, terms]
        simp [amountOf, Nat.add_assoc]
      · intro address
        have first := moved address
        have others := balances address
        have sum : amountOf (batch :: rest) = amountOf [batch] + amountOf rest := by simp [amountOf]
        rw [terms] at others
        rw [sum, batchesPay_cons]
        by_cases escrow : address = v.distribution.escrow
        · simp only [escrow, if_true] at first others ⊢
          omega
        · simp only [escrow, if_false] at first others ⊢
          omega

end

/-! ## Funded plans -/

theorem created_ok {isAdmin mintInitialized : Bool} {pauseFlags : PauseFlags} {address funder paymentMint escrow source : Pubkey}
    {accounts : Accounts Pubkey} {totalAmount snapshotSupply : Nat} {batchRoot : Hash} {batchCount : Nat}
    {created : Distributions.Distribution × Distributions.DistributionPlan × Accounts Pubkey}
    (creation : Distributions.createDistribution isAdmin mintInitialized pauseFlags address funder paymentMint escrow accounts source
      totalAmount snapshotSupply batchRoot batchCount = .ok created) :
    created.1 = { address, funder, paymentMint, escrow, totalAmount, distributedAmount := 0, paidCount := 0,
                  status := .distributing, version := Distributions.distributionStateVersion } ∧
      created.2.1 = { batchRoot, batchCount, version := Distributions.stateVersion } ∧
      created.2.2 escrow = some { mint := paymentMint, owner := address, amount := totalAmount, frozen := false } := by
  simp only [Distributions.createDistribution, bind_eq_ok, require_eq_ok, okOr_eq_ok, pure_eq_ok, exists_const] at creation
  obtain ⟨-, -, -, empty, payer, sent, -, -, -, -, funded, moved, rfl⟩ := creation
  have apart : escrow ≠ source := by
    rintro rfl
    rw [empty] at sent
    cases sent
  have held := held_of_holder (Function.update_self _ _ _) (transfer_holder moved escrow)
  have amount := transfer_balance moved escrow
  rw [if_neg apart, if_pos rfl, Nat.add_zero, balance_update_self, Nat.zero_add] at amount
  rw [amount] at held
  exact ⟨rfl, rfl, held⟩

section
variable {kit : Kit} {input : PlanContext} {entries : List PlanEntry}

theorem assembled_entries : (assembled kit input entries).entries = entries := by
  have groups : ((batchGroups entries).zipIdx.map Prod.fst).flatten = entries := by
    rw [List.zipIdx_map_fst, batchGroups_flatten]
  rw [CanonicalPlan.entries, assembled_batches, List.flatMap_map, List.flatMap_def]
  exact groups

theorem amountOf_assembled : amountOf (assembled kit input entries).batches = (entries.map PlanEntry.value).sum := by
  have flat : ∀ batches : List PlanBatch, amountOf batches = ((batches.flatMap PlanBatch.entries).map PlanEntry.value).sum := by
    intro batches
    induction batches with
    | nil => rfl
    | cons batch rest ih => rw [amountOf_cons, ih, List.flatMap_cons, List.map_append, List.sum_append]
  rw [flat]
  exact congrArg (fun entries => (entries.map PlanEntry.value).sum) assembled_entries

theorem assembled_ids : (assembled kit input entries).batches.map PlanBatch.batchId = List.range (assembled kit input entries).batchCount := by
  rw [assembled_batches, List.map_map]
  show (batchGroups entries).zipIdx.map Prod.snd = List.range (batchGroups entries).length
  rw [List.zipIdx_map_snd, List.range_eq_range']

theorem lengths_assembled :
    ((assembled kit input entries).batches.map fun batch => batch.entries.length).sum = entries.length := by
  have flat : ∀ batches : List PlanBatch, (batches.map fun batch => batch.entries.length).sum =
      (batches.flatMap PlanBatch.entries).length := by
    intro batches
    induction batches with
    | nil => rfl
    | cons batch rest ih => rw [List.map_cons, List.sum_cons, ih, List.flatMap_cons, List.length_append]
  rw [flat]
  exact congrArg List.length assembled_entries

/-- A distribution that is funded for a plan awaits its batches, in any order. -/
theorem Accepts.awaits (accepts : Accepts kit input entries) {top : Hash} {order : List PlanBatch}
    (perm : order.Perm (assembled kit input entries).batches) {isAdmin mintInitialized : Bool} {pauseFlags : PauseFlags}
    {funder escrow source : Pubkey} {accounts : Accounts Pubkey} {snapshotSupply : Nat}
    {created : Distributions.Distribution × Distributions.DistributionPlan × Accounts Pubkey}
    (creation : Distributions.createDistribution isAdmin mintInitialized pauseFlags (kit.key input.distributionPda) funder
      (kit.key input.paymentMint) escrow accounts source (decimalValue input.totalAmount) snapshotSupply top
      (assembled kit input entries).batchCount = .ok created)
    (recipients : ∀ entry ∈ entries, escrow ≠ kit.key entry.tokenAccount ∧ ∃ token,
      created.2.2 (kit.key entry.tokenAccount) = some token ∧ token.owner = kit.key entry.tokenOwner ∧
      token.mint = kit.key input.paymentMint ∧ token.frozen = false ∧
      token.amount + decimalValue input.totalAmount < 2 ^ 64) :
    Awaits kit (assembled kit input entries) top (Distributions.opened created) order := by
  obtain ⟨distribution, plan, held⟩ := created_ok creation
  have fits := accepts.context.totalAmount.2.1
  have most := accepts.count.2
  have total : amountOf order = decimalValue input.totalAmount := by
    rw [amountOf, (perm.map _).sum_eq, ← amountOf, amountOf_assembled, accepts.allocated]
  have count : (order.map fun batch => batch.entries.length).sum = entries.length := by
    rw [(perm.map _).sum_eq, lengths_assembled]
  simp only [distributionPlanMaxEntries] at most
  simp only [u64Max] at fits
  refine
    { accounted := Distributions.accounted_opened creation
      distributing := by rw [Distributions.opened, distribution]
      terms := by rw [Distributions.opened, distribution, plan]; exact ⟨rfl, rfl, rfl⟩
      fresh := fun _ _ => rfl
      ids := by
        rw [(perm.map _).nodup_iff, assembled_ids]
        exact List.nodup_range
      within := by
        rw [Distributions.opened, distribution, total]
        exact ⟨by simp, by dsimp only; omega⟩
      counted := by
        rw [Distributions.opened, distribution, count]
        dsimp only
        omega
      escrow := ⟨_, by rw [Distributions.opened, distribution]; exact held, rfl, by rw [total], ?_⟩ }
  intro batch member entry listed
  have stored : entry ∈ entries := by
    rw [← @assembled_entries kit input entries, CanonicalPlan.entries, List.mem_flatMap]
    exact ⟨batch, perm.mem_iff.mp member, listed⟩
  obtain ⟨apart, token, has, owner, mint, thawed, room⟩ := recipients entry stored
  refine ⟨?_, token, has, owner, ?_, thawed, room⟩
  · rw [Distributions.opened, distribution]
    exact apart
  · rw [Distributions.opened, distribution]
    exact mint

end

end Mancipatio.Commitments
