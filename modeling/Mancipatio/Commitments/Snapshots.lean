import Mancipatio.Commitments.Stored

/-!
# Payout snapshots

The investors of a raise with their weights, as the server commits to them for a vault vote or for a round of yield.
-/

namespace Mancipatio.Commitments
open Bytes Checked JsonText Merkle Numerals

def maxSnapshotEntries : Nat := 5000
def maxProofLength : Nat := 13

structure SnapshotWeight where
  wallet : String
  weight : String
  deriving DecidableEq, Repr

structure SnapshotEntry extends SnapshotWeight where
  proof : List String
  deriving DecidableEq, Repr

structure CanonicalPayoutSnapshot where
  rootHex : String
  rowsHash : String
  totalWeight : String
  count : Nat
  rows : List SnapshotWeight
  entries : List SnapshotEntry
  deriving DecidableEq, Repr

def SnapshotWeight.value (row : SnapshotWeight) : Nat :=
  decimalValue row.weight

def SnapshotWeight.toJson (row : SnapshotWeight) : Value :=
  .object [("wallet", .string row.wallet), ("weight", .string row.weight)]

def SnapshotWeight.before (a b : SnapshotWeight) : Prop :=
  a.wallet ≤ b.wallet

instance : DecidableRel SnapshotWeight.before :=
  fun a b => inferInstanceAs (Decidable (a.wallet ≤ b.wallet))

-- `^[1-9]\d{0,19}$`
def isWeight (text : String) : Bool :=
  match text.toList with
  | [] => false
  | first :: rest => first.isDigit && decide (first ≠ '0') && rest.all Char.isDigit && decide (rest.length ≤ 19)

def stringField (fields : List (String × Value)) (name : String) : Option String :=
  match fields.lookup name with
  | some (.string text) => some text
  | _ => none

def snapshotItem : Value → Except String SnapshotWeight
  | .object fields =>
      match stringField fields "wallet", stringField fields "weight" with
      | some wallet, some weight => do
          require (isWeight weight = true) "Invalid wallet or positive integer weight"
          return { wallet, weight }
      | _, _ => .error "Invalid wallet or positive integer weight"
  | _ => .error "Invalid snapshot entry"

section
variable (kit : Kit)

def readRows (seen : List String) (total : Nat) : List Value → Except String (List SnapshotWeight × Nat)
  | [] => return ([], total)
  | item :: rest => do
      let row ← snapshotItem item
      let wallet ← kit.addressText row.wallet
      require (wallet ∉ seen) "Duplicate investor wallet in canonical snapshot"
      require (row.value ≤ u64Max) "Investor weight exceeds u64"
      require (total + row.value ≤ u64Max) "Snapshot total exceeds u64"
      let (rows, total) ← readRows (wallet :: seen) (total + row.value) rest
      return ({ wallet, weight := Nat.repr row.value } :: rows, total)

def snapshotEntries (tree : List (List (List UInt8))) (rows : List SnapshotWeight) : List SnapshotEntry :=
  rows.zipIdx.map fun row => { row.1 with proof := (proofAt tree row.2).map hashHex }

def canonicalPayoutSnapshot : Value → Except String CanonicalPayoutSnapshot
  | .array items => do
      require (1 ≤ items.length ∧ items.length ≤ maxSnapshotEntries) "Provide 1–5000 original investor entries"
      let (read, total) ← readRows kit [] 0 items
      let rows := read.insertionSort SnapshotWeight.before
      let leaves ← rows.mapM fun row => snapshotLeafBytes kit row.wallet row.value
      let tree := treeLevels kit leaves
      return {
        rootHex := hashHex ((tree.getLast?.bind List.head?).getD [])
        rowsHash := hashHex (kit.sha256 (stringify (.array (rows.map SnapshotWeight.toJson))).toUTF8.toList)
        totalWeight := Nat.repr total
        count := rows.length
        rows
        entries := snapshotEntries tree rows }
  | _ => .error "Provide 1–5000 original investor entries"

def climb (node : List UInt8) : List String → Except String (List UInt8)
  | [] => return node
  | sibling :: rest => do
      climb (merkleRoot kit [node, ← hashBytes sibling "Invalid snapshot hash"]) rest

def provenRoot (wallet weight : String) (proof : List String) : Except String String := do
  let leaf ← snapshotLeafBytes kit wallet (decimalValue weight)
  return hashHex (← climb kit leaf proof)

def verifyOriginalSnapshotProof (wallet weight : String) (proof : List String) (root : String) : Bool :=
  if isWeight weight = false ∨ u64Max < decimalValue weight ∨ maxProofLength < proof.length then false
  else
    match provenRoot kit wallet weight proof with
    | .ok reached => reached = root
    | .error _ => false

/-! ## What a snapshot accepts -/

structure ValidRow (row : SnapshotWeight) : Prop where
  wallet : Spells kit row.wallet
  weight : isWeight row.weight = true
  fits : row.value ≤ u64Max

structure AcceptsRows (items : List Value) (rows : List SnapshotWeight) : Prop where
  read : items.mapM snapshotItem = .ok rows
  count : 1 ≤ items.length ∧ items.length ≤ maxSnapshotEntries
  valid : ∀ row ∈ rows, ValidRow kit row
  distinct : (rows.map SnapshotWeight.wallet).Nodup
  total : (rows.map SnapshotWeight.value).sum ≤ u64Max

def rowLeaf (row : SnapshotWeight) : Hash :=
  snapshotLeaf kit.hashv (kit.key row.wallet) (BitVec.ofNat 64 row.value)

def rowsLeaves (rows : List SnapshotWeight) : List (List UInt8) :=
  (rows.map (rowLeaf kit)).map keyBytes

def assembledSnapshot (rows : List SnapshotWeight) : CanonicalPayoutSnapshot where
  rootHex := hashHex (((treeLevels kit (rowsLeaves kit rows)).getLast?.bind List.head?).getD [])
  rowsHash := hashHex (kit.sha256 (stringify (.array (rows.map SnapshotWeight.toJson))).toUTF8.toList)
  totalWeight := Nat.repr (rows.map SnapshotWeight.value).sum
  count := rows.length
  rows
  entries := snapshotEntries (treeLevels kit (rowsLeaves kit rows)) rows

end

theorem isWeight_canonical {text : String} (weight : isWeight text = true) : Canonical text ∧ 0 < decimalValue text := by
  unfold isWeight at weight
  cases letters : text.toList with
  | nil => simp [letters] at weight
  | cons first rest =>
      simp only [letters, Bool.and_eq_true, decide_eq_true_eq] at weight
      obtain ⟨⟨⟨digit, leading⟩, digits⟩, -⟩ := weight
      have all : ∀ c ∈ first :: rest, c.isDigit = true := List.forall_mem_cons.mpr ⟨digit, List.all_eq_true.mp digits⟩
      have positive := (@toDigits_ofDigitChars (first :: rest) (by simp) all (by simpa using leading)).1
      constructor
      · refine .inr ⟨by simp [letters], ?_, ?_⟩
        · rw [letters]
          exact List.all_eq_true.mpr all
        · rw [letters]
          simpa using leading
      · rwa [decimalValue, letters]

theorem snapshotItem_weight {item : Value} {row : SnapshotWeight} (read : snapshotItem item = .ok row) :
    isWeight row.weight = true := by
  unfold snapshotItem at read
  split at read
  · split at read
    · simp only [bind_eq_ok, pure_eq_ok, require_eq_ok] at read
      obtain ⟨_, weight, rfl⟩ := read
      exact weight
    · cases read
  · cases read

section
variable {kit : Kit}

theorem readRows_ok {items : List Value} {seen : List String} {total total' : Nat} {rows : List SnapshotWeight}
    (small : total ≤ u64Max) :
    readRows kit seen total items = .ok (rows, total') ↔
      items.mapM snapshotItem = .ok rows ∧ (∀ row ∈ rows, ValidRow kit row) ∧ (rows.map SnapshotWeight.wallet).Nodup ∧
        (∀ row ∈ rows, row.wallet ∉ seen) ∧ total' = total + (rows.map SnapshotWeight.value).sum ∧ total' ≤ u64Max := by
  induction items generalizing seen total rows with
  | nil =>
      simp only [readRows, pure_eq_ok, Prod.mk.injEq, List.mapM_nil]
      constructor
      · rintro ⟨rfl, rfl⟩
        simpa using small
      · rintro ⟨rfl, -, -, -, rfl, -⟩
        exact ⟨rfl, by simp⟩
  | cons item items ih =>
      simp only [readRows, bind_eq_ok, pure_eq_ok, require_eq_ok, addressText_ok, Prod.exists, Prod.mk.injEq, List.mapM_cons]
      constructor
      · rintro ⟨row, read, _, ⟨spells, rfl⟩, _, new, _, fits, _, room, rows', _, rest, rfl, rfl⟩
        obtain ⟨others, valid, distinct, apart, rfl, within⟩ := (ih room).mp rest
        have weight := snapshotItem_weight read
        have same : { wallet := row.wallet, weight := Nat.repr row.value : SnapshotWeight } = row := by
          rw [SnapshotWeight.value, repr_decimalValue (isWeight_canonical weight).1]
        rw [same]
        refine ⟨⟨row, read, rows', others, rfl⟩, List.forall_mem_cons.mpr ⟨⟨spells, weight, fits⟩, valid⟩, ?_, ?_, ?_, within⟩
        · rw [List.map_cons, List.nodup_cons]
          refine ⟨fun listed => ?_, distinct⟩
          obtain ⟨other, member, wallet⟩ := List.mem_map.mp listed
          exact apart other member (List.mem_cons.mpr (.inl wallet))
        · exact List.forall_mem_cons.mpr ⟨new, fun other member seen => apart other member (List.mem_cons_of_mem _ seen)⟩
        · rw [List.map_cons, List.sum_cons, Nat.add_assoc]
      · rintro ⟨⟨row, read, rows', others, rfl⟩, valid, distinct, apart, rfl, within⟩
        obtain ⟨⟨spells, weight, fits⟩, valid⟩ := List.forall_mem_cons.mp valid
        rw [List.map_cons, List.nodup_cons] at distinct
        rw [List.map_cons, List.sum_cons] at within
        obtain ⟨new, apart⟩ := List.forall_mem_cons.mp apart
        have room : total + row.value ≤ u64Max := by omega
        refine ⟨row, read, _, ⟨spells, rfl⟩, (), new, (), fits, (), room, rows', _, (ih room).mpr ⟨others, valid, distinct.2, ?_, ?_, ?_⟩,
          ?_, rfl⟩
        · intro other member listed
          rcases List.mem_cons.mp listed with same | seen
          · exact distinct.1 (List.mem_map.mpr ⟨other, member, same⟩)
          · exact apart other member seen
        · rw [List.map_cons, List.sum_cons, Nat.add_assoc]
        · rwa [List.map_cons, List.sum_cons]
        · rw [SnapshotWeight.value, repr_decimalValue (isWeight_canonical weight).1]

/-! ## The rows -/

theorem value_toNat {row : SnapshotWeight} (valid : ValidRow kit row) : (BitVec.ofNat 64 row.value).toNat = row.value := by
  rw [BitVec.toNat_ofNat, Nat.mod_eq_of_lt (Nat.lt_of_le_of_lt valid.fits (by decide))]

theorem snapshotLeafBytes_ok {row : SnapshotWeight} (valid : ValidRow kit row) :
    snapshotLeafBytes kit row.wallet row.value = .ok (keyBytes (rowLeaf kit row)) := by
  simp only [snapshotLeafBytes, bind_eq_ok, pure_eq_ok]
  refine ⟨_, encodeAddress_spelled valid.wallet, ?_⟩
  rw [rowLeaf, snapshotLeaf, snapshotBytes, value_toNat valid]
  rfl

theorem rowsLeaves_ok {rows : List SnapshotWeight} (valid : ∀ row ∈ rows, ValidRow kit row) {leaves : List (List UInt8)} :
    (rows.mapM fun row => snapshotLeafBytes kit row.wallet row.value) = .ok leaves ↔ leaves = rowsLeaves kit rows := by
  rw [rowsLeaves, List.map_map]
  apply mapM_eq_map
  intro row member leaf
  rw [snapshotLeafBytes_ok (valid row member), Except.ok.injEq]
  exact eq_comm

instance : Std.Total SnapshotWeight.before where
  total a b := le_total a.wallet b.wallet

instance : IsTrans SnapshotWeight SnapshotWeight.before where
  trans _ _ _ := le_trans

theorem sortedRows_of_perm {rows others : List SnapshotWeight} (perm : rows.Perm others)
    (distinct : (rows.map SnapshotWeight.wallet).Nodup) :
    others.insertionSort SnapshotWeight.before = rows.insertionSort SnapshotWeight.before := by
  apply List.Perm.eq_of_pairwise _ (List.pairwise_insertionSort _ _) (List.pairwise_insertionSort _ _)
  · exact ((List.perm_insertionSort _ _).trans perm.symm).trans (List.perm_insertionSort _ _).symm
  · intro a b first second ab ba
    have stored := perm.mem_iff.mpr (List.mem_insertionSort _ |>.mp first)
    have stored' := List.mem_insertionSort _ |>.mp second
    exact List.inj_on_of_nodup_map distinct stored stored' (le_antisymm ab ba)

variable {items : List Value} {rows : List SnapshotWeight} {snapshot : CanonicalPayoutSnapshot}

theorem AcceptsRows.perm (accepts : AcceptsRows kit items rows) {others : List Value} (perm : items.Perm others) :
    ∃ rows', rows.Perm rows' ∧ AcceptsRows kit others rows' := by
  obtain ⟨rows', each, same⟩ := List.perm_comp_forall₂ perm.symm (mapM_eq_ok.mp accepts.read)
  refine ⟨rows', same.symm, ?_⟩
  exact
    { read := mapM_eq_ok.mpr each
      count := by
        rw [← perm.length_eq]
        exact accepts.count
      valid := fun row member => accepts.valid row (same.mem_iff.mp member)
      distinct := (same.map _).nodup_iff.mpr accepts.distinct
      total := by
        rw [(same.map _).sum_eq]
        exact accepts.total }

theorem canonicalPayoutSnapshot_ok :
    canonicalPayoutSnapshot kit (.array items) = .ok snapshot ↔
      ∃ rows, AcceptsRows kit items rows ∧ snapshot = assembledSnapshot kit (rows.insertionSort SnapshotWeight.before) := by
  have sums : ∀ rows : List SnapshotWeight, ((rows.insertionSort SnapshotWeight.before).map SnapshotWeight.value).sum =
      (rows.map SnapshotWeight.value).sum := fun rows => ((List.perm_insertionSort _ rows).map _).sum_eq
  have sorted : ∀ rows : List SnapshotWeight, (∀ row ∈ rows, ValidRow kit row) →
      ∀ row ∈ rows.insertionSort SnapshotWeight.before, ValidRow kit row :=
    fun rows valid row member => valid row (List.mem_insertionSort _ |>.mp member)
  simp only [canonicalPayoutSnapshot, bind_eq_ok, require_eq_ok, pure_eq_ok, Prod.exists]
  constructor
  · rintro ⟨_, count, rows, total, read, leaves, made, rfl⟩
    obtain ⟨listed, valid, distinct, -, rfl, within⟩ := (readRows_ok (Nat.zero_le _)).mp read
    obtain rfl := (rowsLeaves_ok (sorted rows valid)).mp made
    rw [Nat.zero_add] at within
    refine ⟨rows, ⟨listed, count, valid, distinct, within⟩, ?_⟩
    rw [assembledSnapshot, sums, Nat.zero_add]
  · rintro ⟨rows, accepts, rfl⟩
    refine ⟨(), accepts.count, rows, (rows.map SnapshotWeight.value).sum, ?_, _,
      (rowsLeaves_ok (sorted rows accepts.valid)).mpr rfl, ?_⟩
    · apply (readRows_ok (Nat.zero_le _)).mpr
      exact ⟨accepts.read, accepts.valid, accepts.distinct, by simp, (Nat.zero_add _).symm, accepts.total⟩
    · rw [assembledSnapshot, sums]

/-! ## The proofs -/

def programHash (text : String) : Hash :=
  hashOfBytes (hexPairs text.toList)

theorem programHash_hashHex (h : Hash) : programHash (hashHex (keyBytes h)) = h := by
  rw [programHash, hashHex, hexPairs_hexText, hashOfBytes_keyBytes]

theorem climb_ok (node : Hash) (siblings : List Hash) :
    climb kit (keyBytes node) (siblings.map fun sibling => hashHex (keyBytes sibling)) =
      .ok (keyBytes (siblings.foldl (merkleParent kit.hashv) node)) := by
  induction siblings generalizing node with
  | nil => rfl
  | cons sibling rest ih =>
      simp only [List.map_cons, climb, bind_eq_ok, hashBytes_hashHex, Except.ok.injEq, exists_eq_left']
      rw [merkleRoot_pair, parent_keyBytes]
      exact ih _

theorem verifyOriginalSnapshotProof_of_leads {row : SnapshotWeight} {siblings : List Hash} {top : Hash} (valid : ValidRow kit row)
    (short : siblings.length ≤ maxProofLength) (leads : siblings.foldl (merkleParent kit.hashv) (rowLeaf kit row) = top) :
    verifyOriginalSnapshotProof kit row.wallet row.weight (siblings.map fun sibling => hashHex (keyBytes sibling))
      (hashHex (keyBytes top)) = true := by
  have proven : provenRoot kit row.wallet row.weight (siblings.map fun sibling => hashHex (keyBytes sibling)) =
      .ok (hashHex (keyBytes top)) := by
    simp only [provenRoot, bind_eq_ok, pure_eq_ok]
    refine ⟨_, snapshotLeafBytes_ok valid, _, climb_ok _ _, ?_⟩
    rw [leads]
  have fits := valid.fits
  rw [SnapshotWeight.value] at fits
  have checked : ¬ (isWeight row.weight = false ∨ u64Max < decimalValue row.weight ∨
      maxProofLength < (siblings.map fun sibling => hashHex (keyBytes sibling)).length) := by
    rw [valid.weight, List.length_map]
    simp only [Bool.true_eq_false, false_or]
    omega
  rw [verifyOriginalSnapshotProof, if_neg checked, proven]
  simp

structure ProvableSnapshot (kit : Kit) (items : List Value) (snapshot : CanonicalPayoutSnapshot) : Prop where
  listed : ∃ rows, items.mapM snapshotItem = .ok rows ∧ snapshot.rows.Perm rows
  count : snapshot.count = snapshot.rows.length
  distinct : (snapshot.rows.map SnapshotWeight.wallet).Nodup ∧ ∀ row ∈ snapshot.rows, Spells kit row.wallet ∧ 0 < row.value
  total : (snapshot.rows.map SnapshotWeight.value).sum = decimalValue snapshot.totalWeight ∧
    decimalValue snapshot.totalWeight < 2 ^ 64
  permuted : ∀ others, items.Perm others → canonicalPayoutSnapshot kit (.array others) = .ok snapshot
  entries : snapshot.entries.map SnapshotEntry.toSnapshotWeight = snapshot.rows
  proven : ∀ entry ∈ snapshot.entries, entry.proof.length ≤ Nat.clog 2 snapshot.count ∧
    verifyOriginalSnapshotProof kit entry.wallet entry.weight entry.proof snapshot.rootHex = true ∧
    verifyMerkleProof kit.hashv (programHash snapshot.rootHex)
      (snapshotLeaf kit.hashv (kit.key entry.wallet) (BitVec.ofNat 64 entry.value)) (entry.proof.map programHash) = true
  tree : ∃ leaves, (snapshot.rows.mapM fun row => snapshotLeafBytes kit row.wallet row.value) = .ok leaves ∧
    snapshot.rootHex = hashHex (merkleRoot kit leaves) ∧
    ∀ index entry, snapshot.entries[index]? = some entry → entry.proof = (merkleProof kit leaves index).map hashHex
  committed : ∃ tree : Merkle.Tree (Pubkey × BitVec 64),
    tree.leaves = snapshot.rows.map (fun row => (kit.key row.wallet, BitVec.ofNat 64 row.value)) ∧
    ∀ S : Set (List UInt8), (∀ x ∈ tree.preimages kit.hashv keyBytes snapshotBytes, x ∈ S) →
      Nonempty (Snapshot kit.hashv S (programHash snapshot.rootHex) (decimalValue snapshot.totalWeight))

section assembled
variable {top : Hash}

theorem assembled_rootHex (reached : apex (merkleParent kit.hashv) (rows.map (rowLeaf kit)) = some top) :
    (assembledSnapshot kit rows).rootHex = hashHex (keyBytes top) := by
  rw [assembledSnapshot, rowsLeaves, treeLevels_top reached, Option.getD_some]

def siblingsAt (kit : Kit) (rows : List SnapshotWeight) (index : Nat) : List Hash :=
  proofAt (levels (merkleParent kit.hashv) (rows.map (rowLeaf kit))) index

theorem entry_ok {index : Nat} {entry : SnapshotEntry} :
    (assembledSnapshot kit rows).entries[index]? = some entry ↔ ∃ row, rows[index]? = some row ∧
      entry = { row with proof := (siblingsAt kit rows index).map fun sibling => hashHex (keyBytes sibling) } := by
  have proof : (proofAt (treeLevels kit (rowsLeaves kit rows)) index).map hashHex =
      (siblingsAt kit rows index).map fun sibling => hashHex (keyBytes sibling) := by
    rw [rowsLeaves, treeLevels_proof, List.map_map]
    rfl
  simp only [assembledSnapshot, snapshotEntries, List.getElem?_map, List.getElem?_zipIdx, Nat.zero_add, Option.map_map,
    Option.map_eq_some_iff, Function.comp_apply, proof]
  constructor
  · rintro ⟨row, stored, rfl⟩
    exact ⟨row, stored, rfl⟩
  · rintro ⟨row, stored, rfl⟩
    exact ⟨row, stored, rfl⟩

theorem assembled_rows : (assembledSnapshot kit rows).entries.map SnapshotEntry.toSnapshotWeight = rows := by
  have rest : (fun row : SnapshotWeight × Nat => row.1) = Prod.fst := rfl
  simp only [assembledSnapshot, snapshotEntries, List.map_map, Function.comp_def]
  rw [rest, List.zipIdx_map_fst]

theorem assembled_tree (reached : apex (merkleParent kit.hashv) (rows.map (rowLeaf kit)) = some top) :
    ∃ tree : Merkle.Tree (Pubkey × BitVec 64), tree.digest kit.hashv keyBytes snapshotBytes = top ∧
      tree.leaves = rows.map fun row => (kit.key row.wallet, BitVec.ofNat 64 row.value) := by
  have respects : ∀ a b : Merkle.Tree (Pubkey × BitVec 64),
      merkleParent kit.hashv (a.digest kit.hashv keyBytes snapshotBytes) (b.digest kit.hashv keyBytes snapshotBytes) =
        (Merkle.Tree.node a b).digest kit.hashv keyBytes snapshotBytes := by
    intro a b
    rw [merkleParent_eq]
    rfl
  have digests : rows.map (rowLeaf kit) =
      (rows.map fun row => Merkle.Tree.leaf (kit.key row.wallet, BitVec.ofNat 64 row.value)).map
        (Merkle.Tree.digest kit.hashv keyBytes snapshotBytes) := by
    rw [List.map_map]
    rfl
  rw [digests, apex_map respects] at reached
  obtain ⟨tree, apex, same⟩ := Option.map_eq_some_iff.mp reached
  refine ⟨tree, same, ?_⟩
  rw [apex_leaves apex, List.flatMap_map]
  show (rows.flatMap fun row => [(kit.key row.wallet, BitVec.ofNat 64 row.value)]) = _
  exact List.flatMap_pure_eq_map _ _

theorem assembled_proven (valid : ∀ row ∈ rows, ValidRow kit row) (few : rows.length ≤ maxSnapshotEntries)
    (reached : apex (merkleParent kit.hashv) (rows.map (rowLeaf kit)) = some top) {index : Nat} {row : SnapshotWeight}
    (stored : rows[index]? = some row) :
    (siblingsAt kit rows index).length ≤ Nat.clog 2 rows.length ∧
      (siblingsAt kit rows index).foldl (merkleParent kit.hashv) (rowLeaf kit row) = top ∧
      verifyOriginalSnapshotProof kit row.wallet row.weight
        ((siblingsAt kit rows index).map fun sibling => hashHex (keyBytes sibling)) (hashHex (keyBytes top)) = true := by
  have leaf : (rows.map (rowLeaf kit))[index]? = some (rowLeaf kit row) := by
    rw [List.getElem?_map, stored, Option.map_some]
  have leads := proofAt_leads merkleParent_comm leaf reached
  have within : (rows.map (rowLeaf kit)).length ≤ 2 ^ Nat.clog 2 rows.length := by
    rw [List.length_map]
    exact Nat.le_pow_clog (by decide) _
  have bound : (siblingsAt kit rows index).length ≤ Nat.clog 2 rows.length := proofAt_length within index
  have short : Nat.clog 2 rows.length ≤ maxProofLength := by
    apply Nat.clog_le_of_le_pow
    exact few.trans (by decide)
  exact ⟨bound, leads, verifyOriginalSnapshotProof_of_leads (valid row (List.mem_of_getElem? stored)) (bound.trans short) leads⟩

end assembled

theorem snapshot_provable (accepted : canonicalPayoutSnapshot kit (.array items) = .ok snapshot) :
    ProvableSnapshot kit items snapshot := by
  obtain ⟨rows, accepts, written⟩ := canonicalPayoutSnapshot_ok.mp accepted
  have permuted : ∀ others, items.Perm others → canonicalPayoutSnapshot kit (.array others) = .ok snapshot := by
    intro others perm
    obtain ⟨rows', same, accepts'⟩ := accepts.perm perm
    refine canonicalPayoutSnapshot_ok.mpr ⟨rows', accepts', ?_⟩
    rw [written, sortedRows_of_perm same accepts.distinct]
  have sorted := List.perm_insertionSort SnapshotWeight.before rows
  generalize rows.insertionSort SnapshotWeight.before = listed at written sorted
  subst written
  have valid : ∀ row ∈ listed, ValidRow kit row := fun row member => accepts.valid row (sorted.mem_iff.mp member)
  have length : listed.length = items.length := by
    rw [sorted.length_eq]
    exact (mapM_eq_ok.mp accepts.read).length_eq.symm
  have sum : (listed.map SnapshotWeight.value).sum ≤ u64Max := by
    rw [(sorted.map _).sum_eq]
    exact accepts.total
  have total : decimalValue (assembledSnapshot kit listed).totalWeight = (listed.map SnapshotWeight.value).sum :=
    decimalValue_repr _
  have nonempty : listed.map (rowLeaf kit) ≠ [] := by
    apply List.ne_nil_of_length_pos
    rw [List.length_map, length]
    exact accepts.count.1
  obtain ⟨top, reached⟩ := apex_exists nonempty
  have root : (assembledSnapshot kit listed).rootHex = hashHex (keyBytes top) := assembled_rootHex reached
  refine
    { listed := ⟨rows, accepts.read, sorted⟩, count := rfl, distinct := ?distinct, total := ⟨total.symm, ?total⟩, permuted
      entries := assembled_rows, proven := ?proven, tree := ?tree, committed := ?committed }
  case distinct =>
    refine ⟨(sorted.map _).nodup_iff.mpr accepts.distinct, fun row member => ⟨(valid row member).wallet, ?_⟩⟩
    exact (isWeight_canonical (valid row member).weight).2
  case total =>
    rw [total]
    exact Nat.lt_of_le_of_lt sum (by decide)
  case proven =>
    intro entry member
    obtain ⟨index, found⟩ := List.mem_iff_getElem?.mp member
    obtain ⟨row, stored, rfl⟩ := entry_ok.mp found
    have few : listed.length ≤ maxSnapshotEntries := by
      rw [length]
      exact accepts.count.2
    obtain ⟨bound, leads, proven⟩ := assembled_proven valid few reached stored
    rw [root, programHash_hashHex]
    refine ⟨?_, proven, ?_⟩
    · rw [List.length_map]
      exact bound
    · rw [verifyMerkleProof, decide_eq_true_eq, List.map_map]
      have hashes : (siblingsAt kit listed index).map (programHash ∘ fun sibling => hashHex (keyBytes sibling)) =
          siblingsAt kit listed index := by
        simp only [Function.comp_def, programHash_hashHex, List.map_id']
      rw [hashes]
      exact leads
  case tree =>
    refine ⟨rowsLeaves kit listed, (rowsLeaves_ok valid).mpr rfl, ?_, ?_⟩
    · rw [root, rowsLeaves, merkleRoot_keyBytes reached]
    · intro index entry found
      obtain ⟨row, -, rfl⟩ := entry_ok.mp found
      rw [merkleProof_eq, rowsLeaves, treeLevels_proof, List.map_map]
      rfl
  case committed =>
    obtain ⟨tree, digest, leaves⟩ := assembled_tree reached
    refine ⟨tree, leaves, fun S hashed => ⟨{ tree, committed := ?_, weights := ?_, hashed }⟩⟩
    · rw [digest, root, programHash_hashHex]
    · rw [leaves, List.map_map, total]
      apply le_of_eq
      congr 1
      exact List.map_congr_left fun row member => value_toNat (valid row member)

end

/-! ## A snapshot of two investors -/

def investorKit : Kit where
  hashv := fun bytes =>
    if bytes.length = 40 then
      if bytes.getD 0 0 = 0 then 0x10e4e4e8b82cc8366b15bcdca094e2f874acda862564743ec6f92dbb97045e46
      else 0x3435a1f263b39606adf953e51282846d49d2118c713811388e5b89c9803fd3b7
    else if bytes.length = 64 then 0x469393adab31a94ebbaba8689de47fb24b556dc5d2ab42cc0ccf796ed1a414f0
    else 0x584dbbaec277190170e6c11ac52cc5f25e2f9f0f95b352f97dc4823a9dcaed40
  address := exampleKit.address
  programDerivedAddress := exampleKit.programDerivedAddress
  associatedTokenAddress := exampleKit.associatedTokenAddress

def exampleInvestors : List SnapshotWeight :=
  [{ wallet := exampleRecipient, weight := "5" }, { wallet := systemAddress, weight := "3" }]

theorem investors_accepted : AcceptsRows investorKit (exampleInvestors.map SnapshotWeight.toJson) exampleInvestors where
  read := by decide +kernel
  count := by decide
  valid := by
    intro row member
    simp only [exampleInvestors, List.mem_cons, List.not_mem_nil, or_false] at member
    rcases member with rfl | rfl
    · exact ⟨⟨_, rfl⟩, by decide +kernel, by decide +kernel⟩
    · exact ⟨⟨_, rfl⟩, by decide +kernel, by decide +kernel⟩
  distinct := by decide
  total := by decide +kernel

theorem snapshot_provable_example :
    (assembledSnapshot investorKit (exampleInvestors.insertionSort SnapshotWeight.before)).count = 2 :=
  (snapshot_provable (canonicalPayoutSnapshot_ok.mpr ⟨_, investors_accepted, rfl⟩)).count

end Mancipatio.Commitments
