import Mancipatio.Commitments.Trees
import Mancipatio.Distributions.Plan

/-!
# What an accepted proof shows
-/

namespace Mancipatio.Commitments
open Merkle hiding Tree
open Bytes
open Mancipatio.Distributions

inductive CommittedLeaf where
  | snapshot (account : Pubkey) (amount : BitVec 64)
  | batch (distribution : Pubkey) (batchId : BitVec 32) (entries : List BatchEntry)

namespace CommittedLeaf

def digest (hashv : Hashv) : CommittedLeaf → Hash
  | snapshot account amount => snapshotLeaf hashv account amount
  | batch distribution batchId entries => Distributions.distributionBatchLeaf hashv distribution batchId entries

def preimage : CommittedLeaf → List UInt8
  | snapshot account amount => snapshotBytes (account, amount)
  | batch distribution batchId entries => batchBytes distribution (batchId, entries)

theorem digest_eq (hashv : Hashv) (leaf : CommittedLeaf) : leaf.digest hashv = hashv leaf.preimage := by
  cases leaf <;> rfl

theorem preimage_length (leaf : CommittedLeaf) : leaf.preimage.length ≠ 2 * 32 := by
  cases leaf with
  | snapshot account amount =>
      rw [preimage, snapshotBytes_length]
      decide
  | batch distribution batchId entries => exact batchBytes_length distribution (batchId, entries)

theorem kinds_apart (account : Pubkey) (amount : BitVec 64) (distribution : Pubkey) (batchId : BitVec 32) (entries : List BatchEntry) :
    snapshotBytes (account, amount) ≠ batchBytes distribution (batchId, entries) := by
  intro same
  have lengths := congrArg List.length same
  have domain : batchDomain.length = 32 := by decide +kernel
  simp only [snapshotBytes_length, batchBytes, List.length_append, keyBytes_length, littleEndian_length, domain] at lengths
  omega

theorem batchBytes_distribution {distribution distribution' : Pubkey} {batch batch' : BitVec 32 × List BatchEntry}
    (same : batchBytes distribution batch = batchBytes distribution' batch') : distribution = distribution' := by
  obtain ⟨headers, -⟩ := List.append_inj same (by simp [keyBytes_length])
  obtain ⟨prefixes, -⟩ := List.append_inj headers (by simp [keyBytes_length])
  obtain ⟨keys, -⟩ := List.append_inj prefixes (by simp [keyBytes_length])
  exact keyBytes_injective (List.append_cancel_left keys)

theorem preimage_injective : Function.Injective preimage := by
  intro a b same
  cases a with
  | snapshot account amount =>
      cases b with
      | snapshot account' amount' =>
          obtain ⟨rfl, rfl⟩ := Prod.mk.inj (snapshotBytes_injective same)
          rfl
      | batch distribution batchId entries => exact absurd same (kinds_apart _ _ _ _ _)
  | batch distribution batchId entries =>
      cases b with
      | snapshot account amount => exact absurd same.symm (kinds_apart _ _ _ _ _)
      | batch distribution' batchId' entries' =>
          obtain rfl := batchBytes_distribution same
          obtain ⟨rfl, rfl⟩ := Prod.mk.inj (batchBytes_injective distribution same)
          rfl

end CommittedLeaf

section soundness
variable {hashv : Hashv} {committed : List CommittedLeaf} {root : Hash}

theorem committed_tree (reached : apex (merkleParent hashv) (committed.map (CommittedLeaf.digest hashv)) = some root) :
    ∃ tree : Merkle.Tree CommittedLeaf, apex Merkle.Tree.node (committed.map Merkle.Tree.leaf) = some tree ∧
      tree.digest hashv keyBytes CommittedLeaf.preimage = root ∧ tree.leaves = committed := by
  have respects : ∀ a b : Merkle.Tree CommittedLeaf,
      merkleParent hashv (a.digest hashv keyBytes CommittedLeaf.preimage) (b.digest hashv keyBytes CommittedLeaf.preimage) =
        (Merkle.Tree.node a b).digest hashv keyBytes CommittedLeaf.preimage := by
    intro a b
    rw [merkleParent_eq]
    rfl
  have digests : committed.map (CommittedLeaf.digest hashv) =
      (committed.map Merkle.Tree.leaf).map (Merkle.Tree.digest hashv keyBytes CommittedLeaf.preimage) := by
    rw [List.map_map]
    exact List.map_congr_left fun leaf _ => leaf.digest_eq hashv
  rw [digests, apex_map respects] at reached
  obtain ⟨tree, top, same⟩ := Option.map_eq_some_iff.mp reached
  refine ⟨tree, top, same, ?_⟩
  rw [apex_leaves top, List.flatMap_map]
  show committed.flatMap (fun leaf => [leaf]) = committed
  rw [List.flatMap_singleton']

def hashedStrings (hashv : Hashv) (tree : Merkle.Tree CommittedLeaf) (leaf : CommittedLeaf) (proof : List Hash) : List (List UInt8) :=
  tree.preimages hashv keyBytes CommittedLeaf.preimage ++
    leaf.preimage :: Merkle.path hashv keyBytes (leaf.digest hashv) proof

/-- A leaf with an accepted proof is a committed one, or the strings that were hashed contain a collision. Nor does
the string of an inner node spell a leaf of any kind. -/
theorem merkle_soundness (reached : apex (merkleParent hashv) (committed.map (CommittedLeaf.digest hashv)) = some root)
    (leaf : CommittedLeaf) (proof : List Hash)
    (accepted : verifyMerkleProof hashv root (leaf.digest hashv) proof = true) :
    (∀ a b : Hash, pair keyBytes a b ≠ leaf.preimage) ∧
      ∃ tree : Merkle.Tree CommittedLeaf, apex Merkle.Tree.node (committed.map Merkle.Tree.leaf) = some tree ∧
        (leaf ∈ committed ∨
          ∃ x ∈ hashedStrings hashv tree leaf proof, ∃ y ∈ hashedStrings hashv tree leaf proof, x ≠ y ∧ hashv x = hashv y) := by
  constructor
  · intro a b same
    apply leaf.preimage_length
    rw [← same, pair_length keyBytes_length]
  · obtain ⟨tree, top, digest, leaves⟩ := committed_tree reached
    refine ⟨tree, top, ?_⟩
    by_cases collisionFree : Set.InjOn hashv {x | x ∈ hashedStrings hashv tree leaf proof}
    · rw [verifyMerkleProof_iff, ← digest, leaf.digest_eq] at accepted
      have checked : ∀ x ∈ Merkle.path hashv keyBytes (hashv leaf.preimage) proof, x ∈ hashedStrings hashv tree leaf proof := by
        intro x member
        rw [← leaf.digest_eq hashv] at member
        exact List.mem_append_right _ (List.mem_cons_of_mem _ member)
      obtain ⟨other, member, same⟩ := verify_sound keyBytes_length keyBytes_injective collisionFree
        CommittedLeaf.preimage_length (List.mem_append_right _ List.mem_cons_self) proof tree
        (fun x member => List.mem_append_left _ member) checked accepted
      rw [leaves, CommittedLeaf.preimage_injective same] at member
      exact .inl member
    · right
      simp only [Set.InjOn, not_forall] at collisionFree
      obtain ⟨x, hashed, y, hashed', same, differ⟩ := collisionFree
      exact ⟨x, hashed, y, hashed', differ, same⟩

end soundness

/-! ## A holder and a batch under one root -/

def exampleHashes : Hashv := fun bytes =>
  if bytes.length = 40 then 0x443d65ee11afe66668770e411cf144222da0313a97bc3bb6e22695d2c2fed630
  else if bytes.length = 144 then 0x2a4cb0632e73bbd24955c6efb48b34f1df0f6b22f5177c55d37c39786e548f00
  else 0x90ccde8aca46d5243c013be3489256c865abe10748543fbc944868e6f6dd6762

def exampleCommitted : List CommittedLeaf :=
  [.snapshot 1 5, .batch 7 0 [(11, 1, 40)]]

theorem merkle_soundness_example :
    pair keyBytes 3 4 ≠ (CommittedLeaf.snapshot 1 5).preimage := by
  have reached : apex (merkleParent exampleHashes) (exampleCommitted.map (CommittedLeaf.digest exampleHashes)) =
      some 0x90ccde8aca46d5243c013be3489256c865abe10748543fbc944868e6f6dd6762 := by
    rw [exampleCommitted, List.map_cons, List.map_cons, List.map_nil, apex_pair]
    decide +kernel
  exact (merkle_soundness reached (.snapshot 1 5) [(CommittedLeaf.batch 7 0 [(11, 1, 40)]).digest exampleHashes]
    (by decide +kernel)).1 3 4

end Mancipatio.Commitments
