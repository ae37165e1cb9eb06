import Mancipatio.Basic
import Mancipatio.Library.Bytes
import Mancipatio.Library.Merkle

/-!
# Holder snapshots

A snapshot commits to pairs of a wallet and a weight by a sorted-pair Merkle root. The hash function is
a parameter: the program calls SHA-256 through the runtime.
-/

namespace Mancipatio
open Bytes

/-- 32 bytes, compared as the big-endian number they spell. -/
abbrev Hash := BitVec 256

abbrev Hashv := List UInt8 → Hash

def keyBytes (key : BitVec 256) : List UInt8 :=
  bigEndian 32 key.toNat

def snapshotBytes (entry : Pubkey × BitVec 64) : List UInt8 :=
  keyBytes entry.1 ++ littleEndian 8 entry.2.toNat

section
variable (hashv : Hashv)

def snapshotLeaf (account : Pubkey) (amount : BitVec 64) : Hash :=
  hashv (snapshotBytes (account, amount))

def merkleParent (a b : Hash) : Hash :=
  if a ≤ b then hashv (keyBytes a ++ keyBytes b) else hashv (keyBytes b ++ keyBytes a)

def verifyMerkleProof (root leaf : Hash) (proof : List Hash) : Bool :=
  proof.foldl (merkleParent hashv) leaf = root

end

theorem keyBytes_length (key : BitVec 256) : (keyBytes key).length = 32 :=
  bigEndian_length _ _

theorem keyBytes_injective : Function.Injective keyBytes := by
  intro a b same
  exact BitVec.eq_of_toNat_eq (bigEndian_inj (n := 32) a.isLt b.isLt same)

theorem snapshotBytes_length (entry : Pubkey × BitVec 64) : (snapshotBytes entry).length = 40 := by
  simp [snapshotBytes, keyBytes_length]

theorem snapshotBytes_injective : Function.Injective snapshotBytes := by
  rintro ⟨a, v⟩ ⟨b, w⟩ same
  obtain ⟨keys, weights⟩ := List.append_inj same (by simp [keyBytes_length])
  obtain rfl : a = b := keyBytes_injective keys
  obtain rfl : v = w := BitVec.eq_of_toNat_eq (littleEndian_inj (n := 8) v.isLt w.isLt weights)
  rfl

theorem merkleParent_eq (hashv : Hashv) : merkleParent hashv = Merkle.parent hashv keyBytes := by
  funext a b
  unfold merkleParent Merkle.parent Merkle.pair
  split <;> rfl

theorem verifyMerkleProof_iff {hashv : Hashv} {root leaf : Hash} {proof : List Hash} :
    verifyMerkleProof hashv root leaf proof = true ↔ Merkle.verify hashv keyBytes root leaf proof := by
  simp [verifyMerkleProof, Merkle.verify, merkleParent_eq]

def proofPreimages (hashv : Hashv) (account : Pubkey) (amount : BitVec 64) (proof : List Hash) :
    List (List UInt8) :=
  snapshotBytes (account, amount) :: Merkle.path hashv keyBytes (snapshotLeaf hashv account amount) proof

/-- A committed snapshot: a tree with the given root whose weights add up to at most `totalWeight`, all
of whose hashed strings lie in `S`. -/
structure Snapshot (hashv : Hashv) (S : Set (List UInt8)) (root : Hash) (totalWeight : Nat) where
  tree : Merkle.Tree (Pubkey × BitVec 64)
  committed : tree.digest hashv keyBytes snapshotBytes = root
  weights : (tree.leaves.map fun entry => entry.2.toNat).sum ≤ totalWeight
  hashed : ∀ x ∈ tree.preimages hashv keyBytes snapshotBytes, x ∈ S

theorem Snapshot.member {hashv : Hashv} {S : Set (List UInt8)} {root : Hash} {totalWeight : Nat}
    (snapshot : Snapshot hashv S root totalWeight) (collisionFree : Set.InjOn hashv S)
    {account : Pubkey} {amount : BitVec 64} {proof : List Hash}
    (hashed : ∀ x ∈ proofPreimages hashv account amount proof, x ∈ S)
    (accepted : verifyMerkleProof hashv root (snapshotLeaf hashv account amount) proof = true) :
    (account, amount) ∈ snapshot.tree.leaves := by
  rw [verifyMerkleProof_iff, ← snapshot.committed] at accepted
  obtain ⟨leaf, member, same⟩ := Merkle.verify_sound keyBytes_length keyBytes_injective collisionFree
    (fun entry => by rw [snapshotBytes_length]; decide) (hashed _ List.mem_cons_self) proof snapshot.tree
    snapshot.hashed (fun x member => hashed x (List.mem_cons_of_mem _ member)) accepted
  exact snapshotBytes_injective same ▸ member

theorem pair_keyBytes_comm (a b : Hash) : Merkle.pair keyBytes a b = Merkle.pair keyBytes b a := by
  unfold Merkle.pair
  by_cases le : a ≤ b
  · by_cases ge : b ≤ a
    · rw [BitVec.le_antisymm le ge]
    · rw [if_pos le, if_neg ge]
  · have ge : b ≤ a := (BitVec.le_total a b).resolve_left le
    rw [if_neg le, if_pos ge]

theorem Snapshot.provable {hashv : Hashv} {S : Set (List UInt8)} {root : Hash} {totalWeight : Nat}
    (snapshot : Snapshot hashv S root totalWeight) {account : Pubkey} {amount : BitVec 64}
    (leaf : (account, amount) ∈ snapshot.tree.leaves) :
    ∃ proof, verifyMerkleProof hashv root (snapshotLeaf hashv account amount) proof = true ∧
      ∀ x ∈ proofPreimages hashv account amount proof, x ∈ S := by
  obtain ⟨proof, accepted, hashed⟩ := Merkle.verify_complete hashv keyBytes snapshotBytes pair_keyBytes_comm snapshot.tree leaf
  rw [snapshot.committed] at accepted
  refine ⟨proof, verifyMerkleProof_iff.mpr accepted, ?_⟩
  intro x member
  rcases List.mem_cons.mp member with own | above
  · rw [own]
    exact snapshot.hashed _ (Merkle.leaf_preimage hashv keyBytes snapshotBytes snapshot.tree leaf)
  · exact snapshot.hashed x (hashed x above)

end Mancipatio
