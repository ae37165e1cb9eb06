import Mancipatio.Snapshot
import Mancipatio.Library.Numerals

/-!
# The trees that the front builds

The front hashes byte arrays and names digests and addresses by their texts. SHA-256 and the address codec are those
of the program; derived addresses come from the client library.
-/

namespace Mancipatio.Commitments
open Bytes Checked Merkle Numerals

structure Kit where
  hashv : Hashv
  -- the key that an address spells
  address : String → Except String Pubkey
  programDerivedAddress : String → List (List UInt8) → String
  associatedTokenAddress : (owner mint tokenProgram : String) → String

section
variable (kit : Kit)

def Kit.sha256 (data : List UInt8) : List UInt8 :=
  keyBytes (kit.hashv data)

def Kit.encodeAddress (text : String) : Except String (List UInt8) :=
  keyBytes <$> kit.address text

def parent (a b : List UInt8) : List UInt8 :=
  if lte a b = true then kit.sha256 (a ++ b) else kit.sha256 (b ++ a)

def merkleRoot (leaves : List (List UInt8)) : List UInt8 :=
  (apex (parent kit) leaves).getD (List.replicate 32 0)

def merkleProof (nodes : List (List UInt8)) (index : Nat) : List (List UInt8) :=
  if 1 < nodes.length then nodes[index ^^^ 1]?.toList ++ merkleProof (nextLevel (parent kit) nodes) (index / 2) else []
termination_by nodes.length
decreasing_by
  rw [nextLevel_length]
  omega

def treeLevels (leaves : List (List UInt8)) : List (List (List UInt8)) :=
  levels (fun a b => merkleRoot kit [a, b]) leaves

def snapshotLeafBytes (wallet : String) (weight : Nat) : Except String (List UInt8) := do
  return kit.sha256 ((← kit.encodeAddress wallet) ++ littleEndian 8 weight)

end

def hashHex (bytes : List UInt8) : String :=
  hexText bytes

def hashBytes (text : String) (message : String) : Except String (List UInt8) := do
  require (text.toList.length = 64 ∧ text.toList.all isHexDigit = true) message
  return hexPairs text.toList

def hashOfBytes (bytes : List UInt8) : Hash :=
  BitVec.ofNat 256 (ofLittleEndian bytes.reverse)

theorem hashOfBytes_keyBytes (h : Hash) : hashOfBytes (keyBytes h) = h := by
  have fits : h.toNat < 256 ^ 32 := h.isLt
  rw [hashOfBytes, keyBytes, bigEndian, List.reverse_reverse, ofLittleEndian_littleEndian, Nat.mod_eq_of_lt fits,
    BitVec.ofNat_toNat, BitVec.setWidth_eq]

theorem hashBytes_hashHex (h : Hash) (message : String) : hashBytes (hashHex (keyBytes h)) message = .ok (keyBytes h) := by
  have length : (hashHex (keyBytes h)).toList.length = 64 := by rw [hashHex, hexText_length, keyBytes_length]
  simp only [hashBytes, bind_eq_ok, pure_eq_ok]
  exact ⟨(), require_eq_ok.mpr ⟨length, hexText_digits _⟩, hexPairs_hexText _⟩

section agreement
variable {kit : Kit}

theorem merkleParent_comm (a b : Hash) : merkleParent kit.hashv a b = merkleParent kit.hashv b a := by
  rw [merkleParent_eq]
  exact congrArg kit.hashv (pair_keyBytes_comm a b)

theorem parent_keyBytes (a b : Hash) : parent kit (keyBytes a) (keyBytes b) = keyBytes (merkleParent kit.hashv a b) := by
  have order : lte (keyBytes a) (keyBytes b) = decide (a ≤ b) := lte_bigEndian a.isLt b.isLt
  unfold parent merkleParent
  simp only [order, decide_eq_true_eq]
  split_ifs <;> rfl

theorem merkleRoot_pair (a b : List UInt8) : merkleRoot kit [a, b] = parent kit a b := by
  rw [merkleRoot, apex_pair, Option.getD_some]

theorem treeLevels_eq (leaves : List (List UInt8)) : treeLevels kit leaves = levels (parent kit) leaves := by
  have same : (fun a b => merkleRoot kit [a, b]) = parent kit := by
    funext a b
    exact merkleRoot_pair a b
  rw [treeLevels, same]

theorem merkleProof_eq (nodes : List (List UInt8)) (index : Nat) :
    merkleProof kit nodes index = proofAt (treeLevels kit nodes) index := by
  rw [treeLevels_eq]
  fun_induction merkleProof kit nodes index with
  | case1 nodes index more ih => rw [ih, proofAt_of_more more]
  | case2 nodes index few => rw [proofAt_of_few few]

/-- Over digests of the program, the front's tree has the program's top. -/
theorem merkleRoot_keyBytes {leaves : List Hash} {top : Hash} (reached : apex (merkleParent kit.hashv) leaves = some top) :
    merkleRoot kit (leaves.map keyBytes) = keyBytes top := by
  rw [merkleRoot, apex_map parent_keyBytes, reached]
  rfl

theorem treeLevels_proof (leaves : List Hash) (index : Nat) :
    proofAt (treeLevels kit (leaves.map keyBytes)) index =
      (proofAt (levels (merkleParent kit.hashv) leaves) index).map keyBytes := by
  rw [treeLevels_eq, proofAt_map parent_keyBytes]

theorem treeLevels_top {leaves : List Hash} {top : Hash} (reached : apex (merkleParent kit.hashv) leaves = some top) :
    (treeLevels kit (leaves.map keyBytes)).getLast?.bind List.head? = some (keyBytes top) := by
  rw [treeLevels_eq, levels_top, apex_map parent_keyBytes, reached]
  rfl

theorem proof_accepted {leaves : List Hash} {index : Nat} {leaf top : Hash} (stands : leaves[index]? = some leaf)
    (reached : apex (merkleParent kit.hashv) leaves = some top) :
    verifyMerkleProof kit.hashv top leaf (proofAt (levels (merkleParent kit.hashv) leaves) index) = true := by
  rw [verifyMerkleProof, decide_eq_true_eq]
  exact proofAt_leads merkleParent_comm stands reached

end agreement

end Mancipatio.Commitments
