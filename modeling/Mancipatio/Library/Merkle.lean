import Mathlib

/-!
# Sorted-pair Merkle trees

A node hashes its two child digests in ascending order, so a proof is a plain list of siblings with no
sides. Leaves and nodes are hashed by the same function; what tells them apart is the length of the
hashed string. Soundness is relative to the finitely many strings that the tree and the proof hash:
either the function is injective on those, or two of them collide.
-/

namespace Merkle

variable {Digest Byte Leaf : Type*} [LE Digest] [DecidableLE Digest]
variable (hash : List Byte → Digest) (bytes : Digest → List Byte) (encode : Leaf → List Byte)

inductive Tree (Leaf : Type*) where
  | leaf (value : Leaf)
  | node (left right : Tree Leaf)

def pair (a b : Digest) : List Byte :=
  if a ≤ b then bytes a ++ bytes b else bytes b ++ bytes a

def parent (a b : Digest) : Digest :=
  hash (pair bytes a b)

def verify (root leaf : Digest) (proof : List Digest) : Prop :=
  proof.foldl (parent hash bytes) leaf = root

instance [DecidableEq Digest] (root leaf : Digest) (proof : List Digest) : Decidable (verify hash bytes root leaf proof) :=
  inferInstanceAs (Decidable (_ = _))

namespace Tree

def digest : Tree Leaf → Digest
  | .leaf value => hash (encode value)
  | .node left right => parent hash bytes left.digest right.digest

def leaves : Tree Leaf → List Leaf
  | .leaf value => [value]
  | .node left right => left.leaves ++ right.leaves

def preimages : Tree Leaf → List (List Byte)
  | .leaf value => [encode value]
  | .node left right =>
      pair bytes (left.digest hash bytes encode) (right.digest hash bytes encode) ::
        (left.preimages ++ right.preimages)

end Tree

def path : Digest → List Digest → List (List Byte)
  | _, [] => []
  | current, sibling :: rest => pair bytes current sibling :: path (parent hash bytes current sibling) rest

theorem path_concat (current : Digest) (proof : List Digest) (sibling : Digest) :
    path hash bytes current (proof ++ [sibling]) =
      path hash bytes current proof ++ [pair bytes (proof.foldl (parent hash bytes) current) sibling] := by
  induction proof generalizing current with
  | nil => rfl
  | cons first rest ih => simp [path, ih]

section soundness
variable {hash bytes encode} {width : Nat}

theorem pair_length (fixed : ∀ d, (bytes d).length = width) (a b : Digest) :
    (pair bytes a b).length = 2 * width := by
  unfold pair
  split <;> simp [fixed, Nat.two_mul]

theorem pair_inj (fixed : ∀ d, (bytes d).length = width) (injective : Function.Injective bytes)
    {a b c d : Digest} (same : pair bytes a b = pair bytes c d) : c = a ∨ c = b := by
  have halves : ∀ {w x y z : Digest}, bytes w ++ bytes x = bytes y ++ bytes z → w = y ∧ x = z := by
    intro w x y z same
    obtain ⟨first, second⟩ := List.append_inj same (by rw [fixed, fixed])
    exact ⟨injective first, injective second⟩
  unfold pair at same
  split at same <;> split at same <;> obtain ⟨rfl, rfl⟩ := halves same <;> simp

/-- A proof accepted against the root of a tree shows one of its leaves, provided that the hash does
not collide on the strings involved and that no leaf is as long as a node. -/
theorem verify_sound (fixed : ∀ d, (bytes d).length = width) (injective : Function.Injective bytes)
    {S : Set (List Byte)} (collisionFree : Set.InjOn hash S)
    (distinct : ∀ value, (encode value).length ≠ 2 * width) {value : Leaf}
    (hashed : encode value ∈ S) (proof : List Digest) (tree : Tree Leaf)
    (built : ∀ x ∈ tree.preimages hash bytes encode, x ∈ S)
    (checked : ∀ x ∈ path hash bytes (hash (encode value)) proof, x ∈ S)
    (accepted : verify hash bytes (tree.digest hash bytes encode) (hash (encode value)) proof) :
    ∃ leaf ∈ tree.leaves, encode leaf = encode value := by
  induction proof using List.reverseRecOn generalizing tree with
  | nil =>
      cases tree with
      | leaf committed =>
          have same := collisionFree hashed (built _ (by simp [Tree.preimages])) accepted
          exact ⟨committed, by simp [Tree.leaves], same.symm⟩
      | node left right =>
          have same := collisionFree hashed (built _ (by simp [Tree.preimages])) accepted
          exact absurd (congrArg List.length same) (by rw [pair_length fixed]; exact distinct value)
  | append_singleton proof sibling ih =>
      rw [path_concat] at checked
      unfold verify at accepted
      rw [List.foldl_append] at accepted
      have last := checked _ (List.mem_append_right _ (List.mem_singleton.mpr rfl))
      cases tree with
      | leaf committed =>
          have same := collisionFree last (built _ (by simp [Tree.preimages])) accepted
          exact absurd (congrArg List.length same).symm (by rw [pair_length fixed]; exact distinct committed)
      | node left right =>
          have same := collisionFree last (built _ (by simp [Tree.preimages])) accepted
          have earlier := fun x member => checked x (List.mem_append_left _ member)
          rcases pair_inj fixed injective same.symm with onLeft | onRight
          · obtain ⟨leaf, member, encoded⟩ :=
              ih left (fun x member => built x (by simp [Tree.preimages, member])) earlier onLeft
            exact ⟨leaf, List.mem_append_left _ member, encoded⟩
          · obtain ⟨leaf, member, encoded⟩ :=
              ih right (fun x member => built x (by simp [Tree.preimages, member])) earlier onRight
            exact ⟨leaf, List.mem_append_right _ member, encoded⟩

end soundness

theorem leaf_preimage (tree : Tree Leaf) {value : Leaf} (member : value ∈ tree.leaves) :
    encode value ∈ tree.preimages hash bytes encode := by
  induction tree with
  | leaf committed =>
      obtain rfl := List.mem_singleton.mp member
      exact List.mem_singleton_self _
  | node left right ihl ihr =>
      apply List.mem_cons_of_mem
      exact List.mem_append.mpr ((List.mem_append.mp member).imp ihl ihr)

/-- Every leaf of a tree has a proof, and what it hashes is hashed in the tree. -/
theorem verify_complete (symmetric : ∀ a b, pair bytes a b = pair bytes b a) (tree : Tree Leaf) {value : Leaf}
    (member : value ∈ tree.leaves) :
    ∃ proof, verify hash bytes (tree.digest hash bytes encode) (hash (encode value)) proof ∧
      ∀ x ∈ path hash bytes (hash (encode value)) proof, x ∈ tree.preimages hash bytes encode := by
  induction tree with
  | leaf committed =>
      obtain rfl := List.mem_singleton.mp member
      refine ⟨[], rfl, ?_⟩
      intro x none'
      cases none'
  | node left right ihl ihr =>
      rcases List.mem_append.mp member with onLeft | onRight
      · obtain ⟨proof, accepted, hashed⟩ := ihl onLeft
        unfold verify at accepted
        refine ⟨proof ++ [right.digest hash bytes encode], ?_, ?_⟩
        · rw [verify, List.foldl_append, accepted]
          rfl
        · intro x member
          rw [path_concat, accepted] at member
          rcases List.mem_append.mp member with below | top
          · simp [Tree.preimages, hashed x below]
          · simp [Tree.preimages, List.mem_singleton.mp top]
      · obtain ⟨proof, accepted, hashed⟩ := ihr onRight
        unfold verify at accepted
        refine ⟨proof ++ [left.digest hash bytes encode], ?_, ?_⟩
        · rw [verify, List.foldl_append, accepted]
          exact congrArg hash (symmetric _ _)
        · intro x member
          rw [path_concat, accepted] at member
          rcases List.mem_append.mp member with below | top
          · simp [Tree.preimages, hashed x below]
          · rw [List.mem_singleton.mp top, symmetric]
            exact List.mem_cons_self

/-! ## Levels with carried odd nodes -/

section levels
variable {Node : Type*} (combine : Node → Node → Node)

def nextLevel : List Node → List Node
  | a :: b :: rest => combine a b :: nextLevel rest
  | nodes => nodes

theorem nextLevel_length (nodes : List Node) : (nextLevel combine nodes).length = (nodes.length + 1) / 2 := by
  fun_induction nextLevel combine nodes with
  | case1 a b rest ih =>
      simp only [List.length_cons, ih]
      omega
  | case2 nodes short =>
      match nodes, short with
      | [], _ => simp
      | [a], _ => simp
      | a :: b :: rest, short => exact absurd rfl (short a b rest)

def levels (nodes : List Node) : List (List Node) :=
  if 1 < nodes.length then nodes :: levels (nextLevel combine nodes) else [nodes]
termination_by nodes.length
decreasing_by
  rw [nextLevel_length]
  omega

def proofAt : List (List Node) → Nat → List Node
  | [], _ => []
  | [_], _ => []
  | level :: next :: above, index => level[index ^^^ 1]?.toList ++ proofAt (next :: above) (index / 2)

theorem sibling_step (index : Nat) : (index + 2) ^^^ 1 = (index ^^^ 1) + 2 := by
  rcases Nat.even_or_odd index with even | odd
  · rw [Nat.xor_one_of_even even, Nat.xor_one_of_even (by simpa [Nat.even_add] using even)]
  · rw [Nat.xor_one_of_odd odd, Nat.xor_one_of_odd (by simpa [Nat.odd_add] using odd)]
    obtain ⟨k, rfl⟩ := odd
    omega

variable {combine}

theorem nextLevel_above (symmetric : ∀ a b, combine a b = combine b a) (nodes : List Node) (index : Nat) (node : Node)
    (stands : nodes[index]? = some node) :
    (nextLevel combine nodes)[index / 2]? = some (nodes[index ^^^ 1]?.elim node (combine node)) := by
  fun_induction nextLevel combine nodes generalizing index with
  | case1 a b rest ih =>
      match index, stands with
      | 0, stands =>
          obtain rfl : a = node := by simpa using stands
          rfl
      | 1, stands =>
          obtain rfl : b = node := by simpa using stands
          exact congrArg some (symmetric a b)
      | index + 2, stands =>
          have halves : (index + 2) / 2 = index / 2 + 1 := by omega
          rw [sibling_step, halves]
          simpa using ih index (by simpa using stands)
  | case2 nodes short =>
      match nodes, short, index, stands with
      | [a], _, 0, stands => simpa using stands
      | a :: b :: rest, short, _, _ => exact absurd rfl (short a b rest)

def apex (combine : Node → Node → Node) (nodes : List Node) : Option Node :=
  if 1 < nodes.length then apex combine (nextLevel combine nodes) else nodes.head?
termination_by nodes.length
decreasing_by
  rw [nextLevel_length]
  omega

theorem apex_single (a : Node) : apex combine [a] = some a := by
  rw [apex, if_neg (by simp), List.head?_cons]

theorem apex_pair (a b : Node) : apex combine [a, b] = some (combine a b) := by
  rw [apex, if_pos (by simp), nextLevel, nextLevel, apex_single]
  simp

theorem apex_exists {nodes : List Node} (nonempty : nodes ≠ []) : ∃ top, apex combine nodes = some top := by
  fun_induction apex combine nodes with
  | case1 nodes more ih =>
      apply ih
      intro empty
      have length := nextLevel_length combine nodes
      rw [empty, List.length_nil] at length
      omega
  | case2 nodes few =>
      cases nodes with
      | nil => exact absurd rfl nonempty
      | cons node rest => exact ⟨node, rfl⟩

variable (combine) in
theorem levels_cons (nodes : List Node) : ∃ above, levels combine nodes = nodes :: above := by
  rw [levels]
  split_ifs
  · exact ⟨_, rfl⟩
  · exact ⟨[], rfl⟩

theorem proofAt_of_more {nodes : List Node} (more : 1 < nodes.length) (index : Nat) :
    proofAt (levels combine nodes) index =
      nodes[index ^^^ 1]?.toList ++ proofAt (levels combine (nextLevel combine nodes)) (index / 2) := by
  obtain ⟨above, next⟩ := levels_cons combine (nextLevel combine nodes)
  rw [levels, if_pos more, next, proofAt]

theorem proofAt_of_few {nodes : List Node} (few : ¬ 1 < nodes.length) (index : Nat) :
    proofAt (levels combine nodes) index = [] := by
  rw [levels, if_neg few, proofAt]

theorem levels_top (nodes : List Node) : (levels combine nodes).getLast?.bind List.head? = apex combine nodes := by
  fun_induction apex combine nodes with
  | case1 nodes more ih =>
      obtain ⟨above, next⟩ := levels_cons combine (nextLevel combine nodes)
      rw [← ih, levels, if_pos more, next, List.getLast?_cons_cons]
  | case2 nodes few =>
      rw [levels, if_neg few]
      rfl

/-- The siblings of a node lead from it to the top. -/
theorem proofAt_leads (symmetric : ∀ a b, combine a b = combine b a) {nodes : List Node} {index : Nat} {node top : Node}
    (stands : nodes[index]? = some node) (reached : apex combine nodes = some top) :
    (proofAt (levels combine nodes) index).foldl combine node = top := by
  fun_induction apex combine nodes generalizing index node with
  | case1 nodes more ih =>
      have above := nextLevel_above symmetric nodes index node stands
      rw [proofAt_of_more more, List.foldl_append]
      cases sibling : nodes[index ^^^ 1]? with
      | none =>
          rw [sibling] at above
          exact ih above reached
      | some other =>
          rw [sibling] at above
          exact ih above reached
  | case2 nodes few =>
      rw [proofAt_of_few few]
      have first : index = 0 := by
        have inside := (List.getElem?_eq_some_iff.mp stands).1
        omega
      subst first
      rw [List.head?_eq_getElem?, stands] at reached
      exact Option.some.inj reached

theorem proofAt_length {k : Nat} {nodes : List Node} (fits : nodes.length ≤ 2 ^ k) (index : Nat) :
    (proofAt (levels combine nodes) index).length ≤ k := by
  induction k generalizing nodes index with
  | zero =>
      rw [proofAt_of_few (by simpa using fits)]
      exact Nat.le_refl _
  | succ k ih =>
      by_cases more : 1 < nodes.length
      · have half : (nextLevel combine nodes).length ≤ 2 ^ k := by
          rw [nextLevel_length]
          rw [Nat.pow_succ] at fits
          omega
        have rest := ih half (index / 2)
        have one : nodes[index ^^^ 1]?.toList.length ≤ 1 := by
          cases nodes[index ^^^ 1]? <;> simp
        rw [proofAt_of_more more, List.length_append]
        omega
      · rw [proofAt_of_few more]
        exact Nat.zero_le _

/-! ## Levels of another kind of node -/

section map
variable {Node' : Type*} {combine' : Node' → Node' → Node'} {f : Node → Node'}

theorem nextLevel_map (respects : ∀ a b, combine' (f a) (f b) = f (combine a b)) (nodes : List Node) :
    nextLevel combine' (nodes.map f) = (nextLevel combine nodes).map f := by
  fun_induction nextLevel combine nodes with
  | case1 a b rest ih => simp [nextLevel, respects, ih]
  | case2 nodes short =>
      match nodes, short with
      | [], _ => rfl
      | [a], _ => rfl
      | a :: b :: rest, short => exact absurd rfl (short a b rest)

theorem apex_map (respects : ∀ a b, combine' (f a) (f b) = f (combine a b)) (nodes : List Node) :
    apex combine' (nodes.map f) = (apex combine nodes).map f := by
  fun_induction apex combine nodes with
  | case1 nodes more ih => rw [apex, if_pos (by simpa using more), nextLevel_map respects, ih]
  | case2 nodes few => rw [apex, if_neg (by simpa using few), List.head?_map]

theorem proofAt_map (respects : ∀ a b, combine' (f a) (f b) = f (combine a b)) (nodes : List Node) (index : Nat) :
    proofAt (levels combine' (nodes.map f)) index = (proofAt (levels combine nodes) index).map f := by
  fun_induction levels combine nodes generalizing index with
  | case1 nodes more ih =>
      obtain ⟨above, next⟩ := levels_cons combine (nextLevel combine nodes)
      have later := ih (index / 2)
      rw [next] at later
      rw [proofAt_of_more (by simpa using more), nextLevel_map respects, later, next, proofAt, List.map_append, List.getElem?_map]
      cases nodes[index ^^^ 1]? <;> rfl
  | case2 nodes few => rw [proofAt_of_few (by simpa using few), proofAt, List.map_nil]

end map

/-! ## The tree of a list of leaves -/

theorem nextLevel_leaves (trees : List (Tree Leaf)) :
    (nextLevel Tree.node trees).flatMap Tree.leaves = trees.flatMap Tree.leaves := by
  fun_induction nextLevel Tree.node trees with
  | case1 a b rest ih => simp [Tree.leaves, ih]
  | case2 nodes short => rfl

theorem apex_leaves {trees : List (Tree Leaf)} {tree : Tree Leaf} (reached : apex Tree.node trees = some tree) :
    tree.leaves = trees.flatMap Tree.leaves := by
  fun_induction apex Tree.node trees with
  | case1 trees more ih => rw [ih reached, nextLevel_leaves]
  | case2 trees few =>
      match trees, few, reached with
      | [only], _, reached =>
          rw [List.head?_cons, Option.some.injEq] at reached
          simp [reached]
      | a :: b :: rest, few, _ => exact absurd (by simp) few

end levels

end Merkle
