import GlassBox.Domain.Serialization

/-!
# Merkle roots and inclusion proofs

`domain/merkle.py`.  The recursions split at the largest power of two below the length; they are
written over an explicit depth bound, for which the length of the sequence is always enough.
-/

namespace GlassBox

section Merkle

variable [Runtime] {hashes : List ByteString}

def emptyRoot : ByteString := Runtime.sha256 []

/-- `leaf_hash`: a leaf is hashed behind the prefix `0x00`. -/
def leafHash (leaf : ByteString) : ByteString := Runtime.sha256 (0 :: leaf)

/-- `node_hash`: an internal node is hashed behind the prefix `0x01`. -/
def nodeHash (left right : ByteString) : ByteString := Runtime.sha256 (1 :: left ++ right)

/-- For a count of two or more. -/
def largestPowerOfTwoBelow (count : Nat) : Nat := 2 ^ (count - 1).log2

/-- `_root_of_hashes`, to recursion depth `depth`. -/
def rootOfHashes : Nat → List ByteString → ByteString
  | _, [] => emptyRoot
  | _, [hash] => hash
  | 0, _ => emptyRoot
  | depth + 1, hashes =>
    let split := largestPowerOfTwoBelow hashes.length
    nodeHash (rootOfHashes depth (hashes.take split)) (rootOfHashes depth (hashes.drop split))

/-- The root over the hashed leaves. -/
def merkleRoot (leaves : List ByteString) : ByteString :=
  rootOfHashes leaves.length (leaves.map leafHash)

theorem rootOfHashes_length (depth : Nat) (hashes : List ByteString)
    (digests : ∀ hash ∈ hashes, hash.length = 32) :
    (rootOfHashes depth hashes).length = 32 := by
  unfold rootOfHashes
  split
  · exact Runtime.sha256_length _
  · exact digests _ (by simp)
  · exact Runtime.sha256_length _
  · exact Runtime.sha256_length _

/-- A root is a digest, so it passes for a 256-bit code. -/
@[simp]
theorem merkleRoot_length (leaves : List ByteString) : (merkleRoot leaves).length = 32 := by
  refine rootOfHashes_length _ _ fun hash member => ?_
  obtain ⟨leaf, -, rfl⟩ := List.mem_map.mp member
  exact Runtime.sha256_length _

omit [Runtime] in
theorem largestPowerOfTwoBelow_pos (count : Nat) : 0 < largestPowerOfTwoBelow count :=
  Nat.two_pow_pos _

omit [Runtime] in
theorem largestPowerOfTwoBelow_lt {count : Nat} (several : 2 ≤ count) :
    largestPowerOfTwoBelow count < count := by
  have below : 2 ^ (count - 1).log2 ≤ count - 1 := Nat.log2_self_le (by omega)
  unfold largestPowerOfTwoBelow
  omega

/-- `_root_of_hashes`. -/
def rootOf (hashes : List ByteString) : ByteString := rootOfHashes hashes.length hashes

theorem rootOfHashes_succ (depth : Nat) (several : 2 ≤ hashes.length) :
    rootOfHashes (depth + 1) hashes =
      nodeHash (rootOfHashes depth (hashes.take (largestPowerOfTwoBelow hashes.length)))
        (rootOfHashes depth (hashes.drop (largestPowerOfTwoBelow hashes.length))) := by
  match hashes with
  | [] | [_] => simp at several
  | _ :: _ :: _ => rfl

theorem rootOfHashes_eq {depth depth' : Nat} (enough : hashes.length ≤ depth + 1)
    (enough' : hashes.length ≤ depth' + 1) :
    rootOfHashes depth hashes = rootOfHashes depth' hashes := by
  induction depth generalizing depth' hashes with
  | zero =>
    match hashes with
    | [] => simp [rootOfHashes]
    | [_] => simp [rootOfHashes]
    | _ :: _ :: _ => simp at enough
  | succ depth ih =>
    by_cases several : 2 ≤ hashes.length
    · obtain ⟨depth', rfl⟩ : ∃ smaller, depth' = smaller + 1 := ⟨depth' - 1, by omega⟩
      have positive := largestPowerOfTwoBelow_pos hashes.length
      have below := largestPowerOfTwoBelow_lt several
      rw [rootOfHashes_succ depth several, rootOfHashes_succ depth' several]
      congr 1
      · exact ih (by rw [List.length_take]; omega) (by rw [List.length_take]; omega)
      · exact ih (by rw [List.length_drop]; omega) (by rw [List.length_drop]; omega)
    · match hashes with
      | [] => simp [rootOfHashes]
      | [_] => simp [rootOfHashes]
      | _ :: _ :: _ => simp at several

@[simp]
theorem rootOf_singleton (hash : ByteString) : rootOf [hash] = hash := by
  simp [rootOf, rootOfHashes]

/-- The recursion of `_root_of_hashes`. -/
theorem rootOf_split (several : 2 ≤ hashes.length) :
    rootOf hashes = nodeHash (rootOf (hashes.take (largestPowerOfTwoBelow hashes.length)))
      (rootOf (hashes.drop (largestPowerOfTwoBelow hashes.length))) := by
  have positive := largestPowerOfTwoBelow_pos hashes.length
  have below := largestPowerOfTwoBelow_lt several
  have deeper : rootOf hashes = rootOfHashes (hashes.length + 1) hashes :=
    rootOfHashes_eq (by omega) (by omega)
  rw [deeper, rootOfHashes_succ _ several]
  congr 1
  · exact rootOfHashes_eq (by rw [List.length_take]; omega) (by omega)
  · exact rootOfHashes_eq (by rw [List.length_drop]; omega) (by omega)

theorem rootOf_length (digests : ∀ hash ∈ hashes, hash.length = 32) :
    (rootOf hashes).length = 32 := rootOfHashes_length _ _ digests

theorem merkleRoot_eq_rootOf (leaves : List ByteString) :
    merkleRoot leaves = rootOf (leaves.map leafHash) := by
  simp [merkleRoot, rootOf]

end Merkle

/-- `MerkleProof`: the siblings from a leaf upwards, each with whether it stands on the left. -/
structure MerkleProof where
  index : Nat
  treeSize : Nat
  path : List (ByteString × Bool) := []
  index_lt : index < treeSize
  siblings_digests : ∀ sibling ∈ path, sibling.1.length = 32

namespace MerkleProof

def make (index treeSize : Int) (path : List (ByteString × Bool)) : Except PyError MerkleProof :=
  if treeSize < 1 then
    .error (.validation "tree_size must be positive" "tree_size" [("value", .int treeSize)])
  else if within : 0 ≤ index ∧ index < treeSize then
    if digests : ∀ sibling ∈ path, sibling.1.length = 32 then
      .ok ⟨index.toNat, treeSize.toNat, path, by omega, digests⟩
    else
      .error (.validation "proof path entries must be 32-byte hashes"
        ("path[" ++ toString (path.findIdx fun sibling => sibling.1.length ≠ 32) ++ "]"))
  else
    .error (.validation "index is outside the tree" "index"
      [("index", .int index), ("tree_size", .int treeSize)])

variable [Runtime] {subtree : List ByteString} {leaves : List ByteString} {index : Nat}
  {leaf : ByteString}

/-- The hash recomputed from a leaf's hash and the siblings above it. -/
def climb (hash : ByteString) (path : List (ByteString × Bool)) : ByteString :=
  path.foldl (fun computed sibling =>
    if sibling.2 then nodeHash sibling.1 computed else nodeHash computed sibling.1) hash

/-- The path leads from the leaf to the root. -/
def verify (proof : MerkleProof) (leaf root : ByteString) : Bool :=
  climb (leafHash leaf) proof.path == root

/-- The inner function of `build_inclusion_proof`: the siblings on the way down to a leaf. -/
def descend : Nat → List ByteString → Nat → List (ByteString × Bool)
  | 0, _, _ => []
  | depth + 1, subtree, target =>
    if subtree.length ≤ 1 then []
    else
      let split := largestPowerOfTwoBelow subtree.length
      if target < split then
        (rootOf (subtree.drop split), false) :: descend depth (subtree.take split) target
      else
        (rootOf (subtree.take split), true) :: descend depth (subtree.drop split) (target - split)

/-- The siblings of a leaf, from the leaf upwards. -/
def inclusionPath (leaves : List ByteString) (index : Nat) : List (ByteString × Bool) :=
  (descend leaves.length (leaves.map leafHash) index).reverse

/-- `build_inclusion_proof`. -/
def build (leaves : List ByteString) (index : Int) : Except PyError MerkleProof :=
  if leaves.isEmpty then
    .error (.validation "cannot prove inclusion in an empty tree" "leaves")
  else if ¬ (0 ≤ index ∧ index < leaves.length) then
    .error (.validation "index is outside the leaf sequence" "index"
      [("index", .int index), ("leaf_count", .ofNat leaves.length)])
  else
    make index leaves.length (inclusionPath leaves index.toNat)

theorem descend_digests (depth : Nat) (digests : ∀ hash ∈ subtree, hash.length = 32)
    (target : Nat) : ∀ sibling ∈ descend depth subtree target, sibling.1.length = 32 := by
  induction depth generalizing subtree target with
  | zero => simp [descend]
  | succ depth ih =>
    have front : ∀ hash ∈ subtree.take (largestPowerOfTwoBelow subtree.length),
        hash.length = 32 := fun hash member => digests hash (List.mem_of_mem_take member)
    have back : ∀ hash ∈ subtree.drop (largestPowerOfTwoBelow subtree.length),
        hash.length = 32 := fun hash member => digests hash (List.mem_of_mem_drop member)
    simp only [descend]
    split
    · simp
    · split
      · exact List.forall_mem_cons.mpr ⟨rootOf_length back, ih front target⟩
      · exact List.forall_mem_cons.mpr ⟨rootOf_length front, ih back _⟩

/-- Climbing the way a leaf was reached on gives the root. -/
theorem climb_descend {depth : Nat} (enough : subtree.length ≤ depth) {target : Nat}
    {hash : ByteString} (found : subtree[target]? = some hash) :
    climb hash (descend depth subtree target).reverse = rootOf subtree := by
  induction depth generalizing subtree target with
  | zero =>
    rw [List.eq_nil_of_length_eq_zero (Nat.le_zero.mp enough)] at found
    simp at found
  | succ depth ih =>
    have within : target < subtree.length := (List.getElem?_eq_some_iff.mp found).1
    simp only [descend]
    split
    · rename_i single
      obtain ⟨only, rfl⟩ : ∃ only, subtree = [only] := List.length_eq_one_iff.mp (by omega)
      obtain rfl : target = 0 := by simpa using within
      obtain rfl : only = hash := by simpa using found
      simp [climb]
    · rename_i several
      have positive := largestPowerOfTwoBelow_pos subtree.length
      have below := largestPowerOfTwoBelow_lt (by omega : 2 ≤ subtree.length)
      have root_eq : rootOf subtree =
          nodeHash (rootOf (subtree.take (largestPowerOfTwoBelow subtree.length)))
            (rootOf (subtree.drop (largestPowerOfTwoBelow subtree.length))) :=
        rootOf_split (by omega)
      rw [root_eq]
      generalize largestPowerOfTwoBelow subtree.length = middle at positive below
      split
      · rename_i left
        have front : (subtree.take middle)[target]? = some hash := by
          rw [List.getElem?_take_of_lt left, found]
        have climbed := ih (by rw [List.length_take]; omega) front
        simp only [climb, List.reverse_cons, List.foldl_append] at climbed ⊢
        simp [climbed]
      · rename_i right
        have back : (subtree.drop middle)[target - middle]? = some hash := by
          rw [List.getElem?_drop, ← found]
          congr 1
          omega
        have climbed := ih (by rw [List.length_drop]; omega) back
        simp only [climb, List.reverse_cons, List.foldl_append] at climbed ⊢
        simp [climbed]

theorem inclusionPath_digests (leaves : List ByteString) (index : Nat) :
    ∀ sibling ∈ inclusionPath leaves index, sibling.1.length = 32 := by
  intro sibling member
  refine descend_digests _ ?_ _ sibling (List.mem_reverse.mp member)
  intro hash hash_mem
  obtain ⟨_, -, rfl⟩ := List.mem_map.mp hash_mem
  exact Runtime.sha256_length _

theorem climb_inclusionPath (found : leaves[index]? = some leaf) :
    climb (leafHash leaf) (inclusionPath leaves index) = merkleRoot leaves := by
  rw [merkleRoot_eq_rootOf]
  exact climb_descend (by rw [List.length_map]) (by simp [found])

theorem exists_build (found : leaves[index]? = some leaf) :
    ∃ proof, build leaves index = .ok proof ∧ proof.index = index ∧
      proof.treeSize = leaves.length ∧ proof.path = inclusionPath leaves index ∧
      proof.verify leaf (merkleRoot leaves) = true := by
  have within : index < leaves.length := (List.getElem?_eq_some_iff.mp found).1
  have nonempty : leaves.isEmpty = false := by
    cases leaves with
    | nil => simp at within
    | cons first rest => rfl
  have digests := inclusionPath_digests leaves index
  refine ⟨⟨index, leaves.length, _, within, digests⟩, ?_, rfl, rfl, rfl, ?_⟩
  · have bounds : (0 : Int) ≤ index ∧ (index : Int) < leaves.length := by omega
    have sized : ¬ ((leaves.length : Int) < 1) := by omega
    simp only [build, make, nonempty, bounds, sized, not_true, if_false, Bool.false_eq_true,
      and_self, dite_true, Int.toNat_natCast]
    rw [dif_pos digests]
  · exact beq_iff_eq.mpr (climb_inclusionPath found)

end MerkleProof

end GlassBox
