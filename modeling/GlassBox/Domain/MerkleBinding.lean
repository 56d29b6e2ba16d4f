import GlassBox.Domain.Merkle
import GlassBox.Domain.Sample

/-!
# What a Merkle root binds

A root is the hash of one message: of nothing, of a leaf behind `0x00`, or of two roots behind
`0x01`.  Where two messages with one hash differ they collide, and where they are equal the
comparison goes on below them.
-/

namespace GlassBox

open MerkleProof

section Merkle

variable [Runtime] {leaves : List ByteString} {first second : List ByteString} {depth : Nat}
  {leaf : ByteString}

/-- Two different byte strings with one SHA-256 digest. -/
def Collides (pair : ByteString × ByteString) : Prop :=
  pair.1 ≠ pair.2 ∧ Runtime.sha256 pair.1 = Runtime.sha256 pair.2

omit [Runtime] in
def front (leaves : List ByteString) : List ByteString :=
  leaves.take (largestPowerOfTwoBelow leaves.length)

omit [Runtime] in
def back (leaves : List ByteString) : List ByteString :=
  leaves.drop (largestPowerOfTwoBelow leaves.length)

def rootMessage : List ByteString → ByteString
  | [] => []
  | [leaf] => 0 :: leaf
  | leaves => 1 :: merkleRoot (front leaves) ++ merkleRoot (back leaves)

theorem rootMessage_of_several (several : 2 ≤ leaves.length) :
    rootMessage leaves = 1 :: (merkleRoot (front leaves) ++ merkleRoot (back leaves)) := by
  rcases leaves with _ | ⟨first, _ | ⟨second, rest⟩⟩
  · simp at several
  · simp at several
  · rfl

theorem sha256_rootMessage (leaves : List ByteString) :
    Runtime.sha256 (rootMessage leaves) = merkleRoot leaves := by
  rcases leaves with _ | ⟨first, _ | ⟨second, rest⟩⟩
  · rfl
  · rfl
  · have several : 2 ≤ ((first :: second :: rest).map leafHash).length := by simp
    rw [rootMessage_of_several (by simp), merkleRoot_eq_rootOf (first :: second :: rest),
      rootOf_split several, ← List.map_take, ← List.map_drop, ← merkleRoot_eq_rootOf,
      ← merkleRoot_eq_rootOf, List.length_map]
    rfl

omit [Runtime] in
theorem length_front_lt (several : 2 ≤ leaves.length) : (front leaves).length < leaves.length := by
  have below := largestPowerOfTwoBelow_lt several
  rw [front, List.length_take]
  omega

omit [Runtime] in
theorem length_back_lt (several : 2 ≤ leaves.length) : (back leaves).length < leaves.length := by
  have positive := largestPowerOfTwoBelow_pos leaves.length
  rw [back, List.length_drop]
  omega

/-- The first place where the computations of two roots hash different messages. -/
def treeCollision :
    Nat → List ByteString → List ByteString → Option (ByteString × ByteString)
  | 0, _, _ => none
  | depth + 1, first, second =>
    if rootMessage first = rootMessage second then
      (treeCollision depth (front first) (front second)).or
        (treeCollision depth (back first) (back second))
    else some (rootMessage first, rootMessage second)

/-- Equal messages are of one leaf sequence, or of two trees with equal roots on either side. -/
theorem eq_or_roots_eq_of_rootMessage_eq (same : rootMessage first = rootMessage second) :
    first = second ∨ (2 ≤ first.length ∧ merkleRoot (front first) = merkleRoot (front second) ∧
      merkleRoot (back first) = merkleRoot (back second)) := by
  rcases first with _ | ⟨leaf, _ | ⟨_, _⟩⟩ <;> rcases second with _ | ⟨other, _ | ⟨_, _⟩⟩
  case cons.cons.cons.cons =>
    have sides := List.append_inj (List.cons.inj same).2 (by simp)
    exact .inr ⟨by simp, sides⟩
  all_goals simp_all [rootMessage]

@[simp]
theorem treeCollision_self (depth : Nat) (leaves : List ByteString) :
    treeCollision depth leaves leaves = none := by
  induction depth generalizing leaves with
  | zero => rfl
  | succ depth ih => simp [treeCollision, ih]

theorem eq_or_treeCollision (enough : first.length < depth)
    (same : merkleRoot first = merkleRoot second) :
    first = second ∨ ∃ pair, treeCollision depth first second = some pair ∧ Collides pair := by
  induction depth generalizing first second with
  | zero => omega
  | succ depth ih =>
    rw [treeCollision]
    split
    case isFalse differ =>
      refine .inr ⟨_, rfl, differ, ?_⟩
      rw [sha256_rootMessage, sha256_rootMessage, same]
    case isTrue messages =>
      rcases eq_or_roots_eq_of_rootMessage_eq messages with equal | ⟨several, fronts, backs⟩
      · exact .inl equal
      · have shorter := length_front_lt several
        have shorter' := length_back_lt several
        rcases ih (by omega) fronts with equal | ⟨pair, found, collides⟩
        · rcases ih (by omega) backs with equal' | ⟨pair, found, collides⟩
          · left
            calc first = front first ++ back first := (List.take_append_drop _ _).symm
              _ = front second ++ back second := by rw [equal, equal']
              _ = second := List.take_append_drop _ _
          · exact .inr ⟨pair, by simp [equal, found], collides⟩
        · exact .inr ⟨pair, by simp [found], collides⟩

def rootCollision (first second : List ByteString) : Option (ByteString × ByteString) :=
  treeCollision (first.length + 1) first second

theorem merkleRoot_binding {first second : List ByteString} (different : first ≠ second)
    (same : merkleRoot first = merkleRoot second) :
    ∃ pair, rootCollision first second = some pair ∧ Collides pair :=
  (eq_or_treeCollision (Nat.lt_succ_self _) same).resolve_left different

omit [Runtime] in
/-- Under a hash which keeps only the first bytes, a fourth leaf does not change the root. -/
theorem merkleRoot_binding_truncated :
    letI := plainRuntime
    ∃ pair, rootCollision [[1], [2], [3]] [[1], [2], [3], [4]] = some pair ∧ Collides pair :=
  let _ := plainRuntime
  merkleRoot_binding (by decide) (by decide +kernel)

theorem descend_eq {depth' : Nat} {subtree : List ByteString} {target : Nat}
    (enough : subtree.length ≤ depth + 1) (enough' : subtree.length ≤ depth' + 1) :
    descend depth subtree target = descend depth' subtree target := by
  induction depth generalizing depth' subtree target with
  | zero =>
    cases depth' with
    | zero => rfl
    | succ depth' => rw [descend, descend, if_pos enough]
  | succ depth ih =>
    by_cases several : subtree.length ≤ 1
    · cases depth' with
      | zero => rw [descend, descend, if_pos several]
      | succ depth' => rw [descend, descend, if_pos several, if_pos several]
    · obtain ⟨depth', rfl⟩ : ∃ smaller, depth' = smaller + 1 := ⟨depth' - 1, by omega⟩
      have positive := largestPowerOfTwoBelow_pos subtree.length
      have below := largestPowerOfTwoBelow_lt (by omega : 2 ≤ subtree.length)
      simp only [descend, if_neg several]
      congr 2
      · exact ih (by rw [List.length_take]; omega) (by rw [List.length_take]; omega)
      · exact ih (by rw [List.length_drop]; omega) (by rw [List.length_drop]; omega)

/-- The recursion of the siblings of a leaf. -/
theorem inclusionPath_split (several : 2 ≤ leaves.length) (index : Nat) :
    inclusionPath leaves index = if index < largestPowerOfTwoBelow leaves.length then
        inclusionPath (front leaves) index ++ [(merkleRoot (back leaves), false)]
      else
        inclusionPath (back leaves) (index - largestPowerOfTwoBelow leaves.length) ++
          [(merkleRoot (front leaves), true)] := by
  have shorter := length_front_lt several
  have shorter' := length_back_lt several
  have deeper : descend leaves.length (leaves.map leafHash) index =
      descend (leaves.length + 1) (leaves.map leafHash) index :=
    descend_eq (by simp) (by simp; omega)
  rw [inclusionPath, deeper, descend, if_neg (by rw [List.length_map]; omega), List.length_map]
  simp only [← List.map_take, ← List.map_drop, ← merkleRoot_eq_rootOf,
    apply_ite List.reverse, List.reverse_cons]
  congr 2
  · refine congrArg List.reverse (descend_eq ?_ ?_) <;> rw [List.length_map]
    · exact shorter.le.trans (Nat.le_succ _)
    · exact Nat.le_succ _
  · refine congrArg List.reverse (descend_eq ?_ ?_) <;> rw [List.length_map]
    · exact shorter'.le.trans (Nat.le_succ _)
    · exact Nat.le_succ _

/-- The message which the hash at the upper end of a path is made of; the path comes downwards. -/
def pathMessage (leaf : ByteString) : List (ByteString × Bool) → ByteString
  | [] => 0 :: leaf
  | (sibling, onLeft) :: below =>
    let computed := climb (leafHash leaf) below.reverse
    1 :: if onLeft then sibling ++ computed else computed ++ sibling

theorem sha256_pathMessage (leaf : ByteString) (path : List (ByteString × Bool)) :
    Runtime.sha256 (pathMessage leaf path) = climb (leafHash leaf) path.reverse := by
  cases path with
  | nil => rfl
  | cons step below =>
    cases onLeft : step.2 <;> simp [climb, pathMessage, nodeHash, onLeft]

/-- The first place where a path, walked downwards, and a tree hash different messages. -/
def forgery (leaf : ByteString) :
    List ByteString → List (ByteString × Bool) → Option (ByteString × ByteString)
  | leaves, [] =>
    if rootMessage leaves = pathMessage leaf [] then none
    else some (rootMessage leaves, pathMessage leaf [])
  | leaves, step :: below =>
    if rootMessage leaves = pathMessage leaf (step :: below) then
      forgery leaf (if step.2 then back leaves else front leaves) below
    else some (rootMessage leaves, pathMessage leaf (step :: below))

theorem climb_length (leaf : ByteString) (path : List (ByteString × Bool)) :
    (climb (leafHash leaf) path).length = 32 := by
  rw [← List.reverse_reverse path, ← sha256_pathMessage]
  exact Runtime.sha256_length _

/-- A tree with the message of an upper path has two subtrees, whose roots the path names. -/
theorem subtrees_of_rootMessage_eq {sibling : ByteString} {onLeft : Bool}
    {below : List (ByteString × Bool)} (digest : sibling.length = 32)
    (same : rootMessage leaves = pathMessage leaf ((sibling, onLeft) :: below)) :
    2 ≤ leaves.length ∧
      sibling = merkleRoot (if onLeft then front leaves else back leaves) ∧
      climb (leafHash leaf) below.reverse =
        merkleRoot (if onLeft then back leaves else front leaves) := by
  rcases leaves with _ | ⟨first, _ | ⟨second, rest⟩⟩
  · simp [rootMessage, pathMessage] at same
  · simp [rootMessage, pathMessage] at same
  · rw [rootMessage_of_several (by simp)] at same
    cases onLeft with
    | false =>
      have sides := List.append_inj (List.cons.inj same).2 (by simp [climb_length])
      exact ⟨by simp, sides.2.symm, sides.1.symm⟩
    | true =>
      have sides := List.append_inj (List.cons.inj same).2 (by simp [digest])
      exact ⟨by simp, sides.1.symm, sides.2.symm⟩

theorem genuine_or_forgery {path : List (ByteString × Bool)}
    (digests : ∀ sibling ∈ path, sibling.1.length = 32)
    (verified : climb (leafHash leaf) path.reverse = merkleRoot leaves) :
    (∃ index, leaves[index]? = some leaf ∧ path.reverse = inclusionPath leaves index) ∨
      ∃ pair, forgery leaf leaves path = some pair ∧ Collides pair := by
  induction path generalizing leaves with
  | nil =>
    rw [forgery]
    split
    case isTrue same =>
      obtain ⟨rfl⟩ : leaves = [leaf] := by
        rcases leaves with _ | ⟨first, _ | ⟨second, rest⟩⟩ <;> simp_all [rootMessage, pathMessage]
      exact .inl ⟨0, rfl, rfl⟩
    case isFalse differ =>
      refine .inr ⟨_, rfl, differ, ?_⟩
      rw [sha256_rootMessage, sha256_pathMessage, verified]
  | cons step below ih =>
    obtain ⟨sibling, onLeft⟩ := step
    rw [forgery]
    split
    case isFalse differ =>
      refine .inr ⟨_, rfl, differ, ?_⟩
      rw [sha256_rootMessage, sha256_pathMessage, verified]
    case isTrue same =>
      obtain ⟨several, rfl, climbed⟩ :=
        subtrees_of_rootMessage_eq (digests _ List.mem_cons_self) same
      have lower : ∀ sibling ∈ below, sibling.1.length = 32 :=
        fun sibling member => digests sibling (List.mem_cons_of_mem _ member)
      rcases ih lower climbed with ⟨index, found, path_eq⟩ | forged
      · left
        cases onLeft with
        | false =>
          have left : index < largestPowerOfTwoBelow leaves.length := by
            have within := (List.getElem?_eq_some_iff.mp found).1
            simp only [front, List.length_take, Bool.false_eq_true, if_false] at within
            omega
          refine ⟨index, ?_, ?_⟩
          · rw [← found]
            exact (List.getElem?_take_of_lt left).symm
          · rw [inclusionPath_split several, if_pos left, List.reverse_cons, path_eq]
            rfl
        | true =>
          refine ⟨largestPowerOfTwoBelow leaves.length + index, ?_, ?_⟩
          · rw [← found]
            exact List.getElem?_drop.symm
          · rw [inclusionPath_split several, if_neg (Nat.not_lt.mpr (Nat.le_add_right _ _)),
              Nat.add_sub_cancel_left, List.reverse_cons, path_eq]
            rfl
      · exact .inr forged

/-- The siblings `build_inclusion_proof` returns never count as a forgery. -/
theorem forgery_inclusionPath {index : Nat} (found : leaves[index]? = some leaf) :
    forgery leaf leaves (inclusionPath leaves index).reverse = none := by
  induction size : leaves.length using Nat.strong_induction_on generalizing leaves index with
  | _ size ih =>
    by_cases several : 2 ≤ leaves.length
    · rw [inclusionPath_split several]
      split
      case isTrue left =>
        have found' : (front leaves)[index]? = some leaf :=
          (List.getElem?_take_of_lt left).trans found
        have below := ih _ (size ▸ length_front_lt several) found' rfl
        simp [forgery, pathMessage, rootMessage_of_several several, climb_inclusionPath found',
          below]
      case isFalse right =>
        have found' : (back leaves)[index - largestPowerOfTwoBelow leaves.length]? = some leaf := by
          rw [back, List.getElem?_drop, ← found]
          congr 1
          omega
        have below := ih _ (size ▸ length_back_lt several) found' rfl
        simp [forgery, pathMessage, rootMessage_of_several several, climb_inclusionPath found',
          below]
    · have within := (List.getElem?_eq_some_iff.mp found).1
      obtain ⟨only, rfl⟩ : ∃ only, leaves = [only] := List.length_eq_one_iff.mp (by omega)
      obtain rfl : index = 0 := by simpa using within
      obtain rfl : only = leaf := by simpa using found
      simp [inclusionPath, descend, forgery, rootMessage, pathMessage]

theorem genuine_or_forgery_of_verify {proof : MerkleProof}
    (verified : proof.verify leaf (merkleRoot leaves) = true) :
    (∃ index, leaves[index]? = some leaf ∧ proof.path = inclusionPath leaves index) ∨
      ∃ pair, forgery leaf leaves proof.path.reverse = some pair ∧ Collides pair := by
  have climbed : climb (leafHash leaf) proof.path.reverse.reverse = merkleRoot leaves := by
    rw [List.reverse_reverse]
    exact beq_iff_eq.mp verified
  have outcome := genuine_or_forgery
    (fun sibling member => proof.siblings_digests sibling (List.mem_reverse.mp member)) climbed
  rwa [List.reverse_reverse] at outcome

theorem inclusion_unforgeable {leaf : ByteString} (proof : MerkleProof) (absent : leaf ∉ leaves)
    (verified : proof.verify leaf (merkleRoot leaves) = true) :
    ∃ pair, forgery leaf leaves proof.path.reverse = some pair ∧ Collides pair := by
  rcases genuine_or_forgery_of_verify verified with ⟨index, found, -⟩ | forged
  · exact absurd (List.mem_of_getElem? found) absent
  · exact forged

omit [Runtime] in
/-- The same hash takes any second leaf for the one of the tree. -/
theorem inclusion_unforgeable_truncated :
    letI := plainRuntime
    ∃ pair, forgery [9] [[1], [2]] [(leafHash [1], true)] = some pair ∧ Collides pair :=
  let _ := plainRuntime
  inclusion_unforgeable ⟨1, 2, [(leafHash [1], true)], Nat.one_lt_two, by decide +kernel⟩
    (by decide) (by decide +kernel)

/-- A verifying proof binds its index unless its path is the one of another position, which holds
the same leaf: neither the index nor the tree size enters the verification. -/
theorem position_bound_iff {leaf : ByteString} {proof : MerkleProof} :
    (proof.verify leaf (merkleRoot leaves) = true → leaves[proof.index]? = some leaf ∨
        ∃ pair, forgery leaf leaves proof.path.reverse = some pair ∧ Collides pair) ↔
      ∀ index, leaves[index]? = some leaf → proof.path = inclusionPath leaves index →
        leaves[proof.index]? = some leaf := by
  constructor
  · intro bound index found path_eq
    have verified : proof.verify leaf (merkleRoot leaves) = true := by
      rw [verify, path_eq, climb_inclusionPath found]
      exact beq_self_eq_true _
    rcases bound verified with there | ⟨pair, forged, -⟩
    · exact there
    · rw [path_eq, forgery_inclusionPath found] at forged
      cases forged
  · intro own verified
    rcases genuine_or_forgery_of_verify verified with ⟨index, found, path_eq⟩ | forged
    · exact .inl (own index found path_eq)
    · exact .inr forged

omit [Runtime] in
/-- The proof of the first of two leaves, presented with the index of the second. -/
theorem moved_index_verifies :
    letI := plainRuntime
    let proof : MerkleProof := ⟨1, 2, inclusionPath [[1], [2]] 0, Nat.one_lt_two,
      inclusionPath_digests [[1], [2]] 0⟩
    ¬ (proof.verify [1] (merkleRoot [[1], [2]]) = true →
      [[1], [2]][proof.index]? = some [(1 : UInt8)] ∨
        ∃ pair, forgery [1] [[1], [2]] proof.path.reverse = some pair ∧ Collides pair) := by
  intro proof bound
  rcases bound (by decide) with there | ⟨pair, forged, -⟩
  · exact absurd there (by decide)
  · have none : @forgery plainRuntime [1] [[1], [2]] proof.path.reverse = none := by decide
    cases forged

theorem length_descend_le (depth : Nat) (subtree : List ByteString) (target : Nat) :
    (descend depth subtree target).length ≤ Nat.clog 2 subtree.length := by
  induction depth generalizing subtree target with
  | zero => exact Nat.zero_le _
  | succ depth ih =>
    rw [descend]
    split
    · exact Nat.zero_le _
    · rename_i several
      have lower : 2 ^ (subtree.length - 1).log2 ≤ subtree.length - 1 :=
        Nat.log2_self_le (by omega)
      have upper : subtree.length - 1 < 2 ^ ((subtree.length - 1).log2 + 1) :=
        Nat.lt_log2_self
      have deeper : (subtree.length - 1).log2 < Nat.clog 2 subtree.length :=
        (Nat.lt_clog_iff_pow_lt Nat.one_lt_two).mpr (by omega)
      have half : ∀ part : List ByteString, part.length ≤ 2 ^ (subtree.length - 1).log2 →
          ∀ target, (descend depth part target).length + 1 ≤ Nat.clog 2 subtree.length := by
        intro part short target
        have shallow := Nat.clog_le_of_le_pow short
        have within := ih part target
        omega
      dsimp only
      split
      · exact half _ (by rw [List.length_take]; exact Nat.min_le_left _ _) _
      · refine half _ ?_ _
        rw [List.length_drop, largestPowerOfTwoBelow]
        omega

theorem build_complete {index : Nat} (within : index < leaves.length) :
    ∃ proof, build leaves index = .ok proof ∧ proof.index = index ∧
      proof.treeSize = leaves.length ∧ proof.path.length ≤ Nat.clog 2 leaves.length ∧
      proof.verify leaves[index] (merkleRoot leaves) = true := by
  obtain ⟨proof, built, index_eq, size_eq, path_eq, verified⟩ :=
    exists_build (List.getElem?_eq_getElem within)
  refine ⟨proof, built, index_eq, size_eq, ?_, verified⟩
  have short := length_descend_le leaves.length (leaves.map leafHash) index
  rw [path_eq, inclusionPath, List.length_reverse]
  rwa [List.length_map] at short

omit [Runtime] in
theorem build_complete_last :
    letI := plainRuntime
    ∃ proof, build [[1], [2], [3]] 2 = .ok proof ∧ proof.index = 2 ∧ proof.treeSize = 3 ∧
      proof.path.length ≤ Nat.clog 2 3 ∧ proof.verify [3] (merkleRoot [[1], [2], [3]]) = true :=
  let _ := plainRuntime
  build_complete (by decide)

end Merkle

end GlassBox
