import GlassBox.Ports.Evidence

/-!
# Write-once anchors in memory

`InMemoryWormAnchorStore` of `adapters/outbound/worm.py`.  A dictionary keeps its entries in the
order of insertion; an anchor is stored under its own identifier.
-/

namespace GlassBox

open EStateM

structure InMemoryWormAnchorStore where
  anchors : List WormAnchor := []

namespace InMemoryWormAnchorStore

/-- `get`. -/
def find (store : InMemoryWormAnchorStore) (anchorId : Identifier) : Option WormAnchor :=
  store.anchors.find? (·.anchorId = anchorId)

/-- `put`: a different anchor under the same identifier is refused. -/
def put (anchor : WormAnchor) : EStateM PyError InMemoryWormAnchorStore String := do
  match (← get).find anchor.anchorId with
  | some existing =>
    if existing ≠ anchor then
      throw (.evidenceWrite
        "an anchor already exists under this id and differs; storage is write-once"
        [("anchor_id", .str anchor.anchorId.val)])
    else return "memory://" ++ anchor.anchorId.val
  | none =>
    modify fun store => { store with anchors := store.anchors ++ [anchor] }
    return "memory://" ++ anchor.anchorId.val

/-- The order of `(first_seq, sealed_at)`. -/
def Precedes (left right : WormAnchor) : Prop :=
  left.firstSeq < right.firstSeq ∨
    left.firstSeq = right.firstSeq ∧ left.sealedAt.val ≤ right.sealedAt.val

instance : DecidableRel Precedes := fun _ _ => inferInstanceAs (Decidable (_ ∨ _))

/-- The anchors of a segment, in order. -/
def listForSegment (store : InMemoryWormAnchorStore) (segmentId : String) : List WormAnchor :=
  (store.anchors.filter (·.segmentId.val = segmentId)).insertionSort Precedes

def port : WormAnchorStore InMemoryWormAnchorStore where
  put := put
  listForSegment := fun segmentId => EStateM.query fun store => .ok (store.listForSegment segmentId)

/-- `put` stores an anchor under an identifier which is still free, or changes nothing. -/
theorem put_effect (anchor : WormAnchor) (store : InMemoryWormAnchorStore) :
    (put anchor).after store = store ∨
    store.find anchor.anchorId = none ∧ (put anchor).after store = ⟨store.anchors ++ [anchor]⟩ := by
  refine after_of_ends (fun after => after = store ∨
    store.find anchor.anchorId = none ∧ after = ⟨store.anchors ++ [anchor]⟩) ?_
  simp only [put, ends_bind, ends_get]
  split
  · split
    · exact .inl rfl
    · exact .inl rfl
  · rename_i free
    exact .inr ⟨free, rfl⟩

variable {anchor : WormAnchor} {store : InMemoryWormAnchorStore}

theorem mem_of_put {after : InMemoryWormAnchorStore} {locator : String}
    (stored : put anchor store = .ok locator after) : anchor ∈ after.anchors := by
  have ends : (put anchor).Ends store (fun _ after => anchor ∈ after.anchors) fun _ _ => True := by
    simp only [put, ends_bind, ends_get]
    split
    · rename_i existing found
      split
      · trivial
      · rename_i same
        rw [not_not] at same
        exact same ▸ List.mem_of_find?_eq_some found
    · exact List.mem_concat_self
  exact (ends_of_ok stored).mp ends

theorem put_of_mem (distinct : (store.anchors.map WormAnchor.anchorId).Nodup)
    (member : anchor ∈ store.anchors) :
    put anchor store = .ok ("memory://" ++ anchor.anchorId.val) store := by
  have found : store.find anchor.anchorId = some anchor := by
    cases found : store.find anchor.anchorId with
    | none =>
      have unequal := List.find?_eq_none.mp found anchor member
      simp at unequal
    | some existing =>
      have same_id : existing.anchorId = anchor.anchorId := by
        simpa using List.find?_some found
      rw [List.inj_on_of_nodup_map distinct (List.mem_of_find?_eq_some found) member same_id]
  refine eq_ok_iff_ends.mpr ?_
  simp only [put, ends_bind, ends_get, found, ne_eq]
  exact ⟨rfl, rfl⟩

theorem mem_listForSegment {segmentId : String} :
    anchor ∈ store.listForSegment segmentId ↔
      anchor ∈ store.anchors ∧ anchor.segmentId.val = segmentId := by
  simp [listForSegment, List.mem_insertionSort]

end InMemoryWormAnchorStore

end GlassBox
