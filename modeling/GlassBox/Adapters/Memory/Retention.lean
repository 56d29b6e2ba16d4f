import GlassBox.Adapters.Memory.HonestRuns

/-!
# Retention in memory

What an append, a seal and a purge do to the two in-memory stores.  The leaves below a bound are a
prefix of the live rows, and a purge deletes exactly that prefix.
-/

namespace GlassBox

open EStateM

namespace InMemoryEvidenceStore

/-- Rows whose positions count up from `start`. -/
def Consecutive {ρ : Type} (start : Nat) (rows : List (Stored ρ)) : Prop :=
  ∀ (index : Nat) (row : Stored ρ), rows[index]? = some row → row.seq = (start : Int) + index

section Consecutive

variable {ρ : Type} {start : Nat} {rows : List (Stored ρ)} {row : Stored ρ}

theorem Consecutive.drop (consecutive : Consecutive start rows) (count : Nat) :
    Consecutive (start + count) (rows.drop count) := by
  intro index row found
  rw [List.getElem?_drop] at found
  rw [consecutive _ row found]
  push_cast
  ring

theorem Consecutive.tail (consecutive : Consecutive start (row :: rows)) :
    Consecutive (start + 1) rows := consecutive.drop 1

section

variable (consecutive : Consecutive start rows)
include consecutive

theorem Consecutive.concat
    (next : row.seq = start + rows.length) : Consecutive start (rows ++ [row]) := by
  intro index other found
  by_cases old : index < rows.length
  · rw [List.getElem?_append_left old] at found
    exact consecutive index other found
  · rw [List.getElem?_append_right (not_lt.mp old)] at found
    obtain ⟨at_end, rfl⟩ : index - rows.length = 0 ∧ row = other := by
      cases position : index - rows.length with
      | zero => simpa [position] using found
      | succ _ => simp [position] at found
    rw [next]
    congr 1
    omega

theorem Consecutive.le_of_mem (member : row ∈ rows) :
    (start : Int) ≤ row.seq := by
  obtain ⟨index, found⟩ := List.mem_iff_getElem?.mp member
  rw [consecutive index row found]
  omega

theorem Consecutive.filter_lt (bound : Int) :
    ∃ count ≤ rows.length, rows.filter (fun row => row.seq < bound) = rows.take count := by
  induction rows generalizing start with
  | nil => exact ⟨0, le_refl _, rfl⟩
  | cons row rows ih =>
    by_cases below : row.seq < bound
    · obtain ⟨count, within, filtered⟩ := ih consecutive.tail
      refine ⟨count + 1, Nat.succ_le_succ within, ?_⟩
      simp [below, filtered]
    · refine ⟨0, Nat.zero_le _, ?_⟩
      rw [List.take_zero, List.filter_eq_nil_iff]
      intro other member
      have first : row.seq = start := by simpa using consecutive 0 row rfl
      have later : (start : Int) ≤ other.seq := consecutive.le_of_mem member
      simp only [decide_eq_true_eq, not_lt]
      omega

theorem Consecutive.pairwise :
    rows.Pairwise fun left right => left.seq ≤ right.seq := by
  induction rows generalizing start with
  | nil => exact .nil
  | cons row rows ih =>
    refine .cons (fun other member => ?_) (ih consecutive.tail)
    have first : row.seq = start := by simpa using consecutive 0 row rfl
    have later := consecutive.tail.le_of_mem member
    omega

end

end Consecutive

structure Appended (record : IntentRecord) (before after : InMemoryEvidenceStore) : Prop where
  purged_eq : after.purged = before.purged
  wormAnchors_eq : after.wormAnchors = before.wormAnchors
  exists_segment : ∀ segmentId, (before.segments segmentId).isSome →
    (after.segments segmentId).isSome
  tenant_eq : ∀ segmentId tenantId, before.tenants segmentId = some tenantId →
    after.tenants segmentId = some tenantId
  openedAt_eq : ∀ segmentId openedAt, before.openedAt segmentId = some openedAt →
    after.openedAt segmentId = some openedAt
  opened : ∀ segmentId, (after.segments segmentId).isSome →
    (before.segments segmentId).isSome ∨ (after.tenants segmentId).isSome
  /-- At most one row is added, behind the others of its segment. -/
  rows_eq : after.rows = before.rows ∨
    before.receipts record.decisionId.val = none ∧
    ∃ row : StoredRecord, row.record = record ∧
      row.seq = before.nextSeq record.segmentId.val ∧
      after.rows = Function.update before.rows record.segmentId.val
        (before.rows record.segmentId.val ++ [row])

theorem setDefault_of_some {α : Type} {entries : String → Option α} {key other : String}
    {value present : α} (found : entries other = some present) :
    setDefault entries key value other = some present := by
  by_cases same : other = key
  · subst same
    simp [setDefault, found]
  · simp [setDefault, same, found]

theorem appended_openSegment (record : IntentRecord) (store : InMemoryEvidenceStore) :
    Appended record store (openSegment record store) where
  purged_eq := rfl
  wormAnchors_eq := rfl
  exists_segment := by
    intro segmentId found
    obtain ⟨rows, rows_eq⟩ := Option.isSome_iff_exists.mp found
    exact Option.isSome_iff_exists.mpr ⟨rows, setDefault_of_some rows_eq⟩
  tenant_eq := fun _ _ found => setDefault_of_some found
  openedAt_eq := fun _ _ found => setDefault_of_some found
  opened := by
    intro segmentId found
    by_cases same : segmentId = record.segmentId.val
    · exact .inr (by simp [openSegment, setDefault, same])
    · exact .inl (by simpa [openSegment, setDefault, same] using found)
  rows_eq := .inl (rows_openSegment record store)

variable {store : InMemoryEvidenceStore} {rows : List StoredRecord} {leaves : List SegmentLeaf}
  {segmentId : String} {beforeSeq : Int}

section Methods

variable [Runtime] {κ : Type} (signer : MacSigner κ)

/-- An append adds at most one row, behind all others of its segment. -/
theorem appendIntent_appended (record : IntentRecord) (state : Signed κ InMemoryEvidenceStore) :
    Appended record state.store ((appendIntent signer record).after state).store := by
  refine appendIntent_invariant signer (Appended record state.store) record
    ⟨rfl, rfl, fun _ => id, fun _ _ => id, fun _ _ => id, fun _ => .inl, .inl rfl⟩
    (appended_openSegment record state.store) ?_ ?_
  · intro fresh row made
    refine ⟨rfl, rfl, ?_, fun _ _ found => setDefault_of_some found,
      fun _ _ found => setDefault_of_some found, ?_, ?_⟩
    · intro segmentId found
      have opened := (appended_openSegment record state.store).exists_segment segmentId found
      by_cases same : segmentId = row.record.segmentId.val
      · simp [pushRecord, same]
      · simpa [pushRecord, same] using opened
    · intro segmentId found
      by_cases same : segmentId = record.segmentId.val
      · exact .inr (by simp [pushRecord, openSegment, setDefault, same])
      · refine .inl ?_
        simpa [pushRecord, openSegment, setDefault, made.record_eq, same] using found
    · refine .inr ⟨fresh, row, made.record_eq, made.seq_eq, ?_⟩
      rw [rows_pushRecord, rows_openSegment, made.record_eq]
  · intro receipt store appended
    exact ⟨appended.purged_eq, appended.wormAnchors_eq, appended.exists_segment,
      appended.tenant_eq, appended.openedAt_eq, appended.opened, appended.rows_eq⟩

end Methods

theorem leaves_of_mapM
    (made : (rows.mapM fun row => SegmentLeaf.make row.seq row.recordHmac) = .ok leaves) :
    (leaves.map fun leaf => (leaf.seq : Int)) = rows.map Stored.seq ∧
    (leaves.map fun leaf => leaf.recordHmac.val) = rows.map Stored.recordHmac := by
  induction rows generalizing leaves with
  | nil =>
    cases made
    exact ⟨rfl, rfl⟩
  | cons row rows ih =>
    rw [List.mapM_cons] at made
    obtain ⟨leaf, leaf_made, made⟩ := Except.bind_eq_ok_iff.mp made
    obtain ⟨rest, rest_made, made⟩ := Except.bind_eq_ok_iff.mp made
    cases made
    obtain ⟨seqs, codes⟩ := ih rest_made
    have seq_eq := SegmentLeaf.seq_of_make leaf_made
    have code_eq := SegmentLeaf.recordHmac_of_make leaf_made
    simp [seqs, codes, seq_eq, code_eq]

/-- The leaves below a bound are those of a prefix of the live rows. -/
theorem segmentLeaves_eq_take
    (consecutive : Consecutive (store.purged segmentId) (store.rows segmentId))
    {beforeSeq : Option Int} (read : segmentLeaves store segmentId beforeSeq = .ok leaves) :
    leaves.length ≤ (store.rows segmentId).length ∧
    (leaves.map fun leaf => (leaf.seq : Int)) =
      ((store.rows segmentId).take leaves.length).map Stored.seq ∧
    (leaves.map fun leaf => leaf.recordHmac.val) =
      ((store.rows segmentId).take leaves.length).map Stored.recordHmac := by
  have sorted : (store.rows segmentId).insertionSort (fun left right => left.seq ≤ right.seq) =
      store.rows segmentId := List.Pairwise.insertionSort_eq consecutive.pairwise
  have filtered : ∃ count ≤ (store.rows segmentId).length,
      (store.rows segmentId).filter (fun row => beforeSeq.all (row.seq < ·)) =
        (store.rows segmentId).take count := by
    cases beforeSeq with
    | none => exact ⟨_, le_refl _, by simp⟩
    | some bound => simpa using consecutive.filter_lt bound
  obtain ⟨count, within, filtered⟩ := filtered
  simp only [segmentLeaves, sorted, filtered] at read
  obtain ⟨seqs, codes⟩ := leaves_of_mapM read
  have length_eq : leaves.length = count := by
    have lengths := congrArg List.length codes
    simpa [within] using lengths
  subst length_eq
  exact ⟨within, seqs, codes⟩

theorem segmentLeaves_of_append {before after : InMemoryEvidenceStore} {start : Nat}
    {added : List StoredRecord} (consecutive : Consecutive start (after.rows segmentId))
    (rows_eq : after.rows segmentId = before.rows segmentId ++ added)
    (above : ∀ row ∈ added, beforeSeq ≤ row.seq) :
    segmentLeaves after segmentId (some beforeSeq) =
      segmentLeaves before segmentId (some beforeSeq) := by
  have ordered := consecutive.pairwise
  rw [rows_eq] at ordered
  have ordered_before : (before.rows segmentId).Pairwise fun left right =>
      left.seq ≤ right.seq := (List.pairwise_append.mp ordered).1
  have none_added : added.filter (fun row => decide (row.seq < beforeSeq)) = [] := by
    rw [List.filter_eq_nil_iff]
    intro row member
    simpa using above row member
  simp only [segmentLeaves, rows_eq, ordered.insertionSort_eq, ordered_before.insertionSort_eq,
    Option.all_some, List.filter_append, none_added, List.append_nil]

theorem segmentState_spec {state : EvidenceSegment}
    (read : segmentState store segmentId = .ok (some state)) :
    (store.segments segmentId).isSome ∧
      state.tenantId = (store.tenants segmentId).getD unknownTenant ∧
      state.openedAt = store.openedAtOrOne segmentId ∧
      state.firstSeq = store.purged segmentId ∧
      state.sealing = (store.wormAnchors segmentId).map fun entry => sealOfAnchor entry.1 := by
  unfold segmentState at read
  split at read
  · cases read
  · rename_i present
    obtain ⟨identifier, -, read⟩ := Except.bind_eq_ok_iff.mp read
    obtain ⟨segment, made, read⟩ := Except.bind_eq_ok_iff.mp read
    cases read
    obtain ⟨tenant_eq, opened_eq, first_eq, sealing_eq⟩ := EvidenceSegment.of_make made
    exact ⟨by simpa [Option.isSome_iff_ne_none] using present, tenant_eq, opened_eq, first_eq,
      sealing_eq⟩

theorem segments_of_segmentState (read : segmentState store segmentId = .ok none) :
    store.segments segmentId = none := by
  unfold segmentState at read
  split at read
  · rename_i missing
    simpa using missing
  · obtain ⟨_, -, read⟩ := Except.bind_eq_ok_iff.mp read
    obtain ⟨_, -, read⟩ := Except.bind_eq_ok_iff.mp read
    cases read

/-- The loop stops at the first row which is not below the bound. -/
theorem purgeLoop_bounds {keepFrom count : Nat} {anchor : Option ByteString}
    {code : Option ByteString}
    (ends : purgeLoop beforeSeq keepFrom anchor rows = (keepFrom + count, code)) :
    (∀ row ∈ rows.take count, row.seq < beforeSeq) ∧
    ∀ row ∈ (rows.drop count).head?, beforeSeq ≤ row.seq := by
  induction rows generalizing keepFrom anchor count with
  | nil => simp
  | cons row rows ih =>
    simp only [purgeLoop] at ends
    split at ends
    · rename_i stops
      have count_eq : count = 0 := by
        have := (Prod.mk.injEq ..).mp ends
        omega
      subst count_eq
      simpa using stops
    · rename_i below
      obtain ⟨dropped, within, count_eq, -⟩ := purgeLoop_spec ends
      obtain ⟨rest, rfl⟩ : ∃ rest, count = rest + 1 := ⟨dropped, by omega⟩
      have shifted : keepFrom + (rest + 1) = keepFrom + 1 + rest := by omega
      rw [shifted] at ends
      obtain ⟨gone, kept⟩ := ih ends
      refine ⟨?_, by simpa using kept⟩
      rw [List.take_succ_cons, List.forall_mem_cons]
      exact ⟨not_le.mp below, gone⟩

/-- A purge does nothing, or deletes the rows below its bound behind a seal which ends there. -/
theorem purgeBefore_effect (segmentId : String) (beforeSeq : Int) (store : InMemoryEvidenceStore) :
    (purgeBefore segmentId beforeSeq).after store = store ∨
    ∃ count code, 0 < count ∧ count ≤ (store.rows segmentId).length ∧
      (∀ row ∈ (store.rows segmentId).take count, row.seq < beforeSeq) ∧
      (∀ row ∈ ((store.rows segmentId).drop count).head?, beforeSeq ≤ row.seq) ∧
      (purgeBefore segmentId beforeSeq).after store = dropPurged segmentId count code store := by
  refine after_of_ends (fun after => after = store ∨
    ∃ count code, 0 < count ∧ count ≤ (store.rows segmentId).length ∧
      (∀ row ∈ (store.rows segmentId).take count, row.seq < beforeSeq) ∧
      (∀ row ∈ ((store.rows segmentId).drop count).head?, beforeSeq ≤ row.seq) ∧
      after = dropPurged segmentId count code store) ?_
  simp only [purgeBefore, ends_bind, ends_get]
  split
  · split
    · simp only [sealAndPurge, ends_bind, ends_get]
      split
      · exact .inl rfl
      · rename_i count code ends
        obtain ⟨dropped, within, count_eq, code_eq⟩ := purgeLoop_spec ends
        rw [Nat.zero_add] at count_eq
        subst count_eq
        have positive : 0 < count := by
          rcases Nat.eq_zero_or_pos count with rfl | positive
          · simp at code_eq
          · exact positive
        rw [← Nat.zero_add count] at ends
        obtain ⟨gone, kept⟩ := purgeLoop_bounds ends
        exact .inr ⟨count, code, positive, within, gone, kept, rfl⟩
    · exact .inl rfl
  · exact .inl rfl

theorem ends_purgeBefore (segmentId : String) (beforeSeq : Int) (store : InMemoryEvidenceStore) :
    (purgeBefore segmentId beforeSeq).Ends store
      (fun _ after => ∀ row ∈ (after.rows segmentId).head?, beforeSeq ≤ row.seq)
      (fun _ _ => True) := by
  simp only [purgeBefore, ends_bind, ends_get]
  split
  · split
    · simp only [sealAndPurge, ends_bind, ends_get]
      split
      · rename_i count ends
        obtain ⟨dropped, within, count_eq, code_eq⟩ := purgeLoop_spec ends
        have none_dropped : dropped = 0 ∨ store.rows segmentId = [] := by
          simpa [List.take_eq_nil_iff] using code_eq.symm
        rw [count_eq] at ends
        obtain ⟨-, kept⟩ := purgeLoop_bounds ends
        rcases none_dropped with rfl | empty
        · exact kept
        · simp [empty]
      · rename_i count code ends
        obtain ⟨dropped, -, count_eq, -⟩ := purgeLoop_spec ends
        rw [Nat.zero_add] at count_eq
        rw [← Nat.zero_add count] at ends
        obtain ⟨-, kept⟩ := purgeLoop_bounds ends
        have rest : ∀ row ∈ ((dropPurged segmentId count code store).rows segmentId).head?,
            beforeSeq ≤ row.seq := by
          rw [rows_dropPurged, Function.update_self]
          exact kept
        exact rest
    · trivial
  · trivial

section Seals

abbrev MemorySealing (κ : Type) := Sealing κ InMemoryEvidenceStore InMemoryWormAnchorStore

variable [Runtime] {κ : Type} (signer : MacSigner κ)

def memorySealer : SegmentSealer κ InMemoryEvidenceStore InMemoryWormAnchorStore :=
  sealer signer InMemoryWormAnchorStore.port

/-- What a seal may do to the two stores: the rows stay, and at most one anchor is added. -/
structure SealedOver (segmentId : String) (beforeSeq : Int) (now : ℚ)
    (before after : Sealing κ InMemoryEvidenceStore InMemoryWormAnchorStore) : Prop where
  segments_eq : after.evidence.store.segments = before.evidence.store.segments
  purged_eq : after.evidence.store.purged = before.evidence.store.purged
  tenants_eq : after.evidence.store.tenants = before.evidence.store.tenants
  openedAt_eq : after.evidence.store.openedAt = before.evidence.store.openedAt
  /-- Only the sealed segment is marked, with an anchor which is stored. -/
  wormAnchors_eq : after.evidence.store.wormAnchors = before.evidence.store.wormAnchors ∨
    ∃ anchor locator, anchor ∈ after.anchors.anchors ∧
      after.evidence.store.wormAnchors =
        Function.update before.evidence.store.wormAnchors segmentId (some (anchor, locator))
  anchors_eq : after.anchors.anchors = before.anchors.anchors ∨
    ∃ state first leaves anchor,
      segmentState before.evidence.store segmentId = .ok (some state) ∧
      segmentLeaves before.evidence.store segmentId (some beforeSeq) = .ok (first :: leaves) ∧
      (memorySealer signer).AnchorsLeaves segmentId state.tenantId first leaves now anchor ∧
      before.anchors.find anchor.anchorId = none ∧
      after.anchors.anchors = before.anchors.anchors ++ [anchor]

def withSeal (segmentId : String) (anchor : WormAnchor) (locator : String)
    (store : InMemoryEvidenceStore) : InMemoryEvidenceStore :=
  { store with
    wormAnchors := Function.update store.wormAnchors segmentId (some (anchor, locator)) }

omit [Runtime] in
theorem markSealed_effect (segmentId : String) (anchor : WormAnchor) (locator : String)
    (store : InMemoryEvidenceStore) :
    (markSealed segmentId anchor locator).after store = store ∨
    (markSealed segmentId anchor locator).after store =
      withSeal segmentId anchor locator store := by
  refine after_of_ends
    (fun after => after = store ∨ after = withSeal segmentId anchor locator store) ?_
  simp only [markSealed, ends_bind, ends_get]
  split
  · exact .inl rfl
  · exact .inr rfl

/-- A seal, stopped after any step or not at all. -/
theorem sealSegmentUntil_sealedOver (stop : Option SegmentSealer.SealStop) (segmentId : String)
    (beforeSeq : Int) (now : ℚ) (world : MemorySealing κ) :
    SealedOver signer segmentId beforeSeq now world
      (((memorySealer signer).sealSegmentUntil stop segmentId beforeSeq now).after world) := by
  rcases (memorySealer signer).sealSegmentUntil_effect retention_reads stop segmentId beforeSeq now
    world with unchanged | ⟨state, first, leaves, state_eq, leaves_eq, effect⟩
  · rw [unchanged]
    exact ⟨rfl, rfl, rfl, rfl, .inl rfl, .inl rfl⟩
  · have added : ∀ {anchor : WormAnchor},
        (memorySealer signer).AnchorsLeaves segmentId state.tenantId first leaves now anchor →
        ((InMemoryWormAnchorStore.put anchor).after world.anchors).anchors = world.anchors.anchors ∨
        ∃ state first leaves anchor',
          segmentState world.evidence.store segmentId = .ok (some state) ∧
          segmentLeaves world.evidence.store segmentId (some beforeSeq) = .ok (first :: leaves) ∧
          (memorySealer signer).AnchorsLeaves segmentId state.tenantId first leaves now anchor' ∧
          world.anchors.find anchor'.anchorId = none ∧
          ((InMemoryWormAnchorStore.put anchor).after world.anchors).anchors =
            world.anchors.anchors ++ [anchor'] := by
      intro anchor anchors
      rcases InMemoryWormAnchorStore.put_effect anchor world.anchors with same | ⟨free, stored⟩
      · exact .inl (congrArg _ same)
      · exact .inr ⟨state, first, leaves, anchor, state_eq, leaves_eq, anchors, free,
          congrArg _ stored⟩
    generalize ((memorySealer signer).sealSegmentUntil stop segmentId beforeSeq now).after world =
      after at effect ⊢
    cases effect with
    | nothing => exact ⟨rfl, rfl, rfl, rfl, .inl rfl, .inl rfl⟩
    | anchored anchors => exact ⟨rfl, rfl, rfl, rfl, .inl rfl, added anchors⟩
    | @marked _ anchor locator stored anchors put =>
      have member : anchor ∈ stored.anchors := InMemoryWormAnchorStore.mem_of_put put
      have listed := added anchors
      have stored_eq : (InMemoryWormAnchorStore.put anchor).after world.anchors = stored :=
        after_of_ok put
      rw [stored_eq] at listed
      simp only [memorySealer, sealer, retention]
      rcases markSealed_effect segmentId anchor locator world.evidence.store with same | marked
      · rw [same]
        exact ⟨rfl, rfl, rfl, rfl, .inl rfl, listed⟩
      · rw [marked]
        exact ⟨rfl, rfl, rfl, rfl, .inr ⟨anchor, locator, member, rfl⟩, listed⟩

theorem purge_deletes (segmentId : String) (beforeSeq : Int) (world : MemorySealing κ) :
    ((memorySealer signer).purge segmentId beforeSeq).after world = world ∨
    ∃ cover ∈ world.anchors.anchors, cover.segmentId.val = segmentId ∧
      (cover.lastSeq : Int) = beforeSeq - 1 ∧
      ∃ count code, 0 < count ∧ count ≤ (world.evidence.store.rows segmentId).length ∧
        (∀ row ∈ (world.evidence.store.rows segmentId).take count, row.seq < beforeSeq) ∧
        (∀ row ∈ ((world.evidence.store.rows segmentId).drop count).head?,
          beforeSeq ≤ row.seq) ∧
        ((memorySealer signer).purge segmentId beforeSeq).after world =
          ⟨⟨world.evidence.signer, dropPurged segmentId count code world.evidence.store⟩,
            world.anchors⟩ := by
  rcases (memorySealer signer).purge_effect (fun _ => rfl) segmentId beforeSeq world
    with same | ⟨cover, listed, last_eq, -, moved⟩
  · exact .inl same
  · obtain ⟨member, segment_eq⟩ := InMemoryWormAnchorStore.mem_listForSegment.mp listed
    simp only [memorySealer, sealer, retention] at moved
    rcases purgeBefore_effect segmentId beforeSeq world.evidence.store
      with kept | ⟨count, code, positive, within, below, rest, dropped⟩
    · rw [kept] at moved
      exact .inl moved
    · rw [dropped] at moved
      exact .inr ⟨cover, member, segment_eq, last_eq, count, code, positive, within, below, rest,
        moved⟩

/-- After a purge which returned, what is live lies behind the bound. -/
theorem head_of_purge {beforeSeq : Int} {world after : MemorySealing κ} {result : PurgeResult}
    (returned : (memorySealer signer).purge segmentId beforeSeq world = .ok result after) :
    ∀ row ∈ (after.evidence.store.rows segmentId).head?, beforeSeq ≤ row.seq := by
  have ends : ((memorySealer signer).purge segmentId beforeSeq).Ends world
      (fun _ after => ∀ row ∈ (after.evidence.store.rows segmentId).head?, beforeSeq ≤ row.seq)
      (fun _ _ => True) := by
    simp only [SegmentSealer.purge, SegmentSealer.coveringAnchor, ends_bind,
      ends_get, ends_ofExcept]
    refine ends_of_forall (fun anchors state => ?_) fun _ _ => trivial
    split
    · split
      · trivial
      · simp only [memorySealer, sealer, retention, Sealing.onStore, Sealing.onEvidence,
          ends_bind, ends_zoom, ends_pure]
        exact ends_purgeBefore segmentId beforeSeq state.evidence.store
    · trivial
  exact (ends_of_ok returned).mp ends

end Seals

end InMemoryEvidenceStore

end GlassBox
