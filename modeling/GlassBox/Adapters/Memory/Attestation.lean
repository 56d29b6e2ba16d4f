import GlassBox.Adapters.Memory.Retention
import GlassBox.Domain.MerkleBinding

/-!
# Nothing is purged before it is attested

Runs of `append_intent`, `seal` and `purge` over the in-memory stores, in which a seal may stop
after any of its steps.  A row which is no longer live is covered by a stored anchor.
-/

namespace GlassBox

namespace InMemoryEvidenceStore

/-- An operation of a run: a seal may stop after any of its steps. -/
inductive RetentionStep
  | appendIntent (record : IntentRecord)
  | sealSegment (stop : Option SegmentSealer.SealStop) (segmentId : String) (beforeSeq : Int)
      (now : ℚ)
  | purge (segmentId : String) (beforeSeq : Int)

/-- The two stores, and every row ever appended. -/
structure Archive (κ : Type) where
  world : Sealing κ InMemoryEvidenceStore InMemoryWormAnchorStore
  history : String → List StoredRecord := fun _ => []

namespace Archive

variable {κ : Type}

def live (archive : Archive κ) (segmentId : String) : List StoredRecord :=
  archive.world.evidence.store.rows segmentId

/-- How many rows of a segment were purged. -/
def purged (archive : Archive κ) (segmentId : String) : Nat :=
  archive.world.evidence.store.purged segmentId

def anchors (archive : Archive κ) : List WormAnchor := archive.world.anchors.anchors

/-- The stores moved on; what is behind the rows of before is new. -/
def moveTo (archive : Archive κ)
    (after : Sealing κ InMemoryEvidenceStore InMemoryWormAnchorStore) : Archive κ where
  world := after
  history := fun segmentId => archive.history segmentId ++
    (after.evidence.store.rows segmentId).drop (archive.live segmentId).length

end Archive

def coveredRows (history : List StoredRecord) (anchor : WormAnchor) : List StoredRecord :=
  (history.drop anchor.firstSeq).take (anchor.lastSeq - anchor.firstSeq + 1)

section Runs

variable [Runtime] {κ : Type} (signer : MacSigner κ)

/-- What an operation does to the two stores, whether it returns or raises. -/
def RetentionStep.run : RetentionStep → Sealing κ InMemoryEvidenceStore InMemoryWormAnchorStore →
    Sealing κ InMemoryEvidenceStore InMemoryWormAnchorStore
  | .appendIntent record =>
    (Sealing.onEvidence (InMemoryEvidenceStore.appendIntent signer record)).after
  | .sealSegment stop segmentId beforeSeq now =>
    ((memorySealer signer).sealSegmentUntil stop segmentId beforeSeq now).after
  | .purge segmentId beforeSeq => ((memorySealer signer).purge segmentId beforeSeq).after

/-- An operation, with the rows it appended. -/
def RetentionStep.step (operation : RetentionStep) (archive : Archive κ) : Archive κ :=
  archive.moveTo (operation.run signer archive.world)

structure Attests (history : String → List StoredRecord) (anchor : WormAnchor) : Prop where
  within : anchor.lastSeq < (history anchor.segmentId.val).length
  root_eq : anchor.merkleRoot.val = merkleRoot
    ((coveredRows (history anchor.segmentId.val) anchor).map Stored.recordHmac)
  signed : ∃ payload, anchor.signingPayload = .ok payload ∧
    signer.Produced payload anchor.rootSignature.val anchor.signerKeyId.val

structure Attested (archive : Archive κ) : Prop where
  positions : ∀ segmentId, Consecutive 0 (archive.history segmentId)
  live_eq : ∀ segmentId,
    archive.live segmentId = (archive.history segmentId).drop (archive.purged segmentId)
  purged_le : ∀ segmentId, archive.purged segmentId ≤ (archive.history segmentId).length
  attests : ∀ anchor ∈ archive.anchors, Attests signer archive.history anchor
  /-- An anchor starts where the purged rows ended when it was made. -/
  starts : ∀ anchor ∈ archive.anchors, anchor.firstSeq ≤ archive.purged anchor.segmentId.val
  covered : ∀ segmentId position, position < archive.purged segmentId →
    ∃ anchor ∈ archive.anchors, anchor.segmentId.val = segmentId ∧
      anchor.firstSeq ≤ position ∧ position ≤ anchor.lastSeq

variable {signer} {archive : Archive κ} {anchor : WormAnchor} {history : String → List StoredRecord}
  {after : MemorySealing κ} {segmentId : String} {beforeSeq : Int} {now : ℚ}

theorem attested_empty (start : κ) : Attested signer ⟨⟨⟨start, {}⟩, {}⟩, fun _ => []⟩ where
  positions := by
    intro _ index row found
    simp at found
  live_eq := fun _ => rfl
  purged_le := fun _ => le_refl _
  attests := by simp [Archive.anchors]
  starts := by simp [Archive.anchors]
  covered := by simp [Archive.purged]

theorem Attested.consecutive (attested : Attested signer archive) (segmentId : String) :
    Consecutive (archive.purged segmentId) (archive.live segmentId) := by
  rw [attested.live_eq]
  simpa using (attested.positions segmentId).drop (archive.purged segmentId)

omit [Runtime] in
theorem coveredRows_append {history added : List StoredRecord}
    (within : anchor.lastSeq < history.length) :
    coveredRows (history ++ added) anchor = coveredRows history anchor := by
  have ordered := anchor.first_le_last
  unfold coveredRows
  rw [List.drop_append_of_le_length (by omega), List.take_append_of_le_length]
  rw [List.length_drop]
  omega

theorem Attests.append (attests : Attests signer history anchor)
    (added : String → List StoredRecord) :
    Attests signer (fun segmentId => history segmentId ++ added segmentId) anchor where
  within := by
    rw [List.length_append]
    exact Nat.lt_add_right _ attests.within
  root_eq := by
    rw [coveredRows_append attests.within]
    exact attests.root_eq
  signed := attests.signed

section

variable (attested : Attested signer archive)
include attested

theorem Attested.extend {added : String → List StoredRecord} (rows_eq : ∀ segmentId,
      after.evidence.store.rows segmentId = archive.live segmentId ++ added segmentId)
    (purged_eq : after.evidence.store.purged = archive.purged)
    (anchors_eq : after.anchors.anchors = archive.anchors)
    (positions : ∀ segmentId, Consecutive 0 (archive.history segmentId ++ added segmentId)) :
    Attested signer (archive.moveTo after) := by
  have history_eq : (archive.moveTo after).history =
      fun segmentId => archive.history segmentId ++ added segmentId := by
    funext segmentId
    simp only [Archive.moveTo, rows_eq, List.drop_left]
  have kept : (archive.moveTo after).purged = archive.purged := purged_eq
  have stored : (archive.moveTo after).anchors = archive.anchors := anchors_eq
  refine ⟨?_, ?_, ?_, ?_, ?_, ?_⟩
  · rw [history_eq]
    exact positions
  · intro segmentId
    rw [history_eq, kept, List.drop_append_of_le_length (attested.purged_le segmentId),
      ← attested.live_eq]
    exact rows_eq segmentId
  · intro segmentId
    rw [history_eq, kept, List.length_append]
    exact Nat.le_add_right_of_le (attested.purged_le segmentId)
  · rw [history_eq, stored]
    exact fun anchor member => (attested.attests anchor member).append added
  · rw [stored, kept]
    exact attested.starts
  · rw [stored, kept]
    exact attested.covered

theorem Attested.unchanged
    (rows_eq : ∀ segmentId, after.evidence.store.rows segmentId = archive.live segmentId)
    (purged_eq : after.evidence.store.purged = archive.purged)
    (anchors_eq : after.anchors.anchors = archive.anchors) :
    Attested signer (archive.moveTo after) := by
  have nothing : ∀ segmentId, after.evidence.store.rows segmentId =
      archive.live segmentId ++ (fun _ => [] : String → List StoredRecord) segmentId := by
    simpa using rows_eq
  refine attested.extend nothing purged_eq anchors_eq ?_
  simpa using attested.positions

theorem Attested.append {record : IntentRecord}
    (appended : Appended record archive.world.evidence.store after.evidence.store)
    (anchors_eq : after.anchors = archive.world.anchors) :
    Attested signer (archive.moveTo after) := by
  have anchors_eq : after.anchors.anchors = archive.anchors := by rw [anchors_eq]; rfl
  rcases appended.rows_eq with same | ⟨-, row, -, seq_eq, pushed⟩
  · exact attested.unchanged (congrFun same) appended.purged_eq anchors_eq
  · let added : String → List StoredRecord :=
      Function.update (fun _ => []) record.segmentId.val [row]
    have rows_eq : ∀ segmentId, after.evidence.store.rows segmentId =
        archive.live segmentId ++ added segmentId := by
      intro segmentId
      rw [pushed]
      by_cases same : segmentId = record.segmentId.val
      · subst same
        simp [added, Archive.live]
      · simp [added, same, Archive.live]
    refine attested.extend rows_eq appended.purged_eq anchors_eq ?_
    intro segmentId
    by_cases same : segmentId = record.segmentId.val
    · subst same
      have length_eq := congrArg List.length (attested.live_eq record.segmentId.val)
      have within := attested.purged_le record.segmentId.val
      simp only [added, Function.update_self]
      refine (attested.positions _).concat ?_
      rw [List.length_drop] at length_eq
      rw [seq_eq, nextSeq]
      simp only [Archive.live, Archive.purged] at length_eq within
      omega
    · simpa [added, same] using attested.positions segmentId

/-- A new anchor attests a prefix of the live rows. -/
theorem Attested.attests_leaves {tenantId : Identifier}
    {first : SegmentLeaf} {leaves : List SegmentLeaf}
    (read : segmentLeaves archive.world.evidence.store segmentId (some beforeSeq) =
      .ok (first :: leaves))
    (anchored : (memorySealer signer).AnchorsLeaves segmentId tenantId first leaves now anchor) :
    anchor.segmentId.val = segmentId ∧ anchor.firstSeq = archive.purged segmentId ∧
      Attests signer archive.history anchor := by
  obtain ⟨-, segment_eq, -, root_eq, -, first_eq, last_eq, -⟩ :=
    WormAnchor.make_eq_ok_iff.mp anchored.built
  obtain ⟨within, seqs, codes⟩ := segmentLeaves_eq_take (attested.consecutive segmentId) read
  have live_length := congrArg List.length (attested.live_eq segmentId)
  rw [List.length_drop] at live_length
  have starts : first.seq = archive.purged segmentId := by
    rw [List.length_cons] at within seqs
    obtain ⟨row, rows, live_eq⟩ := List.exists_cons_of_length_pos (Nat.zero_lt_of_lt within)
    rw [live_eq, List.take_succ_cons, List.map_cons, List.map_cons, List.cons.injEq] at seqs
    have position := attested.consecutive segmentId 0 row (by simp [Archive.live, live_eq])
    rw [← seqs.1] at position
    exact_mod_cast position
  rw [SegmentSealer.last_of_contiguous anchored.contiguous] at last_eq
  refine ⟨segment_eq, first_eq.trans starts, ?_, ?_, anchored.signed⟩
  · rw [segment_eq, last_eq, starts]
    simp only [Archive.live, List.length_cons] at within live_length
    omega
  · have size_eq : anchor.lastSeq - anchor.firstSeq + 1 = (first :: leaves).length := by
      rw [List.length_cons]
      omega
    rw [segment_eq, coveredRows, size_eq, first_eq, starts, ← attested.live_eq, root_eq, codes]
    rfl

theorem Attested.seal (sealed : SealedOver signer segmentId beforeSeq now archive.world after) :
    Attested signer (archive.moveTo after) := by
  have rows_eq : ∀ segmentId, after.evidence.store.rows segmentId = archive.live segmentId := by
    intro segmentId
    simp only [rows, Archive.live, sealed.segments_eq]
  rcases sealed.anchors_eq with same | ⟨state, first, leaves, anchor, -, read, anchored, -, stored⟩
  · exact attested.unchanged rows_eq sealed.purged_eq same
  · have history_eq : (archive.moveTo after).history = archive.history := by
      funext other
      simp only [Archive.moveTo, rows_eq, List.drop_length, List.append_nil]
    have kept : (archive.moveTo after).purged = archive.purged := sealed.purged_eq
    have listed : (archive.moveTo after).anchors = archive.anchors ++ [anchor] := stored
    obtain ⟨segment_eq, first_eq, attests⟩ := attested.attests_leaves read anchored
    refine ⟨?_, ?_, ?_, ?_, ?_, ?_⟩
    · rw [history_eq]
      exact attested.positions
    · intro other
      rw [history_eq, kept, ← attested.live_eq]
      exact rows_eq other
    · rw [history_eq, kept]
      exact attested.purged_le
    · rw [history_eq, listed]
      exact List.forall_mem_append.mpr ⟨attested.attests, List.forall_mem_singleton.mpr attests⟩
    · rw [kept, listed]
      refine List.forall_mem_append.mpr ⟨attested.starts, List.forall_mem_singleton.mpr ?_⟩
      rw [segment_eq, first_eq]
    · rw [kept, listed]
      intro other position below
      obtain ⟨cover, member, covers⟩ := attested.covered other position below
      exact ⟨cover, List.mem_append_left _ member, covers⟩

theorem Attested.purge {cover : WormAnchor}
    (member : cover ∈ archive.anchors) (segment_eq : cover.segmentId.val = segmentId)
    (last_eq : (cover.lastSeq : Int) = beforeSeq - 1) {count : Nat} {code : ByteString}
    (within : count ≤ (archive.live segmentId).length)
    (below : ∀ row ∈ (archive.live segmentId).take count, row.seq < beforeSeq) (state : κ) :
    Attested signer (archive.moveTo
      ⟨⟨state, dropPurged segmentId count code archive.world.evidence.store⟩,
        archive.world.anchors⟩) := by
  set moved := archive.moveTo
    ⟨⟨state, dropPurged segmentId count code archive.world.evidence.store⟩,
      archive.world.anchors⟩ with moved_eq
  have live_eq : moved.live = Function.update archive.live segmentId
      ((archive.live segmentId).drop count) := by
    exact rows_dropPurged segmentId count code archive.world.evidence.store
  have history_eq : moved.history = archive.history := by
    funext other
    have shorter : (moved.live other).length ≤ (archive.live other).length := by
      rw [live_eq]
      by_cases same : other = segmentId
      · subst same
        simp
      · simp [same]
    exact (congrArg _ (List.drop_eq_nil_of_le shorter)).trans (List.append_nil _)
  have purged_eq : moved.purged = Function.update archive.purged segmentId
      (archive.purged segmentId + count) := rfl
  have live_length := congrArg List.length (attested.live_eq segmentId)
  rw [List.length_drop] at live_length
  refine ⟨?_, ?_, ?_, ?_, ?_, ?_⟩
  · rw [history_eq]
    exact attested.positions
  · intro other
    rw [history_eq, live_eq, purged_eq]
    by_cases same : other = segmentId
    · subst same
      simp only [Function.update_self, attested.live_eq, List.drop_drop]
    · simp only [Function.update_of_ne same, attested.live_eq]
  · intro other
    rw [history_eq, purged_eq]
    by_cases same : other = segmentId
    · subst same
      rw [Function.update_self]
      have := attested.purged_le other
      omega
    · rw [Function.update_of_ne same]
      exact attested.purged_le other
  · rw [history_eq]
    exact attested.attests
  · intro anchor listed
    refine le_trans (attested.starts anchor listed) ?_
    rw [purged_eq]
    by_cases same : anchor.segmentId.val = segmentId
    · simp [same]
    · simp [same]
  · intro other position purged
    rw [purged_eq] at purged
    by_cases same : other = segmentId
    · subst same
      rw [Function.update_self] at purged
      by_cases before : position < archive.purged other
      · exact attested.covered other position before
      · have found : position - archive.purged other < (archive.live other).length := by omega
        have at_position := List.getElem?_eq_getElem found
        have seq_eq := attested.consecutive other _ _ at_position
        have taken : position - archive.purged other < count := by omega
        rw [← List.getElem?_take_of_lt taken] at at_position
        have deleted := below _ (List.mem_of_getElem? at_position)
        have starts := attested.starts cover member
        rw [segment_eq] at starts
        exact ⟨cover, member, segment_eq, by omega, by omega⟩
    · rw [Function.update_of_ne same] at purged
      exact attested.covered other position purged

end

theorem Attested.step (operation : RetentionStep) (attested : Attested signer archive) :
    Attested signer (operation.step signer archive) := by
  cases operation with
  | appendIntent record =>
    simp only [RetentionStep.step, RetentionStep.run, Sealing.onEvidence, EStateM.after_zoom]
    exact attested.append (appendIntent_appended signer record archive.world.evidence) rfl
  | sealSegment stop segmentId beforeSeq now =>
    exact attested.seal
      (sealSegmentUntil_sealedOver signer stop segmentId beforeSeq now archive.world)
  | purge segmentId beforeSeq =>
    have idle : Attested signer (archive.moveTo archive.world) :=
      attested.unchanged (fun _ => rfl) rfl rfl
    simp only [RetentionStep.step, RetentionStep.run]
    rcases purge_deletes signer segmentId beforeSeq archive.world with
      same | ⟨cover, member, segment_eq, last_eq, count, code, -, within, below, -, moved⟩
    · rw [same]
      exact idle
    · rw [moved]
      exact attested.purge member segment_eq last_eq within below _

/-- The signature of a stored anchor is accepted. -/
theorem Attests.verifyAnchor (accepts : signer.AcceptsOwn) (attests : Attests signer history anchor)
    (state : κ) :
    (memorySealer signer).verifyAnchor state anchor = .ok true := by
  obtain ⟨payload, payload_eq, produced⟩ := attests.signed
  have accepted : (memorySealer signer).signer.verify state payload anchor.rootSignature.val
      anchor.signerKeyId.val = .ok true := accepts state payload _ _ produced
  simp only [SegmentSealer.verifyAnchor, payload_eq, bind, Except.bind, accepted]
  rfl

/-- In every state of every run, a row which is no longer live is covered by a stored anchor of its
segment: the anchor's signature is accepted, and the inclusion proof built from the codes appended
in the anchor's range verifies the row's code against the anchor's root.  A row behind every stored
anchor of its segment is still live. -/
theorem purged_rows_are_attested (accepts : signer.AcceptsOwn) {start : κ} {archive : Archive κ}
    (run : Reaches (fun _ _ => True) (RetentionStep.step signer) ⟨⟨⟨start, {}⟩, {}⟩, fun _ => []⟩
      archive)
    {segmentId : String} {row : StoredRecord} (appended : row ∈ archive.history segmentId) :
    (row ∉ archive.live segmentId →
      ∃ anchor ∈ archive.anchors, anchor.segmentId.val = segmentId ∧
        (memorySealer signer).verifyAnchor archive.world.evidence.signer anchor = .ok true ∧
        anchor.firstSeq ≤ row.seq ∧ row.seq ≤ anchor.lastSeq ∧
        ∃ proof, MerkleProof.build ((coveredRows (archive.history segmentId) anchor).map
            Stored.recordHmac) (row.seq - anchor.firstSeq) = .ok proof ∧
          proof.verify row.recordHmac anchor.merkleRoot.val = true) ∧
    ((∀ anchor ∈ archive.anchors, anchor.segmentId.val = segmentId → anchor.lastSeq < row.seq) →
      row ∈ archive.live segmentId) := by
  have attested : Attested signer archive :=
    run.invariant (Attested signer) (attested_empty start)
      fun operation _ _ attested => attested.step operation
  obtain ⟨position, found⟩ := List.mem_iff_getElem?.mp appended
  have seq_eq : row.seq = position := by
    simpa using attested.positions segmentId position row found
  -- a row which is not live lies among the purged ones
  have purged_of_gone : row ∉ archive.live segmentId → position < archive.purged segmentId := by
    intro gone
    by_contra kept
    refine gone (List.mem_iff_getElem?.mpr ⟨position - archive.purged segmentId, ?_⟩)
    rw [attested.live_eq, List.getElem?_drop, Nat.add_sub_of_le (not_lt.mp kept), found]
  refine ⟨fun gone => ?_, fun behind => ?_⟩
  · obtain ⟨anchor, member, rfl, starts, ends⟩ :=
      attested.covered segmentId position (purged_of_gone gone)
    have attests := attested.attests anchor member
    have covered : ((coveredRows (archive.history anchor.segmentId.val) anchor).map
        Stored.recordHmac)[position - anchor.firstSeq]? = some row.recordHmac := by
      have inside : position - anchor.firstSeq < anchor.lastSeq - anchor.firstSeq + 1 := by omega
      rw [List.getElem?_map, coveredRows, List.getElem?_take_of_lt inside, List.getElem?_drop,
        Nat.add_sub_of_le starts, found, Option.map_some]
    obtain ⟨proof, built, -, -, -, verified⟩ := MerkleProof.exists_build covered
    rw [← attests.root_eq] at verified
    have index_eq : row.seq - anchor.firstSeq = ((position - anchor.firstSeq : Nat) : Int) := by
      omega
    rw [← index_eq] at built
    exact ⟨anchor, member, rfl, attests.verifyAnchor accepts _, by omega, by omega, proof, built,
      verified⟩
  · by_contra gone
    obtain ⟨anchor, member, segment_eq, -, ends⟩ :=
      attested.covered segmentId position (purged_of_gone gone)
    have := behind anchor member segment_eq
    omega

/-- A code which is proved included under the anchor is one of its range, or shows a collision. -/
def ProvesOwn (history : String → List StoredRecord) (anchor : WormAnchor) : Prop :=
  ∀ (proof : MerkleProof) (code : ByteString), proof.verify code anchor.merkleRoot.val = true →
    let codes := (coveredRows (history anchor.segmentId.val) anchor).map Stored.recordHmac
    code ∈ codes ∨ ∃ pair, forgery code codes proof.path.reverse = some pair ∧
      Collides pair

/-- Whatever was appended, sealed, interrupted and purged, nothing can be proved included under a
stored anchor but codes of rows which were appended in its range. -/
theorem anchors_proveOwn (signer : MacSigner κ) (start : κ) (operations : List RetentionStep) :
    let archive := runAll (RetentionStep.step signer) operations ⟨⟨⟨start, {}⟩, {}⟩, fun _ => []⟩
    archive.anchors.Forall (ProvesOwn archive.history) := by
  have attested := runAll_invariant (Attested signer) (attested_empty start)
    fun operation (_ : operation ∈ operations) _ attested => attested.step operation
  refine List.forall_iff_forall_mem.mpr fun anchor member proof code verified => ?_
  rw [(attested.attests anchor member).root_eq] at verified
  refine (genuine_or_forgery_of_verify verified).imp_left ?_
  rintro ⟨index, found, -⟩
  exact List.mem_of_getElem? found

end Runs

/-- Operations from empty stores, under an honest signer. -/
def archived (operations : List RetentionStep) : Archive UInt8 :=
  letI := plainRuntime
  runAll (RetentionStep.step MacSigner.counter) operations ⟨⟨⟨0, {}⟩, {}⟩, fun _ => []⟩

/-- Two records, a seal of the first which stops after signing, a second attempt and the purge. -/
def interruptedThenPurged : List RetentionStep :=
  [.appendIntent (sampleRecord Sample.decision1 sampleSegment),
    .appendIntent (sampleRecord Sample.decision2 sampleSegment),
    .sealSegment (some .signed) "segment" 1 0, .sealSegment none "segment" 1 0,
    .purge "segment" 1]

theorem purged_rows_are_attested_interruptedThenPurged :
    letI := plainRuntime
    ∃ row ∈ (archived interruptedThenPurged).history "segment",
      row ∉ (archived interruptedThenPurged).live "segment" ∧
      ∃ anchor ∈ (archived interruptedThenPurged).anchors, anchor.segmentId.val = "segment" ∧
        anchor.firstSeq ≤ row.seq ∧ row.seq ≤ anchor.lastSeq ∧
        ∃ proof, MerkleProof.build ((coveredRows
            ((archived interruptedThenPurged).history "segment") anchor).map Stored.recordHmac)
            (row.seq - anchor.firstSeq) = .ok proof ∧
          proof.verify row.recordHmac anchor.merkleRoot.val = true := by
  let _ := plainRuntime
  have run : Reaches (fun _ _ => True) (RetentionStep.step MacSigner.counter)
      ⟨⟨⟨0, {}⟩, {}⟩, fun _ => []⟩ (archived interruptedThenPurged) :=
    (permits_of_forall (fun _ _ => trivial) _ _).reaches
  have history_seqs : ((archived interruptedThenPurged).history "segment").map Stored.seq =
      [0, 1] := by
    decide +kernel
  have live_seqs : ((archived interruptedThenPurged).live "segment").map Stored.seq = [1] := by
    decide +kernel
  obtain ⟨row, rest, history_eq, first_eq, -⟩ := List.map_eq_cons_iff.mp history_seqs
  have appended : row ∈ (archived interruptedThenPurged).history "segment" := by
    rw [history_eq]
    exact List.mem_cons_self
  have gone : row ∉ (archived interruptedThenPurged).live "segment" := by
    intro live
    have seq_live := List.mem_map_of_mem (f := Stored.seq) live
    rw [live_seqs, first_eq] at seq_live
    simp at seq_live
  obtain ⟨anchor, member, segment_eq, -, starts, ends, proof⟩ :=
    (purged_rows_are_attested MacSigner.counter_honest.acceptsOwn run appended).1 gone
  exact ⟨row, appended, gone, anchor, member, segment_eq, starts, ends, proof⟩

end InMemoryEvidenceStore

end GlassBox
