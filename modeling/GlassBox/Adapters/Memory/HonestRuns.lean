import GlassBox.Adapters.Memory.EvidenceStore
import GlassBox.Adapters.Worm
import GlassBox.App.InterruptedSeals
import GlassBox.Domain.Sample
import GlassBox.Foundation.Runs

/-!
# Honest runs of the in-memory evidence store

`Chained` is the invariant of a store nobody tampers with.  Every operation keeps it, except an
append to a segment which retention has emptied: the new row links to `genesisPrevHash` while the
purged rows ended in the anchor.
-/

namespace GlassBox

open EStateM

namespace InMemoryEvidenceStore

section Invariant

variable [Runtime] {κ : Type} (signer : MacSigner κ)

structure Chained (store : InMemoryEvidenceStore) : Prop where
  identifiers : ∀ segmentId, (store.segments segmentId).isSome → isIdentifier segmentId
  intents : ∀ segmentId, intentRows.Linked (Genuine signer intentRows)
    (store.purged segmentId) (store.chainHead segmentId) (store.rows segmentId)
  outcomes : ∀ segmentId, outcomeRows.Linked (Genuine signer outcomeRows) 0 genesisPrevHash
    (store.outcomeChain segmentId)

variable {signer} {store : InMemoryEvidenceStore} {segmentId : String}
  {state : Signed κ InMemoryEvidenceStore}

theorem chained_empty : Chained signer {} where
  identifiers := by simp
  intents := fun _ => trivial
  outcomes := fun _ => trivial

theorem Chained.openSegment (chained : Chained signer store) (record : IntentRecord) :
    Chained signer (openSegment record store) where
  identifiers := by
    intro segmentId exists_segment
    by_cases same : segmentId = record.segmentId.val
    · exact same ▸ record.segmentId.property
    · refine chained.identifiers segmentId ?_
      simpa [InMemoryEvidenceStore.openSegment, setDefault, same] using exists_segment
  intents := by
    intro segmentId
    rw [rows_openSegment]
    exact chained.intents segmentId
  outcomes := chained.outcomes

/-- A new row links to the rows before it, unless an anchor stands in their place. -/
theorem lastHash_eq_lastTag (unpurged : store.rows segmentId = [] → store.purged segmentId = 0) :
    lastHash (store.rows segmentId) =
      intentRows.lastTag (store.chainHead segmentId) (store.rows segmentId) := by
  rcases List.eq_nil_or_concat (store.rows segmentId) with empty | ⟨front, row, rows_eq⟩
  · simp [lastHash, empty, chainHead, unpurged empty]
  · rw [rows_eq]
    simp [lastHash, intentRows, chainRows]

section

variable (chained : Chained signer store)
include chained

/-- A genuine row at the next position, linked to the rows before it, extends its segment. -/
theorem Chained.pushRecord {row : StoredRecord}
    (seq_eq : row.seq = store.nextSeq row.record.segmentId.val)
    (prev_eq : row.prevHash = lastHash (store.rows row.record.segmentId.val))
    (genuine : Genuine signer intentRows row) (unpurged : store.rows row.record.segmentId.val = [] →
      store.purged row.record.segmentId.val = 0) :
    Chained signer (pushRecord row store) where
  identifiers := by
    intro segmentId exists_segment
    by_cases same : segmentId = row.record.segmentId.val
    · exact same ▸ row.record.segmentId.property
    · refine chained.identifiers segmentId ?_
      simpa [InMemoryEvidenceStore.pushRecord, same] using exists_segment
  intents := by
    intro segmentId
    rw [rows_pushRecord]
    by_cases same : segmentId = row.record.segmentId.val
    · subst same
      rw [Function.update_self]
      refine (chained.intents _).concat ⟨?_, ?_, genuine⟩
      · refine Eq.trans seq_eq ?_
        simp only [nextSeq, Int.natCast_add]
      · exact prev_eq.trans (lastHash_eq_lastTag unpurged)
    · rw [Function.update_of_ne same]
      exact chained.intents segmentId
  outcomes := chained.outcomes

theorem Chained.pushReceipt (receipt : EvidenceReceipt) :
    Chained signer (pushReceipt receipt store) :=
  ⟨chained.identifiers, chained.intents, chained.outcomes⟩

/-- Neither is the seal of a segment. -/
theorem Chained.markSealed (segmentId : String) (anchor : WormAnchor) (locator : String) :
    Chained signer ((markSealed segmentId anchor locator).after store) := by
  refine after_of_ends (Chained signer) ?_
  simp only [InMemoryEvidenceStore.markSealed, ends_bind, ends_get]
  split
  · exact chained
  · exact ⟨chained.identifiers, chained.intents, chained.outcomes⟩

theorem Chained.pushOutcome {row : StoredOutcome}
    (seq_eq : row.seq = (store.outcomeChain segmentId).length)
    (prev_eq : row.prevHash = lastHash (store.outcomeChain segmentId))
    (genuine : Genuine signer outcomeRows row) :
    Chained signer (pushOutcome segmentId row store) where
  identifiers := chained.identifiers
  intents := chained.intents
  outcomes := by
    intro other
    simp only [InMemoryEvidenceStore.pushOutcome]
    by_cases same : other = segmentId
    · subst same
      rw [Function.update_self]
      refine (chained.outcomes _).concat ⟨?_, ?_, genuine⟩
      · exact seq_eq.trans (Int.zero_add _).symm
      · exact prev_eq.trans (outcomeRows.lastTag_eq_getLast genesisPrevHash _).symm
    · rw [Function.update_of_ne same]
      exact chained.outcomes other

/-- Purging a prefix moves the head of the chain to the code of its last row. -/
theorem Chained.dropPurged {beforeSeq : Int} {count : Nat} {anchor : ByteString}
    (ends : purgeLoop beforeSeq 0 none (store.rows segmentId) = (count, some anchor)) :
    Chained signer (dropPurged segmentId count anchor store) := by
  obtain ⟨dropped, within, rfl, anchor_eq⟩ := purgeLoop_spec ends
  rw [Option.or_none] at anchor_eq
  have positive : 0 < dropped := by
    rcases Nat.eq_zero_or_pos dropped with rfl | positive
    · simp at anchor_eq
    · exact positive
  have occupied : (store.segments segmentId).isSome := by
    cases segment : store.segments segmentId with
    | some rows => rfl
    | none =>
      simp only [rows, segment, Option.getD_none, List.length_nil] at within
      omega
  refine ⟨?_, ?_, chained.outcomes⟩
  · intro other exists_segment
    by_cases same : other = segmentId
    · exact same ▸ chained.identifiers segmentId occupied
    · refine chained.identifiers other ?_
      simpa [InMemoryEvidenceStore.dropPurged, same] using exists_segment
  · intro other
    by_cases same : other = segmentId
    · subst same
      have rest := (chained.intents other).drop dropped within
      rw [ChainView.lastTag_eq_getLast] at rest
      have head_eq : ((((store.rows other).take dropped).getLast?.map intentRows.tag).getD
          (store.chainHead other)) = anchor := by
        rw [show intentRows.tag = Stored.recordHmac from rfl, ← anchor_eq, Option.getD_some]
      rw [head_eq] at rest
      have moved : (InMemoryEvidenceStore.dropPurged other (0 + dropped) anchor store).chainHead
          other = anchor := by
        have nonzero : store.purged other + (0 + dropped) ≠ 0 := by omega
        simp only [chainHead, InMemoryEvidenceStore.dropPurged, Function.update_self,
          if_neg nonzero, Option.getD_some]
      rw [moved, rows_dropPurged]
      simpa [InMemoryEvidenceStore.dropPurged] using rest
    · rw [rows_dropPurged, Function.update_of_ne same]
      simpa [InMemoryEvidenceStore.dropPurged, chainHead, same] using chained.intents other

end

/-- Appending an intent, unless retention has emptied the record's segment. -/
theorem Chained.appendIntent (chained : Chained signer state.store) {record : IntentRecord}
    (unpurged : state.store.receipts record.decisionId.val = none →
      state.store.rows record.segmentId.val = [] →
      state.store.purged record.segmentId.val = 0) :
    Chained signer ((appendIntent signer record).after state).store := by
  have opened := chained.openSegment record
  refine appendIntent_invariant signer (Chained signer) record chained opened ?_
    fun receipt _ kept => kept.pushReceipt receipt
  rintro fresh row ⟨rfl, seq_eq, prevHash_eq, genuine⟩
  refine opened.pushRecord ?_ ?_ genuine ?_
  · rw [seq_eq, nextSeq_openSegment]
  · rw [prevHash_eq, rows_openSegment]
  · rw [rows_openSegment]
    exact unpurged fresh

theorem Chained.appendOutcome (chained : Chained signer state.store) (receipt : EvidenceReceipt)
    (record : OutcomeRecord) :
    Chained signer ((appendOutcome signer receipt record).after state).store := by
  refine appendOutcome_invariant signer (Chained signer) receipt record chained ?_
  exact fun row made => chained.pushOutcome made.seq_eq made.prevHash_eq made.genuine

theorem Chained.purgeBefore (chained : Chained signer store) (segmentId : String)
    (beforeSeq : Int) : Chained signer ((purgeBefore segmentId beforeSeq).after store) := by
  refine after_of_ends (Chained signer) ?_
  simp only [InMemoryEvidenceStore.purgeBefore, ends_bind, ends_get]
  split
  · split
    · simp only [sealAndPurge, ends_bind, ends_get]
      split
      · exact chained
      · rename_i ends
        exact chained.dropPurged ends
    · exact chained
  · exact chained

theorem Chained.verify (chained : Chained signer state.store) (honest : signer.Honest)
    {live : List StoredRecord} (exists_segment : state.store.segments segmentId = some live)
    (now : Timestamp) :
    ∃ report, verify signer state segmentId now.val = .ok report ∧ report.isAcceptable ∧
      report.outcomeStatus = .intact ∧ report.recordsChecked = live.length := by
  have identifier := chained.identifiers segmentId (by rw [exists_segment]; rfl)
  have rows_eq : state.store.rows segmentId = live := by
    rw [rows, exists_segment, Option.getD_some]
  have intents := chained.intents segmentId
  rw [rows_eq] at intents
  have walked := walk_of_linked
    (intents.mono fun row _ genuine => genuine.authentic honest state.signer)
  have outcomes := verifyOutcomeChain_of_linked
    ((chained.outcomes segmentId).mono fun row _ genuine => genuine.authentic honest state.signer)
  have reportable : ∀ {status : IntegrityStatus}, status ≠ .broken → IntegrityReport.Reportable
      segmentId status now.val none
      { outcomeRecordsChecked := (state.store.outcomeChain segmentId).length } :=
    fun unbroken => ⟨identifier, now.property, by simp, by simp [unbroken], by simp, by simp⟩
  unfold InMemoryEvidenceStore.verify
  simp only [outcomes, exists_segment, walked, reportAccepted]
  split
  · obtain ⟨report, made, status, checked, outcome⟩ := IntegrityReport.make_of_reportable
      (reportable (by decide : IntegrityStatus.sealedPurged ≠ .broken)) live.length
      (toString (state.store.purged segmentId) ++
        " record(s) purged under retention; sealed root retained")
    exact ⟨report, made, by rw [IntegrityReport.isAcceptable, status]; rfl, outcome, checked⟩
  · obtain ⟨report, made, status, checked, outcome⟩ := IntegrityReport.make_of_reportable
      (reportable (by decide : IntegrityStatus.intact ≠ .broken)) live.length ""
    exact ⟨report, made, by rw [IntegrityReport.isAcceptable, status]; rfl, outcome, checked⟩

end Invariant

/-- An operation of the decision path or of the retention job. -/
inductive Operation
  | appendIntent (record : IntentRecord)
  | appendOutcome (receipt : EvidenceReceipt) (record : OutcomeRecord)
  | sealSegment (segmentId : String) (beforeSeq : Int) (now : ℚ)
  | purge (segmentId : String) (beforeSeq : Int)
  | sealAndPurge (segmentId : String) (beforeSeq : Int) (now : ℚ)

section Runs

variable [Runtime] {κ α : Type} (signer : MacSigner κ) (anchors : WormAnchorStore α)

def sealer : SegmentSealer κ InMemoryEvidenceStore α := { retention, anchors, signer }

/-- The state an operation leaves, whether it returns or raises. -/
def Operation.step : Operation → Sealing κ InMemoryEvidenceStore α →
    Sealing κ InMemoryEvidenceStore α
  | .appendIntent record =>
    (Sealing.onEvidence (InMemoryEvidenceStore.appendIntent signer record)).after
  | .appendOutcome receipt record =>
    (Sealing.onEvidence (InMemoryEvidenceStore.appendOutcome signer receipt record)).after
  | .sealSegment segmentId beforeSeq now =>
    ((sealer signer anchors).sealSegment segmentId beforeSeq now).after
  | .purge segmentId beforeSeq => ((sealer signer anchors).purge segmentId beforeSeq).after
  | .sealAndPurge segmentId beforeSeq now =>
    ((sealer signer anchors).sealAndPurge segmentId beforeSeq now).after

/-- A new decision is not appended to a segment which retention has emptied. -/
def Operation.AvoidsEmptied : Operation → Sealing κ InMemoryEvidenceStore α → Prop
  | .appendIntent record, world =>
    world.evidence.store.receipts record.decisionId.val = none →
    world.evidence.store.rows record.segmentId.val = [] →
    world.evidence.store.purged record.segmentId.val = 0
  | _, _ => True

instance (operation : Operation) (world : Sealing κ InMemoryEvidenceStore α) :
    Decidable (operation.AvoidsEmptied world) :=
  match operation with
  | .appendIntent _ => inferInstanceAs (Decidable (_ → _ → _))
  | .appendOutcome .. | .sealSegment .. | .purge .. | .sealAndPurge .. =>
    inferInstanceAs (Decidable True)

variable {signer anchors}

theorem Chained.step {world : Sealing κ InMemoryEvidenceStore α} (operation : Operation)
    (avoids : operation.AvoidsEmptied world) (chained : Chained signer world.evidence.store) :
    Chained signer (operation.step signer anchors world).evidence.store := by
  have seals : ∀ segmentId beforeSeq now, Chained signer
      (((sealer signer anchors).sealSegment segmentId beforeSeq now).after world).evidence.store :=
    fun segmentId _ _ => (sealer signer anchors).sealSegment_store retention_reads chained
      fun _ _ anchor locator _ _ => chained.markSealed segmentId anchor locator
  have purges : ∀ {world : Sealing κ InMemoryEvidenceStore α} segmentId beforeSeq,
      Chained signer world.evidence.store → Chained signer
        (((sealer signer anchors).purge segmentId beforeSeq).after world).evidence.store :=
    fun segmentId beforeSeq chained =>
      (sealer signer anchors).purge_store chained (chained.purgeBefore segmentId beforeSeq)
  cases operation with
  | appendIntent record =>
    simp only [Operation.step, Sealing.onEvidence, after_zoom]
    exact chained.appendIntent avoids
  | appendOutcome receipt record =>
    simp only [Operation.step, Sealing.onEvidence, after_zoom]
    exact chained.appendOutcome receipt record
  | sealSegment segmentId beforeSeq now => exact seals segmentId beforeSeq now
  | purge segmentId beforeSeq => exact purges segmentId beforeSeq chained
  | sealAndPurge segmentId beforeSeq now =>
    rcases after_bind ((sealer signer anchors).sealSegment segmentId beforeSeq now)
      (fun _ => (sealer signer anchors).purge segmentId beforeSeq) world with ends | ⟨_, ends⟩
    · rw [Operation.step, SegmentSealer.sealAndPurge, ends]
      exact seals segmentId beforeSeq now
    · rw [Operation.step, SegmentSealer.sealAndPurge, ends]
      exact purges segmentId beforeSeq (seals segmentId beforeSeq now)

/-- Over an honest signer, every state reached without appending to an emptied segment verifies:
each segment is intact or lawfully purged, its outcomes are intact and every live row counts. -/
theorem verify_of_run_avoiding_emptied (honest : signer.Honest) {start : κ} {anchored : α}
    {world : Sealing κ InMemoryEvidenceStore α}
    (run : Reaches Operation.AvoidsEmptied (Operation.step signer anchors)
      ⟨⟨start, {}⟩, anchored⟩ world)
    {segmentId : String} {live : List StoredRecord}
    (exists_segment : world.evidence.store.segments segmentId = some live) (now : Timestamp) :
    ∃ report, verify signer world.evidence segmentId now.val = .ok report ∧
      (report.status = .intact ∨ report.status = .sealedPurged) ∧
      report.outcomeStatus = .intact ∧ report.recordsChecked = live.length := by
  have chained : Chained signer world.evidence.store := by
    refine run.invariant (fun world => Chained signer world.evidence.store) chained_empty ?_
    exact fun operation _ avoids chained => chained.step operation avoids
  obtain ⟨report, verified, acceptable, outcome, checked⟩ :=
    chained.verify honest exists_segment now
  refine ⟨report, verified, ?_, outcome, checked⟩
  simpa [IntegrityReport.isAcceptable, IntegrityStatus.isAcceptable] using acceptable

end Runs

def sampleSegment : Identifier := Sample.segment

def appendSample (decisionId : Identifier) : Operation :=
  .appendIntent (sampleRecord decisionId sampleSegment)

attribute [local instance] plainRuntime

/-- Operations from an empty store, under an honest signer. -/
def sampleRun (operations : List Operation) :
    Sealing UInt8 InMemoryEvidenceStore InMemoryWormAnchorStore :=
  runAll (Operation.step MacSigner.counter InMemoryWormAnchorStore.port) operations
    ⟨⟨0, {}⟩, {}⟩

/-- Two records, of which retention purges the first, and a third one behind them. -/
def prefixPurge : List Operation :=
  [appendSample Sample.decision1, appendSample Sample.decision2,
    .sealAndPurge "segment" 1 0, appendSample ⟨"decision-3", by decide⟩]

theorem verify_of_run_avoiding_emptied_prefixPurge :
    ∃ live report, (sampleRun prefixPurge).evidence.store.segments "segment" = some live ∧
      verify MacSigner.counter (sampleRun prefixPurge).evidence "segment" 0 = .ok report ∧
      report.outcomeStatus = .intact ∧ report.recordsChecked = live.length := by
  have permits : Permits Operation.AvoidsEmptied
      (Operation.step MacSigner.counter InMemoryWormAnchorStore.port) prefixPurge
      ⟨⟨0, {}⟩, {}⟩ := by
    decide +kernel
  have run : Reaches Operation.AvoidsEmptied
      (Operation.step MacSigner.counter InMemoryWormAnchorStore.port) ⟨⟨0, {}⟩, {}⟩
      (sampleRun prefixPurge) := by
    exact permits.reaches
  have occupied : ((sampleRun prefixPurge).evidence.store.segments "segment").isSome = true := by
    decide +kernel
  obtain ⟨live, exists_segment⟩ := Option.isSome_iff_exists.mp occupied
  obtain ⟨report, verified, -, outcome, checked⟩ := verify_of_run_avoiding_emptied
    MacSigner.counter_honest run exists_segment ⟨0, by decide +kernel⟩
  exact ⟨live, report, exists_segment, verified, outcome, checked⟩

/-- One record, which retention purges, and a second one appended to the emptied segment. -/
def appendAfterPurge : List Operation :=
  [appendSample Sample.decision1, .sealAndPurge "segment" 1 0, appendSample Sample.decision2]

/-- An append to the emptied segment breaks an honest run. -/
theorem append_to_emptied_segment_breaks :
    ¬ ∀ world, Reaches (fun _ _ => True)
        (Operation.step MacSigner.counter InMemoryWormAnchorStore.port) ⟨⟨0, {}⟩, {}⟩ world →
      ∀ segmentId live, world.evidence.store.segments segmentId = some live →
      ∀ now : Timestamp, ∃ report,
        verify MacSigner.counter world.evidence segmentId now.val = .ok report ∧
        (report.status = .intact ∨ report.status = .sealedPurged) ∧
        report.outcomeStatus = .intact ∧ report.recordsChecked = live.length := by
  intro claim
  have occupied :
      ((sampleRun appendAfterPurge).evidence.store.segments "segment").isSome = true := by
    decide +kernel
  obtain ⟨live, exists_segment⟩ := Option.isSome_iff_exists.mp occupied
  obtain ⟨report, verified, status, -⟩ := claim (sampleRun appendAfterPurge)
    (permits_of_forall (fun _ _ => trivial) _ _).reaches "segment" live exists_segment
    ⟨0, by decide +kernel⟩
  have broken : (verify MacSigner.counter (sampleRun appendAfterPurge).evidence "segment"
      0).toOption.map IntegrityReport.status = some .broken := by
    decide +kernel
  simp_all [Except.toOption]

end InMemoryEvidenceStore

end GlassBox
