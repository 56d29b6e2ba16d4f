import GlassBox.Adapters.Postgres.Appends
import GlassBox.Adapters.Worm
import GlassBox.App.InterruptedSeals
import GlassBox.Domain.Sample
import GlassBox.Foundation.Runs

/-!
# Honest runs of the Postgres evidence store

A session which sees all rows appends, seals and purges.  The invariant keeps, for each segment,
the link expected of its first live row.  A seal overwrites the retained code, so a segment which
has been purged must not be sealed again.
-/

namespace GlassBox

open EStateM

namespace Postgres

section Columns

variable [Runtime]

/-- The row of a record reads back as it was signed. -/
def Columns.Keep (columns : Columns) (record : IntentRecord) : Prop :=
  ∀ {row seq prevHash mac keyId payload},
    rowOfRecord columns record seq prevHash mac keyId = .ok row →
    record.chainPayload seq prevHash = .ok payload →
    columnMismatch row = .ok none ∧ storedPayload row.seq row.prevHash row.record = .ok payload

theorem storedPayload_of_chainPayload {evidence : List (String × Value)} {seq : Int}
    {prevHash payload : ByteString} (defined : chainPayload evidence seq prevHash = .ok payload) :
    storedPayload seq prevHash evidence = .ok payload := by
  unfold chainPayload at defined
  split at defined
  · cases defined
  · split at defined
    · cases defined
    · exact defined

theorem exactColumns_keep (record : IntentRecord) : exactColumns.Keep record := by
  intro row seq prevHash mac keyId payload built defined
  cases built
  refine ⟨?_, storedPayload_of_chainPayload defined⟩
  have decision : getKey record.asEvidence "decision_id" = some (.str record.decisionId.val) := rfl
  have tenant : getKey record.asEvidence "tenant_id" = some (.str record.tenantId.val) := rfl
  have action : getNested record.asEvidence "action" "action" =
      .ok (some (.str record.action.action.val)) := rfl
  have consequence : getNested record.asEvidence "action" "consequence_class" =
      .ok (some (.str record.action.consequence.value)) := rfl
  have risk : getNested record.asEvidence "risk" "risk_score" =
      .ok (some (.ofRat record.risk.value.val)) := rfl
  simp [columnMismatch, action, consequence, risk, decision, tenant, textDiffers, numberDiffers,
    exactColumns, Value.ofRat, bind, Except.bind, pure, Except.pure]

end Columns

theorem chain_eq {session : Session} (sees_all : session.rowSecurity = false)
    (current : Transaction) (segmentId : String) :
    session.chain current segmentId = (current.database.rows segmentId).insertionSort
      fun left right => left.seq ≤ right.seq := by
  simp [Session.chain, Session.intents, Session.sees, sees_all, Database.rows]

/-- Each segment and its rows satisfy `holds`, and no row lacks its segment. -/
structure EachSegment (holds : SegmentRow → List IntentRow → List OutcomeRow → Prop)
    (database : Database) : Prop where
  identifiers : ∀ segmentId, (database.segments segmentId).isSome → isIdentifier segmentId
  segments : ∀ {segmentId segment}, database.segments segmentId = some segment →
    holds segment (database.rows segmentId) (database.outcomeRows segmentId)
  no_orphans : ∀ {segmentId}, database.segments segmentId = none →
    database.rows segmentId = [] ∧ database.outcomeRows segmentId = []

variable {segment : SegmentRow} {segmentId : String}
  {holds : SegmentRow → List IntentRow → List OutcomeRow → Prop}

theorem eachSegment_empty : EachSegment holds {} where
  identifiers := by simp
  segments := by
    intro segmentId segment found
    cases found
  no_orphans := fun _ => ⟨rfl, rfl⟩

/-- One segment and its rows change into ones which satisfy `holds` again. -/
theorem EachSegment.replace {before after : Database} (each : EachSegment holds before)
    (identifier : isIdentifier segmentId)
    (segments_eq : after.segments = Function.update before.segments segmentId (some segment))
    (others : ∀ other ≠ segmentId, after.rows other = before.rows other ∧
      after.outcomeRows other = before.outcomeRows other)
    (replaced : holds segment (after.rows segmentId) (after.outcomeRows segmentId)) :
    EachSegment holds after where
  identifiers := by
    intro other exists_segment
    by_cases same : other = segmentId
    · exact same ▸ identifier
    · rw [segments_eq, Function.update_of_ne same] at exists_segment
      exact each.identifiers other exists_segment
  segments := by
    intro other row found
    by_cases same : other = segmentId
    · subst same
      rw [segments_eq, Function.update_self, Option.some_inj] at found
      exact found ▸ replaced
    · rw [segments_eq, Function.update_of_ne same] at found
      rw [(others other same).1, (others other same).2]
      exact each.segments found
  no_orphans := by
    intro other missing
    by_cases same : other = segmentId
    · subst same
      rw [segments_eq, Function.update_self] at missing
      cases missing
    · rw [segments_eq, Function.update_of_ne same] at missing
      rw [(others other same).1, (others other same).2]
      exact each.no_orphans missing

section Invariant

variable [Runtime] {κ : Type} (store : PostgresEvidenceStore κ)

/-- A segment whose live rows are linked behind `head`. -/
structure SegmentChained (segment : SegmentRow) (rows : List IntentRow) (head : ByteString) :
    Prop where
  unsealed : segment.merkleRoot = none
  first_eq : segment.firstSeq = segment.purgedBeforeSeq
  purged_nonneg : 0 ≤ segment.purgedBeforeSeq
  linked : (intentRows store.verifyColumns).Linked
    (Genuine store.signer (intentRows store.verifyColumns)) segment.purgedBeforeSeq head rows
  last_seq : segment.lastSeq + 1 = segment.purgedBeforeSeq + rows.length
  last_hash : segment.lastHash = (intentRows store.verifyColumns).lastTag head rows
  head_genesis : segment.purgedBeforeSeq = 0 → head = genesisPrevHash
  /-- After a purge the head is the code the seal retained. -/
  head_retained : segment.purgedBeforeSeq ≠ 0 → ∃ cover ∈ segment.retention,
    cover.lastLeafHmac = some head ∧ cover.lastSeq = segment.purgedBeforeSeq - 1
  /-- Before a purge the seal retains the code of the last row it covers. -/
  sealed_row : segment.purgedBeforeSeq = 0 → ∀ cover ∈ segment.retention,
    ∃ row ∈ rows, row.seq = cover.lastSeq ∧ cover.lastLeafHmac = some row.recordHmac

def Chained : Database → Prop :=
  EachSegment fun segment rows outcomes =>
    outcomes = [] ∧ ∃ head, SegmentChained store segment rows head

variable {store} {rows : List IntentRow} {head : ByteString} {row : IntentRow} {beforeSeq : Int}
  {database : Database} {record : IntentRecord} {state : Signed κ Database} {session : Session}

theorem SegmentChained.chainHead_eq (chained : SegmentChained store segment rows head) :
    chainHead segment = some head := by
  unfold chainHead
  by_cases unpurged : segment.purgedBeforeSeq = 0
  · rw [if_pos unpurged, chained.head_genesis unpurged]
  · obtain ⟨cover, retained, leaf, -⟩ := chained.head_retained unpurged
    rw [if_neg unpurged, chained.unsealed, Option.none_or, Option.mem_def.mp retained,
      Option.bind_some, leaf]

/-- A query in the order of the positions returns the rows as they were inserted. -/
theorem SegmentChained.sorted (chained : SegmentChained store segment rows head) :
    rows.insertionSort (fun left right => left.seq ≤ right.seq) = rows :=
  List.Pairwise.insertionSort_eq (chained.linked.pairwise_seq.imp fun below => le_of_lt below)

theorem SegmentChained.opened (tenantId : Identifier) (openedAt : ℚ) :
    SegmentChained store { tenantId, openedAt, lastHash := genesisPrevHash } []
      genesisPrevHash where
  unsealed := rfl
  first_eq := rfl
  purged_nonneg := le_rfl
  linked := trivial
  last_seq := by simp
  last_hash := rfl
  head_genesis := fun _ => rfl
  head_retained := fun purged => absurd rfl purged
  sealed_row := by simp

/-- A genuine row at the next position, linked to the last one, extends a segment. -/
theorem SegmentChained.concat (chained : SegmentChained store segment rows head)
    (seq_eq : row.seq = segment.lastSeq + 1) (prev_eq : row.prevHash = segment.lastHash)
    (genuine : Genuine store.signer (intentRows store.verifyColumns) row) :
    SegmentChained store { segment with lastSeq := row.seq, lastHash := row.recordHmac }
      (rows ++ [row]) head where
  unsealed := chained.unsealed
  first_eq := chained.first_eq
  purged_nonneg := chained.purged_nonneg
  linked := chained.linked.concat
    ⟨seq_eq.trans chained.last_seq, prev_eq.trans chained.last_hash, genuine⟩
  last_seq := by
    have := chained.last_seq
    simp only [List.length_append, List.length_singleton]
    omega
  last_hash := by
    rw [ChainView.lastTag_concat]
    rfl
  head_genesis := chained.head_genesis
  head_retained := chained.head_retained
  sealed_row := by
    intro unpurged cover retained
    obtain ⟨sealed, member, kept⟩ := chained.sealed_row unpurged cover retained
    exact ⟨sealed, List.mem_append_left _ member, kept⟩

/-- A seal whose last code is read from a live row keeps an unpurged segment chained. -/
theorem SegmentChained.marked {segment : SegmentRow} {rows : List IntentRow} {head : ByteString}
    (chained : SegmentChained store segment rows head) (unpurged : segment.purgedBeforeSeq = 0)
    {cover : RetentionSeal} {row : IntentRow} (member : row ∈ rows)
    (seq_eq : row.seq = cover.lastSeq) (leaf_eq : cover.lastLeafHmac = some row.recordHmac) :
    SegmentChained store { segment with retention := some cover } rows head where
  unsealed := chained.unsealed
  first_eq := chained.first_eq
  purged_nonneg := chained.purged_nonneg
  linked := chained.linked
  last_seq := chained.last_seq
  last_hash := chained.last_hash
  head_genesis := chained.head_genesis
  head_retained := fun purged => absurd unpurged purged
  sealed_row := by
    rintro - _ ⟨⟩
    exact ⟨row, member, seq_eq, leaf_eq⟩

/-- Deleting the sealed rows moves the head of the chain to the code the seal retained. -/
theorem SegmentChained.purged (chained : SegmentChained store segment rows head)
    {cover : RetentionSeal} (retained : cover ∈ segment.retention)
    (covers : cover.lastSeq = beforeSeq - 1) :
    ∃ head, SegmentChained store
      { segment with firstSeq := beforeSeq, purgedBeforeSeq := beforeSeq }
      (rows.filter fun row => !decide (row.seq < beforeSeq)) head := by
  have remaining := chained.linked.filter_seq beforeSeq
  change (rows.filter fun row => !decide (row.seq < beforeSeq)) = _ at remaining
  rw [remaining]
  by_cases unpurged : segment.purgedBeforeSeq = 0
  · obtain ⟨row, member, seq_eq, leaf_eq⟩ := chained.sealed_row unpurged cover retained
    obtain ⟨index, position, found⟩ := chained.linked.getElem_of_mem member
    change row.seq = _ at position
    have count : (beforeSeq - segment.purgedBeforeSeq).toNat = index + 1 := by omega
    have within : index + 1 ≤ rows.length := (List.getElem?_eq_some_iff.mp found).1
    rw [count]
    refine ⟨row.recordHmac, chained.unsealed, rfl, ?_, ?_, ?_, ?_, ?_, ?_, ?_⟩
    · change 0 ≤ beforeSeq
      omega
    · have rest := chained.linked.drop (index + 1) within
      rw [ChainView.lastTag_take_succ _ head found] at rest
      have start_eq : segment.purgedBeforeSeq + ((index + 1 : Nat) : Int) = beforeSeq := by omega
      rwa [start_eq] at rest
    · have := chained.last_seq
      simp only [List.length_drop]
      omega
    · have split := (intentRows store.verifyColumns).lastTag_append head (rows.take (index + 1))
        (rows.drop (index + 1))
      rw [List.take_append_drop, ChainView.lastTag_take_succ _ head found] at split
      exact chained.last_hash.trans split
    · intro zero
      change beforeSeq = 0 at zero
      omega
    · exact fun _ => ⟨cover, retained, leaf_eq, covers⟩
    · intro zero
      change beforeSeq = 0 at zero
      omega
  · obtain ⟨kept, kept_retained, -, kept_seq⟩ := chained.head_retained unpurged
    have same : kept = cover := Option.mem_unique kept_retained retained
    have again : beforeSeq = segment.purgedBeforeSeq := by
      rw [same] at kept_seq
      omega
    have unchanged : { segment with firstSeq := beforeSeq, purgedBeforeSeq := beforeSeq } =
        segment := by
      rw [again]
      nth_rewrite 1 [← chained.first_eq]
      rfl
    rw [unchanged, again, Int.sub_self]
    exact ⟨head, chained⟩

/-- The row of a record which the columns keep is genuine. -/
theorem IntentWritten.genuine (written : IntentWritten store record segment row)
    (keeps : store.session.columns.Keep record) :
    Genuine store.signer (intentRows store.verifyColumns) row := by
  obtain ⟨payload, defined, produced⟩ := written.signed
  obtain ⟨columns, stored⟩ := keeps written.built defined
  refine ⟨?_, payload, stored, produced⟩
  simp only [intentRows]
  split
  · exact columns
  · rfl

/-- What holds of a fresh segment and is kept by a written row is kept by an appended record. -/
theorem EachSegment.appendIntent (each : EachSegment holds state.store)
    (fresh : ∀ tenantId openedAt,
      holds { tenantId, openedAt, lastHash := genesisPrevHash } [] [])
    (written : ∀ {segment rows outcomes row}, holds segment rows outcomes →
      IntentWritten store record segment row →
      holds { segment with lastSeq := row.seq, lastHash := row.recordHmac } (rows ++ [row])
        outcomes) :
    EachSegment holds ((appendIntent store record).after state).store := by
  refine after_of_ends (fun state : Signed κ Database => EachSegment holds state.store) ?_
  have opened : holds (state.store.opened store.session.clock record)
      (state.store.rows record.segmentId.val) (state.store.outcomeRows record.segmentId.val) := by
    unfold Database.opened
    cases found : state.store.segments record.segmentId.val with
    | some segment => exact each.segments found
    | none =>
      obtain ⟨no_rows, no_outcomes⟩ := each.no_orphans found
      rw [no_rows, no_outcomes]
      exact fresh record.tenantId store.session.clock
  refine (appendIntent_commits state).mono ?_ fun _ _ unchanged => unchanged ▸ each
  intro receipt after committed
  generalize after.store = tables at committed ⊢
  cases committed with
  | known stored same read =>
    exact each.replace record.segmentId.property rfl (fun _ _ => ⟨rfl, rfl⟩) opened
  | added added absent read =>
    have segment_eq := added.place.2.2.1
    refine each.replace record.segmentId.property rfl (fun other differs => ⟨?_, rfl⟩) ?_
    · simp [Database.rows, segment_eq, Ne.symm differs]
    · simpa [Database.rows, segment_eq, Database.outcomeRows, Database.withSegment] using
        written opened added

theorem Chained.appendIntent (chained : Chained store state.store)
    (keeps : store.session.columns.Keep record) :
    Chained store ((appendIntent store record).after state).store := by
  refine EachSegment.appendIntent chained (fun _ _ => ⟨rfl, _, .opened _ _⟩) ?_
  rintro segment rows outcomes row ⟨no_outcomes, head, row_chained⟩ written
  obtain ⟨seq_eq, prev_eq, -⟩ := written.place
  exact ⟨no_outcomes, head, row_chained.concat seq_eq prev_eq (written.genuine keeps)⟩

/-- Recording a seal over leaves read from the live rows of an unpurged segment. -/
theorem Chained.markSealed (chained : Chained store database)
    (sees_all : session.rowSecurity = false)
    (unpurged : ∀ segment ∈ database.segments segmentId, segment.purgedBeforeSeq ≠ 0 →
      ∀ row ∈ database.rows segmentId, beforeSeq ≤ row.seq) {first : SegmentLeaf}
    {leaves : List SegmentLeaf} {anchor : WormAnchor} {locator : String}
    (read : segmentLeaves session database segmentId (some beforeSeq) = .ok (first :: leaves))
    (last : anchor.lastSeq = (leaves.getLast?.getD first).seq) :
    Chained store ((markSealed session segmentId anchor locator).after database) := by
  refine after_quietly ?_
  refine ends_updateSegment (fun _ => chained) (fun segment found => ?_) fun _ => chained
  obtain ⟨no_outcomes, head, row_chained⟩ := chained.segments found
  -- The subselect finds the row the last leaf was read from.
  have member : leaves.getLast?.getD first ∈ first :: leaves := by
    rcases List.eq_nil_or_concat leaves with rfl | ⟨front, leaf, rfl⟩
    · simp
    · simp
  obtain ⟨read_row, read_mem, leaf_eq⟩ := Except.exists_of_mem_mapM read member
  have read_seq := SegmentLeaf.seq_of_make leaf_eq
  rw [← last] at read_seq
  rw [chain_eq sees_all, List.mem_filter, List.mem_insertionSort] at read_mem
  obtain ⟨live, below⟩ := read_mem
  have below : read_row.seq < beforeSeq := by simpa using below
  have present : ∃ row, database.intents.find? (fun row =>
      row.segmentId.val = segmentId && row.seq = (anchor.lastSeq : Int)) = some row := by
    rw [← Option.isSome_iff_exists, List.find?_isSome]
    obtain ⟨stored, same⟩ := List.mem_filter.mp live
    exact ⟨read_row, stored, by simpa [read_seq] using same⟩
  obtain ⟨row, row_eq⟩ := present
  have row_live : row ∈ database.rows segmentId ∧ row.seq = anchor.lastSeq := by
    have chosen := List.find?_some row_eq
    simp only [Bool.and_eq_true, decide_eq_true_eq] at chosen
    exact ⟨List.mem_filter.mpr ⟨List.mem_of_find?_eq_some row_eq, by simpa using chosen.1⟩,
      chosen.2⟩
  have zero : segment.purgedBeforeSeq = 0 := by
    by_contra purged
    have := unpurged segment found purged read_row live
    omega
  have intents_eq : session.intents { database } = database.intents := by
    simp [Session.intents, Session.sees, sees_all]
  refine chained.replace (chained.identifiers segmentId (by rw [found]; rfl)) rfl
    (fun _ _ => ⟨rfl, rfl⟩)
    ⟨no_outcomes, head, row_chained.marked zero row_live.1 row_live.2 ?_⟩
  simp only [intents_eq, row_eq, Option.map_some]

theorem Chained.purgeBefore (chained : Chained store database)
    (sees_all : session.rowSecurity = false) (segmentId : String) (beforeSeq : Int) :
    Chained store ((purgeBefore session segmentId beforeSeq).after database) := by
  refine after_quietly ?_
  simp only [ends_bind, ends_get]
  split
  · exact chained
  · rename_i covered
    rw [not_not, Option.bind_eq_some_iff] at covered
    obtain ⟨segment, found, covered⟩ := covered
    obtain ⟨cover, retained, covers⟩ := Option.map_eq_some_iff.mp covered
    obtain ⟨no_outcomes, head, row_chained⟩ := chained.segments found
    obtain ⟨moved, purged⟩ := row_chained.purged retained covers
    simp only [setRetentionPurge, Signed.modifyStore, deletePurged, modifyDatabase,
      ends_bind, ends_modify, ends_get, Bool.true_eq_false, if_false,
      ends_pure]
    refine ends_updateSegment (fun missing => ?_) (fun row again => ?_) fun _ => chained
    · cases found.symm.trans missing
    · cases found.symm.trans again
      refine chained.replace (chained.identifiers segmentId (by rw [found]; rfl)) rfl
        (fun other differs => ⟨?_, rfl⟩) ⟨no_outcomes, moved, ?_⟩
      · simp only [Database.rows, List.filter_filter]
        refine List.filter_congr fun row _ => ?_
        by_cases same : row.segmentId.val = other
        · simp [same, differs]
        · simp [same]
      · have deleted : (database.intents.filter fun row =>
            !(session.sees { database, retentionPurge := true } row &&
              (row.segmentId.val = segmentId && row.seq < beforeSeq))).filter
              (·.segmentId.val = segmentId) =
            (database.rows segmentId).filter fun row => !decide (row.seq < beforeSeq) := by
          simp only [Database.rows, List.filter_filter]
          refine List.filter_congr fun row _ => ?_
          by_cases same : row.segmentId.val = segmentId
          · simp [same, Session.sees, sees_all]
          · simp [same]
        simp only [Database.rows, deleted]
        exact purged

theorem Chained.verify (chained : Chained store state.store) (honest : store.signer.Honest)
    (sees_all : store.session.rowSecurity = false)
    (found : state.store.segments segmentId = some segment) (now : Timestamp) :
    ∃ report, verify store state segmentId now.val = .ok report ∧ report.isAcceptable = true := by
  obtain ⟨no_outcomes, head, row_chained⟩ := chained.segments found
  have identifier := chained.identifiers segmentId (by rw [found]; rfl)
  have reportable : ∀ {status : IntegrityStatus}, status ≠ .broken →
      IntegrityReport.Reportable segmentId status now.val none {} :=
    fun unbroken => ⟨identifier, now.property, by simp, by simp [unbroken], by simp, by simp⟩
  have walked := walk_of_linked
    (row_chained.linked.mono fun row _ genuine => genuine.authentic honest state.signer)
  have outcomes : outcomeChain { database := state.store } segmentId = [] :=
    congrArg (List.insertionSort _) no_outcomes
  unfold Postgres.verify
  simp only [found, outcomes, verifyRows, chain_eq sees_all, row_chained.sorted,
    row_chained.chainHead_eq, walked, reportAccepted]
  split
  · rename_i purged
    obtain ⟨cover, retained, -⟩ := row_chained.head_retained (by omega)
    have covered : segment.retention.isSome = true := by
      rw [Option.mem_def.mp retained, Option.isSome_some]
    simp only [covered, Bool.or_true]
    obtain ⟨report, made, status, -⟩ := IntegrityReport.make_of_reportable
      (reportable (by decide : IntegrityStatus.sealedPurged ≠ .broken))
      (state.store.rows segmentId).length _
    exact ⟨report, made, by rw [IntegrityReport.isAcceptable, status]; rfl⟩
  · obtain ⟨report, made, status, -⟩ := IntegrityReport.make_of_reportable
      (reportable (by decide : IntegrityStatus.intact ≠ .broken))
      (state.store.rows segmentId).length ""
    exact ⟨report, made, by rw [IntegrityReport.isAcceptable, status]; rfl⟩

end Invariant

/-- An operation of the decision path or of the retention job. -/
inductive Operation
  | appendIntent (record : IntentRecord)
  | sealSegment (segmentId : String) (beforeSeq : Int) (now : ℚ)
  | purge (segmentId : String) (beforeSeq : Int)

section Runs

variable [Runtime] {κ α : Type} (store : PostgresEvidenceStore κ) (anchors : WormAnchorStore α)
  {world : Sealing κ Database α}

def sealer : SegmentSealer κ Database α :=
  { retention := retention store.session, anchors, signer := store.signer }

/-- The state an operation leaves, whether it returns or raises. -/
def Operation.step : Operation → Sealing κ Database α → Sealing κ Database α
  | .appendIntent record => (Sealing.onEvidence (Postgres.appendIntent store record)).after
  | .sealSegment segmentId beforeSeq now =>
    ((sealer store anchors).sealSegment segmentId beforeSeq now).after
  | .purge segmentId beforeSeq => ((sealer store anchors).purge segmentId beforeSeq).after

/-- The columns keep every appended record, and no live row of a purged segment is sealed. -/
def Operation.SealsUnpurged (columns : Columns) : Operation → Sealing κ Database α → Prop
  | .appendIntent record, _ => columns.Keep record
  | .sealSegment segmentId beforeSeq _, world =>
    ∀ segment ∈ world.evidence.store.segments segmentId, segment.purgedBeforeSeq ≠ 0 →
      ∀ row ∈ world.evidence.store.rows segmentId, beforeSeq ≤ row.seq
  | .purge .., _ => True

theorem Operation.SealsUnpurged.of_unpurged {columns : Columns} {segmentId : String}
    {beforeSeq : Int} {now : ℚ}
    (unpurged : (world.evidence.store.segments segmentId).all (·.purgedBeforeSeq = 0) = true) :
    (Operation.sealSegment segmentId beforeSeq now).SealsUnpurged columns world := by
  intro segment found purged
  have zero := (Option.all_eq_true _ _).mp unpurged segment found
  exact absurd (of_decide_eq_true zero) purged

variable {store anchors}

theorem Chained.step (sees_all : store.session.rowSecurity = false) (operation : Operation)
    (permitted : operation.SealsUnpurged store.session.columns world)
    (chained : Chained store world.evidence.store) :
    Chained store (operation.step store anchors world).evidence.store := by
  cases operation with
  | appendIntent record =>
    simp only [Operation.step, Sealing.onEvidence, after_zoom]
    exact chained.appendIntent permitted
  | sealSegment segmentId beforeSeq now =>
    refine (sealer store anchors).sealSegment_store (retention_reads store.session) chained ?_
    intro first leaves anchor locator read last
    exact chained.markSealed sees_all permitted read last
  | purge segmentId beforeSeq =>
    exact (sealer store anchors).purge_store chained
      (chained.purgeBefore sees_all segmentId beforeSeq)

/-- Over an honest signer and a session which sees all rows, every segment verifies in every state
reached without sealing live rows of a purged segment. -/
theorem verify_of_run_sealing_unpurged (honest : store.signer.Honest)
    (sees_all : store.session.rowSecurity = false) {start : κ} {anchored : α}
    {world : Sealing κ Database α}
    (run : Reaches (Operation.SealsUnpurged store.session.columns) (Operation.step store anchors)
      ⟨⟨start, {}⟩, anchored⟩ world)
    {segmentId : String} {segment : SegmentRow}
    (exists_segment : world.evidence.store.segments segmentId = some segment) (now : Timestamp) :
    ∃ report, verify store world.evidence segmentId now.val = .ok report ∧
      (report.status = .intact ∨ report.status = .sealedPurged) := by
  have chained : Chained store world.evidence.store := by
    refine run.invariant (fun world => Chained store world.evidence.store) eachSegment_empty ?_
    exact fun operation _ permitted chained => chained.step sees_all operation permitted
  obtain ⟨report, verified, acceptable⟩ := chained.verify honest sees_all exists_segment now
  refine ⟨report, verified, ?_⟩
  simpa [IntegrityReport.isAcceptable, IntegrityStatus.isAcceptable] using acceptable

end Runs

attribute [local instance] plainRuntime

def sampleRun (operations : List Operation) : Sealing UInt8 Database InMemoryWormAnchorStore :=
  runAll (Operation.step sampleStore InMemoryWormAnchorStore.port) operations ⟨⟨0, {}⟩, {}⟩

/-- Two records, of which retention seals and purges the first. -/
def sealedPrefix : List Operation :=
  [.appendIntent (sampleRecord Sample.decision1 Sample.segment),
    .appendIntent (sampleRecord Sample.decision2 Sample.segment),
    .sealSegment "segment" 1 0, .purge "segment" 1]

theorem verify_of_run_sealing_unpurged_once :
    ∃ segment report,
      (sampleRun sealedPrefix).evidence.store.segments "segment" = some segment ∧
      verify sampleStore (sampleRun sealedPrefix).evidence "segment" 0 = .ok report ∧
      (report.status = .intact ∨ report.status = .sealedPurged) := by
  have permits : Permits (Operation.SealsUnpurged exactColumns)
      (Operation.step sampleStore InMemoryWormAnchorStore.port) sealedPrefix ⟨⟨0, {}⟩, {}⟩ := by
    refine ⟨exactColumns_keep _, exactColumns_keep _, ?_, trivial, trivial⟩
    exact .of_unpurged (by decide +kernel)
  have run : Reaches (Operation.SealsUnpurged exactColumns)
      (Operation.step sampleStore InMemoryWormAnchorStore.port) ⟨⟨0, {}⟩, {}⟩
      (sampleRun sealedPrefix) := by
    exact permits.reaches
  have occupied : ((sampleRun sealedPrefix).evidence.store.segments "segment").isSome = true := by
    decide +kernel
  obtain ⟨segment, exists_segment⟩ := Option.isSome_iff_exists.mp occupied
  obtain ⟨report, verified, status⟩ := @verify_of_run_sealing_unpurged _ _ _ sampleStore
    InMemoryWormAnchorStore.port MacSigner.counter_honest rfl _ _ _ run _ _ exists_segment
    ⟨0, by decide +kernel⟩
  exact ⟨segment, report, exists_segment, verified, status⟩

/-- The segment is sealed again, over its second record, and not purged yet. -/
def sealedAgain : List Operation := sealedPrefix ++ [.sealSegment "segment" 2 0]

/-- A seal of a purged segment replaces the retained code while the rows still link to it. -/
theorem second_seal_breaks :
    ¬ ∀ world, Reaches (fun _ _ => True)
        (Operation.step sampleStore InMemoryWormAnchorStore.port) ⟨⟨0, {}⟩, {}⟩ world →
      ∀ segmentId segment, world.evidence.store.segments segmentId = some segment →
      ∀ now : Timestamp, ∃ report,
        verify sampleStore world.evidence segmentId now.val = .ok report ∧
        (report.status = .intact ∨ report.status = .sealedPurged) := by
  intro claim
  have occupied : ((sampleRun sealedAgain).evidence.store.segments "segment").isSome = true := by
    decide +kernel
  obtain ⟨segment, exists_segment⟩ := Option.isSome_iff_exists.mp occupied
  obtain ⟨report, verified, status⟩ := claim (sampleRun sealedAgain)
    (permits_of_forall (fun _ _ => trivial) _ _).reaches "segment" segment exists_segment
    ⟨0, by decide +kernel⟩
  have broken : (verify sampleStore (sampleRun sealedAgain).evidence "segment"
      0).toOption.map IntegrityReport.status = some .broken := by
    decide +kernel
  simp_all [Except.toOption]

end Postgres

end GlassBox
