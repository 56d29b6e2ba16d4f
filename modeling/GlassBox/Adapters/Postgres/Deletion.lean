import GlassBox.Adapters.Postgres.RowSecurity

/-!
# Deleting rows of a segment

Rows of a segment are deleted behind the store's back.  `verify` compares neither chain with what
its segment row keeps, so it accepts any beginning of a chain.
-/

namespace GlassBox

namespace Postgres

section Columns

variable [Runtime]

/-- The row of an outcome reads back as it was signed. -/
def Columns.KeepOutcome (columns : Columns) (record : OutcomeRecord) : Prop :=
  ∀ {stored seq prevHash payload}, columns.jsonb record.asEvidence = .ok stored →
    record.chainPayload seq prevHash = .ok payload →
    storedPayload seq prevHash stored = .ok payload

theorem exactColumns_keepOutcome (record : OutcomeRecord) : exactColumns.KeepOutcome record := by
  intro stored seq prevHash payload kept defined
  cases kept
  exact storedPayload_of_chainPayload defined

end Columns

inductive Append
  | intent (record : IntentRecord)
  | outcome (receipt : EvidenceReceipt) (record : OutcomeRecord)

section Invariant

variable [Runtime] {κ : Type} (store : PostgresEvidenceStore κ)

/-- The state a call leaves, whether it returns or raises. -/
def Append.step : Append → Signed κ Database → Signed κ Database
  | .intent record => (appendIntent store record).after
  | .outcome receipt record => (appendOutcome store receipt record).after

/-- The columns keep what the call writes. -/
def Append.Kept (columns : Columns) : Append → Signed κ Database → Prop
  | .intent record, _ => columns.Keep record
  | .outcome _ record, _ => columns.KeepOutcome record

/-- A segment to which records and outcomes have only been appended. -/
structure SegmentAppended (segment : SegmentRow) (rows : List IntentRow)
    (outcomes : List OutcomeRow) : Prop where
  unpurged : segment.purgedBeforeSeq = 0
  intents : SegmentChained store segment rows genesisPrevHash
  linked : outcomeRows.Linked (Genuine store.signer outcomeRows) 0 genesisPrevHash outcomes
  last_seq : segment.outcomeLastSeq + 1 = outcomes.length
  last_hash : segment.outcomeLastHash = outcomeRows.lastTag genesisPrevHash outcomes

/-- Tables to which records and outcomes have only been appended. -/
def Appended : Database → Prop :=
  EachSegment (SegmentAppended store)

variable {store} {state : Signed κ Database} {record : OutcomeRecord} {receipt : EvidenceReceipt}

theorem Appended.appendIntent (appended : Appended store state.store) {record : IntentRecord}
    (keeps : store.session.columns.Keep record) :
    Appended store ((appendIntent store record).after state).store := by
  refine EachSegment.appendIntent appended (fun _ _ => ⟨rfl, .opened _ _, trivial, rfl, rfl⟩) ?_
  intro segment rows outcomes row opened written
  obtain ⟨seq_eq, prev_eq, -⟩ := written.place
  exact ⟨opened.unpurged, opened.intents.concat seq_eq prev_eq (written.genuine keeps),
    opened.linked, opened.last_seq, opened.last_hash⟩

theorem OutcomeWritten.genuine {head : SegmentRow} {row : OutcomeRow}
    (written : OutcomeWritten store receipt record head row)
    (keeps : store.session.columns.KeepOutcome record) :
    Genuine store.signer outcomeRows row := by
  obtain ⟨payload, defined, produced⟩ := written.signed
  exact ⟨rfl, payload, keeps written.stored defined, produced⟩

theorem Appended.appendOutcome (appended : Appended store state.store)
    (keeps : store.session.columns.KeepOutcome record) :
    Appended store ((appendOutcome store receipt record).after state).store := by
  refine EStateM.after_of_ends (fun state : Signed κ Database => Appended store state.store) ?_
  refine (appendOutcome_commits state).mono ?_ fun _ _ unchanged => unchanged ▸ appended
  intro _ after committed
  generalize after.store = tables at committed ⊢
  cases committed with
  | known => exact appended
  | @added head row found written =>
    have before := appended.segments found
    have next : outcomeRows.Accepted (Genuine store.signer outcomeRows)
        (0 + (state.store.outcomeRows receipt.segmentId.val).length)
        (outcomeRows.lastTag genesisPrevHash (state.store.outcomeRows receipt.segmentId.val))
        row := by
      refine ⟨?_, written.prev_eq.trans before.last_hash, written.genuine keeps⟩
      rw [Int.zero_add, ← before.last_seq]
      exact written.seq_eq
    refine appended.replace receipt.segmentId.property rfl (fun other differs => ⟨rfl, ?_⟩) ?_
    · simp [Database.outcomeRows, written.segment_eq, Ne.symm differs]
    · have intents : SegmentChained store { head with
          outcomeLastSeq := row.seq, outcomeLastHash := row.recordHmac }
          (state.store.rows receipt.segmentId.val) genesisPrevHash := { before.intents with }
      simp only [Database.outcomeRows, List.filter_append, List.filter_cons_of_pos, List.filter_nil,
        written.segment_eq, decide_true]
      refine ⟨before.unpurged, intents, before.linked.concat next, ?_, ?_⟩
      · have last := before.last_seq
        rw [← written.seq_eq, Database.outcomeRows] at last
        rw [List.length_append, Nat.cast_add, ← last]
        rfl
      · rw [ChainView.lastTag_concat]
        rfl

theorem Appended.step (append : Append) (keeps : append.Kept store.session.columns state)
    (appended : Appended store state.store) :
    Appended store (append.step store state).store := by
  cases append with
  | intent record => exact appended.appendIntent keeps
  | outcome receipt record => exact appended.appendOutcome keeps

end Invariant

def RefusesIntents (result : Except PyError IntegrityReport) : Prop :=
  ∃ report, result = .ok report ∧ report.status.isAcceptable = false

/-- The report says that the outcome chain is not acceptable. -/
def RefusesOutcomes (result : Except PyError IntegrityReport) : Prop :=
  ∃ report, result = .ok report ∧ report.outcomeStatus.isAcceptable = false

section Verifying

variable [Runtime] {κ : Type} {store : PostgresEvidenceStore κ} {signer : κ} {segmentId : String}
  {segment : SegmentRow} {now : ℚ} {outcome : OutcomeReport} {rows : List IntentRow}

variable (unpurged : segment.purgedBeforeSeq = 0)
  (valid : IntegrityReport.Reportable segmentId .intact now none outcome)
include unpurged valid

/-- A linked intent chain of an unpurged segment is reported intact. -/
theorem verifyRows_of_linked (linked : (intentRows store.verifyColumns).Linked
      (Authentic store.signer signer (intentRows store.verifyColumns)) 0 genesisPrevHash rows) :
    ∃ report, verifyRows store signer segmentId rows segment now outcome = .ok report ∧
      report.status = .intact ∧ report.outcomeStatus = outcome.outcomeStatus := by
  obtain ⟨report, made, status, -, outcome_status⟩ :=
    IntegrityReport.make_of_reportable valid rows.length ""
  refine ⟨report, ?_, status, outcome_status⟩
  unfold verifyRows chainHead
  rw [unpurged, if_pos rfl, walk_of_linked linked]
  change reportAccepted segmentId rows.length segment now outcome = .ok report
  simpa only [reportAccepted, unpurged, lt_irrefl, if_false] using made

/-- Authentic intents of an unpurged segment are refused exactly when they are not linked. -/
theorem verifyRows_refuses_iff (nonneg : ∀ row ∈ rows, 0 ≤ row.seq) (authentic : ∀ row ∈ rows,
      Authentic store.signer signer (intentRows store.verifyColumns) row) :
    RefusesIntents (verifyRows store signer segmentId rows segment now outcome) ↔
      ¬ (intentRows store.verifyColumns).Linked
        (Authentic store.signer signer (intentRows store.verifyColumns)) 0 genesisPrevHash
          rows := by
  constructor
  · rintro ⟨report, returned, refused⟩ linked
    obtain ⟨other, verified, status, -⟩ := verifyRows_of_linked unpurged valid linked
    cases returned.symm.trans verified
    rw [status] at refused
    cases refused
  · intro unlinked
    obtain ⟨checked, finding, row, member, known, walked⟩ := walk_of_not_linked authentic unlinked
    have broken : ∃ report, reportFinding (intentRows store.verifyColumns) segmentId checked now
        finding row outcome = .ok report ∧ report.status = .broken ∧ _ :=
      reportFinding_of_known valid checked known (nonneg row member)
    obtain ⟨report, reported, status, -⟩ := broken
    refine ⟨report, ?_, by rw [status]; rfl⟩
    unfold verifyRows chainHead
    rw [unpurged, if_pos rfl, walked]
    exact reported

end Verifying

variable {Row Tag : Type}

theorem seq_nonneg_of_linked {view : ChainView Row Tag} {authentic : Row → Prop} {head : Tag}
    {rows : List Row} (linked : view.Linked authentic 0 head rows) :
    ∀ row ∈ rows, 0 ≤ view.seq row := by
  intro row member
  obtain ⟨index, seq_eq, -⟩ := linked.getElem_of_mem member
  omega

/-- The tables after intents of a segment were deleted behind the store's back. -/
def Database.withoutIntents (database : Database) (segmentId : String)
    (deleted : IntentRow → Bool) : Database :=
  { database with
    intents := database.intents.filter fun row =>
      !(decide (row.segmentId.val = segmentId) && deleted row) }

/-- The tables after outcomes of a segment were deleted behind the store's back. -/
def Database.withoutOutcomes (database : Database) (segmentId : String)
    (deleted : OutcomeRow → Bool) : Database :=
  { database with
    outcomes := database.outcomes.filter fun row =>
      !(decide (row.segmentId.val = segmentId) && deleted row) }

/-- Some row that is left stands behind a deleted one. -/
def LeavesGap {Row : Type} (seq : Row → Int) (rows : List Row) (deleted : Row → Bool) : Prop :=
  ∃ gone ∈ rows, ∃ left ∈ rows, deleted gone = true ∧ deleted left = false ∧ seq gone < seq left

instance {Row : Type} (seq : Row → Int) (rows : List Row) (deleted : Row → Bool) :
    Decidable (LeavesGap seq rows deleted) :=
  inferInstanceAs (Decidable (∃ gone ∈ rows, ∃ left ∈ rows, _))

theorem rows_withoutIntents (database : Database) (segmentId : String)
    (deleted : IntentRow → Bool) :
    (database.withoutIntents segmentId deleted).rows segmentId =
      (database.rows segmentId).filter fun row => !deleted row := by
  simp only [Database.rows, Database.withoutIntents, List.filter_filter]
  refine List.filter_congr fun row _ => ?_
  by_cases same : row.segmentId.val = segmentId <;> simp [same]

theorem outcomeRows_withoutOutcomes (database : Database) (segmentId : String)
    (deleted : OutcomeRow → Bool) :
    (database.withoutOutcomes segmentId deleted).outcomeRows segmentId =
      (database.outcomeRows segmentId).filter fun row => !deleted row := by
  simp only [Database.outcomeRows, Database.withoutOutcomes, List.filter_filter]
  refine List.filter_congr fun row _ => ?_
  by_cases same : row.segmentId.val = segmentId <;> simp [same]

theorem not_linked_filter_iff {view : ChainView Row Tag} {authentic : Row → Prop} {start : Int}
    {head : Tag} {rows : List Row} (linked : view.Linked authentic start head rows)
    (deleted : Row → Bool) :
    ¬ view.Linked authentic start head (rows.filter fun row => !deleted row) ↔
      LeavesGap view.seq rows deleted := by
  rw [linked.filter_iff]
  constructor
  · intro unlinked
    by_contra no_gap
    refine unlinked fun earlier earlier_mem later later_mem before kept => ?_
    by_contra gone
    exact no_gap ⟨earlier, earlier_mem, later, later_mem, by simpa using gone,
      by simpa using kept, before⟩
  · rintro ⟨gone, gone_mem, left, left_mem, was_deleted, kept, before⟩ closed
    have survived := closed gone gone_mem left left_mem before (by rw [kept]; rfl)
    rw [was_deleted] at survived
    cases survived

section Detection

variable [Runtime] {κ : Type} {store : PostgresEvidenceStore κ} {state : Signed κ Database}
  {segmentId : String} {segment : SegmentRow} {outcomes : List OutcomeRow}

theorem SegmentAppended.authentic {rows : List IntentRow}
    (appended : SegmentAppended store segment rows outcomes) (honest : store.signer.Honest)
    (signer : κ) :
    (intentRows store.verifyColumns).Linked
        (Authentic store.signer signer (intentRows store.verifyColumns)) 0 genesisPrevHash rows ∧
      outcomeRows.Linked (Authentic store.signer signer outcomeRows) 0 genesisPrevHash
        outcomes := by
  have linked := appended.intents.linked
  rw [appended.unpurged] at linked
  exact ⟨linked.mono fun row _ genuine => genuine.authentic honest signer,
    appended.linked.mono fun row _ genuine => genuine.authentic honest signer⟩

/-- Deleted intents are reported exactly when the session sees the rows and a gap is left. -/
theorem Appended.refusesIntents_iff (appended : Appended store state.store)
    (honest : store.signer.Honest) (found : state.store.segments segmentId = some segment)
    (deleted : IntentRow → Bool) (now : Timestamp) :
    RefusesIntents (verify store
        { state with store := state.store.withoutIntents segmentId deleted } segmentId now.val) ↔
      store.session.rowSecurity = false ∧
        LeavesGap IntentRow.seq (state.store.rows segmentId) deleted := by
  have before := appended.segments found
  obtain ⟨intents, outcomes⟩ := before.authentic honest state.signer
  have valid : IntegrityReport.Reportable segmentId .intact now.val none
      { outcomeRecordsChecked := (state.store.outcomeRows segmentId).length } :=
    ⟨appended.identifiers segmentId (by rw [found]; rfl), now.property, by simp, by simp, by simp,
      by simp⟩
  have sorted : outcomeChain { database := state.store.withoutIntents segmentId deleted }
      segmentId = state.store.outcomeRows segmentId :=
    List.Pairwise.insertionSort_eq (outcomes.pairwise_seq.imp fun below => le_of_lt below)
  have unfolded : verify store
        { state with store := state.store.withoutIntents segmentId deleted } segmentId now.val =
      verifyRows store state.signer segmentId (store.session.chain
        { database := state.store.withoutIntents segmentId deleted } segmentId) segment now.val
        { outcomeRecordsChecked := (state.store.outcomeRows segmentId).length } := by
    have found_left : (state.store.withoutIntents segmentId deleted).segments segmentId =
        some segment := found
    simp only [verify, found_left, sorted, verifyOutcomeChain_of_linked outcomes]
    rfl
  rw [unfolded]
  by_cases secured : store.session.rowSecurity = true
  · have unseen : store.session.chain
        { database := state.store.withoutIntents segmentId deleted } segmentId = [] := by
      simp [Session.chain, intents_unseen secured]
    rw [unseen, verifyRows_refuses_iff before.unpurged valid (by simp) (by simp)]
    simp [secured]
  · have sees_all : store.session.rowSecurity = false := by simpa using secured
    have left_sorted : ((state.store.rows segmentId).filter fun row => !deleted row).Pairwise
        fun left right => left.seq ≤ right.seq :=
      (intents.pairwise_seq.imp fun below => le_of_lt below).filter _
    have chain : store.session.chain
        { database := state.store.withoutIntents segmentId deleted } segmentId =
        (state.store.rows segmentId).filter fun row => !deleted row := by
      rw [chain_eq sees_all, rows_withoutIntents, left_sorted.insertionSort_eq]
    rw [chain, verifyRows_refuses_iff before.unpurged valid
        (fun row member => seq_nonneg_of_linked intents row (List.mem_filter.mp member).1)
        (fun row member => intents.authentic_of_mem (List.mem_filter.mp member).1),
      not_linked_filter_iff intents]
    exact ⟨fun gap => ⟨sees_all, gap⟩, fun seen => seen.2⟩

/-- The rows `verify` reads of an appended segment are linked, whatever the session sees. -/
theorem SegmentAppended.chain_linked {database : Database}
    (appended : SegmentAppended store segment (database.rows segmentId) outcomes)
    (honest : store.signer.Honest) (signer : κ) :
    (intentRows store.verifyColumns).Linked
      (Authentic store.signer signer (intentRows store.verifyColumns)) 0 genesisPrevHash
      (store.session.chain { database } segmentId) := by
  by_cases secured : store.session.rowSecurity = true
  · simp [Session.chain, intents_unseen secured]
  · rw [chain_eq (by simpa using secured), appended.intents.sorted]
    exact (appended.authentic honest signer).1

/-- Deleted outcomes are reported exactly when a gap is left. -/
theorem Appended.refusesOutcomes_iff (appended : Appended store state.store)
    (honest : store.signer.Honest) (found : state.store.segments segmentId = some segment)
    (deleted : OutcomeRow → Bool) (now : Timestamp) :
    RefusesOutcomes (verify store
        { state with store := state.store.withoutOutcomes segmentId deleted } segmentId
        now.val) ↔
      LeavesGap OutcomeRow.seq (state.store.outcomeRows segmentId) deleted := by
  have before := appended.segments found
  have outcomes := (before.authentic honest state.signer).2
  have identifier := appended.identifiers segmentId (by rw [found]; rfl)
  have left_sorted : ((state.store.outcomeRows segmentId).filter fun row => !deleted row).Pairwise
      fun left right => left.seq ≤ right.seq :=
    (outcomes.pairwise_seq.imp fun below => le_of_lt below).filter _
  have chain : outcomeChain { database := state.store.withoutOutcomes segmentId deleted }
      segmentId = (state.store.outcomeRows segmentId).filter fun row => !deleted row := by
    rw [← left_sorted.insertionSort_eq, ← outcomeRows_withoutOutcomes]
    rfl
  -- Whatever the outcome chain is found to be, the intents are intact and the report carries it.
  have reported : ∀ outcome, verifyOutcomeChain store.signer state.signer outcomeRows
        ((state.store.outcomeRows segmentId).filter fun row => !deleted row) = .ok outcome →
      IntegrityReport.Reportable segmentId .intact now.val none outcome →
      ∃ report, verify store
          { state with store := state.store.withoutOutcomes segmentId deleted } segmentId
          now.val = .ok report ∧ report.outcomeStatus = outcome.outcomeStatus := by
    intro outcome walked valid
    have found_left : (state.store.withoutOutcomes segmentId deleted).segments segmentId =
        some segment := found
    obtain ⟨report, verified, -, outcome_status⟩ := verifyRows_of_linked before.unpurged valid
      (before.chain_linked honest state.signer)
    refine ⟨report, ?_, outcome_status⟩
    simp only [verify, found_left, chain, walked]
    exact verified
  refine Iff.trans ?_ (not_linked_filter_iff outcomes deleted)
  constructor
  · rintro ⟨report, returned, refused⟩ linked
    obtain ⟨other, verified, status⟩ := reported _ (verifyOutcomeChain_of_linked linked)
      ⟨identifier, now.property, by simp, by simp, by simp, by simp⟩
    cases returned.symm.trans verified
    rw [status] at refused
    cases refused
  · intro unlinked
    obtain ⟨checked, row, member, walked⟩ := verifyOutcomeChain_of_not_linked
      (fun row member => outcomes.authentic_of_mem (List.mem_filter.mp member).1) unlinked
    have nonneg := seq_nonneg_of_linked outcomes row (List.mem_filter.mp member).1
    obtain ⟨report, verified, status⟩ := reported _ walked
      ⟨identifier, now.property, by simp, by simp, by simpa using nonneg, by simp⟩
    exact ⟨report, verified, by rw [status]; rfl⟩

/-- After every run of appends, deleted rows of a segment are reported exactly when a row behind
one of them is left, and intents only to a session which sees them. -/
theorem deletion_reported_iff (honest : store.signer.Honest) {start : κ}
    (run : Reaches (Append.Kept store.session.columns) (Append.step store) ⟨start, {}⟩ state)
    (segmentId : String) (now : Timestamp) :
    (∀ deleted : IntentRow → Bool,
      (∃ row ∈ state.store.rows segmentId, deleted row = true) →
      (RefusesIntents (verify store
          { state with store := state.store.withoutIntents segmentId deleted } segmentId
          now.val) ↔
        store.session.rowSecurity = false ∧
          LeavesGap IntentRow.seq (state.store.rows segmentId) deleted)) ∧
    ∀ deleted : OutcomeRow → Bool,
      (∃ row ∈ state.store.outcomeRows segmentId, deleted row = true) →
      (RefusesOutcomes (verify store
          { state with store := state.store.withoutOutcomes segmentId deleted } segmentId
          now.val) ↔
        LeavesGap OutcomeRow.seq (state.store.outcomeRows segmentId) deleted) := by
  have appended : Appended store state.store := by
    refine run.invariant (fun state => Appended store state.store) eachSegment_empty ?_
    exact fun append _ keeps appended => appended.step append keeps
  cases found : state.store.segments segmentId with
  | none =>
    obtain ⟨no_rows, no_outcomes⟩ := appended.no_orphans found
    rw [no_rows, no_outcomes]
    exact ⟨by simp, by simp⟩
  | some segment =>
    exact ⟨fun deleted _ => appended.refusesIntents_iff honest found deleted now,
      fun deleted _ => appended.refusesOutcomes_iff honest found deleted now⟩

end Detection

def sampleAppends : List Append :=
  [.intent (sampleRecord Sample.decision1 Sample.segment),
    .intent (sampleRecord Sample.decision2 Sample.segment),
    .outcome (sampleReceipt Sample.decision1 Sample.segment)
      (sampleOutcome Sample.decision1)]

attribute [local instance] plainRuntime

def sampleAppended : Signed UInt8 Database :=
  runAll (Append.step sampleStore) sampleAppends ⟨0, {}⟩

private theorem sampleAppended_reached :
    Reaches (Append.Kept exactColumns) (Append.step sampleStore) ⟨0, {}⟩ sampleAppended := by
  have permits : Permits (Append.Kept exactColumns) (Append.step sampleStore) sampleAppends
      ⟨0, {}⟩ :=
    ⟨exactColumns_keep _, exactColumns_keep _, exactColumns_keepOutcome _, trivial⟩
  exact permits.reaches

theorem deletion_reported_of_first :
    RefusesIntents (verify sampleStore
      { sampleAppended with
        store := sampleAppended.store.withoutIntents "segment" (·.seq = 0) } "segment" 0) := by
  have reported := (@deletion_reported_iff _ _ sampleStore _ MacSigner.counter_honest _
    sampleAppended_reached "segment" ⟨0, by decide +kernel⟩).1 fun row => row.seq = 0
  exact (reported (by decide +kernel)).mpr ⟨rfl, by decide +kernel⟩

/-- Neither the newest record nor the only outcome is missed. -/
theorem last_deletion_unreported :
    (¬ ∀ state, Reaches (Append.Kept exactColumns) (Append.step sampleStore) ⟨0, {}⟩ state →
      ∀ (segmentId : String) (now : Timestamp) (deleted : IntentRow → Bool),
        (∃ row ∈ state.store.rows segmentId, deleted row = true) →
        RefusesIntents (verify sampleStore
          { state with store := state.store.withoutIntents segmentId deleted } segmentId
          now.val)) ∧
    ¬ ∀ state, Reaches (Append.Kept exactColumns) (Append.step sampleStore) ⟨0, {}⟩ state →
      ∀ (segmentId : String) (now : Timestamp) (deleted : OutcomeRow → Bool),
        (∃ row ∈ state.store.outcomeRows segmentId, deleted row = true) →
        RefusesOutcomes (verify sampleStore
          { state with store := state.store.withoutOutcomes segmentId deleted } segmentId
          now.val) := by
  constructor
  · intro claim
    obtain ⟨report, verified, refused⟩ := claim sampleAppended sampleAppended_reached "segment"
      ⟨0, by decide +kernel⟩ (fun row => row.seq = 1) (by decide +kernel)
    have status : (verify sampleStore
        { sampleAppended with
          store := sampleAppended.store.withoutIntents "segment" (·.seq = 1) } "segment"
        0).toOption.map (·.status.isAcceptable) = some true := by
      decide +kernel
    simp_all [Except.toOption]
  · intro claim
    obtain ⟨report, verified, refused⟩ := claim sampleAppended sampleAppended_reached "segment"
      ⟨0, by decide +kernel⟩ (fun _ => true) (by decide +kernel)
    have status : (verify sampleStore
        { sampleAppended with
          store := sampleAppended.store.withoutOutcomes "segment" fun _ => true } "segment"
        0).toOption.map (·.outcomeStatus.isAcceptable) = some true := by
      decide +kernel
    simp_all [Except.toOption]

end Postgres

end GlassBox
