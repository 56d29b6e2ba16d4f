import GlassBox.Adapters.Postgres.EvidenceStore

/-!
# What an append commits

`append_intent` opens the segment of its record and finds the decision or writes one row;
`append_outcome` finds the completion or writes one row.  A method which raises leaves the tables
as they were.
-/

namespace GlassBox

open EStateM

namespace Postgres

def Database.withSegment (database : Database) (segmentId : String) (segment : SegmentRow) :
    Database :=
  { database with segments := Function.update database.segments segmentId (some segment) }

/-- The segment of a record once `_INSERT_SEGMENT` ran. -/
def Database.opened (database : Database) (clock : ℚ) (record : IntentRecord) : SegmentRow :=
  (database.segments record.segmentId.val).getD
    { tenantId := record.tenantId, openedAt := clock, lastHash := genesisPrevHash }

/-- The live rows of a segment, in the order of insertion. -/
def Database.rows (database : Database) (segmentId : String) : List IntentRow :=
  database.intents.filter (·.segmentId.val = segmentId)

def Database.outcomeRows (database : Database) (segmentId : String) : List OutcomeRow :=
  database.outcomes.filter (·.segmentId.val = segmentId)

structure ReceiptOf (row : IntentRow) (receipt : EvidenceReceipt) : Prop where
  decisionId_eq : receipt.decisionId = row.decisionId
  segmentId_eq : receipt.segmentId = row.segmentId
  seq_eq : receipt.seq = row.seq.toNat
  recordHmac_eq : receipt.recordHmac.val = row.recordHmac

theorem ReceiptOf.of_row {row : IntentRow} {receipt : EvidenceReceipt}
    (read : receiptOfRow row = .ok receipt) : ReceiptOf row receipt := by
  obtain ⟨_, -, made⟩ := Except.bind_eq_ok_iff.mp read
  obtain ⟨decision_eq, segment_eq, seq_eq, mac_eq⟩ := EvidenceReceipt.of_make made
  exact ⟨decision_eq, segment_eq, seq_eq, mac_eq⟩

section Intents

variable [Runtime] {κ : Type} (store : PostgresEvidenceStore κ) (record : IntentRecord)

/-- The row `append_intent` writes behind a segment. -/
structure IntentWritten (segment : SegmentRow) (row : IntentRow) : Prop where
  built : rowOfRecord store.session.columns record (segment.lastSeq + 1) segment.lastHash
    row.recordHmac row.signerKeyId = .ok row
  signed : ∃ payload, record.chainPayload (segment.lastSeq + 1) segment.lastHash = .ok payload ∧
    store.signer.Produced payload row.recordHmac row.signerKeyId

/-- What `append_intent` commits when it returns a receipt. -/
inductive IntentCommitted (before : Database) (receipt : EvidenceReceipt) : Database → Prop
  /-- The decision has a row, wherever it is. -/
  | known {row : IntentRow} (stored : row ∈ before.intents)
      (same : row.decisionId = record.decisionId) (read : ReceiptOf row receipt) :
      IntentCommitted before receipt (before.withSegment record.segmentId.val
        (before.opened store.session.clock record))
  /-- A row was written behind the segment. -/
  | added {row : IntentRow}
      (written : IntentWritten store record (before.opened store.session.clock record) row)
      (fresh : store.session.rowSecurity = false →
        ∀ other ∈ before.intents, other.decisionId ≠ record.decisionId)
      (read : ReceiptOf row receipt) :
      IntentCommitted before receipt {
        before.withSegment record.segmentId.val
          { before.opened store.session.clock record with
            lastSeq := row.seq, lastHash := row.recordHmac } with
        intents := before.intents ++ [row] }

variable {store record} {segment : SegmentRow} {row : IntentRow}

theorem IntentWritten.place (written : IntentWritten store record segment row) :
    row.seq = segment.lastSeq + 1 ∧ row.prevHash = segment.lastHash ∧
      row.segmentId = record.segmentId ∧ row.decisionId = record.decisionId := by
  obtain ⟨_, -, built⟩ := Except.bind_eq_ok_iff.mp written.built
  have row_eq := Except.ok.inj built
  exact ⟨congrArg IntentRow.seq row_eq.symm, congrArg IntentRow.prevHash row_eq.symm,
    congrArg IntentRow.segmentId row_eq.symm, congrArg IntentRow.decisionId row_eq.symm⟩

theorem IntentWritten.of_built {mac payload : ByteString} {keyId : String}
    (built : rowOfRecord store.session.columns record (segment.lastSeq + 1) segment.lastHash mac
      keyId = .ok row)
    (defined : record.chainPayload (segment.lastSeq + 1) segment.lastHash = .ok payload)
    (produced : store.signer.Produced payload mac keyId) :
    IntentWritten store record segment row ∧ row.seq = segment.lastSeq + 1 ∧
      row.recordHmac = mac := by
  have again := built
  obtain ⟨_, -, made⟩ := Except.bind_eq_ok_iff.mp again
  cases made
  exact ⟨⟨built, payload, defined, produced⟩, rfl, rfl⟩

section Signing

variable {relation : κ → κ → Prop} (reflexive : ∀ signer, relation signer signer)
  (signs : ∀ {seq prevHash payload}, record.chainPayload seq prevHash = .ok payload →
    ∀ signer, relation signer ((store.signer.mac payload).after signer))

include reflexive signs

/-- Writing the row of a new decision, which signs the record's payload or does not sign. -/
theorem appendNew_ends {before : Database} {state : Signed κ Transaction}
    (fresh : store.session.rowSecurity = false →
      ∀ other ∈ before.intents, other.decisionId ≠ record.decisionId)
    (opened : state.store.database = before.withSegment record.segmentId.val
      (before.opened store.session.clock record)) :
    (appendNew store record (before.opened store.session.clock record)).Ends state
      (fun receipt after => IntentCommitted store record before receipt after.store.database ∧
        relation state.signer after.signer)
      fun _ after => relation state.signer after.signer := by
  simp only [appendNew, ends_bind, ends_ofExcept]
  split
  · rename_i payload defined
    have signed := signs defined state.signer
    simp only [Signed.onSigner, ends_zoom]
    refine MacSigner.ends_macOfRecord_of (fun mac signer run => ?_) fun _ _ run _ =>
      after_of_error run ▸ signed
    rw [after_of_ok run] at signed
    rw [ends_get]
    split
    · rename_i row built
      obtain ⟨written, seq_eq, mac_eq⟩ := IntentWritten.of_built built defined ⟨_, _, run, rfl⟩
      simp only [insertIntent, ends_bind, ends_get, ends_ofExcept]
      split
      · simp only [modifyDatabase, Signed.modifyStore, ends_modify]
        refine ends_updateSegment (fun missing => ?_) (fun segment found => ?_) fun _ => signed
        · simp [opened, Database.withSegment] at missing
        · simp only [opened, Database.withSegment, Function.update_self, Option.some_inj] at found
          split
          · rename_i receipt made
            obtain ⟨-, -, segment_eq, decision_eq⟩ := written.place
            obtain ⟨made_decision, made_segment, made_seq, made_mac⟩ :=
              EvidenceReceipt.of_make made
            have committed := IntentCommitted.added written fresh
              ⟨made_decision.trans decision_eq.symm, made_segment.trans segment_eq.symm,
                made_seq.trans (by rw [seq_eq]), made_mac.trans mac_eq.symm⟩
            subst found
            refine ⟨?_, signed⟩
            simpa only [opened, Database.withSegment, Function.update_idem, seq_eq, mac_eq] using
              committed
          · exact signed
      · exact signed
    · exact signed
  · exact reflexive _

/-- `append_intent` commits what it returns a receipt for, and nothing when it raises; it signs the
payload of its record, or does not sign. -/
theorem appendIntent_ends (state : Signed κ Database) : (appendIntent store record).Ends state
      (fun receipt after => IntentCommitted store record state.store receipt after.store ∧
        relation state.signer after.signer)
      fun _ after => after.store = state.store ∧ relation state.signer after.signer := by
  refine ends_wrapping.mpr (ends_transaction.mpr ?_)
  simp only [appendBlock, ends_bind, setTenantContext, insertSegment, modifyDatabase,
    Signed.modifyStore, ends_modify, ends_get, Function.update_self]
  split
  · exact ⟨trivial, reflexive _⟩
  · simp only [ends_bind, ends_get]
    split
    · rename_i existing found
      have stored := (List.mem_filter.mp (List.mem_of_find?_eq_some found)).1
      have same : existing.decisionId = record.decisionId := by
        simpa using List.find?_some found
      rw [ends_ofExcept]
      split
      · rename_i read
        exact ⟨.known stored same (.of_row read), reflexive _⟩
      · exact ⟨trivial, reflexive _⟩
    · rename_i absent
      refine (appendNew_ends reflexive signs (fun sees_all other member => ?_) rfl).mono
        (fun _ _ ended => ended) fun _ _ signed => ⟨trivial, signed⟩
      rw [List.find?_eq_none] at absent
      simpa using absent other (by simpa [Session.intents, Session.sees, sees_all] using member)

theorem appendIntent_signs (state : Signed κ Database) :
    relation state.signer ((appendIntent store record).after state).signer :=
  after_of_ends (fun after : Signed κ Database => relation state.signer after.signer)
    ((appendIntent_ends reflexive signs state).mono (fun _ _ ended => ended.2)
      fun _ _ ended => ended.2)

end Signing

theorem appendIntent_commits (state : Signed κ Database) : (appendIntent store record).Ends state
      (fun receipt after => IntentCommitted store record state.store receipt after.store)
      fun _ after => after.store = state.store :=
  (@appendIntent_ends _ _ _ _ (fun _ _ => True) (fun _ => trivial) (fun _ _ => trivial) state).mono
    (fun _ _ ended => ended.1) fun _ _ ended => ended.1

end Intents

section Outcomes

variable [Runtime] {κ : Type} (store : PostgresEvidenceStore κ) (receipt : EvidenceReceipt)
  (record : OutcomeRecord)

/-- The row `append_outcome` writes behind the outcome chain of a segment. -/
structure OutcomeWritten (head : SegmentRow) (row : OutcomeRow) : Prop where
  stored : store.session.columns.jsonb record.asEvidence = .ok row.record
  seq_eq : row.seq = head.outcomeLastSeq + 1
  prev_eq : row.prevHash = head.outcomeLastHash
  segment_eq : row.segmentId = receipt.segmentId
  signed : ∃ payload, record.chainPayload row.seq row.prevHash = .ok payload ∧
    store.signer.Produced payload row.recordHmac row.signerKeyId

/-- What `append_outcome` commits when it returns. -/
inductive OutcomeCommitted (before : Database) : Database → Prop
  /-- The completion has a row. -/
  | known : OutcomeCommitted before before
  /-- A row was written behind the outcome chain. -/
  | added {head : SegmentRow} {row : OutcomeRow}
      (found : before.segments receipt.segmentId.val = some head)
      (written : OutcomeWritten store receipt record head row) :
      OutcomeCommitted before {
        before.withSegment receipt.segmentId.val
          { head with outcomeLastSeq := row.seq, outcomeLastHash := row.recordHmac } with
        outcomes := before.outcomes ++ [row] }

variable {store receipt record}

section Signing

variable {relation : κ → κ → Prop} (reflexive : ∀ signer, relation signer signer)

include reflexive

/-- Writing the row of a completion, which signs the record's payload or does not sign. -/
theorem appendOutcomeRow_ends
    (signs : ∀ {seq prevHash payload}, record.chainPayload seq prevHash = .ok payload →
      ∀ signer, relation signer ((store.signer.mac payload).after signer))
    {head : SegmentRow} {state : Signed κ Transaction}
    (found : state.store.database.segments receipt.segmentId.val = some head) :
    (appendOutcomeRow store receipt record head).Ends state
      (fun _ after =>
        OutcomeCommitted store receipt record state.store.database after.store.database ∧
          relation state.signer after.signer)
      fun _ after => relation state.signer after.signer := by
  simp only [appendOutcomeRow, ends_bind, ends_ofExcept]
  split
  · rename_i payload defined
    have signed := signs defined state.signer
    simp only [Signed.onSigner, ends_zoom]
    refine MacSigner.ends_macOfRecord_of (fun mac signer run => ?_) fun _ _ run _ =>
      after_of_error run ▸ signed
    rw [after_of_ok run] at signed
    rw [ends_get]
    split
    · rename_i stored stored_eq
      simp only [upsertOutcome, ends_bind, ends_get]
      split
      · exact signed
      · split
        · exact ⟨.known, signed⟩
        · simp only [modifyDatabase, Signed.modifyStore, ends_bind, ends_modify, ends_pure, if_true]
          refine ends_updateSegment (fun missing => ?_) (fun segment again => ?_) fun _ => signed
          · cases found.symm.trans missing
          · cases found.symm.trans again
            have written : OutcomeWritten store receipt record head {
                decisionId := record.decisionId
                completedAt := store.session.columns.timestamp record.outcome.completedAt.val
                segmentId := receipt.segmentId
                seq := head.outcomeLastSeq + 1
                record := stored
                prevHash := head.outcomeLastHash
                recordHmac := mac
                signerKeyId := store.signer.keyId signer } :=
              ⟨stored_eq, rfl, rfl, rfl, payload, defined, _, _, run, rfl⟩
            exact ⟨.added found written, signed⟩
    · exact signed
  · exact reflexive _

section

variable (signs : receipt.decisionId = record.decisionId → ∀ {seq prevHash payload},
  record.chainPayload seq prevHash = .ok payload → ∀ signer, relation signer ((store.signer.mac
  payload).after signer))
include signs

/-- `append_outcome` commits one row or none, and nothing when it raises; it signs the payload of
its record, and only after a receipt of the same decision was given, or it does not sign. -/
theorem appendOutcome_ends (state : Signed κ Database) :
    (appendOutcome store receipt record).Ends state
      (fun _ after => OutcomeCommitted store receipt record state.store after.store ∧
        relation state.signer after.signer)
      fun _ after => after.store = state.store ∧ relation state.signer after.signer := by
  unfold appendOutcome
  split
  · exact ⟨rfl, reflexive _⟩
  · rename_i same
    refine ends_wrapping.mpr (ends_transaction.mpr ?_)
    simp only [outcomeBlock, ends_bind, ends_get]
    split
    · exact ⟨trivial, reflexive _⟩
    · simp only [ends_bind, ends_get]
      split
      · exact ⟨trivial, reflexive _⟩
      · rename_i head found
        exact (appendOutcomeRow_ends reflexive (signs (not_not.mp same)) found).mono
          (fun _ _ ended => ended) fun _ _ signed => ⟨trivial, signed⟩

theorem appendOutcome_signs (state : Signed κ Database) :
    relation state.signer ((appendOutcome store receipt record).after state).signer :=
  after_of_ends (fun after : Signed κ Database => relation state.signer after.signer)
    ((appendOutcome_ends reflexive signs state).mono (fun _ _ ended => ended.2)
      fun _ _ ended => ended.2)

end

end Signing

theorem appendOutcome_commits (state : Signed κ Database) :
    (appendOutcome store receipt record).Ends state
      (fun _ after => OutcomeCommitted store receipt record state.store after.store)
      fun _ after => after.store = state.store :=
  (@appendOutcome_ends _ _ _ _ _ (fun _ _ => True) (fun _ => trivial) (fun _ _ _ _ _ _ => trivial)
    state).mono (fun _ _ ended => ended.1) fun _ _ ended => ended.1

theorem appendOutcome_intents (state : Signed κ Database) :
    ((appendOutcome store receipt record).after state).store.intents = state.store.intents := by
  refine after_of_ends (fun after : Signed κ Database =>
    after.store.intents = state.store.intents) ?_
  refine (appendOutcome_commits state).mono ?_ fun _ _ unchanged => by rw [unchanged]
  intro _ after committed
  generalize after.store = tables at committed ⊢
  cases committed with
  | known | added found written => rfl

end Outcomes

/-- A store whose session sees all rows and whose columns keep what they are given. -/
def sampleStore : PostgresEvidenceStore UInt8 where
  session := { columns := exactColumns, clock := 0, rowSecurity := false }
  signer := MacSigner.counter

end Postgres

end GlassBox
