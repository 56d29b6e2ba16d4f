import GlassBox.Foundation.Interleaving
import GlassBox.Adapters.Postgres.Appends

/-!
# Appending statement by statement

`append_intent`, one statement at a time.  A call keeps the lock of its segment until its
transaction ends, a query reads what was committed, and an insert waits for an uncommitted row with
one of its keys.
-/

namespace GlassBox

namespace Postgres

inductive Phase where
  | ready
  /-- `_INSERT_SEGMENT` ran, and inserted this row if the segment was absent. -/
  | opened (inserted : Option SegmentRow)
  /-- `_SELECT_SEGMENT_FOR_UPDATE` returned this row. -/
  | locked (segment : SegmentRow)
  /-- `_SELECT_RECEIPT_BY_DECISION` returned nothing. -/
  | unseen (segment : SegmentRow)
  /-- The parameters of `_INSERT_INTENT` are signed. -/
  | signed (segment : SegmentRow) (row : IntentRow)
  | written (segment : SegmentRow) (row : IntentRow)
  /-- The block is about to return; its changes are still its own. -/
  | finishing (segment : SegmentRow) (row : Option IntentRow) (receipt : EvidenceReceipt)
  /-- The changes were committed. -/
  | returned (receipt : EvidenceReceipt)
  /-- The changes were rolled back. -/
  | raised (error : PyError)

namespace Phase

def isOpen : Phase → Bool
  | .ready | .returned _ | .raised _ => false
  | _ => true

def holdsSegment : Phase → Bool
  | .ready | .opened _ | .returned _ | .raised _ => false
  | _ => true

/-- The row which was inserted and not committed. -/
def uncommitted : Phase → Option IntentRow
  | .written _ row => some row
  | .finishing _ row _ => row
  | _ => none

variable {phase : Phase}

theorem holdsSegment_of_uncommitted (inserted : phase.uncommitted.isSome = true) :
    phase.holdsSegment = true := by
  cases phase <;> first | rfl | cases inserted

theorem isOpen_of_holdsSegment (holds : phase.holdsSegment = true) :
    phase.isOpen = true := by
  cases phase <;> first | rfl | cases holds

end Phase

/-- Two rows share the primary key or the key of the decision index. -/
def IntentRow.Conflicts (row other : IntentRow) : Prop :=
  other.createdAt = row.createdAt ∧ (other.decisionId = row.decisionId ∨
    other.segmentId = row.segmentId ∧ other.seq = row.seq)

instance (row other : IntentRow) : Decidable (row.Conflicts other) :=
  inferInstanceAs (Decidable (_ ∧ _))

section Statements

variable [Runtime] {ι κ : Type} [Fintype ι] [DecidableEq ι] (store : PostgresEvidenceStore κ)
  (records : ι → IntentRecord)

/-- The calls over the committed tables. -/
abbrev Appends (ι κ : Type) := Interleaved ι (Signed κ Database) Phase

/-- Another call on the same segment is in such a phase. -/
def Rivalled (holds : Phase → Bool) (state : Appends ι κ) (i : ι) : Prop :=
  ∃ j, j ≠ i ∧ (records j).segmentId = (records i).segmentId ∧ holds (state.phases j) = true

instance (holds : Phase → Bool) (state : Appends ι κ) (i : ι) :
    Decidable (Rivalled records holds state i) :=
  inferInstanceAs (Decidable (∃ _, _))

/-- Another call inserted a row with a key of this one. -/
def Awaited (state : Appends ι κ) (i : ι) (row : IntentRow) : Prop :=
  ∃ j, j ≠ i ∧ ∃ other ∈ (state.phases j).uncommitted, row.Conflicts other

instance (state : Appends ι κ) (i : ι) (row : IntentRow) : Decidable (Awaited state i row) :=
  inferInstanceAs (Decidable (∃ _, _))

/-- Sign the record and convert it to the parameters of `_INSERT_INTENT`. -/
def signRow (record : IntentRecord) (segment : SegmentRow) : EStateM PyError κ IntentRow := do
  let seq := segment.lastSeq + 1
  let payload ← ofExcept (record.chainPayload seq segment.lastHash)
  let mac ← store.signer.macOfRecord record.decisionId payload
  let keyId := store.signer.keyId (← get)
  ofExcept (rowOfRecord store.session.columns record seq segment.lastHash mac keyId)

/-- `_INSERT_SEGMENT`; it waits for a call which inserted the same segment. -/
def openSegment (state : Appends ι κ) (i : ι) : Option Phase :=
  match state.shared.store.segments (records i).segmentId.val with
  | some _ => some (.opened none)
  | none =>
    if Rivalled records Phase.isOpen state i then none
    else some (.opened (some {
      tenantId := (records i).tenantId
      openedAt := store.session.clock
      lastHash := genesisPrevHash }))

/-- `_SELECT_SEGMENT_FOR_UPDATE`; it waits for the lock. -/
def lockSegment (state : Appends ι κ) (i : ι) (inserted : Option SegmentRow) : Option Phase :=
  if Rivalled records Phase.holdsSegment state i then none
  else
    match inserted.or (state.shared.store.segments (records i).segmentId.val) with
    | none => some (.raised (.evidenceWrite "evidence segment could not be created or locked"
        [("segment_id", .str (records i).segmentId.val)]))
    | some segment =>
      if segment.sealedAt.isSome then
        some (.raised (.evidenceWrite "cannot append to a sealed segment"
          [("segment_id", .str (records i).segmentId.val)]))
      else some (.locked segment)

def openTransaction (database : Database) (record : IntentRecord) : Transaction :=
  { database, tenant := some record.tenantId.val }

/-- `_SELECT_RECEIPT_BY_DECISION`. -/
def selectReceipt (database : Database) (record : IntentRecord) (segment : SegmentRow) : Phase :=
  match (store.session.intents (openTransaction database record)).find?
      (·.decisionId = record.decisionId) with
  | none => .unseen segment
  | some existing =>
    match receiptOfRow existing with
    | .ok receipt => .finishing segment none receipt
    | .error error => .raised error

/-- `_INSERT_INTENT`; it waits for a call which inserted a row with one of its keys. -/
def insertRow (state : Appends ι κ) (i : ι) (segment : SegmentRow) (row : IntentRow) :
    Option Phase :=
  if Awaited state i row then none
  else
    match store.session.insertable (openTransaction state.shared.store (records i)) row with
    | .ok _ => some (.written segment row)
    | .error error => some (.raised error)

/-- `_ADVANCE_SEGMENT` and the receipt. -/
def advanceSegment (record : IntentRecord) (segment : SegmentRow) (row : IntentRow) : Phase :=
  let advanced := { segment with lastSeq := row.seq, lastHash := row.recordHmac }
  if advanced.Checked then
    match EvidenceReceipt.make record.decisionId record.segmentId row.seq.toNat row.recordHmac
        row.signerKeyId record.createdAt with
    | .ok receipt => .finishing advanced (some row) receipt
    | .error error => .raised error
  else .raised (driverError "CheckViolation" "evidence_segment")

/-- The tables once a call committed its changes. -/
def Database.commit (database : Database) (segmentId : String) (segment : SegmentRow)
    (row : Option IntentRow) : Database :=
  { database.withSegment segmentId segment with intents := database.intents ++ row.toList }

/-- The next statement of one call; a call which has to wait stays where it is. -/
def statement (i : ι) (state : Appends ι κ) : Appends ι κ :=
  let enter (phase : Phase) := state.move i state.shared phase
  match state.phases i with
  | .ready => (openSegment store records state i).elim state enter
  | .opened inserted => (lockSegment records state i inserted).elim state enter
  | .locked segment => enter (selectReceipt store state.shared.store (records i) segment)
  | .unseen segment =>
    match signRow store (records i) segment state.shared.signer with
    | .ok row signer => state.move i { state.shared with signer } (.signed segment row)
    | .error error signer => state.move i { state.shared with signer } (.raised error)
  | .signed segment row => (insertRow store records state i segment row).elim state enter
  | .written segment row => enter (advanceSegment (records i) segment row)
  | .finishing segment row receipt =>
    state.move i { state.shared with
      store := state.shared.store.commit (records i).segmentId.val segment row }
      (.returned receipt)
  | .returned _ | .raised _ => state

end Statements

section Transitions

variable {ι κ : Type} [DecidableEq ι] (store : PostgresEvidenceStore κ) (records : ι → IntentRecord)

/-- The time of a record, as its row keeps it. -/
def columnTime (record : IntentRecord) : ℚ :=
  store.session.columns.timestamp record.createdAt.val

structure RowOf (record : IntentRecord) (row : IntentRow) : Prop where
  decisionId_eq : row.decisionId = record.decisionId
  segmentId_eq : row.segmentId = record.segmentId
  createdAt_eq : row.createdAt = columnTime store record

inductive Transition (i : ι) (state : Appends ι κ) : Appends ι κ → Prop
  /-- The call waits, or has ended. -/
  | waits : Transition i state state
  | fails {signer : κ} {error : PyError} :
      Transition i state (state.move i { state.shared with signer } (.raised error))
  | opens {inserted : Option SegmentRow} (ready : state.phases i = .ready) :
      Transition i state (state.move i state.shared (.opened inserted))
  | locks {inserted : Option SegmentRow} {segment : SegmentRow}
      (opened : state.phases i = .opened inserted)
      (free : ¬ Rivalled records Phase.holdsSegment state i) :
      Transition i state (state.move i state.shared (.locked segment))
  | misses {segment : SegmentRow} (locked : state.phases i = .locked segment)
      (absent : store.session.rowSecurity = false →
        ∀ row ∈ state.shared.store.intents, row.decisionId ≠ (records i).decisionId) :
      Transition i state (state.move i state.shared (.unseen segment))
  | finds {segment : SegmentRow} {row : IntentRow} {receipt : EvidenceReceipt}
      (locked : state.phases i = .locked segment) (stored : row ∈ state.shared.store.intents)
      (same : row.decisionId = (records i).decisionId) (read : ReceiptOf row receipt) :
      Transition i state (state.move i state.shared (.finishing segment none receipt))
  | signs {segment : SegmentRow} {row : IntentRow} {signer : κ}
      (unseen : state.phases i = .unseen segment) (built : RowOf store (records i) row) :
      Transition i state (state.move i { state.shared with signer } (.signed segment row))
  | inserts {segment : SegmentRow} {row : IntentRow}
      (signed : state.phases i = .signed segment row) (free : ¬ Awaited state i row)
      (unique : ∀ other ∈ state.shared.store.intents, ¬ row.Conflicts other) :
      Transition i state (state.move i state.shared (.written segment row))
  | advances {segment advanced : SegmentRow} {row : IntentRow} {receipt : EvidenceReceipt}
      (written : state.phases i = .written segment row)
      (made : EvidenceReceipt.make (records i).decisionId (records i).segmentId row.seq.toNat
        row.recordHmac row.signerKeyId (records i).createdAt = .ok receipt) :
      Transition i state (state.move i state.shared (.finishing advanced (some row) receipt))
  | commits {segment : SegmentRow} {row : Option IntentRow} {receipt : EvidenceReceipt}
      (finishing : state.phases i = .finishing segment row receipt) :
      Transition i state (state.move i { state.shared with
        store := state.shared.store.commit (records i).segmentId.val segment row }
        (.returned receipt))

variable {store records} {i : ι} {state : Appends ι κ} {segment : SegmentRow} {row : IntentRow}

/-- A call fails without signing. -/
theorem Transition.fails_quietly {error : PyError} :
    Transition store records i state (state.move i state.shared (.raised error)) :=
  .fails

theorem transition_selectReceipt (locked : state.phases i = .locked segment) :
    Transition store records i state (state.move i state.shared
      (selectReceipt store state.shared.store (records i) segment)) := by
  unfold selectReceipt
  split
  · rename_i absent
    refine .misses locked fun sees_all row stored => ?_
    rw [List.find?_eq_none] at absent
    simpa using absent row
      (by simpa [Session.intents, Session.sees, sees_all, openTransaction] using stored)
  · rename_i existing found
    split
    · rename_i read
      refine .finds locked ?_ (by simpa using List.find?_some found) (.of_row read)
      exact (List.mem_filter.mp (List.mem_of_find?_eq_some found)).1
    · exact .fails_quietly

theorem transition_advanceSegment (written : state.phases i = .written segment row) :
    Transition store records i state (state.move i state.shared
      (advanceSegment (records i) segment row)) := by
  unfold advanceSegment
  dsimp only
  split
  · split
    · rename_i made
      exact .advances written made
    · exact .fails_quietly
  · exact .fails_quietly

variable [Fintype ι]

theorem transition_openSegment (ready : state.phases i = .ready) :
    Transition store records i state ((openSegment store records state i).elim state
      fun phase => state.move i state.shared phase) := by
  unfold openSegment
  split
  · exact .opens ready
  · split
    · exact .waits
    · exact .opens ready

theorem transition_lockSegment {inserted : Option SegmentRow}
    (opened : state.phases i = .opened inserted) :
    Transition store records i state ((lockSegment records state i inserted).elim state
      fun phase => state.move i state.shared phase) := by
  unfold lockSegment
  split
  · exact .waits
  · rename_i free
    split
    · exact .fails_quietly
    · split
      · exact .fails_quietly
      · exact .locks opened free

variable (store) in
theorem signRow_rowOf [Runtime] (record : IntentRecord) (segment : SegmentRow) (signer : κ) :
    (signRow store record segment).Ends signer (fun row _ => RowOf store record row)
      fun _ _ => True := by
  simp only [signRow, EStateM.ends_bind, EStateM.ends_ofExcept]
  split
  · refine MacSigner.ends_macOfRecord (fun mac after signed => ?_) fun _ _ => trivial
    rw [EStateM.ends_get]
    split
    · rename_i row built
      obtain ⟨_, -, made⟩ := Except.bind_eq_ok_iff.mp built
      have row_eq := (Except.ok.inj made).symm
      exact ⟨congrArg IntentRow.decisionId row_eq, congrArg IntentRow.segmentId row_eq,
        congrArg IntentRow.createdAt row_eq⟩
    · trivial
  · trivial

theorem not_conflicts_of_insertable {current : Transaction}
    (accepted : store.session.insertable current row = .ok ()) :
    ∀ other ∈ current.database.intents, ¬ row.Conflicts other := by
  unfold Session.insertable at accepted
  split at accepted
  · cases accepted
  · split at accepted
    · cases accepted
    · split at accepted
      · cases accepted
      · rename_i unique
        intro other stored conflicts
        exact unique (List.any_eq_true.mpr ⟨other, stored, decide_eq_true conflicts⟩)

theorem transition_insertRow (signed : state.phases i = .signed segment row) :
    Transition store records i state ((insertRow store records state i segment row).elim state
      fun phase => state.move i state.shared phase) := by
  unfold insertRow
  split
  · exact .waits
  · rename_i free
    split
    · rename_i accepted
      exact .inserts signed free (not_conflicts_of_insertable accepted)
    · exact .fails_quietly

theorem statement_transition [Runtime] (i : ι) (state : Appends ι κ) :
    Transition store records i state (statement store records i state) := by
  unfold statement
  split
  · exact transition_openSegment ‹_›
  · exact transition_lockSegment ‹_›
  · exact transition_selectReceipt ‹_›
  · rename_i segment unseen
    have rowOf := signRow_rowOf store (records i) segment state.shared.signer
    unfold EStateM.Ends at rowOf
    split <;> rename_i run <;> rw [run] at rowOf
    · exact .signs unseen rowOf
    · exact .fails
  · exact transition_insertRow ‹_›
  · exact transition_advanceSegment ‹_›
  · exact .commits ‹_›
  · exact .waits
  · exact .waits

end Transitions

end Postgres

end GlassBox
