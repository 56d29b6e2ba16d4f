import GlassBox.Ports.Evidence

/-!
# The evidence tables

`adapters/outbound/postgres/schema.py` and the statements of
`adapters/outbound/postgres/evidence.py`.  A transaction works on a copy of the tables.  A row is
visible to a session which is not subject to row-level security, and to a transaction that set its
tenant.
-/

namespace GlassBox

namespace Postgres

/-- What the driver reads back from a column after a value was written to it. -/
structure Columns where
  /-- `JSONB`, written as `json.dumps(value)`. -/
  jsonb : List (String × Value) → Except PyError (List (String × Value))
  /-- `NUMERIC`, written as a float. -/
  numeric : ℚ → ℚ
  /-- `TIMESTAMPTZ`, written as `to_timestamp(seconds)`. -/
  timestamp : ℚ → ℚ

/-- Columns which read back what was written. -/
def exactColumns : Columns where
  jsonb := .ok
  numeric := id
  timestamp := id

/-- A row of `evidence_intent`, without the columns no statement reads. -/
structure IntentRow where
  segmentId : Identifier
  seq : Int
  decisionId : Identifier
  tenantId : Identifier
  createdAt : ℚ
  action : Identifier
  consequenceClass : String
  riskScore : ℚ
  record : List (String × Value)
  prevHash : ByteString
  recordHmac : ByteString
  signerKeyId : String

/-- A row of `evidence_outcome`, without the columns no statement reads. -/
structure OutcomeRow where
  decisionId : Identifier
  completedAt : ℚ
  segmentId : Identifier
  seq : Int
  record : List (String × Value)
  prevHash : ByteString
  recordHmac : ByteString
  signerKeyId : String

/-- The `retention_` columns, which are written together. -/
structure RetentionSeal where
  sealedAt : ℚ
  firstSeq : Int
  lastSeq : Int
  merkleRoot : Mac
  sealSignature : Mac
  wormAnchorId : Identifier
  wormLocator : String
  lastLeafHmac : Option ByteString

/-- A row of `evidence_segment`. -/
structure SegmentRow where
  tenantId : Identifier
  openedAt : ℚ
  firstSeq : Int := 0
  lastSeq : Int := -1
  lastHash : ByteString
  purgedBeforeSeq : Int := 0
  sealedAt : Option ℚ := none
  merkleRoot : Option ByteString := none
  wormAnchorId : Option Identifier := none
  retention : Option RetentionSeal := none
  outcomeLastSeq : Int := -1
  outcomeLastHash : ByteString := genesisPrevHash

/-- The evidence tables. -/
structure Database where
  segments : String → Option SegmentRow := fun _ => none
  intents : List IntentRow := []
  outcomes : List OutcomeRow := []

/-- A session: its column types, its clock and whether row-level security applies to its role. -/
structure Session where
  columns : Columns
  /-- `now()`. -/
  clock : ℚ
  rowSecurity : Bool

structure Transaction where
  database : Database
  /-- `glassbox.tenant_id`. -/
  tenant : Option String := none
  /-- `glassbox.retention_purge = 'on'`. -/
  retentionPurge : Bool := false

def driverError (name message : String) : PyError := { cls := .other name, message }

section Statements

variable {κ α : Type} (session : Session)

/-- Statements run on the open transaction, beside the signer. -/
abbrev Block (κ α : Type) := EStateM PyError (Signed κ Transaction) α

/-- `with provider.transaction()`: commit when the block exits normally, roll back otherwise. -/
def transaction (block : Block κ α) : EStateM PyError (Signed κ Database) α := fun before =>
  match block ⟨before.signer, { database := before.store }⟩ with
  | .ok value after => .ok value ⟨after.signer, after.store.database⟩
  | .error error after => .error error ⟨after.signer, before.store⟩

@[simp]
theorem ends_transaction {block : Block κ α} {before : Signed κ Database}
    {returns : α → Signed κ Database → Prop} {raises : PyError → Signed κ Database → Prop} :
    (transaction block).Ends before returns raises ↔
      block.Ends ⟨before.signer, { database := before.store }⟩
        (fun value after => returns value ⟨after.signer, after.store.database⟩)
        (fun error after => raises error ⟨after.signer, before.store⟩) := by
  simp only [EStateM.Ends, transaction]
  cases block ⟨before.signer, { database := before.store }⟩ <;> rfl

/-- Whether the policies let the transaction see a row of `evidence_intent`. -/
def Session.sees (current : Transaction) (row : IntentRow) : Bool :=
  !session.rowSecurity || current.tenant == some row.tenantId.val

/-- The rows of `evidence_intent` a query reads. -/
def Session.intents (current : Transaction) : List IntentRow :=
  current.database.intents.filter (session.sees current)

/-- The visible rows of a segment, `ORDER BY seq ASC`. -/
def Session.chain (current : Transaction) (segmentId : String) : List IntentRow :=
  ((session.intents current).filter (·.segmentId.val = segmentId)).insertionSort
    fun left right => left.seq ≤ right.seq

/-- `_SELECT_OUTCOME_CHAIN`. -/
def outcomeChain (current : Transaction) (segmentId : String) : List OutcomeRow :=
  (current.database.outcomes.filter (·.segmentId.val = segmentId)).insertionSort
    fun left right => left.seq ≤ right.seq

/-- Change the tables of the open transaction. -/
def modifyDatabase (change : Database → Database) : Block κ Unit :=
  Signed.modifyStore fun current => { current with database := change current.database }

def setTenantContext (tenantId : Identifier) : Block κ Unit :=
  Signed.modifyStore fun current => { current with tenant := some tenantId.val }

/-- `SET LOCAL glassbox.retention_purge = 'on'`. -/
def setRetentionPurge : Block κ Unit :=
  Signed.modifyStore fun current => { current with retentionPurge := true }

/-- `_INSERT_SEGMENT`, which does nothing when the segment exists. -/
def insertSegment (segmentId tenantId : Identifier) (lastHash : ByteString) : Block κ Unit :=
  modifyDatabase fun database => { database with
    segments := Function.update database.segments segmentId.val
      (some ((database.segments segmentId.val).getD
        { tenantId, openedAt := session.clock, lastHash })) }

/-- The `CHECK` constraints of `evidence_segment`. -/
def SegmentRow.Checked (row : SegmentRow) : Prop :=
  row.firstSeq - 1 ≤ row.lastSeq ∧ row.firstSeq ≤ row.purgedBeforeSeq

instance (row : SegmentRow) : Decidable row.Checked := inferInstanceAs (Decidable (_ ∧ _))

/-- `UPDATE evidence_segment SET … WHERE segment_id = …`. -/
def updateSegment (segmentId : String) (change : SegmentRow → SegmentRow) : Block κ Unit := do
  match (← get).store.database.segments segmentId with
  | none => return ()
  | some row =>
    if (change row).Checked then
      modifyDatabase fun database => { database with
        segments := Function.update database.segments segmentId (some (change row)) }
    else throw (driverError "CheckViolation" "evidence_segment")

theorem ends_updateSegment {segmentId : String} {change : SegmentRow → SegmentRow}
    {before : Signed κ Transaction} {returns : Unit → Signed κ Transaction → Prop}
    {raises : PyError → Signed κ Transaction → Prop}
    (missing : before.store.database.segments segmentId = none → returns () before)
    (updated : ∀ row, before.store.database.segments segmentId = some row →
      returns () { before with store := { before.store with database := {
        before.store.database with
          segments := Function.update before.store.database.segments segmentId
            (some (change row)) } } })
    (violated : ∀ error, raises error before) :
    (updateSegment segmentId change).Ends before returns raises := by
  simp only [updateSegment, EStateM.ends_bind, EStateM.ends_get]
  cases found : before.store.database.segments segmentId with
  | none => exact missing found
  | some row =>
    by_cases checked : (change row).Checked
    · simp only [checked, if_true]
      exact updated row found
    · simp only [checked, if_false, EStateM.ends_throw]
      exact violated _

/-- The constraints, keys and policy of an insert into `evidence_intent`. -/
def Session.insertable (current : Transaction) (row : IntentRow) : Except PyError Unit :=
  if session.sees current row = false then
    .error (driverError "InsufficientPrivilege" "row-level security policy")
  else if ¬ (0 ≤ row.seq ∧ row.prevHash.length = 32 ∧ 32 ≤ row.recordHmac.length) then
    .error (driverError "CheckViolation" "evidence_intent")
  else if current.database.intents.any fun other => other.createdAt = row.createdAt ∧
      (other.decisionId = row.decisionId ∨
        other.segmentId = row.segmentId ∧ other.seq = row.seq) then
    .error (driverError "UniqueViolation" "evidence_intent")
  else .ok ()

def insertIntent (row : IntentRow) : Block κ Unit := do
  ofExcept (session.insertable (← get).store row)
  modifyDatabase fun database => { database with intents := database.intents ++ [row] }

/-- `DELETE FROM evidence_intent WHERE segment_id = … AND seq < …`, behind the append-only
trigger; the number of rows deleted. -/
def deletePurged (segmentId : String) (beforeSeq : Int) : Block κ Nat := do
  let current := (← get).store
  if current.retentionPurge = false then
    throw (driverError "RestrictViolation"
      "evidence_intent is append-only; DELETE is not permitted")
  else
    let doomed (row : IntentRow) : Bool :=
      session.sees current row && (row.segmentId.val = segmentId && row.seq < beforeSeq)
    modifyDatabase fun database => { database with
      intents := database.intents.filter fun row => !doomed row }
    return (current.database.intents.filter doomed).length

end Statements

end Postgres

end GlassBox
