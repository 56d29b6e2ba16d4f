import GlassBox.Adapters.ChainWalk
import GlassBox.Adapters.Postgres.Tables

/-!
# The Postgres evidence store

`adapters/outbound/postgres/evidence.py`.  Each public method is one transaction.  The bespoke
`seal_and_purge` and the test-only tampering are left out; the port-conformant retention path is
the one the sealer uses.
-/

namespace GlassBox

/-- `PostgresEvidenceStore`: a provider of transactions and a signer. -/
structure PostgresEvidenceStore (κ : Type) where
  session : Postgres.Session
  signer : MacSigner κ
  /-- Whether `verify` compares the indexed columns with the signed record. -/
  verifyColumns : Bool := true

namespace Postgres

/-- `record.get(key)`. -/
def getKey (entries : List (String × Value)) (key : String) : Option Value :=
  (entries.find? (·.1 = key)).map (·.2)

/-- `record.get(key, {}).get(name)`. -/
def getNested (entries : List (String × Value)) (key name : String) :
    Except PyError (Option Value) :=
  match getKey entries key with
  | none => .ok none
  | some (.mapping fields) =>
    .ok ((fields.find? fun field => match field.1 with
      | .str text => text = name
      | _ => false).map (·.2))
  | some _ => .error (driverError "AttributeError" "get")

def textDiffers (stored : String) (signed : Option Value) : Bool :=
  match signed with
  | none | some .none => false
  | some (.str text) => text ≠ stored
  | some _ => true

/-- `float(stored) != float(signed)`; the float which is not a number differs from every column. -/
def numberDiffers [Runtime] (stored : ℚ) (signed : Option Value) : Except PyError Bool :=
  match signed with
  | none | some .none => .ok false
  | some (.float value) => .ok (value ≠ .finite stored)
  | some (.int value) => .ok ((value : ℚ) ≠ stored)
  | some (.bool value) => .ok ((if value then 1 else 0) ≠ stored)
  | some (.str text) =>
    match Runtime.floatOfText text with
    | some value => .ok (value ≠ .finite stored)
    | none => .error (driverError "ValueError" "could not convert string to float")
  | some _ => .error (driverError "TypeError" "float() argument")

/-- `_column_mismatch`: the first indexed column which disagrees with the signed record. -/
def columnMismatch [Runtime] (row : IntentRow) : Except PyError (Option String) := do
  let action ← getNested row.record "action" "action"
  let consequence ← getNested row.record "action" "consequence_class"
  let risk ← getNested row.record "risk" "risk_score"
  if textDiffers row.decisionId.val (getKey row.record "decision_id") then
    return some "decision_id"
  else if textDiffers row.tenantId.val (getKey row.record "tenant_id") then
    return some "tenant_id"
  else if textDiffers row.action.val action then return some "action"
  else if textDiffers row.consequenceClass consequence then return some "consequence_class"
  else if ← numberDiffers row.riskScore risk then return some "risk_score"
  else return none

/-- `except <own>: raise` followed by `except Exception as exc: raise <other> from exc`. -/
def wrapping {κ α : Type} (own : List ErrorClass) (cls : ErrorClass) (message : String)
    (context : List (String × Value)) (method : EStateM PyError (Signed κ Database) α) :
    EStateM PyError (Signed κ Database) α :=
  tryCatch method fun error =>
    if own.any error.isA then throw error
    else throw {
      cls := cls
      message := message
      context := context ++ [("cause", .str error.cls.name), ("detail", .str error.message)] }

theorem ends_wrapping {κ α : Type} {own : List ErrorClass} {cls : ErrorClass} {message : String}
    {context : List (String × Value)} {method : EStateM PyError (Signed κ Database) α}
    {before : Signed κ Database} {returns : α → Signed κ Database → Prop}
    {holds : Signed κ Database → Prop} :
    (wrapping own cls message context method).Ends before returns (fun _ after => holds after) ↔
      method.Ends before returns (fun _ after => holds after) := by
  simp only [wrapping, EStateM.ends_tryCatch]
  unfold EStateM.Ends
  cases method before with
  | ok value after => rfl
  | error error after =>
    change (EStateM.Ends _ after _ _) ↔ holds after
    split <;> rfl

section Methods

variable [Runtime] {κ : Type}

/-- The payload `verify` recomputes from the stored columns. -/
def storedPayload (seq : Int) (prevHash : ByteString) (record : List (String × Value)) :
    Except PyError ByteString :=
  canonicalBytes
    [("seq", .int seq), ("prev_hash", .str (hexText prevHash)), ("record", .record record)]

/-- The rows of an intent chain; the indexed columns are compared on request. -/
def intentRows (verifyColumns : Bool) : ChainRows IntentRow where
  seq := IntentRow.seq
  prev := IntentRow.prevHash
  tag := IntentRow.recordHmac
  signerKeyId := IntentRow.signerKeyId
  columnMismatch := fun row => if verifyColumns then columnMismatch row else .ok none
  payload := fun row => storedPayload row.seq row.prevHash row.record

/-- The rows of an outcome chain, which has no indexed columns to compare. -/
def outcomeRows : ChainRows OutcomeRow where
  seq := OutcomeRow.seq
  prev := OutcomeRow.prevHash
  tag := OutcomeRow.recordHmac
  signerKeyId := OutcomeRow.signerKeyId
  columnMismatch := fun _ => .ok none
  payload := fun row => storedPayload row.seq row.prevHash row.record

/-- `_insert_parameters`, as the columns keep them. -/
def rowOfRecord (columns : Columns) (record : IntentRecord) (seq : Int)
    (prevHash mac : ByteString) (keyId : String) : Except PyError IntentRow := do
  let stored ← columns.jsonb record.asEvidence
  return {
    segmentId := record.segmentId
    seq := seq
    decisionId := record.decisionId
    tenantId := record.tenantId
    createdAt := columns.timestamp record.createdAt.val
    action := record.action.action
    consequenceClass := record.action.consequence.value
    riskScore := columns.numeric record.risk.value.val
    record := stored
    prevHash := prevHash
    recordHmac := mac
    signerKeyId := keyId }

/-- `_receipt_from_row`. -/
def receiptOfRow (row : IntentRow) : Except PyError EvidenceReceipt := do
  let persistedAt ← requireTimestamp row.createdAt "persisted_at"
  EvidenceReceipt.make row.decisionId row.segmentId row.seq.toNat row.recordHmac row.signerKeyId
    persistedAt

variable (store : PostgresEvidenceStore κ)

/-- The part of `append_intent` which runs when the decision has no row yet. -/
def appendNew (record : IntentRecord) (segment : SegmentRow) : Block κ EvidenceReceipt := do
  let seq := segment.lastSeq + 1
  let payload ← ofExcept (record.chainPayload seq segment.lastHash)
  let mac ← Signed.onSigner (store.signer.macOfRecord record.decisionId payload)
  let keyId := store.signer.keyId (← get).signer
  let row ← ofExcept (rowOfRecord store.session.columns record seq segment.lastHash mac keyId)
  insertIntent store.session row
  updateSegment record.segmentId.val fun segment =>
    { segment with lastSeq := seq, lastHash := mac }
  ofExcept (EvidenceReceipt.make record.decisionId record.segmentId seq.toNat mac keyId
    record.createdAt)

/-- The transaction of `append_intent`. -/
def appendBlock (record : IntentRecord) : Block κ EvidenceReceipt := do
  setTenantContext record.tenantId
  insertSegment store.session record.segmentId record.tenantId genesisPrevHash
  match (← get).store.database.segments record.segmentId.val with
  | none =>
    throw (.evidenceWrite "evidence segment could not be created or locked"
      [("segment_id", .str record.segmentId.val)])
  | some segment =>
    if segment.sealedAt.isSome then
      throw (.evidenceWrite "cannot append to a sealed segment"
        [("segment_id", .str record.segmentId.val)])
    else
      match (store.session.intents (← get).store).find? (·.decisionId = record.decisionId) with
      | some existing => ofExcept (receiptOfRow existing)
      | none => appendNew store record segment

/-- One transaction, whose failures are wrapped. -/
def appendIntent (record : IntentRecord) :
    EStateM PyError (Signed κ Database) EvidenceReceipt :=
  wrapping [.evidenceWriteError, .signingUnavailableError] .evidenceWriteError
    "evidence could not be made durable; the caller must not dispatch"
    [("decision_id", .str record.decisionId.val), ("segment_id", .str record.segmentId.val)]
    (transaction (appendBlock store record))

/-- The row of `_UPSERT_OUTCOME`; `none` when the pair of decision and completion time exists. -/
def upsertOutcome (row : OutcomeRow) : Block κ Bool := do
  let database := (← get).store.database
  if ¬ (row.prevHash.length = 32 ∧ 32 ≤ row.recordHmac.length) then
    throw (driverError "CheckViolation" "evidence_outcome")
  else if database.outcomes.any fun other =>
      other.decisionId = row.decisionId ∧ other.completedAt = row.completedAt then
    return false
  else
    modifyDatabase fun database => { database with outcomes := database.outcomes ++ [row] }
    return true

/-- The part of `append_outcome` which runs once the chain head was locked. -/
def appendOutcomeRow (receipt : EvidenceReceipt) (record : OutcomeRecord) (head : SegmentRow) :
    Block κ Unit := do
  let seq := head.outcomeLastSeq + 1
  let payload ← ofExcept (record.chainPayload seq head.outcomeLastHash)
  let mac ← Signed.onSigner (store.signer.macOfRecord record.decisionId payload)
  let keyId := store.signer.keyId (← get).signer
  let stored ← ofExcept (store.session.columns.jsonb record.asEvidence)
  if ← upsertOutcome {
      decisionId := record.decisionId
      completedAt := store.session.columns.timestamp record.outcome.completedAt.val
      segmentId := receipt.segmentId
      seq := seq
      record := stored
      prevHash := head.outcomeLastHash
      recordHmac := mac
      signerKeyId := keyId } then
    updateSegment receipt.segmentId.val fun segment =>
      { segment with outcomeLastSeq := seq, outcomeLastHash := mac }

/-- The transaction of `append_outcome`. -/
def outcomeBlock (receipt : EvidenceReceipt) (record : OutcomeRecord) : Block κ Unit := do
  match (store.session.intents (← get).store).find? (·.decisionId = receipt.decisionId) with
  | none =>
    throw (.evidenceWrite "no intent record exists for this receipt"
      [("decision_id", .str receipt.decisionId.val)])
  | some _ =>
    match (← get).store.database.segments receipt.segmentId.val with
    | none =>
      throw (.evidenceWrite "evidence segment could not be locked for the outcome chain"
        [("segment_id", .str receipt.segmentId.val)])
    | some head => appendOutcomeRow store receipt record head

/-- The receipt must be of the same decision. -/
def appendOutcome (receipt : EvidenceReceipt) (record : OutcomeRecord) :
    EStateM PyError (Signed κ Database) Unit :=
  if receipt.decisionId ≠ record.decisionId then
    throw { cls := .valueError, message :=
      "receipt and outcome describe different decisions: " ++
        Runtime.reprStr receipt.decisionId.val ++ " != " ++
        Runtime.reprStr record.decisionId.val }
  else
    wrapping [.evidenceWriteError] .evidenceWriteError "outcome could not be recorded"
      [("decision_id", .str record.decisionId.val)]
      (transaction (outcomeBlock store receipt record))

def reportAccepted (segmentId : String) (checked : Nat) (segment : SegmentRow) (now : ℚ)
    (outcome : OutcomeReport) : Except PyError IntegrityReport :=
  if 0 < segment.purgedBeforeSeq then
    if segment.sealedAt.isSome || segment.retention.isSome then
      IntegrityReport.make segmentId .sealedPurged checked now none
        (toString segment.purgedBeforeSeq ++ " record(s) purged under retention; sealed root " ++
          if segment.wormAnchorId.isSome || segment.retention.isSome then "anchored"
          else "not yet anchored") outcome
    else
      IntegrityReport.make segmentId .unverifiable checked now none
        (toString segment.purgedBeforeSeq ++ " record(s) purged from an unsealed segment") outcome
  else IntegrityReport.make segmentId .intact checked now none "" outcome

/-- The link expected of the first live row; unknown when no anchor was kept. -/
def chainHead (segment : SegmentRow) : Option ByteString :=
  if segment.purgedBeforeSeq = 0 then some genesisPrevHash
  else segment.merkleRoot.or (segment.retention.bind RetentionSeal.lastLeafHmac)

/-- The walk over the live rows of a segment. -/
def verifyRows (state : κ) (segmentId : String) (rows : List IntentRow) (segment : SegmentRow)
    (now : ℚ) (outcome : OutcomeReport) : Except PyError IntegrityReport := do
  match ← walk store.signer state (intentRows store.verifyColumns) segment.purgedBeforeSeq
      (chainHead segment) 0 rows with
  | (checked, some (finding, row)) =>
    reportFinding (intentRows store.verifyColumns) segmentId checked now finding row outcome
  | (checked, none) => reportAccepted segmentId checked segment now outcome

/-- `verify`, whose transaction reads and sets no tenant. -/
def verify (state : Signed κ Database) (segmentId : String) (now : ℚ) :
    Except PyError IntegrityReport :=
  let current : Transaction := { database := state.store }
  match state.store.segments segmentId with
  | none => IntegrityReport.make segmentId .unverifiable 0 now none "segment not found" {}
  | some segment => do
    let outcome ←
      verifyOutcomeChain store.signer state.signer outcomeRows (outcomeChain current segmentId)
    verifyRows store state.signer segmentId (store.session.chain current segmentId) segment now
      outcome

end Methods

section Retention

variable (session : Session)

/-- The sealed half of a segment's state. -/
def sealOfRetention (retention : RetentionSeal) : Except PyError SegmentSeal := do
  let sealedAt ← requireTimestamp retention.sealedAt "sealed_at"
  return {
    sealedAt := sealedAt
    lastSeq := retention.lastSeq.toNat
    merkleRoot := retention.merkleRoot
    sealSignature := retention.sealSignature.val
    wormAnchorId := some retention.wormAnchorId }

def segmentState (database : Database) (segmentId : String) :
    Except PyError (Option EvidenceSegment) :=
  match database.segments segmentId with
  | none => .ok none
  | some row => do
    let identifier ← requireIdentifier segmentId "segment_id"
    let openedAt ← requireTimestamp row.openedAt "opened_at"
    let cover ← row.retention.mapM sealOfRetention
    let segment ← EvidenceSegment.make identifier row.tenantId openedAt row.firstSeq.toNat cover
    return some segment

/-- `segment_leaves`, whose transaction sets no tenant. -/
def segmentLeaves (database : Database) (segmentId : String) (beforeSeq : Option Int) :
    Except PyError (List SegmentLeaf) :=
  ((session.chain { database } segmentId).filter fun row => beforeSeq.all (row.seq < ·)).mapM
    fun row => SegmentLeaf.make row.seq row.recordHmac

/-- A transaction which does not sign. -/
def quietly {α : Type} (own : List ErrorClass) (message : String)
    (context : List (String × Value)) (block : Block Unit α) : EStateM PyError Database α :=
  fun before =>
    match wrapping own .evidenceWriteError message context (transaction block) ⟨(), before⟩ with
    | .ok value after => .ok value after.store
    | .error error after => .error error after.store

theorem after_quietly {α : Type} {own : List ErrorClass} {message : String}
    {context : List (String × Value)} {block : Block Unit α} {before : Database}
    {holds : Database → Prop}
    (ends : block.Ends ⟨(), { database := before }⟩ (fun _ after => holds after.store.database)
      (fun _ _ => holds before)) :
    holds ((quietly own message context block).after before) := by
  have committed : (wrapping own .evidenceWriteError message context (transaction block)).Ends
      ⟨(), before⟩ (fun _ after => holds after.store) (fun _ after => holds after.store) :=
    ends_wrapping.mpr (ends_transaction.mpr ends)
  unfold EStateM.Ends at committed
  unfold EStateM.after quietly
  cases run : wrapping own .evidenceWriteError message context (transaction block)
      ⟨(), before⟩ with
  | ok value after | error error after => simpa only [run] using committed

/-- `mark_sealed`: the code of the last sealed row is read by a subselect. -/
def markSealed (segmentId : String) (anchor : WormAnchor) (locator : String) :
    EStateM PyError Database Unit :=
  quietly [] "could not record the seal"
    [("segment_id", .str segmentId), ("anchor_id", .str anchor.anchorId.val)] do
    let current := (← get).store
    let last := (session.intents current).find? fun row =>
      row.segmentId.val = segmentId && row.seq = (anchor.lastSeq : Int)
    updateSegment segmentId fun segment => { segment with
      retention := some {
        sealedAt := session.columns.timestamp anchor.sealedAt.val
        firstSeq := anchor.firstSeq
        lastSeq := anchor.lastSeq
        merkleRoot := anchor.merkleRoot
        sealSignature := anchor.rootSignature
        wormAnchorId := anchor.anchorId
        wormLocator := locator
        lastLeafHmac := last.map IntentRow.recordHmac } }

/-- The range must end with the retained seal. -/
def purgeBefore (segmentId : String) (beforeSeq : Int) : EStateM PyError Database Nat :=
  quietly [.evidenceWriteError] "retention purge failed"
    [("segment_id", .str segmentId), ("before_seq", .int beforeSeq)] do
    let segment := (← get).store.database.segments segmentId
    if (segment.bind fun row => row.retention.map RetentionSeal.lastSeq) ≠ some (beforeSeq - 1) then
      throw (.evidenceWrite "refusing to purge a range that is not covered by a durable anchor"
        [("segment_id", .str segmentId), ("before_seq", .int beforeSeq)])
    else
      setRetentionPurge
      let purged ← deletePurged session segmentId beforeSeq
      updateSegment segmentId fun segment =>
        { segment with firstSeq := beforeSeq, purgedBeforeSeq := beforeSeq }
      return purged

def retention : EvidenceRetentionStore Database where
  segmentState := fun segmentId => EStateM.query fun database => segmentState database segmentId
  segmentLeaves := fun segmentId beforeSeq =>
    EStateM.query fun database => segmentLeaves session database segmentId beforeSeq
  markSealed := markSealed session
  purgeBefore := purgeBefore session

theorem retention_reads : (retention session).Reads segmentState (segmentLeaves session) :=
  ⟨fun _ => rfl, fun _ _ => rfl⟩

end Retention

end Postgres

end GlassBox
