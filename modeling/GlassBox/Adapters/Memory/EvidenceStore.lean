import GlassBox.Adapters.ChainWalk
import GlassBox.Domain.ChainPayload

/-!
# The in-memory evidence store

`adapters/outbound/memory/evidence.py`.  Every public method runs under one lock, so it is one
step on the store.  A dictionary is a function to `Option`, or to a default where every read of
the source supplies one.
-/

namespace GlassBox

open EStateM

/-- The chains and the receipts of all segments. -/
structure InMemoryEvidenceStore where
  segments : String → Option (List StoredRecord) := fun _ => none
  receipts : String → Option EvidenceReceipt := fun _ => none
  outcomes : String → Option StoredOutcome := fun _ => none
  /-- Per-segment outcome chain, independent of the intent chain. -/
  outcomeChain : String → List StoredOutcome := fun _ => []
  /-- Pairs of decision and completion time already recorded. -/
  outcomeKeys : List (Identifier × Timestamp) := []
  /-- The code of the last purged record. -/
  chainAnchor : String → Option ByteString := fun _ => none
  purged : String → Nat := fun _ => 0
  wormAnchors : String → Option (WormAnchor × String) := fun _ => none
  tenants : String → Option Identifier := fun _ => none
  openedAt : String → Option Timestamp := fun _ => none

def setDefault {α : Type} (entries : String → Option α) (key : String) (value : α) :
    String → Option α :=
  Function.update entries key (some ((entries key).getD value))

/-- The code a new row links to. -/
def lastHash {ρ : Type} (chain : List (Stored ρ)) : ByteString :=
  (chain.getLast?.map Stored.recordHmac).getD genesisPrevHash

namespace InMemoryEvidenceStore

def rows (store : InMemoryEvidenceStore) (segmentId : String) : List StoredRecord :=
  (store.segments segmentId).getD []

/-- The `setdefault` calls which open the record's segment. -/
def openSegment (record : IntentRecord) (store : InMemoryEvidenceStore) :
    InMemoryEvidenceStore :=
  { store with
    segments := setDefault store.segments record.segmentId.val []
    tenants := setDefault store.tenants record.segmentId.val record.tenantId
    openedAt := setDefault store.openedAt record.segmentId.val record.createdAt }

/-- `segment.append(stored)`. -/
def pushRecord (row : StoredRecord) (store : InMemoryEvidenceStore) : InMemoryEvidenceStore :=
  { store with
    segments := Function.update store.segments row.record.segmentId.val
      (some (store.rows row.record.segmentId.val ++ [row])) }

/-- `_receipts[decision_id] = receipt`. -/
def pushReceipt (receipt : EvidenceReceipt) (store : InMemoryEvidenceStore) :
    InMemoryEvidenceStore :=
  { store with receipts := Function.update store.receipts receipt.decisionId.val (some receipt) }

/-- The recorded outcome joins the chain of the receipt's segment. -/
def pushOutcome (segmentId : String) (row : StoredOutcome) (store : InMemoryEvidenceStore) :
    InMemoryEvidenceStore :=
  { store with
    outcomeChain := Function.update store.outcomeChain segmentId
      (store.outcomeChain segmentId ++ [row])
    outcomes := Function.update store.outcomes row.record.decisionId.val (some row)
    outcomeKeys := (row.record.decisionId, row.record.outcome.completedAt) :: store.outcomeKeys }

@[simp]
theorem rows_openSegment (record : IntentRecord) (store : InMemoryEvidenceStore) :
    (openSegment record store).rows = store.rows := by
  funext segmentId
  by_cases same : segmentId = record.segmentId.val
  · subst same
    simp [rows, openSegment, setDefault]
  · simp [rows, openSegment, setDefault, same]

@[simp]
theorem rows_pushRecord (row : StoredRecord) (store : InMemoryEvidenceStore) :
    (pushRecord row store).rows = Function.update store.rows row.record.segmentId.val
      (store.rows row.record.segmentId.val ++ [row]) := by
  funext segmentId
  by_cases same : segmentId = row.record.segmentId.val
  · subst same
    simp [rows, pushRecord]
  · simp [rows, pushRecord, same]

@[simp]
theorem rows_pushReceipt (receipt : EvidenceReceipt) (store : InMemoryEvidenceStore) :
    (pushReceipt receipt store).rows = store.rows := rfl

/-- The position of the next record of a segment. -/
def nextSeq (store : InMemoryEvidenceStore) (segmentId : String) : Nat :=
  store.purged segmentId + (store.rows segmentId).length

@[simp]
theorem nextSeq_openSegment (record : IntentRecord) (store : InMemoryEvidenceStore) :
    (openSegment record store).nextSeq = store.nextSeq := by
  funext segmentId
  rw [nextSeq, rows_openSegment]
  rfl

section Methods

variable [Runtime] {κ : Type} (signer : MacSigner κ) {before : Signed κ InMemoryEvidenceStore}

/-- A known decision gets its first receipt again. -/
def appendIntent (record : IntentRecord) :
    EStateM PyError (Signed κ InMemoryEvidenceStore) EvidenceReceipt := do
  match (← get).store.receipts record.decisionId.val with
  | some existing => return existing
  | none =>
    Signed.modifyStore (openSegment record)
    let store := (← get).store
    let seq := store.nextSeq record.segmentId.val
    let prevHash := lastHash (store.rows record.segmentId.val)
    let payload ← ofExcept (record.chainPayload seq prevHash)
    let mac ← Signed.onSigner (signer.macOfRecord record.decisionId payload)
    let keyId := signer.keyId (← get).signer
    Signed.modifyStore (pushRecord
      { record, seq, prevHash, recordHmac := mac, signerKeyId := keyId })
    let receipt ← ofExcept (EvidenceReceipt.make record.decisionId record.segmentId seq mac
      keyId record.createdAt)
    Signed.modifyStore (pushReceipt receipt)
    return receipt

/-- An outcome which is known is not stored twice. -/
def appendOutcome (receipt : EvidenceReceipt) (record : OutcomeRecord) :
    EStateM PyError (Signed κ InMemoryEvidenceStore) Unit := do
  if receipt.decisionId ≠ record.decisionId then
    throw { cls := .valueError, message :=
      "receipt and outcome describe different decisions: " ++
        Runtime.reprStr receipt.decisionId.val ++ " != " ++
        Runtime.reprStr record.decisionId.val }
  else
    let store := (← get).store
    if store.receipts receipt.decisionId.val = none then
      throw (.evidenceWrite "no intent record exists for this receipt"
        [("decision_id", .str receipt.decisionId.val)])
    else if (record.decisionId, record.outcome.completedAt) ∈ store.outcomeKeys then
      return ()
    else
      let chain := store.outcomeChain receipt.segmentId.val
      let payload ← ofExcept (record.chainPayload chain.length (lastHash chain))
      let mac ← Signed.onSigner (signer.macOfRecord record.decisionId payload)
      let keyId := signer.keyId (← get).signer
      Signed.modifyStore (pushOutcome receipt.segmentId.val {
        record := record
        seq := chain.length
        prevHash := lastHash chain
        recordHmac := mac
        signerKeyId := keyId })

/-- The store as the decision service sees it. -/
def port : EvidenceStore (Signed κ InMemoryEvidenceStore) where
  appendIntent := appendIntent signer
  appendOutcome := appendOutcome signer

/-- Rows as the store keeps them; there are no separate columns to compare. -/
def chainRows {ρ : Type} (payload : ρ → Int → ByteString → Except PyError ByteString) :
    ChainRows (Stored ρ) where
  seq := Stored.seq
  prev := Stored.prevHash
  tag := Stored.recordHmac
  signerKeyId := Stored.signerKeyId
  columnMismatch := fun _ => .ok none
  payload := fun row => payload row.record row.seq row.prevHash

def intentRows : ChainRows StoredRecord := chainRows IntentRecord.chainPayload

def outcomeRows : ChainRows StoredOutcome := chainRows OutcomeRecord.chainPayload

/-- The row is made for a record, at a position and behind a link, and its code by the signer. -/
structure MadeFor {ρ : Type} (rows : ChainRows (Stored ρ)) (record : ρ) (seq : Int)
    (prevHash : ByteString) (row : Stored ρ) : Prop where
  record_eq : row.record = record
  seq_eq : row.seq = seq
  prevHash_eq : row.prevHash = prevHash
  genuine : Genuine signer rows row

/-- What the writes of `append_intent` keep, one after another, it keeps. -/
theorem appendIntent_invariant (holds : InMemoryEvidenceStore → Prop) (record : IntentRecord)
    (initial : holds before.store) (opened : holds (openSegment record before.store))
    (pushed : before.store.receipts record.decisionId.val = none → ∀ row,
      MadeFor signer intentRows record (before.store.nextSeq record.segmentId.val)
        (lastHash (before.store.rows record.segmentId.val)) row →
      holds (pushRecord row (openSegment record before.store)))
    (receipted : ∀ receipt store, holds store → holds (pushReceipt receipt store)) :
    holds ((appendIntent signer record).after before).store := by
  refine after_of_ends (fun after : Signed κ InMemoryEvidenceStore => holds after.store) ?_
  simp only [appendIntent, ends_bind, ends_get]
  cases existing : before.store.receipts record.decisionId.val with
  | some receipt => exact initial
  | none =>
    simp only [ends_bind, Signed.modifyStore, ends_modify, ends_get, ends_ofExcept]
    split
    next payload defined =>
      simp only [Signed.onSigner, ends_zoom]
      refine MacSigner.ends_macOfRecord (fun mac after run => ?_) fun _ _ => opened
      have written := pushed existing
        { record
          seq := (openSegment record before.store).nextSeq record.segmentId.val
          prevHash := lastHash ((openSegment record before.store).rows record.segmentId.val)
          recordHmac := mac
          signerKeyId := signer.keyId after }
        { record_eq := rfl
          seq_eq := by rw [nextSeq_openSegment]
          prevHash_eq := by rw [rows_openSegment]
          genuine := ⟨rfl, payload, defined, before.signer, after, run, rfl⟩ }
      split
      next receipt _ => exact receipted receipt _ written
      next => exact written
    next => exact opened

theorem appendOutcome_invariant (holds : InMemoryEvidenceStore → Prop) (receipt : EvidenceReceipt)
    (record : OutcomeRecord) (initial : holds before.store)
    (pushed : ∀ row, MadeFor signer outcomeRows record
        (before.store.outcomeChain receipt.segmentId.val).length
        (lastHash (before.store.outcomeChain receipt.segmentId.val)) row →
      holds (pushOutcome receipt.segmentId.val row before.store)) :
    holds ((appendOutcome signer receipt record).after before).store := by
  refine after_of_ends (fun after : Signed κ InMemoryEvidenceStore => holds after.store) ?_
  unfold appendOutcome
  split
  next => exact initial
  next =>
    simp only [ends_bind, ends_get]
    split
    next => exact initial
    next =>
      split
      next => exact initial
      next =>
        simp only [ends_bind, ends_ofExcept]
        split
        next payload defined =>
          simp only [Signed.onSigner, ends_zoom]
          refine MacSigner.ends_macOfRecord (fun mac after run => pushed _ ?_) fun _ _ => initial
          exact ⟨rfl, rfl, rfl, rfl, payload, defined, before.signer, after, run, rfl⟩
        next => exact initial

/-- The link expected of the first live row. -/
def chainHead (store : InMemoryEvidenceStore) (segmentId : String) : ByteString :=
  if store.purged segmentId = 0 then genesisPrevHash
  else (store.chainAnchor segmentId).getD genesisPrevHash

def reportAccepted (segmentId : String) (count purged : Nat) (anchored : Bool) (now : ℚ)
    (outcome : OutcomeReport) : Except PyError IntegrityReport :=
  if purged ≠ 0 ∧ anchored then
    IntegrityReport.make segmentId .sealedPurged count now none
      (toString purged ++ " record(s) purged under retention; sealed root retained") outcome
  else IntegrityReport.make segmentId .intact count now none "" outcome

/-- Both chains of a segment are walked. -/
def verify (state : Signed κ InMemoryEvidenceStore) (segmentId : String) (now : ℚ) :
    Except PyError IntegrityReport := do
  let store := state.store
  let outcome ←
    verifyOutcomeChain signer state.signer outcomeRows (store.outcomeChain segmentId)
  match store.segments segmentId with
  | none => IntegrityReport.make segmentId .unverifiable 0 now none "segment not found" outcome
  | some segment =>
    let purged := store.purged segmentId
    match ← walk signer state.signer intentRows purged (some (store.chainHead segmentId)) 0
        segment with
    | (checked, some (finding, row)) =>
      reportFinding intentRows segmentId checked now finding row outcome
    | (_, none) =>
      reportAccepted segmentId segment.length purged (store.chainAnchor segmentId).isSome now
        outcome

end Methods

/-- The loop of `seal_and_purge`: how many rows go, and the code of the last of them. -/
def purgeLoop (beforeSeq : Int) (keepFrom : Nat) (anchor : Option ByteString) :
    List StoredRecord → Nat × Option ByteString
  | [] => (keepFrom, anchor)
  | row :: rows =>
    if beforeSeq ≤ row.seq then (keepFrom, anchor)
    else purgeLoop beforeSeq (keepFrom + 1) (some row.recordHmac) rows

/-- `pop` every decision of the given rows. -/
def popDecisions {α : Type} (rows : List StoredRecord) (entries : String → Option α) :
    String → Option α :=
  fun key => if rows.any (·.record.decisionId.val = key) then none else entries key

/-- The store after its first `keepFrom` rows went and `anchor` was retained. -/
def dropPurged (segmentId : String) (keepFrom : Nat) (anchor : ByteString)
    (store : InMemoryEvidenceStore) : InMemoryEvidenceStore :=
  let gone := (store.rows segmentId).take keepFrom
  { store with
    receipts := popDecisions gone store.receipts
    outcomes := popDecisions gone store.outcomes
    segments := Function.update store.segments segmentId
      (some ((store.rows segmentId).drop keepFrom))
    chainAnchor := Function.update store.chainAnchor segmentId (some anchor)
    purged := Function.update store.purged segmentId (store.purged segmentId + keepFrom) }

@[simp]
theorem rows_dropPurged (segmentId : String) (keepFrom : Nat) (anchor : ByteString)
    (store : InMemoryEvidenceStore) :
    (dropPurged segmentId keepFrom anchor store).rows =
      Function.update store.rows segmentId ((store.rows segmentId).drop keepFrom) := by
  funext other
  by_cases same : other = segmentId
  · subst same
    simp [rows, dropPurged]
  · simp [rows, dropPurged, same]

/-- The loop drops a prefix and retains the code of its last row. -/
theorem purgeLoop_spec {beforeSeq : Int} {keepFrom count : Nat} {anchor : Option ByteString}
    {code : Option ByteString} {rows : List StoredRecord}
    (ends : purgeLoop beforeSeq keepFrom anchor rows = (count, code)) :
    ∃ dropped ≤ rows.length, count = keepFrom + dropped ∧
      code = ((rows.take dropped).getLast?.map Stored.recordHmac).or anchor := by
  induction rows generalizing keepFrom anchor with
  | nil =>
    obtain ⟨rfl, rfl⟩ := ends
    exact ⟨0, by simp⟩
  | cons row rows ih =>
    simp only [purgeLoop] at ends
    split at ends
    · simp only [Prod.mk.injEq] at ends
      obtain ⟨rfl, rfl⟩ := ends
      exact ⟨0, by simp⟩
    · obtain ⟨dropped, within, count_eq, code_eq⟩ := ih ends
      refine ⟨dropped + 1, by simpa using within, by omega, ?_⟩
      rw [List.take_succ_cons, List.getLast?_cons]
      cases last : (rows.take dropped).getLast? with
      | none | some last => simp [code_eq, last]

/-- The last purged code becomes the anchor. -/
def sealAndPurge (segmentId : String) (beforeSeq : Int) :
    EStateM PyError InMemoryEvidenceStore Nat := do
  match purgeLoop beforeSeq 0 none ((← get).rows segmentId) with
  | (_, none) => return 0
  | (keepFrom, some anchor) =>
    modify (dropPurged segmentId keepFrom anchor)
    return keepFrom

/-- `opened_at or 1.0`. -/
def openedAtOrOne (store : InMemoryEvidenceStore) (segmentId : String) : Timestamp :=
  match store.openedAt segmentId with
  | none => Timestamp.one
  | some openedAt => if openedAt.val = 0 then Timestamp.one else openedAt

/-- `"unknown"`, the tenant of a segment nobody opened. -/
def unknownTenant : Identifier := ⟨"unknown", by decide⟩

/-- The sealed half of a segment's state, from the anchor it was sealed with. -/
def sealOfAnchor (anchor : WormAnchor) : SegmentSeal where
  sealedAt := anchor.sealedAt
  lastSeq := anchor.lastSeq
  merkleRoot := anchor.merkleRoot
  sealSignature := anchor.rootSignature.val
  wormAnchorId := some anchor.anchorId

/-- Nothing for an unknown segment. -/
def segmentState (store : InMemoryEvidenceStore) (segmentId : String) :
    Except PyError (Option EvidenceSegment) :=
  if (store.segments segmentId).isNone then .ok none
  else do
    let identifier ← requireIdentifier segmentId "segment_id"
    let segment ← EvidenceSegment.make identifier
      ((store.tenants segmentId).getD unknownTenant) (store.openedAtOrOne segmentId)
      (store.purged segmentId)
      ((store.wormAnchors segmentId).map fun entry => sealOfAnchor entry.1)
    return some segment

/-- The codes below a bound, in order. -/
def segmentLeaves (store : InMemoryEvidenceStore) (segmentId : String)
    (beforeSeq : Option Int) : Except PyError (List SegmentLeaf) :=
  let sorted := (store.rows segmentId).insertionSort fun left right => left.seq ≤ right.seq
  (sorted.filter fun row => beforeSeq.all (row.seq < ·)).mapM fun row =>
    SegmentLeaf.make row.seq row.recordHmac

/-- Keeps the anchor of a known segment. -/
def markSealed (segmentId : String) (anchor : WormAnchor) (locator : String) :
    EStateM PyError InMemoryEvidenceStore Unit := do
  if ((← get).segments segmentId).isNone then
    throw (.evidenceWrite "segment not found" [("segment_id", .str segmentId)])
  else
    modify fun store =>
      { store with wormAnchors :=
          Function.update store.wormAnchors segmentId (some (anchor, locator)) }

/-- The range must end with the stored anchor. -/
def purgeBefore (segmentId : String) (beforeSeq : Int) :
    EStateM PyError InMemoryEvidenceStore Nat := do
  match (← get).wormAnchors segmentId with
  | some (anchor, _) =>
    if (anchor.lastSeq : Int) = beforeSeq - 1 then sealAndPurge segmentId beforeSeq
    else throw (refusal segmentId beforeSeq)
  | none => throw (refusal segmentId beforeSeq)
where
  /-- Nothing unattested is deleted. -/
  refusal (segmentId : String) (beforeSeq : Int) : PyError :=
    .evidenceWrite "refusing to purge a range that is not covered by a durable anchor"
      [("segment_id", .str segmentId), ("before_seq", .int beforeSeq)]

/-- The store as the sealer sees it. -/
def retention : EvidenceRetentionStore InMemoryEvidenceStore where
  segmentState := fun segmentId => EStateM.query fun store => segmentState store segmentId
  segmentLeaves := fun segmentId beforeSeq =>
    EStateM.query fun store => segmentLeaves store segmentId beforeSeq
  markSealed := markSealed
  purgeBefore := purgeBefore

theorem retention_reads : retention.Reads segmentState segmentLeaves :=
  ⟨fun _ => rfl, fun _ _ => rfl⟩

end InMemoryEvidenceStore

end GlassBox
