import GlassBox.Domain.Evidence
import GlassBox.Domain.Merkle

/-!
# Segments, anchors and integrity reports

The second half of `domain/evidence.py`, with the leaf type of `ports/retention.py`.
-/

namespace GlassBox

structure SegmentSeal where
  sealedAt : Timestamp
  lastSeq : Nat
  merkleRoot : Mac
  sealSignature : ByteString
  wormAnchorId : Option Identifier

/-- A bounded run of evidence records that can be sealed independently. -/
structure EvidenceSegment where
  segmentId : Identifier
  tenantId : Identifier
  openedAt : Timestamp
  firstSeq : Nat := 0
  sealing : Option SegmentSeal := none
  /-- A segment is not sealed before it was opened. -/
  sealed_after_opening : ∀ cover ∈ sealing, openedAt.val ≤ cover.sealedAt.val
  /-- Purging does not run past the sealed range. -/
  purge_within_seal : ∀ cover ∈ sealing, firstSeq ≤ cover.lastSeq + 1

def EvidenceSegment.make (segmentId tenantId : Identifier) (openedAt : Timestamp)
    (firstSeq : Nat) (sealing : Option SegmentSeal) : Except PyError EvidenceSegment :=
  match sealing with
  | none =>
    .ok {
      segmentId := segmentId
      tenantId := tenantId
      openedAt := openedAt
      firstSeq := firstSeq
      sealed_after_opening := by simp
      purge_within_seal := by simp }
  | some cover =>
    if opened : openedAt.val ≤ cover.sealedAt.val then
      if purged : firstSeq ≤ cover.lastSeq + 1 then
        .ok {
          segmentId := segmentId
          tenantId := tenantId
          openedAt := openedAt
          firstSeq := firstSeq
          sealing := some cover
          sealed_after_opening := by simpa using opened
          purge_within_seal := by simpa using purged }
      else
        .error (.validation "last_seq must not precede first_seq - 1" "last_seq"
          [("first_seq", .ofNat firstSeq), ("last_seq", .ofNat cover.lastSeq)])
    else
      .error (.validation "sealed_at must not precede opened_at" "sealed_at"
        [("opened_at", .ofRat openedAt.val), ("sealed_at", .ofRat cover.sealedAt.val)])

theorem EvidenceSegment.of_make {segmentId tenantId : Identifier} {openedAt : Timestamp}
    {firstSeq : Nat} {sealing : Option SegmentSeal} {segment : EvidenceSegment}
    (made : make segmentId tenantId openedAt firstSeq sealing = .ok segment) :
    segment.tenantId = tenantId ∧ segment.openedAt = openedAt ∧ segment.firstSeq = firstSeq ∧
      segment.sealing = sealing := by
  unfold make at made
  cases sealing with
  | none =>
    cases made
    exact ⟨rfl, rfl, rfl, rfl⟩
  | some cover =>
    simp only at made
    split at made
    · split at made
      · cases made
        exact ⟨rfl, rfl, rfl, rfl⟩
      · cases made
    · cases made

/-- A signed, write-once attestation that a segment prefix existed. -/
structure WormAnchor where
  anchorId : Identifier
  segmentId : Identifier
  tenantId : Identifier
  merkleRoot : Mac
  treeSize : Nat
  firstSeq : Nat
  lastSeq : Nat
  sealedAt : Timestamp
  rootSignature : Mac
  signerKeyId : Identifier
  first_le_last : firstSeq ≤ lastSeq
  covers_range : treeSize = lastSeq - firstSeq + 1
  deriving DecidableEq

namespace WormAnchor

/-- The tree has a leaf for each number of the range. -/
def make (anchorId segmentId : String) (tenantId : Identifier) (merkleRoot : ByteString)
    (treeSize firstSeq lastSeq : Nat) (sealedAt : ℚ) (rootSignature : ByteString)
    (signerKeyId : String) : Except PyError WormAnchor := do
  let anchorId ← requireIdentifier anchorId "anchor_id"
  let segmentId ← requireIdentifier segmentId "segment_id"
  let merkleRoot ← requireMac merkleRoot "merkle_root"
  let rootSignature ← requireMac rootSignature "root_signature"
  let signerKeyId ← requireIdentifier signerKeyId "signer_key_id"
  let sealedAt ← requireTimestamp sealedAt "sealed_at"
  if first_le_last : firstSeq ≤ lastSeq then
    if covers_range : treeSize = lastSeq - firstSeq + 1 then
      return {
        anchorId, segmentId, tenantId, merkleRoot, treeSize, firstSeq, lastSeq, sealedAt,
        rootSignature, signerKeyId, first_le_last, covers_range }
    else
      throw (.validation "tree_size must match the covered sequence range" "tree_size"
        [("tree_size", .ofNat treeSize), ("first_seq", .ofNat firstSeq),
          ("last_seq", .ofNat lastSeq)])
  else
    throw (.validation "last_seq must not precede first_seq" "last_seq"
      [("first_seq", .ofNat firstSeq), ("last_seq", .ofNat lastSeq)])

/-- The canonical bytes the signature is computed over. -/
def signingPayload [Runtime] (anchor : WormAnchor) : Except PyError ByteString :=
  canonicalBytes
    [("anchor_id", .str anchor.anchorId.val), ("segment_id", .str anchor.segmentId.val),
      ("tenant_id", .str anchor.tenantId.val),
      ("merkle_root", .str (hexText anchor.merkleRoot.val)),
      ("tree_size", .ofNat anchor.treeSize), ("first_seq", .ofNat anchor.firstSeq),
      ("last_seq", .ofNat anchor.lastSeq), ("sealed_at", .ofRat anchor.sealedAt.val)]

variable {anchorId segmentId signerKeyId : String} {tenantId : Identifier}
  {merkleRoot rootSignature : ByteString} {treeSize firstSeq lastSeq : Nat} {sealedAt : ℚ}

theorem make_eq_ok_iff {anchor : WormAnchor} :
    make anchorId segmentId tenantId merkleRoot treeSize firstSeq lastSeq sealedAt rootSignature
        signerKeyId = .ok anchor ↔
      anchor.anchorId.val = anchorId ∧ anchor.segmentId.val = segmentId ∧
      anchor.tenantId = tenantId ∧ anchor.merkleRoot.val = merkleRoot ∧
      anchor.treeSize = treeSize ∧ anchor.firstSeq = firstSeq ∧ anchor.lastSeq = lastSeq ∧
      anchor.sealedAt.val = sealedAt ∧ anchor.rootSignature.val = rootSignature ∧
      anchor.signerKeyId.val = signerKeyId := by
  constructor
  · intro made
    simp only [make, Except.bind_eq_ok_iff, requireIdentifier_eq_ok_iff,
      requireTimestamp_eq_ok_iff] at made
    obtain ⟨_, rfl, _, rfl, root, root_eq, signature, signature_eq, _, rfl, _, rfl, made⟩ := made
    split at made
    · split at made
      · cases made
        exact ⟨rfl, rfl, rfl, val_of_requireMac root_eq, rfl, rfl, rfl, rfl,
          val_of_requireMac signature_eq, rfl⟩
      · cases made
    · cases made
  · rintro ⟨rfl, rfl, rfl, rfl, rfl, rfl, rfl, rfl, rfl, rfl⟩
    simp only [make, Except.bind_eq_ok_iff, requireIdentifier_eq_ok_iff, requireTimestamp_eq_ok_iff]
    refine ⟨anchor.anchorId, rfl, anchor.segmentId, rfl, anchor.merkleRoot,
      requireMac_val _ _, anchor.rootSignature, requireMac_val _ _, anchor.signerKeyId, rfl,
      anchor.sealedAt, rfl, ?_⟩
    rw [dif_pos anchor.first_le_last, dif_pos anchor.covers_range]
    rfl

theorem cls_of_make {error : PyError}
    (refused : make anchorId segmentId tenantId merkleRoot treeSize firstSeq lastSeq sealedAt
      rootSignature signerKeyId = .error error) : error.cls = .domainValidationError := by
  simp only [make, Except.bind_eq_error_iff] at refused
  rcases refused with anchor | ⟨_, -, segment | ⟨_, -, root | ⟨_, -, signature | ⟨_, -, key |
    ⟨_, -, time | ⟨_, -, range⟩⟩⟩⟩⟩⟩
  · exact cls_of_requireIdentifier anchor
  · exact cls_of_requireIdentifier segment
  · exact cls_of_requireMac root
  · exact cls_of_requireMac signature
  · exact cls_of_requireIdentifier key
  · exact cls_of_requireTimestamp time
  · split at range
    · split at range
      · cases range
      · cases range
        rfl
    · cases range
      rfl

theorem exists_make_iff {anchorId segmentId : String} {tenantId : Identifier}
    {merkleRoot : ByteString} {treeSize firstSeq lastSeq : Nat} {sealedAt : ℚ}
    {rootSignature : ByteString} {signerKeyId : String} :
    (∃ anchor, make anchorId segmentId tenantId merkleRoot treeSize firstSeq lastSeq sealedAt
        rootSignature signerKeyId = .ok anchor) ↔
      isIdentifier anchorId ∧ isIdentifier segmentId ∧ 32 ≤ merkleRoot.length ∧
      32 ≤ rootSignature.length ∧ isIdentifier signerKeyId ∧
      (0 ≤ sealedAt ∧ sealedAt ≤ maxTimestamp) ∧ firstSeq ≤ lastSeq ∧
      treeSize = lastSeq - firstSeq + 1 := by
  constructor
  · rintro ⟨anchor, made⟩
    obtain ⟨rfl, rfl, rfl, rfl, rfl, rfl, rfl, rfl, rfl, rfl⟩ := make_eq_ok_iff.mp made
    exact ⟨anchor.anchorId.property, anchor.segmentId.property, anchor.merkleRoot.property,
      anchor.rootSignature.property, anchor.signerKeyId.property, anchor.sealedAt.property,
      anchor.first_le_last, anchor.covers_range⟩
  · rintro ⟨anchor_valid, segment_valid, root_valid, signature_valid, key_valid, time_valid,
      ordered, covers⟩
    exact ⟨⟨⟨_, anchor_valid⟩, ⟨_, segment_valid⟩, tenantId, ⟨_, root_valid⟩, treeSize, firstSeq,
      lastSeq, ⟨_, time_valid⟩, ⟨_, signature_valid⟩, ⟨_, key_valid⟩, ordered, covers⟩,
      make_eq_ok_iff.mpr ⟨rfl, rfl, rfl, rfl, rfl, rfl, rfl, rfl, rfl, rfl⟩⟩

end WormAnchor

/-- One sealed leaf: a sequence number and a record's code. -/
structure SegmentLeaf where
  seq : Nat
  recordHmac : Mac

def SegmentLeaf.make (seq : Int) (recordHmac : ByteString) : Except PyError SegmentLeaf :=
  if seq < 0 then
    .error (.validation "seq must not be negative" "seq" [("value", .int seq)])
  else if valid : 32 ≤ recordHmac.length then .ok ⟨seq.toNat, recordHmac, valid⟩
  else .error (.validation "record_hmac must be at least 32 bytes" "record_hmac")

variable {seq : Int} {recordHmac : ByteString} {leaf : SegmentLeaf}

theorem SegmentLeaf.seq_of_make (made : make seq recordHmac = .ok leaf) :
    (leaf.seq : Int) = seq := by
  unfold make at made
  split at made
  · cases made
  · split at made
    · cases made
      exact Int.toNat_of_nonneg (by omega)
    · cases made

theorem SegmentLeaf.recordHmac_of_make (made : make seq recordHmac = .ok leaf) :
    leaf.recordHmac.val = recordHmac := by
  unfold make at made
  split at made
  · cases made
  · split at made
    · cases made
      rfl
    · cases made

structure OutcomeReport where
  outcomeStatus : IntegrityStatus := .intact
  outcomeRecordsChecked : Nat := 0
  firstBrokenOutcomeSeq : Option Int := none

/-- The result of verifying one evidence segment. -/
structure IntegrityReport where
  segmentId : String
  status : IntegrityStatus
  recordsChecked : Nat
  verifiedAt : Timestamp
  firstBrokenSeq : Option Nat := none
  detail : String := ""
  outcomeStatus : IntegrityStatus := .intact
  outcomeRecordsChecked : Nat := 0
  firstBrokenOutcomeSeq : Option Nat := none
  /-- A broken segment, and only a broken segment, names the failing record. -/
  broken_iff : status = .broken ↔ firstBrokenSeq.isSome
  /-- Likewise for the outcome chain. -/
  outcome_broken_iff : outcomeStatus = .broken ↔ firstBrokenOutcomeSeq.isSome

namespace IntegrityReport

/-- A failing sequence number, which must not be negative. -/
def requireBrokenSeq (seq : Option Int) (field : String) : Except PyError (Option Nat) :=
  match seq with
  | none => .ok none
  | some number =>
    if number < 0 then
      .error (.validation (field ++ " must not be negative") field [("value", .int number)])
    else .ok (some number.toNat)

def make (segmentId : String) (status : IntegrityStatus) (recordsChecked : Nat) (verifiedAt : ℚ)
    (firstBrokenSeq : Option Int) (detail : String) (outcome : OutcomeReport) :
    Except PyError IntegrityReport := do
  let segmentId ← requireIdentifier segmentId "segment_id"
  let verifiedAt ← requireTimestamp verifiedAt "verified_at"
  let firstBrokenSeq ← requireBrokenSeq firstBrokenSeq "first_broken_seq"
  if broken_iff : status = .broken ↔ firstBrokenSeq.isSome then
    let firstBrokenOutcomeSeq ←
      requireBrokenSeq outcome.firstBrokenOutcomeSeq "first_broken_outcome_seq"
    if outcome_broken_iff :
        outcome.outcomeStatus = .broken ↔ firstBrokenOutcomeSeq.isSome then
      return {
        segmentId := segmentId.val
        status := status
        recordsChecked := recordsChecked
        verifiedAt := verifiedAt
        firstBrokenSeq := firstBrokenSeq
        detail := detail
        outcomeStatus := outcome.outcomeStatus
        outcomeRecordsChecked := outcome.outcomeRecordsChecked
        firstBrokenOutcomeSeq := firstBrokenOutcomeSeq
        broken_iff := broken_iff
        outcome_broken_iff := outcome_broken_iff }
    else if outcome.outcomeStatus = .broken then
      throw (.validation "a broken outcome chain must localise the first failing record"
        "first_broken_outcome_seq")
    else
      throw (.validation "only a broken outcome chain may name a failing record"
        "first_broken_outcome_seq")
  else if status = .broken then
    throw (.validation "a broken segment must localise the first failing record"
      "first_broken_seq")
  else
    throw (.validation "only a broken segment may name a failing record" "first_broken_seq")

/-- What the constructor asks of its arguments. -/
structure Reportable (segmentId : String) (status : IntegrityStatus) (verifiedAt : ℚ)
    (firstBrokenSeq : Option Int) (outcome : OutcomeReport) : Prop where
  identifier : isIdentifier segmentId
  timestamp : 0 ≤ verifiedAt ∧ verifiedAt ≤ maxTimestamp
  seq_nonneg : ∀ seq ∈ firstBrokenSeq, 0 ≤ seq
  broken_iff : status = .broken ↔ firstBrokenSeq.isSome
  outcome_seq_nonneg : ∀ seq ∈ outcome.firstBrokenOutcomeSeq, 0 ≤ seq
  outcome_broken_iff : outcome.outcomeStatus = .broken ↔ outcome.firstBrokenOutcomeSeq.isSome

variable {segmentId : String} {verifiedAt : ℚ} {outcome : OutcomeReport} {status : IntegrityStatus}
  {firstBrokenSeq : Option Int} {recordsChecked : Nat} {detail : String} {report : IntegrityReport}

theorem Reportable.broken (intact : Reportable segmentId .intact verifiedAt none outcome)
    {seq : Int} (nonneg : 0 ≤ seq) : Reportable segmentId .broken verifiedAt (some seq) outcome :=
  { intact with
    seq_nonneg := by
      rintro _ ⟨⟩
      exact nonneg
    broken_iff := by simp }

theorem requireBrokenSeq_eq_ok_iff {seq : Option Int} {field : String} {number : Option Nat} :
    requireBrokenSeq seq field = .ok number ↔
      (∀ value ∈ seq, 0 ≤ value) ∧ number = seq.map Int.toNat := by
  cases seq with
  | none => simp [requireBrokenSeq, eq_comm]
  | some value =>
    by_cases negative : value < 0
    · simp [requireBrokenSeq, negative]
    · have nonneg : 0 ≤ value := by omega
      simp [requireBrokenSeq, negative, nonneg, eq_comm]

/-- The constructor returns a report of what it was given. -/
theorem make_of_reportable
    (reportable : Reportable segmentId status verifiedAt firstBrokenSeq outcome)
    (recordsChecked : Nat) (detail : String) :
    ∃ report, make segmentId status recordsChecked verifiedAt firstBrokenSeq detail outcome =
        .ok report ∧ report.status = status ∧ report.recordsChecked = recordsChecked ∧
      report.outcomeStatus = outcome.outcomeStatus := by
  have named : requireIdentifier segmentId "segment_id" =
      .ok ⟨segmentId, reportable.identifier⟩ := requireIdentifier_eq_ok_iff.mpr rfl
  have timed : requireTimestamp verifiedAt "verified_at" = .ok ⟨verifiedAt, reportable.timestamp⟩ :=
    requireTimestamp_eq_ok_iff.mpr rfl
  have placed : requireBrokenSeq firstBrokenSeq "first_broken_seq" =
      .ok (firstBrokenSeq.map Int.toNat) :=
    requireBrokenSeq_eq_ok_iff.mpr ⟨reportable.seq_nonneg, rfl⟩
  have outcome_placed : requireBrokenSeq outcome.firstBrokenOutcomeSeq
      "first_broken_outcome_seq" = .ok (outcome.firstBrokenOutcomeSeq.map Int.toNat) :=
    requireBrokenSeq_eq_ok_iff.mpr ⟨reportable.outcome_seq_nonneg, rfl⟩
  have broken_iff : status = .broken ↔ (firstBrokenSeq.map Int.toNat).isSome := by
    simpa using reportable.broken_iff
  have outcome_broken_iff : outcome.outcomeStatus = .broken ↔
      (outcome.firstBrokenOutcomeSeq.map Int.toNat).isSome := by
    simpa using reportable.outcome_broken_iff
  simp only [make, named, timed, placed, outcome_placed, bind, Except.bind, dif_pos broken_iff,
    dif_pos outcome_broken_iff]
  exact ⟨_, rfl, rfl, rfl, rfl⟩

section

variable (made : make segmentId status recordsChecked verifiedAt firstBrokenSeq detail outcome = .ok
  report)
include made

theorem reportable_of_make :
    Reportable segmentId status verifiedAt firstBrokenSeq outcome ∧ report.status = status ∧
      report.recordsChecked = recordsChecked := by
  simp only [make, Except.bind_eq_ok_iff, requireIdentifier_eq_ok_iff, requireTimestamp_eq_ok_iff,
    requireBrokenSeq_eq_ok_iff] at made
  obtain ⟨identifier, rfl, timestamp, rfl, _, ⟨nonneg, rfl⟩, made⟩ := made
  split at made
  · rename_i broken_iff
    obtain ⟨_, placed, made⟩ := Except.bind_eq_ok_iff.mp made
    obtain ⟨outcome_nonneg, rfl⟩ := requireBrokenSeq_eq_ok_iff.mp placed
    split at made
    · rename_i outcome_broken_iff
      cases made
      exact ⟨⟨identifier.property, timestamp.property, nonneg, by simpa using broken_iff,
        outcome_nonneg, by simpa using outcome_broken_iff⟩, rfl, rfl⟩
    · split at made <;> cases made
  · split at made <;> cases made

theorem outcomeStatus_of_make : report.outcomeStatus = outcome.outcomeStatus := by
  obtain ⟨other, remade, -, -, outcome_status⟩ :=
    make_of_reportable (reportable_of_make made).1 recordsChecked detail
  cases made.symm.trans remade
  exact outcome_status

end

/-- Whether an auditor may rely on the intent chain. -/
def isAcceptable (report : IntegrityReport) : Bool := report.status.isAcceptable

end IntegrityReport

end GlassBox
