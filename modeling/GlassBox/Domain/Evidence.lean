import GlassBox.Domain.Decision
import GlassBox.Domain.Limits
import GlassBox.Domain.Risk

/-!
# Evidence records, receipts and integrity reports

`domain/evidence.py`.  `chainPayload` is the exact byte string a chain link authenticates; the two
record types share it and differ in the evidence they contribute.
-/

namespace GlassBox

/-- `GENESIS_PREV_HASH`: the link of the first record of a segment. -/
def genesisPrevHash : ByteString := List.replicate 32 0

/-- A message authentication code of at least 256 bits. -/
abbrev Mac := { bytes : ByteString // 32 ≤ bytes.length }

/-- A code of at least 256 bits. -/
def requireMac (bytes : ByteString) (field : String) : Except PyError Mac :=
  if valid : 32 ≤ bytes.length then .ok ⟨bytes, valid⟩
  else .error (.validation "MAC is shorter than 256 bits" field [("length", .ofNat bytes.length)])

variable {bytes : ByteString} {field : String}

theorem val_of_requireMac {mac : Mac} (valid : requireMac bytes field = .ok mac) :
    mac.val = bytes := by
  unfold requireMac at valid
  split at valid
  · cases valid
    rfl
  · cases valid

theorem cls_of_requireMac {error : PyError} (refused : requireMac bytes field = .error error) :
    error.cls = .domainValidationError := by
  unfold requireMac at refused
  split at refused
  · cases refused
  · cases refused
    rfl

theorem requireMac_val (mac : Mac) (field : String) : requireMac mac.val field = .ok mac := by
  unfold requireMac
  rw [dif_pos mac.property]

/-- Outcome of verifying an evidence segment. -/
inductive IntegrityStatus
  | intact
  | broken
  | sealedPurged
  | unverifiable
  deriving DecidableEq

/-- Whether an auditor may rely on the segment. -/
def IntegrityStatus.isAcceptable (status : IntegrityStatus) : Bool :=
  status == .intact || status == .sealedPurged

/-- Which model, prompt and context produced a proposal. -/
structure ModelProvenance where
  modelId : Option Identifier := none
  modelVersion : Option Identifier := none
  promptSha256 : Option Sha256Hex := none
  contextDigest : Option Sha256Hex := none
  toolsInvoked : List Identifier := []
  dataSources : List Identifier := []

def ModelProvenance.asEvidence (provenance : ModelProvenance) : List (String × Value) :=
  [("model_id", .ofOptionStr (provenance.modelId.map Subtype.val)),
    ("model_version", .ofOptionStr (provenance.modelVersion.map Subtype.val)),
    ("prompt_sha256", .ofOptionStr (provenance.promptSha256.map Subtype.val)),
    ("context_digest", .ofOptionStr (provenance.contextDigest.map Subtype.val)),
    ("tools_invoked", .list (provenance.toolsInvoked.map fun tool => .str tool.val)),
    ("data_sources", .list (provenance.dataSources.map fun source => .str source.val))]

section ChainPayload

variable [Runtime]

/-- The bytes authenticated for a record at position `seq` linked to `prevHash`. -/
def chainPayload (evidence : List (String × Value)) (seq : Int) (prevHash : ByteString) :
    Except PyError ByteString :=
  if seq < 0 then
    .error (.validation "seq must not be negative" "seq" [("value", .int seq)])
  else if prevHash.length ≠ genesisPrevHash.length then
    .error (.validation "prev_hash must be exactly 32 bytes" "prev_hash"
      [("length", .ofNat prevHash.length)])
  else
    canonicalBytes
      [("seq", .int seq), ("prev_hash", .str (hexText prevHash)), ("record", .record evidence)]

end ChainPayload

/-- The complete, pre-effect record of a governed decision. -/
structure IntentRecord where
  decisionId : Identifier
  segmentId : Identifier
  tenantId : Identifier
  createdAt : Timestamp
  principal : VerifiedPrincipal
  action : ProposedAction
  decision : AuthorizationDecision
  risk : RiskScore
  traceId : Identifier
  limits : List LimitVerdict := []
  stages : List StageOutcome := []
  provenance : ModelProvenance := {}
  causationId : Option Identifier := none
  attributes : List (String × Value) := []
  principal_tenant : principal.tenantId = tenantId
  action_tenant : action.tenantId = tenantId

namespace IntentRecord

/-- `IntentRecord(…)` without further attributes. -/
def make (decisionId segmentId : String) (createdAt : ℚ) (principal : VerifiedPrincipal)
    (action : ProposedAction) (decision : AuthorizationDecision) (risk : RiskScore)
    (traceId : String) (limits : List LimitVerdict) (stages : List StageOutcome)
    (provenance : ModelProvenance) (causationId : Option String) :
    Except PyError IntentRecord := do
  let decisionId ← requireIdentifier decisionId "decision_id"
  let segmentId ← requireIdentifier segmentId "segment_id"
  let createdAt ← requireTimestamp createdAt "created_at"
  let traceId ← requireIdentifier traceId "trace_id"
  let causationId ← causationId.mapM fun text => requireIdentifier text "causation_id"
  if action_tenant : action.tenantId = principal.tenantId then
    return {
      decisionId := decisionId
      segmentId := segmentId
      tenantId := principal.tenantId
      createdAt := createdAt
      principal := principal
      action := action
      decision := decision
      risk := risk
      traceId := traceId
      limits := limits
      stages := stages
      provenance := provenance
      causationId := causationId
      principal_tenant := rfl
      action_tenant := action_tenant }
  else
    throw (.validation "record tenant does not match the resource's tenant" "tenant_id"
      [("record_tenant", .str principal.tenantId.val),
        ("resource_tenant", .str action.tenantId.val)])

section Make

variable {decisionId segmentId : String} {createdAt : ℚ} {principal : VerifiedPrincipal}
  {action : ProposedAction} {decision : AuthorizationDecision} {risk : RiskScore} {traceId : String}
  {limits : List LimitVerdict} {stages : List StageOutcome} {provenance : ModelProvenance}
  {causationId : Option String} {record : IntentRecord}

theorem of_make
    (made : make decisionId segmentId createdAt principal action decision risk traceId limits stages
      provenance causationId = .ok record) :
    record.decisionId.val = decisionId ∧ record.segmentId.val = segmentId ∧
      record.createdAt.val = createdAt ∧ record.principal = principal ∧ record.action = action ∧
      record.decision = decision ∧ record.limits = limits ∧ record.stages = stages ∧
      record.traceId.val = traceId ∧ record.causationId.map Subtype.val = causationId := by
  obtain ⟨_, decisionId_eq, made⟩ := Except.bind_eq_ok_iff.mp made
  obtain ⟨_, segmentId_eq, made⟩ := Except.bind_eq_ok_iff.mp made
  obtain ⟨_, createdAt_eq, made⟩ := Except.bind_eq_ok_iff.mp made
  obtain ⟨_, traceId_eq, made⟩ := Except.bind_eq_ok_iff.mp made
  obtain ⟨cause, causationId_eq, made⟩ := Except.bind_eq_ok_iff.mp made
  have cause_eq : cause.map Subtype.val = causationId := by
    cases causationId with
    | none =>
      cases causationId_eq
      rfl
    | some text =>
      obtain ⟨identifier, identifier_eq, rfl⟩ := Except.map_eq_ok_iff.mp causationId_eq
      simpa using requireIdentifier_eq_ok_iff.mp identifier_eq
  by_cases same : action.tenantId = principal.tenantId
  · rw [dif_pos same] at made
    cases made
    exact ⟨requireIdentifier_eq_ok_iff.mp decisionId_eq,
      requireIdentifier_eq_ok_iff.mp segmentId_eq,
      requireTimestamp_eq_ok_iff.mp createdAt_eq, rfl, rfl, rfl, rfl, rfl,
      requireIdentifier_eq_ok_iff.mp traceId_eq, cause_eq⟩
  · rw [dif_neg same] at made
    cases made

/-- A record can be made of well-formed identifiers, a well-formed time and agreeing tenants. -/
theorem make_eq_ok (decisionId segmentId traceId : Identifier) (createdAt : Timestamp)
    (causationId : Option Identifier) (action_tenant : action.tenantId = principal.tenantId) :
    make decisionId.val segmentId.val createdAt.val principal action decision risk traceId.val
      limits stages provenance (causationId.map Subtype.val) = .ok {
        decisionId := decisionId
        segmentId := segmentId
        tenantId := principal.tenantId
        createdAt := createdAt
        principal := principal
        action := action
        decision := decision
        risk := risk
        traceId := traceId
        limits := limits
        stages := stages
        provenance := provenance
        causationId := causationId
        principal_tenant := rfl
        action_tenant := action_tenant } := by
  have identified : ∀ (identifier : Identifier) field,
      requireIdentifier identifier.val field = .ok identifier :=
    fun identifier field => requireIdentifier_eq_ok_iff.mpr rfl
  have stamped : requireTimestamp createdAt.val "created_at" = .ok createdAt :=
    requireTimestamp_eq_ok_iff.mpr rfl
  have caused : (causationId.map Subtype.val).mapM
      (fun text => requireIdentifier text "causation_id") = Except.ok causationId := by
    cases causationId with
    | none => rfl
    | some cause => exact Except.map_eq_ok_iff.mpr ⟨cause, identified cause _, rfl⟩
  unfold make
  rw [identified, identified, stamped, identified, caused]
  exact dif_pos action_tenant

theorem risk_of_make
    (made : make decisionId segmentId createdAt principal action decision risk traceId limits stages
      provenance causationId = .ok record) : record.risk = risk ∧ record.attributes = [] := by
  obtain ⟨rfl, rfl, rfl, principal_eq, action_eq, -, -, -, rfl, rfl⟩ := of_make made
  have action_tenant := record.action_tenant.trans record.principal_tenant.symm
  rw [principal_eq, action_eq] at action_tenant
  rw [make_eq_ok _ _ _ _ _ action_tenant, Except.ok.injEq] at made
  rw [← made]
  exact ⟨rfl, rfl⟩

end Make

/-- What is signed of a record. -/
def asEvidence (record : IntentRecord) : List (String × Value) :=
  [("decision_id", .str record.decisionId.val), ("segment_id", .str record.segmentId.val),
    ("tenant_id", .str record.tenantId.val), ("created_at", .ofRat record.createdAt.val),
    ("identity", .record record.principal.asEvidence),
    ("action", .record record.action.asEvidence),
    ("policy_decision", .record record.decision.asEvidence),
    ("risk", .record record.risk.asEvidence),
    ("limits_verdict", .list (record.limits.map fun verdict => .record verdict.asEvidence)),
    ("stages", .list (record.stages.map fun stage => .record stage.asEvidence)),
    ("skipped_stages", .list ((record.stages.filter StageOutcome.isMissingControl).map
      fun stage => .record stage.asEvidence)),
    ("provenance", .record record.provenance.asEvidence),
    ("trace_id", .str record.traceId.val),
    ("causation_id", .ofOptionStr (record.causationId.map Subtype.val)),
    ("attributes", .record (dictOf record.attributes))]

/-- What is signed at a place in the chain. -/
def chainPayload [Runtime] (record : IntentRecord) (seq : Int) (prevHash : ByteString) :
    Except PyError ByteString :=
  GlassBox.chainPayload record.asEvidence seq prevHash

end IntentRecord

/-- What happened after the intent was made durable. -/
structure OutcomeRecord where
  decisionId : Identifier
  outcome : ExecutionOutcome

namespace OutcomeRecord

/-- What is signed of an outcome. -/
def asEvidence (record : OutcomeRecord) : List (String × Value) :=
  ("decision_id", .str record.decisionId.val) :: record.outcome.asEvidence

def chainPayload [Runtime] (record : OutcomeRecord) (seq : Int) (prevHash : ByteString) :
    Except PyError ByteString :=
  GlassBox.chainPayload record.asEvidence seq prevHash

end OutcomeRecord

/-- Proof that an intent record is durable. -/
structure EvidenceReceipt where
  decisionId : Identifier
  segmentId : Identifier
  seq : Nat
  recordHmac : Mac
  signerKeyId : Identifier
  persistedAt : Timestamp
  deriving DecidableEq

/-- `EvidenceReceipt(…)` for a record just appended at `seq`. -/
def EvidenceReceipt.make (decisionId segmentId : Identifier) (seq : Nat) (recordHmac : ByteString)
    (signerKeyId : String) (persistedAt : Timestamp) : Except PyError EvidenceReceipt := do
  let recordHmac ← requireMac recordHmac "record_hmac"
  let signerKeyId ← requireIdentifier signerKeyId "signer_key_id"
  return { decisionId, segmentId, seq, recordHmac, signerKeyId, persistedAt }

variable {decisionId segmentId : Identifier} {seq : Nat} {recordHmac : ByteString}
  {signerKeyId : String} {persistedAt : Timestamp} {receipt : EvidenceReceipt}

theorem EvidenceReceipt.cls_of_make {error : PyError}
    (refused : make decisionId segmentId seq recordHmac signerKeyId persistedAt = .error error) :
    error.cls = .domainValidationError := by
  rcases Except.bind_eq_error_iff.mp refused with refused | ⟨_, -, refused⟩
  · exact cls_of_requireMac refused
  · rcases Except.bind_eq_error_iff.mp refused with refused | ⟨_, -, refused⟩
    · exact cls_of_requireIdentifier refused
    · cases refused

theorem EvidenceReceipt.of_make
    (made : make decisionId segmentId seq recordHmac signerKeyId persistedAt = .ok receipt) :
    receipt.decisionId = decisionId ∧ receipt.segmentId = segmentId ∧ receipt.seq = seq ∧
      receipt.recordHmac.val = recordHmac := by
  obtain ⟨_, mac_eq, made⟩ := Except.bind_eq_ok_iff.mp made
  obtain ⟨_, -, made⟩ := Except.bind_eq_ok_iff.mp made
  cases made
  exact ⟨rfl, rfl, rfl, val_of_requireMac mac_eq⟩

end GlassBox
