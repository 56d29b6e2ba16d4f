import GlassBox.Domain.Action
import GlassBox.Domain.Identity
import GlassBox.Foundation.Program

/-!
# Decisions, stages and execution outcomes

`domain/decision.py`.  The constructors of the source refuse inconsistent decisions; here the
consistency conditions are fields, so an inconsistent decision cannot be written down.
-/

namespace GlassBox

/-- What the control plane decided to do with a proposed action. -/
inductive DecisionEffect
  | deny
  | requireApproval
  | allow
  deriving DecidableEq

def DecisionEffect.value : DecisionEffect → String
  | deny => "deny"
  | requireApproval => "require_approval"
  | allow => "allow"

/-- Controlled vocabulary for refusals. -/
inductive DenialReason
  | identityUnverified
  | credentialExpired
  | delegationInvalid
  | actionNotGoverned
  | attestationNotSatisfied
  | mandateMissing
  | mandateRevoked
  | mandateExceeded
  | toolNotGoverned
  | toolDefinitionChanged
  | policyDenied
  | policyBundleUnavailable
  | riskThresholdExceeded
  | limitExceeded
  | baselineAnomaly
  | dependencyUnavailable
  | mandatoryStageSkipped
  | evidenceWriteFailed
  | killSwitchEngaged
  | parametersInvalid
  | promptInjectionDetected
  deriving DecidableEq

def DenialReason.value : DenialReason → String
  | identityUnverified => "identity_unverified"
  | credentialExpired => "credential_expired"
  | delegationInvalid => "delegation_invalid"
  | actionNotGoverned => "action_not_governed"
  | attestationNotSatisfied => "attestation_not_satisfied"
  | mandateMissing => "mandate_missing"
  | mandateRevoked => "mandate_revoked"
  | mandateExceeded => "mandate_exceeded"
  | toolNotGoverned => "tool_not_governed"
  | toolDefinitionChanged => "tool_definition_changed"
  | policyDenied => "policy_denied"
  | policyBundleUnavailable => "policy_bundle_unavailable"
  | riskThresholdExceeded => "risk_threshold_exceeded"
  | limitExceeded => "limit_exceeded"
  | baselineAnomaly => "baseline_anomaly"
  | dependencyUnavailable => "dependency_unavailable"
  | mandatoryStageSkipped => "mandatory_stage_skipped"
  | evidenceWriteFailed => "evidence_write_failed"
  | killSwitchEngaged => "kill_switch_engaged"
  | parametersInvalid => "parameters_invalid"
  | promptInjectionDetected => "prompt_injection_detected"

inductive ApprovalState
  | pending
  | inReview
  | approved
  | rejected
  | revoked
  | expired
  deriving DecidableEq

def ApprovalState.value : ApprovalState → String
  | pending => "pending"
  | inReview => "in_review"
  | approved => "approved"
  | rejected => "rejected"
  | revoked => "revoked"
  | expired => "expired"

/-- Categories of condition attached to an allowing decision. -/
inductive ObligationKind
  | notify
  | redact
  | rateCap
  | dualControl
  | recordJustification
  | postExecutionReview
  deriving DecidableEq

def ObligationKind.value : ObligationKind → String
  | notify => "notify"
  | redact => "redact"
  | rateCap => "rate_cap"
  | dualControl => "dual_control"
  | recordJustification => "record_justification"
  | postExecutionReview => "post_execution_review"

/-- A condition attached to an allowing decision. -/
structure Obligation where
  kind : ObligationKind
  obligationId : Identifier
  /-- Whether it must be discharged before dispatch. -/
  blocking : Bool := false
  parameters : List (String × Value) := []

def Obligation.asEvidence (obligation : Obligation) : List (String × Value) :=
  [("kind", .str obligation.kind.value), ("obligation_id", .str obligation.obligationId.val),
    ("blocking", .bool obligation.blocking),
    ("parameters", .record (dictOf obligation.parameters))]

/-- The complete input to a policy decision. -/
structure AuthorizationRequest where
  decisionId : Identifier
  principal : VerifiedPrincipal
  action : ProposedAction
  evaluatedAt : Timestamp
  attributes : List (String × Value) := []
  same_tenant : principal.tenantId = action.tenantId

/-- `AuthorizationRequest(…)` without further attributes. -/
def AuthorizationRequest.make (decisionId : String) (principal : VerifiedPrincipal)
    (action : ProposedAction) (evaluatedAt : ℚ) : Except PyError AuthorizationRequest := do
  let decisionId ← requireIdentifier decisionId "decision_id"
  let evaluatedAt ← requireTimestamp evaluatedAt "evaluated_at"
  if same_tenant : principal.tenantId = action.tenantId then
    return { decisionId, principal, action, evaluatedAt, same_tenant }
  else
    throw (.validation "the principal's tenant and the resource's tenant must match" "action"
      [("principal_tenant", .str principal.tenantId.val),
        ("resource_tenant", .str action.tenantId.val)])

theorem AuthorizationRequest.make_eq_ok_iff {decisionId : String} {principal : VerifiedPrincipal}
    {action : ProposedAction} {evaluatedAt : ℚ} {request : AuthorizationRequest} :
    make decisionId principal action evaluatedAt = .ok request ↔
      request.decisionId.val = decisionId ∧ request.principal = principal ∧
        request.action = action ∧ request.evaluatedAt.val = evaluatedAt ∧
        request.attributes = [] := by
  constructor
  · intro made
    obtain ⟨_, decisionId_eq, made⟩ := Except.bind_eq_ok_iff.mp made
    obtain ⟨_, evaluatedAt_eq, made⟩ := Except.bind_eq_ok_iff.mp made
    split at made
    next =>
      cases made
      exact ⟨requireIdentifier_eq_ok_iff.mp decisionId_eq, rfl, rfl,
        requireTimestamp_eq_ok_iff.mp evaluatedAt_eq, rfl⟩
    next => cases made
  · obtain ⟨identifier, principal', action', moment, attributes, same_tenant⟩ := request
    rintro ⟨rfl, rfl, rfl, rfl, rfl⟩
    exact Except.bind_eq_ok_iff.mpr ⟨identifier, requireIdentifier_eq_ok_iff.mpr rfl,
      Except.bind_eq_ok_iff.mpr ⟨moment, requireTimestamp_eq_ok_iff.mpr rfl, dif_pos same_tenant⟩⟩

/-- The outcome of policy evaluation. -/
structure AuthorizationDecision where
  effect : DecisionEffect
  reasons : List DenialReason := []
  rationale : Text
  policyBundleId : Option Identifier := none
  policyBundleSha256 : Option Sha256Hex := none
  matchedRules : List Identifier := []
  obligations : List Obligation := []
  approvalId : Option String := none
  approvalState : Option ApprovalState := none
  /-- A denial, and only a denial, states its reasons. -/
  reasons_iff : effect = .deny ↔ reasons ≠ []
  /-- A decision that does not deny cites the bundle that authorised it. -/
  cites_bundle : effect ≠ .deny → policyBundleId.isSome ∧ policyBundleSha256.isSome
  /-- A denial carries no obligations. -/
  denial_unconditional : effect = .deny → obligations = []
  /-- Approval metadata belongs to decisions that require approval. -/
  approval_metadata : effect ≠ .requireApproval → approvalId = none ∧ approvalState = none
  /-- A decision that requires approval has an approval state. -/
  approval_tracked : effect = .requireApproval → approvalState.isSome

namespace AuthorizationDecision

/-- `AuthorizationDecision.deny` with one reason. -/
def deny (reason : DenialReason) (rationale : Text) : AuthorizationDecision where
  effect := .deny
  reasons := [reason]
  rationale := rationale
  reasons_iff := by simp
  cites_bundle := by simp
  denial_unconditional := by simp
  approval_metadata := by simp
  approval_tracked := by simp

@[simp]
theorem effect_deny (reason : DenialReason) (rationale : Text) :
    (deny reason rationale).effect = .deny := rfl

section Factories

variable (rationale : Text) (policyBundleId : Identifier) (policyBundleSha256 : Sha256Hex)
  (matchedRules : List Identifier)

/-- `AuthorizationDecision.deny` with one reason, citing a bundle. -/
def denyCiting (reason : DenialReason) : AuthorizationDecision :=
  { deny reason rationale with
    policyBundleId := some policyBundleId
    policyBundleSha256 := some policyBundleSha256
    matchedRules := matchedRules
    cites_bundle := fun _ => ⟨rfl, rfl⟩ }

/-- `AuthorizationDecision.allow` without obligations. -/
def allow : AuthorizationDecision where
  effect := .allow
  rationale := rationale
  policyBundleId := some policyBundleId
  policyBundleSha256 := some policyBundleSha256
  matchedRules := matchedRules
  reasons_iff := by simp
  cites_bundle := fun _ => ⟨rfl, rfl⟩
  denial_unconditional := fun _ => rfl
  approval_metadata := fun _ => ⟨rfl, rfl⟩
  approval_tracked := nofun

/-- `AuthorizationDecision.require_approval` without obligations; the approval is pending. -/
def requireApproval : AuthorizationDecision where
  effect := .requireApproval
  rationale := rationale
  policyBundleId := some policyBundleId
  policyBundleSha256 := some policyBundleSha256
  matchedRules := matchedRules
  approvalState := some .pending
  reasons_iff := by simp
  cites_bundle := fun _ => ⟨rfl, rfl⟩
  denial_unconditional := fun _ => rfl
  approval_metadata := fun other => absurd rfl other
  approval_tracked := fun _ => rfl

end Factories

def withApproval (decision : AuthorizationDecision) (requires : decision.effect = .requireApproval)
    (approvalId : String) (approvalState : ApprovalState) : AuthorizationDecision :=
  { decision with
    approvalId := some approvalId
    approvalState := some approvalState
    approval_metadata := fun other => absurd requires other
    approval_tracked := fun _ => rfl }

/-- Obligations that must be discharged before any dispatch. -/
def blockingObligations (decision : AuthorizationDecision) : List Obligation :=
  decision.obligations.filter Obligation.blocking

/-- The `policy_decision` payload. -/
def asEvidence (decision : AuthorizationDecision) : List (String × Value) :=
  [("effect", .str decision.effect.value),
    ("reasons", .list (decision.reasons.map fun reason => .str reason.value)),
    ("rationale", .str decision.rationale.val),
    ("policy_bundle_id", .ofOptionStr (decision.policyBundleId.map Subtype.val)),
    ("policy_bundle_sha256", .ofOptionStr (decision.policyBundleSha256.map Subtype.val)),
    ("matched_rules", .list (decision.matchedRules.map fun rule => .str rule.val)),
    ("obligations", .list (decision.obligations.map fun obligation =>
      .record obligation.asEvidence))] ++
    (decision.approvalId.toList.map fun approvalId => ("approval_id", .str approvalId)) ++
    (decision.approvalState.toList.map fun state => ("approval_state", .str state.value))

end AuthorizationDecision

/-- The governance stages, in pipeline order. -/
inductive Stage
  | toolRegistry
  | catalogue
  | identity
  | killSwitch
  | mandate
  | policy
  | risk
  | limits
  | baseline
  deriving DecidableEq

def Stage.name : Stage → Identifier
  | toolRegistry => ⟨"tool_registry", by decide⟩
  | catalogue => ⟨"catalogue", by decide⟩
  | identity => ⟨"identity", by decide⟩
  | killSwitch => ⟨"kill_switch", by decide⟩
  | mandate => ⟨"mandate", by decide⟩
  | policy => ⟨"policy", by decide⟩
  | risk => ⟨"risk", by decide⟩
  | limits => ⟨"limits", by decide⟩
  | baseline => ⟨"baseline", by decide⟩

/-- Whether a governance stage ran, was skipped, or failed. -/
inductive StageStatus
  | executed
  | skipped
  | failed
  deriving DecidableEq

def StageStatus.value : StageStatus → String
  | executed => "executed"
  | skipped => "skipped"
  | failed => "failed"

/-- The recorded result of one governance stage. -/
structure StageOutcome where
  stage : Identifier
  status : StageStatus
  durationMs : Amount := ⟨0, le_refl 0⟩
  reason : Option String := none
  /-- A stage which did not execute says why. -/
  reason_given : status ≠ .executed → ∃ text ∈ reason, isBlank text = false

namespace StageOutcome

def executed (stage : Stage) : StageOutcome where
  stage := stage.name
  status := .executed
  reason_given := by simp

/-- `_skipped`: a stage that did not run, with its reason. -/
def skipped (stage : Stage) (reason : Text) : StageOutcome where
  stage := stage.name
  status := .skipped
  reason := some reason.val
  reason_given := fun _ => ⟨reason.val, rfl, reason.property⟩

def failed (stage : Stage) (reason : Text) : StageOutcome where
  stage := stage.name
  status := .failed
  reason := some reason.val
  reason_given := fun _ => ⟨reason.val, rfl, reason.property⟩

/-- Whether this outcome represents a control that did not run. -/
def isMissingControl (outcome : StageOutcome) : Bool := outcome.status != .executed

def asEvidence (outcome : StageOutcome) : List (String × Value) :=
  [("stage", .str outcome.stage.val), ("status", .str outcome.status.value),
    ("duration_ms", .ofRat outcome.durationMs.val), ("reason", .ofOptionStr outcome.reason)]

end StageOutcome

/-- Terminal state of a governed action. -/
inductive ExecutionStatus
  | executed
  | failed
  | indeterminate
  | abandoned
  | denied
  | pendingApproval
  | replayed
  deriving DecidableEq

def ExecutionStatus.value : ExecutionStatus → String
  | executed => "executed"
  | failed => "failed"
  | indeterminate => "indeterminate"
  | abandoned => "abandoned"
  | denied => "denied"
  | pendingApproval => "pending_approval"
  | replayed => "replayed"

/-- What actually happened after the decision was recorded. -/
structure ExecutionOutcome where
  status : ExecutionStatus
  completedAt : Timestamp
  resultDigest : Option Sha256Hex := none
  errorClass : Option Text := none
  /-- A failed outcome records its error class. -/
  failure_named : status = .failed → errorClass.isSome

namespace ExecutionOutcome

/-- The `evidence_outcome` payload. -/
def asEvidence (outcome : ExecutionOutcome) : List (String × Value) :=
  [("status", .str outcome.status.value), ("completed_at", .ofRat outcome.completedAt.val),
    ("result_digest", .ofOptionStr (outcome.resultDigest.map Subtype.val)),
    ("error_class", .ofOptionStr (outcome.errorClass.map Subtype.val))]

end ExecutionOutcome

end GlassBox
