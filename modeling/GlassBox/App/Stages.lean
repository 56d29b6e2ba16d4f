import GlassBox.Ports.Governance

/-!
# The stages which only ask questions

The first seven stages of `app/decision_service.py`.  They read the environment and leave every
store alone.  A stage returns its recorded outcome and, if it refuses the action, the denial.
-/

namespace GlassBox

structure StageResult where
  outcome : StageOutcome
  denial : Option AuthorizationDecision := none

namespace StageResult

def passed (stage : Stage) : StageResult := { outcome := .executed stage }

def skipped (stage : Stage) (reason : Text) : StageResult := { outcome := .skipped stage reason }

def denied (stage : Stage) (reason : DenialReason) (rationale : Text) : StageResult where
  outcome := .executed stage
  denial := some (.deny reason rationale)

/-- The dependency of the stage did not answer, so the action is refused. -/
def failed (stage : Stage) (failure : Text) (reason : DenialReason) (rationale : Text) :
    StageResult where
  outcome := .failed stage failure
  denial := some (.deny reason rationale)

end StageResult

/-- The arguments of `_evaluate`. -/
structure Evaluation where
  principal : VerifiedPrincipal
  action : ProposedAction
  toolRegistry : StageResult
  catalogue : StageResult
  decisionId : String
  traceId : String
  causationId : Option String
  provenance : ModelProvenance
  assertedTenantId : String
  assertedSubject : String
  now : ℚ
  suppressDispatch : Bool := false
  sensitiveParameterFields : List String := []

namespace DecisionService

section Resolution

variable [Runtime] {ρ : Type} (queries : Queries ρ) (environment : ρ)

/-- What a resolving stage hands to the evaluation. -/
structure Resolution where
  action : ProposedAction
  result : StageResult
  sensitiveFields : List String := []

/-- `_ungoverned_placeholder`: the most conservative action when nothing is known. -/
def ungovernedPlaceholder (resource : ResourceRef) (actionName : String)
    (parameters : List (String × Value)) (idempotencyKey : String) :
    Except PyError ProposedAction :=
  ProposedAction.make actionName resource .irreversible { blastRadius := .global } idempotencyKey
    (sortEntries parameters)

/-- The action a definition governs, with the exposure its rule derives. -/
def governedAction (definition : ActionDefinition) (resource : ResourceRef)
    (parameters : List (String × Value)) (idempotencyKey : String) :
    Except PyError ProposedAction := do
  let exposure ← definition.exposureRule.extract parameters
  ProposedAction.make definition.action.val resource definition.consequence exposure
    idempotencyKey (sortEntries parameters)

def refuseUngoverned (resource : ResourceRef) (actionName : String)
    (parameters : List (String × Value)) (idempotencyKey : String) (result : StageResult) :
    Except PyError Resolution := do
  let action ← ungovernedPlaceholder resource actionName parameters idempotencyKey
  return { action, result }

/-- Derives the action from the tool's definition. -/
def checkToolRegistry (toolName definitionSha256 : String) (resource : ResourceRef)
    (parameters : List (String × Value)) (idempotencyKey : String) :
    Except PyError Resolution :=
  let refuse := refuseUngoverned resource toolName parameters idempotencyKey
  match queries.resolveTool environment resource.tenantId toolName definitionSha256 with
  | .error error =>
    if error.isA .toolRegistryUnavailableError then
      refuse (.failed .toolRegistry ⟨"registry unavailable", by decide⟩ .dependencyUnavailable
        ⟨"tool registry unavailable", by decide⟩)
    else if error.isA .toolQuarantinedError then
      refuse (.denied .toolRegistry .toolDefinitionChanged
        (textBehind (Runtime.reprStr toolName)
          ⟨" definition changed and awaits re-approval", by decide⟩))
    else if error.isA .toolNotGovernedError then
      refuse (.denied .toolRegistry .toolNotGoverned
        (textBehind (Runtime.reprStr toolName)
          ⟨" is not a governed tool at the presented definition", by decide⟩))
    else .error error
  | .ok tool => do
    let action ← governedAction tool.action resource parameters idempotencyKey
    let sensitiveFields := tool.action.sensitiveParameterFields.map Subtype.val
    return { action, sensitiveFields, result := .passed .toolRegistry }

/-- `_first_unsatisfied_attestation`: an unavailable attestation does not hold. -/
def firstUnsatisfiedAttestation (resource : ResourceRef) (now : ℚ) :
    List Identifier → Except PyError (Option Identifier)
  | [] => .ok none
  | name :: names => do
    let answer ← attempt (PyError.isA · .attestationUnavailableError)
      (queries.resolveAttestation environment resource.tenantId resource name now)
    if answer = some true then firstUnsatisfiedAttestation resource now names
    else return some name

/-- What is said about the fields in which a pattern was found. -/
abbrev matchedPattern : Text := ⟨" matched an injection pattern", by decide⟩

/-- What is said about an attestation which is missing. -/
abbrev notSatisfied : Text := ⟨" was not satisfied", by decide⟩

/-- Why the stages behind a denial do not run. -/
abbrev alreadyDenied : Text := ⟨"action already denied", by decide⟩

/-- What went wrong in a stage whose store does not answer. -/
abbrev storeUnavailable : Text := ⟨"store unavailable", by decide⟩

/-- What the catalogue stage says about well-formed parameters of a governed action. -/
def judgeParameters (definition : ActionDefinition) (resource : ResourceRef)
    (parameters : List (String × Value)) (now : ℚ) : Except PyError StageResult :=
  match scanUntrustedTextFields definition parameters with
  | first :: others =>
    .ok (.denied .catalogue .promptInjectionDetected
      (textBehind ("untrusted text field(s) " ++
        ", ".intercalate ((first :: others).map Subtype.val))
        matchedPattern))
  | [] => do
    match ← firstUnsatisfiedAttestation queries environment resource now
        definition.requiredAttestations with
    | some name =>
      return .denied .catalogue .attestationNotSatisfied
        (textBehind ("required attestation " ++ Runtime.reprStr name.val)
          notSatisfied)
    | none => return .passed .catalogue

/-- Derives the action from its definition. -/
def checkCatalogue (actionName : String) (resource : ResourceRef)
    (parameters : List (String × Value)) (idempotencyKey : String) (now : ℚ) :
    Except PyError Resolution :=
  let refuse := refuseUngoverned resource actionName parameters idempotencyKey
  match queries.resolveAction environment resource.tenantId actionName with
  | .error error =>
    if error.isA .catalogueBundleUnavailableError then
      refuse (.failed .catalogue ⟨"catalogue unavailable", by decide⟩ .dependencyUnavailable
        ⟨"action catalogue unavailable", by decide⟩)
    else if error.isA .actionNotGovernedError then
      refuse (.denied .catalogue .actionNotGoverned
        (textBehind (Runtime.reprStr actionName)
          ⟨" has no entry in the governed action catalogue", by decide⟩))
    else .error error
  | .ok definition => do
    let action ← governedAction definition resource parameters idempotencyKey
    match definition.validateParameters parameters with
    | first :: others =>
      throw (.validation "parameters do not satisfy the action's governed schema (GB-029)"
        "parameters" [("action", .str actionName),
          ("violations", .str ("; ".intercalate (first :: others)))])
    | [] =>
      let result ← judgeParameters queries environment definition resource parameters now
      let sensitiveFields := definition.sensitiveParameterFields.map Subtype.val
      return { action, sensitiveFields, result }

end Resolution

section Authorisation

variable [Runtime] {ρ : Type} (queries : Queries ρ) (environment : ρ)

/-- The asserted identity must be the verified one. -/
def checkIdentityAssertion (call : Evaluation) : Except PyError StageResult := do
  match ← attempt (PyError.isA · .identityError)
      (queries.assertMatchesAssertion environment call.principal call.assertedTenantId
        call.assertedSubject) with
  | none =>
    return .failed .identity ⟨"asserted identity mismatch", by decide⟩ .identityUnverified
      ⟨"asserted identity does not match the verified credential", by decide⟩
  | some _ => return .passed .identity

/-- Whether one of the two emergency stops is engaged; the second is asked only if the first one
is not. -/
def killSwitchEngaged (tenantId : Identifier) : Except PyError Bool := do
  if ← queries.isGloballyEngaged environment then return true
  else queries.isTenantEngaged environment tenantId

/-- An advisory action is not stopped. -/
def checkKillSwitch (tenantId : Identifier) (action : ProposedAction) :
    Except PyError StageResult :=
  if action.consequence.mayDegradeOnDependencyFailure then
    .ok (.skipped .killSwitch ⟨"action is advisory", by decide⟩)
  else do
    match ← attempt (PyError.isA · .killSwitchUnavailableError)
        (killSwitchEngaged queries environment tenantId) with
    | none =>
      return .failed .killSwitch ⟨"switch unavailable", by decide⟩ .dependencyUnavailable
        ⟨"kill switch unavailable", by decide⟩
    | some true =>
      return .denied .killSwitch .killSwitchEngaged ⟨"emergency stop is engaged", by decide⟩
    | some false => return .passed .killSwitch

def mandateUnavailable (action : ProposedAction) : StageResult :=
  if action.consequence.mayDegradeOnDependencyFailure then
    .skipped .mandate ⟨"mandate store unavailable; action is advisory", by decide⟩
  else
    .failed .mandate storeUnavailable .dependencyUnavailable
      ⟨"mandate store unavailable", by decide⟩

def judgeMandate (mandate : Mandate) (action : ProposedAction) (now : ℚ) :
    Except PyError StageResult := do
  let verdict ← mandate.permits action now
  if verdict.permitted then return .passed .mandate
  else
    let rationale ← requireNonEmpty
      (if verdict.detail = "" then "mandate does not permit this action" else verdict.detail)
      "rationale"
    return .denied .mandate .mandateExceeded rationale

/-- The agent's mandate must permit the action. -/
def checkMandate (principal : VerifiedPrincipal) (action : ProposedAction) (now : ℚ) :
    Except PyError StageResult := do
  match ← attempt (PyError.isA · .mandateError)
      (queries.getMandate environment principal.tenantId principal.agentRef now) with
  | none => return mandateUnavailable action
  | some none =>
    return .denied .mandate .mandateMissing ⟨"no active mandate for this agent", by decide⟩
  | some (some mandate) =>
    match ← attempt (PyError.isA · .mandateError)
        (queries.isRevoked environment principal.tenantId principal.agentRef now) with
    | none => return mandateUnavailable action
    | some true =>
      return .denied .mandate .mandateRevoked
        ⟨"agent's authority has been revoked", by decide⟩
    | some false => judgeMandate mandate action now

/-- `_check_policy`, which never degrades. -/
def checkPolicy (request : AuthorizationRequest) :
    Except PyError (AuthorizationDecision × StageOutcome) := do
  match ← attempt (PyError.isA · .policyBundleUnavailableError)
      (queries.decide environment request) with
  | none =>
    return (.deny .policyBundleUnavailable ⟨"no active policy bundle", by decide⟩,
      .failed .policy ⟨"bundle unavailable", by decide⟩)
  | some decision => return (decision, .executed .policy)

/-- The score recorded when the risk engine could not be reached. -/
def unavailableRisk (inputs : RiskInputs) : RiskScore :=
  RiskScore.withConsequenceFloor {
    value := RiskLevel.lowerBound .low
    modelVersion := ⟨"risk-engine-unavailable", by decide⟩
    inputs := inputs
    raw_le_value := le_refl _ }

/-- `_compute_risk`: the score and what the stage reports. -/
def computeRisk (action : ProposedAction) (now : ℚ) : Except PyError (RiskScore × StageResult) := do
  let evaluatedAt ← requireTimestamp now "evaluated_at"
  let inputs : RiskInputs := {
    consequence := action.consequence
    exposure := action.exposure
    evaluatedAt := evaluatedAt
    factors_nodup := by simp }
  match ← attempt (PyError.isA · .riskModelUnavailableError)
      (queries.score environment inputs) with
  | some score => return (score, .passed .risk)
  | none =>
    return (unavailableRisk inputs, .failed .risk ⟨"engine unavailable", by decide⟩
      .dependencyUnavailable ⟨"risk engine unavailable", by decide⟩)

/-- A score above the threshold denies. -/
def checkRiskThreshold (config : ServiceConfig) (risk : RiskScore) :
    Option AuthorizationDecision :=
  if config.enforceThreshold && risk.exceeds config.denyLevel then
    some (.deny .riskThresholdExceeded
      (textBefore ⟨"risk score ", by decide⟩
        (Runtime.reprStr risk.level.value ++ " exceeds configured threshold " ++
          Runtime.reprStr config.denyLevel.value)))
  else none

/-- The stages run so far and the denial among them, if any. -/
structure Progress where
  stages : List StageOutcome
  denial : Option AuthorizationDecision

/-- Run a stage, unless the action is already denied. -/
def Progress.advance (progress : Progress) (skip : StageOutcome)
    (check : Except PyError StageResult) : Except PyError Progress :=
  match progress.denial with
  | some denial => .ok { stages := progress.stages ++ [skip], denial := some denial }
  | none => do
    let result ← check
    return { stages := progress.stages ++ [result.outcome], denial := result.denial }

/-- Let a later denial take effect on a decision that does not deny. -/
def overrule (decision : AuthorizationDecision) (denial : Option AuthorizationDecision) :
    AuthorizationDecision :=
  if decision.effect = .deny then decision else denial.getD decision

/-- What the first seven stages decided. -/
structure Authorised where
  decision : AuthorizationDecision
  stages : List StageOutcome
  risk : RiskScore

/-- The five stages before policy. -/
def preliminaries (call : Evaluation) : Except PyError Progress := do
  let registered : Progress := ⟨[call.toolRegistry.outcome], call.toolRegistry.denial⟩
  let catalogued ← registered.advance
    (.skipped .catalogue ⟨"action already denied by tool registry", by decide⟩) (.ok call.catalogue)
  let identified ← catalogued.advance
    (.skipped .identity ⟨"action already denied before identity check", by decide⟩)
    (checkIdentityAssertion queries environment call)
  let switched ← identified.advance
    (.skipped .killSwitch ⟨"action already denied before identity check", by decide⟩)
    (checkKillSwitch queries environment call.principal.tenantId call.action)
  switched.advance (.skipped .mandate alreadyDenied)
    (checkMandate queries environment call.principal call.action call.now)

def policyStage (call : Evaluation) (progress : Progress) :
    Except PyError (AuthorizationDecision × StageOutcome) :=
  match progress.denial with
  | some denial => .ok (denial, .skipped .policy ⟨"action already denied by mandate", by decide⟩)
  | none => do
    let request ← AuthorizationRequest.make call.decisionId call.principal call.action call.now
    checkPolicy queries environment request

/-- The first half of `_evaluate`; risk is never skipped. -/
def authorise (config : ServiceConfig) (call : Evaluation) : Except PyError Authorised := do
  let progress ← preliminaries queries environment call
  let (decision, policy) ← policyStage queries environment call progress
  let (risk, assessed) ← computeRisk queries environment call.action call.now
  return {
    decision := overrule (overrule decision assessed.denial) (checkRiskThreshold config risk)
    stages := progress.stages ++ [policy, assessed.outcome]
    risk := risk }

end Authorisation

end DecisionService

end GlassBox
