import GlassBox.App.Stages

/-!
# The decision service

`app/decision_service.py`.  A call is prepared, authorised, charged to the limit and baseline
stores, bound to an approval if it needs one, recorded, dispatched if it may be, and its outcome is
recorded.  Logging, metrics and tracing are left out.
-/

namespace GlassBox

/-- What a caller receives. -/
structure DecisionOutcome where
  decisionId : Identifier
  decision : AuthorizationDecision
  receipt : EvidenceReceipt
  execution : ExecutionOutcome

/-- The limit stage: the counter it consulted, the verdict, if the store gave one, and the decision
that follows. -/
structure Limited where
  decision : AuthorizationDecision
  outcome : StageOutcome
  key : Option LimitKey := none
  verdict : Option LimitVerdict := none

structure Decided where
  decision : AuthorizationDecision
  stages : List StageOutcome
  risk : RiskScore
  limited : Limited

theorem isBlank_name_of_dispatchError {error : PyError}
    (caught : error.isA .dispatchError = true) : isBlank error.cls.name = false := by
  unfold PyError.isA at caught
  cases named : error.cls <;> rw [named] at caught <;>
    first | decide | simp [ErrorClass.ancestors] at caught

namespace DecisionService

variable [Runtime] {ρ ε ℓ β : Type} (runtime : GovernanceRuntime ρ ε ℓ β)

/-- The counter of the agent and the action. -/
def limitKeyFor (config : ServiceConfig) (principal : VerifiedPrincipal)
    (action : ProposedAction) : Except PyError LimitKey := do
  let window ← Window.make config.defaultWindowSeconds
  return {
    tenantId := principal.tenantId
    scope := .agent
    subject := principal.agentRef
    window := window
    action := some action.action }

def limitsUnavailable (action : ProposedAction) : StageResult :=
  if action.consequence.mayDegradeOnDependencyFailure then
    .skipped .limits ⟨"limit store unavailable; action is advisory", by decide⟩
  else
    .failed .limits storeUnavailable .dependencyUnavailable
      ⟨"limit store unavailable", by decide⟩

def judgeLimit (verdict : LimitVerdict) : StageResult :=
  if verdict.admitted then .passed .limits
  else
    .denied .limits .limitExceeded
      (textBefore ⟨"velocity limit exceeded: ", by decide⟩
        (Runtime.reprFloat verdict.observed.val ++ "/" ++ Runtime.reprFloat verdict.limit.val))

/-- `_check_limits`, for an action which is not denied yet. -/
def limitStage (call : Evaluation) (authorised : Authorised) : EStateM PyError ℓ Limited :=
  if authorised.decision.effect = .deny then
    pure {
      decision := authorised.decision
      outcome := .skipped .limits alreadyDenied }
  else do
    let key ← ofExcept (limitKeyFor runtime.config call.principal call.action)
    let verdict ← attempt (PyError.isA · .limitStoreUnavailable)
      (runtime.limitStore.tryConsume key 1 call.decisionId call.now)
    let result := (verdict.map judgeLimit).getD (limitsUnavailable call.action)
    return {
      decision := result.denial.getD authorised.decision
      outcome := result.outcome
      key := some key
      verdict := verdict }

/-- The release of the budget an admitted verdict holds, if there is one. -/
def releaseBudget (limited : Limited) (decisionId : String) : EStateM PyError ℓ Unit :=
  match limited.key, limited.verdict with
  | some key, some verdict =>
    if verdict.admitted then runtime.limitStore.release key decisionId else pure ()
  | _, _ => pure ()

/-- `_release_limit_budget` with `best_effort=True`. -/
def releaseBudgetBestEffort (limited : Limited) (decisionId : String) : EStateM PyError ℓ Unit := do
  let _ ← attempt (PyError.isA · .limitStoreUnavailable)
    (releaseBudget runtime limited decisionId)

/-- `Window(_BASELINE_WINDOW_SECONDS)`. -/
def baselineWindow : Window := ⟨30 * 86400, by decide, by decide⟩

/-- The distribution of an agent's monetary exposure. -/
def baselineKeyFor (principal : VerifiedPrincipal) : BaselineKey where
  tenantId := principal.tenantId
  scope := .agent
  subject := principal.agentRef
  metric := ⟨"exposure_monetary", by decide⟩
  window := baselineWindow

def baselineUnavailable (action : ProposedAction) : StageResult :=
  if action.consequence.mayDegradeOnDependencyFailure then
    .skipped .baseline ⟨"baseline store unavailable; action is advisory", by decide⟩
  else
    .failed .baseline storeUnavailable .dependencyUnavailable
      ⟨"baseline store unavailable", by decide⟩

/-- Compares the amount with the agent's baseline. -/
def checkBaseline (call : Evaluation) : EStateM PyError β StageResult :=
  match call.action.exposure.monetary with
  | none =>
    pure (.skipped .baseline ⟨"action carries no quantifiable exposure to baseline", by decide⟩)
  | some amount => do
    match ← attempt (PyError.isA · .baselineStoreUnavailable)
        (runtime.baselineStore.evaluate (baselineKeyFor call.principal) amount.val
          call.action.action runtime.config.anomalyThreshold call.now) with
    | none => return baselineUnavailable call.action
    | some verdict =>
      if verdict.anomalous then
        return .denied .baseline .baselineAnomaly
          (textBefore ⟨"observation deviates ", by decide⟩
            (verdict.zScore.text ++ " sigma from baseline"))
      else
        runtime.baselineStore.observe (baselineKeyFor call.principal) amount.val call.now
        return .passed .baseline

/-- The record of all nine stages. -/
def decidedBy (authorised : Authorised) (limited : Limited) (baseline : StageResult) : Decided where
  decision := baseline.denial.getD limited.decision
  stages := authorised.stages ++ [limited.outcome, baseline.outcome]
  risk := authorised.risk
  limited := limited

/-- The stages which consume state; the budget is returned when the last of them denies. -/
def charge (call : Evaluation) (authorised : Authorised) :
    EStateM PyError (Charges ℓ β) Decided := do
  let limited ← Charges.onLimits (limitStage runtime call authorised)
  if limited.decision.effect = .deny then
    return decidedBy authorised limited
      (.skipped .baseline alreadyDenied)
  else
    let baseline ← Charges.onBaselines (checkBaseline runtime call)
    match baseline.denial with
    | none => return decidedBy authorised limited baseline
    | some _ =>
      Charges.onLimits (releaseBudget runtime limited call.decisionId)
      return decidedBy authorised limited baseline

def newId (queries : Queries ρ) (environment : ρ) (kind : String) : String :=
  kind ++ "-" ++ queries.uuid4Hex environment kind

def workflowRequest (call : Evaluation) (decided : Decided) : WorkflowRequest where
  decisionId := call.decisionId
  agentId := call.principal.agentRef
  decisionType := call.action.action
  riskScore := decided.risk.value.val
  violations := decided.decision.matchedRules
  warnings := [decided.decision.rationale]

/-- Ask the workflow engine for a durable workflow; whatever it raises is swallowed. -/
def createWorkflow (call : Evaluation) (decided : Decided)
    (requires : decided.decision.effect = .requireApproval) (pending : AuthorizationDecision) :
    EStateM PyError (World ρ ε ℓ β) AuthorizationDecision :=
  match runtime.createWorkflow with
  | none => pure pending
  | some create => do
    World.record (.workflowCreated (workflowRequest call decided))
    match ← attempt (fun _ : PyError => true)
        (World.onEnvironment (create (workflowRequest call decided))) with
    | none => return pending
    | some workflowId => return decided.decision.withApproval requires workflowId .pending

/-- Opens the workflow of a decision which needs one. -/
def materializeApprovalMetadata (call : Evaluation) (decided : Decided) :
    EStateM PyError (World ρ ε ℓ β) AuthorizationDecision := do
  if requires : decided.decision.effect = .requireApproval then
    let environment := (← get).environment
    let pending := decided.decision.withApproval requires
      (decided.decision.approvalId.getD (newId runtime.queries environment "approval"))
      (decided.decision.approvalState.getD .pending)
    if call.suppressDispatch then return pending
    else createWorkflow runtime call decided requires pending
  else return decided.decision

/-- One segment for each tenant and day. -/
def segmentIdFor (config : ServiceConfig) (tenantId : Identifier) (now : ℚ) : String :=
  config.segmentPrefix.val ++ "-" ++ tenantId.val ++ "-" ++ toString ⌊now / 86400⌋

/-- The record of a decision, with its sensitive parameters redacted. -/
def intentRecord (config : ServiceConfig) (call : Evaluation) (decided : Decided)
    (decision : AuthorizationDecision) : Except PyError IntentRecord :=
  IntentRecord.make call.decisionId (segmentIdFor config call.principal.tenantId call.now)
    call.now call.principal (call.action.withRedactedParameters call.sensitiveParameterFields)
    decision decided.risk call.traceId decided.limited.verdict.toList decided.stages
    call.provenance call.causationId

/-- `except (EvidenceWriteError, SigningUnavailableError)`. -/
def isEvidenceFailure (error : PyError) : Bool :=
  error.isA .evidenceWriteError || error.isA .signingUnavailableError

/-- What a failed evidence write does to the budget, best effort. -/
def compensate (call : Evaluation) (decided : Decided) (error : PyError) :
    EStateM PyError (Charges ℓ β) Unit :=
  if isEvidenceFailure error then
    Charges.onLimits (releaseBudgetBestEffort runtime decided.limited call.decisionId)
  else pure ()

/-- Make a record durable; a failure to do so reaches the caller. -/
def appendIntent (call : Evaluation) (decided : Decided) (record : IntentRecord) :
    EStateM PyError (World ρ ε ℓ β) EvidenceReceipt := do
  World.record (.intentAppended record)
  tryCatch (World.onEvidence (runtime.evidenceStore.appendIntent record)) fun error => do
    World.onCharges (compensate runtime call decided error)
    throw error

def settled (status : ExecutionStatus) (completedAt : Timestamp) (other : status ≠ .failed) :
    ExecutionOutcome where
  status := status
  completedAt := completedAt
  failure_named := fun failed => absurd failed other

def dispatch (call : Evaluation) (receipt : EvidenceReceipt) (completedAt : Timestamp) :
    EStateM PyError (World ρ ε ℓ β) ExecutionOutcome := do
  let evidence := (← get).evidence
  World.record (.dispatched call.action call.sensitiveParameterFields receipt evidence)
  tryCatch
    (World.onEnvironment
      (runtime.dispatch call.action receipt runtime.config.defaultTimeoutS call.now))
    fun error =>
      if caught : error.isA .dispatchError = true then
        pure {
          status := .failed
          completedAt := completedAt
          errorClass := some ⟨error.cls.name, isBlank_name_of_dispatchError caught⟩
          failure_named := fun _ => rfl }
      else throw error

/-- Dispatches an allowed decision, unless it is replayed. -/
def dispatchIfPermitted (call : Evaluation) (decision : AuthorizationDecision)
    (receipt : EvidenceReceipt) (now : Timestamp) :
    EStateM PyError (World ρ ε ℓ β) ExecutionOutcome :=
  if decision.effect = .deny then pure (settled .denied now (by decide))
  else if decision.effect = .requireApproval ∨ ¬ decision.blockingObligations.isEmpty then
    pure (settled .pendingApproval now (by decide))
  else if call.suppressDispatch then pure (settled .replayed now (by decide))
  else dispatch runtime call receipt now

/-- The outcome write, off the critical path. -/
def recordOutcome (receipt : EvidenceReceipt) (record : OutcomeRecord) :
    EStateM PyError (World ρ ε ℓ β) Unit :=
  tryCatch (World.onEvidence (runtime.evidenceStore.appendOutcome receipt record)) fun error =>
    if error.isA .evidenceWriteError then pure () else throw error

/-- The part of `_evaluate` after the record is durable. -/
def act (call : Evaluation) (record : IntentRecord) (receipt : EvidenceReceipt) :
    EStateM PyError (World ρ ε ℓ β) DecisionOutcome := do
  let execution ← dispatchIfPermitted runtime call record.decision receipt record.createdAt
  recordOutcome runtime receipt { decisionId := record.decisionId, outcome := execution }
  return {
    decisionId := record.decisionId
    decision := record.decision
    receipt := receipt
    execution := execution }

/-- A call from its stages to its outcome. -/
def evaluate (call : Evaluation) : EStateM PyError (World ρ ε ℓ β) DecisionOutcome := do
  let authorised ← ofExcept (authorise runtime.queries (← get).environment runtime.config call)
  let decided ← World.onCharges (charge runtime call authorised)
  let decision ← materializeApprovalMetadata runtime call decided
  let record ← ofExcept (intentRecord runtime.config call decided decision)
  let receipt ← appendIntent runtime call decided record
  act runtime call record receipt

structure CallOptions where
  traceId : Option String := none
  decisionId : Option String := none
  causationId : Option String := none
  provenance : Option ModelProvenance := none
  assertedTenantId : String := ""
  assertedSubject : String := ""

/-- What a caller asks of an action or a tool by name. -/
structure NamedRequest where
  resource : ResourceRef
  parameters : List (String × Value)
  idempotencyKey : String

inductive Entry
  | decideAndDispatch (credential : RawCredential) (action : ProposedAction)
      (options : CallOptions)
  | decideAndDispatchForRequest (credential : RawCredential) (actionName : String)
      (request : NamedRequest) (options : CallOptions)
  | decideAndDispatchForToolCall (credential : RawCredential)
      (toolName definitionSha256 : String) (request : NamedRequest) (options : CallOptions)
  | replay (principal : VerifiedPrincipal) (action : ProposedAction) (options : CallOptions)
      (now : Option ℚ)

section Preparation

variable (queries : Queries ρ) (environment : ρ)

/-- `given or _new_id(kind)`. -/
def givenOrNew (given : Option String) (kind : String) : String :=
  match given with
  | none | some "" => newId queries environment kind
  | some text => text

/-- Verify a credential and refuse a principal of another tenant. -/
def identify (credential : RawCredential) (now : ℚ) (tenantId : Identifier) (field : String) :
    Except PyError VerifiedPrincipal := do
  let principal ← queries.verify environment credential now
  principal.requireValidAt now
  if principal.tenantId = tenantId then return principal
  else
    throw (.validation "action targets a different tenant than the credential" field
      [("principal_tenant", .str principal.tenantId.val), ("resource_tenant", .str tenantId.val)])

/-- What the entry points make of their optional arguments. -/
def evaluationOf (principal : VerifiedPrincipal) (action : ProposedAction)
    (toolRegistry catalogue : StageResult) (options : CallOptions) (kind : String) (now : ℚ)
    (sensitiveFields : List String) : Evaluation where
  principal := principal
  action := action
  toolRegistry := toolRegistry
  catalogue := catalogue
  decisionId := givenOrNew queries environment options.decisionId kind
  traceId := givenOrNew queries environment options.traceId "trace"
  causationId := options.causationId
  provenance := options.provenance.getD {}
  assertedTenantId := options.assertedTenantId
  assertedSubject := options.assertedSubject
  now := now
  sensitiveParameterFields := sensitiveFields

abbrev toolSupplied : StageResult := .skipped .toolRegistry
  ⟨"action was supplied pre-built; tool registry resolution not applicable", by decide⟩

abbrev actionSupplied : StageResult := .skipped .catalogue
  ⟨"action was supplied pre-built; catalogue resolution not applicable", by decide⟩

abbrev toolNotCalled : StageResult := .skipped .toolRegistry
  ⟨"action resolved via the action catalogue, not a tool call", by decide⟩

abbrev actionOfTool : StageResult := .skipped .catalogue
  ⟨"action resolved via tool registry, not the action catalogue", by decide⟩

/-- The part of an entry point before `_evaluate`: the action is resolved first, then the caller is
identified. -/
def Entry.prepare : Entry → Except PyError Evaluation
  | .decideAndDispatch credential action options => do
    let now := queries.now environment
    let principal ← identify queries environment credential now action.tenantId "action"
    return evaluationOf queries environment principal action
      toolSupplied actionSupplied options "decision" now []
  | .decideAndDispatchForRequest credential actionName request options => do
    let now := queries.now environment
    let resolution ← checkCatalogue queries environment actionName request.resource
      request.parameters request.idempotencyKey now
    let principal ← identify queries environment credential now request.resource.tenantId
      "resource"
    return evaluationOf queries environment principal resolution.action
      toolNotCalled resolution.result options "decision" now resolution.sensitiveFields
  | .decideAndDispatchForToolCall credential toolName definitionSha256 request options => do
    let now := queries.now environment
    let resolution ← checkToolRegistry queries environment toolName definitionSha256
      request.resource request.parameters request.idempotencyKey
    let principal ← identify queries environment credential now request.resource.tenantId
      "resource"
    return evaluationOf queries environment principal resolution.action resolution.result
      actionOfTool options "decision" now resolution.sensitiveFields
  | .replay principal action options now =>
    .ok { evaluationOf queries environment principal action
            (.skipped .toolRegistry
              ⟨"replay: action reconstructed from historical evidence", by decide⟩)
            (.skipped .catalogue
              ⟨"replay: action reconstructed from historical evidence", by decide⟩)
            options "replay" (now.getD (queries.now environment)) [] with
          assertedTenantId := ""
          assertedSubject := ""
          suppressDispatch := true }

end Preparation

def perform (entry : Entry) : EStateM PyError (World ρ ε ℓ β) DecisionOutcome := do
  let call ← ofExcept (entry.prepare runtime.queries (← get).environment)
  evaluate runtime call

end DecisionService

end GlassBox
