import GlassBox.App.ApprovalService
import GlassBox.App.Reviewing

/-!
# The inbound HTTP adapter

`adapters/inbound/http/app.py` with admission control off.  A request is a matched route, the
headers and what `get_json(silent=True)` makes of its body.  The replay route and the approval
routes extract no credential.
-/

namespace GlassBox

open DecisionService

/-- A URL rule of the application, with the part of the path it binds. -/
inductive Route
  | healthz
  | decideAction (actionName : String)
  | invokeTool (toolName : String)
  | replay
  | listPendingApprovals
  | getApprovalStatus (decisionId : String)
  | approveDecision (decisionId : String)
  | rejectDecision (decisionId : String)
  | escalateDecision (decisionId : String)
  | revokeDecision (decisionId : String)
  /-- No rule matches: the status Flask answers with. -/
  | unmatched (status : ℕ)

/-- A request, as far as the handlers read it. -/
structure HttpRequest where
  route : Route
  headers : String → Option String
  /-- What `get_json(silent=True)` returns; `None` for a body which is not JSON. -/
  body : Value

/-- A response; the body of a page of Flask's own is `None`. -/
structure HttpResponse where
  status : ℕ
  body : Value

namespace Http

/-- The body must be a JSON object. -/
def jsonBody (request : HttpRequest) : Except PyError JsonObject :=
  match request.body.entries with
  | some body => .ok body
  | none => .error {
      cls := .domainValidationError
      message := "request body must be a JSON object" }

/-- `_mapping` of the entry under a key. -/
def mapping (body : JsonObject) (key : String) : JsonObject :=
  ((body.lookup key).bind Value.entries).getD []

/-- A field which must be text and not empty. -/
def requireStr (body : JsonObject) (key : String) : Except PyError String :=
  match body.lookup key with
  | some (.str text) => if text = "" then refused else .ok text
  | _ => refused
where
  refused : Except PyError String :=
    .error (.validation ("'" ++ key ++ "' is required and must be a non-empty string") key)

/-- A bearer token or else a client certificate. -/
def credentialFrom (request : HttpRequest) (now : ℚ) : Except PyError RawCredential :=
  let auth := ((request.headers "Authorization").getD "").toList
  if "Bearer ".toList.isPrefixOf auth then
    RawCredential.make .oidc (String.ofList (auth.drop "Bearer ".toList.length)) now
  else
    match request.headers "X-Client-Cert" with
    | none | some "" => .error {
        cls := .identityError
        message := "no credential presented"
        context := [("header", .str "Authorization")] }
    | some clientCert => RawCredential.make .mtls clientCert now

/-- The resource a body names. -/
def resourceFrom (body : JsonObject) : Except PyError ResourceRef := do
  let raw := mapping body "resource"
  if raw.isEmpty then throw (.validation "'resource' is required" "resource")
  let kind ← requireStr raw "kind"
  let id ← requireStr raw "id"
  let tenantId ← requireStr raw "tenant_id"
  ResourceRef.make kind id tenantId

section Constructors

variable [Runtime] (builtins : PyBuiltins)

/-- `_exposure_from`; the amount is checked before the count is looked at. -/
def exposureFrom (body : JsonObject) : Except PyError Exposure := do
  let raw := mapping body "exposure"
  let blastRadius ← builtins.enumMember [.single, .group, .tenant, .global] BlastRadius.value
    "BlastRadius" ((raw.lookup "blast_radius").getD (.str "single"))
  let monetary ← (given raw "monetary").mapM fun value => requireNumber value "monetary"
  let _ ← Exposure.make blastRadius monetary none
  let records ← (given raw "records").mapM requireInteger
  Exposure.make blastRadius monetary records

/-- The principal a replay states. -/
def principalFrom (raw : JsonObject) : Except PyError VerifiedPrincipal := do
  let agentRef ← requireStr raw "agent_ref"
  let agentInstanceId ← requireStr raw "agent_instance_id"
  let tenantId ← requireStr raw "tenant_id"
  let credentialType ← builtins.enumMember [.spiffe, .oidc, .mtls] CredentialType.value
    "CredentialType" (.str (← requireStr raw "credential_type"))
  let credentialId ← requireStr raw "credential_id"
  let issuedAt ← builtins.float ((raw.lookup "issued_at").getD (.ofRat 0))
  let expiresAt ← builtins.float ((raw.lookup "expires_at").getD (.ofRat 0))
  VerifiedPrincipal.make agentRef agentInstanceId tenantId credentialType credentialId issuedAt
    expiresAt (given raw "delegating_subject")

/-- The action a replay states. -/
def actionFrom (raw : JsonObject) : Except PyError ProposedAction := do
  let action ← requireStr raw "action"
  let resource ← resourceFrom raw
  let consequence ← builtins.enumMember [.advisory, .reversible, .compensable, .irreversible]
    ConsequenceClass.value "ConsequenceClass" (.str (← requireStr raw "consequence"))
  let exposure ← exposureFrom builtins raw
  let idempotencyKey ← requireStr raw "idempotency_key"
  ProposedAction.make action resource consequence exposure idempotencyKey
    (sortEntries (mapping raw "parameters"))

end Constructors

/-- `body.get("causation_id")`.  A value which is not text is refused where a blank one is, when the
record is made. -/
def causationId (body : JsonObject) : Option String :=
  (given body "causation_id").map fun value =>
    match value with
    | .str text => text
    | _ => ""

/-- The resource, the parameters and the idempotency key of a request, read in this order. -/
def namedRequest (body : JsonObject) : Except PyError NamedRequest := do
  let resource ← resourceFrom body
  let idempotencyKey ← requireStr body "idempotency_key"
  return { resource, parameters := mapping body "parameters", idempotencyKey }

/-- What a decision route passes on besides. -/
def callOptions (request : HttpRequest) (body : JsonObject) : CallOptions where
  causationId := causationId body
  assertedTenantId := (request.headers "X-Tenant-ID").getD ""
  assertedSubject := (request.headers "X-Subject-Id").getD ""

def actionEntry (request : HttpRequest) (actionName : String) (now : ℚ) :
    Except PyError Entry := do
  let body ← jsonBody request
  let credential ← credentialFrom request now
  let named ← namedRequest body
  return .decideAndDispatchForRequest credential actionName named (callOptions request body)

def toolEntry (request : HttpRequest) (toolName : String) (now : ℚ) : Except PyError Entry := do
  let body ← jsonBody request
  let credential ← credentialFrom request now
  let definitionSha256 ← requireStr body "definition_sha256"
  let named ← namedRequest body
  return .decideAndDispatchForToolCall credential toolName definitionSha256 named
    (callOptions request body)

def replayEntry [Runtime] (builtins : PyBuiltins) (request : HttpRequest) :
    Except PyError Entry := do
  let body ← jsonBody request
  let principal ← principalFrom builtins (mapping body "principal")
  let action ← actionFrom builtins (mapping body "action")
  return .replay principal action { causationId := causationId body } none

/-- The body of the answer to a decision. -/
def serialise (outcome : DecisionOutcome) : Value :=
  .record [("decision_id", .str outcome.decisionId.val),
    ("decision", .record outcome.decision.asEvidence),
    ("receipt", .record [("decision_id", .str outcome.receipt.decisionId.val),
      ("segment_id", .str outcome.receipt.segmentId.val),
      ("seq", .ofNat outcome.receipt.seq),
      ("signer_key_id", .str outcome.receipt.signerKeyId.val),
      ("persisted_at", .ofRat outcome.receipt.persistedAt.val)]),
    ("execution", .record outcome.execution.asEvidence)]

/-- Denied, pending or done. -/
def statusFor (outcome : DecisionOutcome) : ℕ :=
  if outcome.decision.effect = .deny then 403
  else if outcome.execution.status = .pendingApproval then 202
  else 200

/-- `_ERROR_STATUS.get(…, 500)`. -/
def errorStatus : ErrorClass → ℕ
  | .identityError | .credentialExpiredError | .delegationError => 401
  | .domainValidationError => 400
  | .evidenceWriteError | .signingUnavailableError => 503
  | .approvalNotFoundError => 404
  | .approvalGatewayUnavailableError => 503
  | .approvalTransitionError => 409
  | _ => 500

/-- `exc.as_dict()`. -/
def errorBody (builtins : PyBuiltins) (error : PyError) : Value :=
  .record [("error_class", .str error.cls.name), ("code", .ofOptionStr error.cls.code),
    ("message", .str error.message),
    ("context", .record (error.context.map fun entry => (entry.1, .str (builtins.str entry.2))))]

/-- `_error_response`; an exception outside the hierarchy reaches Flask. -/
def errorResponse (builtins : PyBuiltins) (error : PyError) : HttpResponse :=
  if error.isA .glassBoxError then ⟨errorStatus error.cls, errorBody builtins error⟩
  else ⟨500, .none⟩

def statusResponse (decisionId : String) : Option ApprovalRecord → HttpResponse
  | none => ⟨404, .record [("error_class", .str "ApprovalNotFoundError"),
      ("decision_id", .str decisionId)]⟩
  | some record => ⟨200, .record record.asEvidence⟩

end Http

/-- What `create_app` serves: a runtime, which may have a workflow engine over SQLite attached. -/
structure HttpApp (ρ ε ℓ β : Type) where
  runtime : GovernanceRuntime (Reviewing ρ) ε ℓ β
  /-- The ports which answer questions; none of them reads the workflow engine's database. -/
  queries : Queries ρ
  workflowEngine : Option EngineSettings
  builtins : PyBuiltins
  /-- `runtime.describe()`. -/
  describe : Value
  /-- The time of the workflow engine. -/
  wallClock : ρ → ℚ
  /-- The reading of the runtime's clock for a presented credential. -/
  presentedAt : ρ → ℚ
  queries_outer : runtime.queries = queries.along Reviewing.outer
  /-- The decision service and the approval service share the engine. -/
  attached : runtime.createWorkflow = workflowEngine.map fun settings =>
    createReview settings wallClock

namespace HttpApp

variable [Runtime] {ρ ε ℓ β : Type} (app : HttpApp ρ ε ℓ β)

/-- `ApprovalService(runtime)`. -/
def approvals : ApprovalService WorkflowTable where
  workflowEngine := app.workflowEngine.map EngineSettings.overSQLite

def onApprovals {α : Type} (program : ApprovalService WorkflowTable → ℚ →
      EStateM PyError (EngineState WorkflowTable) α) :
    EStateM PyError (World (Reviewing ρ) ε ℓ β) α := do
  let now := app.wallClock (← get).environment.outer
  World.onEnvironment (EStateM.zoom Reviewing.engine (fun engine state => { state with engine })
    (program app.approvals now))

/-- The two decision routes: make the call the request asks for. -/
def decide (entry : ℚ → Except PyError Entry) :
    EStateM PyError (World (Reviewing ρ) ε ℓ β) HttpResponse := do
  let world ← get
  let call ← ofExcept (entry (app.presentedAt world.environment.outer))
  let outcome ← perform app.runtime call
  return ⟨Http.statusFor outcome, Http.serialise outcome⟩

def replay (request : HttpRequest) : EStateM PyError (World (Reviewing ρ) ε ℓ β) HttpResponse := do
  let outcome ← perform app.runtime (← ofExcept (Http.replayEntry app.builtins request))
  return ⟨200, Http.serialise outcome⟩

def listPendingApprovals : EStateM PyError (World (Reviewing ρ) ε ℓ β) HttpResponse := do
  let records ← app.onApprovals fun approvals now => approvals.listPending now
  return ⟨200, .record [("pending", .list (records.map fun record => .record record.asEvidence))]⟩

def getApprovalStatus (decisionId : String) :
    EStateM PyError (World (Reviewing ρ) ε ℓ β) HttpResponse := do
  let status ← app.onApprovals fun approvals now => approvals.getStatus now decisionId
  return Http.statusResponse decisionId status

/-- `body.get("notes", "")`; notes which are not text are kept as their text. -/
def notes (body : JsonObject) : String :=
  match (body.lookup "notes").getD (.str "") with
  | .str text => text
  | other => app.builtins.str other

def approveDecision (request : HttpRequest) (decisionId : String) :
    EStateM PyError (World (Reviewing ρ) ε ℓ β) HttpResponse := do
  let body ← ofExcept (Http.jsonBody request)
  let actor ← ofExcept (Http.requireStr body "actor")
  let minApprovers ← ofExcept (app.builtins.int ((body.lookup "min_approvers").getD (.int 1)))
  let record ← app.onApprovals fun approvals now =>
    approvals.approve now decisionId actor (app.notes body) minApprovers
  return ⟨200, .record record.asEvidence⟩

def rejectDecision (request : HttpRequest) (decisionId : String) :
    EStateM PyError (World (Reviewing ρ) ε ℓ β) HttpResponse := do
  let body ← ofExcept (Http.jsonBody request)
  let actor ← ofExcept (Http.requireStr body "actor")
  let record ← app.onApprovals fun approvals now =>
    approvals.reject now decisionId actor (app.notes body)
  return ⟨200, .record record.asEvidence⟩

def escalateDecision (request : HttpRequest) (decisionId : String) :
    EStateM PyError (World (Reviewing ρ) ε ℓ β) HttpResponse := do
  let body ← ofExcept (Http.jsonBody request)
  let actor ← ofExcept (Http.requireStr body "actor")
  let escalateTo ← ofExcept (Http.requireStr body "escalate_to")
  let record ← app.onApprovals fun approvals now =>
    approvals.escalate now decisionId actor escalateTo (app.notes body)
  return ⟨200, .record record.asEvidence⟩

def revokeDecision (request : HttpRequest) (decisionId : String) :
    EStateM PyError (World (Reviewing ρ) ε ℓ β) HttpResponse := do
  let body ← ofExcept (Http.jsonBody request)
  let actor ← ofExcept (Http.requireStr body "actor")
  let record ← app.onApprovals fun approvals now =>
    approvals.revoke now decisionId actor (app.notes body)
  return ⟨200, .record record.asEvidence⟩

/-- One request to the application. -/
def handle (request : HttpRequest) : EStateM PyError (World (Reviewing ρ) ε ℓ β) HttpResponse :=
  match request.route with
  | .healthz => pure ⟨200, app.describe⟩
  | .decideAction actionName => app.decide (Http.actionEntry request actionName)
  | .invokeTool toolName => app.decide (Http.toolEntry request toolName)
  | .replay => app.replay request
  | .listPendingApprovals => app.listPendingApprovals
  | .getApprovalStatus decisionId => app.getApprovalStatus decisionId
  | .approveDecision decisionId => app.approveDecision request decisionId
  | .rejectDecision decisionId => app.rejectDecision request decisionId
  | .escalateDecision decisionId => app.escalateDecision request decisionId
  | .revokeDecision decisionId => app.revokeDecision request decisionId
  | .unmatched status => pure ⟨status, .none⟩

/-- The response to a request: what its handler returns, or the response to what it raises. -/
def respond (request : HttpRequest) (world : World (Reviewing ρ) ε ℓ β) :
    HttpResponse × World (Reviewing ρ) ε ℓ β :=
  match app.handle request world with
  | .ok response after => (response, after)
  | .error error after => (Http.errorResponse app.builtins error, after)

theorem after_respond (request : HttpRequest) (world : World (Reviewing ρ) ε ℓ β) :
    (app.respond request world).2 = (app.handle request).after world := by
  unfold respond EStateM.after
  cases app.handle request world <;> rfl

end HttpApp

end GlassBox
