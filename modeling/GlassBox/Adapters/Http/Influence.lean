import GlassBox.Adapters.Http.App
import GlassBox.App.ApprovalEvidence
import GlassBox.App.RejectedCredential
import GlassBox.Foundation.Purge

/-!
# The influence of unauthenticated requests

A request without an accepted credential leaves no trace on the routes which verify one or only
read.  The replay route and the reviewers' routes verify nobody.
-/

namespace GlassBox

open EStateM

open DecisionService

namespace ApprovalService

variable {engine : Option EngineSettings}

theorem after_listPending (now : ℚ) (state : EngineState WorkflowTable) :
    ((⟨engine.map EngineSettings.overSQLite⟩ : ApprovalService WorkflowTable).listPending now).after
      state = state := by
  cases engine <;> rfl

theorem after_getStatus (now : ℚ) (decisionId : String) (state : EngineState WorkflowTable) :
    ((⟨engine.map EngineSettings.overSQLite⟩ : ApprovalService WorkflowTable).getStatus now
      decisionId).after state = state := by
  unfold getStatus
  cases engine with
  | none => rfl
  | some settings => cases checked : requireIdentifier decisionId "decision_id" <;> rfl

end ApprovalService

/-- The route writes to a store, and no handler behind it verifies a credential. -/
def Route.writesUnverified : Route → Bool
  | .replay | .approveDecision _ | .rejectDecision _ | .escalateDecision _ | .revokeDecision _ =>
    true
  | _ => false

/-- A request, and what the ports read while it is served. -/
structure HttpCall (ρ : Type) where
  environment : ρ
  request : HttpRequest

namespace HttpApp

section Served

variable [Runtime] {ρ ε ℓ β : Type} (app : HttpApp ρ ε ℓ β) {world : World (Reviewing ρ) ε ℓ β}
  {call : HttpCall ρ}

/-- The request carries a credential which the identity verifier accepts. -/
def accepts (call : HttpCall ρ) : Bool :=
  Except.isOk do
    let credential ← Http.credentialFrom call.request (app.presentedAt call.environment)
    app.queries.verify call.environment credential (app.queries.now call.environment)

def serveCall (call : HttpCall ρ) (world : World (Reviewing ρ) ε ℓ β) :
    HttpResponse × World (Reviewing ρ) ε ℓ β :=
  app.respond call.request (world.facing call.environment)

omit [Runtime] in
theorem after_onApprovals {α : Type} {program : ApprovalService WorkflowTable → ℚ →
      EStateM PyError (EngineState WorkflowTable) α}
    (reads : ∀ now state, (program app.approvals now).after state = state)
    (world : World (Reviewing ρ) ε ℓ β) : (app.onApprovals program).after world = world := by
  unfold onApprovals
  rw [after_bind_of_ok (get_run world), World.onEnvironment, after_zoom, after_zoom, reads]

theorem after_decide {entry : ℚ → Except PyError Entry}
    (rejected : ∀ call, entry (app.presentedAt world.environment.outer) = .ok call →
      ∃ error, call.RejectedWith app.runtime.queries world.environment error) :
    (app.decide entry).after world = world := by
  unfold decide
  rw [after_bind_of_ok (get_run world)]
  cases parsed : entry (app.presentedAt world.environment.outer) with
  | error error => rfl
  | ok call =>
    obtain ⟨_, rejected⟩ := rejected call parsed
    obtain ⟨error, raised⟩ := perform_of_rejected rejected
    rw [after_bind_of_ok (ofExcept_run rfl world)]
    exact after_of_error (bind_of_error raised)

omit [Runtime] in
theorem exists_rejection (faced : world.environment.outer = call.environment)
    (unaccepted : app.accepts call = false) {credential : RawCredential}
    (presented : Http.credentialFrom call.request (app.presentedAt call.environment) =
      .ok credential) :
    ∃ error, app.runtime.queries.verify world.environment credential
      (app.runtime.queries.now world.environment) = .error error := by
  rw [app.queries_outer]
  change ∃ error, app.queries.verify world.environment.outer credential
    (app.queries.now world.environment.outer) = .error error
  rw [faced]
  unfold accepts at unaccepted
  rw [presented] at unaccepted
  change (app.queries.verify call.environment credential
    (app.queries.now call.environment)).isOk = false at unaccepted
  cases verified : app.queries.verify call.environment credential
      (app.queries.now call.environment) with
  | error error => exact ⟨error, rfl⟩
  | ok principal =>
    rw [verified] at unaccepted
    cases unaccepted

theorem after_handle (faced : world.environment.outer = call.environment)
    (unaccepted : app.accepts call = false)
    (verified : call.request.route.writesUnverified = false) :
    (app.handle call.request).after world = world := by
  unfold handle
  cases matched : call.request.route with
  | healthz | unmatched => rfl
  | replay | approveDecision | rejectDecision | escalateDecision | revokeDecision =>
    rw [matched] at verified
    cases verified
  | decideAction actionName =>
    refine app.after_decide fun entry parsed => ?_
    obtain ⟨body, -, parsed⟩ := Except.bind_eq_ok_iff.mp parsed
    obtain ⟨credential, presented, parsed⟩ := Except.bind_eq_ok_iff.mp parsed
    obtain ⟨named, -, parsed⟩ := Except.bind_eq_ok_iff.mp parsed
    cases parsed
    rw [faced] at presented
    exact app.exists_rejection faced unaccepted presented
  | invokeTool toolName =>
    refine app.after_decide fun entry parsed => ?_
    obtain ⟨body, -, parsed⟩ := Except.bind_eq_ok_iff.mp parsed
    obtain ⟨credential, presented, parsed⟩ := Except.bind_eq_ok_iff.mp parsed
    obtain ⟨definition, -, parsed⟩ := Except.bind_eq_ok_iff.mp parsed
    obtain ⟨named, -, parsed⟩ := Except.bind_eq_ok_iff.mp parsed
    cases parsed
    rw [faced] at presented
    exact app.exists_rejection faced unaccepted presented
  | listPendingApprovals =>
    refine (after_map _ _ world).trans ?_
    exact app.after_onApprovals (fun now state => ApprovalService.after_listPending now state)
      world
  | getApprovalStatus decisionId =>
    refine (after_map _ _ world).trans ?_
    exact app.after_onApprovals
      (fun now state => ApprovalService.after_getStatus now decisionId state) world

/-- The worlds agree but for what the ports read. -/
def Alike (world other : World (Reviewing ρ) ε ℓ β) : Prop :=
  ∀ outer, world.facing outer = other.facing outer

theorem unwinding_serveCall :
    Unwinding app.serveCall app.accepts
      (fun call => call.request.route.writesUnverified = false) Alike where
  equivalence := {
    refl := fun _ _ => rfl
    symm := fun alike outer => (alike outer).symm
    trans := fun first second outer => (first outer).trans (second outer) }
  consistent := by
    intro call world other alike
    unfold serveCall
    rw [alike call.environment]
    exact ⟨rfl, fun _ => rfl⟩
  silent := by
    intro call world unaccepted verified outer
    unfold serveCall
    rw [after_respond, app.after_handle rfl unaccepted verified]
    rfl

/-- In two sequences of requests with the same accepted ones, the accepted requests get the same
responses and leave the same workflows, limits and baselines, as long as no other request is for a
route which writes for anyone. -/
theorem unauthenticated_no_influence {left right : List (HttpCall ρ)}
    (same : left.filter app.accepts = right.filter app.accepts)
    (left_verified : ∀ call ∈ left, app.accepts call = false →
      call.request.route.writesUnverified = false)
    (right_verified : ∀ call ∈ right, app.accepts call = false →
      call.request.route.writesUnverified = false)
    (start : World (Reviewing ρ) ε ℓ β) :
    let leftRun := serve app.serveCall left start
    let rightRun := serve app.serveCall right start
    leftRun.2.environment.engine = rightRun.2.environment.engine ∧
      leftRun.2.charges = rightRun.2.charges ∧
      (leftRun.1.filter fun answer => app.accepts answer.1) =
        rightRun.1.filter fun answer => app.accepts answer.1 := by
  intro leftRun rightRun
  obtain ⟨answers, alike⟩ :=
    app.unwinding_serveCall.noninterference same left_verified right_verified start
  have worlds : leftRun.2.facing start.environment.outer =
      rightRun.2.facing start.environment.outer := alike start.environment.outer
  refine ⟨?_, ?_, answers⟩
  · exact congrArg (fun world => world.environment.engine) worlds
  · exact congrArg (fun world => world.charges) worlds

end Served

/-- The ports of the sample service, with reading in the catalogue. -/
def sampleHttpQueries : Queries SampleEnvironment :=
  { sampleQueries with resolveAction := fun _ _ _ => .ok (readDefinition [] List.nodup_nil) }

def sampleApp [Runtime] : HttpApp SampleEnvironment (Signed UInt8 InMemoryEvidenceStore)
    InMemoryLimitStore InMemoryBaselineStore where
  runtime :=
    { reviewingService (InMemoryEvidenceStore.port MacSigner.counter) with
      queries := sampleHttpQueries.along Reviewing.outer }
  queries := sampleHttpQueries
  workflowEngine := some EngineSettings.sampleSettings
  builtins := ⟨Value.typeName, Value.typeName, fun _ => none, fun _ => none⟩
  describe := .none
  wallClock := SampleEnvironment.now
  presentedAt := SampleEnvironment.now
  queries_outer := rfl
  attached := rfl

/-- A request to read, with these headers, while the policy requires approval. -/
def readCall (headers : String → Option String) : HttpCall SampleEnvironment where
  environment := { policy := sampleApproval }
  request := {
    route := .decideAction "read"
    headers := headers
    body := .record [
      ("resource", .record [("kind", .str "file"), ("id", .str "1"), ("tenant_id", .str "acme")]),
      ("idempotency_key", .str "key")] }

def bearerToken (name : String) : Option String :=
  if name = "Authorization" then some "Bearer token" else none

/-- A request to reject the decision to read, without any header. -/
def rejectCall : HttpCall SampleEnvironment where
  environment := {}
  request := {
    route := .rejectDecision "decision-0"
    headers := fun _ => none
    body := .record [("actor", .str "anyone")] }

/-- The world of the sample application before its first request. -/
def sampleStart : MemoryWorld (Reviewing SampleEnvironment) :=
  reviewingWorld ⟨0, {}⟩

attribute [local instance] plainRuntime

/-- A request to read without a credential changes nothing for the request with one. -/
theorem unauthenticated_no_influence_read :
    let probed := serve sampleApp.serveCall [readCall fun _ => none, readCall bearerToken]
      sampleStart
    let unprobed := serve sampleApp.serveCall [readCall bearerToken] sampleStart
    probed.2.environment.engine.store.persistedState "workflow" = some .pending ∧
      probed.2.environment.engine = unprobed.2.environment.engine ∧
      probed.2.charges = unprobed.2.charges ∧
      (probed.1.filter fun answer => sampleApp.accepts answer.1) =
        unprobed.1.filter fun answer => sampleApp.accepts answer.1 := by
  have refused : ¬sampleApp.accepts (readCall fun _ => none) = true := by decide +kernel
  refine ⟨by decide +kernel, ?_⟩
  refine sampleApp.unauthenticated_no_influence ?_ ?_ ?_ sampleStart
  · rw [List.filter_cons_of_neg refused]
  · intro call member _
    rcases List.mem_pair.mp member with rfl | rfl <;> rfl
  · intro call member _
    rw [List.mem_singleton.mp member]
    rfl

/-- A request without a credential rejects what an agent with one asked for. -/
theorem rejected_without_credential :
    [readCall bearerToken].filter sampleApp.accepts =
        [readCall bearerToken, rejectCall].filter sampleApp.accepts ∧
      (serve sampleApp.serveCall [readCall bearerToken] sampleStart).2.environment.engine.store ≠
        (serve sampleApp.serveCall [readCall bearerToken, rejectCall]
          sampleStart).2.environment.engine.store := by
  have refused : ¬sampleApp.accepts rejectCall = true := by decide +kernel
  constructor
  · rw [List.filter_cons, List.filter_cons, List.filter_cons_of_neg refused]
  · intro same
    have states := congrArg (fun store => store.persistedState "workflow") same
    revert states
    decide +kernel

end HttpApp

end GlassBox
