import GlassBox.Domain.Decision
import GlassBox.Workflow.Engine

/-!
# The approval service

`app/approval_service.py`: the operations of the workflow engine by decision, and the view of a
workflow in the vocabulary of approvals.
-/

namespace GlassBox

structure ApprovalRecord where
  decisionId : String
  workflowId : String
  state : ApprovalState
  assignedTo : Option String
  escalateTo : Option String
  slaBreached : Bool
  stepCount : ℕ
  deriving DecidableEq

/-- The record as responses and logs show it. -/
def ApprovalRecord.asEvidence (record : ApprovalRecord) : List (String × Value) :=
  [("decision_id", .str record.decisionId), ("workflow_id", .str record.workflowId),
    ("state", .str record.state.value), ("assigned_to", .ofOptionStr record.assignedTo),
    ("escalate_to", .ofOptionStr record.escalateTo), ("sla_breached", .bool record.slaBreached),
    ("step_count", .ofNat record.stepCount)]

def terminalStateMap : WorkflowState → Option ApprovalState
  | .approved => some .approved
  | .rejected => some .rejected
  | .expired => some .expired
  | .revoked => some .revoked
  | _ => none

/-- The state `_project` gives a workflow. -/
def WorkflowState.projected (state : WorkflowState) : ApprovalState :=
  match terminalStateMap state with
  | some terminal => terminal
  | none => if state ≠ .pending then .inReview else .pending

/-- The record of a workflow at a time. -/
def WorkflowInstance.project (now : ℚ) (workflow : WorkflowInstance) : ApprovalRecord where
  decisionId := workflow.decisionId
  workflowId := workflow.workflowId
  state := workflow.state.projected
  assignedTo := workflow.assignedTo
  escalateTo := workflow.escalateTo
  slaBreached := workflow.isSlaBreached now
  stepCount := workflow.steps.length

/-- `ApprovalService`, and the engine of its runtime. -/
structure ApprovalService (ρ : Type) where
  workflowEngine : Option (WorkflowEngine ρ)

namespace ApprovalService

/-- The exception of a runtime without an engine. -/
def gatewayUnavailable : PyError where
  cls := .approvalGatewayUnavailableError
  message := "no workflow engine is wired into this runtime; " ++
    "attach one via GovernanceRuntime.with_workflow_engine"

/-- The exception of a decision nobody is asked to review. -/
def approvalNotFound (decisionId : String) : PyError where
  cls := .approvalNotFoundError
  message := "no approval workflow exists for this decision"
  context := [("decision_id", .str decisionId)]

variable {ρ : Type} (service : ApprovalService ρ)

/-- Without an engine every method raises. -/
def requireEngine : EStateM PyError (EngineState ρ) (WorkflowEngine ρ) :=
  match service.workflowEngine with
  | none => throw gatewayUnavailable
  | some engine => pure engine

/-- `approve`, `reject`, `escalate` and `revoke`, up to what they check of their other arguments and
the operation of the engine they call. -/
def review (now : ℚ) (decisionId : String) (check : Except PyError Unit)
    (operation : WorkflowEngine ρ → String →
      EStateM PyError (EngineState ρ) (Option WorkflowInstance)) :
    EStateM PyError (EngineState ρ) ApprovalRecord := do
  let engine ← service.requireEngine
  let identifier ← ofExcept (requireIdentifier decisionId "decision_id")
  match ← WorkflowEngine.onStore (engine.repo.getByDecision now identifier) with
  | none => throw (approvalNotFound decisionId)
  | some workflow =>
    ofExcept check
    let updated ← operation engine workflow.workflowId
    return (updated.getD workflow).project now

/-- `require_non_empty(actor, field="actor")`. -/
def checkActor (actor : String) : Except PyError Unit := do
  let _ ← requireNonEmpty actor "actor"

def approve (now : ℚ) (decisionId actor : String) (notes : String := "")
    (minApprovers : Int := 1) : EStateM PyError (EngineState ρ) ApprovalRecord :=
  service.review now decisionId (checkActor actor) fun engine workflowId =>
    engine.approve now workflowId actor notes minApprovers

def reject (now : ℚ) (decisionId actor : String) (notes : String := "") :
    EStateM PyError (EngineState ρ) ApprovalRecord :=
  service.review now decisionId (checkActor actor) fun engine workflowId =>
    engine.reject now workflowId actor notes

/-- `escalate`, which checks the identifier of the other reviewer too. -/
def escalate (now : ℚ) (decisionId actor escalateTo : String) (notes : String := "") :
    EStateM PyError (EngineState ρ) ApprovalRecord :=
  service.review now decisionId
    (do
      checkActor actor
      let _ ← requireIdentifier escalateTo "escalate_to")
    fun engine workflowId => engine.escalate now workflowId actor escalateTo notes

def revoke (now : ℚ) (decisionId actor : String) (notes : String := "") :
    EStateM PyError (EngineState ρ) ApprovalRecord :=
  service.review now decisionId (checkActor actor) fun engine workflowId =>
    engine.revoke now workflowId actor notes

def expireOverdue (now : ℚ) (actor : String := "system") :
    EStateM PyError (EngineState ρ) (List ApprovalRecord) := do
  let engine ← service.requireEngine
  let expired ← engine.expireOverdue now actor
  return expired.map (WorkflowInstance.project now)

/-- Nothing for a decision without a workflow. -/
def getStatus (now : ℚ) (decisionId : String) :
    EStateM PyError (EngineState ρ) (Option ApprovalRecord) := do
  let engine ← service.requireEngine
  let identifier ← ofExcept (requireIdentifier decisionId "decision_id")
  let workflow ← WorkflowEngine.onStore (engine.repo.getByDecision now identifier)
  return workflow.map (WorkflowInstance.project now)

def listPending (now : ℚ) : EStateM PyError (EngineState ρ) (List ApprovalRecord) := do
  let engine ← service.requireEngine
  let pending ← WorkflowEngine.onStore (engine.repo.listPending now)
  return pending.map (WorkflowInstance.project now)

end ApprovalService

end GlassBox
