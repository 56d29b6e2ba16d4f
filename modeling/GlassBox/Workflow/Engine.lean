import GlassBox.Store.Repository

/-!
# The workflow engine

`workflow/workflow_engine.py`.  Every operation on a workflow loads the object, changes it and
saves it.  The background monitor, the queue statistics and the lifecycle of the engine are left
out.
-/

namespace GlassBox

structure QuorumEntry where
  actors : List String
  firstSeenAt : ℚ
  deriving DecidableEq

/-- The settings of a `WorkflowEngine`, and the identifiers `uuid.uuid4` generates for it, one after
the other. -/
structure EngineSettings where
  uuid4 : ℕ → String
  defaultSlaMinutes : Int := 60
  quorumEntryTtl : ℚ := 24 * 60 * 60

/-- A `WorkflowEngine` and the repository it works on. -/
structure WorkflowEngine (ρ : Type) extends EngineSettings where
  repo : WorkflowRepository ρ

def EngineSettings.overSQLite (settings : EngineSettings) : WorkflowEngine WorkflowTable :=
  { settings with repo := SQLiteWorkflowRepository }

/-- What a `WorkflowEngine` changes. -/
structure EngineState (ρ : Type) where
  /-- `_quorum_state`. -/
  quorumState : String → Option QuorumEntry := fun _ => none
  /-- How many identifiers were generated. -/
  drawn : ℕ := 0
  /-- The state of the repository. -/
  store : ρ

/-- The arguments of `create_from_decision`. -/
structure ReviewRequest where
  decisionId : String
  agentId : String
  decisionType : String
  riskScore : ℚ
  violations : List String
  warnings : Option (List String) := none
  slaMinutes : Option Int := none
  assignedTo : Option String := none
  escalateTo : Option String := none

namespace WorkflowInstance

/-- `_transition`, between the load and the save. -/
def transitioned (now : ℚ) (stepType : StepType) (actor notes : String)
    (newState : WorkflowState) (outcome : StepOutcome) (stepId : String)
    (inst : WorkflowInstance) : WorkflowInstance :=
  let step := { WorkflowStep.make now stepId inst.workflowId stepType (some actor) notes
    outcome with completedAt := some now }
  if newState = .inReview then { inst.addStep now step with state := .inReview }
  else { inst with state := newState }.addStep now step

/-- `escalate`, between the load and the save. -/
def escalated (now : ℚ) (actor escalateTo notes stepId : String) (inst : WorkflowInstance) :
    WorkflowInstance :=
  { inst with escalateTo := some escalateTo }.addStep now {
    WorkflowStep.make now stepId inst.workflowId .escalate (some actor) notes .escalated with
    completedAt := some now }

/-- `add_comment`, between the load and the save. -/
def commented (now : ℚ) (actor notes stepId : String) (inst : WorkflowInstance) :
    WorkflowInstance :=
  { inst with
    steps := inst.steps ++ [.make now stepId inst.workflowId .comment (some actor) notes .pending]
    updatedAt := now }

def quorumNotes (count : ℕ) (minApprovers : Int) (notes : String) : String :=
  "Quorum reached (" ++ toString count ++ "/" ++ toString minApprovers ++ "). " ++ notes

def partialNotes (count : ℕ) (minApprovers : Int) (notes : String) : String :=
  "Partial approval (" ++ toString count ++ "/" ++ toString minApprovers ++ "). Needs " ++
    toString (minApprovers - count) ++ " more approver(s). " ++ notes

/-- The partial branch of `approve`, between the load and the save. -/
def partlyApproved (now : ℚ) (actor notes : String) (actors : List String) (minApprovers : Int)
    (stepId : String) (inst : WorkflowInstance) : WorkflowInstance :=
  { inst with approvalActors := actors }.addStep now
    (.make now stepId inst.workflowId .approve (some actor)
      (partialNotes actors.length minApprovers notes) .partialApproval)

end WorkflowInstance

namespace EngineSettings

variable (settings : EngineSettings)

/-- Votes past their time to live are dropped. -/
def evictStaleQuorumEntries (now : ℚ) (votes : String → Option QuorumEntry) :
    String → Option QuorumEntry := fun workflowId =>
  (votes workflowId).filter fun entry => !(now - entry.firstSeenAt > settings.quorumEntryTtl)

def votedEntry (now : ℚ) (votes : String → Option QuorumEntry) (workflowId actor : String) :
    QuorumEntry :=
  let entry := (settings.evictStaleQuorumEntries now votes workflowId).getD ⟨[], now⟩
  if actor ∈ entry.actors then entry else { entry with actors := entry.actors ++ [actor] }

def voted (now : ℚ) (votes : String → Option QuorumEntry) (workflowId actor : String) :
    String → Option QuorumEntry :=
  Function.update (settings.evictStaleQuorumEntries now votes) workflowId
    (some (settings.votedEntry now votes workflowId actor))

end EngineSettings

namespace WorkflowEngine

variable {ρ : Type} (engine : WorkflowEngine ρ)

def onStore {α : Type} (program : EStateM PyError ρ α) : EStateM PyError (EngineState ρ) α :=
  EStateM.zoom EngineState.store (fun store state => { state with store := store }) program

def newUuid : EStateM PyError (EngineState ρ) String := do
  let state ← get
  set { state with drawn := state.drawn + 1 }
  return engine.uuid4 state.drawn

/-- A decision has one workflow. -/
def createFromDecision (now : ℚ) (request : ReviewRequest) :
    EStateM PyError (EngineState ρ) WorkflowInstance := do
  match ← onStore (engine.repo.getByDecision now request.decisionId) with
  | some existing => return existing
  | none =>
    let workflowId ← engine.newUuid
    let inst := WorkflowInstance.make now workflowId request.decisionId request.agentId
      request.decisionType request.riskScore (request.violations ++ request.warnings.getD [])
      (request.slaMinutes.getD engine.defaultSlaMinutes) request.assignedTo request.escalateTo
    onStore (engine.repo.create now inst)
    return inst

/-- Load a workflow, change the object and save it. -/
def revise (now : ℚ) (workflowId : String) (change : String → WorkflowInstance → WorkflowInstance) :
    EStateM PyError (EngineState ρ) (Option WorkflowInstance) := do
  match ← onStore (engine.repo.get now workflowId) with
  | none => return none
  | some inst =>
    let stepId ← engine.newUuid
    let inst ← onStore (engine.repo.update now (change stepId inst))
    return some inst

/-- Adds a step and sets the state. -/
def transition (now : ℚ) (workflowId : String) (stepType : StepType) (actor notes : String)
    (newState : WorkflowState) (outcome : StepOutcome := .pending) :
    EStateM PyError (EngineState ρ) (Option WorkflowInstance) :=
  engine.revise now workflowId (.transitioned now stepType actor notes newState outcome)

def startReview (now : ℚ) (workflowId actor notes : String) :
    EStateM PyError (EngineState ρ) (Option WorkflowInstance) :=
  engine.transition now workflowId .review actor notes .inReview

/-- The block of `approve` under `_quorum_lock`: the actors who voted for the workflow. -/
def vote (now : ℚ) (workflowId actor : String) :
    EStateM PyError (EngineState ρ) (List String) := do
  let state ← get
  set { state with quorumState := engine.voted now state.quorumState workflowId actor }
  return (engine.votedEntry now state.quorumState workflowId actor).actors

/-- `self._quorum_state.pop(workflow_id, None)`. -/
def forgetVotes (workflowId : String) : EStateM PyError (EngineState ρ) Unit :=
  modify fun state =>
    { state with quorumState := Function.update state.quorumState workflowId none }

/-- The body of the `try` in `approve`. -/
def saveApproval (now : ℚ) (workflowId actor notes : String) (actors : List String)
    (minApprovers : Int) : EStateM PyError (EngineState ρ) Unit := do
  match ← engine.transition now workflowId .approve actor
      (WorkflowInstance.quorumNotes actors.length minApprovers notes) .approved .approved with
  | none => return ()
  | some inst => let _ ← onStore (engine.repo.update now { inst with approvalActors := actors })

/-- The branch of `approve` in which the quorum is reached; the votes are forgotten whether or not
the approval could be saved. -/
def approveQuorum (now : ℚ) (workflowId actor notes : String) (actors : List String)
    (minApprovers : Int) : EStateM PyError (EngineState ρ) Unit := do
  tryCatch (engine.saveApproval now workflowId actor notes actors minApprovers) fun error => do
    forgetVotes workflowId
    throw error
  forgetVotes workflowId

/-- The other branch of `approve`. -/
def approvePartly (now : ℚ) (actor notes : String) (actors : List String) (minApprovers : Int)
    (inst : WorkflowInstance) : EStateM PyError (EngineState ρ) Unit := do
  let stepId ← engine.newUuid
  let _ ← onStore (engine.repo.update now
    (inst.partlyApproved now actor notes actors minApprovers stepId))

/-- `approve`, once the workflow is loaded. -/
def recordApproval (now : ℚ) (workflowId actor notes : String) (actors : List String)
    (minApprovers : Int) (inst : WorkflowInstance) : EStateM PyError (EngineState ρ) Unit :=
  if (actors.length : Int) ≥ minApprovers then
    engine.approveQuorum now workflowId actor notes actors minApprovers
  else engine.approvePartly now actor notes actors minApprovers inst

/-- Approves once enough actors have voted. -/
def approve (now : ℚ) (workflowId actor notes : String) (minApprovers : Int := 1) :
    EStateM PyError (EngineState ρ) (Option WorkflowInstance) := do
  let actors ← engine.vote now workflowId actor
  match ← onStore (engine.repo.get now workflowId) with
  | none => return none
  | some inst =>
    engine.recordApproval now workflowId actor notes actors minApprovers inst
    onStore (engine.repo.get now workflowId)

/-- `approve` with two approvers by default. -/
def quorumApprove (now : ℚ) (workflowId actor : String) (minApprovers : Int := 2)
    (notes : String := "") : EStateM PyError (EngineState ρ) (Option WorkflowInstance) :=
  engine.approve now workflowId actor notes minApprovers

/-- Rejects from any state. -/
def reject (now : ℚ) (workflowId actor notes : String) :
    EStateM PyError (EngineState ρ) (Option WorkflowInstance) :=
  engine.transition now workflowId .reject actor notes .rejected .rejected

/-- Hands the review to another reviewer. -/
def escalate (now : ℚ) (workflowId actor escalateTo notes : String) :
    EStateM PyError (EngineState ρ) (Option WorkflowInstance) :=
  engine.revise now workflowId (.escalated now actor escalateTo notes)

/-- The default notes of `expire`. -/
def expiryNotes : String := "SLA window elapsed without a reviewer decision"

/-- Only an overdue review expires. -/
def expire (now : ℚ) (workflowId : String) (actor : String := "system")
    (notes : String := expiryNotes) :
    EStateM PyError (EngineState ρ) (Option WorkflowInstance) := do
  match ← onStore (engine.repo.get now workflowId) with
  | none => return none
  | some inst =>
    if !inst.state.awaitsReview then return none
    else if !inst.isSlaBreached now then return none
    else engine.transition now workflowId .expire actor notes .expired .expired

/-- Only a review which is open is revoked. -/
def revoke (now : ℚ) (workflowId actor notes : String) :
    EStateM PyError (EngineState ρ) (Option WorkflowInstance) := do
  match ← onStore (engine.repo.get now workflowId) with
  | none => return none
  | some inst =>
    if !inst.state.awaitsReview then return none
    else engine.transition now workflowId .revoke actor notes .revoked .revoked

/-- The loop of `expire_overdue`. -/
def expireEach (now : ℚ) (actor : String) :
    List WorkflowInstance → EStateM PyError (EngineState ρ) (List WorkflowInstance)
  | [] => pure []
  | inst :: rest => do
    let result ← engine.expire now inst.workflowId actor
    let expired ← expireEach now actor rest
    return result.toList ++ expired

/-- Expires every overdue review. -/
def expireOverdue (now : ℚ) (actor : String := "system") :
    EStateM PyError (EngineState ρ) (List WorkflowInstance) := do
  engine.expireEach now actor (← onStore (engine.repo.listSlaBreached now))

/-- Adds a step which decides nothing. -/
def addComment (now : ℚ) (workflowId actor notes : String) :
    EStateM PyError (EngineState ρ) (Option WorkflowInstance) :=
  engine.revise now workflowId (.commented now actor notes)

end WorkflowEngine

end GlassBox
