import GlassBox.App.Exits
import GlassBox.Workflow.Operations

/-!
# A decision service with a workflow engine

The engine of a runtime keeps its state beside what the other ports read.  Both are what a call of
the decision service finds; between two calls the other ports may change in any way.
-/

namespace GlassBox

/-- What the ports read, beside the state of the workflow engine. -/
structure Reviewing (ρ : Type) where
  outer : ρ
  engine : EngineState WorkflowTable

/-- The world a call finds when the other ports read this. -/
def World.facing {ρ ε ℓ β : Type} (outer : ρ) (world : World (Reviewing ρ) ε ℓ β) :
    World (Reviewing ρ) ε ℓ β :=
  { world with environment := { world.environment with outer := outer } }

namespace DecisionService

/-- The arguments of `create_from_decision`, as the service passes them. -/
def reviewRequest (settings : EngineSettings) (request : WorkflowRequest) : ReviewRequest where
  decisionId := request.decisionId
  agentId := request.agentId.val
  decisionType := request.decisionType.val
  riskScore := request.riskScore
  violations := request.violations.map Subtype.val
  warnings := some (request.warnings.map Subtype.val)
  slaMinutes := some settings.defaultSlaMinutes

/-- `create_from_decision` of the attached engine, up to the identifier the service takes from the
workflow.  The engine reads the wall clock itself. -/
def createReview {ρ : Type} (settings : EngineSettings) (wallClock : ρ → ℚ)
    (request : WorkflowRequest) : EStateM PyError (Reviewing ρ) String := do
  let now := wallClock (← get).outer
  let workflow ← EStateM.zoom Reviewing.engine (fun engine state => { state with engine })
    (settings.overSQLite.createFromDecision now (reviewRequest settings request))
  return workflow.workflowId

/-- An engine over SQLite is attached, and no action which is dispatched reaches its database. -/
structure EngineAttached {ρ ε ℓ β : Type} (runtime : GovernanceRuntime (Reviewing ρ) ε ℓ β)
    (settings : EngineSettings) (wallClock : ρ → ℚ) : Prop where
  workflow : runtime.createWorkflow = some (createReview settings wallClock)
  dispatch : ∀ action receipt timeout now environment,
    ((runtime.dispatch action receipt timeout now).after environment).engine = environment.engine

theorem mem_rows_step_createFromDecision {settings : EngineSettings} {now : ℚ}
    {request : ReviewRequest} {state : EngineState WorkflowTable} {row : WorkflowRow}
    (member : row ∈ (settings.step (.createFromDecision now request) state).store.rows) :
    row ∈ state.store.rows ∨ row.decisionId = request.decisionId := by
  rcases settings.store_step_createFromDecision state now request with same | added
  · exact .inl (same ▸ member)
  · rw [(WorkflowTable.rows_of_insert added).1] at member
    rcases List.mem_append.mp member with earlier | new
    · exact .inl earlier
    · rw [List.mem_singleton.mp new]
      exact .inr rfl

theorem engine_createReview {ρ : Type} (settings : EngineSettings) (wallClock : ρ → ℚ)
    (request : WorkflowRequest) (environment : Reviewing ρ) :
    ((createReview settings wallClock request).after environment).engine =
      settings.step (.createFromDecision (wallClock environment.outer)
        (reviewRequest settings request)) environment.engine := by
  unfold createReview
  rw [EStateM.after_bind_of_ok (EStateM.get_run environment)]
  refine (congrArg Reviewing.engine (EStateM.after_map WorkflowInstance.workflowId _ _)).trans ?_
  rw [EStateM.after_zoom]
  rfl

end DecisionService

end GlassBox
