import GlassBox.Domain.Catalogue
import GlassBox.Domain.Mandate
import GlassBox.Ports.Evidence

/-!
# The ports of the decision service

The protocols of `ports/`, as far as `app/decision_service.py` calls them.  A port which is only
asked reads an environment; each of its methods is called at most once for the same arguments
during one decision, so its answer may be any function of the environment.
-/

namespace GlassBox

/-- The ports which answer questions. -/
structure Queries (ρ : Type) where
  /-- `clock.now()`. -/
  now : ρ → ℚ
  /-- `uuid.uuid4().hex`, for the identifier minted with this prefix. -/
  uuid4Hex : ρ → String → String
  /-- `identity_verifier.verify`. -/
  verify : ρ → RawCredential → ℚ → Except PyError VerifiedPrincipal
  /-- `identity_verifier.assert_matches_assertion`. -/
  assertMatchesAssertion : ρ → VerifiedPrincipal → String → String → Except PyError Unit
  /-- `action_catalogue.resolve`. -/
  resolveAction : ρ → Identifier → String → Except PyError ActionDefinition
  /-- `attestation_provider.resolve`. -/
  resolveAttestation : ρ → Identifier → ResourceRef → Identifier → ℚ → Except PyError Bool
  /-- `tool_registry.resolve`. -/
  resolveTool : ρ → Identifier → String → String → Except PyError ToolDefinition
  /-- `kill_switch.is_globally_engaged`. -/
  isGloballyEngaged : ρ → Except PyError Bool
  /-- `kill_switch.is_tenant_engaged`. -/
  isTenantEngaged : ρ → Identifier → Except PyError Bool
  /-- `mandate_store.get`. -/
  getMandate : ρ → Identifier → Identifier → ℚ → Except PyError (Option Mandate)
  /-- `mandate_store.is_revoked`. -/
  isRevoked : ρ → Identifier → Identifier → ℚ → Except PyError Bool
  /-- `policy_decision_point.decide`. -/
  decide : ρ → AuthorizationRequest → Except PyError AuthorizationDecision
  /-- `risk_engine.score`. -/
  score : ρ → RiskInputs → Except PyError RiskScore

/-- The ports, where they read a part of a larger environment. -/
def Queries.along {ρ ω : Type} (view : ω → ρ) (queries : Queries ρ) : Queries ω where
  now := queries.now ∘ view
  uuid4Hex := queries.uuid4Hex ∘ view
  verify := queries.verify ∘ view
  assertMatchesAssertion := queries.assertMatchesAssertion ∘ view
  resolveAction := queries.resolveAction ∘ view
  resolveAttestation := queries.resolveAttestation ∘ view
  resolveTool := queries.resolveTool ∘ view
  isGloballyEngaged := queries.isGloballyEngaged ∘ view
  isTenantEngaged := queries.isTenantEngaged ∘ view
  getMandate := queries.getMandate ∘ view
  isRevoked := queries.isRevoked ∘ view
  decide := queries.decide ∘ view
  score := queries.score ∘ view

structure LimitStore (ℓ : Type) where
  /-- Consume a cost for a decision if budget remains. -/
  tryConsume : LimitKey → ℚ → String → ℚ → EStateM PyError ℓ LimitVerdict
  /-- Return the budget a decision consumed. -/
  release : LimitKey → String → EStateM PyError ℓ Unit

structure BaselineStore (β : Type) where
  /-- Compare an observation with the baseline, or with the prior of a peer group. -/
  evaluate : BaselineKey → ℚ → Identifier → ℚ → ℚ → EStateM PyError β BaselineVerdict
  /-- Record an observation. -/
  observe : BaselineKey → ℚ → ℚ → EStateM PyError β Unit

/-- The arguments of `create_from_decision`, but for the reviewers' deadline. -/
structure WorkflowRequest where
  decisionId : String
  agentId : Identifier
  decisionType : Identifier
  riskScore : ℚ
  violations : List Identifier
  warnings : List Text

structure ServiceConfig where
  segmentPrefix : Identifier
  defaultWindowSeconds : Int := 60
  anomalyThreshold : ℚ := 3
  enforceThreshold : Bool := true
  denyLevel : RiskLevel := .high
  defaultTimeoutS : ℚ := 30

/-- `GovernanceRuntime`: the wired ports. -/
structure GovernanceRuntime (ρ ε ℓ β : Type) where
  config : ServiceConfig
  queries : Queries ρ
  limitStore : LimitStore ℓ
  baselineStore : BaselineStore β
  evidenceStore : EvidenceStore ε
  /-- `dispatcher.dispatch`, with the timeout and the time of the decision. -/
  dispatch : ProposedAction → EvidenceReceipt → ℚ → ℚ → EStateM PyError ρ ExecutionOutcome
  /-- `workflow_engine.create_from_decision`, if an engine is wired; the identifier it returns. -/
  createWorkflow : Option (WorkflowRequest → EStateM PyError ρ String) := none

structure Charges (ℓ β : Type) where
  limits : ℓ
  baselines : β

/-- A call of the service to a port with lasting effects. -/
inductive Event (ε : Type)
  /-- A record was handed to `append_intent`. -/
  | intentAppended (record : IntentRecord)
  /-- A workflow was asked for. -/
  | workflowCreated (request : WorkflowRequest)
  /-- An action with these sensitive parameters was handed to the dispatcher, while the evidence
  store was in this state. -/
  | dispatched (action : ProposedAction) (sensitive : List String) (receipt : EvidenceReceipt)
      (evidence : ε)

def Event.isDispatch {ε : Type} : Event ε → Bool
  | .dispatched .. => true
  | _ => false

/-- The states behind the ports, and a history of calls which no port reads. -/
structure World (ρ ε ℓ β : Type) where
  environment : ρ
  evidence : ε
  charges : Charges ℓ β
  history : List (Event ε) := []

namespace World

variable {ρ ε ℓ β α : Type}

def onEvidence (program : EStateM PyError ε α) : EStateM PyError (World ρ ε ℓ β) α :=
  EStateM.zoom World.evidence (fun evidence world => { world with evidence }) program

def onCharges (program : EStateM PyError (Charges ℓ β) α) : EStateM PyError (World ρ ε ℓ β) α :=
  EStateM.zoom World.charges (fun charges world => { world with charges }) program

def onEnvironment (program : EStateM PyError ρ α) : EStateM PyError (World ρ ε ℓ β) α :=
  EStateM.zoom World.environment (fun environment world => { world with environment }) program

/-- Add a call to the history. -/
def record (event : Event ε) : EStateM PyError (World ρ ε ℓ β) Unit :=
  modify fun world => { world with history := world.history ++ [event] }

end World

namespace Charges

variable {ℓ β α : Type}

def onLimits (program : EStateM PyError ℓ α) : EStateM PyError (Charges ℓ β) α :=
  EStateM.zoom Charges.limits (fun limits charges => { charges with limits }) program

def onBaselines (program : EStateM PyError β α) : EStateM PyError (Charges ℓ β) α :=
  EStateM.zoom Charges.baselines (fun baselines charges => { charges with baselines }) program

end Charges

end GlassBox
