import GlassBox.Adapters.Memory.EvidenceStore
import GlassBox.Adapters.Memory.GovernanceState
import GlassBox.App.DecisionService
import GlassBox.Domain.Grants

/-!
# A small service

The sample agent before a decision service over in-memory stores, in which the policy alone
decides.  Concrete executions of the service are built from it.
-/

namespace GlassBox

namespace DecisionService

/-- What the ports of the sample service read: the time, and what the policy answers. -/
structure SampleEnvironment where
  now : ℚ := 0
  policy : AuthorizationDecision := sampleAllow

/-- Authority over everything in the sample tenant. -/
def sampleMandate : Mandate := Mandate.onResources Sample.everything

/-- A service error raised by a port without a governed entry. -/
def ungoverned (cls : ErrorClass) : PyError := { cls, message := "not governed" }

/-- The ports of the sample service which answer questions. -/
def sampleQueries : Queries SampleEnvironment where
  now := SampleEnvironment.now
  uuid4Hex := fun _ _ => "0"
  verify := fun _ _ _ => .ok samplePrincipal
  assertMatchesAssertion := fun _ _ _ _ => .ok ()
  resolveAction := fun _ _ _ => .error (ungoverned .actionNotGovernedError)
  resolveAttestation := fun _ _ _ _ _ => .ok true
  resolveTool := fun _ _ _ _ => .error (ungoverned .toolNotGovernedError)
  isGloballyEngaged := fun _ => .ok false
  isTenantEngaged := fun _ _ => .ok false
  getMandate := fun _ _ _ _ => .ok (some sampleMandate)
  isRevoked := fun _ _ _ _ => .ok false
  decide := fun environment _ => .ok environment.policy
  score := fun _ inputs => .ok (sampleScore inputs)

/-- A service over in-memory stores. -/
abbrev MemoryRuntime (ρ : Type) (κ : Type := UInt8) :=
  GovernanceRuntime ρ (Signed κ InMemoryEvidenceStore) InMemoryLimitStore InMemoryBaselineStore

/-- What a service over in-memory stores reads and writes. -/
abbrev MemoryWorld (ρ : Type) (κ : Type := UInt8) :=
  World ρ (Signed κ InMemoryEvidenceStore) InMemoryLimitStore InMemoryBaselineStore

def sampleService [Runtime] {κ : Type} (signer : MacSigner κ) :
    MemoryRuntime SampleEnvironment κ where
  config := { segmentPrefix := Sample.segment }
  queries := sampleQueries
  limitStore := InMemoryLimitStore.port
  baselineStore := InMemoryBaselineStore.port
  evidenceStore := InMemoryEvidenceStore.port signer
  dispatch := fun _ receipt _ _ => pure
    (settled .executed receipt.persistedAt Sample.executed_ne_failed)

def sampleWorld {κ : Type} (signer : κ) : MemoryWorld SampleEnvironment κ where
  environment := {}
  evidence := ⟨signer, {}⟩
  charges := ⟨{}, {}⟩

def sampleCredential : RawCredential where
  credentialType := .oidc
  material := ⟨"token", by decide⟩
  presentedAt := Timestamp.epoch

/-- A consequential action without monetary exposure. -/
def sampleRead : ProposedAction := sampleAction Sample.read .reversible none

/-- A live call for an action of the sample tenant under a decision id. -/
def sampleCall (action : ProposedAction) (decisionId : String) : Entry :=
  .decideAndDispatch sampleCredential action { decisionId := some decisionId }

/-- A store which takes no record. -/
def refusingEvidence (ε : Type) : EvidenceStore ε where
  appendIntent := fun _ => throw (.evidenceWrite "the evidence store is unavailable")
  appendOutcome := fun _ _ => pure ()

def readDefinition (schema : List ParameterField)
    (schema_nodup : (schema.map ParameterField.name).Nodup) : ActionDefinition where
  action := Sample.read
  consequence := .reversible
  parameterSchema := schema
  attestations_nodup := List.nodup_nil
  schema_nodup := schema_nodup

def sampleTool (definition : ActionDefinition) : ToolDefinition where
  toolName := Sample.tool
  definitionSha256 := zeroDigest
  action := definition

/-- The sample service with one definition in the catalogue, which a tool carries too. -/
def governedService [Runtime] (definition : ActionDefinition) : MemoryRuntime SampleEnvironment :=
  { sampleService MacSigner.counter with
    queries := { sampleQueries with
      resolveAction := fun _ _ _ => .ok definition
      resolveTool := fun _ _ _ _ => .ok (sampleTool definition) } }

def sampleRequest (parameters : List (String × Value)) : NamedRequest where
  resource := sampleRead.resource
  parameters := parameters
  idempotencyKey := "key"

end DecisionService

end GlassBox
