import GlassBox.App.Dispatching

/-!
# The tool path beside the catalogue path

The call of a registered tool derives the action from its definition as a request by name does, but
it neither validates the parameters against the schema, nor scans the untrusted text, nor asks for
the attestations, and the mandate is never asked about the tool.
-/

namespace GlassBox

open Except (bind_eq_ok_iff)

namespace DecisionService

theorem clear_of_refuseUngoverned {resource : ResourceRef} {name key : String}
    {parameters : List (String × Value)} {result : StageResult} {resolution : Resolution}
    (refused : refuseUngoverned resource name parameters key result = .ok resolution)
    (clear : resolution.result.denial = none) : result.denial = none := by
  rw [refuseUngoverned_result refused] at clear
  exact clear

section Resolving

variable [Runtime] {ρ : Type} (queries : Queries ρ) (environment : ρ)

/-- What the catalogue stage demands of a request for a governed action. -/
structure Meets (definition : ActionDefinition) (resource : ResourceRef)
    (parameters : List (String × Value)) (now : ℚ) : Prop where
  schema : definition.validateParameters parameters = []
  unflagged : scanUntrustedTextFields definition parameters = []
  attested : ∀ name ∈ definition.requiredAttestations,
    queries.resolveAttestation environment resource.tenantId resource name now = .ok true

def resolvedBy (definition : ActionDefinition) (stage : Stage) (action : ProposedAction) :
    Resolution where
  action := action
  result := .passed stage
  sensitiveFields := definition.sensitiveParameterFields.map Subtype.val

variable {queries environment} {resource : ResourceRef} {parameters : List (String × Value)}
  {key : String} {definition : ActionDefinition} {now : ℚ} {name : String} {resolution : Resolution}

theorem governedAction_eq_ok_iff {action : ProposedAction} :
    governedAction definition resource parameters key = .ok action ↔
      definition.exposureRule.extract parameters = .ok action.exposure ∧
        action.action = definition.action ∧ action.resource = resource ∧
        action.consequence = definition.consequence ∧ action.idempotencyKey.val = key ∧
        action.parameters = sortEntries parameters := by
  constructor
  · intro governed
    obtain ⟨exposure, extracted, made⟩ := bind_eq_ok_iff.mp governed
    obtain ⟨name, name_eq, made⟩ := bind_eq_ok_iff.mp made
    obtain ⟨identifier, identifier_eq, made⟩ := bind_eq_ok_iff.mp made
    cases made
    exact ⟨extracted, Subtype.ext (requireIdentifier_eq_ok_iff.mp name_eq), rfl, rfl,
      requireIdentifier_eq_ok_iff.mp identifier_eq, rfl⟩
  · obtain ⟨name, resource', consequence, exposure, identifier, parameters'⟩ := action
    rintro ⟨extracted, rfl, rfl, rfl, rfl, rfl⟩
    exact bind_eq_ok_iff.mpr ⟨exposure, extracted, bind_eq_ok_iff.mpr
      ⟨definition.action, requireIdentifier_eq_ok_iff.mpr rfl, bind_eq_ok_iff.mpr
        ⟨identifier, requireIdentifier_eq_ok_iff.mpr rfl, rfl⟩⟩⟩

omit [Runtime] in
theorem firstUnsatisfiedAttestation_eq_none_iff {names : List Identifier} :
    firstUnsatisfiedAttestation queries environment resource now names = .ok none ↔
      ∀ name ∈ names,
        queries.resolveAttestation environment resource.tenantId resource name now = .ok true := by
  induction names with
  | nil => simp [firstUnsatisfiedAttestation]
  | cons name names ih =>
    rw [List.forall_mem_cons, ← ih, firstUnsatisfiedAttestation, bind_eq_ok_iff]
    constructor
    · rintro ⟨answer, asked, continued⟩
      split at continued
      next satisfied =>
        subst satisfied
        exact ⟨Except.attempt_eq_some_iff.mp asked, continued⟩
      next => cases continued
    · rintro ⟨satisfied, others⟩
      exact ⟨some true, Except.attempt_eq_some_iff.mpr satisfied, others⟩

theorem judgeParameters_clear_iff {result : StageResult} :
    judgeParameters queries environment definition resource parameters now = .ok result ∧
      result.denial = none ↔
    scanUntrustedTextFields definition parameters = [] ∧
      firstUnsatisfiedAttestation queries environment resource now
        definition.requiredAttestations = .ok none ∧ result = .passed .catalogue := by
  unfold judgeParameters
  cases scanUntrustedTextFields definition parameters with
  | cons first others =>
    simp only [Except.ok.injEq, reduceCtorEq, false_and, iff_false, not_and]
    rintro rfl
    nofun
  | nil =>
    simp only [bind_eq_ok_iff, true_and]
    constructor
    · rintro ⟨⟨answer, asked, judged⟩, clear⟩
      cases answer with
      | some name =>
        cases judged
        cases clear
      | none =>
        cases judged
        exact ⟨asked, rfl⟩
    · rintro ⟨asked, rfl⟩
      exact ⟨⟨none, asked, rfl⟩, rfl⟩

theorem checkCatalogue_clear_iff :
    checkCatalogue queries environment name resource parameters key now = .ok resolution ∧
      resolution.result.denial = none ↔
    ∃ definition action, queries.resolveAction environment resource.tenantId name = .ok definition ∧
      governedAction definition resource parameters key = .ok action ∧
      Meets queries environment definition resource parameters now ∧
      resolution = resolvedBy definition .catalogue action := by
  constructor
  · rintro ⟨checked, clear⟩
    unfold checkCatalogue at checked
    split at checked
    next error _ =>
      split at checked
      next => cases clear_of_refuseUngoverned checked clear
      next =>
        split at checked
        next => cases clear_of_refuseUngoverned checked clear
        next => cases checked
    next definition resolved =>
      obtain ⟨action, governed, checked⟩ := bind_eq_ok_iff.mp checked
      split at checked
      next => cases checked
      next schema =>
        obtain ⟨result, judged, checked⟩ := bind_eq_ok_iff.mp checked
        cases checked
        obtain ⟨unflagged, attested, rfl⟩ := judgeParameters_clear_iff.mp ⟨judged, clear⟩
        exact ⟨definition, action, resolved, governed,
          ⟨schema, unflagged, firstUnsatisfiedAttestation_eq_none_iff.mp attested⟩, rfl⟩
  · rintro ⟨definition, action, resolved, governed, meets, rfl⟩
    have judged := judgeParameters_clear_iff.mpr
      ⟨meets.unflagged, firstUnsatisfiedAttestation_eq_none_iff.mpr meets.attested, rfl⟩
    refine ⟨?_, rfl⟩
    unfold checkCatalogue
    simp only [resolved]
    refine bind_eq_ok_iff.mpr ⟨action, governed, ?_⟩
    rw [meets.schema]
    exact bind_eq_ok_iff.mpr ⟨_, judged.1, rfl⟩

theorem checkToolRegistry_clear_iff {digest : String} :
    checkToolRegistry queries environment name digest resource parameters key = .ok resolution ∧
      resolution.result.denial = none ↔
    ∃ tool action,
      queries.resolveTool environment resource.tenantId name digest = .ok tool ∧
      governedAction tool.action resource parameters key = .ok action ∧
      resolution = resolvedBy tool.action .toolRegistry action := by
  constructor
  · rintro ⟨checked, clear⟩
    unfold checkToolRegistry at checked
    split at checked
    next error _ =>
      split at checked
      next => cases clear_of_refuseUngoverned checked clear
      next =>
        split at checked
        next => cases clear_of_refuseUngoverned checked clear
        next =>
          split at checked
          next => cases clear_of_refuseUngoverned checked clear
          next => cases checked
    next tool resolved =>
      obtain ⟨action, governed, checked⟩ := bind_eq_ok_iff.mp checked
      cases checked
      exact ⟨tool, action, resolved, governed, rfl⟩
  · rintro ⟨tool, action, resolved, governed, rfl⟩
    refine ⟨?_, rfl⟩
    unfold checkToolRegistry
    simp only [resolved]
    exact bind_eq_ok_iff.mpr ⟨action, governed, rfl⟩

end Resolving

section Paths

variable [Runtime] {ρ ε ℓ β : Type} {runtime : GovernanceRuntime ρ ε ℓ β} {before : World ρ ε ℓ β}
  {call : Evaluation} {toolRegistry catalogue : StageResult} {decision : AuthorizationDecision}
  {risk : RiskScore} {verdict : Option LimitVerdict}

theorem prepare_request {queries : Queries ρ} {environment : ρ} {credential : RawCredential}
    {actionName : String} {request : NamedRequest} (options : CallOptions)
    {principal : VerifiedPrincipal} {resolution : Resolution}
    (identified : identify queries environment credential (queries.now environment)
      request.resource.tenantId "resource" = .ok principal)
    (resolved : checkCatalogue queries environment actionName request.resource request.parameters
      request.idempotencyKey (queries.now environment) = .ok resolution) :
    (Entry.decideAndDispatchForRequest credential actionName request options).prepare queries
      environment = .ok (evaluationOf queries environment principal resolution.action
        (.skipped .toolRegistry
          ⟨"action resolved via the action catalogue, not a tool call", by decide⟩)
        resolution.result options "decision" (queries.now environment)
        resolution.sensitiveFields) :=
  bind_eq_ok_iff.mpr
    ⟨resolution, resolved, bind_eq_ok_iff.mpr ⟨principal, identified, rfl⟩⟩

/-- Which of the two resolving stages ran does not matter to the others. -/
theorem Cleared.restage (cleared : Cleared runtime call before decision risk verdict)
    (registered : toolRegistry.denial = none) (catalogued : catalogue.denial = none) :
    Cleared runtime { call with toolRegistry, catalogue } before decision risk verdict where
  registered := registered
  catalogued := catalogued
  identified := cleared.identified
  switched := cleared.switched
  mandated := cleared.mandated
  policy := cleared.policy
  assessed := cleared.assessed
  threshold := cleared.threshold
  dispatches := cleared.dispatches
  admitted := cleared.admitted
  unremarkable := cleared.unremarkable

omit [Runtime] in
theorem Recordable.restage {config : ServiceConfig} (recordable : Recordable config call) :
    Recordable config { call with toolRegistry, catalogue } :=
  ⟨recordable.decisionId, recordable.segmentId, recordable.createdAt, recordable.traceId,
    recordable.causationId, recordable.tenantId⟩

omit [Runtime] in
theorem Writable.restage (writable : Writable call decision risk verdict) :
    Writable { call with toolRegistry, catalogue } decision risk verdict :=
  ⟨writable.principal, writable.action, writable.decision, writable.risk, writable.verdict⟩

/-- A tool call which hands over an action, compared with the request for the action by name. -/
theorem request_handsOver_iff_of_toolCall {tool : ToolDefinition} {credential : RawCredential}
    {toolName definitionSha256 : String} {request : NamedRequest} {options : CallOptions}
    {action : ProposedAction}
    (registered : runtime.queries.resolveTool before.environment request.resource.tenantId toolName
      definitionSha256 = .ok tool)
    (catalogued : ∀ definition, runtime.queries.resolveAction before.environment
      request.resource.tenantId tool.action.action.val = .ok definition →
      definition = tool.action)
    (evenHanded : runtime.evidenceStore.EvenHanded before.evidence) (handed : HandsOver runtime
      (.decideAndDispatchForToolCall credential toolName definitionSha256 request options) before
      action) :
    HandsOver runtime
      (.decideAndDispatchForRequest credential tool.action.action.val request options) before
      action ↔
    runtime.queries.resolveAction before.environment request.resource.tenantId
        tool.action.action.val = .ok tool.action ∧
      Meets runtime.queries before.environment tool.action request.resource request.parameters
        (runtime.queries.now before.environment) := by
  constructor
  · intro requested
    obtain ⟨call, _, _, _, _, prepared, -, cleared, -⟩ := requested.cleared
    obtain ⟨resolution, resolved, prepared⟩ := bind_eq_ok_iff.mp prepared
    obtain ⟨principal, -, prepared⟩ := bind_eq_ok_iff.mp prepared
    cases prepared
    obtain ⟨definition, _, found, -, meets, -⟩ :=
      checkCatalogue_clear_iff.mp ⟨resolved, cleared.catalogued⟩
    cases catalogued definition found
    exact ⟨found, meets⟩
  · rintro ⟨found, meets⟩
    obtain ⟨call, decision, risk, verdict, record, prepared, rfl, cleared, intent, accepted⟩ :=
      handed.cleared
    obtain ⟨resolution, resolved, prepared⟩ := bind_eq_ok_iff.mp prepared
    obtain ⟨principal, identified, prepared⟩ := bind_eq_ok_iff.mp prepared
    cases prepared
    obtain ⟨tool', governed, registered', governed_eq, rfl⟩ :=
      checkToolRegistry_clear_iff.mp ⟨resolved, cleared.registered⟩
    cases registered.symm.trans registered'
    have catalogue := (checkCatalogue_clear_iff.mpr
      ⟨tool.action, governed, found, governed_eq, meets, rfl⟩).1
    have prepared := prepare_request options identified catalogue
    refine Cleared.handsOver (cleared.restage rfl rfl) prepared rfl intent.recordable.restage ?_
    intro record' intent'
    exact intent.accepts evenHanded intent' rfl rfl rfl Writable.restage accepted

end Paths

def accountSchema : List ParameterField :=
  [{ name := Sample.account
     type := .string
     required := true
     length_of_text := fun _ => rfl }]

/-- A definition with a required parameter and an attestation. -/
def attestedRead : ActionDefinition :=
  { readDefinition accountSchema (by decide) with
    requiredAttestations := [Sample.account]
    attestations_nodup := List.nodup_singleton _ }

theorem request_handsOver_of_toolCall_attested :
    letI := plainRuntime
    ∃ action, HandsOver (governedService attestedRead)
      (.decideAndDispatchForRequest sampleCredential "read" (sampleRequest [("account", .str "42")])
        {}) (sampleWorld 0) action := by
  let _ := plainRuntime
  have dispatched : (newEvents (governedService attestedRead)
      (.decideAndDispatchForToolCall sampleCredential "tool" zeroDigest.val
        (sampleRequest [("account", .str "42")]) {})
        (sampleWorld 0)).any Event.isDispatch = true := by
    decide +kernel
  obtain ⟨action, handed⟩ := exists_handsOver_iff.mpr dispatched
  have registered : (governedService attestedRead).queries.resolveTool {} acme "tool"
      zeroDigest.val = .ok (sampleTool attestedRead) := rfl
  have meets : Meets (governedService attestedRead).queries {} attestedRead sampleRead.resource
      [("account", .str "42")] 0 :=
    ⟨by decide +kernel, rfl, fun _ _ => rfl⟩
  have catalogued : ∀ definition, (governedService attestedRead).queries.resolveAction {} acme
      "read" = .ok definition → definition = attestedRead := by
    rintro _ ⟨⟩
    rfl
  have transfers := request_handsOver_iff_of_toolCall registered catalogued
    InMemoryEvidenceStore.evenHanded_counter handed
  exact ⟨action, transfers.mpr ⟨rfl, meets⟩⟩

/-- A tool call without a required parameter hands its action over; the request does not. -/
theorem toolCall_ignores_schema :
    letI := plainRuntime
    let definition := readDefinition accountSchema (by decide)
    let runtime := governedService definition
    runtime.queries.resolveTool {} acme "tool" zeroDigest.val = .ok (sampleTool definition) ∧
      runtime.queries.resolveAction {} acme "read" = .ok definition ∧
      runtime.evidenceStore.EvenHanded (sampleWorld (0 : UInt8)).evidence ∧
      ∃ action,
        HandsOver runtime
          (.decideAndDispatchForToolCall sampleCredential "tool" zeroDigest.val (sampleRequest [])
            {}) (sampleWorld 0) action ∧
        ¬ HandsOver runtime
          (.decideAndDispatchForRequest sampleCredential "read" (sampleRequest []) {})
          (sampleWorld 0) action := by
  let _ := plainRuntime
  have dispatched : (newEvents (governedService (readDefinition accountSchema (by decide)))
      (.decideAndDispatchForToolCall sampleCredential "tool" zeroDigest.val (sampleRequest []) {})
      (sampleWorld 0)).any Event.isDispatch = true := by
    decide +kernel
  have withheld : ¬ (newEvents (governedService (readDefinition accountSchema (by decide)))
      (.decideAndDispatchForRequest sampleCredential "read" (sampleRequest []) {})
      (sampleWorld 0)).any Event.isDispatch = true := by
    decide +kernel
  obtain ⟨action, handed⟩ := exists_handsOver_iff.mpr dispatched
  refine ⟨rfl, rfl, InMemoryEvidenceStore.evenHanded_counter, action, handed, fun requested => ?_⟩
  exact withheld (exists_handsOver_iff.mp ⟨action, requested⟩)

/-- The mandate allows an action of the tool at the digest without an approval. -/
structure AllowsTool (mandate : Mandate) (toolName definitionSha256 : String)
    (action : ProposedAction) : Prop where
  permitted : ∃ verdict, mandate.permitsTool toolName definitionSha256 = .ok verdict ∧
    verdict.permitted = true
  granted : ∃ grant, mandate.toolGrant toolName = some grant ∧
    action.consequence.severity ≤ grant.maxConsequence.severity ∧ grant.requiresApproval = false

section Grants

variable [Runtime] {ρ ε ℓ β : Type}

/-- The ports, where the mandates of the store grant other tools. -/
def regranted (queries : Queries ρ) (grants : Mandate → List ToolGrant)
    (distinct : ∀ mandate, ((grants mandate).map ToolGrant.toolName).Nodup) : Queries ρ :=
  { queries with
    getMandate := fun environment tenantId agentRef now =>
      (queries.getMandate environment tenantId agentRef now).map <| Option.map fun mandate =>
        { mandate with toolGrants := grants mandate, grants_nodup := distinct mandate } }

theorem checkMandate_regranted {queries : Queries ρ} {grants : Mandate → List ToolGrant}
    {distinct : ∀ mandate, ((grants mandate).map ToolGrant.toolName).Nodup} {environment : ρ}
    {principal : VerifiedPrincipal} {action : ProposedAction} {now : ℚ} :
    checkMandate (regranted queries grants distinct) environment principal action now =
      checkMandate queries environment principal action now := by
  unfold checkMandate
  simp only [regranted]
  cases queries.getMandate environment principal.tenantId principal.agentRef now with
  | error => rfl
  | ok answer => cases answer <;> rfl

/-- A tool call which hands over a consequential action acts for a registered tool and under an
active mandate which permits the action.  The tools the mandate grants have no part in it: with
others the call does the same. -/
theorem toolCall_permitted (runtime : GovernanceRuntime ρ ε ℓ β) (credential : RawCredential)
    (toolName definitionSha256 : String) (request : NamedRequest) (options : CallOptions) :
    let call : Entry :=
      .decideAndDispatchForToolCall credential toolName definitionSha256 request options
    (∀ before action, HandsOver runtime call before action →
      action.consequence.mayDegradeOnDependencyFailure = false →
      ∃ principal mandate verdict tool,
        identify runtime.queries before.environment credential
          (runtime.queries.now before.environment) request.resource.tenantId "resource" =
          .ok principal ∧
        runtime.queries.getMandate before.environment principal.tenantId principal.agentRef
          (runtime.queries.now before.environment) = .ok (some mandate) ∧
        runtime.queries.isRevoked before.environment principal.tenantId principal.agentRef
          (runtime.queries.now before.environment) = .ok false ∧
        mandate.permits action (runtime.queries.now before.environment) = .ok verdict ∧
        verdict.permitted = true ∧
        runtime.queries.resolveTool before.environment request.resource.tenantId toolName
          definitionSha256 = .ok tool ∧
        governedAction tool.action request.resource request.parameters request.idempotencyKey =
          .ok action) ∧
      ∀ grants distinct,
        perform { runtime with queries := regranted runtime.queries grants distinct } call =
          perform runtime call := by
  intro call
  constructor
  · intro before action handed strict
    obtain ⟨call, _, _, _, _, prepared, rfl, cleared, -⟩ := handed.cleared
    obtain ⟨resolution, resolved, prepared⟩ := bind_eq_ok_iff.mp prepared
    obtain ⟨principal, identified, prepared⟩ := bind_eq_ok_iff.mp prepared
    cases prepared
    obtain ⟨tool, governed, registered, governed_eq, rfl⟩ :=
      checkToolRegistry_clear_iff.mp ⟨resolved, cleared.registered⟩
    obtain ⟨result, checked, undenied⟩ := cleared.mandated
    obtain ⟨-, unrevoked, mandate, verdict, found, permits, permitted⟩ :=
      (checkMandate_sound checked).cleared undenied strict
    exact ⟨principal, mandate, verdict, tool, identified, found, unrevoked, permits, permitted,
      registered, governed_eq⟩
  · intro grants distinct
    have evaluates : ∀ evaluation,
        evaluate { runtime with queries := regranted runtime.queries grants distinct } evaluation =
          evaluate runtime evaluation := by
      intro evaluation
      unfold evaluate authorise preliminaries
      simp only [checkMandate_regranted]
      rfl
    unfold perform
    simp only [evaluates]
    rfl

end Grants

def grantingMandate : Mandate :=
  { sampleMandate with
    toolGrants := [{ toolName := Sample.tool, definitionSha256 := zeroDigest }]
    grants_nodup := by simp }

def mandatedService [Runtime] (mandate : Mandate) : MemoryRuntime SampleEnvironment :=
  let service := governedService (readDefinition [] List.nodup_nil)
  { service with
    queries := { service.queries with getMandate := fun _ _ _ _ => .ok (some mandate) } }

def toolCall : Entry :=
  .decideAndDispatchForToolCall sampleCredential "tool" zeroDigest.val (sampleRequest []) {}

/-- The tool call hands its action over under a mandate which grants the tool, and does the same
once the grant is withdrawn. -/
theorem toolCall_permitted_granted :
    letI := plainRuntime
    (∃ action, HandsOver (mandatedService grantingMandate) toolCall (sampleWorld 0) action ∧
      ∃ verdict, grantingMandate.permits action 0 = .ok verdict ∧ verdict.permitted = true) ∧
      perform (mandatedService sampleMandate) toolCall =
        perform (mandatedService grantingMandate) toolCall := by
  let _ := plainRuntime
  obtain ⟨permitted, regranted⟩ := toolCall_permitted (mandatedService grantingMandate)
    sampleCredential "tool" zeroDigest.val (sampleRequest []) {}
  have dispatched : (newEvents (mandatedService grantingMandate) toolCall
      (sampleWorld 0)).any isConsequentialDispatch = true := by
    decide +kernel
  obtain ⟨action, handed, strict⟩ := exists_handsOver_of_consequential dispatched
  obtain ⟨principal, mandate, verdict, tool, -, ⟨⟩, -, permits, allowed, -⟩ :=
    permitted _ action handed strict
  exact ⟨⟨action, handed, verdict, permits, allowed⟩,
    regranted (fun _ => []) fun _ => List.nodup_nil⟩

/-- The mandate of the agent grants no tool, and the tool call hands its action over. -/
theorem toolCall_ignores_grants :
    letI := plainRuntime
    ∃ action, HandsOver (mandatedService sampleMandate) toolCall (sampleWorld 0) action ∧
      action.consequence.mayDegradeOnDependencyFailure = false ∧
      (mandatedService sampleMandate).queries.getMandate {} samplePrincipal.tenantId
        samplePrincipal.agentRef 0 = .ok (some sampleMandate) ∧
      sampleMandate.toolGrants = [] ∧
      ¬ AllowsTool sampleMandate "tool" zeroDigest.val action := by
  let _ := plainRuntime
  have dispatched : (newEvents (mandatedService sampleMandate) toolCall
      (sampleWorld 0)).any isConsequentialDispatch = true := by
    decide +kernel
  obtain ⟨action, handed, strict⟩ := exists_handsOver_of_consequential dispatched
  have refused : (sampleMandate.permitsTool "tool" zeroDigest.val).toOption.map
      MandateVerdict.permitted = some false := by
    decide +kernel
  refine ⟨action, handed, strict, rfl, rfl, fun allowed => ?_⟩
  obtain ⟨verdict, asked, permitted⟩ := allowed.permitted
  rw [asked, Except.toOption, Option.map_some, permitted] at refused
  cases refused

end DecisionService

end GlassBox
