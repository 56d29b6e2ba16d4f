import GlassBox.App.Exits
import GlassBox.App.Sample

/-!
# What a rejected credential learns

An action is resolved by name before the credential is verified.  The resolution can raise an error
of its own, and it asks the attestation provider, so `_check_catalogue` is run a second time with a
note of every name it asks for.
-/

namespace GlassBox

open EStateM
open Except (bind_eq_ok_iff bind_eq_error_iff)

namespace DecisionService

section Resolving

variable [Runtime] {ρ : Type} (queries : Queries ρ) (environment : ρ) {resource : ResourceRef}
  {parameters : List (String × Value)} {idempotencyKey : String} {name : String}
  {result : StageResult} {error : PyError} {definition : ActionDefinition} {now : ℚ}

omit [Runtime] in
theorem cls_of_refuseUngoverned
    (refused : refuseUngoverned resource name parameters idempotencyKey result = .error error) :
    error.cls = .domainValidationError := by
  exact Except.Raises.bind (fun _ => ProposedAction.cls_of_make) (fun _ => Except.raises_ok) _
    refused

theorem cls_of_governedAction
    (refused : governedAction definition resource parameters idempotencyKey = .error error) :
    error.cls = .domainValidationError := by
  exact Except.Raises.bind (fun _ => Exposure.cls_of_make)
    (fun _ _ => ProposedAction.cls_of_make) _ refused

def askAttestation (resource : ResourceRef) (now : ℚ) (name : Identifier) :
    EStateM PyError (List Identifier) Bool := do
  modify (· ++ [name])
  ofExcept (queries.resolveAttestation environment resource.tenantId resource name now)

/-- `_first_unsatisfied_attestation` with notes. -/
def firstUnsatisfiedNoting (resource : ResourceRef) (now : ℚ) :
    List Identifier → EStateM PyError (List Identifier) (Option Identifier)
  | [] => pure none
  | name :: names => do
    let answer ← attempt (PyError.isA · .attestationUnavailableError)
      (askAttestation queries environment resource now name)
    if answer = some true then firstUnsatisfiedNoting resource now names
    else return some name

/-- What the catalogue stage says about well-formed parameters, with notes. -/
def judgeParametersNoting (definition : ActionDefinition) (resource : ResourceRef)
    (parameters : List (String × Value)) (now : ℚ) :
    EStateM PyError (List Identifier) StageResult :=
  match scanUntrustedTextFields definition parameters with
  | first :: others =>
    pure (.denied .catalogue .promptInjectionDetected
      (textBehind ("untrusted text field(s) " ++
        ", ".intercalate ((first :: others).map Subtype.val))
        matchedPattern))
  | [] => do
    match ← firstUnsatisfiedNoting queries environment resource now
        definition.requiredAttestations with
    | some name =>
      return .denied .catalogue .attestationNotSatisfied
        (textBehind ("required attestation " ++ Runtime.reprStr name.val)
          notSatisfied)
    | none => return .passed .catalogue

/-- `_check_catalogue` with notes. -/
def checkCatalogueNoting (actionName : String) (resource : ResourceRef)
    (parameters : List (String × Value)) (idempotencyKey : String) (now : ℚ) :
    EStateM PyError (List Identifier) Resolution :=
  match queries.resolveAction environment resource.tenantId actionName with
  | .error _ =>
    ofExcept (checkCatalogue queries environment actionName resource parameters idempotencyKey
      now)
  | .ok definition => do
    let action ← ofExcept (governedAction definition resource parameters idempotencyKey)
    match definition.validateParameters parameters with
    | first :: others =>
      throw (.validation "parameters do not satisfy the action's governed schema (GB-029)"
        "parameters" [("action", .str actionName),
          ("violations", .str ("; ".intercalate (first :: others)))])
    | [] =>
      let result ← judgeParametersNoting queries environment definition resource parameters now
      let sensitiveFields := definition.sensitiveParameterFields.map Subtype.val
      return { action, sensitiveFields, result }

/-- The attestations a call of an entry point asks the provider for. -/
def Entry.attestationsAsked : Entry → List Identifier
  | .decideAndDispatchForRequest _ actionName request _ =>
    (checkCatalogueNoting queries environment actionName request.resource request.parameters
      request.idempotencyKey (queries.now environment)).after []
  | _ => []

variable {queries environment}

omit [Runtime] in
theorem firstUnsatisfiedNoting_run (names asked : List Identifier) :
    ∃ noted, firstUnsatisfiedNoting queries environment resource now names asked =
      (firstUnsatisfiedAttestation queries environment resource now names).endingIn
        (asked ++ noted) ∧ (noted = [] ↔ names = []) := by
  induction names generalizing asked with
  | nil => exact ⟨[], by rw [List.append_nil]; rfl, by simp⟩
  | cons name names ih =>
    have asking : askAttestation queries environment resource now name asked =
        (queries.resolveAttestation environment resource.tenantId resource name now).endingIn
          (asked ++ [name]) := by
      unfold askAttestation
      rw [bind_of_ok (modify_run _ asked), ofExcept_eq_endingIn]
    have attempted := @attempt_of_endingIn _ _ _
      (PyError.isA · .attestationUnavailableError) _ _ _ _ asking
    unfold firstUnsatisfiedNoting firstUnsatisfiedAttestation
    cases answered : attempt (PyError.isA · .attestationUnavailableError)
        (queries.resolveAttestation environment resource.tenantId resource name now) with
    | error error =>
      rw [answered] at attempted
      rw [bind_of_error attempted]
      exact ⟨[name], rfl, by simp⟩
    | ok answer =>
      rw [answered] at attempted
      rw [bind_of_ok attempted]
      by_cases held : answer = some true
      · obtain ⟨noted, run, -⟩ := ih (asked ++ [name])
        refine ⟨name :: noted, ?_, by simp⟩
        simpa [held, bind, Except.bind] using run
      · refine ⟨[name], ?_, by simp⟩
        simp [held, bind, Except.bind, pure, Except.pure, Except.endingIn, EStateM.pure]

theorem judgeParametersNoting_run (asked : List Identifier) :
    ∃ noted, judgeParametersNoting queries environment definition resource parameters now asked =
      (judgeParameters queries environment definition resource parameters now).endingIn
        (asked ++ noted) ∧
      (noted = [] ↔ scanUntrustedTextFields definition parameters ≠ [] ∨
        definition.requiredAttestations = []) := by
  unfold judgeParametersNoting judgeParameters
  cases scanUntrustedTextFields definition parameters with
  | cons first others => exact ⟨[], by rw [List.append_nil]; rfl, by simp⟩
  | nil =>
    obtain ⟨noted, run, quiet⟩ := @firstUnsatisfiedNoting_run _ queries environment resource now
      definition.requiredAttestations asked
    refine ⟨noted, ?_, by simp [quiet]⟩
    cases result : firstUnsatisfiedAttestation queries environment resource now
        definition.requiredAttestations with
    | error error =>
      rw [result] at run
      exact bind_of_error run
    | ok answer =>
      rw [result] at run
      refine (bind_of_ok run).trans ?_
      cases answer with
      | none | some name => rfl

variable (queries environment) in
/-- An action is resolved through the catalogue without an exception and without an attestation. -/
def QuietCatalogue (actionName : String) (request : NamedRequest) : Prop :=
  match queries.resolveAction environment request.resource.tenantId actionName with
  | .error _ =>
    ∃ action, ungovernedPlaceholder request.resource actionName request.parameters
      request.idempotencyKey = .ok action
  | .ok definition =>
    (∃ action, governedAction definition request.resource request.parameters
      request.idempotencyKey = .ok action) ∧
    definition.validateParameters request.parameters = [] ∧
    (scanUntrustedTextFields definition request.parameters ≠ [] ∨
      definition.requiredAttestations = [])

variable (queries environment) in
/-- A tool is resolved without an exception. -/
def QuietRegistry (toolName definitionSha256 : String) (request : NamedRequest) : Prop :=
  match queries.resolveTool environment request.resource.tenantId toolName definitionSha256 with
  | .error _ =>
    ∃ action, ungovernedPlaceholder request.resource toolName request.parameters
      request.idempotencyKey = .ok action
  | .ok tool =>
    ∃ action, governedAction tool.action request.resource request.parameters
      request.idempotencyKey = .ok action

variable (queries environment) in
/-- Whatever the stores hold, they raise only what their ports document. -/
structure ContentsDocumented : Prop where
  catalogue : ∀ tenantId actionName error,
    queries.resolveAction environment tenantId actionName = .error error →
      error.isA .catalogueBundleUnavailableError = true ∨
        error.isA .actionNotGovernedError = true
  registry : ∀ tenantId toolName definitionSha256 error,
    queries.resolveTool environment tenantId toolName definitionSha256 = .error error →
      error.isA .toolRegistryUnavailableError = true ∨ error.isA .toolQuarantinedError = true ∨
        error.isA .toolNotGovernedError = true
  attestations : ∀ tenantId resource name now error,
    queries.resolveAttestation environment tenantId resource name now = .error error →
      error.isA .attestationUnavailableError = true

omit [Runtime] in
theorem exists_firstUnsatisfiedAttestation (documented : ContentsDocumented queries environment)
    (names : List Identifier) :
    ∃ answer, firstUnsatisfiedAttestation queries environment resource now names = .ok answer := by
  induction names with
  | nil => exact ⟨none, rfl⟩
  | cons name names ih =>
    obtain ⟨answer, answered⟩ := Except.exists_attempt_iff.mpr
      (documented.attestations resource.tenantId resource name now)
    by_cases held : answer = some true
    · obtain ⟨rest, rest_eq⟩ := ih
      exact ⟨rest, bind_eq_ok_iff.mpr ⟨answer, answered, by rw [if_pos held, rest_eq]⟩⟩
    · exact ⟨some name, bind_eq_ok_iff.mpr ⟨answer, answered, by rw [if_neg held]; rfl⟩⟩

theorem exists_judgeParameters (documented : ContentsDocumented queries environment) :
    ∃ result, judgeParameters queries environment definition resource parameters now =
      .ok result := by
  unfold judgeParameters
  cases scanUntrustedTextFields definition parameters with
  | cons first others => exact ⟨_, rfl⟩
  | nil =>
    obtain ⟨answer, answered⟩ := @exists_firstUnsatisfiedAttestation _ queries environment
      resource now documented definition.requiredAttestations
    cases answer with
    | none | some name => exact ⟨_, bind_eq_ok_iff.mpr ⟨_, answered, rfl⟩⟩

omit [Runtime] in
theorem exists_refuseUngoverned_iff :
    (∃ resolution, refuseUngoverned resource name parameters idempotencyKey result =
      .ok resolution) ↔
      ∃ action, ungovernedPlaceholder resource name parameters idempotencyKey = .ok action := by
  constructor
  · rintro ⟨resolution, refused⟩
    obtain ⟨action, made, -⟩ := bind_eq_ok_iff.mp refused
    exact ⟨action, made⟩
  · rintro ⟨action, made⟩
    exact ⟨_, bind_eq_ok_iff.mpr ⟨action, made, rfl⟩⟩

section Catalogue

variable {actionName : String} {request : NamedRequest}

theorem checkCatalogue_of_error (documented : ContentsDocumented queries environment)
    (ungoverned : queries.resolveAction environment resource.tenantId actionName = .error error) :
    ∃ result, checkCatalogue queries environment actionName resource parameters idempotencyKey now =
      refuseUngoverned resource actionName parameters idempotencyKey result := by
  unfold checkCatalogue
  rw [ungoverned]
  dsimp only
  split
  · exact ⟨_, rfl⟩
  · rename_i answered
    have known := (documented.catalogue _ _ _ ungoverned).resolve_left answered
    rw [if_pos known]
    exact ⟨_, rfl⟩

theorem cls_of_checkCatalogue (documented : ContentsDocumented queries environment)
    (raised : checkCatalogue queries environment actionName resource parameters idempotencyKey now =
      .error error) : error.cls = .domainValidationError := by
  cases resolved : queries.resolveAction environment resource.tenantId actionName with
  | error ungoverned =>
    obtain ⟨result, refuses⟩ := @checkCatalogue_of_error _ _ _ _ _ parameters idempotencyKey _ now
      _ documented resolved
    exact cls_of_refuseUngoverned (refuses.symm.trans raised)
  | ok definition =>
    unfold checkCatalogue at raised
    rw [resolved] at raised
    rcases bind_eq_error_iff.mp raised with malformed | ⟨action, -, raised⟩
    · exact cls_of_governedAction malformed
    · split at raised
      · cases raised
        rfl
      · obtain ⟨result, judged⟩ := @exists_judgeParameters _ _ queries environment resource
          parameters definition now documented
        rcases bind_eq_error_iff.mp raised with raised | ⟨_, -, raised⟩
        · cases judged.symm.trans raised
        · cases raised

/-- Without its notes the noting stage is `_check_catalogue`; it asks for attestations exactly when
a governed action with proper parameters requires some. -/
theorem checkCatalogueNoting_run (asked : List Identifier) :
    ∃ noted, checkCatalogueNoting queries environment actionName resource parameters idempotencyKey
        now asked =
      (checkCatalogue queries environment actionName resource parameters idempotencyKey
        now).endingIn (asked ++ noted) ∧
      (noted = [] ↔ ∀ definition action,
        queries.resolveAction environment resource.tenantId actionName = .ok definition →
        governedAction definition resource parameters idempotencyKey = .ok action →
        definition.validateParameters parameters = [] →
        scanUntrustedTextFields definition parameters ≠ [] ∨
          definition.requiredAttestations = []) := by
  unfold checkCatalogueNoting
  cases resolved : queries.resolveAction environment resource.tenantId actionName with
  | error ungoverned =>
    exact ⟨[], by rw [List.append_nil]; exact ofExcept_eq_endingIn _ asked, by simp⟩
  | ok definition =>
    unfold checkCatalogue
    rw [resolved]
    dsimp only
    cases governed : governedAction definition resource parameters idempotencyKey with
    | error malformed =>
      refine ⟨[], by rw [List.append_nil]; rfl, iff_of_true rfl ?_⟩
      rintro _ _ ⟨⟩ made
      cases governed.symm.trans made
    | ok action =>
      cases violations : definition.validateParameters parameters with
      | cons first others =>
        refine ⟨[], ?_, iff_of_true rfl ?_⟩
        · rw [List.append_nil]
          rfl
        · rintro _ _ ⟨⟩ - valid
          cases violations.symm.trans valid
      | nil =>
        obtain ⟨noted, run, quiet⟩ := @judgeParametersNoting_run _ _ queries environment
          resource parameters definition now asked
        refine ⟨noted, ?_, fun empty => ?_, fun required =>
          quiet.mpr (required definition action rfl governed violations)⟩
        case refine_2 =>
          rintro _ _ ⟨⟩ - -
          exact quiet.mp empty
        rw [bind_of_ok (ofExcept_run rfl asked)]
        cases judged : judgeParameters queries environment definition resource parameters now with
        | error error =>
          rw [judged] at run
          exact bind_of_error run
        | ok result =>
          rw [judged] at run
          exact bind_of_ok run

/-- The catalogue stage returns without an attestation exactly when it is quiet. -/
theorem quietCatalogue_iff (documented : ContentsDocumented queries environment) :
    (∃ resolution, checkCatalogue queries environment actionName request.resource
        request.parameters request.idempotencyKey now = .ok resolution) ∧
      (checkCatalogueNoting queries environment actionName request.resource request.parameters
        request.idempotencyKey now).after [] = [] ↔
      QuietCatalogue queries environment actionName request := by
  obtain ⟨noted, run, quiet⟩ := @checkCatalogueNoting_run _ _ queries environment request.resource
    request.parameters request.idempotencyKey now actionName []
  have left : (checkCatalogueNoting queries environment actionName request.resource
      request.parameters request.idempotencyKey now).after [] = noted := by
    unfold EStateM.after
    rw [run]
    cases checkCatalogue queries environment actionName request.resource request.parameters
        request.idempotencyKey now with
    | ok resolution | error error => rfl
  rw [left, quiet]
  unfold QuietCatalogue
  cases resolved : queries.resolveAction environment request.resource.tenantId actionName with
  | error ungoverned =>
    obtain ⟨result, refuses⟩ := @checkCatalogue_of_error _ _ _ _ _ request.parameters
      request.idempotencyKey _ now _ documented resolved
    rw [refuses, exists_refuseUngoverned_iff]
    simp
  | ok definition =>
    have returns : (∃ resolution, checkCatalogue queries environment actionName request.resource
        request.parameters request.idempotencyKey now = .ok resolution) ↔
        (∃ action, governedAction definition request.resource request.parameters
          request.idempotencyKey = .ok action) ∧
        definition.validateParameters request.parameters = [] := by
      obtain ⟨result, judged⟩ := @exists_judgeParameters _ _ queries environment request.resource
        request.parameters definition now documented
      unfold checkCatalogue
      rw [resolved]
      simp only [bind_eq_ok_iff]
      cases definition.validateParameters request.parameters with
      | cons first others => simp [throw, throwThe, MonadExceptOf.throw]
      | nil => simp [judged, bind_eq_ok_iff, pure, Except.pure]
    rw [returns]
    constructor
    · rintro ⟨⟨⟨action, governed⟩, valid⟩, unasked⟩
      exact ⟨⟨action, governed⟩, valid, unasked definition action rfl governed valid⟩
    · rintro ⟨governed, valid, unasked⟩
      refine ⟨⟨governed, valid⟩, ?_⟩
      rintro definition' action ⟨⟩ - -
      exact unasked

end Catalogue

section Registry

variable {toolName definitionSha256 : String} {request : NamedRequest}

section

variable (documented : ContentsDocumented queries environment)
include documented

theorem checkToolRegistry_of_error
    (ungoverned : queries.resolveTool environment resource.tenantId toolName definitionSha256 =
      .error error) :
    ∃ result, checkToolRegistry queries environment toolName definitionSha256 resource parameters
        idempotencyKey = refuseUngoverned resource toolName parameters idempotencyKey result := by
  unfold checkToolRegistry
  rw [ungoverned]
  dsimp only
  split
  · exact ⟨_, rfl⟩
  · rename_i available
    split
    · exact ⟨_, rfl⟩
    · rename_i trusted
      have known := ((documented.registry _ _ _ _ ungoverned).resolve_left available).resolve_left
        trusted
      rw [if_pos known]
      exact ⟨_, rfl⟩

theorem cls_of_checkToolRegistry
    (raised : checkToolRegistry queries environment toolName definitionSha256 resource parameters
      idempotencyKey = .error error) : error.cls = .domainValidationError := by
  cases resolved : queries.resolveTool environment resource.tenantId toolName definitionSha256 with
  | error ungoverned =>
    obtain ⟨result, refuses⟩ := @checkToolRegistry_of_error _ _ _ _ _ parameters idempotencyKey _
      _ _ documented resolved
    exact cls_of_refuseUngoverned (refuses.symm.trans raised)
  | ok tool =>
    unfold checkToolRegistry at raised
    rw [resolved] at raised
    rcases bind_eq_error_iff.mp raised with malformed | ⟨action, -, raised⟩
    · exact cls_of_governedAction malformed
    · cases raised

theorem quietRegistry_iff :
    (∃ resolution, checkToolRegistry queries environment toolName definitionSha256
        request.resource request.parameters request.idempotencyKey = .ok resolution) ↔
      QuietRegistry queries environment toolName definitionSha256 request := by
  unfold QuietRegistry
  cases resolved : queries.resolveTool environment request.resource.tenantId toolName
      definitionSha256 with
  | error ungoverned =>
    obtain ⟨result, refuses⟩ := @checkToolRegistry_of_error _ _ _ _ _ request.parameters
      request.idempotencyKey _ _ _ documented resolved
    rw [refuses, exists_refuseUngoverned_iff]
  | ok tool =>
    unfold checkToolRegistry
    rw [resolved]
    simp only [bind_eq_ok_iff]
    constructor
    · rintro ⟨resolution, action, governed, -⟩
      exact ⟨action, governed⟩
    · rintro ⟨action, governed⟩
      exact ⟨_, action, governed, rfl⟩

end

end Registry

end Resolving

section Rejected

variable [Runtime] {ρ ε ℓ β : Type}

/-- The verifier rejects the credential of a call which names its action or tool. -/
def Entry.RejectedWith (queries : Queries ρ) (environment : ρ) (error : PyError) : Entry → Prop
  | .decideAndDispatchForRequest credential _ _ _
  | .decideAndDispatchForToolCall credential _ _ _ _ =>
    queries.verify environment credential (queries.now environment) = .error error
  | _ => False

/-- The action of the call is resolved without an exception and without an attestation. -/
def Entry.ResolvesQuietly (queries : Queries ρ) (environment : ρ) : Entry → Prop
  | .decideAndDispatchForRequest _ actionName request _ =>
    QuietCatalogue queries environment actionName request
  | .decideAndDispatchForToolCall _ toolName definitionSha256 request _ =>
    QuietRegistry queries environment toolName definitionSha256 request
  | _ => True

/-- The caller receives the error, and no attestation was asked for. -/
def Rebuffed (runtime : GovernanceRuntime ρ ε ℓ β) (entry : Entry) (before : World ρ ε ℓ β)
    (error : PyError) : Prop :=
  (∃ after, perform runtime entry before = .error error after) ∧
    entry.attestationsAsked runtime.queries before.environment = []

/-- Two runs raise the same identity error, and neither asks for an attestation. -/
def RevealsNothing (entry : Entry) (runtime runtime' : GovernanceRuntime ρ ε ℓ β)
    (before before' : World ρ ε ℓ β) : Prop :=
  ∃ error : PyError, error.isA .identityError = true ∧ Rebuffed runtime entry before error ∧
    Rebuffed runtime' entry before' error

variable {runtime runtime' : GovernanceRuntime ρ ε ℓ β} {entry : Entry}
  {before before' : World ρ ε ℓ β} {rejection : PyError} {error : PyError}

omit [Runtime] in
theorem identify_of_rejected {queries : Queries ρ} {environment : ρ} {credential : RawCredential}
    {now : ℚ} {tenantId : Identifier} {field : String}
    (rejected : queries.verify environment credential now = .error rejection) :
    identify queries environment credential now tenantId field = .error rejection :=
  bind_eq_error_iff.mpr (.inl rejected)

theorem perform_of_rejected
    (rejected : entry.RejectedWith runtime.queries before.environment rejection) :
    ∃ error, perform runtime entry before = .error error before := by
  cases prepared : entry.prepare runtime.queries before.environment with
  | error error => exact ⟨error, perform_of_prepare_error prepared⟩
  | ok call =>
    cases entry with
    | decideAndDispatch | replay => exact rejected.elim
    | decideAndDispatchForRequest | decideAndDispatchForToolCall =>
      obtain ⟨_, -, prepared⟩ := bind_eq_ok_iff.mp prepared
      obtain ⟨_, identified, -⟩ := bind_eq_ok_iff.mp prepared
      rw [identify_of_rejected rejected] at identified
      cases identified

/-- A rejected call which resolves quietly raises the rejection. -/
theorem rebuffed_of_resolvesQuietly
    (rejected : entry.RejectedWith runtime.queries before.environment rejection)
    (documented : ContentsDocumented runtime.queries before.environment)
    (quiet : entry.ResolvesQuietly runtime.queries before.environment) :
    Rebuffed runtime entry before rejection := by
  cases entry with
  | decideAndDispatch | replay => exact rejected.elim
  | decideAndDispatchForRequest credential actionName request options =>
    obtain ⟨⟨resolution, resolved⟩, unasked⟩ := (quietCatalogue_iff documented).mpr quiet
    refine ⟨⟨before, perform_of_prepare_error ?_⟩, unasked⟩
    exact bind_eq_error_iff.mpr (.inr ⟨resolution, resolved,
      bind_eq_error_iff.mpr (.inl (identify_of_rejected rejected))⟩)
  | decideAndDispatchForToolCall credential toolName definitionSha256 request options =>
    obtain ⟨resolution, resolved⟩ := (quietRegistry_iff documented).mpr quiet
    refine ⟨⟨before, perform_of_prepare_error ?_⟩, rfl⟩
    exact bind_eq_error_iff.mpr (.inr ⟨resolution, resolved,
      bind_eq_error_iff.mpr (.inl (identify_of_rejected rejected))⟩)

omit [Runtime] in
theorem not_identityError (cls : error.cls = .domainValidationError) :
    error.isA .identityError = false := by
  simp [PyError.isA, cls, ErrorClass.ancestors]

/-- A rejected call which raises an identity error resolves quietly. -/
theorem resolvesQuietly_of_rebuffed
    (rejected : entry.RejectedWith runtime.queries before.environment rejection)
    (documented : ContentsDocumented runtime.queries before.environment)
    (identity : error.isA .identityError = true) (rebuffed : Rebuffed runtime entry before error) :
    entry.ResolvesQuietly runtime.queries before.environment := by
  obtain ⟨⟨after, raised⟩, unasked⟩ := rebuffed
  cases entry with
  | decideAndDispatch | replay => exact rejected.elim
  | decideAndDispatchForRequest credential actionName request options =>
    refine (quietCatalogue_iff documented).mp ⟨?_, unasked⟩
    cases resolved : checkCatalogue runtime.queries before.environment actionName
        request.resource request.parameters request.idempotencyKey
        (runtime.queries.now before.environment) with
    | ok resolution => exact ⟨resolution, rfl⟩
    | error malformed =>
      have refused := @perform_of_prepare_error _ _ _ _ runtime _
        (.decideAndDispatchForRequest credential actionName request options) before malformed
        (bind_eq_error_iff.mpr (.inl resolved))
      cases refused.symm.trans raised
      rw [not_identityError (cls_of_checkCatalogue documented resolved)] at identity
      cases identity
  | decideAndDispatchForToolCall credential toolName definitionSha256 request options =>
    refine (quietRegistry_iff documented).mp ?_
    cases resolved : checkToolRegistry runtime.queries before.environment toolName
        definitionSha256 request.resource request.parameters request.idempotencyKey with
    | ok resolution => exact ⟨resolution, rfl⟩
    | error malformed =>
      have refused := @perform_of_prepare_error _ _ _ _ runtime _
        (.decideAndDispatchForToolCall credential toolName definitionSha256 request options)
        before malformed (bind_eq_error_iff.mpr (.inl resolved))
      cases refused.symm.trans raised
      rw [not_identityError (cls_of_checkToolRegistry documented resolved)] at identity
      cases identity

end Rejected

/-- The verifier's answer to a credential it does not trust. -/
def untrusted : PyError := { cls := .identityError, message := "credential is not trusted" }

/-- The sample service before a verifier which trusts nobody. -/
def rejectingService [Runtime] (resolve : Except PyError ActionDefinition) :
    MemoryRuntime SampleEnvironment :=
  { sampleService MacSigner.counter with
    queries := { sampleQueries with
      verify := fun _ _ _ => .error untrusted
      resolveAction := fun _ _ _ => resolve } }

def namedRead : Entry := .decideAndDispatchForRequest sampleCredential "read" (sampleRequest []) {}

def ungovernedRead : Except PyError ActionDefinition :=
  .error (ungoverned .actionNotGovernedError)

/-- The catalogue governs reading, with any parameters. -/
def openRead : Except PyError ActionDefinition := .ok (readDefinition [] List.nodup_nil)

def schemaDefinition : ActionDefinition :=
  readDefinition [{
    name := ⟨"id", by decide⟩
    type := .string
    required := true
    length_of_text := fun _ => rfl }] (by simp)

/-- The catalogue governs reading and requires a parameter. -/
def schemaRead : Except PyError ActionDefinition := .ok schemaDefinition

theorem contentsDocumented_rejectingService [Runtime] {resolve : Except PyError ActionDefinition}
    (documented : ∀ error, resolve = .error error →
      error.isA .actionNotGovernedError = true) (environment : SampleEnvironment) :
    ContentsDocumented (rejectingService resolve).queries environment where
  catalogue := fun _ _ error raised => .inr (documented error raised)
  registry := by
    rintro _ _ _ error ⟨⟩
    exact .inr (.inr rfl)
  attestations := by simp [rejectingService, sampleQueries]

theorem documented_ungovernedRead [Runtime] (environment : SampleEnvironment) :
    ContentsDocumented (rejectingService ungovernedRead).queries environment := by
  refine contentsDocumented_rejectingService ?_ environment
  rintro error ⟨⟩
  rfl

theorem rejected_namedRead [Runtime] (resolve : Except PyError ActionDefinition)
    (environment : SampleEnvironment) :
    namedRead.RejectedWith (rejectingService resolve).queries environment untrusted := rfl

attribute [local instance] plainRuntime

end DecisionService

end GlassBox
