import GlassBox.Adapters.Memory.ToolRegistry
import GlassBox.App.ToolPath

/-!
# Sensitive parameters and the evidence

A record withholds the values of the sensitive parameters of a governed action.  Two calls which
differ in such values leave the same record as long as the definition resolves and the checks
agree; a placeholder is recorded as it was requested.
-/

namespace GlassBox

open Except (bind_eq_ok_iff)

theorem intercalate_injective {left right : List String} (left_ne : left ≠ [])
    (right_ne : right ≠ []) (left_plain : ∀ text ∈ left, ',' ∉ text.toList)
    (right_plain : ∀ text ∈ right, ',' ∉ text.toList)
    (same : ", ".intercalate left = ", ".intercalate right) : left = right := by
  induction left generalizing right with
  | nil => exact absurd rfl left_ne
  | cons first rest ih =>
    obtain ⟨first', rest', rfl⟩ := List.exists_cons_of_ne_nil right_ne
    rw [List.forall_mem_cons] at left_plain right_plain
    cases rest with
    | nil =>
      cases rest' with
      | nil => simpa using same
      | cons second' rest' =>
        rw [String.intercalate_singleton, String.intercalate_cons_cons] at same
        exact absurd (by simp [same]) left_plain.1
    | cons second rest =>
      cases rest' with
      | nil =>
        rw [String.intercalate_singleton, String.intercalate_cons_cons] at same
        exact absurd (by simp [← same]) right_plain.1
      | cons second' rest' =>
        rw [String.intercalate_cons_cons, String.intercalate_cons_cons] at same
        have chars := congrArg String.toList same
        simp only [String.toList_append, List.append_assoc] at chars
        obtain ⟨firsts, rests⟩ := append_mark_inj left_plain.1 right_plain.1 chars
        have behind := ih (List.cons_ne_nil _ _) (List.cons_ne_nil _ _) left_plain.2
          right_plain.2 (String.toList_injective (List.cons.inj rests).2)
        rw [String.toList_injective firsts, behind]

def ProposedAction.withParameters (action : ProposedAction) (parameters : List (String × Value)) :
    ProposedAction :=
  { action with parameters := parameters }

namespace AuthorizationRequest

def withParameters (request : AuthorizationRequest) (parameters : List (String × Value)) :
    AuthorizationRequest :=
  { request with
    action := request.action.withParameters parameters
    same_tenant := request.same_tenant }

variable {decisionId : String} {principal : VerifiedPrincipal} {action : ProposedAction} {now : ℚ}

theorem make_withParameters {parameters : List (String × Value)} :
    make decisionId principal (action.withParameters parameters) now =
      (make decisionId principal action now).map fun request =>
        request.withParameters parameters := by
  simp only [make]
  cases requireIdentifier decisionId "decision_id" with
  | error error => rfl
  | ok decisionId =>
    cases requireTimestamp now "evaluated_at" with
    | error error => rfl
    | ok evaluatedAt =>
      by_cases same : principal.tenantId = action.tenantId
      · simp only [bind, Except.bind, dif_pos same]
        exact dif_pos same
      · simp only [bind, Except.bind, dif_neg same]
        exact dif_neg same

theorem action_of_make {request : AuthorizationRequest}
    (made : make decisionId principal action now = .ok request) : request.action = action := by
  obtain ⟨_, -, made⟩ := bind_eq_ok_iff.mp made
  obtain ⟨_, -, made⟩ := bind_eq_ok_iff.mp made
  split at made
  next =>
    cases made
    rfl
  next => cases made

end AuthorizationRequest

/-- Two mappings with the same keys, and with the same values outside the fields. -/
def AgreeOutside (fields : List String) (left right : List (String × Value)) : Prop :=
  ∃ entries : List (String × Value × Value),
    left = entries.map (fun entry => (entry.1, entry.2.1)) ∧
    right = entries.map (fun entry => (entry.1, entry.2.2)) ∧
    ∀ entry ∈ entries, entry.1 ∉ fields → entry.2.1 = entry.2.2

namespace AgreeOutside

variable {fields : List String} {left right : List (String × Value)}

theorem sortEntries_eq (entries : List (String × Value × Value)) (side : Value × Value → Value) :
    sortEntries (entries.map fun entry => (entry.1, side entry.2)) =
      (entries.insertionSort fun first second => first.1 ≤ second.1).map
        fun entry => (entry.1, side entry.2) := by
  unfold sortEntries
  rw [List.map_insertionSort _ (fun left right : String × Value => left.1 ≤ right.1)]
  exact fun _ _ _ _ => Iff.rfl

section

variable (agree : AgreeOutside fields left right)
include agree

theorem sorted : AgreeOutside fields (sortEntries left) (sortEntries right) := by
  obtain ⟨entries, rfl, rfl, same⟩ := agree
  refine ⟨_, sortEntries_eq entries Prod.fst, sortEntries_eq entries Prod.snd, ?_⟩
  intro entry member
  exact same entry ((List.mem_insertionSort _).mp member)

theorem eq_of_sorted (same : sortEntries left = sortEntries right) : left = right := by
  obtain ⟨entries, rfl, rfl, -⟩ := agree
  have equal := same
  rw [sortEntries_eq entries Prod.fst, sortEntries_eq entries Prod.snd, List.map_inj_left] at equal
  refine List.map_congr_left fun entry member => ?_
  exact equal entry ((List.mem_insertionSort _).mpr member)

theorem lookup {name : String} (other : name ∉ fields) :
    left.lookup name = right.lookup name := by
  obtain ⟨entries, rfl, rfl, same⟩ := agree
  induction entries with
  | nil => rfl
  | cons entry entries ih =>
    rw [List.forall_mem_cons] at same
    by_cases found : name = entry.1
    · subst found
      simp [same.1 other]
    · have missed : (name == entry.1) = false := by simpa using found
      simpa [List.lookup_cons, missed] using ih same.2

theorem extract [Runtime] {rule : ExposureRule}
    (monetary : ∀ field ∈ rule.monetaryField, field.val ∉ fields)
    (records : ∀ field ∈ rule.recordsField, field.val ∉ fields) :
    rule.extract left = rule.extract right := by
  have looked : ∀ field : Option Identifier, (∀ name ∈ field, name.val ∉ fields) →
      (field.bind fun name => left.lookup name.val) =
        field.bind fun name => right.lookup name.val := by
    intro field other
    cases field with
    | none => rfl
    | some name => exact agree.lookup (other name rfl)
  unfold ExposureRule.extract ExposureRule.numericField ExposureRule.integerField
  rw [looked _ monetary, looked _ records]

end

theorem redacted {action : ProposedAction} (agree : AgreeOutside fields action.parameters right) :
    (action.withParameters right).withRedactedParameters fields =
      action.withRedactedParameters fields := by
  obtain ⟨entries, left_eq, rfl, same⟩ := agree
  unfold ProposedAction.withRedactedParameters ProposedAction.withParameters
  rw [left_eq]
  simp only [List.map_map, ProposedAction.mk.injEq, true_and]
  refine List.map_congr_left fun entry member => ?_
  by_cases sensitive : entry.1 ∈ fields
  · simp [sensitive]
  · simp [sensitive, same entry member sensitive]

end AgreeOutside

namespace DecisionService

section Parameters

def withParameters (call : Evaluation) (parameters : List (String × Value)) : Evaluation :=
  { call with action := call.action.withParameters parameters }

variable [Runtime] {ρ ε ℓ β : Type} {runtime : GovernanceRuntime ρ ε ℓ β} {call : Evaluation}
  {fields : List String} {parameters : List (String × Value)} {queries : Queries ρ}
  {environment : ρ}

/-- The policy does not read the values of these parameters. -/
def BlindTo (fields : List String) (queries : Queries ρ) (environment : ρ) : Prop :=
  ∀ (request : AuthorizationRequest) (parameters : List (String × Value)),
    AgreeOutside fields request.action.parameters parameters →
    queries.decide environment (request.withParameters parameters) =
      queries.decide environment request

omit [Runtime] in
theorem policyStage_withParameters (blind : BlindTo fields queries environment)
    (agree : AgreeOutside fields call.action.parameters parameters) (progress : Progress) :
    policyStage queries environment (withParameters call parameters) progress =
      policyStage queries environment call progress := by
  unfold policyStage
  cases progress.denial with
  | some denial => rfl
  | none =>
    simp only [withParameters, AuthorizationRequest.make_withParameters]
    cases requested : AuthorizationRequest.make call.decisionId call.principal call.action
        call.now with
    | error error => rfl
    | ok request =>
      have asked : AgreeOutside fields request.action.parameters parameters := by
        rw [AuthorizationRequest.action_of_make requested]
        exact agree
      change checkPolicy queries environment (request.withParameters parameters) =
        checkPolicy queries environment request
      unfold checkPolicy
      rw [blind request parameters asked]

/-- Only the policy could tell the two calls apart. -/
theorem authorise_withParameters {config : ServiceConfig}
    (blind : BlindTo fields queries environment)
    (agree : AgreeOutside fields call.action.parameters parameters) :
    authorise queries environment config (withParameters call parameters) =
      authorise queries environment config call := by
  unfold authorise
  have first : preliminaries queries environment (withParameters call parameters) =
      preliminaries queries environment call := rfl
  refine bind_congr fun progress => ?_
  rw [policyStage_withParameters blind agree]
  rfl

theorem records_withParameters {before middle : World ρ ε ℓ β} {decided : Decided}
    {record : IntentRecord}
    (blind : BlindTo call.sensitiveParameterFields runtime.queries before.environment)
    (agree : AgreeOutside call.sensitiveParameterFields call.action.parameters parameters) :
    Records runtime (withParameters call parameters) before decided record middle ↔
      Records runtime call before decided record middle := by
  have recorded : intentRecord runtime.config (withParameters call parameters) decided
      record.decision = intentRecord runtime.config call decided record.decision := by
    unfold intentRecord withParameters
    rw [agree.redacted]
  constructor
  · rintro ⟨⟨⟨authorised, authorising, charging⟩, materialized⟩, recording⟩
    rw [authorise_withParameters blind agree] at authorising
    rw [recorded] at recording
    exact ⟨⟨⟨authorised, authorising, charging⟩, materialized⟩, recording⟩
  · rintro ⟨⟨⟨authorised, authorising, charging⟩, materialized⟩, recording⟩
    rw [← authorise_withParameters blind agree] at authorising
    rw [← recorded] at recording
    exact ⟨⟨⟨authorised, authorising, charging⟩, materialized⟩, recording⟩

end Parameters

section Stages

variable [Runtime] {ρ ε ℓ β : Type} {runtime : GovernanceRuntime ρ ε ℓ β} {call : Evaluation}
  {before middle : World ρ ε ℓ β} {decided : Decided} {record : IntentRecord} {queries : Queries ρ}
  {environment : ρ} {denial : AuthorizationDecision} {progress : Progress}
  {flagged : List Identifier} {definition : ActionDefinition} {resource : ResourceRef}
  {parameters : List (String × Value)} {now : ℚ}

/-- A record lists the stages before policy first. -/
theorem preliminaries_of_records (records : Records runtime call before decided record middle) :
    ∃ progress, preliminaries runtime.queries before.environment call = .ok progress ∧
      progress.stages <+: record.stages := by
  obtain ⟨authorised, authorising, charging⟩ := records.charged
  obtain ⟨limited, baseline, rfl⟩ := (EStateM.ends_of_ok charging).mp
    (charge_decidedBy authorised before.charges)
  obtain ⟨progress, prepared, ran⟩ := bind_eq_ok_iff.mp authorising
  obtain ⟨policy, -, ran⟩ := bind_eq_ok_iff.mp ran
  obtain ⟨assessed, -, ran⟩ := bind_eq_ok_iff.mp ran
  cases ran
  refine ⟨progress, prepared, ?_⟩
  obtain ⟨-, -, -, -, -, -, -, stages, -⟩ := IntentRecord.of_make records.recorded
  rw [stages, decidedBy, List.append_assoc]
  exact List.prefix_append _ _

section

variable (registered : call.toolRegistry.denial = none)
include registered

theorem preliminaries_of_denial (denied : call.catalogue.denial = some denial)
    (prepared : preliminaries queries environment call = .ok progress) :
    progress.denial = some denial ∧
      (progress.stages[2]?).map StageOutcome.status = some .skipped := by
  simp only [preliminaries, Progress.advance, registered, denied, bind, Except.bind] at prepared
  cases prepared
  exact ⟨rfl, rfl⟩

/-- The identity stage runs unless an earlier stage objects. -/
theorem third_stage_of_clear (catalogued : call.catalogue.denial = none)
    (prepared : preliminaries queries environment call = .ok progress) :
    ∃ status, (progress.stages[2]?).map StageOutcome.status = some status ∧
      status ≠ .skipped := by
  obtain ⟨second, second_eq, prepared⟩ := bind_eq_ok_iff.mp prepared
  obtain ⟨third, third_eq, prepared⟩ := bind_eq_ok_iff.mp prepared
  obtain ⟨fourth, fourth_eq, last_eq⟩ := bind_eq_ok_iff.mp prepared
  obtain ⟨_, ⟨⟩, rfl⟩ := Progress.of_advance registered second_eq
  obtain ⟨result, checked, rfl⟩ := Progress.of_advance catalogued third_eq
  obtain ⟨_, fourth_stages⟩ := Progress.stages_advance fourth_eq
  obtain ⟨_, last_stages⟩ := Progress.stages_advance last_eq
  refine ⟨result.outcome.status, by simp [last_stages, fourth_stages], ?_⟩
  obtain ⟨answer, -, checked⟩ := bind_eq_ok_iff.mp checked
  cases answer <;> cases checked <;> nofun

theorem decision_of_denial
    (denied : call.catalogue.denial = some denial) (denies : denial.effect = .deny)
    (records : Records runtime call before decided record middle) : record.decision = denial := by
  obtain ⟨authorised, authorising, charging⟩ := records.charged
  obtain ⟨progress, prepared, ran⟩ := bind_eq_ok_iff.mp authorising
  obtain ⟨⟨decision, policy⟩, answered, ran⟩ := bind_eq_ok_iff.mp ran
  obtain ⟨assessed, -, ran⟩ := bind_eq_ok_iff.mp ran
  have held := (preliminaries_of_denial registered denied prepared).1
  unfold policyStage at answered
  rw [held] at answered
  cases answered
  have kept : ∀ later, overrule denial later = denial := fun later => if_pos denies
  cases ran
  simp only [kept] at charging
  have unchanged : decided.decision = denial :=
    ((EStateM.ends_of_ok charging).mp (charge_of_denied denies before.charges)).1
  rw [← unchanged]
  refine records.bound.eq ?_
  rw [records.bound.effect_eq, unchanged, denies]
  nofun

end

def injectionDenial (flagged : List Identifier) : AuthorizationDecision :=
  .deny .promptInjectionDetected
    (textBehind ("untrusted text field(s) " ++ ", ".intercalate (flagged.map Subtype.val))
      matchedPattern)

omit [Runtime] in
theorem injectionDenial_injective {flagged' : List Identifier} (some_flagged : flagged ≠ [])
    (some_flagged' : flagged' ≠ []) (same : injectionDenial flagged = injectionDenial flagged') :
    flagged = flagged' := by
  have plain : ∀ flagged : List Identifier, ∀ text ∈ flagged.map Subtype.val,
      ',' ∉ text.toList := by
    intro flagged
    rw [List.forall_mem_map]
    exact fun identifier _ => Identifier.notMem (by decide) (by decide) identifier
  have rationales := congrArg (fun decision => decision.rationale.val.toList) same
  simp only [injectionDenial, AuthorizationDecision.deny, textBehind, String.toList_append,
    List.append_cancel_right_eq, List.append_cancel_left_eq] at rationales
  have names := intercalate_injective (mt List.map_eq_nil_iff.mp some_flagged)
    (mt List.map_eq_nil_iff.mp some_flagged') (plain flagged) (plain flagged')
    (String.toList_injective rationales)
  exact List.map_injective_iff.mpr Subtype.val_injective names

theorem judgeParameters_cases {result : StageResult}
    (judged : judgeParameters queries environment definition resource parameters now = .ok result) :
    (scanUntrustedTextFields definition parameters ≠ [] ∧ result.denial =
      some (injectionDenial (scanUntrustedTextFields definition parameters))) ∨
    (scanUntrustedTextFields definition parameters = [] ∧ (result.denial = none ∨
      ∃ rationale, result.denial = some (.deny .attestationNotSatisfied rationale))) := by
  unfold judgeParameters at judged
  split at judged
  next first others flagged =>
    cases judged
    rw [flagged]
    exact .inl ⟨nofun, rfl⟩
  next unflagged =>
    refine .inr ⟨unflagged, ?_⟩
    obtain ⟨answer, -, judged⟩ := bind_eq_ok_iff.mp judged
    cases answer with
    | none =>
      cases judged
      exact .inl rfl
    | some name =>
      cases judged
      exact .inr ⟨_, rfl⟩

/-- The record of a call tells which untrusted text was flagged. -/
theorem scan_eq_iff_of_records (registered : call.toolRegistry.denial = none)
    (judged : judgeParameters runtime.queries before.environment definition resource parameters
      now = .ok call.catalogue) (records : Records runtime call before decided record middle)
    (some_flagged : flagged ≠ []) :
    scanUntrustedTextFields definition parameters = flagged ↔
      record.decision = injectionDenial flagged ∧
        (record.stages[2]?).map StageOutcome.status = some .skipped := by
  obtain ⟨progress, prepared, ⟨rest, stages⟩⟩ := preliminaries_of_records records
  have third : ∀ status, (progress.stages[2]?).map StageOutcome.status = some status →
      (record.stages[2]?).map StageOutcome.status = some status := by
    intro status found
    rw [Option.map_eq_some_iff] at found ⊢
    obtain ⟨outcome, found, named⟩ := found
    obtain ⟨inside, -⟩ := List.getElem?_eq_some_iff.mp found
    refine ⟨outcome, ?_, named⟩
    rw [← stages, List.getElem?_append_left inside, found]
  rcases judgeParameters_cases judged with ⟨scanned, denied⟩ | ⟨scanned, clear | ⟨_, denied⟩⟩
  · have decision := decision_of_denial registered denied rfl records
    have skipped := third _ (preliminaries_of_denial registered denied prepared).2
    rw [decision]
    constructor
    · rintro rfl
      exact ⟨rfl, skipped⟩
    · exact fun same => injectionDenial_injective scanned some_flagged same.1
  · obtain ⟨status, found, ran⟩ := third_stage_of_clear registered clear prepared
    rw [scanned, third status found]
    constructor
    · exact fun empty => absurd empty.symm some_flagged
    · rintro ⟨-, same⟩
      exact absurd (Option.some.inj same) ran
  · have decision := decision_of_denial registered denied rfl records
    rw [decision, scanned]
    constructor
    · exact fun empty => absurd empty.symm some_flagged
    · rintro ⟨same, -⟩
      have reasons := congrArg AuthorizationDecision.reasons same
      cases reasons

end Stages

/-- What a caller names: an action of the catalogue, or a tool at a definition. -/
inductive Named
  | action (actionName : String)
  | tool (toolName definitionSha256 : String)

namespace Named

def entry (credential : RawCredential) (request : NamedRequest) (options : CallOptions) :
    Named → Entry
  | action actionName => .decideAndDispatchForRequest credential actionName request options
  | tool toolName definitionSha256 =>
    .decideAndDispatchForToolCall credential toolName definitionSha256 request options

def resolve {ρ : Type} (queries : Queries ρ) (environment : ρ) (tenantId : Identifier) :
    Named → Except PyError ActionDefinition
  | action actionName => queries.resolveAction environment tenantId actionName
  | tool toolName definitionSha256 =>
    (queries.resolveTool environment tenantId toolName definitionSha256).map
      ToolDefinition.action

variable [Runtime]

/-- The checks which read parameters accept both requests, and flag the same text. -/
def AgreesOn (definition : ActionDefinition) (left right : List (String × Value)) : Named → Prop
  | action _ => definition.validateParameters left = [] ∧
      definition.validateParameters right = [] ∧
      scanUntrustedTextFields definition left = scanUntrustedTextFields definition right
  | tool .. => True

variable {ρ : Type} (queries : Queries ρ) (environment : ρ)

def check (request : NamedRequest) : Named → Except PyError Resolution
  | action actionName => checkCatalogue queries environment actionName request.resource
      request.parameters request.idempotencyKey (queries.now environment)
  | tool toolName definitionSha256 => checkToolRegistry queries environment toolName
      definitionSha256 request.resource request.parameters request.idempotencyKey

def evaluation (principal : VerifiedPrincipal) (resolution : Resolution) (options : CallOptions) :
    Named → Evaluation
  | action _ => evaluationOf queries environment principal resolution.action
      toolNotCalled resolution.result options "decision" (queries.now environment)
      resolution.sensitiveFields
  | tool .. => evaluationOf queries environment principal resolution.action resolution.result
      actionOfTool options "decision" (queries.now environment) resolution.sensitiveFields

variable {queries environment} {named : Named} {credential : RawCredential} {request : NamedRequest}
  {options : CallOptions} {definition : ActionDefinition} {resource : ResourceRef}
  {parameters : List (String × Value)} {key : String} {resolution : Resolution}

theorem prepare_entry : (named.entry credential request options).prepare queries environment = (do
      let resolution ← named.check queries environment request
      let principal ← identify queries environment credential (queries.now environment)
        request.resource.tenantId "resource"
      return named.evaluation queries environment principal resolution options) := by
  cases named <;> rfl

theorem parameters_of_governedAction {action : ProposedAction}
    (governed : governedAction definition resource parameters key = .ok action) :
    action.parameters = sortEntries parameters := by
  obtain ⟨exposure, -, made⟩ := bind_eq_ok_iff.mp governed
  obtain ⟨_, -, made⟩ := bind_eq_ok_iff.mp made
  obtain ⟨_, -, made⟩ := bind_eq_ok_iff.mp made
  cases made
  rfl

omit [Runtime] in
theorem of_refuseUngoverned {name : String} {result : StageResult}
    (refused : refuseUngoverned resource name parameters key result = .ok resolution) :
    resolution.action.parameters = sortEntries parameters ∧ resolution.sensitiveFields = [] := by
  obtain ⟨action, made, refused⟩ := bind_eq_ok_iff.mp refused
  obtain ⟨_, -, made⟩ := bind_eq_ok_iff.mp made
  obtain ⟨_, -, made⟩ := bind_eq_ok_iff.mp made
  cases made
  cases refused
  exact ⟨rfl, rfl⟩

theorem of_check (checked : named.check queries environment request = .ok resolution) :
    resolution.action.parameters = sortEntries request.parameters ∧
      resolution.sensitiveFields =
        match named.resolve queries environment request.resource.tenantId with
        | .ok definition => definition.sensitiveParameterFields.map Subtype.val
        | .error _ => [] := by
  cases named with
  | action actionName =>
    simp only [check, checkCatalogue, resolve] at checked ⊢
    split at checked
    next error resolved =>
      rw [resolved]
      split at checked
      next => exact of_refuseUngoverned checked
      next =>
        split at checked
        next => exact of_refuseUngoverned checked
        next => cases checked
    next definition resolved =>
      rw [resolved]
      obtain ⟨action, governed, checked⟩ := bind_eq_ok_iff.mp checked
      split at checked
      next => cases checked
      next =>
        obtain ⟨result, -, checked⟩ := bind_eq_ok_iff.mp checked
        cases checked
        exact ⟨parameters_of_governedAction governed, rfl⟩
  | tool toolName definitionSha256 =>
    simp only [check, checkToolRegistry, resolve] at checked ⊢
    split at checked
    next error resolved =>
      rw [resolved]
      split at checked
      next => exact of_refuseUngoverned checked
      next =>
        split at checked
        next => exact of_refuseUngoverned checked
        next =>
          split at checked
          next => exact of_refuseUngoverned checked
          next => cases checked
    next tool resolved =>
      rw [resolved]
      obtain ⟨action, governed, checked⟩ := bind_eq_ok_iff.mp checked
      cases checked
      exact ⟨parameters_of_governedAction governed, rfl⟩

theorem of_prepare {call : Evaluation}
    (prepared : (named.entry credential request options).prepare queries environment = .ok call) :
    call.action.parameters = sortEntries request.parameters ∧
      call.sensitiveParameterFields =
        match named.resolve queries environment request.resource.tenantId with
        | .ok definition => definition.sensitiveParameterFields.map Subtype.val
        | .error _ => [] := by
  rw [prepare_entry] at prepared
  obtain ⟨resolution, checked, prepared⟩ := bind_eq_ok_iff.mp prepared
  obtain ⟨principal, -, prepared⟩ := bind_eq_ok_iff.mp prepared
  obtain ⟨parameters_eq, sensitive⟩ := of_check checked
  cases prepared
  rw [← sensitive, ← parameters_eq]
  cases named <;> exact ⟨rfl, rfl⟩

end Named

/-- The definition derives no exposure from a sensitive field. -/
structure ExposureApart (definition : ActionDefinition) : Prop where
  monetary : ∀ field ∈ definition.exposureRule.monetaryField,
    field.val ∉ definition.sensitiveParameterFields.map Subtype.val
  records : ∀ field ∈ definition.exposureRule.recordsField,
    field.val ∉ definition.sensitiveParameterFields.map Subtype.val

section TwoCalls

variable [Runtime] {ρ ε ℓ β : Type} {definition : ActionDefinition}
  {parameters : List (String × Value)} {queries : Queries ρ} {environment : ρ}

def Resolution.withParameters (resolution : Resolution) (parameters : List (String × Value)) :
    Resolution :=
  { resolution with action := resolution.action.withParameters parameters }

theorem governedAction_of_agree {resource : ResourceRef} {left : List (String × Value)}
    {key : String} (apart : ExposureApart definition)
    (agree : AgreeOutside (definition.sensitiveParameterFields.map Subtype.val) left parameters) :
    governedAction definition resource parameters key =
      (governedAction definition resource left key).map fun action =>
        action.withParameters (sortEntries parameters) := by
  unfold governedAction
  rw [← agree.extract apart.monetary apart.records]
  cases definition.exposureRule.extract left with
  | error error => rfl
  | ok exposure =>
    simp only [ProposedAction.make]
    cases requireIdentifier definition.action.val "action" with
    | error error => rfl
    | ok action => cases requireIdentifier key "idempotency_key" <;> rfl

theorem Named.check_of_agree {named : Named} {request : NamedRequest}
    (resolved : named.resolve queries environment request.resource.tenantId = .ok definition)
    (apart : ExposureApart definition)
    (agree : AgreeOutside (definition.sensitiveParameterFields.map Subtype.val) request.parameters
      parameters) (agrees : named.AgreesOn definition request.parameters parameters) :
    named.check queries environment { request with parameters } =
      (named.check queries environment request).map fun resolution =>
        resolution.withParameters (sortEntries parameters) := by
  cases named with
  | action actionName =>
    obtain ⟨valid, valid', scanned⟩ := agrees
    have judged : judgeParameters queries environment definition request.resource parameters
        (queries.now environment) = judgeParameters queries environment definition
        request.resource request.parameters (queries.now environment) := by
      unfold judgeParameters
      rw [scanned]
    simp only [resolve] at resolved
    simp only [check, checkCatalogue, resolved, governedAction_of_agree apart agree, valid,
      valid', judged]
    cases governedAction definition request.resource request.parameters
        request.idempotencyKey with
    | error error => rfl
    | ok action =>
      cases judgeParameters queries environment definition request.resource
          request.parameters (queries.now environment) <;> rfl
  | tool toolName definitionSha256 =>
    obtain ⟨tool, found, rfl⟩ := Except.map_eq_ok_iff.mp resolved
    simp only [check, checkToolRegistry, found, governedAction_of_agree apart agree]
    cases governedAction tool.action request.resource request.parameters
        request.idempotencyKey <;> rfl

variable {runtime : GovernanceRuntime ρ ε ℓ β} {before : World ρ ε ℓ β} {named : Named}
  {credential : RawCredential} {request : NamedRequest} {options : CallOptions}
  {record : IntentRecord}

/-- Two requests the checks agree on leave the same evidence. -/
theorem intents_of_agree
    (resolved : named.resolve runtime.queries before.environment request.resource.tenantId =
      .ok definition)
    (apart : ExposureApart definition)
    (agree : AgreeOutside (definition.sensitiveParameterFields.map Subtype.val) request.parameters
      parameters)
    (agrees : named.AgreesOn definition request.parameters parameters)
    (blind : BlindTo (definition.sensitiveParameterFields.map Subtype.val) runtime.queries
      before.environment) :
    intents runtime (named.entry credential { request with parameters } options) before =
      intents runtime (named.entry credential request options) before := by
  have checked := Named.check_of_agree resolved apart agree agrees
  have prepared : (named.entry credential { request with parameters } options).prepare
      runtime.queries before.environment =
      ((named.entry credential request options).prepare runtime.queries before.environment).map
        fun call => withParameters call (sortEntries parameters) := by
    rw [Named.prepare_entry, Named.prepare_entry, checked]
    cases named.check runtime.queries before.environment request with
    | error error => rfl
    | ok resolution =>
      cases identify runtime.queries before.environment credential
          (runtime.queries.now before.environment) request.resource.tenantId "resource" with
      | error error => rfl
      | ok principal => cases named <;> rfl
  cases first : (named.entry credential request options).prepare runtime.queries
      before.environment with
  | error error =>
    rw [first] at prepared
    rw [intents_of_prepare_error first, intents_of_prepare_error prepared]
  | ok call =>
    rw [first] at prepared
    obtain ⟨parameters_eq, sensitive⟩ := Named.of_prepare first
    simp only [resolved] at sensitive
    have agreeing : AgreeOutside call.sensitiveParameterFields call.action.parameters
        (sortEntries parameters) := by
      rw [sensitive, parameters_eq]
      exact agree.sorted
    rw [← sensitive] at blind
    refine eq_of_length_le_one length_intents_le length_intents_le fun record => ?_
    rw [mem_intents_iff first, mem_intents_iff prepared]
    simp only [records_withParameters blind agreeing]

theorem exists_records_of_mem {entry : Entry} (handed : record ∈ intents runtime entry before) :
    ∃ call decided middle, entry.prepare runtime.queries before.environment = .ok call ∧
      Records runtime call before decided record middle := by
  cases prepared : entry.prepare runtime.queries before.environment with
  | error error =>
    rw [intents_of_prepare_error prepared] at handed
    cases handed
  | ok call =>
    obtain ⟨decided, middle, records⟩ := (mem_intents_iff prepared).mp handed
    exact ⟨call, decided, middle, rfl, records⟩

theorem judged_of_prepare {actionName : String} {call : Evaluation}
    (prepared : (Entry.decideAndDispatchForRequest credential actionName request options).prepare
      queries environment = .ok call)
    (resolved : queries.resolveAction environment request.resource.tenantId actionName =
      .ok definition) :
    definition.validateParameters request.parameters = [] ∧
      call.toolRegistry.denial = none ∧
      judgeParameters queries environment definition request.resource request.parameters
        (queries.now environment) = .ok call.catalogue := by
  obtain ⟨resolution, checked, prepared⟩ := bind_eq_ok_iff.mp prepared
  obtain ⟨principal, -, prepared⟩ := bind_eq_ok_iff.mp prepared
  cases prepared
  simp only [checkCatalogue, resolved] at checked
  obtain ⟨action, -, checked⟩ := bind_eq_ok_iff.mp checked
  split at checked
  next => cases checked
  next valid =>
    obtain ⟨result, judged, checked⟩ := bind_eq_ok_iff.mp checked
    cases checked
    exact ⟨valid, rfl, judged⟩

/-- A record which two calls hand over shows that they differ in nothing, or that the definition
resolved and the checks agree. -/
theorem agree_of_mem_intents (governs : ∀ found, named.resolve runtime.queries before.environment
      request.resource.tenantId = .ok found → found = definition)
    (agree : AgreeOutside (definition.sensitiveParameterFields.map Subtype.val) request.parameters
      parameters)
    (handed : record ∈ intents runtime (named.entry credential request options) before)
    (handed' : record ∈ intents runtime
      (named.entry credential { request with parameters } options) before) :
    request.parameters = parameters ∨
      (named.resolve runtime.queries before.environment request.resource.tenantId = .ok definition ∧
        named.AgreesOn definition request.parameters parameters) := by
  obtain ⟨call, decided, middle, prepared, records⟩ := exists_records_of_mem handed
  obtain ⟨call', decided', middle', prepared', records'⟩ := exists_records_of_mem handed'
  cases resolved : named.resolve runtime.queries before.environment
      request.resource.tenantId with
  | error error =>
    obtain ⟨parameters_eq, sensitive⟩ := Named.of_prepare prepared
    obtain ⟨parameters_eq', sensitive'⟩ := Named.of_prepare prepared'
    simp only [resolved] at sensitive sensitive'
    have action : record.action = call.action.withRedactedParameters [] :=
      sensitive ▸ (IntentRecord.of_make records.recorded).2.2.2.2.1
    have action' : record.action = call'.action.withRedactedParameters [] :=
      sensitive' ▸ (IntentRecord.of_make records'.recorded).2.2.2.2.1
    rw [action, ProposedAction.withRedactedParameters_nil,
      ProposedAction.withRedactedParameters_nil] at action'
    rw [action'] at parameters_eq
    exact .inl (agree.eq_of_sorted (parameters_eq.symm.trans parameters_eq'))
  | ok found =>
    cases governs found resolved
    refine .inr ⟨rfl, ?_⟩
    cases named with
    | tool => trivial
    | action actionName =>
      obtain ⟨valid, registered, judged⟩ := judged_of_prepare prepared resolved
      obtain ⟨valid', registered', judged'⟩ := judged_of_prepare prepared' resolved
      refine ⟨valid, valid', ?_⟩
      by_cases flagged : scanUntrustedTextFields definition request.parameters = []
      · by_cases flagged' : scanUntrustedTextFields definition parameters = []
        · rw [flagged, flagged']
        · exact (scan_eq_iff_of_records registered judged records flagged').mpr
            ((scan_eq_iff_of_records registered' judged' records' flagged').mp rfl)
      · exact ((scan_eq_iff_of_records registered' judged' records' flagged).mpr
          ((scan_eq_iff_of_records registered judged records flagged).mp rfl)).symm

/-- Two calls by name which differ in sensitive values, of which one hands a record to the evidence
store: they leave the same evidence exactly when the definition resolves and the checks which read
parameters agree, or when they do not differ at all. -/
theorem sensitive_values_hidden_iff
    (governs : ∀ found, named.resolve runtime.queries before.environment
      request.resource.tenantId = .ok found → found = definition)
    (apart : ExposureApart definition)
    (agree : AgreeOutside (definition.sensitiveParameterFields.map Subtype.val) request.parameters
      parameters)
    (blind : BlindTo (definition.sensitiveParameterFields.map Subtype.val) runtime.queries
      before.environment)
    (handed : intents runtime (named.entry credential request options) before ≠ [] ∨
      intents runtime (named.entry credential { request with parameters } options) before ≠ []) :
    intents runtime (named.entry credential { request with parameters } options) before =
        intents runtime (named.entry credential request options) before ↔
      request.parameters = parameters ∨
        (named.resolve runtime.queries before.environment request.resource.tenantId =
            .ok definition ∧
          named.AgreesOn definition request.parameters parameters) := by
  constructor
  · intro same
    rw [same, or_self] at handed
    obtain ⟨record, member⟩ := List.exists_mem_of_ne_nil _ handed
    exact agree_of_mem_intents governs agree member (same ▸ member)
  · rintro (rfl | ⟨resolved, agrees⟩)
    · rfl
    · exact intents_of_agree resolved apart agree agrees blind

end TwoCalls

def sensitiveDefinition : ActionDefinition :=
  { readDefinition [] List.nodup_nil with sensitiveParameterFields := [⟨"ssn", by decide⟩] }

def sensitiveRequest (value : String) : NamedRequest := sampleRequest [("ssn", .str value)]

theorem agreeOutside_sensitiveRequest (value value' : String) :
    AgreeOutside (sensitiveDefinition.sensitiveParameterFields.map Subtype.val)
      (sensitiveRequest value).parameters (sensitiveRequest value').parameters := by
  refine ⟨[("ssn", .str value, .str value')], rfl, rfl, ?_⟩
  simp [sensitiveDefinition]

theorem exposureApart_sensitiveDefinition : ExposureApart sensitiveDefinition :=
  ⟨nofun, nofun⟩

attribute [local instance] plainRuntime

theorem sensitive_values_hidden_read :
    intents (governedService sensitiveDefinition)
        ((Named.action "read").entry sampleCredential (sensitiveRequest "2") {}) (sampleWorld 0) =
      intents (governedService sensitiveDefinition)
        ((Named.action "read").entry sampleCredential (sensitiveRequest "1") {})
        (sampleWorld 0) := by
  have handed : (intents (governedService sensitiveDefinition)
      ((Named.action "read").entry sampleCredential (sensitiveRequest "1") {})
      (sampleWorld 0)).isEmpty = false := by
    decide +kernel
  refine (sensitive_values_hidden_iff ?_ exposureApart_sensitiveDefinition
    (agreeOutside_sensitiveRequest "1" "2") (fun _ _ _ => rfl)
    (.inl (by simpa using handed))).mpr (.inr ⟨rfl, rfl, rfl, rfl⟩)
  intro found resolved
  cases resolved
  rfl

def sensitiveBundle : ToolRegistryBundle where
  bundleId := Sample.bundle
  tenantId := acme
  definitions := [sampleTool sensitiveDefinition]
  names_nodup := by simp

def registryService [Runtime] : MemoryRuntime SampleEnvironment :=
  { sampleService MacSigner.counter with
    queries := { sampleQueries with
      resolveTool := fun _ tenantId toolName definitionSha256 =>
        (InMemoryToolRegistry.loadBundle sensitiveBundle {}).resolve tenantId.val toolName
          definitionSha256 } }

def unregisteredTool : Named := .tool "tool" InMemoryToolRegistry.otherDigest

/-- The registry holds the definition of the tool; at another digest its sensitive parameter is
recorded as it was requested. -/
theorem placeholder_discloses :
    sensitiveBundle.resolve "tool" = some (sampleTool sensitiveDefinition) ∧
    BlindTo (sensitiveDefinition.sensitiveParameterFields.map Subtype.val)
      registryService.queries {} ∧
    ExposureApart sensitiveDefinition ∧
    AgreeOutside (sensitiveDefinition.sensitiveParameterFields.map Subtype.val)
      (sensitiveRequest "1").parameters (sensitiveRequest "2").parameters ∧
    intents registryService (unregisteredTool.entry sampleCredential (sensitiveRequest "2") {})
        (sampleWorld 0) ≠
      intents registryService (unregisteredTool.entry sampleCredential (sensitiveRequest "1") {})
        (sampleWorld 0) := by
  refine ⟨rfl, fun _ _ _ => rfl, exposureApart_sensitiveDefinition,
    agreeOutside_sensitiveRequest "1" "2", fun same => ?_⟩
  have handed : (intents registryService
      (unregisteredTool.entry sampleCredential (sensitiveRequest "1") {})
      (sampleWorld 0)).isEmpty = false := by
    decide +kernel
  have refused : (unregisteredTool.resolve registryService.queries {}
      (sensitiveRequest "1").resource.tenantId).toOption.isNone = true := by
    decide +kernel
  obtain ⟨record, member⟩ := List.exists_mem_of_ne_nil _ (by simpa using handed)
  have unresolved : ∀ found, unregisteredTool.resolve registryService.queries {}
      (sensitiveRequest "1").resource.tenantId ≠ .ok found := by
    intro found resolved
    rw [resolved] at refused
    cases refused
  have member' : record ∈ intents registryService
      (unregisteredTool.entry sampleCredential (sensitiveRequest "2") {}) (sampleWorld 0) := by
    rw [same]
    exact member
  rcases agree_of_mem_intents (fun found resolved => absurd resolved (unresolved found))
    (agreeOutside_sensitiveRequest "1" "2") member member' with equal | ⟨resolved, -⟩
  · simp [sensitiveRequest, sampleRequest] at equal
  · exact unresolved _ resolved

end DecisionService

end GlassBox
