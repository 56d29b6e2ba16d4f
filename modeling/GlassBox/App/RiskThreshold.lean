import GlassBox.Adapters.Memory.Decisioning
import GlassBox.App.EveryDecisionEvidenced

/-!
# What the risk threshold refuses

`_compute_risk` hands the risk engine no factors, so the reference engine scores every action at
the floor of its consequence class, whatever the amount.  A threshold below `HIGH` refuses all
irreversible actions and `HIGH`, the default, refuses none.
-/

namespace GlassBox

open Except (bind_eq_ok_iff)

namespace ReferenceRiskEngine

theorem rawScore_nil (engine : ReferenceRiskEngine) : engine.rawScore [] = 0 := by
  simp [rawScore]

theorem level_of_score {engine : ReferenceRiskEngine} {inputs : RiskInputs} {risk : RiskScore}
    (scored : engine.score inputs = .ok risk) (bare : inputs.factors = []) :
    risk.level = consequenceFloor inputs.consequence := by
  obtain ⟨-, raw, raw_eq, version, -, rfl⟩ := score_eq_ok_iff.mp scored
  rw [bare, rawScore_nil] at raw_eq
  obtain rfl : raw = ⟨0, by norm_num⟩ := Subtype.ext raw_eq
  rw [RiskScore.level, RiskScore.value_withConsequenceFloor]
  cases inputs.consequence <;> rfl

end ReferenceRiskEngine

namespace DecisionService

section Threshold

variable [Runtime] {ρ ε ℓ β : Type} {runtime : GovernanceRuntime ρ ε ℓ β} {entry : Entry}
  {call : Evaluation} {before : World ρ ε ℓ β} {engine : ReferenceRiskEngine}

/-- No stage but the risk threshold denies the call. -/
structure NoOtherDenial (runtime : GovernanceRuntime ρ ε ℓ β) (call : Evaluation)
    (before : World ρ ε ℓ β) : Prop
    extends Preliminary runtime.queries before.environment call where
  policy : ∃ request decision outcome,
    AuthorizationRequest.make call.decisionId call.principal call.action call.now = .ok request ∧
      checkPolicy runtime.queries before.environment request = .ok (decision, outcome) ∧
      decision.effect ≠ .deny
  assessed : ∃ risk result,
    computeRisk runtime.queries before.environment call.action call.now = .ok (risk, result) ∧
      result.denial = none
  limits : ∀ key verdict limits,
    limitKeyFor runtime.config call.principal call.action = .ok key →
    attempt (PyError.isA · .limitStoreUnavailable)
      (runtime.limitStore.tryConsume key 1 call.decisionId call.now) before.charges.limits =
        .ok verdict limits →
    ((verdict.map judgeLimit).getD (limitsUnavailable call.action)).denial = none
  baseline : (checkBaseline runtime call).Ends before.charges.baselines
    (fun result _ => result.denial = none) (fun _ _ => True)

/-- The call is denied, and the threshold is why. -/
structure RefusedByThreshold (runtime : GovernanceRuntime ρ ε ℓ β) (entry : Entry)
    (call : Evaluation) (before : World ρ ε ℓ β) : Prop where
  authorised : ∃ authorised,
    authorise runtime.queries before.environment runtime.config call = .ok authorised ∧
      authorised.decision.effect = .deny ∧
      authorised.decision.reasons = [.riskThresholdExceeded]
  returned : ∀ outcome after, perform runtime entry before = .ok outcome after →
    outcome.decision.effect = .deny ∧ outcome.decision.reasons = [.riskThresholdExceeded]

/-- From some amount on, every irreversible action which nothing else denies is refused by the
threshold. -/
def Bites (config : ServiceConfig) (engine : ReferenceRiskEngine) : Prop :=
  ∃ bound : ℚ, ∀ (ρ ε ℓ β : Type) (runtime : GovernanceRuntime ρ ε ℓ β) (before : World ρ ε ℓ β)
    (credential : RawCredential) (action : ProposedAction) (options : CallOptions)
    (call : Evaluation) (amount : Amount),
    runtime.config = config → (runtime.queries.score = fun _ => engine.score) →
    (Entry.decideAndDispatch credential action options).prepare runtime.queries
      before.environment = .ok call →
    action.consequence = .irreversible → action.exposure.monetary = some amount →
    bound ≤ amount.val → NoOtherDenial runtime call before →
    RefusedByThreshold runtime (.decideAndDispatch credential action options) call before

omit [Runtime] in
/-- The risk of a call under the reference engine is the floor of its consequence class. -/
theorem level_of_computeRisk (wired : runtime.queries.score = fun _ => engine.score)
    {risk : RiskScore} {result : StageResult}
    (assessed : computeRisk runtime.queries before.environment call.action call.now =
      .ok (risk, result)) (clear : result.denial = none) :
    risk.level = consequenceFloor call.action.consequence := by
  obtain ⟨moment, -, assessed⟩ := bind_eq_ok_iff.mp assessed
  obtain ⟨answer, answered, assessed⟩ := bind_eq_ok_iff.mp assessed
  cases answer with
  | none =>
    cases assessed
    cases clear
  | some score =>
    cases assessed
    have scored := Except.attempt_eq_some_iff.mp answered
    rw [wired] at scored
    exact ReferenceRiskEngine.level_of_score scored rfl

/-- A threshold below the floor of an irreversible action refuses it, whatever the amount. -/
theorem NoOtherDenial.refused (permitted : NoOtherDenial runtime call before)
    (prepared : entry.prepare runtime.queries before.environment = .ok call)
    (wired : runtime.queries.score = fun _ => engine.score)
    (irreversible : call.action.consequence = .irreversible)
    (enforced : runtime.config.enforceThreshold = true)
    (low : runtime.config.denyLevel.severity < RiskLevel.high.severity) :
    RefusedByThreshold runtime entry call before := by
  obtain ⟨progress, prepared', clear⟩ :=
    (preliminary_iff runtime.queries before.environment).mpr permitted.toPreliminary
  obtain ⟨request, decision, outcome, requested, answered, undenied⟩ := permitted.policy
  obtain ⟨risk, result, computed, unassessed⟩ := permitted.assessed
  have policy : policyStage runtime.queries before.environment call progress =
      .ok (decision, outcome) := by
    unfold policyStage
    rw [clear]
    exact bind_eq_ok_iff.mpr ⟨request, requested, answered⟩
  have exceeds : risk.exceeds runtime.config.denyLevel = true := by
    rw [RiskScore.exceeds, level_of_computeRisk wired computed unassessed, irreversible]
    exact decide_eq_true low
  obtain ⟨authorised, authorising, decided⟩ : ∃ authorised,
      authorise runtime.queries before.environment runtime.config call = .ok authorised ∧
        authorised.decision = overrule decision (checkRiskThreshold runtime.config risk) := by
    refine ⟨_, bind_eq_ok_iff.mpr ⟨progress, prepared', bind_eq_ok_iff.mpr
      ⟨_, policy, bind_eq_ok_iff.mpr ⟨_, computed, rfl⟩⟩⟩, ?_⟩
    simp only [unassessed, overrule_none]
  have refused : authorised.decision.effect = .deny ∧
      authorised.decision.reasons = [.riskThresholdExceeded] := by
    simp only [decided, overrule, undenied, checkRiskThreshold, enforced, exceeds]
    exact ⟨rfl, rfl⟩
  refine ⟨⟨authorised, authorising, refused⟩, fun outcome after returned => ?_⟩
  -- what is denied before it is charged is returned with the same denial
  rw [perform_of_prepare prepared] at returned
  have exits := (EStateM.ends_of_ok returned).mp (evaluate_exits call before)
  cases exits with
  | returned records =>
    obtain ⟨authorised', authorising', charging⟩ := records.charged
    cases authorising.symm.trans authorising'
    have decided := ((EStateM.ends_of_ok charging).mp (charge_of_denied refused.1 before.charges)).1
    have effect := records.bound.effect_eq
    rw [decided, refused.1] at effect
    rw [records.bound.eq (by rw [effect]; nofun), decided]
    exact refused

end Threshold

/-- The open service with a reference engine and settings of its own. -/
def scoredService (config : ServiceConfig) (engine : ReferenceRiskEngine) :
    GovernanceRuntime SampleEnvironment Unit Unit Unit :=
  { openService (pure ()) with
    config := config
    queries := { sampleQueries with score := fun _ => engine.score } }

def irreversiblePayment (amount : Amount) : ProposedAction :=
  sampleAction Sample.pay .irreversible (some amount)

def paymentEvaluation (amount : Amount) : Evaluation :=
  evaluationOf sampleQueries {} samplePrincipal (irreversiblePayment amount)
    toolSupplied actionSupplied { decisionId := some "decision-1" } "decision" 0 []

section Payment

variable [Runtime] {config : ServiceConfig} {engine : ReferenceRiskEngine} {amount : Amount}

theorem prepare_irreversiblePayment : (sampleCall (irreversiblePayment amount) "decision-1").prepare
      (scoredService config engine).queries openWorld.environment =
        .ok (paymentEvaluation amount) := by
  have valid : samplePrincipal.requireValidAt 0 = .ok () := rfl
  refine bind_eq_ok_iff.mpr ⟨samplePrincipal, ?_, rfl⟩
  refine bind_eq_ok_iff.mpr ⟨samplePrincipal, rfl, ?_⟩
  exact bind_eq_ok_iff.mpr ⟨(), valid, if_pos rfl⟩

theorem permits_irreversiblePayment (star : ∀ name, Runtime.fnmatchcase name "*" = true) :
    ∃ verdict, sampleMandate.permits (irreversiblePayment amount) 0 = .ok verdict ∧
      verdict.permitted = true := by
  refine ⟨_, bind_eq_ok_iff.mpr ⟨⟨0, by decide +kernel⟩, rfl, rfl⟩, ?_⟩
  simp [Mandate.denialReasons, Mandate.periodReasons, Mandate.isRevokedAt, Mandate.matchesAny,
    star, sampleMandate, Mandate.onResources, irreversiblePayment, sampleAction, Exposure.exceeds,
    ConsequenceClass.severity, BlastRadius.severity, ProposedAction.tenantId]

omit [Runtime] in
theorem computeRisk_irreversiblePayment (available : engine.available = true)
    {version : Identifier} (named : version.val = engine.modelVersion) :
    ∃ risk, computeRisk (scoredService config engine).queries openWorld.environment
      (irreversiblePayment amount) 0 = .ok (risk, .passed .risk) := by
  obtain ⟨risk, scored⟩ : ∃ risk, engine.score ⟨.irreversible, { monetary := some amount },
      ⟨0, by decide +kernel⟩, [], [], by simp⟩ = .ok risk :=
    ⟨_, ReferenceRiskEngine.score_eq_ok_iff.mpr
      ⟨available, ⟨0, by norm_num⟩, (engine.rawScore_nil).symm, version, named, rfl⟩⟩
  refine ⟨risk, bind_eq_ok_iff.mpr ⟨⟨0, by decide +kernel⟩, rfl, ?_⟩⟩
  exact bind_eq_ok_iff.mpr ⟨some risk, Except.attempt_eq_some_iff.mpr scored, rfl⟩

/-- What the policy is asked about an irreversible payment. -/
def paymentRequest (amount : Amount) : AuthorizationRequest where
  decisionId := Sample.decision1
  principal := samplePrincipal
  action := irreversiblePayment amount
  evaluatedAt := Timestamp.epoch
  same_tenant := (rfl : acme = acme)

omit [Runtime] in
theorem make_paymentRequest :
    AuthorizationRequest.make (paymentEvaluation amount).decisionId
      (paymentEvaluation amount).principal (paymentEvaluation amount).action
      (paymentEvaluation amount).now = .ok (paymentRequest amount) :=
  AuthorizationRequest.make_eq_ok_iff.mpr ⟨rfl, rfl, rfl, rfl, rfl⟩

/-- Nothing but the threshold can deny the payment. -/
theorem noOtherDenial_irreversiblePayment
    (star : ∀ name, Runtime.fnmatchcase name "*" = true) (available : engine.available = true)
    {version : Identifier} (named : version.val = engine.modelVersion) :
    NoOtherDenial (scoredService config engine) (paymentEvaluation amount) openWorld where
  registered := rfl
  catalogued := rfl
  identified := ⟨.passed .identity, rfl, rfl⟩
  switched := ⟨.passed .killSwitch, rfl, rfl⟩
  mandated := by
    obtain ⟨verdict, permits, permitted⟩ := @permits_irreversiblePayment _ amount star
    refine ⟨.passed .mandate, ?_, rfl⟩
    exact bind_eq_ok_iff.mpr ⟨some (some sampleMandate), rfl, bind_eq_ok_iff.mpr ⟨some false, rfl,
        bind_eq_ok_iff.mpr ⟨verdict, permits, if_pos permitted⟩⟩⟩
  policy := ⟨paymentRequest amount, sampleAllow, .executed .policy, make_paymentRequest, rfl, nofun⟩
  assessed := by
    obtain ⟨risk, computed⟩ := @computeRisk_irreversiblePayment config engine amount available
      version named
    exact ⟨risk, .passed .risk, computed, rfl⟩
  limits := by
    rintro key verdict limits - consumed
    have admitted : ∃ given : LimitVerdict, verdict = some given ∧ given.admitted = true := by
      cases consumed
      exact ⟨_, rfl, rfl⟩
    obtain ⟨given, rfl, admitted⟩ := admitted
    simp [judgeLimit, admitted, StageResult.passed]
  baseline := rfl

/-- The threshold `HIGH` lets the payment pass. -/
theorem not_refused_irreversiblePayment (star : ∀ name, Runtime.fnmatchcase name "*" = true)
    (available : engine.available = true) {version : Identifier}
    (named : version.val = engine.modelVersion) (high : config.denyLevel = .high) :
    ¬ RefusedByThreshold (scoredService config engine)
      (sampleCall (irreversiblePayment amount) "decision-1") (paymentEvaluation amount)
      openWorld := by
  intro refused
  obtain ⟨authorised, authorising, denied, -⟩ := refused.authorised
  obtain ⟨risk, computed⟩ := @computeRisk_irreversiblePayment config engine amount available
    version named
  have permitted := @noOtherDenial_irreversiblePayment _ config engine amount star available
    version named
  have passes : checkRiskThreshold config risk = none := by
    have level := @level_of_computeRisk _ _ _ _ (scoredService config engine)
      (paymentEvaluation amount) openWorld engine rfl risk _ computed rfl
    have within : risk.exceeds config.denyLevel = false := by
      rw [RiskScore.exceeds, level, high]
      rfl
    simp [checkRiskThreshold, within]
  have allowed : sampleAllow.effect ≠ .deny := nofun
  have staged := staged_of_prepare (@prepare_irreversiblePayment _ config engine amount)
  obtain ⟨authorised', authorising', allows, -⟩ :=
    (authorises_iff staged allowed).mpr
      (⟨permitted.toPreliminary, ⟨_, .executed .policy, make_paymentRequest, rfl⟩,
        ⟨_, computed, rfl⟩, passes⟩ : Authorises (scoredService config engine).queries
          openWorld.environment config (paymentEvaluation amount) sampleAllow risk)
  cases authorising.symm.trans authorising'
  rw [allows] at denied
  cases denied

/-- The threshold can bite exactly when it is below the floor of irreversible actions. -/
theorem threshold_bites_iff (star : ∀ name, Runtime.fnmatchcase name "*" = true)
    (enforced : config.enforceThreshold = true) (level : config.denyLevel ≠ .critical)
    (available : engine.available = true)
    (named : ∃ version : Identifier, version.val = engine.modelVersion) :
    Bites config engine ↔ config.denyLevel ≠ .high := by
  obtain ⟨version, named⟩ := named
  constructor
  · rintro ⟨bound, refuses⟩ high
    let amount : Amount := ⟨max bound 0, le_max_right bound 0⟩
    refine @not_refused_irreversiblePayment _ config engine amount star available version named
      high ?_
    exact refuses _ _ _ _ (scoredService config engine) openWorld sampleCredential
      (irreversiblePayment amount) { decisionId := some "decision-1" } (paymentEvaluation amount)
      amount rfl rfl prepare_irreversiblePayment rfl rfl (le_max_left bound 0)
      (noOtherDenial_irreversiblePayment star available named)
  · intro other
    refine ⟨0, ?_⟩
    rintro ρ ε ℓ β runtime before credential action options call amount rfl wired prepared
      irreversible - - permitted
    refine permitted.refused prepared wired ?_ enforced ?_
    · obtain ⟨principal, -, made⟩ := bind_eq_ok_iff.mp prepared
      cases made
      exact irreversible
    · cases denyLevel : runtime.config.denyLevel with
      | low | medium => decide
      | high => exact absurd denyLevel other
      | critical => exact absurd denyLevel level

end Payment

attribute [local instance] plainRuntime

theorem threshold_bites_iff_medium :
    Bites { segmentPrefix := ⟨"segment", by decide⟩, denyLevel := .medium } {} := by
  exact (threshold_bites_iff (fun _ => rfl) rfl (by decide) rfl
    ⟨⟨"reference-v0.1.0", by decide⟩, rfl⟩).mpr (by decide)

/-- Under the default threshold no amount is refused. -/
theorem default_threshold_never_bites : ¬ Bites { segmentPrefix := ⟨"segment", by decide⟩ } {} := by
  rintro ⟨bound, refuses⟩
  let amount : Amount := ⟨max bound 0, le_max_right bound 0⟩
  let config : ServiceConfig := { segmentPrefix := ⟨"segment", by decide⟩ }
  refine @not_refused_irreversiblePayment _ config {} amount (fun _ => rfl) rfl
    ⟨"reference-v0.1.0", by decide⟩ rfl rfl ?_
  exact refuses _ _ _ _ (scoredService config {}) openWorld sampleCredential
    (irreversiblePayment amount) { decisionId := some "decision-1" } (paymentEvaluation amount)
    amount rfl rfl prepare_irreversiblePayment rfl rfl (le_max_left bound 0)
    (@noOtherDenial_irreversiblePayment _ _ _ amount (fun _ => rfl) rfl
      ⟨"reference-v0.1.0", by decide⟩ rfl)

end DecisionService

end GlassBox
