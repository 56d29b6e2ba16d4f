import GlassBox.Adapters.Memory.Decisioning
import GlassBox.Adapters.Memory.Policy
import GlassBox.App.ToolPath
import GlassBox.Domain.Grants

/-!
# An amount which is withheld

Two requests, of which one states the amount and the other leaves it out.  To a mandate an unknown
amount is above every ceiling.  The baseline stage skips an action without an amount, and a rule
with a monetary ceiling does not match it, so both may refuse what they otherwise pass.
-/

namespace GlassBox

open EStateM
open Except (bind_eq_ok_iff)
open ExposureRule (numericField integerField extract)

section Parameters

variable {front back : List (String × Value)} {field : String} {value : Value}

theorem lookup_supplied_ne {name : String} (other : name ≠ field) :
    (front ++ (field, value) :: back).lookup name = (front ++ back).lookup name := by
  have missed : (name == field) = false := beq_false_of_ne other
  rw [List.lookup_append, List.lookup_append, List.lookup_cons, missed]

theorem mem_supplied {entry : String × Value} (member : entry ∈ front ++ (field, value) :: back) :
    entry = (field, value) ∨ entry ∈ front ++ back := by
  simpa [or_left_comm] using member

variable (distinct : ((front ++ (field, value) :: back).map Prod.fst).Nodup)
include distinct

theorem nodup_field_withheld : (field :: (front ++ back).map Prod.fst).Nodup := by
  rw [List.map_append, List.map_cons, List.nodup_middle, ← List.map_append] at distinct
  exact distinct

theorem lookup_withheld : (front ++ back).lookup field = none := by
  rw [List.lookup_eq_none_iff]
  intro entry member
  have other : field ≠ entry.1 := fun same =>
    (List.nodup_cons.mp (nodup_field_withheld distinct)).1 (same ▸ List.mem_map_of_mem member)
  exact bne_iff_ne.mpr other

theorem lookup_supplied : (front ++ (field, value) :: back).lookup field = some value := by
  have missing := lookup_withheld distinct
  rw [List.lookup_append, Option.or_eq_none_iff] at missing
  rw [List.lookup_append, missing.1, List.lookup_cons_self]
  rfl

end Parameters

def Value.isNonNegative : Value → Bool
  | .int value => 0 ≤ value
  | .float (.finite value) => 0 ≤ value
  | .float .posInf => true
  | _ => false

def Value.amount : Value → Option Amount
  | .int value => if nonneg : 0 ≤ value then some ⟨value, by exact_mod_cast nonneg⟩ else Option.none
  | .float (.finite value) => if nonneg : 0 ≤ value then some ⟨value, nonneg⟩ else Option.none
  | _ => Option.none

theorem isCanonical_of_amount {value : Value} {amount : Amount}
    (stated : value.amount = some amount) : value.isCanonical = true := by
  unfold Value.amount at stated
  split at stated
  · rfl
  · rfl
  · cases stated

namespace Exposure

/-- What is unknown in the first exposure may be known in the second one. -/
structure Quantifies (unknown known : Exposure) : Prop where
  blastRadius : known.blastRadius = unknown.blastRadius
  monetary : unknown.monetary = none ∨ known.monetary = unknown.monetary
  records : unknown.records = none ∨ known.records = unknown.records

theorem Quantifies.within {unknown known : Exposure} (quantifies : unknown.Quantifies known) :
    known.exceeds unknown = false := by
  rw [exceeds_eq_false_iff]
  refine ⟨quantifies.blastRadius.symm ▸ le_refl _, fun bound stated => ?_, fun bound stated => ?_⟩
  · rcases quantifies.monetary with missing | same
    · simp [missing] at stated
    · exact ⟨bound, same ▸ stated, le_refl _⟩
  · rcases quantifies.records with missing | same
    · simp [missing] at stated
    · exact ⟨bound, same ▸ stated, le_refl _⟩

theorem requireAmount_eq_ok_iff [Runtime] {number : PyFloat} {field : String} {amount : Amount} :
    (do
      let finite ← requireFinite number field
      requireNonNegative finite field) = .ok amount ↔ .finite amount.val = number := by
  rw [bind_eq_ok_iff]
  constructor
  · rintro ⟨finite, finite_eq, accepted⟩
    unfold requireNonNegative at accepted
    split at accepted
    next =>
      cases accepted
      cases number <;> cases finite_eq
      rfl
    next => cases accepted
  · rintro rfl
    exact ⟨amount.val, rfl, dif_pos amount.property⟩

/-- An exposure is made of the magnitudes it was given. -/
theorem make_eq_ok_iff [Runtime] {radius : BlastRadius} {monetary : Option PyFloat}
    {records : Option Int} {exposure : Exposure} :
    make radius monetary records = .ok exposure ↔ exposure.blastRadius = radius ∧
      exposure.monetary.map (fun amount => .finite amount.val) = monetary ∧
      exposure.records.map (fun count : Nat => (count : Int)) = records := by
  have amounts : ∀ amount : Option Amount, (monetary.mapM fun value => do
      let number ← requireFinite value "monetary"
      requireNonNegative number "monetary") = .ok amount ↔
      amount.map (fun amount => .finite amount.val) = monetary := by
    intro amount
    cases monetary with
    | none => cases amount <;> simp [Option.mapM, Pure.pure, Except.pure]
    | some number =>
      refine Except.map_eq_ok_iff.trans ?_
      simp only [requireAmount_eq_ok_iff]
      cases amount <;> simp
  unfold make
  rw [bind_eq_ok_iff]
  simp only [amounts]
  constructor
  · rintro ⟨amount, rfl, made⟩
    cases records with
    | none =>
      cases made
      exact ⟨rfl, rfl, rfl⟩
    | some count =>
      dsimp only at made
      split at made
      next => cases made
      next nonneg =>
        cases made
        exact ⟨rfl, rfl, congrArg some (Int.toNat_of_nonneg (not_lt.mp nonneg))⟩
  · rintro ⟨rfl, rfl, rfl⟩
    refine ⟨exposure.monetary, rfl, ?_⟩
    obtain ⟨radius, amount, records⟩ := exposure
    cases records with
    | none => rfl
    | some count => exact if_neg (not_lt.mpr (Int.natCast_nonneg count))

end Exposure

section Supplied

variable {rule : ExposureRule} {field : Identifier} {front back : List (String × Value)}
  {value : Value} {exposure : Exposure}

theorem numericField_supplied
    (distinct : ((front ++ (field.val, value) :: back).map Prod.fst).Nodup)
    (number : value.isNonNegative = true) :
    numericField (front ++ (field.val, value) :: back) (some field) =
      some ((value.amount.map fun amount => .finite amount.val).getD .posInf) := by
  unfold numericField
  rw [Option.bind_some, lookup_supplied distinct]
  cases value with
  | int amount =>
    have nonneg : 0 ≤ amount := by simpa [Value.isNonNegative] using number
    simp [Value.amount, nonneg]
  | float amount =>
    cases amount with
    | finite amount =>
      have nonneg : 0 ≤ amount := by simpa [Value.isNonNegative] using number
      simp [Value.amount, nonneg]
    | posInf => rfl
    | nan | negInf => cases number
  | none | bool | str | enum | bytes | mapping | set | list | tuple | object => cases number

theorem exists_records_supplied
    (distinct : ((front ++ (field.val, value) :: back).map Prod.fst).Nodup)
    (number : value.isNonNegative = true)
    (extracted : exposure.records.map (fun count : Nat => (count : Int)) =
      integerField (front ++ back) rule.recordsField) :
    ∃ records : Option Nat, records.map (fun count : Nat => (count : Int)) =
        integerField (front ++ (field.val, value) :: back) rule.recordsField ∧
      (exposure.records = none ∨ records = exposure.records) := by
  unfold integerField at extracted ⊢
  cases counted : rule.recordsField with
  | none =>
    rw [counted] at extracted
    exact ⟨none, rfl, .inl (by simpa using extracted)⟩
  | some name =>
    rw [counted, Option.bind_some] at extracted
    rw [Option.bind_some]
    by_cases same : name.val = field.val
    · rw [same, lookup_withheld distinct] at extracted
      rw [same, lookup_supplied distinct]
      have unknown : exposure.records = none := by simpa using extracted
      cases value with
      | int count =>
        have nonneg : 0 ≤ count := by simpa [Value.isNonNegative] using number
        exact ⟨some count.toNat, congrArg some (Int.toNat_of_nonneg nonneg), .inl unknown⟩
      | none | bool | float | str | enum | bytes | mapping | set | list | tuple | object =>
        exact ⟨none, rfl, .inl unknown⟩
    · rw [lookup_supplied_ne same]
      exact ⟨exposure.records, extracted, .inr rfl⟩

variable [Runtime]

section

variable (distinct : ((front ++ (field.val, value) :: back).map Prod.fst).Nodup)
include distinct

section

variable (priced : rule.monetaryField = some field)
include priced

theorem monetary_withheld
    (extracted : rule.extract (front ++ back) = .ok exposure) : exposure.monetary = none := by
  have withheld : numericField (front ++ back) rule.monetaryField = none := by
    simp [numericField, priced, lookup_withheld distinct]
  rw [extract, withheld, Exposure.make_eq_ok_iff] at extracted
  simpa using extracted.2.1

theorem monetary_supplied (number : value.isNonNegative = true) {known : Exposure}
    (extracted : rule.extract (front ++ (field.val, value) :: back) = .ok known) :
    ∃ amount, value.amount = some amount ∧ known.monetary = some amount := by
  rw [extract, priced, numericField_supplied distinct number, Exposure.make_eq_ok_iff] at extracted
  obtain ⟨amount, monetary, finite⟩ := Option.map_eq_some_iff.mp extracted.2.1
  cases stated : value.amount with
  | none =>
    rw [stated] at finite
    cases finite
  | some other =>
    rw [stated] at finite
    simp only [Option.map_some, Option.getD_some, PyFloat.finite.injEq] at finite
    exact ⟨other, rfl, by rw [monetary, Subtype.ext finite]⟩

theorem extract_supplied (number : value.isNonNegative = true)
    (extracted : rule.extract (front ++ back) = .ok exposure) {amount : Amount}
    (stated : value.amount = some amount) :
    ∃ known : Exposure, exposure.Quantifies known ∧ known.monetary = some amount ∧
      rule.extract (front ++ (field.val, value) :: back) = .ok known := by
  have unknown := monetary_withheld distinct priced extracted
  obtain ⟨radius, -, records⟩ := Exposure.make_eq_ok_iff.mp extracted
  obtain ⟨records, records_eq, compatible⟩ := exists_records_supplied distinct number records
  refine ⟨⟨exposure.blastRadius, some amount, records⟩, ⟨rfl, .inl unknown, compatible⟩, rfl, ?_⟩
  rw [extract, priced, numericField_supplied distinct number, stated, Exposure.make_eq_ok_iff]
  exact ⟨radius, rfl, records_eq⟩

end

end

end Supplied

namespace InMemoryBaselineStore

variable [Runtime]

/-- The store has samples to compare an observation with, and the observation is not far from
them. -/
def Usual (store : InMemoryBaselineStore) (key : BaselineKey) (peerGroup : Identifier)
    (observation threshold now : ℚ) : Prop :=
  let effective := store.effectiveKey key peerGroup
  store.samples effective.canonicalKey ≠ [] ∧ 0 ≤ threshold ∧
    ∃ baseline, Baseline.summarise effective (store.samples effective.canonicalKey) now =
      .ok baseline ∧ exceedsThreshold threshold (baseline.zScore observation) = false

/-- The store can hold a sample of the key. -/
def HasRoom (store : InMemoryBaselineStore) (key : BaselineKey) : Prop :=
  key.canonicalKey ∈ store.observations ∨ 0 < store.maxSubjects

section Evaluate

variable {store : InMemoryBaselineStore} {next : InMemoryBaselineStore → Prop}
  {raises : PyError → InMemoryBaselineStore → Prop}
  (refuses : ∀ error, error.cls = .domainValidationError → ¬ raises error store)
include refuses

omit [Runtime] in
theorem ends_makeVerdict {anomalous : Bool} {key : BaselineKey} {observation : ℚ}
    {zScore : PyFloat} {threshold : ℚ} {count : Nat} {prior : Bool} :
    (ofExcept (BaselineVerdict.make anomalous key observation zScore threshold count prior) :
      EStateM PyError InMemoryBaselineStore BaselineVerdict).Ends store
      (fun verdict after => verdict.anomalous = false ∧ next after) raises ↔
      0 ≤ threshold ∧ anomalous = false ∧ next store := by
  unfold BaselineVerdict.make requireNonNegative
  by_cases nonneg : 0 ≤ threshold
  · simp [nonneg, Bind.bind, Except.bind, Pure.pure, Except.pure]
  · simpa [nonneg, Bind.bind, Except.bind] using refuses _ rfl

theorem ends_evaluate (up : store.available = true) {key : BaselineKey} {observation : ℚ}
    {peerGroup : Identifier} {threshold now : ℚ} :
    (evaluate key observation peerGroup threshold now).Ends store
      (fun verdict after => verdict.anomalous = false ∧ next after) raises ↔
      store.Usual key peerGroup observation threshold now ∧ next store := by
  simp only [evaluate, requireAvailable, ends_bind, ends_get, up, if_true, ends_pure, Usual]
  cases store.samples (store.effectiveKey key peerGroup).canonicalKey with
  | nil =>
    rw [ends_makeVerdict refuses]
    simp
  | cons sample rest =>
    rw [ends_bind, ends_ofExcept]
    cases summarised : Baseline.summarise (store.effectiveKey key peerGroup) (sample :: rest)
        now with
    | error error =>
      obtain refused | ⟨_, -, summarised⟩ := Except.bind_eq_error_iff.mp summarised
      · simpa using refuses error (cls_of_requireTimestamp refused)
      · cases summarised
    | ok baseline =>
      dsimp only
      rw [ends_makeVerdict refuses]
      simp [and_assoc]

end Evaluate

theorem ends_observe {store : InMemoryBaselineStore} (up : store.available = true)
    {key : BaselineKey} {observation : ℚ} :
    (observe key observation).Ends store (fun _ _ => True) (fun _ _ => False) ↔
      store.HasRoom key := by
  simp only [observe, requireAvailable, ends_bind, ends_get, up, if_true,
    ends_pure, ends_modify, HasRoom]
  rw [← @AList.lookup_touch_isSome _ _ _ store.maxSubjects key.canonicalKey [] store.observations]
  cases AList.lookup key.canonicalKey
      (AList.touch store.maxSubjects key.canonicalKey [] store.observations) <;> simp

end InMemoryBaselineStore

def ProposedAction.revalued (action : ProposedAction) (exposure : Exposure)
    (parameters : List (String × Value)) : ProposedAction :=
  { action with exposure, parameters }

def ProposedAction.atAmount (action : ProposedAction) (amount : Amount) : ProposedAction :=
  action.revalued { action.exposure with monetary := some amount } action.parameters

/-- A policy sees no more of the exposure than the amount. -/
theorem DeclarativePolicyDecisionPoint.permits_revalued_iff [Runtime]
    {point : DeclarativePolicyDecisionPoint} {tenantId : Identifier} {action : ProposedAction}
    {exposure : Exposure} {parameters : List (String × Value)} {amount : Amount}
    (priced : exposure.monetary = some amount) :
    point.Permits tenantId (action.revalued exposure parameters) ↔
      point.Permits tenantId (action.atAmount amount) := by
  have matching : ∀ bundle : PolicyBundle,
      bundle.matchingRule (action.revalued exposure parameters) =
      bundle.matchingRule (action.atAmount amount) := by
    intro bundle
    unfold PolicyBundle.matchingRule PolicyRule.matches ProposedAction.atAmount
      ProposedAction.revalued
    simp only [priced]
  simp only [Permits, matching]

namespace DecisionService

section Calls

variable [Runtime] {ρ ε ℓ : Type} {runtime : GovernanceRuntime ρ ε ℓ InMemoryBaselineStore}
  {action : ProposedAction} {mandate : Mandate} {now : ℚ} {known : Exposure}

/-- The in-memory baseline store has no objection to an amount of an agent's action. -/
def TakesAmount (config : ServiceConfig) (principal : VerifiedPrincipal) (action : ProposedAction)
    (amount : Amount) (now : ℚ) (store : InMemoryBaselineStore) : Prop :=
  if store.available then
    store.Usual (baselineKeyFor principal) action.action amount.val config.anomalyThreshold now ∧
      store.HasRoom (baselineKeyFor principal)
  else action.consequence.mayDegradeOnDependencyFailure = true

theorem unremarkable_iff (memory : runtime.baselineStore = InMemoryBaselineStore.port)
    {call : Evaluation} {amount : Amount} (priced : call.action.exposure.monetary = some amount)
    (store : InMemoryBaselineStore) :
    Unremarkable runtime call store ↔
      TakesAmount runtime.config call.principal call.action amount call.now store := by
  simp only [Unremarkable, checkBaseline, priced, memory, InMemoryBaselineStore.port,
    ends_bind, ends_attempt, TakesAmount]
  split
  next up =>
    have refuses : ∀ error : PyError, error.cls = .domainValidationError →
        ¬ (error.isA .baselineStoreUnavailable = true ∧
          (baselineUnavailable call.action).denial = none) := by
      intro error refused
      simp [PyError.isA, refused, ErrorClass.ancestors]
    rw [← @InMemoryBaselineStore.ends_observe _ store up (baselineKeyFor call.principal) amount.val]
    refine Iff.trans ?_ (@InMemoryBaselineStore.ends_evaluate _ store
      (fun after => (InMemoryBaselineStore.observe (baselineKeyFor call.principal)
        amount.val).Ends after (fun _ _ => True) fun _ _ => False)
      (fun error _ => error.isA .baselineStoreUnavailable = true ∧
        (baselineUnavailable call.action).denial = none) refuses up ..)
    refine ends_congr (fun verdict after => ?_) fun error after => ?_
    · cases verdict.anomalous <;> simp [StageResult.denied, StageResult.passed]
    · simp
  next down =>
    have degrades : (baselineUnavailable call.action).denial = none ↔
        call.action.consequence.mayDegradeOnDependencyFailure = true := by
      unfold baselineUnavailable
      split <;> simp [*, StageResult.skipped, StageResult.failed]
    rw [← degrades]
    simp [InMemoryBaselineStore.evaluate, InMemoryBaselineStore.requireAvailable, down,
      PyError.isA, ErrorClass.ancestors]

theorem passes_judgeMandate_iff :
    Passes (judgeMandate mandate action now) ↔
      ∃ moment : Timestamp, moment.val = now ∧ mandate.denialReasons action moment = [] := by
  constructor
  · rintro ⟨result, judged, clear⟩
    obtain ⟨verdict, permits, judged⟩ := bind_eq_ok_iff.mp judged
    obtain ⟨moment, moment_eq, permits⟩ := bind_eq_ok_iff.mp permits
    cases permits
    split at judged
    next permitted =>
      exact ⟨moment, requireTimestamp_eq_ok_iff.mp moment_eq, List.isEmpty_iff.mp permitted⟩
    next =>
      obtain ⟨rationale, -, judged⟩ := bind_eq_ok_iff.mp judged
      cases judged
      cases clear
  · rintro ⟨moment, moment_eq, unobjected⟩
    refine ⟨.passed .mandate, bind_eq_ok_iff.mpr ⟨_, bind_eq_ok_iff.mpr
      ⟨moment, requireTimestamp_eq_ok_iff.mpr moment_eq, rfl⟩, ?_⟩, rfl⟩
    exact if_pos (List.isEmpty_iff.mpr unobjected)

theorem Passes.checkMandate_revalued {queries : Queries ρ} {environment : ρ}
    {principal : VerifiedPrincipal} (quantifies : action.exposure.Quantifies known)
    (parameters : List (String × Value))
    (passes : Passes (checkMandate queries environment principal action now)) :
    Passes (checkMandate queries environment principal (action.revalued known parameters) now) := by
  obtain ⟨result, checked, clear⟩ := passes
  obtain ⟨answer, asked, checked⟩ := bind_eq_ok_iff.mp checked
  cases answer with
  | none => exact ⟨result, bind_eq_ok_iff.mpr ⟨none, asked, checked⟩, clear⟩
  | some found =>
    cases found with
    | none => exact ⟨result, bind_eq_ok_iff.mpr ⟨some none, asked, checked⟩, clear⟩
    | some mandate =>
      obtain ⟨revoked, revoked_eq, checked⟩ := bind_eq_ok_iff.mp checked
      cases revoked with
      | none =>
        exact ⟨result, bind_eq_ok_iff.mpr ⟨some (some mandate), asked,
          bind_eq_ok_iff.mpr ⟨none, revoked_eq, checked⟩⟩, clear⟩
      | some revoked =>
        cases revoked with
        | true =>
          cases checked
          cases clear
        | false =>
          obtain ⟨moment, moment_eq, unobjected⟩ :=
            passes_judgeMandate_iff.mp ⟨result, checked, clear⟩
          rw [Mandate.denialReasons_eq_nil_iff] at unobjected
          have unobjected' : mandate.denialReasons (action.revalued known parameters) moment = [] :=
            Mandate.denialReasons_eq_nil_iff.mpr { unobjected with
              exposure := Exposure.exceeds_trans quantifies.within unobjected.exposure }
          obtain ⟨result', checked', clear'⟩ :=
            passes_judgeMandate_iff.mpr ⟨moment, moment_eq, unobjected'⟩
          exact ⟨result', bind_eq_ok_iff.mpr ⟨some (some mandate), asked,
            bind_eq_ok_iff.mpr ⟨some false, revoked_eq, checked'⟩⟩, clear'⟩

omit [Runtime] in
/-- The reference engine rates an action by its consequence class. -/
theorem computeRisk_revalued {queries : Queries ρ} {environment : ρ}
    {engine : ReferenceRiskEngine} (reference : queries.score environment = engine.score)
    {action : ProposedAction} {now : ℚ} {risk : RiskScore} {result : StageResult}
    (computed : computeRisk queries environment action now = .ok (risk, result))
    (clear : result.denial = none) (exposure : Exposure) (parameters : List (String × Value)) :
    ∃ risk' result', computeRisk queries environment (action.revalued exposure parameters) now =
        .ok (risk', result') ∧ result'.denial = none ∧ risk'.value = risk.value ∧
      (Value.record risk'.asEvidence).isCanonical = true := by
  obtain ⟨evaluatedAt, evaluatedAt_eq, computed⟩ := bind_eq_ok_iff.mp computed
  obtain ⟨answer, asked, computed⟩ := bind_eq_ok_iff.mp computed
  cases answer with
  | none =>
    cases computed
    cases clear
  | some score =>
    cases computed
    have scored := Except.attempt_eq_some_iff.mp asked
    rw [reference] at scored
    let inputs : RiskInputs := {
      consequence := action.consequence
      exposure := exposure
      evaluatedAt := evaluatedAt
      factors_nodup := by simp }
    obtain ⟨risk', scored', same, inputs_eq⟩ :=
      @ReferenceRiskEngine.exists_score engine _ _ inputs scored rfl rfl
    refine ⟨risk', .passed .risk, bind_eq_ok_iff.mpr ⟨evaluatedAt, evaluatedAt_eq,
      bind_eq_ok_iff.mpr ⟨some risk', Except.attempt_eq_some_iff.mpr ?_, rfl⟩⟩, rfl, same,
      ?_⟩
    · rw [reference]
      exact scored'
    · exact RiskScore.isCanonical_asEvidence (by rw [inputs_eq]) (by rw [inputs_eq])

theorem checkRiskThreshold_of_value {config : ServiceConfig} {risk risk' : RiskScore}
    (same : risk'.value = risk.value) (below : checkRiskThreshold config risk = none) :
    checkRiskThreshold config risk' = none := by
  have exceeds : risk'.exceeds config.denyLevel = risk.exceeds config.denyLevel := by
    unfold RiskScore.exceeds RiskScore.level
    rw [same]
  unfold checkRiskThreshold at below ⊢
  split at below
  next => cases below
  next other => exact if_neg (by rwa [exceeds])

/-- The call for the action at another exposure, with other parameters. -/
def revalued (call : Evaluation) (exposure : Exposure) (parameters : List (String × Value)) :
    Evaluation :=
  { call with action := call.action.revalued exposure parameters }

/-- The service runs with the in-memory baseline store, a declarative policy decision point and a
reference risk engine. -/
structure Wired (runtime : GovernanceRuntime ρ ε ℓ InMemoryBaselineStore) (environment : ρ)
    (policy : DeclarativePolicyDecisionPoint) (engine : ReferenceRiskEngine) : Prop where
  baselines : runtime.baselineStore = InMemoryBaselineStore.port
  policies : runtime.queries.decide environment = policy.decide
  risks : runtime.queries.score environment = engine.score

section Revalued

variable {policy : DeclarativePolicyDecisionPoint} {engine : ReferenceRiskEngine}
  {before : World ρ ε ℓ InMemoryBaselineStore} {call : Evaluation} {exposure : Exposure}
  {parameters : List (String × Value)} {amount : Amount} {decision : AuthorizationDecision}
  {risk : RiskScore} {verdict : Option LimitVerdict}

/-- Only the policy and the baseline stage may object to a call because more is known about it. -/
theorem Cleared.revalued (wired : Wired runtime before.environment policy engine)
    (cleared : Cleared runtime call before decision risk verdict)
    (quantifies : call.action.exposure.Quantifies exposure)
    (priced : exposure.monetary = some amount)
    (permits : policy.Permits call.principal.tenantId (call.action.revalued exposure parameters))
    (takes : TakesAmount runtime.config call.principal call.action amount call.now
      before.charges.baselines) :
    ∃ decision' risk',
      Cleared runtime (revalued call exposure parameters) before decision' risk' verdict ∧
      (Value.record decision'.asEvidence).isCanonical = true ∧
      (Value.record risk'.asEvidence).isCanonical = true := by
  obtain ⟨request, outcome, requested, -⟩ := cleared.policy
  obtain ⟨decisionId, principal, action, now, attributes⟩ :=
    AuthorizationRequest.make_eq_ok_iff.mp requested
  have same_tenant : request.principal.tenantId =
      (call.action.revalued exposure parameters).tenantId := by
    rw [request.same_tenant, action]
    rfl
  let request' : AuthorizationRequest :=
    { request with action := call.action.revalued exposure parameters, same_tenant }
  have requested' : AuthorizationRequest.make call.decisionId call.principal
      (call.action.revalued exposure parameters) call.now = .ok request' :=
    AuthorizationRequest.make_eq_ok_iff.mpr ⟨decisionId, principal, rfl, now, attributes⟩
  have permits' : policy.Permits request'.principal.tenantId request'.action := by
    rw [show request'.principal = call.principal from principal]
    exact permits
  obtain ⟨decision', decided, allowed, unconditional⟩ :=
    DeclarativePolicyDecisionPoint.exists_allow permits'
  rw [← wired.policies] at decided
  have undenied : decision'.effect ≠ .deny := by
    rw [allowed]
    decide
  obtain ⟨outcome', checked⟩ := (checkPolicy_iff undenied).mpr decided
  obtain ⟨result, computed, clear⟩ := cleared.assessed
  obtain ⟨risk', result', computed', clear', same, canonical⟩ :=
    computeRisk_revalued wired.risks computed clear exposure parameters
  refine ⟨decision', risk', ⟨⟨⟨cleared.registered, cleared.catalogued, cleared.identified,
    cleared.switched, cleared.mandated.checkMandate_revalued quantifies parameters⟩,
    ⟨request', outcome', requested', checked⟩, ⟨result', computed', clear'⟩, ?_⟩,
    ⟨allowed, ?_, cleared.dispatches.2.2⟩, cleared.admitted,
    (unremarkable_iff wired.baselines priced _).mpr takes⟩,
    AuthorizationDecision.isCanonical_asEvidence unconditional, canonical⟩
  · exact checkRiskThreshold_of_value same cleared.threshold
  · rw [AuthorizationDecision.blockingObligations, unconditional, List.filter_nil]

theorem Cleared.permits (wired : Wired runtime before.environment policy engine)
    (cleared : Cleared runtime call before decision risk verdict)
    (priced : call.action.exposure.monetary = some amount) :
    policy.Permits call.principal.tenantId call.action ∧
      TakesAmount runtime.config call.principal call.action amount call.now
        before.charges.baselines := by
  obtain ⟨allowed, -, -⟩ := cleared.dispatches
  obtain ⟨request, outcome, requested, checked⟩ := cleared.policy
  obtain ⟨-, principal, action, -, -⟩ := AuthorizationRequest.make_eq_ok_iff.mp requested
  have decided := (checkPolicy_iff cleared.effect_ne_deny).mp ⟨outcome, checked⟩
  rw [wired.policies] at decided
  refine ⟨?_, (unremarkable_iff wired.baselines priced _).mp cleared.unremarkable⟩
  rw [← principal, ← action]
  exact DeclarativePolicyDecisionPoint.permits_of_allow decided allowed

end Revalued

section Supplied

variable {front back : List (String × Value)} {field : Identifier} {value : Value}

/-- A number holds no text, trusted or not. -/
theorem scan_supplied (definition : ActionDefinition)
    (distinct : ((front ++ (field.val, value) :: back).map Prod.fst).Nodup)
    (number : value.isNonNegative = true) :
    scanUntrustedTextFields definition (front ++ (field.val, value) :: back) =
      scanUntrustedTextFields definition (front ++ back) := by
  refine List.filter_congr fun name _ => ?_
  by_cases same : name.val = field.val
  · rw [same, lookup_supplied distinct, lookup_withheld distinct]
    cases value with
    | int | float => simp [scanFlagged, flattenTextValues]
    | none | bool | str | enum | bytes | mapping | set | list | tuple | object => cases number
  · rw [lookup_supplied_ne same]

omit [Runtime] in
theorem isCanonical_redacted {parameters : List (String × Value)}
    (given : action.parameters = sortEntries parameters)
    (distinct : (parameters.map Prod.fst).Nodup) (fields : List String) :
    (Value.record (action.withRedactedParameters fields).asEvidence).isCanonical = true ↔
      ∀ entry ∈ parameters, entry.1 ∈ fields ∨ entry.2.isCanonical = true := by
  have permuted : (sortEntries parameters).Perm parameters := List.perm_insertionSort _ _
  have keys : (action.withRedactedParameters fields).parameters.map Prod.fst =
      (sortEntries parameters).map Prod.fst := by
    simp only [ProposedAction.withRedactedParameters, given, List.map_map]
    refine List.map_congr_left fun entry _ => ?_
    simp only [Function.comp_apply]
    split <;> rfl
  rw [ProposedAction.isCanonical_asEvidence, dictOf_of_nodup
    (by rw [keys]; exact (permuted.map Prod.fst).nodup_iff.mpr distinct), isCanonical_record]
  simp only [ProposedAction.withRedactedParameters, given, List.forall_mem_map, permuted.mem_iff]
  refine forall₂_congr fun entry _ => ?_
  by_cases sensitive : entry.1 ∈ fields <;> simp [sensitive]

variable {policy : DeclarativePolicyDecisionPoint} {engine : ReferenceRiskEngine}
  {before : World ρ ε ℓ InMemoryBaselineStore} {definition : ActionDefinition}
  {credential : RawCredential} {principal : VerifiedPrincipal} {actionName key : String}
  {resource : ResourceRef} {options : CallOptions} {action : ProposedAction}

end Supplied

end Calls

/-- The parameter which states the price. -/
def amountField : Identifier := ⟨"amount", by decide⟩

def pricedDefinition : ActionDefinition :=
  { readDefinition [] List.nodup_nil with exposureRule := { monetaryField := some amountField } }

/-- A bundle of the sample tenant with one rule, which allows everything. -/
def permissiveBundle : SignedPolicyBundle where
  bundle := {
    bundleId := Sample.bundle
    tenantId := acme
    version := 1
    createdAt := Timestamp.epoch
    rules := [{
      name := ⟨"anything", by decide⟩
      effect := .allow
      actionPattern := Sample.everything
      resourcePattern := Sample.everything }]
    rules_length := by decide
    names_nodup := by simp
    rules_sorted := by simp }
  mac := Sample.mac
  signerKeyId := Sample.key

def permissivePolicy : DeclarativePolicyDecisionPoint where
  bundles := fun tenantId => if tenantId = acme.val then some permissiveBundle else none

/-- The sample service with a priced action, a decision point and a risk engine. -/
def pricedService [Runtime] : MemoryRuntime SampleEnvironment :=
  let service := governedService pricedDefinition
  { service with
    queries := { service.queries with
      decide := fun _ => permissivePolicy.decide
      score := fun _ => ({} : ReferenceRiskEngine).score } }

def pricedRequest (parameters : List (String × Value)) : Entry :=
  .decideAndDispatchForRequest sampleCredential "read" (sampleRequest parameters) {}

/-- The sample world in which the peers of the agent have read at one price. -/
def pricedWorld (prices : List ℚ) : MemoryWorld SampleEnvironment :=
  let peers := (baselineKeyFor samplePrincipal).peerGroupFallback pricedDefinition.action
  { sampleWorld 0 with
    charges := ⟨{}, { observations := (∅ : AList _).insert peers.canonicalKey prices }⟩ }

def isPricedDispatch {ε : Type} : Event ε → Bool
  | .dispatched action .. => action.action = pricedDefinition.action
  | _ => false

attribute [local instance] plainRuntime

end DecisionService

end GlassBox
