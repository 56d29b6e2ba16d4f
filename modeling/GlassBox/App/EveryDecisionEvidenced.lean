import GlassBox.App.Dispatching

/-!
# Every governed decision leaves evidence

A governed call whose ports answer, or raise the error they document, hands one record to the
evidence store.  The stages do not catch an error of the later calls: the observation after a
comparison, and the release of the budget after a denial.
-/

namespace GlassBox

open EStateM
open Except (bind_eq_ok_iff exists_attempt_iff)

namespace DecisionService

section Asking

variable [Runtime] {ρ : Type} {queries : Queries ρ} {environment : ρ} {call : Evaluation}
  {moment : Timestamp}

/-- The ports which only answer questions raise nothing but the error they document. -/
structure QueriesDocumented (queries : Queries ρ) (environment : ρ) : Prop where
  globalSwitch : ∀ error, queries.isGloballyEngaged environment = .error error →
    error.isA .killSwitchUnavailableError = true
  tenantSwitch : ∀ tenantId error, queries.isTenantEngaged environment tenantId = .error error →
    error.isA .killSwitchUnavailableError = true
  mandate : ∀ tenantId agentRef now error,
    queries.getMandate environment tenantId agentRef now = .error error →
      error.isA .mandateError = true
  revocation : ∀ tenantId agentRef now error,
    queries.isRevoked environment tenantId agentRef now = .error error →
      error.isA .mandateError = true
  policy : ∀ request error, queries.decide environment request = .error error →
    error.isA .policyBundleUnavailableError = true
  risk : ∀ inputs error, queries.score environment inputs = .error error →
    error.isA .riskModelUnavailableError = true

/-- The identity verifier, where it is asked about an assertion, answers or raises an identity
error. -/
def AssertionAnswered (queries : Queries ρ) (environment : ρ) (call : Evaluation) : Prop :=
  call.toolRegistry.denial = none → call.catalogue.denial = none →
    ∀ error, queries.assertMatchesAssertion environment call.principal call.assertedTenantId
      call.assertedSubject = .error error → error.isA .identityError = true

omit [Runtime] in
theorem exists_checkIdentityAssertion_iff :
    (∃ result, checkIdentityAssertion queries environment call = .ok result) ↔
      ∀ error, queries.assertMatchesAssertion environment call.principal call.assertedTenantId
        call.assertedSubject = .error error → error.isA .identityError = true := by
  rw [← exists_attempt_iff]
  constructor
  · rintro ⟨result, checked⟩
    obtain ⟨answer, answered, -⟩ := bind_eq_ok_iff.mp checked
    exact ⟨answer, answered⟩
  · rintro ⟨answer, answered⟩
    unfold checkIdentityAssertion
    rw [answered]
    cases answer <;> exact ⟨_, rfl⟩

omit [Runtime] in
theorem exists_checkKillSwitch (documented : QueriesDocumented queries environment)
    (tenantId : Identifier) (action : ProposedAction) :
    ∃ result, checkKillSwitch queries environment tenantId action = .ok result := by
  unfold checkKillSwitch
  split
  · exact ⟨_, rfl⟩
  · obtain ⟨answer, answered⟩ : ∃ answer,
        attempt (PyError.isA · .killSwitchUnavailableError)
          (killSwitchEngaged queries environment tenantId) = .ok answer := by
      refine exists_attempt_iff.mpr fun error raised => ?_
      rcases Except.bind_eq_error_iff.mp raised with global | ⟨engaged, -, raised⟩
      · exact documented.globalSwitch error global
      · cases engaged with
        | true => cases raised
        | false => exact documented.tenantSwitch tenantId error raised
    rw [answered]
    rcases answer with _ | _ | _ <;> exact ⟨_, rfl⟩

theorem exists_judgeMandate (mandate : Mandate) (action : ProposedAction) (moment : Timestamp) :
    ∃ result, judgeMandate mandate action moment.val = .ok result := by
  obtain ⟨verdict, permits, detailed⟩ : ∃ verdict,
      mandate.permits action moment.val = .ok verdict ∧
        (¬ verdict.permitted = true → isBlank verdict.detail = false) := by
    refine ⟨_, bind_eq_ok_iff.mpr ⟨moment, requireTimestamp_eq_ok_iff.mpr rfl, rfl⟩, ?_⟩
    intro refused
    dsimp only at refused ⊢
    rw [if_neg refused]
    simp only [isBlank_append, show isBlank "action=" = false by decide, Bool.false_and]
  by_cases permitted : verdict.permitted = true
  · exact ⟨_, bind_eq_ok_iff.mpr ⟨verdict, permits, if_pos permitted⟩⟩
  · have stated := detailed permitted
    have given : verdict.detail ≠ "" := by
      intro empty
      rw [empty] at stated
      cases stated
    refine ⟨.denied .mandate .mandateExceeded ⟨verdict.detail, stated⟩,
      bind_eq_ok_iff.mpr ⟨verdict, permits, ?_⟩⟩
    rw [if_neg permitted, if_neg given]
    exact bind_eq_ok_iff.mpr ⟨⟨verdict.detail, stated⟩, dif_pos stated, rfl⟩

section

variable (documented : QueriesDocumented queries environment)
include documented

theorem exists_checkMandate
    (principal : VerifiedPrincipal) (action : ProposedAction) (moment : Timestamp) :
    ∃ result, checkMandate queries environment principal action moment.val = .ok result := by
  obtain ⟨found, found_eq⟩ := exists_attempt_iff.mpr
    (documented.mandate principal.tenantId principal.agentRef moment.val)
  obtain ⟨revoked, revoked_eq⟩ := exists_attempt_iff.mpr
    (documented.revocation principal.tenantId principal.agentRef moment.val)
  rcases found with _ | _ | mandate
  · exact ⟨_, bind_eq_ok_iff.mpr ⟨_, found_eq, rfl⟩⟩
  · exact ⟨_, bind_eq_ok_iff.mpr ⟨_, found_eq, rfl⟩⟩
  · refine Exists.imp (fun result judged => bind_eq_ok_iff.mpr ⟨_, found_eq,
      bind_eq_ok_iff.mpr ⟨_, revoked_eq, judged⟩⟩) ?_
    rcases revoked with _ | _ | _
    · exact ⟨_, rfl⟩
    · exact exists_judgeMandate mandate action moment
    · exact ⟨_, rfl⟩

omit [Runtime] in
theorem exists_checkPolicy (request : AuthorizationRequest) :
    ∃ result, checkPolicy queries environment request = .ok result := by
  obtain ⟨answer, answered⟩ := exists_attempt_iff.mpr (documented.policy request)
  cases answer <;> exact ⟨_, bind_eq_ok_iff.mpr ⟨_, answered, rfl⟩⟩

omit [Runtime] in
theorem exists_computeRisk (action : ProposedAction) (moment : Timestamp) :
    ∃ result, computeRisk queries environment action moment.val = .ok result := by
  obtain ⟨answer, answered⟩ := exists_attempt_iff.mpr
    (documented.risk ⟨action.consequence, action.exposure, moment, [], [], by simp⟩)
  have stamped := @requireTimestamp_eq_ok_iff moment.val "evaluated_at" moment |>.mpr rfl
  cases answer <;>
    exact ⟨_, bind_eq_ok_iff.mpr ⟨moment, stamped, bind_eq_ok_iff.mpr ⟨_, answered, rfl⟩⟩⟩

end

omit [Runtime] in
theorem Progress.exists_advance_iff {progress : Progress} {skip : StageOutcome}
    {check : Except PyError StageResult} :
    (∃ after, progress.advance skip check = .ok after) ↔
      (progress.denial = none → ∃ result, check = .ok result) := by
  constructor
  · rintro ⟨after, advanced⟩ clear
    obtain ⟨result, checked, -⟩ := Progress.of_advance clear advanced
    exact ⟨result, checked⟩
  · intro returns
    unfold Progress.advance
    cases denied : progress.denial with
    | some denial => exact ⟨_, rfl⟩
    | none =>
      obtain ⟨result, checked⟩ := returns denied
      exact ⟨_, bind_eq_ok_iff.mpr ⟨result, checked, rfl⟩⟩

theorem exists_preliminaries_iff (documented : QueriesDocumented queries environment)
    (now : moment.val = call.now) :
    (∃ progress, preliminaries queries environment call = .ok progress) ↔
      AssertionAnswered queries environment call := by
  constructor
  · rintro ⟨progress, ran⟩ registered catalogued
    obtain ⟨second, second_eq, ran⟩ := bind_eq_ok_iff.mp ran
    obtain ⟨third, third_eq, -⟩ := bind_eq_ok_iff.mp ran
    obtain ⟨_, ⟨⟩, rfl⟩ := Progress.of_advance registered second_eq
    obtain ⟨result, checked, -⟩ := Progress.of_advance catalogued third_eq
    exact exists_checkIdentityAssertion_iff.mp ⟨result, checked⟩
  · intro answered
    obtain ⟨second, second_eq⟩ := @Progress.exists_advance_iff
      ⟨[call.toolRegistry.outcome], call.toolRegistry.denial⟩
      (.skipped .catalogue ⟨"action already denied by tool registry", by decide⟩)
      (.ok call.catalogue) |>.mpr fun _ => ⟨_, rfl⟩
    obtain ⟨third, third_eq⟩ := @Progress.exists_advance_iff second
      (.skipped .identity ⟨"action already denied before identity check", by decide⟩)
      (checkIdentityAssertion queries environment call) |>.mpr fun clear => by
        obtain ⟨registered, _, ⟨⟩, catalogued⟩ := Progress.clears_iff.mp ⟨_, second_eq, clear⟩
        exact exists_checkIdentityAssertion_iff.mpr (answered registered catalogued)
    obtain ⟨fourth, fourth_eq⟩ := @Progress.exists_advance_iff third
      (.skipped .killSwitch ⟨"action already denied before identity check", by decide⟩)
      (checkKillSwitch queries environment call.principal.tenantId call.action) |>.mpr fun _ =>
        exists_checkKillSwitch documented _ _
    obtain ⟨last, last_eq⟩ := @Progress.exists_advance_iff fourth
      (.skipped .mandate ⟨"action already denied", by decide⟩)
      (checkMandate queries environment call.principal call.action call.now) |>.mpr fun _ =>
        now ▸ exists_checkMandate documented _ _ moment
    exact ⟨last, bind_eq_ok_iff.mpr ⟨second, second_eq, bind_eq_ok_iff.mpr
      ⟨third, third_eq, bind_eq_ok_iff.mpr ⟨fourth, fourth_eq, last_eq⟩⟩⟩⟩

theorem exists_authorise_iff (documented : QueriesDocumented queries environment)
    (config : ServiceConfig) (now : moment.val = call.now) {decisionId : Identifier}
    (identified : decisionId.val = call.decisionId)
    (sameTenant : call.action.tenantId = call.principal.tenantId) :
    (∃ authorised, authorise queries environment config call = .ok authorised) ↔
      AssertionAnswered queries environment call := by
  rw [← exists_preliminaries_iff documented now]
  constructor
  · rintro ⟨authorised, ran⟩
    obtain ⟨progress, prepared, -⟩ := bind_eq_ok_iff.mp ran
    exact ⟨progress, prepared⟩
  · rintro ⟨progress, prepared⟩
    obtain ⟨⟨decision, policy⟩, decided⟩ :
        ∃ result, policyStage queries environment call progress = .ok result := by
      unfold policyStage
      cases progress.denial with
      | some denial => exact ⟨_, rfl⟩
      | none =>
        obtain ⟨result, answered⟩ := exists_checkPolicy documented
          ⟨decisionId, call.principal, call.action, moment, [], sameTenant.symm⟩
        exact ⟨result, bind_eq_ok_iff.mpr ⟨_,
          AuthorizationRequest.make_eq_ok_iff.mpr ⟨identified, rfl, rfl, now, rfl⟩, answered⟩⟩
    obtain ⟨⟨risk, assessed⟩, computed⟩ := exists_computeRisk documented call.action moment
    rw [now] at computed
    exact ⟨_, bind_eq_ok_iff.mpr ⟨progress, prepared, bind_eq_ok_iff.mpr
      ⟨_, decided, bind_eq_ok_iff.mpr ⟨_, computed, rfl⟩⟩⟩⟩

end Asking

section Consuming

variable [Runtime] {ρ ε ℓ β : Type} (runtime : GovernanceRuntime ρ ε ℓ β)

/-- The stores which are charged raise nothing but the error they document. -/
structure StoresDocumented : Prop where
  consume : ∀ key amount decisionId now before error after,
    runtime.limitStore.tryConsume key amount decisionId now before = .error error after →
      error.isA .limitStoreUnavailable = true
  release : ∀ key decisionId before error after,
    runtime.limitStore.release key decisionId before = .error error after →
      error.isA .limitStoreUnavailable = true
  compare : ∀ key value peerGroup threshold now before error after,
    runtime.baselineStore.evaluate key value peerGroup threshold now before =
      .error error after → error.isA .baselineStoreUnavailable = true
  observe : ∀ key value now before error after,
    runtime.baselineStore.observe key value now before = .error error after →
      error.isA .baselineStoreUnavailable = true

/-- The limit stage lets the call pass; `verdict` is what the store answered, if it did. -/
def LimitsPass (call : Evaluation) (key : LimitKey) (before : ℓ) (verdict : Option LimitVerdict)
    (after : ℓ) : Prop :=
  attempt (PyError.isA · .limitStoreUnavailable)
      (runtime.limitStore.tryConsume key 1 call.decisionId call.now) before = .ok verdict after ∧
    ((verdict.map judgeLimit).getD (limitsUnavailable call.action)).denial = none

def compareBaseline (call : Evaluation) (amount : ℚ) : EStateM PyError β BaselineVerdict :=
  runtime.baselineStore.evaluate (baselineKeyFor call.principal) amount call.action.action
    runtime.config.anomalyThreshold call.now

/-- The baseline store objects to the call: its amount is anomalous, or the store does not answer
and the action may not degrade. -/
def Objects (call : Evaluation) (before : β) : Prop :=
  ∃ amount, call.action.exposure.monetary = some amount ∧
    (compareBaseline runtime call amount.val).Ends before
      (fun comparison _ => comparison.anomalous = true)
      (fun _ _ => call.action.consequence.mayDegradeOnDependencyFailure = false)

/-- The store takes the amount of the call, if it is compared and not found anomalous. -/
def Observable (call : Evaluation) (before : β) : Prop :=
  ∀ amount comparison baselines, call.action.exposure.monetary = some amount →
    compareBaseline runtime call amount.val before = .ok comparison baselines →
    comparison.anomalous = false →
    ∃ after, runtime.baselineStore.observe (baselineKeyFor call.principal) amount.val call.now
      baselines = .ok () after

/-- The later calls of the stages which consume state return, where they are reached. -/
structure ChargingAnswered (call : Evaluation) (before : Charges ℓ β) : Prop where
  /-- The configured window can be built. -/
  window : ∃ window, Window.make runtime.config.defaultWindowSeconds = .ok window
  /-- The amount of a call which passed the limits can be recorded. -/
  observes : ∀ key verdict limits,
    limitKeyFor runtime.config call.principal call.action = .ok key →
    LimitsPass runtime call key before.limits verdict limits →
    Observable runtime call before.baselines
  /-- The budget of a call which the baseline store objects to can be returned. -/
  releases : ∀ key verdict limits,
    limitKeyFor runtime.config call.principal call.action = .ok key →
    runtime.limitStore.tryConsume key 1 call.decisionId call.now before.limits =
      .ok verdict limits →
    verdict.admitted = true → Objects runtime call before.baselines →
    ∃ after, runtime.limitStore.release key call.decisionId limits = .ok () after

variable {runtime} {call : Evaluation} {key : LimitKey} {before : Charges ℓ β}

theorem ends_checkBaseline (documented : StoresDocumented runtime) (before : β) :
    (checkBaseline runtime call).Ends before
      (fun result _ => Observable runtime call before ∧
        (result.denial ≠ none ↔ Objects runtime call before))
      (fun _ _ => ¬ Observable runtime call before) := by
  unfold checkBaseline
  cases exposed : call.action.exposure.monetary with
  | none => simp [Observable, Objects, exposed, StageResult.skipped]
  | some amount =>
    simp only [ends_bind, ends_attempt]
    cases comparing : compareBaseline runtime call amount.val before with
    | error error baselines =>
      have known := documented.compare _ _ _ _ _ _ _ _ comparing
      refine (ends_of_error comparing).mpr ?_
      rw [if_pos known]
      refine ⟨?_, ?_⟩
      · rintro amount' comparison after same compared
        rw [exposed] at same
        cases same
        cases comparing.symm.trans compared
      · simp only [Objects, exposed, Option.some.injEq, exists_eq_left',
          ends_of_error comparing, baselineUnavailable]
        cases call.action.consequence.mayDegradeOnDependencyFailure <;>
          simp [StageResult.skipped, StageResult.failed]
    | ok comparison baselines =>
      refine (ends_of_ok comparing).mpr ?_
      have objects : Objects runtime call before ↔ comparison.anomalous = true := by
        simp only [Objects, exposed, Option.some.injEq, exists_eq_left', ends_of_ok comparing]
      have observable : Observable runtime call before ↔ (comparison.anomalous = false →
          ∃ after, runtime.baselineStore.observe (baselineKeyFor call.principal) amount.val
            call.now baselines = .ok () after) := by
        constructor
        · exact fun observable => observable amount comparison baselines exposed comparing
        · rintro observes amount' comparison' baselines' same compared
          rw [exposed] at same
          cases same
          cases comparing.symm.trans compared
          exact observes
      rw [objects, observable]
      by_cases anomalous : comparison.anomalous = true
      · rw [if_pos anomalous, ends_pure]
        simp [anomalous, StageResult.denied]
      · rw [if_neg anomalous, ends_bind]
        have ordinary : comparison.anomalous = false := by simpa using anomalous
        cases observing : runtime.baselineStore.observe (baselineKeyFor call.principal)
            amount.val call.now baselines with
        | ok _ after => simp [ends_of_ok observing, ordinary, StageResult.passed]
        | error error after => simp [ends_of_error observing, ordinary]

omit [Runtime] in
theorem ends_releaseBudget_iff {limited : Limited} (keyed : limited.key = some key) {before : ℓ} :
    (releaseBudget runtime limited call.decisionId).Ends before (fun _ _ => True)
      (fun _ _ => False) ↔
    ∀ verdict, limited.verdict = some verdict → verdict.admitted = true →
      ∃ after, runtime.limitStore.release key call.decisionId before = .ok () after := by
  unfold releaseBudget
  rw [keyed]
  cases limited.verdict with
  | none => simp
  | some verdict =>
    cases admitted : verdict.admitted with
    | false => simp [admitted]
    | true =>
      simp only [admitted, Option.some.injEq, forall_eq', forall_const]
      constructor
      · intro ends
        obtain ⟨_, after, released, -⟩ := exists_of_ends ends
        exact ⟨after, released⟩
      · rintro ⟨after, released⟩
        exact (ends_of_ok released).mpr trivial

omit [Runtime] in
theorem exists_consumed (documented : StoresDocumented runtime) (key : LimitKey) (before : ℓ) :
    ∃ verdict after, attempt (PyError.isA · .limitStoreUnavailable)
      (runtime.limitStore.tryConsume key 1 call.decisionId call.now) before =
        .ok verdict after := by
  cases consuming : runtime.limitStore.tryConsume key 1 call.decisionId call.now before with
  | ok verdict after => exact ⟨some verdict, after, attempt_of_ok consuming⟩
  | error error after =>
    exact ⟨none, after, attempt_of_caught consuming (documented.consume _ _ _ _ _ _ _ consuming)⟩

/-- What the later calls have to answer once the limit store has been asked. -/
theorem chargingAnswered_iff {verdict : Option LimitVerdict} {limits : ℓ}
    (made : limitKeyFor runtime.config call.principal call.action = .ok key)
    (consumed : attempt (PyError.isA · .limitStoreUnavailable)
      (runtime.limitStore.tryConsume key 1 call.decisionId call.now) before.limits =
        .ok verdict limits) :
    ChargingAnswered runtime call before ↔
      (((verdict.map judgeLimit).getD (limitsUnavailable call.action)).denial = none →
        Observable runtime call before.baselines ∧
        (Objects runtime call before.baselines → ∀ given, verdict = some given →
          given.admitted = true →
          ∃ after, runtime.limitStore.release key call.decisionId limits = .ok () after)) := by
  constructor
  · intro answered clear
    refine ⟨answered.observes key verdict limits made ⟨consumed, clear⟩, ?_⟩
    rintro objects given rfl admitted
    exact answered.releases key given limits made (attempt_run_some_iff.mp consumed)
      admitted objects
  · intro later
    refine ⟨?_, ?_, ?_⟩
    · obtain ⟨window, window_eq, -⟩ := bind_eq_ok_iff.mp made
      exact ⟨window, window_eq⟩
    · rintro key' verdict' limits' made' ⟨consumed', clear⟩
      cases made.symm.trans made'
      cases consumed.symm.trans consumed'
      exact (later clear).1
    · intro key' given limits' made' answered admitted objects
      cases made.symm.trans made'
      cases consumed.symm.trans (attempt_run_some_iff.mpr answered)
      have clear : (judgeLimit given).denial = none := by
        simp [judgeLimit, admitted, StageResult.passed]
      exact (later clear).2 objects given rfl admitted

theorem ends_charge_iff (documented : StoresDocumented runtime) {authorised : Authorised}
    (undenied : authorised.decision.effect ≠ .deny) :
    (charge runtime call authorised).Ends before (fun _ _ => True) (fun _ _ => False) ↔
      ChargingAnswered runtime call before := by
  simp only [charge, ends_bind, Charges.onLimits, ends_zoom, limitStage,
    if_neg undenied, ends_ofExcept]
  cases made : limitKeyFor runtime.config call.principal call.action with
  | error error =>
    refine iff_of_false id fun answered => ?_
    obtain ⟨window, window_eq⟩ := answered.window
    rw [limitKeyFor, window_eq] at made
    cases made
  | ok key =>
    obtain ⟨verdict, limits, consumed⟩ := exists_consumed documented key before.limits
    rw [chargingAnswered_iff made consumed]
    simp only [ends_of_ok consumed, ends_pure]
    by_cases clear :
        ((verdict.map judgeLimit).getD (limitsUnavailable call.action)).denial = none
    · have allowed := (effect_judged_iff undenied verdict).mpr clear
      rw [if_neg allowed]
      simp only [ends_bind, Charges.onBaselines, ends_zoom]
      have checking := @ends_checkBaseline _ _ _ _ _ runtime call documented before.baselines
      cases checked : checkBaseline runtime call before.baselines with
      | error error baselines =>
        rw [ends_of_error checked] at checking ⊢
        exact iff_of_false id fun later => checking (later clear).1
      | ok result baselines =>
        obtain ⟨observable, objects⟩ := (ends_of_ok checked).mp checking
        rw [ends_of_ok checked]
        cases denial : result.denial with
        | none =>
          refine iff_of_true trivial fun _ => ⟨observable, fun contrary => ?_⟩
          exact absurd denial (objects.mpr contrary)
        | some later =>
          have objected := objects.mp (by rw [denial]; nofun)
          simp only [ends_bind, ends_zoom, ends_pure]
          rw [ends_releaseBudget_iff rfl]
          exact ⟨fun released _ => ⟨observable, fun _ => released⟩,
            fun later => (later clear).2 objected⟩
    · have denied := not_not.mp (mt (effect_judged_iff undenied verdict).mp clear)
      rw [if_pos denied]
      exact iff_of_true trivial fun contrary => absurd contrary clear

end Consuming

section Concluding

variable {ρ ε ℓ β : Type} (runtime : GovernanceRuntime ρ ε ℓ β)

/-- What a recorded call still asks for is answered, or refused with an error the service takes. -/
structure ConclusionAnswered (call : Evaluation) (record : IntentRecord)
    (receipt : EvidenceReceipt) (before : World ρ ε ℓ β) : Prop where
  dispatcher : ∀ error environment, Dispatches call record.decision →
    dispatchAnswer runtime call receipt before.environment = .error error environment →
      error.isA .dispatchError = true
  outcome : ∀ execution after error evidence,
    dispatchIfPermitted runtime call record.decision receipt record.createdAt before =
      .ok execution after →
    runtime.evidenceStore.appendOutcome receipt ⟨record.decisionId, execution⟩ before.evidence =
      .error error evidence → error.isA .evidenceWriteError = true

variable {runtime} {call : Evaluation} {record : IntentRecord} {receipt : EvidenceReceipt}

theorem ends_act_iff {before : World ρ ε ℓ β} :
    (act runtime call record receipt).Ends before (fun outcome _ => outcome.receipt = receipt)
      (fun _ _ => False) ↔ ConclusionAnswered runtime call record receipt before := by
  rw [act, ends_bind]
  cases executing : dispatchIfPermitted runtime call record.decision receipt record.createdAt
      before with
  | error error after =>
    rw [ends_of_error executing]
    refine iff_of_false id fun answered => ?_
    cases executes_of_error executing with
    | raised dispatches answer other =>
      rw [answered.dispatcher _ _ dispatches answer] at other
      cases other
  | ok execution after =>
    have executes := executes_of_ok executing
    rw [ends_of_ok executing]
    simp only [recordOutcome, ends_bind, ends_tryCatch, World.onEvidence,
      ends_zoom, ends_pure, executes.evidence_eq]
    have dispatcher : ∀ error environment, Dispatches call record.decision →
        dispatchAnswer runtime call receipt before.environment = .error error environment →
          error.isA .dispatchError = true := by
      intro error environment dispatches answer
      cases executes with
      | withheld held => exact absurd dispatches held
      | performed _ returned => cases answer.symm.trans returned
      | failed _ raised caught =>
        cases answer.symm.trans raised
        exact caught
    cases reporting : runtime.evidenceStore.appendOutcome receipt ⟨record.decisionId, execution⟩
        before.evidence with
    | ok _ evidence =>
      rw [ends_of_ok reporting]
      refine iff_of_true trivial ⟨dispatcher, ?_⟩
      intro execution' after' error evidence' again raised
      cases executing.symm.trans again
      cases reporting.symm.trans raised
    | error error evidence =>
      rw [ends_of_error reporting]
      constructor
      · intro ends
        refine ⟨dispatcher, fun execution' after' error' evidence' again raised => ?_⟩
        cases executing.symm.trans again
        cases reporting.symm.trans raised
        split at ends
        next swallowed => exact swallowed
        next => exact ends.elim
      · intro answered
        rw [if_pos (answered.outcome _ _ _ _ executing reporting)]
        trivial

end Concluding

section Evidence

variable [Runtime] {ρ ε ℓ β : Type} (runtime : GovernanceRuntime ρ ε ℓ β)

/-- The credential of the call verifies and its request is well formed. -/
structure Governed (entry : Entry) (before : World ρ ε ℓ β) (call : Evaluation) : Prop where
  prepared : entry.prepare runtime.queries before.environment = .ok call
  sameTenant : call.action.tenantId = call.principal.tenantId
  decisionId : ∃ identifier : Identifier, identifier.val = call.decisionId
  traceId : ∃ identifier : Identifier, identifier.val = call.traceId
  causationId : ∃ cause : Option Identifier, cause.map Subtype.val = call.causationId
  now : ∃ moment : Timestamp, moment.val = call.now

/-- One record is handed to the evidence store, and the caller receives its receipt unless the
store refuses it. -/
def Evidenced (entry : Entry) (before : World ρ ε ℓ β) : Prop :=
  ∃ record, intents runtime entry before = [record] ∧
    ∀ receipt evidence,
      runtime.evidenceStore.appendIntent record before.evidence = .ok receipt evidence →
      ∃ outcome after, perform runtime entry before = .ok outcome after ∧
        outcome.receipt = receipt

/-- The calls whose errors no stage takes are answered, where they are reached. -/
structure LaterCallsAnswered (call : Evaluation) (before : World ρ ε ℓ β) : Prop where
  /-- The segment of the day has a name. -/
  segment : ∃ identifier : Identifier,
    identifier.val = segmentIdFor runtime.config call.principal.tenantId call.now
  assertion : AssertionAnswered runtime.queries before.environment call
  charging : ∀ authorised,
    authorise runtime.queries before.environment runtime.config call = .ok authorised →
    authorised.decision.effect ≠ .deny → ChargingAnswered runtime call before.charges
  conclusion : ∀ decided record middle receipt evidence,
    Records runtime call before decided record middle →
    runtime.evidenceStore.appendIntent record before.evidence = .ok receipt evidence →
    ConclusionAnswered runtime call record receipt (afterAppend record middle evidence)

variable {runtime} {entry : Entry} {before : World ρ ε ℓ β} {call : Evaluation}

theorem Governed.recordable (governed : Governed runtime entry before call)
    (segment : ∃ identifier : Identifier,
      identifier.val = segmentIdFor runtime.config call.principal.tenantId call.now) :
    Recordable runtime.config call where
  decisionId := governed.decisionId
  segmentId := segment
  createdAt := governed.now
  traceId := governed.traceId
  causationId := governed.causationId
  tenantId := governed.sameTenant

variable (governed : Governed runtime entry before call)
  (asked : QueriesDocumented runtime.queries before.environment)
  (charged : StoresDocumented runtime)
include governed asked charged

theorem LaterCallsAnswered.records (answered : LaterCallsAnswered runtime call before) :
    ∃ decided record middle, Records runtime call before decided record middle := by
  obtain ⟨moment, now⟩ := governed.now
  obtain ⟨decisionId, identified⟩ := governed.decisionId
  obtain ⟨authorised, authorising⟩ := (exists_authorise_iff asked runtime.config now identified
    governed.sameTenant).mpr answered.assertion
  obtain ⟨decided, charges, charging⟩ :
      ∃ decided charges, charge runtime call authorised before.charges = .ok decided charges := by
    by_cases denied : authorised.decision.effect = .deny
    · obtain ⟨decided, charges, charging, -⟩ :=
        exists_of_ends (charge_of_denied denied before.charges)
      exact ⟨decided, charges, charging⟩
    · obtain ⟨decided, charges, charging, -⟩ := exists_of_ends
        ((ends_charge_iff charged denied).mpr (answered.charging authorised authorising denied))
      exact ⟨decided, charges, charging⟩
  obtain ⟨decision, middle, materialized, kept⟩ := @materializeApprovalMetadata_returns _ _ _ _
    runtime call decided { before with charges }
  obtain ⟨record, recorded⟩ :=
    exists_intentRecord (governed.recordable answered.segment) decided decision
  obtain ⟨-, -, -, -, -, rfl, -⟩ := IntentRecord.of_make recorded
  refine ⟨decided, record, middle, ⟨⟨authorised, authorising, ?_⟩, ?_⟩, recorded⟩
  · rw [kept]
    exact charging
  · rw [kept]
    exact materialized

theorem LaterCallsAnswered.evidenced (answered : LaterCallsAnswered runtime call before) :
    Evidenced runtime entry before := by
  obtain ⟨decided, record, middle, records⟩ := answered.records governed asked charged
  have member := (mem_intents_iff governed.prepared).mpr ⟨decided, middle, records⟩
  refine ⟨record, ?_, ?_⟩
  · obtain ⟨only, handed⟩ := List.length_eq_one_iff.mp
      (le_antisymm length_intents_le (List.length_pos_of_mem member))
    rw [handed] at member ⊢
    rw [List.mem_singleton.mp member]
  · intro receipt evidence written
    have concludes := ends_act_iff.mpr
      (answered.conclusion decided record middle receipt evidence records written)
    obtain ⟨outcome, after, run, receipted⟩ := exists_of_ends concludes
    refine ⟨outcome, after, ?_, receipted⟩
    rw [perform_of_prepare governed.prepared, evaluate_of_written records written]
    exact run

theorem Evidenced.answered (evidenced : Evidenced runtime entry before) :
    LaterCallsAnswered runtime call before := by
  obtain ⟨record, handed, receipted⟩ := evidenced
  obtain ⟨decided, middle, records⟩ :=
    (mem_intents_iff governed.prepared).mp (by rw [handed]; exact List.mem_singleton_self record)
  obtain ⟨authorised, authorising, charging⟩ := records.charged
  obtain ⟨moment, now⟩ := governed.now
  obtain ⟨decisionId, identified⟩ := governed.decisionId
  refine ⟨?_, ?_, ?_, ?_⟩
  · have intent : IntentOf runtime.config call record.decision decided.risk
        decided.limited.verdict record := ⟨decided, rfl, rfl, records.recorded⟩
    exact intent.recordable.segmentId
  · exact (exists_authorise_iff asked runtime.config now identified governed.sameTenant).mp
      ⟨authorised, authorising⟩
  · intro authorised' authorising' undenied
    cases authorising.symm.trans authorising'
    exact (ends_charge_iff charged undenied).mp ((ends_of_ok charging).mpr trivial)
  · intro decided' record' middle' receipt evidence records' written
    have member := (mem_intents_iff governed.prepared).mpr ⟨decided', middle', records'⟩
    rw [handed] at member
    obtain rfl := List.mem_singleton.mp member
    obtain ⟨outcome, after, run, received⟩ := receipted receipt evidence written
    rw [perform_of_prepare governed.prepared, evaluate_of_written records' written] at run
    exact ends_act_iff.mp ((ends_of_ok run).mpr received)

/-- A governed call leaves one record and returns its receipt, exactly when the calls whose errors
no stage takes are answered. -/
theorem evidenced_iff_later_calls_answered :
    Evidenced runtime entry before ↔ LaterCallsAnswered runtime call before :=
  ⟨fun evidenced => evidenced.answered governed asked charged,
    fun answered => answered.evidenced governed asked charged⟩

end Evidence

def openLimits : LimitStore Unit where
  tryConsume := fun key _ _ _ => pure {
    admitted := true
    key := key
    limit := ⟨1, by decide +kernel⟩
    observed := ⟨1, by decide +kernel⟩
    evaluatedAt := Timestamp.epoch
    admitted_within := fun _ => le_refl _ }
  release := fun _ _ => pure ()

def calmBaselines (observe : EStateM PyError Unit Unit) : BaselineStore Unit where
  evaluate := fun key value _ threshold _ => pure {
    anomalous := false
    key := key
    observation := value
    zScore := .finite 0
    threshold := threshold
    sampleCount := 0 }
  observe := fun _ _ _ => observe

def openEvidence : EvidenceStore Unit where
  appendIntent := fun record => pure (sampleReceipt record.decisionId record.segmentId)
  appendOutcome := fun _ _ => pure ()

/-- The sample agent before stores which answer everything but, perhaps, an observation. -/
def openService (observe : EStateM PyError Unit Unit) :
    GovernanceRuntime SampleEnvironment Unit Unit Unit where
  config := { segmentPrefix := Sample.segment }
  queries := sampleQueries
  limitStore := openLimits
  baselineStore := calmBaselines observe
  evidenceStore := openEvidence
  dispatch := fun _ receipt _ _ => pure
    (settled .executed receipt.persistedAt Sample.executed_ne_failed)

def openWorld : World SampleEnvironment Unit Unit Unit where
  environment := {}
  evidence := ()
  charges := ⟨(), ()⟩

def samplePayment : Entry :=
  sampleCall (sampleAction Sample.pay .reversible (some ⟨10, by decide +kernel⟩))
    "decision-1"

def openEvaluation : Evaluation :=
  evaluationOf sampleQueries {} samplePrincipal
    (sampleAction Sample.pay .reversible (some ⟨10, by decide +kernel⟩))
    toolSupplied actionSupplied { decisionId := some "decision-1" } "decision" 0 []

theorem queriesDocumented_sampleQueries (environment : SampleEnvironment) :
    QueriesDocumented sampleQueries environment where
  globalSwitch := by simp [sampleQueries]
  tenantSwitch := by simp [sampleQueries]
  mandate := by simp [sampleQueries]
  revocation := by simp [sampleQueries]
  policy := by simp [sampleQueries]
  risk := by simp [sampleQueries]

theorem storesDocumented_openService {observe : EStateM PyError Unit Unit}
    (observed : ∀ before error after, observe before = .error error after →
      error.isA .baselineStoreUnavailable = true) : StoresDocumented (openService observe) where
  consume := by simp [openService, openLimits, pure, EStateM.pure]
  release := by simp [openService, openLimits, pure, EStateM.pure]
  compare := by simp [openService, calmBaselines, pure, EStateM.pure]
  observe := fun _ _ _ => observed

attribute [local instance] plainRuntime

theorem governed_openService (observe : EStateM PyError Unit Unit) :
    Governed (openService observe) samplePayment openWorld openEvaluation := by
  have valid : samplePrincipal.requireValidAt 0 = .ok () := rfl
  refine ⟨?_, rfl, ⟨⟨"decision-1", by decide⟩, rfl⟩, ⟨⟨"trace-0", by decide⟩, ?_⟩, ⟨none, rfl⟩,
    ⟨⟨0, by decide +kernel⟩, rfl⟩⟩
  · refine bind_eq_ok_iff.mpr ⟨samplePrincipal, ?_, rfl⟩
    refine bind_eq_ok_iff.mpr ⟨samplePrincipal, rfl, ?_⟩
    exact bind_eq_ok_iff.mpr ⟨(), valid, if_pos rfl⟩
  · decide

theorem laterCallsAnswered_openService :
    LaterCallsAnswered (openService (pure ())) openEvaluation openWorld := by
  refine ⟨⟨⟨"segment-acme-0", by decide⟩, by decide +kernel⟩, ?_, ?_, ?_⟩
  · intro _ _ error raised
    cases raised
  · intro _ _ _
    refine ⟨⟨⟨60, by decide, by decide⟩, rfl⟩, ?_, ?_⟩
    · exact fun _ _ _ _ _ _ _ _ _ _ _ => ⟨(), rfl⟩
    · exact fun _ _ _ _ _ _ _ => ⟨(), rfl⟩
  · intro decided record middle receipt evidence _ _
    refine ⟨?_, ?_⟩
    · intro error environment _ raised
      cases raised
    · intro execution after error evidence' _ raised
      cases raised

theorem evidenced_iff_later_calls_answered_open :
    LaterCallsAnswered (openService (pure ())) openEvaluation openWorld ∧
      Evidenced (openService (pure ())) samplePayment openWorld := by
  refine ⟨laterCallsAnswered_openService, ?_⟩
  exact (evidenced_iff_later_calls_answered (governed_openService _)
    (queriesDocumented_sampleQueries _)
    (storesDocumented_openService (by simp [pure, EStateM.pure]))).mpr
    laterCallsAnswered_openService

/-- An observation which the baseline store does not take, with the error it documents. -/
def unobserved : EStateM PyError Unit Unit :=
  throw { cls := .baselineStoreUnavailable, message := "the baseline store is unavailable" }

/-- The payment passed its limits and its baseline, the store does not take the observation, and
nothing is handed to the evidence store. -/
theorem unobserved_payment_leaves_no_record :
    Governed (openService unobserved) samplePayment openWorld openEvaluation ∧
      QueriesDocumented sampleQueries openWorld.environment ∧
      StoresDocumented (openService unobserved) ∧
      ¬ Evidenced (openService unobserved) samplePayment openWorld := by
  refine ⟨governed_openService _, queriesDocumented_sampleQueries _,
    storesDocumented_openService ?_, ?_⟩
  · rintro before error after ⟨⟩
    rfl
  · rintro ⟨record, handed, -⟩
    have unrecorded : (intents (openService unobserved) samplePayment openWorld).length = 0 := by
      decide +kernel
    rw [handed] at unrecorded
    cases unrecorded

end DecisionService

end GlassBox
