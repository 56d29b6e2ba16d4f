import GlassBox.App.Exits
import GlassBox.App.Sample

/-!
# Fail closed

Every stage is recorded under its own name, and a stage which has to run either runs and finds
nothing against the action or refuses it.  `Sound` says this of one stage, of the stages so far and
of the whole pipeline.
-/

namespace GlassBox

open EStateM
open Except (bind_eq_ok_iff attempt_eq_some_iff)

/-- A stage reports under its own name and refuses by denying.  Where the stage is required, it
lets an action pass only if it ran and established `facts`. -/
structure StageResult.Sound (stage : Stage) (required facts : Prop) (result : StageResult) :
    Prop where
  named : result.outcome.stage = stage.name
  denies : ∀ denial ∈ result.denial, denial.effect = .deny
  cleared : result.denial = none → required → result.outcome.status = .executed ∧ facts

namespace StageResult.Sound

variable {stage : Stage} {required facts : Prop} {reason : DenialReason} {rationale : Text}

theorem passed (established : facts) : (StageResult.passed stage).Sound stage required facts where
  named := rfl
  denies := by simp [StageResult.passed]
  cleared := fun _ _ => ⟨rfl, established⟩

theorem skipped {reason : Text} (optional : ¬ required) :
    (StageResult.skipped stage reason).Sound stage required facts where
  named := rfl
  denies := by simp [StageResult.skipped]
  cleared := fun _ needed => absurd needed optional

theorem denied : (StageResult.denied stage reason rationale).Sound stage required facts where
  named := rfl
  denies := by simp [StageResult.denied]
  cleared := by simp [StageResult.denied]

theorem failed {failure : Text} :
    (StageResult.failed stage failure reason rationale).Sound stage required facts where
  named := rfl
  denies := by simp [StageResult.failed]
  cleared := by simp [StageResult.failed]

theorem mono {facts' : Prop} {result : StageResult} (sound : result.Sound stage required facts)
    (weaken : facts → facts') : result.Sound stage required facts' where
  named := sound.named
  denies := sound.denies
  cleared := fun clear needed => (sound.cleared clear needed).imp_right weaken

end StageResult.Sound

def Ran (stages : List StageOutcome) (stage : Stage) : Prop :=
  ∃ outcome ∈ stages, outcome.stage = stage.name ∧ outcome.status = .executed

variable {stage : Stage}

theorem Ran.append_left {front : List StageOutcome} (ran : Ran front stage)
    (back : List StageOutcome) : Ran (front ++ back) stage := by
  obtain ⟨outcome, member, recorded⟩ := ran
  exact ⟨outcome, List.mem_append_left back member, recorded⟩

theorem Ran.append_right {back : List StageOutcome} (front : List StageOutcome)
    (ran : Ran back stage) : Ran (front ++ back) stage := by
  obtain ⟨outcome, member, recorded⟩ := ran
  exact ⟨outcome, List.mem_append_right front member, recorded⟩

namespace DecisionService

section Stages

variable {ρ : Type} {queries : Queries ρ} {environment : ρ} {result : StageResult} {required : Prop}
  {tenantId : Identifier} {action : ProposedAction}

theorem checkIdentityAssertion_sound {call : Evaluation}
    (checked : checkIdentityAssertion queries environment call = .ok result) :
    result.Sound .identity required True := by
  obtain ⟨answer, -, checked⟩ := bind_eq_ok_iff.mp checked
  cases answer with
  | none =>
    cases checked
    exact .failed
  | some _ =>
    cases checked
    exact .passed trivial

/-- Both emergency stops answered that they are not engaged. -/
def NotEngaged (queries : Queries ρ) (environment : ρ) (tenantId : Identifier) : Prop :=
  queries.isGloballyEngaged environment = .ok false ∧
    queries.isTenantEngaged environment tenantId = .ok false

theorem notEngaged_of_killSwitchEngaged
    (answered : killSwitchEngaged queries environment tenantId = .ok false) :
    NotEngaged queries environment tenantId := by
  obtain ⟨globally, globally_eq, answered⟩ := bind_eq_ok_iff.mp answered
  cases globally with
  | true => cases answered
  | false => exact ⟨globally_eq, answered⟩

theorem checkKillSwitch_sound
    (checked : checkKillSwitch queries environment tenantId action = .ok result) :
    result.Sound .killSwitch (action.consequence.mayDegradeOnDependencyFailure = false)
      (NotEngaged queries environment tenantId) := by
  unfold checkKillSwitch at checked
  by_cases advisory : action.consequence.mayDegradeOnDependencyFailure = true
  · rw [if_pos advisory] at checked
    cases checked
    exact .skipped (by simp [advisory])
  rw [if_neg advisory] at checked
  obtain ⟨answer, answered, checked⟩ := bind_eq_ok_iff.mp checked
  match answer with
  | none =>
    cases checked
    exact .failed
  | some true =>
    cases checked
    exact .denied
  | some false =>
    cases checked
    exact .passed (notEngaged_of_killSwitchEngaged (attempt_eq_some_iff.mp answered))

theorem mandateUnavailable_sound {facts : Prop} : (mandateUnavailable action).Sound .mandate
      (action.consequence.mayDegradeOnDependencyFailure = false) facts := by
  unfold mandateUnavailable
  split
  next advisory => exact .skipped (by simp [advisory])
  next => exact .failed

variable [Runtime] {now : ℚ}

/-- The agent holds an unrevoked mandate which permits the action. -/
def Permitted (queries : Queries ρ) (environment : ρ) (principal : VerifiedPrincipal)
    (action : ProposedAction) (now : ℚ) : Prop :=
  queries.isRevoked environment principal.tenantId principal.agentRef now = .ok false ∧
    ∃ mandate verdict,
      queries.getMandate environment principal.tenantId principal.agentRef now =
        .ok (some mandate) ∧
      mandate.permits action now = .ok verdict ∧ verdict.permitted = true

theorem judgeMandate_sound {mandate : Mandate}
    (judged : judgeMandate mandate action now = .ok result) :
    result.Sound .mandate required
      (∃ verdict, mandate.permits action now = .ok verdict ∧ verdict.permitted = true) := by
  obtain ⟨verdict, verdict_eq, judged⟩ := bind_eq_ok_iff.mp judged
  by_cases permitted : verdict.permitted = true
  · rw [if_pos permitted] at judged
    cases judged
    exact .passed ⟨verdict, verdict_eq, permitted⟩
  · rw [if_neg permitted] at judged
    obtain ⟨rationale, -, judged⟩ := bind_eq_ok_iff.mp judged
    cases judged
    exact .denied

theorem checkMandate_sound {principal : VerifiedPrincipal}
    (checked : checkMandate queries environment principal action now = .ok result) :
    result.Sound .mandate (action.consequence.mayDegradeOnDependencyFailure = false)
      (Permitted queries environment principal action now) := by
  obtain ⟨found, found_eq, checked⟩ := bind_eq_ok_iff.mp checked
  match found with
  | none =>
    cases checked
    exact mandateUnavailable_sound
  | some none =>
    cases checked
    exact .denied
  | some (some mandate) =>
    obtain ⟨revoked, revoked_eq, checked⟩ := bind_eq_ok_iff.mp checked
    match revoked with
    | none =>
      cases checked
      exact mandateUnavailable_sound
    | some true =>
      cases checked
      exact .denied
    | some false =>
      refine (judgeMandate_sound checked).mono ?_
      rintro ⟨verdict, permits⟩
      exact ⟨attempt_eq_some_iff.mp revoked_eq, mandate, verdict,
        attempt_eq_some_iff.mp found_eq, permits⟩

end Stages

/-- The stages of `front` ran in order or are recorded as skipped; without a denial every required
one ran, and `facts` hold. -/
structure Progress.Sound (front : List Stage) (required : Stage → Prop) (facts : Prop)
    (progress : Progress) : Prop where
  named : progress.stages.map StageOutcome.stage = front.map Stage.name
  denies : ∀ denial ∈ progress.denial, denial.effect = .deny
  cleared : progress.denial = none →
    (∀ stage ∈ front, required stage → Ran progress.stages stage) ∧ facts

variable {stage : Stage} {required : Stage → Prop} {facts : Prop} {result : StageResult}

theorem Progress.Sound.start (sound : result.Sound stage (required stage) facts) :
    Progress.Sound [stage] required (required stage → facts)
      ⟨[result.outcome], result.denial⟩ where
  named := by simp [sound.named]
  denies := sound.denies
  cleared := by
    intro clear
    refine ⟨fun other member needed => ?_, fun needed => (sound.cleared clear needed).2⟩
    rw [List.mem_singleton] at member
    subst member
    exact ⟨result.outcome, by simp, sound.named, (sound.cleared clear needed).1⟩

variable {front : List Stage} {progress : Progress}

/-- One more stage, which is skipped once the action is denied. -/
theorem Progress.Sound.advance {more : Prop} {next : Progress} {reason : Text}
    {check : Except PyError StageResult} (sound : progress.Sound front required facts)
    (advanced : progress.advance (.skipped stage reason) check = .ok next)
    (checks : ∀ result, check = .ok result → result.Sound stage (required stage) more) :
    next.Sound (front ++ [stage]) required (facts ∧ (required stage → more)) := by
  unfold Progress.advance at advanced
  cases denial : progress.denial with
  | some earlier =>
    rw [denial] at advanced
    cases advanced
    refine ⟨?_, ?_, nofun⟩
    · simp [sound.named, StageOutcome.skipped]
    · simpa [denial] using sound.denies
  | none =>
    rw [denial] at advanced
    obtain ⟨result, checked, advanced⟩ := bind_eq_ok_iff.mp advanced
    cases advanced
    have last := Progress.Sound.start (checks result checked)
    refine ⟨?_, last.denies, fun clear => ⟨?_, (sound.cleared denial).2, (last.cleared clear).2⟩⟩
    · simpa [sound.named] using last.named
    · intro other member needed
      rcases List.mem_append.mp member with earlier | now
      · exact ((sound.cleared denial).1 other earlier needed).append_left _
      · exact ((last.cleared clear).1 other now needed).append_right _

theorem Progress.Sound.mono {facts' : Prop} (sound : progress.Sound front required facts)
    (weaken : facts → facts') :
    progress.Sound front required facts' where
  named := sound.named
  denies := sound.denies
  cleared := fun clear => (sound.cleared clear).imp_right weaken

/-- The stages which have to run for an action: those which resolve it, those which ask about it,
and the comparison of its exposure if it has one. -/
def Required (resolving : Option Stage) (action : ProposedAction) : Stage → Prop
  | .toolRegistry => resolving = some .toolRegistry
  | .catalogue => resolving = some .catalogue
  | .baseline => action.consequence.mayDegradeOnDependencyFailure = false ∧
      action.exposure.monetary ≠ none
  | _ => action.consequence.mayDegradeOnDependencyFailure = false

/-- The two resolving stages an entry point hands over. -/
structure Staged (resolving : Option Stage) (call : Evaluation) : Prop where
  toolRegistry : call.toolRegistry.Sound .toolRegistry (resolving = some .toolRegistry) True
  catalogue : call.catalogue.Sound .catalogue (resolving = some .catalogue) True

section Authorisation

variable {ρ : Type} {queries : Queries ρ} {environment : ρ} {call : Evaluation}
  {resolving : Option Stage}

variable {progress : Progress} {decision : AuthorizationDecision} {risk : RiskScore}

/-- A policy decision which does not deny comes from the policy, after no denial. -/
theorem policyStage_cleared {policy : StageOutcome}
    (denies : ∀ denial ∈ progress.denial, denial.effect = .deny)
    (ran : policyStage queries environment call progress = .ok (decision, policy)) :
    policy.stage = Stage.policy.name ∧
      (decision.effect ≠ .deny → progress.denial = none ∧ policy.status = .executed) := by
  unfold policyStage at ran
  cases denial : progress.denial with
  | some earlier =>
    rw [denial] at ran
    cases ran
    exact ⟨rfl, fun allowed => absurd (denies _ denial) allowed⟩
  | none =>
    rw [denial] at ran
    obtain ⟨request, -, ran⟩ := bind_eq_ok_iff.mp ran
    obtain ⟨answer, -, ran⟩ := bind_eq_ok_iff.mp ran
    cases answer with
    | none =>
      cases ran
      exact ⟨rfl, fun allowed => absurd rfl allowed⟩
    | some answered =>
      cases ran
      exact ⟨rfl, fun _ => ⟨rfl, rfl⟩⟩

theorem computeRisk_sound {action : ProposedAction} {now : ℚ} {assessed : StageResult}
    {required : Prop}
    (computed : computeRisk queries environment action now = .ok (risk, assessed)) :
    assessed.Sound .risk required True := by
  obtain ⟨evaluatedAt, -, computed⟩ := bind_eq_ok_iff.mp computed
  obtain ⟨answer, -, computed⟩ := bind_eq_ok_iff.mp computed
  cases answer with
  | none =>
    cases computed
    exact .failed
  | some score =>
    cases computed
    exact .passed trivial

/-- An overruled decision denies, and a decision which does not deny was not overruled. -/
theorem overrule_cleared {denial : Option AuthorizationDecision}
    (denies : ∀ later ∈ denial, later.effect = .deny)
    (allowed : (overrule decision denial).effect ≠ .deny) :
    denial = none ∧ overrule decision denial = decision := by
  unfold overrule at allowed ⊢
  by_cases denied : decision.effect = .deny
  · rw [if_pos denied] at allowed
    exact absurd denied allowed
  · rw [if_neg denied] at allowed ⊢
    cases denial with
    | none => exact ⟨rfl, rfl⟩
    | some later => exact absurd (denies later rfl) allowed

variable [Runtime] {config : ServiceConfig}

/-- What the environment answered about an action that is not denied. -/
def Answered (queries : Queries ρ) (environment : ρ) (call : Evaluation) : Prop :=
  call.action.consequence.mayDegradeOnDependencyFailure = false →
    NotEngaged queries environment call.principal.tenantId ∧
      Permitted queries environment call.principal call.action call.now

theorem preliminaries_sound (staged : Staged resolving call)
    (ran : preliminaries queries environment call = .ok progress) :
    progress.Sound [.toolRegistry, .catalogue, .identity, .killSwitch, .mandate]
      (Required resolving call.action) (Answered queries environment call) := by
  obtain ⟨catalogued, catalogued_eq, ran⟩ := bind_eq_ok_iff.mp ran
  obtain ⟨identified, identified_eq, ran⟩ := bind_eq_ok_iff.mp ran
  obtain ⟨switched, switched_eq, ran⟩ := bind_eq_ok_iff.mp ran
  have registered : Progress.Sound [.toolRegistry] (Required resolving call.action) _ _ :=
    .start staged.toolRegistry
  have catalogued := registered.advance catalogued_eq fun result checked => by
    cases checked
    exact staged.catalogue
  have identified := catalogued.advance identified_eq fun result checked =>
    checkIdentityAssertion_sound checked
  have switched := identified.advance switched_eq fun result checked =>
    checkKillSwitch_sound checked
  have mandated := switched.advance ran fun result checked => checkMandate_sound checked
  exact mandated.mono fun facts strict => ⟨facts.1.2 strict, facts.2 strict⟩

theorem effect_of_checkRiskThreshold :
    ∀ denial ∈ checkRiskThreshold config risk, denial.effect = .deny := by
  unfold checkRiskThreshold
  split
  next =>
    rintro denial ⟨⟩
    rfl
  next => nofun

def askingStages : List Stage :=
  [.toolRegistry, .catalogue, .identity, .killSwitch, .mandate, .policy, .risk]

/-- An authorisation records the seven stages in order; if it does not deny, every required one
ran and the environment answered in favour of the action. -/
theorem authorise_sound (staged : Staged resolving call) {authorised : Authorised}
    (ran : authorise queries environment config call = .ok authorised) :
    authorised.stages.map StageOutcome.stage = askingStages.map Stage.name ∧
      (authorised.decision.effect ≠ .deny →
        (∀ stage ∈ askingStages, Required resolving call.action stage →
          Ran authorised.stages stage) ∧ Answered queries environment call) := by
  obtain ⟨progress, prepared, ran⟩ := bind_eq_ok_iff.mp ran
  obtain ⟨⟨decision, policy⟩, decided, ran⟩ := bind_eq_ok_iff.mp ran
  obtain ⟨⟨risk, assessed⟩, computed, ran⟩ := bind_eq_ok_iff.mp ran
  cases ran
  have sound := preliminaries_sound staged prepared
  have ⟨policy_named, policy_cleared⟩ := policyStage_cleared sound.denies decided
  have assessment : assessed.Sound .risk True True := computeRisk_sound computed
  refine ⟨by simp [sound.named, policy_named, assessment.named, askingStages], ?_⟩
  intro allowed
  obtain ⟨-, unchanged⟩ := overrule_cleared effect_of_checkRiskThreshold allowed
  rw [unchanged] at allowed
  obtain ⟨unassessed, unchanged⟩ := overrule_cleared assessment.denies allowed
  rw [unchanged] at allowed
  obtain ⟨undenied, executed⟩ := policy_cleared allowed
  obtain ⟨earlier, answered⟩ := sound.cleared undenied
  refine ⟨?_, answered⟩
  have policy_ran : Ran [policy, assessed.outcome] .policy :=
    ⟨policy, by simp, policy_named, executed⟩
  have risk_ran : Ran [policy, assessed.outcome] .risk :=
    ⟨assessed.outcome, by simp, assessment.named, (assessment.cleared unassessed trivial).1⟩
  intro stage member required
  cases stage with
  | policy => exact policy_ran.append_right _
  | risk => exact risk_ran.append_right _
  | limits | baseline => simp [askingStages] at member
  | toolRegistry | catalogue | identity | killSwitch | mandate =>
    exact (earlier _ (by simp) required).append_left _

end Authorisation

section Charging

variable {action : ProposedAction}

theorem limitsUnavailable_sound : (limitsUnavailable action).Sound .limits
      (action.consequence.mayDegradeOnDependencyFailure = false) facts := by
  unfold limitsUnavailable
  split
  next advisory => exact .skipped (by simp [advisory])
  next => exact .failed

theorem baselineUnavailable_sound {action : ProposedAction} {facts : Prop} :
    (baselineUnavailable action).Sound .baseline
      (action.consequence.mayDegradeOnDependencyFailure = false) facts := by
  unfold baselineUnavailable
  split
  next advisory => exact .skipped (by simp [advisory])
  next => exact .failed

/-- The limit stage keeps a decision it does not refuse; where it is required it then holds an
admitted verdict. -/
structure Limited.Sound (authorised : Authorised) (required : Prop) (limited : Limited) :
    Prop where
  named : limited.outcome.stage = Stage.limits.name
  cleared : limited.decision.effect ≠ .deny → limited.decision = authorised.decision ∧
    (required → limited.outcome.status = .executed ∧
      ∃ verdict, limited.verdict = some verdict ∧ verdict.admitted = true)

def pipeline : List Stage := askingStages ++ [.limits, .baseline]

/-- A charged decision keeps the stages of its authorisation in front.  If it does not deny, the
authorisation did not, and the two charging stages ran where they are required. -/
structure Decided.Sound (resolving : Option Stage) (action : ProposedAction)
    (authorised : Authorised) (decided : Decided) : Prop where
  named : decided.stages.map StageOutcome.stage =
    authorised.stages.map StageOutcome.stage ++ [Stage.limits.name, Stage.baseline.name]
  cleared : decided.decision.effect ≠ .deny → decided.decision = authorised.decision ∧
    (∀ stage, Ran authorised.stages stage → Ran decided.stages stage) ∧
    (Required resolving action .limits → Ran decided.stages .limits ∧
      ∃ verdict, decided.limited.verdict = some verdict ∧ verdict.admitted = true) ∧
    (Required resolving action .baseline → Ran decided.stages .baseline)

theorem decidedBy_sound {resolving : Option Stage} {authorised : Authorised} {limited : Limited}
    {baseline : StageResult}
    (limits : Limited.Sound authorised (Required resolving action .limits) limited)
    (compared : baseline.Sound .baseline (Required resolving action .baseline) True)
    (allowed : limited.decision.effect ≠ .deny) :
    Decided.Sound resolving action authorised (decidedBy authorised limited baseline) where
  named := by simp [decidedBy, limits.named, compared.named]
  cleared := by
    intro undenied
    cases denial : baseline.denial with
    | some later =>
      simp only [decidedBy, denial] at undenied
      exact absurd (compared.denies later denial) undenied
    | none =>
      obtain ⟨unchanged, admitted⟩ := limits.cleared allowed
      refine ⟨by simp [decidedBy, denial, unchanged], fun _ ran => ran.append_left _, ?_, ?_⟩
      · intro required
        obtain ⟨executed, held⟩ := admitted required
        exact ⟨⟨limited.outcome, by simp [decidedBy], limits.named, executed⟩, held⟩
      · intro required
        exact ⟨baseline.outcome, by simp [decidedBy], compared.named,
          (compared.cleared denial required).1⟩

variable [Runtime] {ρ ε ℓ β : Type} {runtime : GovernanceRuntime ρ ε ℓ β} {call : Evaluation}

theorem judgeLimit_sound {verdict : LimitVerdict} {required : Prop} :
    (judgeLimit verdict).Sound .limits required (verdict.admitted = true) := by
  unfold judgeLimit
  split
  next admitted => exact .passed admitted
  next => exact .denied

theorem limitStage_sound (authorised : Authorised) (before : ℓ) :
    (limitStage runtime call authorised).Ends before
      (fun limited _ => Limited.Sound authorised
        (call.action.consequence.mayDegradeOnDependencyFailure = false) limited)
      (fun _ _ => True) := by
  have judged : ∀ key (verdict : Option LimitVerdict) (result : StageResult),
      result.Sound .limits (call.action.consequence.mayDegradeOnDependencyFailure = false)
        (∃ given, verdict = some given ∧ given.admitted = true) →
      Limited.Sound authorised (call.action.consequence.mayDegradeOnDependencyFailure = false)
        ⟨result.denial.getD authorised.decision, result.outcome, some key, verdict⟩ := by
    intro key verdict result sound
    refine ⟨sound.named, fun allowed => ?_⟩
    cases denial : result.denial with
    | none => exact ⟨rfl, sound.cleared denial⟩
    | some later =>
      rw [denial] at allowed
      exact absurd (sound.denies later denial) allowed
  unfold limitStage
  split
  next denied => exact ⟨rfl, fun allowed => absurd denied allowed⟩
  next =>
    simp only [ends_bind, ends_ofExcept]
    cases limitKeyFor runtime.config call.principal call.action with
    | error error => trivial
    | ok key =>
      simp only [ends_attempt]
      refine ends_of_forall ?_ ?_
      · intro verdict _
        exact judged key (some verdict) _ (judgeLimit_sound.mono fun admitted =>
          ⟨verdict, rfl, admitted⟩)
      · intro error _
        split
        next => exact judged key none _ limitsUnavailable_sound
        next => trivial

theorem checkBaseline_sound (resolving : Option Stage) (before : β) :
    (checkBaseline runtime call).Ends before
      (fun result _ => result.Sound .baseline (Required resolving call.action .baseline) True)
      (fun _ _ => True) := by
  unfold checkBaseline
  cases exposed : call.action.exposure.monetary with
  | none => exact .skipped fun required => required.2 exposed
  | some amount =>
    simp only [ends_bind, ends_attempt]
    refine ends_of_forall ?_ ?_
    · intro verdict _
      split
      next => exact .denied
      next =>
        rw [ends_bind]
        exact ends_of_forall (fun _ _ => .passed trivial) fun _ _ => trivial
    · intro error _
      split
      next =>
        have sound := @baselineUnavailable_sound call.action True
        exact ⟨sound.named, sound.denies, fun clear required => sound.cleared clear required.1⟩
      next => trivial

theorem charge_sound (resolving : Option Stage) (authorised : Authorised) (before : Charges ℓ β) :
    (charge runtime call authorised).Ends before
      (fun decided _ => Decided.Sound resolving call.action authorised decided)
      (fun _ _ => True) := by
  simp only [charge, ends_bind, Charges.onLimits, ends_zoom]
  refine (limitStage_sound authorised before.limits).mono ?_ fun _ _ _ => trivial
  intro limited _ limits
  split
  next denied =>
    refine ⟨by simp [decidedBy, limits.named, StageResult.skipped, StageOutcome.skipped], ?_⟩
    exact fun undenied => absurd denied undenied
  next allowed =>
    simp only [ends_bind, Charges.onBaselines, ends_zoom]
    refine (checkBaseline_sound resolving _).mono ?_ fun _ _ _ => trivial
    intro baseline _ compared
    have sound := decidedBy_sound limits compared allowed
    split
    next => exact sound
    next =>
      simp only [ends_bind]
      exact ends_of_forall (fun _ _ => sound) fun _ _ => trivial

end Charging

def Entry.resolvingStage : Entry → Option Stage
  | .decideAndDispatch .. | .replay .. => none
  | .decideAndDispatchForRequest .. => some .catalogue
  | .decideAndDispatchForToolCall .. => some .toolRegistry

theorem refuseUngoverned_result {resource : ResourceRef} {name key : String}
    {parameters : List (String × Value)} {resolution : Resolution}
    (refused : refuseUngoverned resource name parameters key result = .ok resolution) :
    resolution.result = result := by
  obtain ⟨action, -, refused⟩ := bind_eq_ok_iff.mp refused
  cases refused
  rfl

section Entries

variable [Runtime] {ρ : Type} {queries : Queries ρ} {environment : ρ}

variable {resource : ResourceRef} {parameters : List (String × Value)} {required : Prop} {now : ℚ}
  {name key : String} {resolution : Resolution}

theorem judgeParameters_sound {definition : ActionDefinition} {result : StageResult}
    (judged : judgeParameters queries environment definition resource parameters now = .ok result) :
    result.Sound .catalogue required True := by
  unfold judgeParameters at judged
  split at judged
  next =>
    cases judged
    exact .denied
  next =>
    obtain ⟨unsatisfied, -, judged⟩ := bind_eq_ok_iff.mp judged
    cases unsatisfied with
    | some name =>
      cases judged
      exact .denied
    | none =>
      cases judged
      exact .passed trivial

theorem checkCatalogue_sound
    (checked : checkCatalogue queries environment name resource parameters key now =
      .ok resolution) :
    resolution.result.Sound .catalogue required True := by
  unfold checkCatalogue at checked
  split at checked
  next error _ =>
    split at checked
    next =>
      rw [refuseUngoverned_result checked]
      exact .failed
    next =>
      split at checked
      next =>
        rw [refuseUngoverned_result checked]
        exact .denied
      next => cases checked
  next definition _ =>
    obtain ⟨action, -, checked⟩ := bind_eq_ok_iff.mp checked
    split at checked
    next => cases checked
    next =>
      obtain ⟨result, judged, checked⟩ := bind_eq_ok_iff.mp checked
      cases checked
      exact judgeParameters_sound judged

theorem checkToolRegistry_sound {digest : String}
    (checked : checkToolRegistry queries environment name digest resource parameters key =
      .ok resolution) :
    resolution.result.Sound .toolRegistry required True := by
  unfold checkToolRegistry at checked
  split at checked
  next error _ =>
    split at checked
    next =>
      rw [refuseUngoverned_result checked]
      exact .failed
    next =>
      split at checked
      next =>
        rw [refuseUngoverned_result checked]
        exact .denied
      next =>
        split at checked
        next =>
          rw [refuseUngoverned_result checked]
          exact .denied
        next => cases checked
  next tool _ =>
    obtain ⟨action, -, checked⟩ := bind_eq_ok_iff.mp checked
    cases checked
    exact .passed trivial

/-- Each entry point hands over the stage which resolved its action, and skips the other one. -/
theorem staged_of_prepare {entry : Entry} {call : Evaluation}
    (prepared : entry.prepare queries environment = .ok call) :
    Staged entry.resolvingStage call := by
  cases entry with
  | decideAndDispatch credential action options =>
    obtain ⟨principal, -, prepared⟩ := bind_eq_ok_iff.mp prepared
    cases prepared
    exact ⟨.skipped nofun, .skipped nofun⟩
  | decideAndDispatchForRequest credential actionName request options =>
    obtain ⟨resolution, resolved, prepared⟩ := bind_eq_ok_iff.mp prepared
    obtain ⟨principal, -, prepared⟩ := bind_eq_ok_iff.mp prepared
    cases prepared
    exact ⟨.skipped nofun, checkCatalogue_sound resolved⟩
  | decideAndDispatchForToolCall credential toolName definitionSha256 request options =>
    obtain ⟨resolution, resolved, prepared⟩ := bind_eq_ok_iff.mp prepared
    obtain ⟨principal, -, prepared⟩ := bind_eq_ok_iff.mp prepared
    cases prepared
    exact ⟨checkToolRegistry_sound resolved, .skipped nofun⟩
  | replay principal action options now =>
    cases prepared
    exact ⟨.skipped nofun, .skipped nofun⟩

end Entries

def statusOf (record : IntentRecord) (stage : Stage) : Option StageStatus :=
  (record.stages.find? fun outcome => outcome.stage = stage.name).map StageOutcome.status

theorem statusOf_of_ran {record : IntentRecord}
    (named : record.stages.map StageOutcome.stage = pipeline.map Stage.name)
    (ran : Ran record.stages stage) : statusOf record stage = some .executed := by
  have nodup : (record.stages.map StageOutcome.stage).Nodup := by
    rw [named]
    decide
  obtain ⟨outcome, member, recorded, executed⟩ := ran
  unfold statusOf
  cases found : record.stages.find? fun other => other.stage = stage.name with
  | none =>
    have absent := List.find?_eq_none.mp found outcome member
    simp [recorded] at absent
  | some other =>
    have same : other.stage = stage.name := by simpa using List.find?_some found
    have eq : other = outcome :=
      List.inj_on_of_nodup_map nodup (List.mem_of_find?_eq_some found) member
        (same.trans recorded.symm)
    rw [Option.map_some, eq, executed]

/-- Every control ran and let the action pass. -/
structure Controlled [Runtime] {ρ : Type} (queries : Queries ρ) (environment : ρ) (entry : Entry)
    (action : ProposedAction) (record : IntentRecord) : Prop where
  executed : ∀ stage ∈ [Stage.identity, .killSwitch, .mandate, .policy, .risk, .limits],
    statusOf record stage = some .executed
  compared : statusOf record .baseline = some .executed ∨ action.exposure.monetary = none
  resolved : ∀ stage ∈ entry.resolvingStage, statusOf record stage = some .executed
  admitted : ∃ verdict, record.limits = [verdict] ∧ verdict.admitted = true
  notEngaged : NotEngaged queries environment record.tenantId
  permitted : Permitted queries environment record.principal action record.createdAt.val
  allowed : record.decision.effect = .allow
  unconditional : record.decision.blockingObligations = []

section Dispatch

variable [Runtime] {ρ ε ℓ β : Type} {runtime : GovernanceRuntime ρ ε ℓ β} {entry : Entry}
  {call : Evaluation} {before middle : World ρ ε ℓ β} {decided : Decided} {record : IntentRecord}

theorem named_of_records (staged : Staged entry.resolvingStage call)
    (records : Records runtime call before decided record middle) :
    record.stages.map StageOutcome.stage = pipeline.map Stage.name := by
  obtain ⟨-, -, -, -, -, -, -, stages, -⟩ := IntentRecord.of_make records.recorded
  obtain ⟨authorised, authorising, charging⟩ := records.charged
  have asked := (authorise_sound staged authorising).1
  have charged := (ends_of_ok charging).mp
    (charge_sound entry.resolvingStage authorised before.charges)
  rw [stages, charged.named, asked, pipeline, List.map_append]
  rfl

/-- What is dispatched for a consequential action passed every control. -/
theorem controlled_of_records (staged : Staged entry.resolvingStage call)
    (records : Records runtime call before decided record middle)
    (dispatches : Dispatches call record.decision)
    (strict : call.action.consequence.mayDegradeOnDependencyFailure = false) :
    Controlled runtime.queries before.environment entry call.action record := by
  have named := named_of_records staged records
  obtain ⟨-, -, createdAt, principal, -, -, limits, stages, -⟩ :=
    IntentRecord.of_make records.recorded
  obtain ⟨authorised, authorising, charging⟩ := records.charged
  have charged := (ends_of_ok charging).mp
    (charge_sound entry.resolvingStage authorised before.charges)
  have undenied : decided.decision.effect ≠ .deny := by
    rw [← records.bound.effect_eq, dispatches.1]
    decide
  obtain ⟨unchanged, kept, limited, compared⟩ := charged.cleared undenied
  rw [unchanged] at undenied
  obtain ⟨asked, answered⟩ := (authorise_sound staged authorising).2 undenied
  obtain ⟨limits_ran, verdict, verdict_eq, admitted⟩ := limited strict
  have status : ∀ stage, Ran decided.stages stage → statusOf record stage = some .executed :=
    fun stage ran => statusOf_of_ran named (stages ▸ ran)
  have tenantId : record.tenantId = call.principal.tenantId := by
    rw [← record.principal_tenant, principal]
  exact {
    executed := by
      intro stage member
      simp only [List.mem_cons, List.not_mem_nil, or_false] at member
      rcases member with rfl | rfl | rfl | rfl | rfl | rfl
      iterate 5 exact status _ (kept _ (asked _ (by simp [askingStages]) strict))
      exact status _ limits_ran
    compared := by
      by_cases exposed : call.action.exposure.monetary = none
      · exact .inr exposed
      · exact .inl (status _ (compared ⟨strict, exposed⟩))
    resolved := by
      intro stage resolving
      cases entry with
      | decideAndDispatch | replay => cases resolving
      | decideAndDispatchForRequest | decideAndDispatchForToolCall =>
        cases resolving
        exact status _ (kept _ (asked _ (by simp [askingStages]) rfl))
    admitted := ⟨verdict, by simp [limits, verdict_eq], admitted⟩
    notEngaged := by
      rw [tenantId]
      exact (answered strict).1
    permitted := by
      rw [principal, createdAt]
      exact (answered strict).2
    allowed := dispatches.1
    unconditional := dispatches.2.1 }

/-- Whatever the ports answer or raise, every record handed to the evidence store lists the nine
stages in order, and a consequential action is dispatched only after every control passed it. -/
theorem perform_fail_closed (entry : Entry) (before : World ρ ε ℓ β) :
    ∃ events, ((perform runtime entry).after before).history = before.history ++ events ∧
      (∀ record, .intentAppended record ∈ events →
        record.stages.map StageOutcome.stage = pipeline.map Stage.name) ∧
      ∀ action sensitive receipt evidence,
        .dispatched action sensitive receipt evidence ∈ events →
        action.consequence.mayDegradeOnDependencyFailure = false →
        ∃ record,
          events = [.intentAppended record, .dispatched action sensitive receipt evidence] ∧
          Controlled runtime.queries before.environment entry action record := by
  obtain ⟨events, history, shape⟩ := perform_events runtime entry before
  refine ⟨events, history, ?_⟩
  rcases shape with rfl | ⟨call, prepared, shape⟩
  · simp only [List.not_mem_nil, false_implies, implies_true, and_self]
  have staged := staged_of_prepare prepared
  refine ⟨fun record member => ?_, fun action sensitive receipt evidence member strict => ?_⟩
  · obtain ⟨decided, middle, records⟩ := shape.of_intentAppended member
    exact named_of_records staged records
  · obtain ⟨rfl, rfl, decided, record, middle, records, -, dispatches, events_eq⟩ :=
      shape.of_dispatched member
    exact ⟨record, events_eq, controlled_of_records staged records dispatches strict⟩

end Dispatch

def isConsequentialDispatch {ε : Type} : Event ε → Bool
  | .dispatched action .. => !action.consequence.mayDegradeOnDependencyFailure
  | _ => false

theorem perform_fail_closed_read :
    letI := plainRuntime
    ∃ record action sensitive receipt evidence,
      ((perform (sampleService MacSigner.counter) (sampleCall sampleRead "decision-1")).after
        (sampleWorld 0)).history =
        [.intentAppended record, .dispatched action sensitive receipt evidence] ∧
      Controlled sampleQueries {} (sampleCall sampleRead "decision-1") action record := by
  let _ := plainRuntime
  have dispatched : ((perform (sampleService MacSigner.counter)
      (sampleCall sampleRead "decision-1")).after (sampleWorld 0)).history.any
      isConsequentialDispatch = true := by
    decide +kernel
  obtain ⟨events, history, -, controlled⟩ := @perform_fail_closed _ _ _ _ _
    (sampleService MacSigner.counter) (sampleCall sampleRead "decision-1") (sampleWorld 0)
  rw [history] at dispatched ⊢
  obtain ⟨event, member, consequential⟩ := List.any_eq_true.mp dispatched
  cases event with
  | intentAppended | workflowCreated => cases consequential
  | dispatched action sensitive receipt evidence =>
    obtain ⟨record, rfl, passed⟩ := controlled action sensitive receipt evidence member
      (by simpa [isConsequentialDispatch] using consequential)
    exact ⟨record, action, sensitive, receipt, evidence, rfl, passed⟩

end DecisionService

end GlassBox
