import GlassBox.Adapters.Memory.PolicyLoading

/-!
# What the signature of a bundle covers

The signed bytes hold every field of a rule but its rationale, and `decide` states the rationale of
the rule which matched.  Bundles with the same bytes decide alike, except for what they state.
-/

namespace GlassBox

open DeclarativePolicyDecisionPoint PolicyLoading

theorem RuleEffect.value_injective : Function.Injective RuleEffect.value := by
  intro left right same
  cases left <;> cases right <;> simp_all [RuleEffect.value]

theorem ConsequenceClass.value_injective : Function.Injective ConsequenceClass.value := by
  intro left right same
  cases left <;> cases right <;> simp_all [ConsequenceClass.value]

section Rules

variable [Runtime] {rule rule' : PolicyRule} {signed signed' : SignedPolicyBundle} {κ κ' : Type}
  {signer : MacSigner κ} {signer' : MacSigner κ'} {start : κ} {start' : κ'}
  {after : Signed κ DeclarativePolicyDecisionPoint}
  {after' : Signed κ' DeclarativePolicyDecisionPoint}

namespace PolicyRule

omit [Runtime] in
/-- What the signature covers of a rule. -/
def unexplained (rule : PolicyRule) : PolicyRule := { rule with rationale := "" }

/-- The text a decision by the rule states. -/
def stated (rule : PolicyRule) : String :=
  if rule.rationale = "" then
    match rule.effect with
    | .deny => "denied by rule " ++ Runtime.reprStr rule.name.val
    | .requireApproval => "rule " ++ Runtime.reprStr rule.name.val ++ " requires human approval"
    | .allow => "permitted by rule " ++ Runtime.reprStr rule.name.val
  else rule.rationale

/-- Decisions by the two rules state the same text, or neither can be made. -/
def StatesAs (rule rule' : PolicyRule) : Prop :=
  rule.stated = rule'.stated ∨ isBlank rule.stated = true ∧ isBlank rule'.stated = true

theorem unexplained_of_normalForm (same : (Value.record (dictOf rule.asEvidence)).normalForm =
      (Value.record (dictOf rule'.asEvidence)).normalForm) :
    rule.unexplained = rule'.unexplained := by
  rw [dictOf_of_nodup (by simp [asEvidence]), dictOf_of_nodup (by simp [asEvidence])] at same
  have fields : ∀ key, (rule.asEvidence.find? (·.1 = key)).map (fun entry => entry.2.normalForm) =
      (rule'.asEvidence.find? (·.1 = key)).map fun entry => entry.2.normalForm := by
    intro key
    simpa only [at_normalForm_record] using congrArg (Json.at · key) same
  have texts : ∀ text text' : Option String,
      (Value.ofOptionStr text).normalForm = (Value.ofOptionStr text').normalForm →
        text = text' := by
    intro text text'
    cases text <;> cases text' <;> simp [Value.ofOptionStr, Value.normalForm]
  have numbers : ∀ number number' : Option ℚ,
      (Value.ofOptionRat number).normalForm = (Value.ofOptionRat number').normalForm →
        number = number' := by
    intro number number'
    cases number <;> cases number' <;> simp [Value.ofOptionRat, Value.ofRat, Value.normalForm]
  have names := fields "name"
  have actions := fields "action_pattern"
  have resources := fields "resource_pattern"
  have priorities := fields "priority"
  have effects := fields "effect"
  have classes := texts _ _ (Option.some.inj (fields "max_consequence"))
  have amounts := numbers _ _ (Option.some.inj (fields "max_monetary"))
  simp [asEvidence, Value.normalForm] at names actions resources priorities effects
  have effects := RuleEffect.value_injective effects
  have classes := Option.map_injective ConsequenceClass.value_injective classes
  have amounts := Option.map_injective Subtype.val_injective amounts
  simp only [unexplained, mk.injEq, Subtype.ext_iff, and_true]
  exact ⟨names, effects, actions, resources, classes, amounts, priorities⟩

end PolicyRule

theorem covered_of_canonicalPayload
    (same : signed.bundle.canonicalPayload = signed'.bundle.canonicalPayload) :
    signed.bundle.bundleId = signed'.bundle.bundleId ∧
      signed.bundle.tenantId = signed'.bundle.tenantId ∧
      signed.bundle.rules.map PolicyRule.unexplained =
        signed'.bundle.rules.map PolicyRule.unexplained := by
  obtain ⟨payload, payload_eq⟩ := exists_canonicalPayload signed.bundle
  have forms := normalForm_of_canonicalBytes payload_eq (same.symm.trans payload_eq)
  have ids := congrArg (Json.at · "bundle_id") forms
  have tenants := congrArg (Json.at · "tenant_id") forms
  have rules := congrArg (Json.at · "rules") forms
  simp only [at_normalForm_record] at ids tenants rules
  simp [Value.normalForm, itemForms_eq_map, Function.comp_def] at ids tenants rules
  -- What is read back of each rule determines it up to its rationale.
  have factors : Function.FactorsThrough PolicyRule.unexplained
      fun rule : PolicyRule => (Value.record (dictOf rule.asEvidence)).normalForm :=
    fun _ _ => PolicyRule.unexplained_of_normalForm
  have : Nonempty PolicyRule := ⟨{ name := acme, effect := .deny }⟩
  obtain ⟨readBack, readBack_eq⟩ := (Function.factorsThrough_iff _).mp factors
  refine ⟨Subtype.ext ids, Subtype.ext tenants, ?_⟩
  rw [readBack_eq, ← List.map_map, ← List.map_map]
  exact congrArg (List.map readBack) rules

theorem unexplained_matchingRule (same : signed.bundle.rules.map PolicyRule.unexplained =
      signed'.bundle.rules.map PolicyRule.unexplained) (action : ProposedAction) :
    (signed.bundle.matchingRule action).map PolicyRule.unexplained =
      (signed'.bundle.matchingRule action).map PolicyRule.unexplained := by
  have found : ∀ rules : List PolicyRule,
      (rules.find? fun rule => rule.matches action).map PolicyRule.unexplained =
        (rules.map PolicyRule.unexplained).find? fun rule => rule.matches action := by
    intro rules
    rw [List.find?_map]
    rfl
  rw [PolicyBundle.matchingRule, PolicyBundle.matchingRule, found, found, same]

/-- Rules with the same name and effect decide alike exactly when they state the same. -/
theorem judge_eq_iff {bundle bundle' : PolicyBundle} (ids : bundle.bundleId = bundle'.bundleId)
    (same : rule.unexplained = rule'.unexplained) (digest : Sha256Hex) :
    judge bundle digest (some rule) = judge bundle' digest (some rule') ↔ rule.StatesAs rule' := by
  have alike : ∀ {make : Text → AuthorizationDecision} {text text' : String},
      (∀ text, (make text).rationale = text) →
      ((do return make (← requireNonEmpty text "rationale") : Except PyError _) =
          (do return make (← requireNonEmpty text' "rationale")) ↔
        text = text' ∨ isBlank text = true ∧ isBlank text' = true) := by
    intro make text text' states
    have faithful : Function.Injective make := Function.LeftInverse.injective states
    cases blank : isBlank text <;> cases blank' : isBlank text' <;>
      simp [requireNonEmpty, blank, blank', bind, Except.bind, pure, Except.pure, faithful.eq_iff]
    · rintro rfl
      simp [blank] at blank'
    · rintro rfl
      simp [blank] at blank'
  obtain ⟨names, effects, -⟩ := PolicyRule.mk.inj same
  simp only [PolicyRule.StatesAs, PolicyRule.stated, judge, ← effects, ← names, ← ids]
  cases rule.effect with
  | allow | deny | requireApproval =>
    refine alike ?_
    exact fun _ => rfl

/-- Two bundles with the same signed bytes, activated on empty decision points, decide a request
alike exactly when it is another tenant's or the rules which match its action state the same. -/
theorem decide_eq_iff_of_canonicalPayload
    (same : signed.bundle.canonicalPayload = signed'.bundle.canonicalPayload)
    (loaded : loadSignedBundle signer signed ⟨start, {}⟩ = .ok () after)
    (loaded' : loadSignedBundle signer' signed' ⟨start', {}⟩ = .ok () after')
    (request : AuthorizationRequest) :
    after.store.decide request = after'.store.decide request ↔
      (request.principal.tenantId = signed.bundle.tenantId →
        ∀ rule ∈ signed.bundle.matchingRule request.action,
        ∀ rule' ∈ signed'.bundle.matchingRule request.action, rule.StatesAs rule') := by
  obtain ⟨ids, tenants, rules⟩ := covered_of_canonicalPayload same
  have matched := unexplained_matchingRule rules request.action
  obtain ⟨digest, digest_eq⟩ := exists_digest signed.bundle
  have digest_eq' : signed'.bundle.digest = .ok digest := by
    rw [← digest_eq, PolicyBundle.digest, PolicyBundle.digest, same]
  rw [(EStateM.ends_of_ok loaded).mp (ends_loadSignedBundle ..),
    (EStateM.ends_of_ok loaded').mp (ends_loadSignedBundle ..)]
  unfold DeclarativePolicyDecisionPoint.decide active activate
  rw [← tenants]
  by_cases own : request.principal.tenantId = signed.bundle.tenantId
  · simp only [own, if_true, Function.update_self, bind, Except.bind, digest_eq, digest_eq',
      true_imp_iff]
    cases first : signed.bundle.matchingRule request.action with
    | none =>
      rw [first] at matched
      rw [Option.map_eq_none_iff.mp matched.symm, judge, judge, ids]
      simp
    | some rule =>
      rw [first] at matched
      obtain ⟨rule', second, same_rule⟩ := Option.map_eq_some_iff.mp matched.symm
      simp [second, judge_eq_iff ids same_rule.symm]
  · have other : request.principal.tenantId.val ≠ signed.bundle.tenantId.val :=
      fun equal => own (Subtype.ext equal)
    simp [own, Function.update_of_ne other]

end Rules

/-- A bundle whose only rule allows everything, for the given reason. -/
def explainedBundle (rationale : String) : SignedPolicyBundle where
  bundle := { emptyBundle 1 with
    rules := [{
      name := Sample.read
      effect := .allow
      actionPattern := Sample.everything
      resourcePattern := Sample.everything
      rationale }]
    rules_length := by simp [maxRulesPerBundle]
    names_nodup := by simp
    rules_sorted := by simp }
  mac := ⟨MacSigner.numberedCode 1, by decide⟩
  signerKeyId := ⟨"counter", by decide⟩

def readRequest : AuthorizationRequest where
  decisionId := Sample.decision
  principal := samplePrincipal
  action := sampleAction Sample.read .reversible none
  evaluatedAt := Timestamp.epoch
  same_tenant := (rfl : acme = acme)

/-- The decision point which activated the bundle. -/
def explainedPoint (rationale : String) : Signed UInt8 DeclarativePolicyDecisionPoint :=
  ⟨0, activate (explainedBundle rationale) {}⟩

attribute [local instance] plainRuntime

theorem explainedPoint_loaded (rationale : String) :
    loadSignedBundle MacSigner.counter (explainedBundle rationale) ⟨0, {}⟩ =
      .ok () (explainedPoint rationale) := by
  obtain ⟨payload, payload_eq⟩ := exists_canonicalPayload (explainedBundle rationale).bundle
  unfold loadSignedBundle
  rfl

/-- An empty rationale and the text which then stands for it. -/
theorem decide_default_rationale :
    (explainedPoint "").store.decide readRequest =
      (explainedPoint "permitted by rule 'read'").store.decide readRequest := by
  refine (decide_eq_iff_of_canonicalPayload rfl (explainedPoint_loaded _) (explainedPoint_loaded _)
    readRequest).mpr ?_
  rintro - _ ⟨⟩ _ ⟨⟩
  exact .inl (by decide +kernel)

/-- One signature is valid for two reasons, and each decision states the one of its bundle. -/
theorem rationale_unsigned :
    (explainedBundle "a").bundle.canonicalPayload = (explainedBundle "b").bundle.canonicalPayload ∧
    loadSignedBundle MacSigner.counter (explainedBundle "a") ⟨0, {}⟩ = .ok () (explainedPoint "a") ∧
    loadSignedBundle MacSigner.counter (explainedBundle "b") ⟨0, {}⟩ = .ok () (explainedPoint "b") ∧
    ∃ decision decision', (explainedPoint "a").store.decide readRequest = .ok decision ∧
      (explainedPoint "b").store.decide readRequest = .ok decision' ∧
      decision.asEvidence ≠ decision'.asEvidence := by
  have decided : ∀ text : Text, text.val ≠ "" → ∃ digest,
      (explainedPoint text.val).store.decide readRequest =
        .ok (.allow text Sample.bundle digest [Sample.read]) := by
    intro text reason
    obtain ⟨digest, digest_eq⟩ := exists_digest (explainedBundle text.val).bundle
    have matched : (explainedBundle text.val).bundle.matchingRule readRequest.action =
        some { name := Sample.read, effect := .allow, rationale := text.val } := rfl
    refine ⟨digest, Except.bind_eq_ok_iff.mpr ⟨explainedBundle text.val, rfl,
      Except.bind_eq_ok_iff.mpr ⟨digest, digest_eq, ?_⟩⟩⟩
    rw [matched]
    simp [judge, rationaleOf, requireNonEmpty, reason, text.property, bind, Except.bind, pure,
      Except.pure]
    rfl
  obtain ⟨digest, decided_a⟩ := decided ⟨"a", by decide⟩ (by decide)
  obtain ⟨digest', decided_b⟩ := decided ⟨"b", by decide⟩ (by decide)
  refine ⟨rfl, explainedPoint_loaded _, explainedPoint_loaded _, _, _, decided_a, decided_b, ?_⟩
  intro same
  have stated : some (Value.str "a") = some (.str "b") := congrArg (List.lookup "rationale") same
  simp at stated

end GlassBox
