import GlassBox.Domain.PolicyBundle

/-!
# The declarative policy decision point

`adapters/outbound/memory/policy.py`: deny by default, and otherwise what the first matching rule of
the bundle active for the tenant says.
-/

namespace GlassBox

open Except (bind_eq_ok_iff)

/-- `DeclarativePolicyDecisionPoint`, without its signer, which only loading a bundle needs. -/
structure DeclarativePolicyDecisionPoint where
  bundles : String → Option SignedPolicyBundle := fun _ => none
  available : Bool := true

namespace DeclarativePolicyDecisionPoint

/-- The bundle of a tenant. -/
def active (point : DeclarativePolicyDecisionPoint) (tenantId : Identifier) :
    Except PyError SignedPolicyBundle :=
  let unavailable (message : String) : PyError := {
    cls := .policyBundleUnavailableError
    message := message
    context := [("tenant_id", .str tenantId.val),
      ("adapter", .str "DeclarativePolicyDecisionPoint")] }
  if point.available then
    match point.bundles tenantId.val with
    | none => .error (unavailable "no active policy bundle for tenant")
    | some signed => .ok signed
  else .error (unavailable "policy decision point is unreachable")

variable [Runtime] {point : DeclarativePolicyDecisionPoint} {request : AuthorizationRequest}

/-- `rule.rationale or f"…"`, which a decision refuses if it is blank. -/
def rationaleOf (rule : PolicyRule) (otherwise : String) : Except PyError Text :=
  requireNonEmpty (if rule.rationale = "" then otherwise else rule.rationale) "rationale"

/-- What a bundle says through the rule which matched, if one did. -/
def judge (bundle : PolicyBundle) (digest : Sha256Hex) :
    Option PolicyRule → Except PyError AuthorizationDecision
  | none =>
    .ok (.denyCiting
      ⟨"no rule in the active bundle matches this action; deny by default", by decide⟩
      bundle.bundleId digest [] .policyDenied)
  | some rule => do
    let name := Runtime.reprStr rule.name.val
    match rule.effect with
    | .deny =>
      let rationale ← rationaleOf rule ("denied by rule " ++ name)
      return .denyCiting rationale bundle.bundleId digest [rule.name] .policyDenied
    | .requireApproval =>
      let rationale ← rationaleOf rule ("rule " ++ name ++ " requires human approval")
      return .requireApproval rationale bundle.bundleId digest [rule.name]
    | .allow =>
      let rationale ← rationaleOf rule ("permitted by rule " ++ name)
      return .allow rationale bundle.bundleId digest [rule.name]

/-- The first rule which matches decides. -/
def decide (point : DeclarativePolicyDecisionPoint) (request : AuthorizationRequest) :
    Except PyError AuthorizationDecision := do
  let signed ← point.active request.principal.tenantId
  let digest ← signed.bundle.digest
  judge signed.bundle digest (signed.bundle.matchingRule request.action)

/-- The first rule which matches the action in the active bundle allows it, for a reason a decision
can state. -/
def Permits (point : DeclarativePolicyDecisionPoint) (tenantId : Identifier)
    (action : ProposedAction) : Prop :=
  ∃ signed rule, point.active tenantId = .ok signed ∧
    signed.bundle.matchingRule action = some rule ∧ rule.effect = .allow ∧
    (rule.rationale = "" ∨ isBlank rule.rationale = false)

theorem exists_canonicalPayload (bundle : PolicyBundle) :
    ∃ payload, bundle.canonicalPayload = .ok payload := by
  refine canonicalBytes_ok_iff.mpr ?_
  have rules : ∀ rule ∈ bundle.rules,
      (Value.record (dictOf rule.asEvidence)).isCanonical = true := by
    intro rule _
    rw [dictOf_of_nodup (by simp [PolicyRule.asEvidence])]
    simp [PolicyRule.asEvidence, Value.isCanonical]
  simpa [Value.isCanonical, Value.ofNat] using rules

theorem exists_digest (bundle : PolicyBundle) : ∃ digest, bundle.digest = .ok digest := by
  obtain ⟨payload, payload_eq⟩ := exists_canonicalPayload bundle
  exact ⟨_, bind_eq_ok_iff.mpr ⟨payload, payload_eq, rfl⟩⟩

omit [Runtime] in
theorem exists_rationaleOf_iff {rule : PolicyRule} {otherwise : String}
    (usable : isBlank otherwise = false) :
    (∃ rationale, rationaleOf rule otherwise = .ok rationale) ↔
      rule.rationale = "" ∨ isBlank rule.rationale = false := by
  unfold rationaleOf requireNonEmpty
  by_cases empty : rule.rationale = ""
  · simp [empty, usable]
  · cases blank : isBlank rule.rationale <;> simp [empty, blank]

omit [Runtime] in
private theorem isBlank_permitted (name : String) :
    isBlank ("permitted by rule " ++ name) = false := by
  rw [isBlank_append]
  rfl

/-- Whatever the decision point allows, a rule permits. -/
theorem permits_of_allow {decision : AuthorizationDecision}
    (decided : point.decide request = .ok decision) (allowed : decision.effect = .allow) :
    point.Permits request.principal.tenantId request.action := by
  obtain ⟨signed, found, decided⟩ := bind_eq_ok_iff.mp decided
  obtain ⟨digest, -, decided⟩ := bind_eq_ok_iff.mp decided
  cases matched : signed.bundle.matchingRule request.action with
  | none =>
    rw [matched] at decided
    cases decided
    cases allowed
  | some rule =>
    rw [matched, judge] at decided
    split at decided
    next =>
      obtain ⟨rationale, -, decided⟩ := bind_eq_ok_iff.mp decided
      cases decided
      cases allowed
    next =>
      obtain ⟨rationale, -, decided⟩ := bind_eq_ok_iff.mp decided
      cases decided
      cases allowed
    next effect =>
      obtain ⟨rationale, explained, -⟩ := bind_eq_ok_iff.mp decided
      exact ⟨signed, rule, found, matched, effect,
        (exists_rationaleOf_iff (isBlank_permitted _)).mp ⟨rationale, explained⟩⟩

theorem exists_allow (permits : point.Permits request.principal.tenantId request.action) :
    ∃ decision, point.decide request = .ok decision ∧ decision.effect = .allow ∧
      decision.obligations = [] := by
  obtain ⟨signed, rule, found, matched, effect, explained⟩ := permits
  obtain ⟨digest, digest_eq⟩ := exists_digest signed.bundle
  obtain ⟨rationale, rationale_eq⟩ :=
    (exists_rationaleOf_iff (isBlank_permitted (Runtime.reprStr rule.name.val))).mpr explained
  refine ⟨.allow rationale signed.bundle.bundleId digest [rule.name],
    bind_eq_ok_iff.mpr ⟨signed, found, bind_eq_ok_iff.mpr ⟨digest, digest_eq, ?_⟩⟩,
    rfl, rfl⟩
  rw [matched, judge]
  simp only [effect]
  exact bind_eq_ok_iff.mpr ⟨rationale, rationale_eq, rfl⟩

end DeclarativePolicyDecisionPoint

end GlassBox
