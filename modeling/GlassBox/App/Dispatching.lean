import GlassBox.App.FailClosed
import GlassBox.Domain.CanonicalForm

/-!
# When an action reaches the dispatcher

A call hands its action to the dispatcher exactly when each of its stages lets the action pass, the
policy allows it without a blocking obligation, and its record becomes durable.
-/

namespace GlassBox

open EStateM
open Except (bind_eq_ok_iff)

theorem eq_of_length_le_one {α : Type} {left right : List α} (single : left.length ≤ 1)
    (single' : right.length ≤ 1) (same : ∀ item, item ∈ left ↔ item ∈ right) : left = right := by
  cases left with
  | nil => simpa [List.eq_nil_iff_forall_not_mem, eq_comm] using same
  | cons item rest =>
    have member := (same item).mp List.mem_cons_self
    obtain rfl : rest = [] := by simpa using single
    cases right with
    | nil => cases member
    | cons item' rest' =>
      obtain rfl : rest' = [] := by simpa using single'
      rw [List.mem_singleton.mp member]

namespace EvidenceStore

variable {ε : Type} (store : EvidenceStore ε)

def Accepts (evidence : ε) (record : IntentRecord) : Prop :=
  ∃ receipt after, store.appendIntent record evidence = .ok receipt after

/-- The store refuses none of two records of a decision for what it says, as long as it has a
canonical form. -/
def EvenHanded (evidence : ε) : Prop :=
  ∀ record record' : IntentRecord, record.decisionId = record'.decisionId →
    record.segmentId = record'.segmentId →
    ((Value.record record.asEvidence).isCanonical = true →
      (Value.record record'.asEvidence).isCanonical = true) →
    store.Accepts evidence record → store.Accepts evidence record'

theorem accepts_iff_ends {evidence : ε} {record : IntentRecord} : store.Accepts evidence record ↔
    (store.appendIntent record).Ends evidence (fun _ _ => True) fun _ _ => False := by
  constructor
  · rintro ⟨receipt, after, written⟩
    exact (ends_of_ok written).mpr trivial
  · intro ends
    obtain ⟨receipt, after, written, -⟩ := exists_of_ends ends
    exact ⟨receipt, after, written⟩

end EvidenceStore

/-- The signer makes a code for the payload which a receipt can carry. -/
def MacSigner.Signs {κ : Type} (signer : MacSigner κ) (state : κ) (payload : ByteString) : Prop :=
  (signer.mac payload).Ends state
    (fun mac after => 32 ≤ mac.length ∧ ∃ keyId : Identifier, keyId.val = signer.keyId after)
    fun _ _ => False

theorem EvidenceReceipt.exists_make_iff {decisionId segmentId : Identifier} {seq : Nat}
    {mac : ByteString} {signerKeyId : String} {persistedAt : Timestamp} :
    (∃ receipt, make decisionId segmentId seq mac signerKeyId persistedAt = .ok receipt) ↔
      32 ≤ mac.length ∧ ∃ keyId : Identifier, keyId.val = signerKeyId := by
  constructor
  · rintro ⟨receipt, made⟩
    obtain ⟨code, mac_eq, made⟩ := bind_eq_ok_iff.mp made
    obtain ⟨keyId, keyId_eq, -⟩ := bind_eq_ok_iff.mp made
    refine ⟨?_, keyId, requireIdentifier_eq_ok_iff.mp keyId_eq⟩
    rw [← val_of_requireMac mac_eq]
    exact code.property
  · rintro ⟨long, keyId, keyId_eq⟩
    exact ⟨_, bind_eq_ok_iff.mpr ⟨⟨mac, long⟩, dif_pos long,
      bind_eq_ok_iff.mpr ⟨keyId, requireIdentifier_eq_ok_iff.mpr keyId_eq, rfl⟩⟩⟩

namespace InMemoryEvidenceStore

variable [Runtime] {κ : Type} {signer : MacSigner κ} {evidence : Signed κ InMemoryEvidenceStore}

/-- The in-memory store takes the record of a known decision, and one whose payload is signed. -/
theorem accepts_port_iff {record : IntentRecord} : (port signer).Accepts evidence record ↔
    evidence.store.receipts record.decisionId.val ≠ none ∨
      ∃ payload, record.chainPayload (evidence.store.nextSeq record.segmentId.val)
        (lastHash (evidence.store.rows record.segmentId.val)) = .ok payload ∧
        signer.Signs evidence.signer payload := by
  rw [EvidenceStore.accepts_iff_ends]
  simp only [port, appendIntent, ends_bind, ends_get]
  cases existing : evidence.store.receipts record.decisionId.val with
  | some receipt => simp
  | none =>
    have opened : (openSegment record evidence.store).nextSeq record.segmentId.val =
        evidence.store.nextSeq record.segmentId.val := by
      unfold nextSeq
      rw [rows_openSegment]
      rfl
    simp only [ends_bind, Signed.modifyStore, ends_modify, ends_get,
      ends_ofExcept, ne_eq, not_true_eq_false, false_or, opened, rows_openSegment,
      Signed.onSigner, ends_zoom]
    cases record.chainPayload (evidence.store.nextSeq record.segmentId.val)
        (lastHash (evidence.store.rows record.segmentId.val)) with
    | error error => simp
    | ok payload =>
      simp only [Except.ok.injEq, exists_eq_left', MacSigner.macOfRecord,
        MacSigner.refusing, ends_tryCatch]
      refine ends_congr (fun mac after => ?_) fun error _ => ?_
      · rw [← @EvidenceReceipt.exists_make_iff record.decisionId record.segmentId
          (evidence.store.nextSeq record.segmentId.val) mac _ record.createdAt]
        split <;> simp [*]
      · split <;> simp

/-- The in-memory store is even-handed if its signer signs every payload as well as any other. -/
theorem evenHanded_port (alike : ∀ payload payload', signer.Signs evidence.signer payload →
      signer.Signs evidence.signer payload') : (port signer).EvenHanded evidence := by
  intro record record' decisionId segmentId canonical accepted
  rw [accepts_port_iff] at accepted ⊢
  rw [← decisionId, ← segmentId]
  rcases accepted with known | ⟨payload, payload_eq, signs⟩
  · exact .inl known
  · obtain ⟨seq, prevHash, form⟩ := chainPayload_ok_iff.mp ⟨payload, payload_eq⟩
    obtain ⟨payload', payload'_eq⟩ := chainPayload_ok_iff.mpr ⟨seq, prevHash, canonical form⟩
    exact .inr ⟨payload', payload'_eq, alike payload payload' signs⟩

theorem evenHanded_counter {number : UInt8} {store : InMemoryEvidenceStore} :
    (port MacSigner.counter).EvenHanded ⟨number, store⟩ := by
  refine evenHanded_port fun _ _ _ => ?_
  exact ⟨by simp [MacSigner.numberedCode], ⟨"counter", by decide⟩, rfl⟩

end InMemoryEvidenceStore

namespace DecisionService

/-- A check which runs and has no objection. -/
def Passes (check : Except PyError StageResult) : Prop :=
  ∃ result, check = .ok result ∧ result.denial = none

section Authorisation

theorem overrule_none (decision : AuthorizationDecision) : overrule decision none = decision := by
  unfold overrule
  split <;> rfl

variable {progress after : Progress} {skip : StageOutcome} {check : Except PyError StageResult}

theorem Progress.of_advance (clear : progress.denial = none)
    (advanced : progress.advance skip check = .ok after) :
    ∃ result, check = .ok result ∧
      after = ⟨progress.stages ++ [result.outcome], result.denial⟩ := by
  unfold Progress.advance at advanced
  rw [clear] at advanced
  obtain ⟨result, checked, advanced⟩ := bind_eq_ok_iff.mp advanced
  cases advanced
  exact ⟨result, checked, rfl⟩

theorem Progress.stages_advance (advanced : progress.advance skip check = .ok after) :
    ∃ outcome, after.stages = progress.stages ++ [outcome] := by
  cases denied : progress.denial with
  | some denial =>
    unfold Progress.advance at advanced
    rw [denied] at advanced
    cases advanced
    exact ⟨skip, rfl⟩
  | none =>
    obtain ⟨result, -, rfl⟩ := Progress.of_advance denied advanced
    exact ⟨result.outcome, rfl⟩

theorem Progress.clears_iff :
    (∃ after, progress.advance skip check = .ok after ∧ after.denial = none) ↔
      progress.denial = none ∧ Passes check := by
  cases denied : progress.denial with
  | some denial => simp [Progress.advance, denied]
  | none =>
    constructor
    · rintro ⟨after, advanced, clear⟩
      obtain ⟨result, checked, rfl⟩ := Progress.of_advance denied advanced
      exact ⟨rfl, result, checked, clear⟩
    · rintro ⟨-, result, rfl, clear⟩
      simp only [Progress.advance, denied]
      exact ⟨_, rfl, clear⟩

/-- A further check clears a call which is clear exactly when the check passes. -/
theorem Progress.clears_bind_iff {first : Except PyError Progress} :
    (∃ last, (first >>= fun progress => progress.advance skip check) = .ok last ∧
      last.denial = none) ↔
      (∃ progress, first = .ok progress ∧ progress.denial = none) ∧ Passes check := by
  constructor
  · rintro ⟨last, ran, clear⟩
    obtain ⟨progress, reached, advanced⟩ := bind_eq_ok_iff.mp ran
    obtain ⟨undenied, passes⟩ := clears_iff.mp ⟨last, advanced, clear⟩
    exact ⟨⟨progress, reached, undenied⟩, passes⟩
  · rintro ⟨⟨progress, reached, undenied⟩, passes⟩
    obtain ⟨last, advanced, clear⟩ := clears_iff.mpr ⟨undenied, passes⟩
    exact ⟨last, bind_eq_ok_iff.mpr ⟨progress, reached, advanced⟩, clear⟩

variable [Runtime] {ρ : Type} (queries : Queries ρ) (environment : ρ) {call : Evaluation}

/-- No stage before policy objects to the call. -/
structure Preliminary (call : Evaluation) : Prop where
  registered : call.toolRegistry.denial = none
  catalogued : call.catalogue.denial = none
  identified : Passes (checkIdentityAssertion queries environment call)
  switched : Passes (checkKillSwitch queries environment call.principal.tenantId call.action)
  mandated : Passes (checkMandate queries environment call.principal call.action call.now)

theorem preliminary_iff : (∃ progress, preliminaries queries environment call = .ok progress ∧
      progress.denial = none) ↔ Preliminary queries environment call := by
  unfold preliminaries
  rw [← bind_assoc, ← bind_assoc, Progress.clears_bind_iff, Progress.clears_bind_iff,
    Progress.clears_bind_iff, Progress.clears_iff]
  constructor
  · rintro ⟨⟨⟨⟨registered, _, ⟨⟩, catalogued⟩, identified⟩, switched⟩, mandated⟩
    exact ⟨registered, catalogued, identified, switched, mandated⟩
  · rintro ⟨registered, catalogued, identified, switched, mandated⟩
    exact ⟨⟨⟨⟨registered, _, rfl, catalogued⟩, identified⟩, switched⟩, mandated⟩

/-- The first seven stages let the call pass with this decision and this risk. -/
structure Authorises (config : ServiceConfig) (call : Evaluation)
    (decision : AuthorizationDecision) (risk : RiskScore) : Prop
    extends Preliminary queries environment call where
  policy : ∃ request outcome,
    AuthorizationRequest.make call.decisionId call.principal call.action call.now = .ok request ∧
      checkPolicy queries environment request = .ok (decision, outcome)
  assessed : ∃ result, computeRisk queries environment call.action call.now = .ok (risk, result) ∧
    result.denial = none
  threshold : checkRiskThreshold config risk = none

variable {queries environment} {decision : AuthorizationDecision}

omit [Runtime] in
theorem checkPolicy_iff {request : AuthorizationRequest} (undenied : decision.effect ≠ .deny) :
    (∃ outcome, checkPolicy queries environment request = .ok (decision, outcome)) ↔
      queries.decide environment request = .ok decision := by
  constructor
  · rintro ⟨outcome, checked⟩
    obtain ⟨answer, asked, checked⟩ := bind_eq_ok_iff.mp checked
    cases answer with
    | none =>
      cases checked
      exact absurd rfl undenied
    | some decided =>
      cases checked
      exact Except.attempt_eq_some_iff.mp asked
  · intro decided
    exact ⟨_, bind_eq_ok_iff.mpr
      ⟨some decision, Except.attempt_eq_some_iff.mpr decided, rfl⟩⟩

/-- A call is authorised without a denial exactly when its stages let it pass. -/
theorem authorises_iff {config : ServiceConfig} {resolving : Option Stage} {risk : RiskScore}
    (staged : Staged resolving call) (allowed : decision.effect ≠ .deny) :
    (∃ authorised, authorise queries environment config call = .ok authorised ∧
      authorised.decision = decision ∧ authorised.risk = risk) ↔
      Authorises queries environment config call decision risk := by
  constructor
  · rintro ⟨authorised, ran, rfl, rfl⟩
    obtain ⟨progress, prepared, ran⟩ := bind_eq_ok_iff.mp ran
    obtain ⟨⟨decided, policy⟩, answered, ran⟩ := bind_eq_ok_iff.mp ran
    obtain ⟨⟨risk, assessed⟩, computed, ran⟩ := bind_eq_ok_iff.mp ran
    cases ran
    have assessment : assessed.Sound .risk True True := computeRisk_sound computed
    obtain ⟨threshold, unchanged⟩ := overrule_cleared effect_of_checkRiskThreshold allowed
    rw [unchanged] at allowed
    obtain ⟨unassessed, unassessed_eq⟩ := overrule_cleared assessment.denies allowed
    rw [unassessed_eq] at allowed
    have denies := (preliminaries_sound staged prepared).denies
    have clear := ((policyStage_cleared denies answered).2 allowed).1
    have preliminary := (preliminary_iff queries environment).mp ⟨progress, prepared, clear⟩
    unfold policyStage at answered
    rw [clear] at answered
    obtain ⟨request, requested, answered⟩ := bind_eq_ok_iff.mp answered
    rw [← unassessed_eq, ← unchanged] at answered
    exact ⟨preliminary, ⟨request, policy, requested, answered⟩,
      ⟨assessed, computed, unassessed⟩, threshold⟩
  · intro passes
    obtain ⟨progress, prepared, clear⟩ :=
      (preliminary_iff queries environment).mpr passes.toPreliminary
    obtain ⟨request, outcome, requested, answered⟩ := passes.policy
    obtain ⟨result, computed, unassessed⟩ := passes.assessed
    have policy : policyStage queries environment call progress = .ok (decision, outcome) := by
      unfold policyStage
      rw [clear]
      exact bind_eq_ok_iff.mpr ⟨request, requested, answered⟩
    refine ⟨_, bind_eq_ok_iff.mpr ⟨progress, prepared, bind_eq_ok_iff.mpr
      ⟨_, policy, bind_eq_ok_iff.mpr ⟨_, computed, rfl⟩⟩⟩, ?_, rfl⟩
    simp only [unassessed, passes.threshold, overrule_none]

end Authorisation

section Charging

variable [Runtime] {ρ ε ℓ β : Type} (runtime : GovernanceRuntime ρ ε ℓ β) (call : Evaluation)

/-- The limit stage lets the call pass with what the limit store answered. -/
def Admits (before : ℓ) (verdict : Option LimitVerdict) : Prop :=
  ∃ key, limitKeyFor runtime.config call.principal call.action = .ok key ∧
    (attempt (PyError.isA · .limitStoreUnavailable)
      (runtime.limitStore.tryConsume key 1 call.decisionId call.now)).Ends before
      (fun answer _ => answer = verdict) (fun _ _ => False) ∧
    ((verdict.map judgeLimit).getD (limitsUnavailable call.action)).denial = none

/-- The baseline stage lets the call pass. -/
def Unremarkable (before : β) : Prop :=
  (checkBaseline runtime call).Ends before (fun result _ => result.denial = none)
    (fun _ _ => False)

variable {runtime call} {authorised : Authorised} {verdict : Option LimitVerdict}

/-- The limit stage keeps a decision exactly when it has no objection. -/
theorem effect_judged_iff {decision : AuthorizationDecision} (undenied : decision.effect ≠ .deny)
    (answer : Option LimitVerdict) :
    (((answer.map judgeLimit).getD (limitsUnavailable call.action)).denial.getD decision).effect ≠
        .deny ↔
      ((answer.map judgeLimit).getD (limitsUnavailable call.action)).denial = none := by
  have sound : ((answer.map judgeLimit).getD (limitsUnavailable call.action)).Sound .limits
      (call.action.consequence.mayDegradeOnDependencyFailure = false) True := by
    cases answer with
    | none => exact limitsUnavailable_sound
    | some verdict => exact judgeLimit_sound.mono fun _ => trivial
  cases denial : ((answer.map judgeLimit).getD (limitsUnavailable call.action)).denial with
  | none => simpa using undenied
  | some later => simpa using sound.denies later denial

theorem limitStage_clear_iff (undenied : authorised.decision.effect ≠ .deny) (before : ℓ) :
    (limitStage runtime call authorised).Ends before
      (fun limited _ => limited.decision.effect ≠ .deny ∧ limited.verdict = verdict)
      (fun _ _ => False) ↔ Admits runtime call before verdict := by
  unfold limitStage Admits
  rw [if_neg undenied]
  cases limitKeyFor runtime.config call.principal call.action with
  | error error => simp
  | ok key =>
    simp only [ends_bind, ends_ofExcept, ends_pure,
      effect_judged_iff undenied, Except.ok.injEq, exists_eq_left']
    constructor
    · intro ends
      refine ⟨ends.mono (fun _ _ passed => passed.2) fun _ _ absurd => absurd, ?_⟩
      obtain ⟨answer, after, -, clear, rfl⟩ := exists_of_ends ends
      exact clear
    · rintro ⟨ends, clear⟩
      refine ends.mono ?_ fun _ _ absurd => absurd
      rintro answer after rfl
      exact ⟨clear, rfl⟩

/-- What is charged keeps the stages and the risk of its authorisation. -/
theorem charge_decidedBy (authorised : Authorised) (before : Charges ℓ β) :
    (charge runtime call authorised).Ends before
      (fun decided _ => ∃ limited baseline, decided = decidedBy authorised limited baseline)
      (fun _ _ => True) := by
  simp only [charge, ends_bind]
  refine ends_of_forall (fun limited _ => ?_) fun _ _ => trivial
  split
  next => exact ⟨_, _, rfl⟩
  next =>
    simp only [ends_bind]
    refine ends_of_forall (fun baseline _ => ?_) fun _ _ => trivial
    split
    next => exact ⟨_, _, rfl⟩
    next =>
      rw [ends_bind]
      exact ends_of_forall (fun _ _ => ⟨_, _, rfl⟩) fun _ _ => trivial

theorem charge_of_denied (denied : authorised.decision.effect = .deny) (before : Charges ℓ β) :
    (charge runtime call authorised).Ends before
      (fun decided after => decided.decision = authorised.decision ∧ after = before)
      (fun _ _ => False) := by
  simp only [charge, ends_bind, Charges.onLimits, ends_zoom, limitStage,
    if_pos denied, ends_pure, and_true]
  rfl

/-- The two charging stages keep a decision exactly when neither objects. -/
theorem charge_clear_iff (undenied : authorised.decision.effect ≠ .deny) (before : Charges ℓ β) :
    (charge runtime call authorised).Ends before
      (fun decided _ => decided.decision = authorised.decision ∧
        decided.risk = authorised.risk ∧ decided.limited.verdict = verdict)
      (fun _ _ => False) ↔
    Admits runtime call before.limits verdict ∧ Unremarkable runtime call before.baselines := by
  rw [← limitStage_clear_iff undenied]
  simp only [charge, ends_bind, Charges.onLimits, ends_zoom]
  cases limiting : limitStage runtime call authorised before.limits with
  | error error limits => simp only [ends_of_error limiting, false_and]
  | ok limited limits =>
    have sound := (ends_of_ok limiting).mp (limitStage_sound authorised before.limits)
    simp only [ends_of_ok limiting]
    by_cases denied : limited.decision.effect = .deny
    · have other : limited.decision ≠ authorised.decision := fun same =>
        undenied (same ▸ denied)
      simp [denied, decidedBy, StageResult.skipped, other]
    · have unchanged := (sound.cleared denied).1
      simp only [denied, if_false, ends_bind, Charges.onBaselines, ends_zoom, Unremarkable]
      cases comparing : checkBaseline runtime call before.baselines with
      | error error baselines => simp only [ends_of_error comparing, and_false]
      | ok baseline baselines =>
        simp only [ends_of_ok comparing]
        have compared := (ends_of_ok comparing).mp
          (checkBaseline_sound none before.baselines)
        cases denial : baseline.denial with
        | none => simp [decidedBy, denial, unchanged, undenied]
        | some later =>
          have other : later ≠ authorised.decision := fun same =>
            undenied (same ▸ compared.denies later denial)
          simp only [ends_bind, reduceCtorEq, and_false, iff_false]
          intro ends
          obtain ⟨_, _, -, kept, -⟩ := exists_of_ends ends
          simp only [decidedBy, denial] at kept
          exact other kept

end Charging

section Recording

structure Recordable (config : ServiceConfig) (call : Evaluation) : Prop where
  decisionId : ∃ identifier : Identifier, identifier.val = call.decisionId
  segmentId : ∃ identifier : Identifier,
    identifier.val = segmentIdFor config call.principal.tenantId call.now
  createdAt : ∃ timestamp : Timestamp, timestamp.val = call.now
  traceId : ∃ identifier : Identifier, identifier.val = call.traceId
  causationId : ∃ cause : Option Identifier, cause.map Subtype.val = call.causationId
  tenantId : call.action.tenantId = call.principal.tenantId

/-- What a call hands to the evidence store once its stages let it pass. -/
def IntentOf (config : ServiceConfig) (call : Evaluation) (decision : AuthorizationDecision)
    (risk : RiskScore) (verdict : Option LimitVerdict) (record : IntentRecord) : Prop :=
  ∃ decided : Decided, decided.risk = risk ∧ decided.limited.verdict = verdict ∧
    intentRecord config call decided decision = .ok record

structure Writable (call : Evaluation) (decision : AuthorizationDecision) (risk : RiskScore)
    (verdict : Option LimitVerdict) : Prop where
  principal : (Value.record call.principal.asEvidence).isCanonical = true
  action : (Value.record (call.action.withRedactedParameters
    call.sensitiveParameterFields).asEvidence).isCanonical = true
  decision : (Value.record decision.asEvidence).isCanonical = true
  risk : (Value.record risk.asEvidence).isCanonical = true
  verdict : ∀ given ∈ verdict, (Value.record given.asEvidence).isCanonical = true

variable {config : ServiceConfig} {call : Evaluation} {decision : AuthorizationDecision}
  {risk : RiskScore} {verdict : Option LimitVerdict} {record : IntentRecord}

theorem exists_intentRecord (recordable : Recordable config call) (decided : Decided)
    (decision : AuthorizationDecision) :
    ∃ record, intentRecord config call decided decision = .ok record := by
  obtain ⟨⟨decisionId, decisionId_eq⟩, ⟨segmentId, segmentId_eq⟩, ⟨createdAt, createdAt_eq⟩,
    ⟨traceId, traceId_eq⟩, ⟨causationId, causationId_eq⟩, tenantId⟩ := recordable
  unfold intentRecord
  rw [← decisionId_eq, ← segmentId_eq, ← createdAt_eq, ← traceId_eq, ← causationId_eq]
  rw [← call.action.tenantId_withRedactedParameters call.sensitiveParameterFields] at tenantId
  rw [IntentRecord.make_eq_ok decisionId segmentId traceId createdAt causationId tenantId]
  exact ⟨_, rfl⟩

namespace IntentOf

section

variable (intent : IntentOf config call decision risk verdict record)
include intent

theorem recordable :
    Recordable config call := by
  obtain ⟨decided, -, -, recorded⟩ := intent
  obtain ⟨decisionId, segmentId, createdAt, principal, action, -, -, -, traceId, causationId⟩ :=
    IntentRecord.of_make recorded
  refine ⟨⟨_, decisionId⟩, ⟨_, segmentId⟩, ⟨_, createdAt⟩, ⟨_, traceId⟩, ⟨_, causationId⟩, ?_⟩
  have tenantId := record.action_tenant.trans record.principal_tenant.symm
  rw [principal, action] at tenantId
  exact tenantId

theorem writable_iff :
    (Value.record record.asEvidence).isCanonical = true ↔
      Writable call decision risk verdict := by
  obtain ⟨decided, rfl, rfl, recorded⟩ := intent
  obtain ⟨-, -, -, principal, action, decision, limits, -⟩ := IntentRecord.of_make recorded
  obtain ⟨risk, attributes⟩ := IntentRecord.risk_of_make recorded
  rw [IntentRecord.isCanonical_asEvidence, principal, action, decision, limits, risk, attributes]
  constructor
  · rintro ⟨principal, action, decision, risk, limits, -⟩
    exact ⟨principal, action, decision, risk, fun given member => limits given
      (by simpa using member)⟩
  · rintro ⟨principal, action, decision, risk, limits⟩
    exact ⟨principal, action, decision, risk, fun given member => limits given
      (by simpa using member), rfl⟩

/-- An even-handed store treats the records of two calls of one decision alike. -/
theorem accepts {ε : Type} {store : EvidenceStore ε} {evidence : ε} {call' : Evaluation}
    {decision' : AuthorizationDecision} {risk' : RiskScore} {verdict' : Option LimitVerdict}
    {record' : IntentRecord} (evenHanded : store.EvenHanded evidence)
    (intent' : IntentOf config call' decision' risk' verdict' record')
    (decisionId : call.decisionId = call'.decisionId)
    (tenantId : call.principal.tenantId = call'.principal.tenantId) (now : call.now = call'.now)
    (writable : Writable call decision risk verdict → Writable call' decision' risk' verdict')
    (accepted : store.Accepts evidence record) : store.Accepts evidence record' := by
  refine evenHanded record record' ?_ ?_ ?_ accepted
  · obtain ⟨_, -, -, recorded⟩ := intent
    obtain ⟨_, -, -, recorded'⟩ := intent'
    exact Subtype.ext ((IntentRecord.of_make recorded).1.trans
      (decisionId.trans (IntentRecord.of_make recorded').1.symm))
  · obtain ⟨_, -, -, recorded⟩ := intent
    obtain ⟨_, -, -, recorded'⟩ := intent'
    refine Subtype.ext ((IntentRecord.of_make recorded).2.1.trans ?_)
    rw [tenantId, now]
    exact (IntentRecord.of_make recorded').2.1.symm
  · rw [intent.writable_iff, intent'.writable_iff]
    exact writable

end

end IntentOf

end Recording

section HandingOver

variable [Runtime] {ρ ε ℓ β : Type} (runtime : GovernanceRuntime ρ ε ℓ β)

def newEvents (entry : Entry) (before : World ρ ε ℓ β) : List (Event ε) :=
  ((perform runtime entry).after before).history.drop before.history.length

def HandsOver (entry : Entry) (before : World ρ ε ℓ β) (action : ProposedAction) : Prop :=
  ∃ sensitive receipt evidence,
    .dispatched action sensitive receipt evidence ∈ newEvents runtime entry before

/-- Every stage lets the call pass, and nothing holds its action back. -/
structure Cleared (call : Evaluation) (before : World ρ ε ℓ β) (decision : AuthorizationDecision)
    (risk : RiskScore) (verdict : Option LimitVerdict) : Prop
    extends Authorises runtime.queries before.environment runtime.config call decision risk where
  dispatches : Dispatches call decision
  admitted : Admits runtime call before.charges.limits verdict
  unremarkable : Unremarkable runtime call before.charges.baselines

variable {runtime} {call : Evaluation} {before : World ρ ε ℓ β} {decision : AuthorizationDecision}
  {risk : RiskScore} {verdict : Option LimitVerdict} {entry : Entry} {action : ProposedAction}

theorem Cleared.effect_ne_deny (cleared : Cleared runtime call before decision risk verdict) :
    decision.effect ≠ .deny := by
  rw [cleared.dispatches.1]
  decide

theorem newEvents_eq {events : List (Event ε)}
    (history : ((perform runtime entry).after before).history = before.history ++ events) :
    newEvents runtime entry before = events := by
  rw [newEvents, history, List.drop_left]

theorem exists_handsOver_iff : (∃ action, HandsOver runtime entry before action) ↔
      (newEvents runtime entry before).any Event.isDispatch = true := by
  rw [List.any_eq_true]
  constructor
  · rintro ⟨action, sensitive, receipt, evidence, member⟩
    exact ⟨_, member, rfl⟩
  · rintro ⟨event, member, dispatch⟩
    cases event with
    | intentAppended | workflowCreated => cases dispatch
    | dispatched action sensitive receipt evidence =>
      exact ⟨action, sensitive, receipt, evidence, member⟩

theorem exists_handsOver_of_consequential
    (dispatched : (newEvents runtime entry before).any isConsequentialDispatch = true) :
    ∃ action, HandsOver runtime entry before action ∧
      action.consequence.mayDegradeOnDependencyFailure = false := by
  obtain ⟨event, member, consequential⟩ := List.any_eq_true.mp dispatched
  cases event with
  | intentAppended | workflowCreated => cases consequential
  | dispatched action sensitive receipt evidence =>
    exact ⟨action, ⟨sensitive, receipt, evidence, member⟩,
      by simpa [isConsequentialDispatch] using consequential⟩

/-- What was handed over passed every stage, and the store took its record. -/
theorem HandsOver.cleared (handed : HandsOver runtime entry before action) :
    ∃ call decision risk verdict record,
      entry.prepare runtime.queries before.environment = .ok call ∧ call.action = action ∧
      Cleared runtime call before decision risk verdict ∧
      IntentOf runtime.config call decision risk verdict record ∧
      runtime.evidenceStore.Accepts before.evidence record := by
  obtain ⟨sensitive, receipt, evidence, member⟩ := handed
  obtain ⟨events, history, shape⟩ := perform_events runtime entry before
  rw [newEvents_eq history] at member
  rcases shape with rfl | ⟨call, prepared, shape⟩
  · cases member
  obtain ⟨rfl, -, decided, record, middle, records, written, dispatches, -⟩ :=
    shape.of_dispatched member
  obtain ⟨authorised, authorising, charging⟩ := records.charged
  have unbound : record.decision = decided.decision :=
    records.bound.eq (by rw [dispatches.1]; decide)
  have undenied : decided.decision.effect ≠ .deny := by
    rw [← unbound, dispatches.1]
    decide
  have sound := (ends_of_ok charging).mp
    (charge_sound entry.resolvingStage authorised before.charges)
  have unchanged := (sound.cleared undenied).1
  rw [unchanged] at undenied
  have assessed : decided.risk = authorised.risk := by
    obtain ⟨limited, baseline, rfl⟩ := (ends_of_ok charging).mp
      (charge_decidedBy authorised before.charges)
    rfl
  have charged := (charge_clear_iff undenied before.charges).mp
    ((ends_of_ok charging).mpr ⟨unchanged, assessed, rfl⟩)
  have authorises := (authorises_iff (staged_of_prepare prepared) undenied).mp
    ⟨authorised, authorising, rfl, rfl⟩
  rw [← unchanged, ← unbound, ← assessed] at authorises
  exact ⟨call, record.decision, decided.risk, decided.limited.verdict, record, prepared, rfl,
    ⟨authorises, dispatches, charged.1, charged.2⟩, ⟨decided, rfl, rfl, records.recorded⟩,
    receipt, evidence, written⟩

theorem Records.accepts {middle after : World ρ ε ℓ β} {decided : Decided} {record : IntentRecord}
    {outcome : DecisionOutcome} (records : Records runtime call before decided record middle)
    (returned : evaluate runtime call before = .ok outcome after) :
    runtime.evidenceStore.Accepts before.evidence record := by
  rw [evaluate_of_records records] at returned
  cases writing : runtime.evidenceStore.appendIntent record before.evidence with
  | ok receipt evidence => exact ⟨receipt, evidence, writing⟩
  | error error evidence =>
    have raises : (appendIntent runtime call decided record).Ends middle (fun _ _ => False)
        fun _ _ => True := by
      simp only [appendIntent, ends_bind, World.record, ends_modify,
        ends_tryCatch, World.onEvidence, ends_zoom, records.evidence]
      refine (ends_of_error writing).mpr ?_
      exact ends_of_forall (fun _ _ => trivial) fun _ _ => trivial
    have fails : (appendIntent runtime call decided record >>= act runtime call record).Ends
        middle (fun _ _ => False) fun _ _ => True :=
      (ends_bind ..).mpr (raises.mono (fun _ _ => False.elim) fun _ _ _ => trivial)
    exact ((ends_of_ok returned).mp fails).elim

omit [Runtime] in
/-- Recording an outcome leaves the history as the execution of the decision did. -/
theorem history_act_of_executes {record : IntentRecord} {receipt : EvidenceReceipt}
    (holds : List (Event ε) → Prop) (executed : ∀ result (after : World ρ ε ℓ β),
      Executes runtime call record.decision receipt before result after → holds after.history) :
    holds ((act runtime call record receipt).after before).history := by
  refine after_of_ends (fun after : World ρ ε ℓ β => holds after.history) ?_
  simp only [act, ends_bind]
  refine (ends_dispatchIfPermitted record.decision receipt record.createdAt before).mono ?_
    fun error after executes => executed _ _ executes
  rintro execution after ⟨executes, -⟩
  have history := executed _ _ executes
  simp only [recordOutcome, ends_tryCatch, World.onEvidence, ends_zoom]
  refine ends_of_forall (fun _ _ => history) fun error evidence => ?_
  split <;> exact history

/-- What passes every stage is handed over if the store takes its record. -/
theorem Cleared.handsOver (cleared : Cleared runtime call before decision risk verdict)
    (prepared : entry.prepare runtime.queries before.environment = .ok call)
    (proposed : call.action = action) (recordable : Recordable runtime.config call)
    (accepted : ∀ record, IntentOf runtime.config call decision risk verdict record →
      runtime.evidenceStore.Accepts before.evidence record) :
    HandsOver runtime entry before action := by
  subst proposed
  obtain ⟨authorised, authorising, rfl, rfl⟩ :=
    (authorises_iff (staged_of_prepare prepared) cleared.effect_ne_deny).mpr
      cleared.toAuthorises
  obtain ⟨decided, charges, charging, unchanged, assessed, judged⟩ := exists_of_ends
    ((charge_clear_iff cleared.effect_ne_deny before.charges).mpr
      ⟨cleared.admitted, cleared.unremarkable⟩)
  obtain ⟨record, recorded⟩ := exists_intentRecord recordable decided authorised.decision
  obtain ⟨receipt, evidence, written⟩ :=
    accepted record ⟨decided, assessed, judged, recorded⟩
  have stated : record.decision = authorised.decision := (IntentRecord.of_make recorded).2.2.2.2.2.1
  have unconditional : decided.decision.effect ≠ .requireApproval := by
    rw [unchanged, cleared.dispatches.1]
    decide
  have materialized : materializeApprovalMetadata runtime call decided { before with charges } =
      .ok decided.decision { before with charges } := by
    unfold materializeApprovalMetadata
    rw [dif_neg unconditional]
    rfl
  have records : Records runtime call before decided record { before with charges } := by
    rw [← stated] at recorded unchanged
    rw [unchanged] at materialized
    exact ⟨⟨⟨authorised, authorising, charging⟩, materialized⟩, recorded⟩
  have dispatches : Dispatches call record.decision := by
    rw [stated]
    exact cleared.dispatches
  have run : (perform runtime entry).after before = (act runtime call record receipt).after
        (afterAppend record { before with charges } evidence) := by
    unfold EStateM.after
    rw [perform_of_prepare prepared, evaluate_of_written records written]
  have history : ((perform runtime entry).after before).history = before.history ++
      [.intentAppended record, dispatchEvent call receipt evidence] := by
    rw [run]
    refine history_act_of_executes (· = before.history ++ _) fun result after executes => ?_
    rw [executes.history_of_dispatches dispatches]
    simp [afterAppend]
  refine ⟨call.sensitiveParameterFields, receipt, evidence, ?_⟩
  rw [newEvents_eq history]
  simp [dispatchEvent]

end HandingOver

section HandingIn

/-- The record handed to the evidence store in an event. -/
def intentOf {ε : Type} : Event ε → Option IntentRecord
  | .intentAppended record => some record
  | _ => none

theorem filterMap_workflowEvents {ρ ε ℓ β : Type} (runtime : GovernanceRuntime ρ ε ℓ β)
    (call : Evaluation) (decided : Decided) :
    (workflowEvents runtime call decided).filterMap intentOf = [] := by
  rw [List.filterMap_eq_nil_iff]
  intro event member
  obtain ⟨request, rfl⟩ := eq_workflowCreated_of_mem runtime member
  rfl

variable [Runtime] {ρ ε ℓ β : Type} (runtime : GovernanceRuntime ρ ε ℓ β)

/-- The records a call hands to the evidence store. -/
def intents (entry : Entry) (before : World ρ ε ℓ β) : List IntentRecord :=
  (newEvents runtime entry before).filterMap intentOf

variable {runtime} {entry : Entry} {before : World ρ ε ℓ β} {call : Evaluation}
  {record : IntentRecord}

theorem intents_of_prepare_error {error : PyError}
    (refused : entry.prepare runtime.queries before.environment = .error error) :
    intents runtime entry before = [] := by
  obtain ⟨events, history, rfl | ⟨call, prepared, -⟩⟩ := perform_events runtime entry before
  · rw [intents, newEvents_eq history]
    rfl
  · cases refused.symm.trans prepared

omit [Runtime] in
theorem history_prefix_act (receipt : EvidenceReceipt) (before : World ρ ε ℓ β) :
    before.history <+: ((act runtime call record receipt).after before).history := by
  refine history_act_of_executes (before.history <+: ·) fun result after executes => ?_
  cases executes with
  | withheld => exact List.prefix_refl _
  | performed | failed | raised => exact List.prefix_append _ _

/-- A recorded call hands its record to the evidence store. -/
theorem history_prefix_of_records {middle : World ρ ε ℓ β} {decided : Decided}
    (records : Records runtime call before decided record middle) :
    middle.history ++ [.intentAppended record] <+:
      ((evaluate runtime call).after before).history := by
  have run : (evaluate runtime call).after before =
      (appendIntent runtime call decided record >>= act runtime call record).after middle := by
    unfold EStateM.after
    rw [evaluate_of_records records]
  rw [run]
  refine after_of_ends (fun after : World ρ ε ℓ β =>
    middle.history ++ [.intentAppended record] <+: after.history) ?_
  simp only [appendIntent, ends_bind, World.record, ends_modify,
    ends_tryCatch, World.onEvidence, ends_zoom, World.onCharges]
  refine ends_of_forall (fun receipt evidence => ?_) fun error evidence => ?_
  · exact ends_iff_after.mpr
      (history_prefix_act receipt (afterAppend record middle evidence))
  · exact ends_of_forall (fun _ _ => List.prefix_refl _) fun _ _ => List.prefix_refl _

theorem mem_intents_iff (prepared : entry.prepare runtime.queries before.environment = .ok call) :
    record ∈ intents runtime entry before ↔
      ∃ decided middle, Records runtime call before decided record middle := by
  constructor
  · intro member
    obtain ⟨events, history, shape⟩ := perform_events runtime entry before
    rw [intents, newEvents_eq history, List.mem_filterMap] at member
    obtain ⟨event, member, handed⟩ := member
    rcases shape with rfl | ⟨other, prepared', shape⟩
    · cases member
    cases prepared.symm.trans prepared'
    cases event with
    | workflowCreated | dispatched => cases handed
    | intentAppended =>
      cases handed
      exact shape.of_intentAppended member
  · rintro ⟨decided, middle, records⟩
    obtain ⟨rest, history⟩ := history_prefix_of_records records
    have run : (perform runtime entry).after before = (evaluate runtime call).after before := by
      unfold EStateM.after
      rw [perform_of_prepare prepared]
    rw [records.history_append, List.append_assoc, ← run] at history
    rw [intents, newEvents_eq history.symm]
    simp [intentOf]

theorem length_intents_le : (intents runtime entry before).length ≤ 1 := by
  obtain ⟨events, history, rfl | ⟨call, prepared, shape⟩⟩ := perform_events runtime entry before
  · rw [intents, newEvents_eq history]
    simp
  · rw [intents, newEvents_eq history]
    cases shape with
    | undecided => simp
    | decided => simp [filterMap_workflowEvents]
    | recorded => simp [filterMap_workflowEvents, intentOf]
    | dispatched => simp [intentOf, dispatchEvent]

end HandingIn

end DecisionService

end GlassBox
