import GlassBox.App.Dispatching
import GlassBox.App.EvidenceBeforeEffect
import GlassBox.App.Reviewing

/-!
# Approval requests and their evidence

A decision service with an attached workflow engine.  The row of a workflow is written before the
record of its decision, and stays when the record is refused.
-/

namespace GlassBox

open EStateM

/-- The records an evidence store holds: none is lost, and a record is taken under a decision id
without one. -/
structure EvidenceStore.Keeps {ε : Type} (store : EvidenceStore ε) (sound : ε → Prop)
    (held : ε → IntentRecord → Prop) : Prop where
  sound_appendIntent : ∀ record evidence, sound evidence →
    sound ((store.appendIntent record).after evidence)
  sound_appendOutcome : ∀ receipt outcome evidence, sound evidence →
    sound ((store.appendOutcome receipt outcome).after evidence)
  held_appendIntent : ∀ record evidence other, held evidence other →
    held ((store.appendIntent record).after evidence) other
  held_appendOutcome : ∀ receipt outcome evidence other, held evidence other →
    held ((store.appendOutcome receipt outcome).after evidence) other
  taken : ∀ record evidence receipt after, sound evidence →
    store.appendIntent record evidence = .ok receipt after →
      held after record ∨ ∃ other, held evidence other ∧ other.decisionId = record.decisionId

namespace DecisionService

/-- A record which requires approval is held under the decision id. -/
def RequestEvidenced {ε : Type} (held : ε → IntentRecord → Prop) (evidence : ε)
    (decisionId : String) : Prop :=
  ∃ record, held evidence record ∧ record.decisionId.val = decisionId ∧
    record.decision.effect = .requireApproval

def PolicyRequiresApproval {ρ : Type} (queries : Queries ρ) (environment : ρ)
    (call : Evaluation) : Prop :=
  ∃ request decision,
    AuthorizationRequest.make call.decisionId call.principal call.action call.now = .ok request ∧
      queries.decide environment request = .ok decision ∧ decision.effect = .requireApproval

section Calls

variable [Runtime] {ρ ε ℓ β : Type} (runtime : GovernanceRuntime (Reviewing ρ) ε ℓ β)
  (held : ε → IntentRecord → Prop)

/-- Every row of the workflow engine is for a decision in evidence. -/
def RequestsEvidenced (world : World (Reviewing ρ) ε ℓ β) : Prop :=
  ∀ row ∈ world.environment.engine.store.rows,
    RequestEvidenced held world.evidence row.decisionId

/-- The record of the call can be made and is accepted, and a record held under its decision id
requires approval too. -/
structure Evidencing (call : Evaluation) (before : World (Reviewing ρ) ε ℓ β) : Prop where
  recordable : Recordable runtime.config call
  accepted : ∀ decided record middle, Records runtime call before decided record middle →
    runtime.evidenceStore.Accepts before.evidence record
  reused : ∀ other, held before.evidence other → other.decisionId.val = call.decisionId →
    other.decision.effect = .requireApproval

variable {runtime held} {settings : EngineSettings} {wallClock : ρ → ℚ} {sound : ε → Prop}
  {call : Evaluation} {before middle after : World (Reviewing ρ) ε ℓ β} {decided : Decided}
  {decision : AuthorizationDecision} {resolving : Option Stage} {row : WorkflowRow} {evidence : ε}

theorem policyRequiresApproval_of_decides (staged : Staged resolving call)
    (decides : Decides runtime call before decided decision middle)
    (requires : decided.decision.effect = .requireApproval) :
    PolicyRequiresApproval runtime.queries before.environment call := by
  obtain ⟨authorised, authorising, charging⟩ := decides.charged
  have charged := (ends_of_ok charging).mp (charge_sound resolving authorised _)
  have undenied : decided.decision.effect ≠ .deny := by
    rw [requires]
    nofun
  have unchanged := (charged.cleared undenied).1
  rw [unchanged] at requires undenied
  have authorises := (authorises_iff staged undenied).mp ⟨authorised, authorising, rfl, rfl⟩
  obtain ⟨request, outcome, requested, checked⟩ := authorises.policy
  exact ⟨request, authorised.decision, requested, (checkPolicy_iff undenied).mp ⟨outcome, checked⟩,
    requires⟩

section

variable (attached : EngineAttached runtime settings wallClock)
include attached

theorem mem_rows_of_decides (decides : Decides runtime call before decided decision middle)
    (member : row ∈ middle.environment.engine.store.rows) :
    row ∈ before.environment.engine.store.rows ∨
      row.decisionId = call.decisionId ∧ decided.decision.effect = .requireApproval ∧
        call.suppressDispatch = false := by
  rcases decides.asked with same | ⟨requires, live, create, engine, asked⟩
  · rw [same] at member
    exact .inl member
  · rw [attached.workflow] at engine
    cases engine
    rw [asked, engine_createReview] at member
    exact (mem_rows_step_createFromDecision member).imp_right fun created =>
      ⟨created, requires, live⟩

omit [Runtime] in
/-- What is dispatched leaves the workflow engine alone. -/
theorem engine_of_executes {receipt : EvidenceReceipt} {result : Except PyError ExecutionOutcome}
    (executes : Executes runtime call decision receipt before result after) :
    after.environment.engine = before.environment.engine := by
  have kept : (EStateM.after (dispatchAnswer runtime call receipt) before.environment).engine =
      before.environment.engine := attached.dispatch ..
  cases executes with
  | withheld => rfl
  | performed _ answered =>
    rw [after_of_ok answered] at kept
    exact kept
  | failed _ answered | raised _ answered =>
    rw [after_of_error answered] at kept
    exact kept

theorem rows_evidenced_of_decides (decides : Decides runtime call before decided decision middle)
    (requests : RequestsEvidenced held before)
    (kept : ∀ other, held before.evidence other → held evidence other)
    (asked : decided.decision.effect = .requireApproval → call.suppressDispatch = false →
      RequestEvidenced held evidence call.decisionId)
    (member : row ∈ middle.environment.engine.store.rows) :
    RequestEvidenced held evidence row.decisionId := by
  rcases mem_rows_of_decides attached decides member with earlier | ⟨same, requires, live⟩
  · obtain ⟨record, recorded, identified⟩ := requests row earlier
    exact ⟨record, kept record recorded, identified⟩
  · rw [same]
    exact asked requires live

end

/-- A record which is accepted covers the decision of its call. -/
theorem Evidencing.written {record : IntentRecord} {receipt : EvidenceReceipt}
    (evidencing : Evidencing runtime held call before)
    (keeps : runtime.evidenceStore.Keeps sound held) (consistent : sound before.evidence)
    (records : Records runtime call before decided record middle)
    (requires : decided.decision.effect = .requireApproval)
    (written : runtime.evidenceStore.appendIntent record before.evidence = .ok receipt evidence) :
    RequestEvidenced held evidence call.decisionId := by
  have identified := (IntentRecord.of_make records.recorded).1
  rcases keeps.taken record _ receipt evidence consistent written with taken | ⟨other, known, same⟩
  · exact ⟨record, taken, identified, records.bound.effect_eq.trans requires⟩
  · have named : other.decisionId.val = call.decisionId := by
      rw [same, identified]
    refine ⟨other, ?_, named, evidencing.reused other known named⟩
    rw [← after_of_ok written]
    exact keeps.held_appendIntent record _ other known

section Recorded

variable (attached : EngineAttached runtime settings wallClock)
  (keeps : runtime.evidenceStore.Keeps sound held) (requests : RequestsEvidenced held before)
  {record : IntentRecord} (records : Records runtime call before decided record middle)
  (evidencing : decided.decision.effect = .requireApproval → call.suppressDispatch = false →
    Evidencing runtime held call before)

include attached keeps requests records evidencing

variable {evidence : ε}

theorem rows_evidenced_of_written (consistent : sound before.evidence) {receipt : EvidenceReceipt}
    {evidence' : ε} {result : Except PyError ExecutionOutcome}
    (written : runtime.evidenceStore.appendIntent record before.evidence = .ok receipt evidence)
    (executes : Executes runtime call record.decision receipt
      (afterAppend record middle evidence) result after)
    (kept : ∀ other, held evidence other → held evidence' other) :
    ∀ row ∈ after.environment.engine.store.rows,
      RequestEvidenced held evidence' row.decisionId := by
  intro row member
  rw [engine_of_executes attached executes] at member
  refine rows_evidenced_of_decides attached records.toDecides requests ?_ ?_ member
  · intro other known
    refine kept other ?_
    rw [← after_of_ok written]
    exact keeps.held_appendIntent record _ other known
  · intro requires live
    obtain ⟨other, covered, named⟩ :=
      (evidencing requires live).written keeps consistent records requires written
    exact ⟨other, kept other covered, named⟩

theorem rows_evidenced_of_refused {error : PyError}
    (refused : runtime.evidenceStore.appendIntent record before.evidence = .error error evidence) :
    ∀ row ∈ middle.environment.engine.store.rows,
      RequestEvidenced held evidence row.decisionId := by
  intro row member
  refine rows_evidenced_of_decides attached records.toDecides requests ?_ ?_ member
  · intro other known
    rw [← after_of_error refused]
    exact keeps.held_appendIntent record _ other known
  · intro requires live
    obtain ⟨receipt, later, accepted⟩ := (evidencing requires live).accepted _ _ _ records
    cases refused.symm.trans accepted

end Recorded

/-- A call keeps every row evidenced, if it is evidenced itself when the policy requires approval of
it. -/
theorem requestsEvidenced_of_exits (attached : EngineAttached runtime settings wallClock)
    (keeps : runtime.evidenceStore.Keeps sound held) (staged : Staged resolving call)
    (consistent : sound before.evidence) (evidencing : call.suppressDispatch = false →
      PolicyRequiresApproval runtime.queries before.environment call →
        Evidencing runtime held call before)
    (requests : RequestsEvidenced held before) {result : Except PyError DecisionOutcome}
    (exits : Exits runtime call before result after) : RequestsEvidenced held after := by
  have evidenced {decided decision middle}
      (decides : Decides runtime call before decided decision middle)
      (requires : decided.decision.effect = .requireApproval)
      (live : call.suppressDispatch = false) : Evidencing runtime held call before :=
    evidencing live (policyRequiresApproval_of_decides staged decides requires)
  cases exits with
  | unauthorised | uncharged => exact requests
  | unrecorded decides failed =>
    intro row member
    rw [decides.evidence]
    refine rows_evidenced_of_decides attached decides requests (fun _ known => known) ?_ member
    intro requires live
    obtain ⟨record, recorded⟩ := exists_intentRecord
      (evidenced decides requires live).recordable _ _
    cases failed.symm.trans recorded
  | unwritten records refused | uncompensated records refused =>
    have rows := rows_evidenced_of_refused attached keeps requests records
      (evidenced records.toDecides) refused
    exact rows
  | undispatched records written executing =>
    have executes := executes_of_error executing
    intro row member
    rw [executes.evidence_eq]
    exact rows_evidenced_of_written attached keeps requests records
      (evidenced records.toDecides) consistent written executes (fun _ known => known) row member
  | @unreported _ record receipt execution _ _ _ evidence _ records written executing reporting =>
    have rows := rows_evidenced_of_written attached keeps requests records
      (evidenced records.toDecides) consistent written (executes_of_ok executing)
      (keeps.held_appendOutcome receipt ⟨record.decisionId, execution⟩ evidence)
    rw [after_of_error reporting] at rows
    exact rows
  | @returned _ record receipt execution _ _ evidence _ records written executing reported =>
    have rows := rows_evidenced_of_written attached keeps requests records
      (evidenced records.toDecides) consistent written (executes_of_ok executing)
      (keeps.held_appendOutcome receipt ⟨record.decisionId, execution⟩ evidence)
    rcases reported with reporting | ⟨error, reporting, -⟩
    · rw [after_of_ok reporting] at rows
      exact rows
    · rw [after_of_error reporting] at rows
      exact rows

end Calls

section Runs

variable [Runtime] {ρ ε ℓ β : Type} (runtime : GovernanceRuntime (Reviewing ρ) ε ℓ β)
  (held : ε → IntentRecord → Prop)

/-- The world a call finds, with whatever the other ports answer during it. -/
def Operation.finds (operation : Operation ρ) (world : World (Reviewing ρ) ε ℓ β) :
    World (Reviewing ρ) ε ℓ β :=
  world.facing operation.environment

/-- The effect of a call beside the workflow engine. -/
def Operation.stepReviewing (operation : Operation ρ) (world : World (Reviewing ρ) ε ℓ β) :
    World (Reviewing ρ) ε ℓ β :=
  (perform runtime operation.entry).after (operation.finds world)

/-- A live call of which the policy requires approval is evidenced. -/
def Operation.Evidences (operation : Operation ρ) (world : World (Reviewing ρ) ε ℓ β) : Prop :=
  ∀ call,
    operation.entry.prepare runtime.queries (operation.finds world).environment = .ok call →
    call.suppressDispatch = false →
    PolicyRequiresApproval runtime.queries (operation.finds world).environment call →
      Evidencing runtime held call (operation.finds world)

variable {runtime held} {settings : EngineSettings} {wallClock : ρ → ℚ} {sound : ε → Prop}
  {start world : World (Reviewing ρ) ε ℓ β}

theorem sound_stepReviewing (keeps : runtime.evidenceStore.Keeps sound held)
    (operation : Operation ρ) (consistent : sound world.evidence) :
    sound (operation.stepReviewing runtime world).evidence :=
  perform_evidence_invariant operation.entry (operation.finds world) sound
    (fun record evidence _ => keeps.sound_appendIntent record evidence)
    keeps.sound_appendOutcome consistent

theorem requestsEvidenced_stepReviewing (attached : EngineAttached runtime settings wallClock)
    (keeps : runtime.evidenceStore.Keeps sound held) {operation : Operation ρ}
    (evidences : operation.Evidences runtime held world) (consistent : sound world.evidence)
    (requests : RequestsEvidenced held world) :
    RequestsEvidenced held (operation.stepReviewing runtime world) := by
  rcases perform_exits runtime operation.entry (operation.finds world) with
    same | ⟨call, result, prepared, exits⟩
  · rw [Operation.stepReviewing, same]
    exact requests
  · have found : sound (operation.finds world).evidence := consistent
    exact requestsEvidenced_of_exits attached keeps (staged_of_prepare prepared) found
      (evidences call prepared) requests exits

/-- In every run whose calls are evidenced when the policy requires approval of them, every row of
the workflow engine is for a decision whose record the evidence store holds and which requires
approval. -/
theorem approval_requests_evidenced (attached : EngineAttached runtime settings wallClock)
    (keeps : runtime.evidenceStore.Keeps sound held) (consistent : sound start.evidence)
    (unused : start.environment.engine.store = .empty)
    (run : Reaches (Operation.Evidences runtime held) (Operation.stepReviewing runtime) start
      world) : RequestsEvidenced held world := by
  have both : sound world.evidence ∧ RequestsEvidenced held world := by
    refine run.invariant (fun world => sound world.evidence ∧ RequestsEvidenced held world)
      ⟨consistent, ?_⟩ ?_
    · intro row member
      rw [unused] at member
      cases member
    · intro operation before evidences ⟨consistent, requests⟩
      exact ⟨sound_stepReviewing keeps operation consistent,
        requestsEvidenced_stepReviewing attached keeps evidences consistent requests⟩
  exact both.2

end Runs

end DecisionService

namespace InMemoryEvidenceStore

variable [Runtime] {κ : Type} {signer : MacSigner κ} {before : Signed κ InMemoryEvidenceStore}

def Holds (evidence : Signed κ InMemoryEvidenceStore) (record : IntentRecord) : Prop :=
  ∃ segmentId, ∃ row ∈ evidence.store.rows segmentId, row.record = record

def Receipted (evidence : Signed κ InMemoryEvidenceStore) : Prop :=
  ∀ decisionId receipt, evidence.store.receipts decisionId = some receipt →
    ∃ record, Holds evidence record ∧ record.decisionId.val = decisionId

theorem holds_appendIntent (record : IntentRecord) {other : IntentRecord}
    (held : Holds before other) :
    Holds ((appendIntent signer record).after before) other := by
  obtain ⟨segmentId, row, member, rfl⟩ := held
  refine ⟨segmentId, row, ?_, rfl⟩
  refine appendIntent_invariant signer (fun store => row ∈ store.rows segmentId) record member ?_ ?_
    fun _ _ => id
  · rw [rows_openSegment]
    exact member
  · intro _ new _
    rw [rows_pushRecord, rows_openSegment, Function.update_apply]
    split
    next same => exact List.mem_append_left _ (same ▸ member)
    next => exact member

theorem receipted_appendIntent (record : IntentRecord) (receipted : Receipted before) :
    Receipted ((appendIntent signer record).after before) := by
  intro decisionId receipt known
  have earlier (found : before.store.receipts decisionId = some receipt) :
      ∃ record', Holds ((appendIntent signer record).after before) record' ∧
        record'.decisionId.val = decisionId := by
    obtain ⟨other, held, named⟩ := receipted decisionId receipt found
    exact ⟨other, holds_appendIntent record held, named⟩
  have ends := @ends_appendIntent _ κ signer record before
  cases run : appendIntent signer record before with
  | error error after =>
    rw [after_of_error run, (ends_of_error run).mp ends] at known
    exact earlier known
  | ok issued after =>
    rcases (ends_of_ok run).mp ends with ⟨-, same⟩ | ⟨-, named, receipts, row, member, made⟩
    · rw [after_of_ok run, same] at known
      exact earlier known
    · rw [after_of_ok run, receipts, Function.update_apply] at known
      split at known
      next same =>
        rw [after_of_ok run]
        exact ⟨record, ⟨_, row, member, made⟩, by rw [same, named]⟩
      next => exact earlier known

theorem keeps_port : (port signer).Keeps Receipted Holds where
  sound_appendIntent := fun record _ => receipted_appendIntent record
  sound_appendOutcome := by
    intro receipt outcome evidence receipted
    exact appendOutcome_invariant signer
      (fun store => ∀ decisionId receipt, store.receipts decisionId = some receipt →
        ∃ record, (∃ segmentId, ∃ row ∈ store.rows segmentId, row.record = record) ∧
          record.decisionId.val = decisionId) receipt outcome receipted fun _ _ => receipted
  held_appendIntent := fun record _ _ => holds_appendIntent record
  held_appendOutcome := by
    intro receipt outcome evidence other held
    exact appendOutcome_invariant signer
      (fun store => ∃ segmentId, ∃ row ∈ store.rows segmentId, row.record = other) receipt outcome
      held fun _ _ => held
  taken := by
    intro record evidence receipt after receipted written
    rcases (ends_of_ok written).mp (ends_appendIntent record evidence) with
      ⟨known, -⟩ | ⟨-, -, -, row, member, made⟩
    · obtain ⟨other, held, named⟩ := receipted _ receipt known
      exact .inr ⟨other, held, Subtype.ext named⟩
    · exact .inl ⟨_, row, member, made⟩

end InMemoryEvidenceStore

namespace DecisionService

def sampleApproval : AuthorizationDecision :=
  .requireApproval ⟨"needs a second pair of eyes", by decide⟩ Sample.bundle zeroDigest []

def reviewingService [Runtime] {ε : Type} (evidenceStore : EvidenceStore ε) :
    GovernanceRuntime (Reviewing SampleEnvironment) ε InMemoryLimitStore InMemoryBaselineStore where
  config := { segmentPrefix := Sample.segment }
  queries := sampleQueries.along Reviewing.outer
  limitStore := InMemoryLimitStore.port
  baselineStore := InMemoryBaselineStore.port
  evidenceStore := evidenceStore
  dispatch := fun _ receipt _ _ => pure
    (settled .executed receipt.persistedAt Sample.executed_ne_failed)
  createWorkflow := some (createReview EngineSettings.sampleSettings SampleEnvironment.now)

variable {ε : Type}

theorem engineAttached_reviewingService [Runtime] (evidenceStore : EvidenceStore ε) :
    EngineAttached (reviewingService evidenceStore) EngineSettings.sampleSettings
      SampleEnvironment.now where
  workflow := rfl
  dispatch := fun _ _ _ _ _ => rfl

/-- The world of that service before its first call. -/
def reviewingWorld {ε : Type} (evidence : ε) :
    World (Reviewing SampleEnvironment) ε InMemoryLimitStore InMemoryBaselineStore where
  environment := ⟨{}, EngineSettings.newEngine⟩
  evidence := evidence
  charges := ⟨{}, {}⟩

/-- The world after one call of which the policy requires approval. -/
def reviewedWorld [Runtime] {ε : Type} (evidenceStore : EvidenceStore ε) (evidence : ε) :
    World (Reviewing SampleEnvironment) ε InMemoryLimitStore InMemoryBaselineStore :=
  runAll (Operation.stepReviewing (reviewingService evidenceStore)) [underPolicy sampleApproval]
    (reviewingWorld evidence)

attribute [local instance] plainRuntime

/-- A call of which the policy requires approval leaves a workflow and its evidence. -/
theorem approval_requests_evidenced_once :
    let world := reviewedWorld (InMemoryEvidenceStore.port MacSigner.counter) ⟨0, {}⟩
    world.environment.engine.store.rows.map WorkflowRow.decisionId = ["decision-1"] ∧
      RequestsEvidenced InMemoryEvidenceStore.Holds world := by
  let service := reviewingService (InMemoryEvidenceStore.port MacSigner.counter)
  let start : World _ (Signed UInt8 InMemoryEvidenceStore) _ _ := reviewingWorld ⟨0, {}⟩
  let operation := underPolicy sampleApproval
  have returns : (match perform service operation.entry (operation.finds start) with
      | .ok _ _ => true
      | .error _ _ => false) = true := by
    decide +kernel
  have permits : Permits (Operation.Evidences service InMemoryEvidenceStore.Holds)
      (Operation.stepReviewing service) [operation] start := by
    refine ⟨?_, trivial⟩
    intro call prepared _ _
    cases run : perform service operation.entry (operation.finds start) with
    | error error after =>
      rw [run] at returns
      cases returns
    | ok outcome after =>
      rw [perform_of_prepare prepared] at run
      refine ⟨?_, fun _ _ _ records => records.accepts run, ?_⟩
      · have exits := (ends_of_ok run).mp (evaluate_exits call (operation.finds start))
        cases exits with
        | @returned decided record _ _ _ _ _ _ records =>
          have intent : IntentOf service.config call record.decision decided.risk
              decided.limited.verdict record := ⟨decided, rfl, rfl, records.recorded⟩
          exact intent.recordable
      · rintro other ⟨segmentId, row, member, -⟩
        cases member
  have unissued : InMemoryEvidenceStore.Receipted start.evidence := by
    intro decisionId receipt known
    cases known
  refine ⟨by decide +kernel, ?_⟩
  exact approval_requests_evidenced (engineAttached_reviewingService _)
    InMemoryEvidenceStore.keeps_port unissued rfl permits.reaches

/-- The record of a decision which requires approval is refused, and the workflow it asked for
stays. -/
theorem refused_record_leaves_request :
    let refusing := refusingEvidence (List IntentRecord)
    EngineAttached (reviewingService refusing) EngineSettings.sampleSettings
        SampleEnvironment.now ∧
      refusing.Keeps (fun _ => True) (fun evidence record => record ∈ evidence) ∧
      ¬ ∀ world, Reaches (fun _ _ => True)
          (Operation.stepReviewing (reviewingService refusing)) (reviewingWorld []) world →
        RequestsEvidenced (fun evidence record => record ∈ evidence) world := by
  intro refusing
  refine ⟨engineAttached_reviewingService _, ?_, ?_⟩
  · refine ⟨fun _ _ => id, fun _ _ _ => id, fun _ _ _ => id, fun _ _ _ _ => id, ?_⟩
    intro record evidence receipt after _ written
    cases written
  · intro claim
    have evidenced : RequestsEvidenced (fun evidence record => record ∈ evidence)
        (reviewedWorld refusing []) :=
      claim _ (permits_of_forall (fun _ _ => trivial) _ _).reaches
    have requested : (reviewedWorld refusing []).environment.engine.store.rows.map
        WorkflowRow.decisionId = ["decision-1"] := by decide +kernel
    have unrecorded : (reviewedWorld refusing []).evidence.isEmpty = true := by decide +kernel
    obtain ⟨row, member, -⟩ := List.mem_map.mp (requested ▸ List.mem_singleton_self "decision-1")
    obtain ⟨record, held, -⟩ := evidenced row member
    rw [List.isEmpty_iff.mp unrecorded] at held
    cases held

end DecisionService

end GlassBox
