import GlassBox.App.DecisionService

/-!
# How a call ends

`Exits` lists the ways a call of `_evaluate` can end, each with the answers of the ports that lead
there and the world it leaves.  Every statement about single calls goes through `evaluate_exits`.
-/

namespace GlassBox

open EStateM

def AuthorizationDecision.Bound (decided decision : AuthorizationDecision) : Prop :=
  decision = decided ∨ ∃ requires approvalId approvalState,
    decision = decided.withApproval requires approvalId approvalState

variable {decided decision : AuthorizationDecision}

theorem AuthorizationDecision.Bound.effect_eq (bound : decided.Bound decision) :
    decision.effect = decided.effect := by
  rcases bound with rfl | ⟨requires, approvalId, approvalState, rfl⟩
  · rfl
  · rfl

/-- Only a decision which requires approval is changed. -/
theorem AuthorizationDecision.Bound.eq (bound : decided.Bound decision)
    (settled : decision.effect ≠ .requireApproval) :
    decision = decided := by
  rcases bound with rfl | ⟨requires, approvalId, approvalState, rfl⟩
  · rfl
  · exact absurd requires settled

namespace DecisionService

variable {ρ ε ℓ β : Type} (runtime : GovernanceRuntime ρ ε ℓ β)

def workflowEvents (call : Evaluation) (decided : Decided) : List (Event ε) :=
  if decided.decision.effect = .requireApproval ∧ call.suppressDispatch = false ∧
      runtime.createWorkflow.isSome then
    [.workflowCreated (workflowRequest call decided)]
  else []

@[simp]
theorem any_isDispatch_workflowEvents (call : Evaluation) (decided : Decided) :
    (workflowEvents runtime call decided).any Event.isDispatch = false := by
  unfold workflowEvents
  split
  · rfl
  · rfl

variable {decided : Decided} {event : Event ε}

theorem eq_workflowCreated_of_mem {call : Evaluation}
    (member : event ∈ workflowEvents runtime call decided) :
    ∃ request, event = .workflowCreated request := by
  unfold workflowEvents at member
  split at member
  next => exact ⟨_, List.mem_singleton.mp member⟩
  next => cases member

@[simp]
theorem notMem_workflowEvents {call : Evaluation}
    (other : ∀ request, event ≠ .workflowCreated request) :
    event ∉ workflowEvents runtime call decided := by
  intro member
  obtain ⟨request, created⟩ := eq_workflowCreated_of_mem runtime member
  exact other request created

/-- What is handed to the dispatcher: an unconditional allow of a live call. -/
def Dispatches (call : Evaluation) (decision : AuthorizationDecision) : Prop :=
  decision.effect = .allow ∧ decision.blockingObligations = [] ∧ call.suppressDispatch = false

def dispatchAnswer (call : Evaluation) (receipt : EvidenceReceipt) (environment : ρ) :
    EStateM.Result PyError ρ ExecutionOutcome :=
  runtime.dispatch call.action receipt runtime.config.defaultTimeoutS call.now environment

def dispatchEvent (call : Evaluation) (receipt : EvidenceReceipt) (evidence : ε) : Event ε :=
  .dispatched call.action call.sensitiveParameterFields receipt evidence

def afterDispatch (call : Evaluation) (receipt : EvidenceReceipt) (before : World ρ ε ℓ β)
    (environment : ρ) : World ρ ε ℓ β :=
  { before with
    environment := environment
    history := before.history ++ [dispatchEvent call receipt before.evidence] }

/-- How a recorded decision is carried out. -/
inductive Executes (call : Evaluation) (decision : AuthorizationDecision)
    (receipt : EvidenceReceipt) (before : World ρ ε ℓ β) :
    Except PyError ExecutionOutcome → World ρ ε ℓ β → Prop
  | withheld {execution : ExecutionOutcome} : ¬ Dispatches call decision →
      Executes call decision receipt before (.ok execution) before
  | performed {execution : ExecutionOutcome} {environment : ρ} : Dispatches call decision →
      dispatchAnswer runtime call receipt before.environment = .ok execution environment →
      Executes call decision receipt before (.ok execution)
        (afterDispatch call receipt before environment)
  /-- The dispatcher raises a dispatch error, which is an outcome. -/
  | failed {execution : ExecutionOutcome} {error : PyError} {environment : ρ} :
      Dispatches call decision →
      dispatchAnswer runtime call receipt before.environment = .error error environment →
      error.isA .dispatchError = true →
      Executes call decision receipt before (.ok execution)
        (afterDispatch call receipt before environment)
  /-- The dispatcher raises anything else. -/
  | raised {error : PyError} {environment : ρ} : Dispatches call decision →
      dispatchAnswer runtime call receipt before.environment = .error error environment →
      error.isA .dispatchError = false →
      Executes call decision receipt before (.error error)
        (afterDispatch call receipt before environment)

/-- The environment stays as it is, or the workflow engine was asked for a workflow. -/
def EngineAsked (call : Evaluation) (decided : Decided) (before after : ρ) : Prop :=
  after = before ∨
    decided.decision.effect = .requireApproval ∧ call.suppressDispatch = false ∧
      ∃ create ∈ runtime.createWorkflow,
        after = (create (workflowRequest call decided)).after before

variable {runtime} {call : Evaluation}

theorem ends_createWorkflow (decided : Decided)
    (requires : decided.decision.effect = .requireApproval) (live : call.suppressDispatch = false)
    (pending : AuthorizationDecision) (before : World ρ ε ℓ β) :
    (createWorkflow runtime call decided requires pending).Ends before
      (fun decision after => (decision = pending ∨
          ∃ workflowId, decision = decided.decision.withApproval requires workflowId .pending) ∧
        after.charges = before.charges ∧ after.evidence = before.evidence ∧
        after.history = before.history ++ workflowEvents runtime call decided ∧
        EngineAsked runtime call decided before.environment after.environment)
      (fun _ _ => False) := by
  cases engine : runtime.createWorkflow with
  | none => simp [createWorkflow, workflowEvents, engine, EngineAsked]
  | some create =>
    have events : workflowEvents runtime call decided =
        [.workflowCreated (workflowRequest call decided)] := by
      simp [workflowEvents, requires, live, engine]
    have asked : (create (workflowRequest call decided)).Ends before.environment
        (fun _ after => EngineAsked runtime call decided before.environment after)
        (fun _ after => EngineAsked runtime call decided before.environment after) :=
      ends_iff_after.mpr (.inr ⟨requires, live, create, engine, rfl⟩)
    simp only [createWorkflow, engine, events, ends_bind, ends_attempt, World.onEnvironment,
      ends_zoom]
    refine asked.mono ?_ ?_
    · exact fun workflowId _ asked => ⟨.inr ⟨workflowId, rfl⟩, rfl, rfl, rfl, asked⟩
    · exact fun _ _ asked => ⟨.inl rfl, rfl, rfl, rfl, asked⟩

theorem ends_materializeApprovalMetadata (decided : Decided) (before : World ρ ε ℓ β) :
    (materializeApprovalMetadata runtime call decided).Ends before
      (fun decision after => decided.decision.Bound decision ∧
        after.charges = before.charges ∧ after.evidence = before.evidence ∧
        after.history = before.history ++ workflowEvents runtime call decided ∧
        EngineAsked runtime call decided before.environment after.environment)
      (fun _ _ => False) := by
  unfold materializeApprovalMetadata
  by_cases requires : decided.decision.effect = .requireApproval
  · rw [dif_pos requires, ends_bind, ends_get]
    by_cases suppressed : call.suppressDispatch = true
    · rw [if_pos suppressed, ends_pure]
      refine ⟨.inr ⟨requires, _, _, rfl⟩, rfl, rfl, ?_, .inl rfl⟩
      simp [workflowEvents, suppressed]
    · rw [if_neg suppressed]
      have live : call.suppressDispatch = false := by simpa using suppressed
      refine (ends_createWorkflow decided requires live _ before).mono ?_ fun _ _ absurd => absurd
      rintro decision after ⟨rfl | ⟨workflowId, rfl⟩, kept⟩
      · exact ⟨.inr ⟨requires, _, _, rfl⟩, kept⟩
      · exact ⟨.inr ⟨requires, _, _, rfl⟩, kept⟩
  · rw [dif_neg requires, ends_pure]
    refine ⟨.inl rfl, rfl, rfl, ?_, .inl rfl⟩
    simp [workflowEvents, requires]

theorem materializeApprovalMetadata_returns (decided : Decided) (before : World ρ ε ℓ β) :
    ∃ decision after,
      materializeApprovalMetadata runtime call decided before = .ok decision after ∧
        after.charges = before.charges := by
  have ends := @ends_materializeApprovalMetadata _ _ _ _ runtime call decided before
  cases run : materializeApprovalMetadata runtime call decided before with
  | ok decision after => exact ⟨decision, after, rfl, ((ends_of_ok run).mp ends).2.1⟩
  | error error after => exact ((ends_of_error run).mp ends).elim

/-- A recorded decision is carried out as `Executes` says. -/
theorem ends_dispatchIfPermitted (decision : AuthorizationDecision) (receipt : EvidenceReceipt)
    (now : Timestamp) (before : World ρ ε ℓ β) :
    (dispatchIfPermitted runtime call decision receipt now).Ends before
      (fun execution after =>
        Executes runtime call decision receipt before (.ok execution) after ∧
          (execution.status = .executed → call.suppressDispatch = false ∧
            dispatchAnswer runtime call receipt before.environment =
              .ok execution after.environment))
      (fun error after => Executes runtime call decision receipt before (.error error) after) := by
  unfold dispatchIfPermitted
  by_cases denied : decision.effect = .deny
  · rw [if_pos denied]
    exact ⟨.withheld fun dispatches => by simp [dispatches.1] at denied,
      fun status => by cases status⟩
  rw [if_neg denied]
  by_cases pending : decision.effect = .requireApproval ∨ ¬ decision.blockingObligations.isEmpty
  · rw [if_pos pending]
    refine ⟨.withheld fun dispatches => ?_, fun status => by cases status⟩
    simp [dispatches.1, dispatches.2.1] at pending
  rw [if_neg pending]
  by_cases suppressed : call.suppressDispatch = true
  · rw [if_pos suppressed]
    exact ⟨.withheld fun dispatches => by simp [dispatches.2.2] at suppressed,
      fun status => by cases status⟩
  rw [if_neg suppressed]
  have dispatches : Dispatches call decision := by
    rw [not_or, not_not, List.isEmpty_iff] at pending
    refine ⟨?_, pending.2, by simpa using suppressed⟩
    cases effect : decision.effect with
    | deny => exact absurd effect denied
    | requireApproval => exact absurd effect pending.1
    | allow => rfl
  simp only [dispatch, ends_bind, ends_tryCatch, World.onEnvironment, ends_zoom]
  cases answer : dispatchAnswer runtime call receipt before.environment with
  | ok execution environment =>
    exact (ends_of_ok answer).mpr ⟨.performed dispatches answer, fun _ => ⟨dispatches.2.2, rfl⟩⟩
  | error error environment =>
    refine (ends_of_error answer).mpr ?_
    by_cases caught : error.isA .dispatchError = true
    · rw [dif_pos caught]
      exact ⟨.failed dispatches answer caught, fun status => by cases status⟩
    · rw [dif_neg caught]
      exact .raised dispatches answer (by simpa using caught)

variable {decision : AuthorizationDecision} {receipt : EvidenceReceipt}
  {before after : World ρ ε ℓ β} {now : Timestamp} {execution : ExecutionOutcome} {error : PyError}
  {result : Except PyError ExecutionOutcome} {record : IntentRecord}

section

variable (executing : dispatchIfPermitted runtime call decision receipt now before = .ok execution
  after)
include executing

theorem executes_of_ok :
    Executes runtime call decision receipt before (.ok execution) after :=
  ((ends_of_ok executing).mp (ends_dispatchIfPermitted decision receipt now before)).1

theorem answered_of_executed (executed : execution.status = .executed) :
    call.suppressDispatch = false ∧
      dispatchAnswer runtime call receipt before.environment = .ok execution after.environment :=
  ((ends_of_ok executing).mp (ends_dispatchIfPermitted decision receipt now before)).2 executed

end

theorem executes_of_error
    (executing : dispatchIfPermitted runtime call decision receipt now before =
      .error error after) :
    Executes runtime call decision receipt before (.error error) after :=
  (ends_of_error executing).mp (ends_dispatchIfPermitted decision receipt now before)

section

variable (executes : Executes runtime call decision receipt before result after)
include executes

theorem Executes.evidence_eq :
    after.evidence = before.evidence := by
  cases executes with
  | withheld | performed | failed | raised => rfl

theorem Executes.mem_history (member : event ∈ before.history) : event ∈ after.history := by
  cases executes with
  | withheld => exact member
  | performed | failed | raised => exact List.mem_append_left _ member

theorem Executes.history_of_dispatches (dispatches : Dispatches call decision) :
    after.history = before.history ++ [dispatchEvent call receipt before.evidence] := by
  cases executes with
  | withheld held => exact absurd dispatches held
  | performed | failed | raised => rfl

theorem Executes.after_of_not_dispatches (held : ¬ Dispatches call decision) : after = before := by
  cases executes with
  | withheld => rfl
  | performed dispatches | failed dispatches | raised dispatches => exact absurd dispatches held

end

theorem act_of_unreported {evidence : ε}
    (executing : dispatchIfPermitted runtime call record.decision receipt record.createdAt before =
      .ok execution after)
    (reporting : runtime.evidenceStore.appendOutcome receipt ⟨record.decisionId, execution⟩
      before.evidence = .error error evidence) (other : error.isA .evidenceWriteError = false) :
    act runtime call record receipt before = .error error { after with evidence } := by
  rw [← (executes_of_ok executing).evidence_eq] at reporting
  have refused : recordOutcome runtime receipt ⟨record.decisionId, execution⟩ after =
      .error error { after with evidence } := by
    unfold recordOutcome World.onEvidence
    rw [tryCatch_of_error (zoom_of_error reporting), other]
    rfl
  unfold act
  rw [bind_of_ok executing, bind_of_error refused]

/-- The world after a record was handed to the evidence store. -/
def afterAppend (record : IntentRecord) (before : World ρ ε ℓ β) (evidence : ε) :
    World ρ ε ℓ β :=
  { before with evidence, history := before.history ++ [.intentAppended record] }

theorem mem_history_afterAppend (record : IntentRecord) (before : World ρ ε ℓ β) (evidence : ε) :
    .intentAppended record ∈ (afterAppend record before evidence).history := by
  simp [afterAppend]

variable [Runtime]

variable (runtime) in
/-- The call was decided, charged and bound to an approval if it needs one. -/
structure Decides (call : Evaluation) (before : World ρ ε ℓ β) (decided : Decided)
    (decision : AuthorizationDecision) (after : World ρ ε ℓ β) : Prop where
  charged : ∃ authorised,
    authorise runtime.queries before.environment runtime.config call = .ok authorised ∧
      charge runtime call authorised before.charges = .ok decided after.charges
  materialized : materializeApprovalMetadata runtime call decided
    { before with charges := after.charges } = .ok decision after

namespace Decides

variable {before after : World ρ ε ℓ β} {decided : Decided} {decision : AuthorizationDecision}

section

variable (decides : Decides runtime call before decided decision after)
include decides

theorem bound :
    decided.decision.Bound decision :=
  ((ends_of_ok decides.materialized).mp (ends_materializeApprovalMetadata decided _)).1

theorem evidence :
    after.evidence = before.evidence :=
  ((ends_of_ok decides.materialized).mp
    (ends_materializeApprovalMetadata decided _)).2.2.1

theorem history :
    after.history = before.history ++ workflowEvents runtime call decided :=
  ((ends_of_ok decides.materialized).mp
    (ends_materializeApprovalMetadata decided _)).2.2.2.1

theorem asked :
    EngineAsked runtime call decided before.environment after.environment :=
  ((ends_of_ok decides.materialized).mp
    (ends_materializeApprovalMetadata decided _)).2.2.2.2

theorem environment
    (replayed : call.suppressDispatch = true) : after.environment = before.environment := by
  rcases decides.asked with same | ⟨-, live, -⟩
  · exact same
  · simp [replayed] at live

end

end Decides

variable (runtime) in
/-- The record of the decision was handed to the evidence store. -/
structure Records (call : Evaluation) (before : World ρ ε ℓ β) (decided : Decided)
    (record : IntentRecord) (after : World ρ ε ℓ β) : Prop
    extends Decides runtime call before decided record.decision after where
  recorded : intentRecord runtime.config call decided record.decision = .ok record

variable {middle : World ρ ε ℓ β}

theorem Records.history_append (records : Records runtime call before decided record middle) :
    middle.history ++ [.intentAppended record] =
      before.history ++ (workflowEvents runtime call decided ++ [.intentAppended record]) := by
  rw [records.history, List.append_assoc]

variable (runtime) in
/-- How a call of `_evaluate` ends. -/
inductive Exits (call : Evaluation) (before : World ρ ε ℓ β) :
    Except PyError DecisionOutcome → World ρ ε ℓ β → Prop
  /-- A stage which only asks questions raises. -/
  | unauthorised {error : PyError} :
      authorise runtime.queries before.environment runtime.config call = .error error →
      Exits call before (.error error) before
  /-- The limit or the baseline stage raises. -/
  | uncharged {authorised : Authorised} {error : PyError} {charges : Charges ℓ β} :
      authorise runtime.queries before.environment runtime.config call = .ok authorised →
      charge runtime call authorised before.charges = .error error charges →
      Exits call before (.error error) { before with charges }
  /-- The decision cannot be written down as a record. -/
  | unrecorded {decided : Decided} {decision : AuthorizationDecision} {error : PyError}
      {after : World ρ ε ℓ β} :
      Decides runtime call before decided decision after →
      intentRecord runtime.config call decided decision = .error error →
      Exits call before (.error error) after
  /-- The evidence store raises, and the budget was returned as far as it could be. -/
  | unwritten {decided : Decided} {record : IntentRecord} {error : PyError}
      {middle : World ρ ε ℓ β} {evidence : ε} {charges : Charges ℓ β} :
      Records runtime call before decided record middle →
      runtime.evidenceStore.appendIntent record before.evidence = .error error evidence →
      compensate runtime call decided error middle.charges = .ok () charges →
      Exits call before (.error error) { afterAppend record middle evidence with charges }
  /-- The evidence store raises, and so does the limit store when the budget is returned. -/
  | uncompensated {decided : Decided} {record : IntentRecord} {error another : PyError}
      {middle : World ρ ε ℓ β} {evidence : ε} {charges : Charges ℓ β} :
      Records runtime call before decided record middle →
      runtime.evidenceStore.appendIntent record before.evidence = .error error evidence →
      compensate runtime call decided error middle.charges = .error another charges →
      Exits call before (.error another) { afterAppend record middle evidence with charges }
  /-- The dispatcher raises something which is not a dispatch error. -/
  | undispatched {decided : Decided} {record : IntentRecord} {receipt : EvidenceReceipt}
      {error : PyError} {middle after : World ρ ε ℓ β} {evidence : ε} :
      Records runtime call before decided record middle →
      runtime.evidenceStore.appendIntent record before.evidence = .ok receipt evidence →
      dispatchIfPermitted runtime call record.decision receipt record.createdAt
        (afterAppend record middle evidence) = .error error after →
      Exits call before (.error error) after
  /-- The outcome write raises something which is not an evidence write error. -/
  | unreported {decided : Decided} {record : IntentRecord} {receipt : EvidenceReceipt}
      {execution : ExecutionOutcome} {error : PyError} {middle after : World ρ ε ℓ β}
      {evidence evidence' : ε} :
      Records runtime call before decided record middle →
      runtime.evidenceStore.appendIntent record before.evidence = .ok receipt evidence →
      dispatchIfPermitted runtime call record.decision receipt record.createdAt
        (afterAppend record middle evidence) = .ok execution after →
      runtime.evidenceStore.appendOutcome receipt ⟨record.decisionId, execution⟩ evidence =
        .error error evidence' →
      error.isA .evidenceWriteError = false →
      Exits call before (.error error) { after with evidence := evidence' }
  | returned {decided : Decided} {record : IntentRecord} {receipt : EvidenceReceipt}
      {execution : ExecutionOutcome} {middle after : World ρ ε ℓ β} {evidence evidence' : ε} :
      Records runtime call before decided record middle →
      runtime.evidenceStore.appendIntent record before.evidence = .ok receipt evidence →
      dispatchIfPermitted runtime call record.decision receipt record.createdAt
        (afterAppend record middle evidence) = .ok execution after →
      (runtime.evidenceStore.appendOutcome receipt ⟨record.decisionId, execution⟩ evidence =
          .ok () evidence' ∨
        ∃ error, runtime.evidenceStore.appendOutcome receipt ⟨record.decisionId, execution⟩
          evidence = .error error evidence' ∧ error.isA .evidenceWriteError = true) →
      Exits call before (.ok ⟨record.decisionId, record.decision, receipt, execution⟩)
        { after with evidence := evidence' }

theorem exits_of_written {evidence : ε}
    (records : Records runtime call before decided record middle)
    (written : runtime.evidenceStore.appendIntent record before.evidence = .ok receipt evidence) :
    (act runtime call record receipt).Ends (afterAppend record middle evidence)
      (fun outcome after => Exits runtime call before (.ok outcome) after)
      (fun error after => Exits runtime call before (.error error) after) := by
  simp only [act, ends_bind]
  cases executing : dispatchIfPermitted runtime call record.decision receipt record.createdAt
      (afterAppend record middle evidence) with
  | error error after =>
    exact (ends_of_error executing).mpr (.undispatched records written executing)
  | ok execution after =>
    refine (ends_of_ok executing).mpr ?_
    have kept : after.evidence = evidence := (executes_of_ok executing).evidence_eq
    simp only [recordOutcome, ends_tryCatch, World.onEvidence, ends_zoom, kept, ends_pure]
    cases reporting : runtime.evidenceStore.appendOutcome receipt ⟨record.decisionId, execution⟩
        evidence with
    | ok _ evidence' =>
      exact (ends_of_ok reporting).mpr
        (.returned records written executing (.inl reporting))
    | error error evidence' =>
      refine (ends_of_error reporting).mpr ?_
      by_cases swallowed : error.isA .evidenceWriteError = true
      · rw [if_pos swallowed]
        exact .returned records written executing (.inr ⟨error, reporting, swallowed⟩)
      · rw [if_neg swallowed]
        exact .unreported records written executing reporting (by simpa using swallowed)

theorem exits_of_records (records : Records runtime call before decided record middle) : (do
      let receipt ← appendIntent runtime call decided record
      act runtime call record receipt : EStateM PyError (World ρ ε ℓ β) DecisionOutcome).Ends middle
      (fun outcome after => Exits runtime call before (.ok outcome) after)
      (fun error after => Exits runtime call before (.error error) after) := by
  simp only [appendIntent, ends_bind, World.record, ends_modify,
    ends_tryCatch, World.onEvidence, ends_zoom, records.evidence]
  cases writing : runtime.evidenceStore.appendIntent record before.evidence with
  | ok receipt evidence => exact (ends_of_ok writing).mpr (exits_of_written records writing)
  | error error evidence =>
    refine (ends_of_error writing).mpr ?_
    simp only [World.onCharges, ends_zoom, ends_throw]
    cases compensating : compensate runtime call decided error middle.charges with
    | ok _ charges => exact (ends_of_ok compensating).mpr (.unwritten records writing compensating)
    | error another charges =>
      exact (ends_of_error compensating).mpr
        (.uncompensated records writing compensating)

/-- Every call ends in one of the listed ways. -/
theorem evaluate_exits (call : Evaluation) (before : World ρ ε ℓ β) :
    (evaluate runtime call).Ends before
      (fun outcome after => Exits runtime call before (.ok outcome) after)
      (fun error after => Exits runtime call before (.error error) after) := by
  simp only [evaluate, ends_bind, ends_get]
  cases authorising : authorise runtime.queries before.environment runtime.config call with
  | error error => exact .unauthorised authorising
  | ok authorised =>
    simp only [World.onCharges, ends_zoom]
    cases charging : charge runtime call authorised before.charges with
    | error error charges => exact (ends_of_error charging).mpr (.uncharged authorising charging)
    | ok decided charges =>
      refine (ends_of_ok charging).mpr ?_
      obtain ⟨decision, middle, materialized, charged⟩ :=
        @materializeApprovalMetadata_returns _ _ _ _ runtime call decided
          { before with charges }
      refine (ends_of_ok materialized).mpr ?_
      have decides : Decides runtime call before decided decision middle := by
        refine ⟨⟨authorised, authorising, ?_⟩, ?_⟩
        · rw [charged]
          exact charging
        · rw [charged]
          exact materialized
      cases recording : intentRecord runtime.config call decided decision with
      | error error => exact .unrecorded decides recording
      | ok record =>
        obtain ⟨-, -, -, -, -, rfl, -⟩ := IntentRecord.of_make recording
        exact (ends_bind ..).mp (exits_of_records ⟨decides, recording⟩)

theorem perform_of_prepare {entry : Entry}
    (prepared : entry.prepare runtime.queries before.environment = .ok call) :
    perform runtime entry before = evaluate runtime call before := by
  unfold perform
  rw [bind_of_ok (get_run before), bind_of_ok (ofExcept_run prepared before)]

theorem perform_of_prepare_error {entry : Entry} {before : World ρ ε ℓ β} {error : PyError}
    (refused : entry.prepare runtime.queries before.environment = .error error) :
    perform runtime entry before = .error error before := by
  unfold perform
  rw [bind_of_ok (get_run before), refused]
  rfl

theorem evaluate_of_records (records : Records runtime call before decided record middle) :
    evaluate runtime call before =
      (appendIntent runtime call decided record >>= act runtime call record) middle := by
  obtain ⟨authorised, authorising, charging⟩ := records.charged
  have charged : World.onCharges (charge runtime call authorised) before =
      .ok decided { before with charges := middle.charges } :=
    zoom_of_ok charging
  unfold evaluate
  rw [bind_of_ok (get_run before), bind_of_ok (ofExcept_run authorising before), bind_of_ok charged,
    bind_of_ok records.materialized,
    bind_of_ok (ofExcept_run records.recorded middle)]

theorem evaluate_of_written {evidence : ε}
    (records : Records runtime call before decided record middle)
    (written : runtime.evidenceStore.appendIntent record before.evidence = .ok receipt evidence) :
    evaluate runtime call before =
      act runtime call record receipt (afterAppend record middle evidence) := by
  rw [← records.evidence] at written
  have appended : appendIntent runtime call decided record middle =
      .ok receipt (afterAppend record middle evidence) := by
    unfold appendIntent World.record
    rw [bind_of_ok (modify_run _ middle)]
    exact tryCatch_of_ok (zoom_of_ok written)
  rw [evaluate_of_records records, bind_of_ok appended]

variable (runtime) in
inductive CallEvents (call : Evaluation) (before : World ρ ε ℓ β) : List (Event ε) → Prop
  | undecided : CallEvents call before []
  | decided {decided : Decided} {decision : AuthorizationDecision} {after : World ρ ε ℓ β} :
      Decides runtime call before decided decision after →
      CallEvents call before (workflowEvents runtime call decided)
  | recorded {decided : Decided} {record : IntentRecord} {middle : World ρ ε ℓ β} :
      Records runtime call before decided record middle →
      CallEvents call before (workflowEvents runtime call decided ++ [.intentAppended record])
  | dispatched {decided : Decided} {record : IntentRecord} {receipt : EvidenceReceipt}
      {middle : World ρ ε ℓ β} {evidence : ε} :
      Records runtime call before decided record middle →
      runtime.evidenceStore.appendIntent record before.evidence = .ok receipt evidence →
      Dispatches call record.decision →
      CallEvents call before [.intentAppended record, dispatchEvent call receipt evidence]

theorem CallEvents.of_intentAppended {events : List (Event ε)}
    (shape : CallEvents runtime call before events) (member : .intentAppended record ∈ events) :
    ∃ decided middle, Records runtime call before decided record middle := by
  cases shape with
  | undecided | decided => simp at member
  | recorded records | dispatched records =>
    simp [dispatchEvent] at member
    exact member ▸ ⟨_, _, records⟩

theorem CallEvents.of_dispatched {events : List (Event ε)}
    (shape : CallEvents runtime call before events) {action : ProposedAction}
    {sensitive : List String} {evidence : ε}
    (member : .dispatched action sensitive receipt evidence ∈ events) :
    action = call.action ∧ sensitive = call.sensitiveParameterFields ∧
      ∃ decided record middle, Records runtime call before decided record middle ∧
        runtime.evidenceStore.appendIntent record before.evidence = .ok receipt evidence ∧
        Dispatches call record.decision ∧
        events = [.intentAppended record, .dispatched action sensitive receipt evidence] := by
  cases shape with
  | undecided | decided | recorded => simp at member
  | dispatched records written dispatches =>
    simp only [List.mem_cons, reduceCtorEq, List.not_mem_nil, or_false, false_or] at member
    obtain ⟨rfl, rfl, rfl, rfl⟩ := member
    exact ⟨rfl, rfl, _, _, _, records, written, dispatches, rfl⟩

theorem Executes.events {evidence : ε}
    (executes : Executes runtime call record.decision receipt (afterAppend record middle evidence)
      result after) (records : Records runtime call before decided record middle)
    (written : runtime.evidenceStore.appendIntent record before.evidence = .ok receipt evidence) :
    ∃ events, after.history = before.history ++ events ∧
      CallEvents runtime call before events := by
  have dispatched : ∀ environment, Dispatches call record.decision →
      ∃ events, (afterDispatch call receipt (afterAppend record middle evidence)
        environment).history = before.history ++ events ∧
        CallEvents runtime call before events := by
    intro environment dispatches
    refine ⟨_, ?_, .dispatched records written dispatches⟩
    have effect := records.bound.effect_eq
    rw [dispatches.1] at effect
    simp [afterDispatch, afterAppend, records.history_append, workflowEvents, ← effect]
  cases executes with
  | withheld => exact ⟨_, records.history_append, .recorded records⟩
  | performed dispatches | failed dispatches | raised dispatches => exact dispatched _ dispatches

theorem Exits.events {result : Except PyError DecisionOutcome}
    (exits : Exits runtime call before result after) :
    ∃ events, after.history = before.history ++ events ∧
      CallEvents runtime call before events := by
  cases exits with
  | unauthorised | uncharged => exact ⟨[], by simp, .undecided⟩
  | unrecorded decides => exact ⟨_, decides.history, .decided decides⟩
  | unwritten records | uncompensated records =>
    exact ⟨_, records.history_append, .recorded records⟩
  | undispatched records written executing =>
    exact (executes_of_error executing).events records written
  | unreported records written executing
  | returned records written executing => exact (executes_of_ok executing).events records written

variable (runtime) in
/-- A whole call changes nothing, or exits as the evaluation it prepared does. -/
theorem perform_exits (entry : Entry) (before : World ρ ε ℓ β) :
    (perform runtime entry).after before = before ∨
    ∃ call result, entry.prepare runtime.queries before.environment = .ok call ∧
      Exits runtime call before result ((perform runtime entry).after before) := by
  refine after_of_ends (fun after : World ρ ε ℓ β => after = before ∨
    ∃ call result, entry.prepare runtime.queries before.environment = .ok call ∧
      Exits runtime call before result after) ?_
  simp only [perform, ends_bind, ends_get, ends_ofExcept]
  cases prepared : entry.prepare runtime.queries before.environment with
  | error error => exact .inl trivial
  | ok call =>
    exact (evaluate_exits call before).mono (fun _ _ exits => .inr ⟨call, _, rfl, exits⟩)
      fun _ _ exits => .inr ⟨call, _, rfl, exits⟩

variable (runtime) in
/-- A whole call adds nothing, or the events of the evaluation it prepared. -/
theorem perform_events (entry : Entry) (before : World ρ ε ℓ β) :
    ∃ events, ((perform runtime entry).after before).history = before.history ++ events ∧
      (events = [] ∨ ∃ call, entry.prepare runtime.queries before.environment = .ok call ∧
        CallEvents runtime call before events) := by
  rcases perform_exits runtime entry before with same | ⟨call, result, prepared, exits⟩
  · exact ⟨[], by simp [same], .inl rfl⟩
  · obtain ⟨events, history, shape⟩ := exits.events
    exact ⟨events, history, .inr ⟨call, prepared, shape⟩⟩

/-- A call leaves the evidence alone, hands over a record, or also reports how the decision on it
was carried out. -/
theorem Exits.evidence_cases {result : Except PyError DecisionOutcome}
    (exits : Exits runtime call before result after) :
    after.evidence = before.evidence ∨
    (∃ record, .intentAppended record ∈ after.history ∧
      after.evidence = (runtime.evidenceStore.appendIntent record).after before.evidence) ∨
    ∃ decided record middle receipt evidence execution last,
      .intentAppended record ∈ after.history ∧
      Records runtime call before decided record middle ∧
      runtime.evidenceStore.appendIntent record before.evidence = .ok receipt evidence ∧
      dispatchIfPermitted runtime call record.decision receipt record.createdAt
        (afterAppend record middle evidence) = .ok execution last ∧
      after.environment = last.environment ∧
      after.evidence = (runtime.evidenceStore.appendOutcome receipt
        ⟨record.decisionId, execution⟩).after evidence := by
  cases exits with
  | unauthorised | uncharged => exact .inl rfl
  | unrecorded decides => exact .inl decides.evidence
  | unwritten _ refused | uncompensated _ refused =>
    exact .inr (.inl ⟨_, by simp [afterAppend], (after_of_error refused).symm⟩)
  | undispatched _ written executing =>
    have executes := executes_of_error executing
    exact .inr (.inl ⟨_, executes.mem_history (mem_history_afterAppend ..),
      executes.evidence_eq.trans (after_of_ok written).symm⟩)
  | unreported records written executing reporting =>
    have member := (executes_of_ok executing).mem_history (mem_history_afterAppend ..)
    exact .inr (.inr ⟨_, _, _, _, _, _, _, member, records, written, executing, rfl,
      (after_of_error reporting).symm⟩)
  | returned records written executing reported =>
    have member := (executes_of_ok executing).mem_history (mem_history_afterAppend ..)
    refine .inr (.inr ⟨_, _, _, _, _, _, _, member, records, written, executing, rfl, ?_⟩)
    rcases reported with reporting | ⟨error, reporting, -⟩
    · exact (after_of_ok reporting).symm
    · exact (after_of_error reporting).symm

/-- What both methods of the evidence store keep, for the records handed to them, a whole call
keeps. -/
theorem perform_evidence_invariant (entry : Entry) (before : World ρ ε ℓ β) (holds : ε → Prop)
    (intent : ∀ record evidence,
      .intentAppended record ∈ ((perform runtime entry).after before).history →
      holds evidence → holds ((runtime.evidenceStore.appendIntent record).after evidence))
    (outcome : ∀ receipt record evidence, holds evidence →
      holds ((runtime.evidenceStore.appendOutcome receipt record).after evidence))
    (initial : holds before.evidence) :
    holds ((perform runtime entry).after before).evidence := by
  rcases perform_exits runtime entry before with same | ⟨call, result, -, exits⟩
  · rwa [same]
  · rcases exits.evidence_cases with same | ⟨record, member, same⟩ |
      ⟨-, record, -, receipt, evidence, execution, -, member, -, written, -, -, same⟩
    · rwa [same]
    · rw [same]
      exact intent _ _ member initial
    · have kept := intent _ _ member initial
      rw [after_of_ok written] at kept
      rw [same]
      exact outcome _ _ _ kept

/-- What the workflow engine keeps, binding approval metadata keeps. -/
theorem Decides.environment_invariant (decides : Decides runtime call before decided decision after)
    (holds : ρ → Prop)
    (workflow : ∀ create ∈ runtime.createWorkflow, ∀ request environment, holds environment →
      holds ((create request).after environment)) (initial : holds before.environment) :
    holds after.environment := by
  rcases decides.asked with same | ⟨-, -, create, engine, asked⟩
  · rwa [same]
  · rw [asked]
    exact workflow create engine _ _ initial

/-- What the workflow engine and the dispatcher keep, a whole call keeps. -/
theorem perform_environment_invariant (entry : Entry) (before : World ρ ε ℓ β) (holds : ρ → Prop)
    (workflow : ∀ create ∈ runtime.createWorkflow, ∀ request environment, holds environment →
      holds ((create request).after environment))
    (dispatch : ∀ action receipt now environment, holds environment →
      holds ((runtime.dispatch action receipt runtime.config.defaultTimeoutS now).after
        environment))
    (initial : holds before.environment) :
    holds ((perform runtime entry).after before).environment := by
  rcases perform_exits runtime entry before with same | ⟨call, result, -, exits⟩
  · rwa [same]
  generalize (perform runtime entry).after before = after at exits
  have executed : ∀ {decided record middle evidence receipt result} {last : World ρ ε ℓ β},
      Records runtime call before decided record middle →
      Executes runtime call record.decision receipt (afterAppend record middle evidence) result
        last → holds last.environment := by
    intro decided record middle evidence receipt result last records executes
    have decided := records.environment_invariant holds workflow initial
    have answer : holds (EStateM.after (dispatchAnswer runtime call receipt) middle.environment) :=
      dispatch _ receipt _ _ decided
    cases executes with
    | withheld => exact decided
    | performed _ answered => exact after_of_ok answered ▸ answer
    | failed _ answered | raised _ answered => exact after_of_error answered ▸ answer
  cases exits with
  | unauthorised | uncharged => exact initial
  | unrecorded decides | unwritten decides | uncompensated decides =>
    exact decides.environment_invariant holds workflow initial
  | undispatched records _ executing => exact executed records (executes_of_error executing)
  | unreported records _ executing | returned records _ executing =>
    have kept := executed records (executes_of_ok executing)
    exact kept

end DecisionService

end GlassBox
