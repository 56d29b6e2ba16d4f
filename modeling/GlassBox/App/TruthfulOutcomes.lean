import GlassBox.Adapters.Memory.Dispatch
import GlassBox.App.EvidenceBeforeEffect

/-!
# Outcome evidence

Runs of the decision service over one in-memory dispatcher and one in-memory evidence store.  The
dispatcher answers a known idempotency key from its ledger, whatever the action, and the service
reports the answer for the decision at hand.
-/

namespace GlassBox

def ProposedAction.SameEffect (action other : ProposedAction) : Prop :=
  action.action = other.action ∧ action.resource = other.resource ∧
    action.parameters = other.parameters

namespace InMemoryEvidenceStore

/-- The second store has one more outcome, of this record, in the chain of a segment. -/
def Appends (before after : InMemoryEvidenceStore) (record : OutcomeRecord) : Prop :=
  ∃ segmentId row, row.record = record ∧
    after.outcomeChain segmentId = before.outcomeChain segmentId ++ [row]

variable {record : OutcomeRecord}

theorem not_appends_of_eq {before after : InMemoryEvidenceStore}
    (same : after.outcomeChain = before.outcomeChain) : ¬ Appends before after record := by
  rintro ⟨segmentId, row, -, appended⟩
  simp [same] at appended

variable [Runtime] {κ : Type} {signer : MacSigner κ}

theorem outcomeChain_appendIntent (record : IntentRecord)
    (before : Signed κ InMemoryEvidenceStore) :
    ((appendIntent signer record).after before).store.outcomeChain = before.store.outcomeChain :=
  appendIntent_invariant signer (fun store => store.outcomeChain = before.store.outcomeChain) record
    rfl rfl (fun _ _ _ => rfl) fun _ _ same => same

theorem record_of_appends {receipt : EvidenceReceipt} {handed : OutcomeRecord}
    {before : Signed κ InMemoryEvidenceStore}
    (appends : Appends before.store ((appendOutcome signer receipt handed).after before).store
      record) : record = handed := by
  refine appendOutcome_invariant signer (fun store => Appends before.store store record →
    record = handed) receipt handed (fun appends => absurd appends (not_appends_of_eq rfl)) ?_
    appends
  rintro row made ⟨segmentId, last, rfl, appended⟩
  simp only [pushOutcome, Function.update_apply] at appended
  split at appended
  next same =>
    subst same
    have same := List.append_cancel_left appended
    cases same
    exact made.record_eq
  next => simp at appended

end InMemoryEvidenceStore

namespace DecisionService

/-- One call, with whatever the ports answer and the handlers do during it. -/
structure DispatchingCall (ρ : Type) where
  outer : ρ
  handlers : String → Option (ProposedAction → ρ → HandlerEnd)
  receiptCheck : Option (EvidenceReceipt → ρ → Bool)
  entry : Entry

def DispatchingCall.meets {ρ : Type} (call : DispatchingCall ρ)
    (dispatcher : InMemoryDispatcher ρ) : Dispatching ρ where
  outer := call.outer
  dispatcher :=
    { dispatcher with handlers := call.handlers, receiptCheck := call.receiptCheck }

section Runs

variable [Runtime] {ρ κ ℓ β : Type}
  (runtime : GovernanceRuntime (Dispatching ρ) (Signed κ InMemoryEvidenceStore) ℓ β)

def DispatchingCall.step (operation : DispatchingCall ρ)
    (world : World (Dispatching ρ) (Signed κ InMemoryEvidenceStore) ℓ β) :
    World (Dispatching ρ) (Signed κ InMemoryEvidenceStore) ℓ β :=
  (perform runtime operation.entry).after
    { world with environment := operation.meets world.environment.dispatcher }

/-- A live call under an idempotency key asks for the effect which was performed under it. -/
def DispatchingCall.RepeatsEffects (operation : DispatchingCall ρ)
    (world : World (Dispatching ρ) (Signed κ InMemoryEvidenceStore) ℓ β) : Prop :=
  ∀ call, operation.entry.prepare runtime.queries
      (operation.meets world.environment.dispatcher) = .ok call →
    call.suppressDispatch = false →
    ∀ performed, world.environment.dispatcher.Performs performed →
      performed.idempotencyKey = call.action.idempotencyKey → performed.SameEffect call.action

/-- An outcome the call appends as executed is of its own decision, and a handler performed the
effect of its action by then. -/
def DispatchingCall.Truthful (operation : DispatchingCall ρ)
    (world : World (Dispatching ρ) (Signed κ InMemoryEvidenceStore) ℓ β) : Prop :=
  ∀ record, world.evidence.store.Appends (operation.step runtime world).evidence.store record →
    record.outcome.status = .executed →
    ∃ call, operation.entry.prepare runtime.queries
        (operation.meets world.environment.dispatcher) = .ok call ∧
      record.decisionId.val = call.decisionId ∧
      ∃ performed, (operation.step runtime world).environment.dispatcher.Performs performed ∧
        performed.SameEffect call.action

/-- The service is wired to the two in-memory adapters, and its workflow engine leaves the
dispatcher alone. -/
structure InMemoryWired (signer : MacSigner κ) : Prop where
  evidence : runtime.evidenceStore = InMemoryEvidenceStore.port signer
  dispatch : runtime.dispatch = InMemoryDispatcher.dispatch
  workflow : ∀ create ∈ runtime.createWorkflow, ∀ request environment,
    ((create request).after environment).dispatcher = environment.dispatcher

variable {runtime} {signer : MacSigner κ}
  {world : World (Dispatching ρ) (Signed κ InMemoryEvidenceStore) ℓ β} {call : Evaluation}
  {before after : World (Dispatching ρ) (Signed κ InMemoryEvidenceStore) ℓ β}

section

variable (wired : InMemoryWired runtime signer)
include wired

/-- Every call leaves an answered ledger behind. -/
theorem answered_step (operation : DispatchingCall ρ)
    (answered : world.environment.dispatcher.Answered) :
    (operation.step runtime world).environment.dispatcher.Answered := by
  refine perform_environment_invariant operation.entry _
    (fun environment : Dispatching ρ => environment.dispatcher.Answered) ?_ ?_ answered
  · intro create engine request environment kept
    rwa [wired.workflow create engine]
  · intro action receipt now environment kept
    rw [wired.dispatch]
    exact EStateM.after_of_ends
      (fun after : Dispatching ρ => after.dispatcher.Answered)
      ((InMemoryDispatcher.ends_dispatch action receipt _ now kept).mono
        (fun _ _ reports => reports.1) fun _ _ kept => kept)

/-- What an exit of the call appends as executed was performed under the key of its action. -/
theorem Exits.performed_of_appends
    {result : Except PyError DecisionOutcome} (exits : Exits runtime call before result after)
    (answered : before.environment.dispatcher.Answered) {record : OutcomeRecord}
    (appends : before.evidence.store.Appends after.evidence.store record)
    (executed : record.outcome.status = .executed) :
    record.decisionId.val = call.decisionId ∧ call.suppressDispatch = false ∧
    ∃ performed, performed.idempotencyKey = call.action.idempotencyKey ∧
      after.environment.dispatcher.Performs performed ∧
      (performed = call.action ∨ before.environment.dispatcher.Performs performed) := by
  rcases exits.evidence_cases with same | ⟨intent, -, written⟩ |
    ⟨decided, intent, middle, receipt, evidence, execution, last, -, records, written, executing,
      environment, reported⟩
  · rw [same] at appends
    exact absurd appends (InMemoryEvidenceStore.not_appends_of_eq rfl)
  · rw [written, wired.evidence] at appends
    exact absurd appends (InMemoryEvidenceStore.not_appends_of_eq
      (InMemoryEvidenceStore.outcomeChain_appendIntent intent before.evidence))
  · have chain : evidence.store.outcomeChain = before.evidence.store.outcomeChain := by
      rw [← InMemoryEvidenceStore.outcomeChain_appendIntent intent before.evidence]
      rw [wired.evidence] at written
      exact congrArg (fun after => after.store.outcomeChain) (EStateM.after_of_ok written).symm
    have handed : record = ⟨intent.decisionId, execution⟩ := by
      rw [reported, wired.evidence, InMemoryEvidenceStore.Appends, ← chain] at appends
      exact InMemoryEvidenceStore.record_of_appends appends
    subst handed
    obtain ⟨decisionId, -⟩ := IntentRecord.of_make records.recorded
    have same : middle.environment.dispatcher = before.environment.dispatcher := by
      refine records.environment_invariant
        (fun environment : Dispatching ρ => environment.dispatcher = before.environment.dispatcher)
        ?_ rfl
      intro create engine request environment kept
      rw [wired.workflow create engine, kept]
    obtain ⟨live, answer⟩ := answered_of_executed executing executed
    rw [dispatchAnswer, wired.dispatch] at answer
    have reports := (EStateM.ends_of_ok answer).mp
      (InMemoryDispatcher.ends_dispatch call.action receipt _ call.now (same ▸ answered))
    rw [environment, ← same]
    exact ⟨decisionId, live, reports.2 executed⟩

theorem truthful_of_answered (operation : DispatchingCall ρ)
    (repeats : operation.RepeatsEffects runtime world)
    (answered : world.environment.dispatcher.Answered) : operation.Truthful runtime world := by
  intro record appends executed
  rcases perform_exits runtime operation.entry
      { world with environment := operation.meets world.environment.dispatcher } with
    same | ⟨call, result, prepared, exits⟩
  · rw [DispatchingCall.step, same] at appends
    exact absurd appends (InMemoryEvidenceStore.not_appends_of_eq rfl)
  · obtain ⟨decisionId, live, performed, key, performs, own | earlier⟩ :=
      exits.performed_of_appends wired answered appends executed
    · exact ⟨call, prepared, decisionId, performed, performs, own ▸ ⟨rfl, rfl, rfl⟩⟩
    · have repeated := repeats call prepared live performed earlier key
      exact ⟨call, prepared, decisionId, performed, performs, repeated⟩

end

/-- In every run from an empty ledger whose calls re-use an idempotency key only for the effect
performed under it, every outcome reported as executed was performed, by its call or an earlier
one, with the name, the resource and the parameters of the decision's action. -/
theorem truthful_of_run (wired : InMemoryWired runtime signer)
    {start world : World (Dispatching ρ) (Signed κ InMemoryEvidenceStore) ℓ β}
    (empty : start.environment.dispatcher.outcomes = fun _ => none)
    (run : Reaches (DispatchingCall.RepeatsEffects runtime) (DispatchingCall.step runtime) start
      world) (operation : DispatchingCall ρ) (repeats : operation.RepeatsEffects runtime world) :
    operation.Truthful runtime world := by
  refine truthful_of_answered wired operation repeats ?_
  refine run.invariant (fun world => world.environment.dispatcher.Answered) ?_ ?_
  · intro key outcome recorded
    simp [empty] at recorded
  · exact fun operation _ _ answered => answered_step wired operation answered

theorem outcomeChain_step (wired : InMemoryWired runtime signer) (operation : DispatchingCall ρ)
    (world : World (Dispatching ρ) (Signed κ InMemoryEvidenceStore) ℓ β) (segmentId : String) :
    ∃ later, (operation.step runtime world).evidence.store.outcomeChain segmentId =
      world.evidence.store.outcomeChain segmentId ++ later := by
  refine perform_evidence_invariant operation.entry _
    (fun evidence : Signed κ InMemoryEvidenceStore => ∃ later,
      evidence.store.outcomeChain segmentId =
        world.evidence.store.outcomeChain segmentId ++ later) ?_ ?_ ⟨[], by simp⟩
  · rw [wired.evidence]
    rintro record evidence - ⟨later, grown⟩
    exact ⟨later, (congrFun (InMemoryEvidenceStore.outcomeChain_appendIntent record evidence)
      segmentId).trans grown⟩
  · rw [wired.evidence]
    rintro receipt record evidence ⟨later, grown⟩
    refine InMemoryEvidenceStore.appendOutcome_invariant signer (fun store => ∃ later,
      store.outcomeChain segmentId = world.evidence.store.outcomeChain segmentId ++ later)
      receipt record ⟨later, grown⟩ fun row _ => ?_
    simp only [InMemoryEvidenceStore.pushOutcome, Function.update_apply]
    split
    next same => exact ⟨later ++ [row], by rw [← same, grown, List.append_assoc]⟩
    next => exact ⟨later, grown⟩

end Runs

/-- The ports of the sample service, beside a dispatcher. -/
def dispatchingQueries : Queries (Dispatching SampleEnvironment) where
  now := fun environment => sampleQueries.now environment.outer
  uuid4Hex := fun environment => sampleQueries.uuid4Hex environment.outer
  verify := fun environment => sampleQueries.verify environment.outer
  assertMatchesAssertion := fun environment =>
    sampleQueries.assertMatchesAssertion environment.outer
  resolveAction := fun environment => sampleQueries.resolveAction environment.outer
  resolveAttestation := fun environment => sampleQueries.resolveAttestation environment.outer
  resolveTool := fun environment => sampleQueries.resolveTool environment.outer
  isGloballyEngaged := fun environment => sampleQueries.isGloballyEngaged environment.outer
  isTenantEngaged := fun environment => sampleQueries.isTenantEngaged environment.outer
  getMandate := fun environment => sampleQueries.getMandate environment.outer
  isRevoked := fun environment => sampleQueries.isRevoked environment.outer
  decide := fun environment => sampleQueries.decide environment.outer
  score := fun environment => sampleQueries.score environment.outer

def dispatchingService [Runtime] : MemoryRuntime (Dispatching SampleEnvironment) where
  config := (sampleService MacSigner.counter).config
  queries := dispatchingQueries
  limitStore := InMemoryLimitStore.port
  baselineStore := InMemoryBaselineStore.port
  evidenceStore := InMemoryEvidenceStore.port MacSigner.counter
  dispatch := InMemoryDispatcher.dispatch

/-- Another action under the key of `sampleRead`. -/
def sampleErase : ProposedAction := sampleAction ⟨"erase", by decide⟩ .reversible none

/-- A call for an action, while every handler returns nothing. -/
def dispatchingCall (action : ProposedAction) (decisionId : String) :
    DispatchingCall SampleEnvironment where
  outer := {}
  handlers := fun _ => some fun _ _ => .returned .none "None"
  receiptCheck := none
  entry := sampleCall action decisionId

def dispatchingWorld : MemoryWorld (Dispatching SampleEnvironment) where
  environment := ⟨{}, {}⟩
  evidence := ⟨0, {}⟩
  charges := ⟨{}, {}⟩

theorem dispatchingService_wired [Runtime] :
    InMemoryWired dispatchingService MacSigner.counter where
  evidence := rfl
  dispatch := rfl
  workflow := nofun

attribute [local instance] plainRuntime

def dispatchingRun (operations : List (DispatchingCall SampleEnvironment)) :
    MemoryWorld (Dispatching SampleEnvironment) :=
  runAll (DispatchingCall.step dispatchingService) operations dispatchingWorld

/-- What a call after others appends as executed. -/
theorem appends_last {operations : List (DispatchingCall SampleEnvironment)}
    {operation : DispatchingCall SampleEnvironment}
    (longer : ((dispatchingRun (operations ++ [operation])).evidence.store.outcomeChain
      "segment-acme-0").length =
        ((dispatchingRun operations).evidence.store.outcomeChain "segment-acme-0").length + 1)
    (executed : ((dispatchingRun (operations ++ [operation])).evidence.store.outcomeChain
      "segment-acme-0").all (fun row => row.record.outcome.status = .executed) = true) :
    ∃ record, (dispatchingRun operations).evidence.store.Appends
      (dispatchingRun (operations ++ [operation])).evidence.store record ∧
      record.outcome.status = .executed := by
  obtain ⟨later, grown⟩ := outcomeChain_step dispatchingService_wired operation
    (dispatchingRun operations) "segment-acme-0"
  have same : dispatchingRun (operations ++ [operation]) =
      operation.step dispatchingService (dispatchingRun operations) := by
    simp [dispatchingRun, runAll]
  rw [same, grown] at longer executed
  rw [List.length_append, Nat.add_left_cancel_iff] at longer
  obtain ⟨row, rfl⟩ := List.length_eq_one_iff.mp longer
  refine ⟨row.record, ⟨"segment-acme-0", row, rfl, same ▸ grown⟩, ?_⟩
  simpa using List.all_eq_true.mp executed row (by simp)

theorem truthful_of_run_repeated :
    (dispatchingCall sampleRead "decision-2").Truthful dispatchingService
      (dispatchingRun [dispatchingCall sampleRead "decision-1"]) ∧
    ∃ record, (dispatchingRun [dispatchingCall sampleRead "decision-1"]).evidence.store.Appends
      (dispatchingRun [dispatchingCall sampleRead "decision-1",
        dispatchingCall sampleRead "decision-2"]).evidence.store record ∧
      record.outcome.status = .executed := by
  refine ⟨?_, @appends_last [dispatchingCall sampleRead "decision-1"]
    (dispatchingCall sampleRead "decision-2") (by decide +kernel) (by decide +kernel)⟩
  have permits : Permits (DispatchingCall.RepeatsEffects dispatchingService)
      (DispatchingCall.step dispatchingService) [dispatchingCall sampleRead "decision-1"]
      dispatchingWorld := by
    refine ⟨?_, trivial⟩
    rintro call - - performed ⟨ending, -, run⟩
    cases run
  refine truthful_of_run dispatchingService_wired rfl permits.reaches _ ?_
  rintro call prepared - performed ⟨ending, -, run⟩ -
  cases prepared
  have read : (dispatchingRun [dispatchingCall sampleRead
      "decision-1"]).environment.dispatcher.runs.all (fun run =>
        run.1.action = sampleRead.action ∧ run.1.resource = sampleRead.resource ∧
          run.1.parameters.isEmpty) = true := by
    decide +kernel
  obtain ⟨action, resource, parameters⟩ :=
    of_decide_eq_true (List.all_eq_true.mp read (performed, ending) run)
  exact ⟨action, resource, List.isEmpty_iff.mp parameters⟩

/-- The outcome of an action which was never performed is reported as executed, because another
one was performed under its key. -/
theorem reused_key_reports_executed :
    ¬ ∀ world, Reaches (fun _ _ => True) (DispatchingCall.step dispatchingService)
        dispatchingWorld world →
      ∀ operation : DispatchingCall SampleEnvironment,
        operation.Truthful dispatchingService world := by
  intro claim
  have truthful := claim (dispatchingRun [dispatchingCall sampleRead "decision-1"])
    (permits_of_forall (fun _ _ => trivial) _ _).reaches
    (dispatchingCall sampleErase "decision-2")
  obtain ⟨record, appends, executed⟩ := @appends_last [dispatchingCall sampleRead "decision-1"]
    (dispatchingCall sampleErase "decision-2") (by decide +kernel) (by decide +kernel)
  obtain ⟨call, prepared, -, performed, ⟨ending, -, run⟩, same, -⟩ :=
    truthful record appends executed
  cases prepared
  -- The ledger answers the second call, so the only handler which ran has read.
  have read : (dispatchingRun [dispatchingCall sampleRead "decision-1",
      dispatchingCall sampleErase "decision-2"]).environment.dispatcher.runs.all
        (fun run => run.1.action.val = "read") = true := by
    decide +kernel
  have named : performed.action.val = "read" := by
    simpa using List.all_eq_true.mp read (performed, ending) run
  have erase : performed.action = sampleErase.action := same
  rw [erase] at named
  exact absurd named (by decide)

end DecisionService

end GlassBox
