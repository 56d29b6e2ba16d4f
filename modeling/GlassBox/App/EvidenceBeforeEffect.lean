import GlassBox.App.Exits
import GlassBox.App.Sample
import GlassBox.Foundation.Runs

/-!
# Evidence before effect

Runs of the decision service over one in-memory evidence store, which returns the receipt it
already has when a decision id comes back.  If every re-used id stands for an allowed record of the
same action, every dispatched action is in evidence.
-/

namespace GlassBox

open EStateM

namespace InMemoryEvidenceStore

/-- The store holds an allowed record of the action under a decision id. -/
def Evidences (store : InMemoryEvidenceStore) (decisionId : String) (action : ProposedAction)
    (sensitive : List String) : Prop :=
  ∃ segmentId, ∃ row ∈ store.rows segmentId, row.record.decisionId.val = decisionId ∧
    row.record.decision.effect = .allow ∧
    row.record.action = action.withRedactedParameters sensitive

/-- Receipts are kept under the decision they name. -/
def Keyed (store : InMemoryEvidenceStore) : Prop :=
  ∀ decisionId receipt, store.receipts decisionId = some receipt →
    receipt.decisionId.val = decisionId

section Append

variable [Runtime] {κ : Type} {signer : MacSigner κ} {before : Signed κ InMemoryEvidenceStore}

theorem ends_appendIntent (record : IntentRecord) (before : Signed κ InMemoryEvidenceStore) :
    (appendIntent signer record).Ends before
      (fun receipt after =>
        (before.store.receipts record.decisionId.val = some receipt ∧ after = before) ∨
        (before.store.receipts record.decisionId.val = none ∧
          receipt.decisionId = record.decisionId ∧
          after.store.receipts =
            Function.update before.store.receipts receipt.decisionId.val (some receipt) ∧
          ∃ row ∈ after.store.rows record.segmentId.val, row.record = record))
      (fun _ after => after.store.receipts = before.store.receipts) := by
  simp only [appendIntent, ends_bind, ends_get]
  cases existing : before.store.receipts record.decisionId.val with
  | some receipt => exact .inl ⟨rfl, rfl⟩
  | none =>
    simp only [ends_bind, Signed.modifyStore, ends_modify, ends_get, ends_ofExcept]
    split
    next payload _ =>
      simp only [Signed.onSigner, ends_zoom]
      refine MacSigner.ends_macOfRecord (fun mac after _ => ?_) fun _ _ => rfl
      split
      next receipt made =>
        refine .inr ⟨trivial, (EvidenceReceipt.of_make made).1, rfl, ?_⟩
        simp
      next => rfl
    next => rfl

theorem keyed_appendIntent (record : IntentRecord) (keyed : Keyed before.store) :
    Keyed ((appendIntent signer record).after before).store := by
  refine after_of_ends (fun after : Signed κ InMemoryEvidenceStore => Keyed after.store) ?_
  refine (ends_appendIntent record before).mono ?_ ?_
  · rintro receipt after (⟨-, rfl⟩ | ⟨-, -, receipts, -⟩)
    · exact keyed
    · intro decisionId kept found
      rw [receipts, Function.update_apply] at found
      split at found
      next same =>
        cases found
        exact same.symm
      next => exact keyed decisionId kept found
  · intro _ after receipts
    rwa [Keyed, receipts]

theorem mem_rows_appendIntent {record : IntentRecord} {segmentId : String} {row : StoredRecord}
    (kept : row ∈ ((appendIntent signer record).after before).store.rows segmentId) :
    row ∈ before.store.rows segmentId ∨ row.record = record := by
  refine appendIntent_invariant signer (fun store => row ∈ store.rows segmentId →
    row ∈ before.store.rows segmentId ∨ row.record = record) record .inl ?_ ?_
    (fun _ _ => id) kept
  · rw [rows_openSegment]
    exact .inl
  · rintro - new made member
    rw [rows_pushRecord, rows_openSegment, Function.update_apply] at member
    split at member
    next same =>
      rcases List.mem_append.mp member with earlier | added
      · exact .inl (same ▸ earlier)
      · rw [List.mem_singleton.mp added]
        exact .inr made.record_eq
    next => exact .inl member

end Append

end InMemoryEvidenceStore

namespace DecisionService

/-- One call, with whatever the ports answer during it. -/
structure Operation (ρ : Type) where
  environment : ρ
  entry : Entry

section Runs

variable [Runtime] {ρ κ ℓ β : Type}
  (runtime : GovernanceRuntime ρ (Signed κ InMemoryEvidenceStore) ℓ β)

def Operation.step (operation : Operation ρ)
    (world : World ρ (Signed κ InMemoryEvidenceStore) ℓ β) :
    World ρ (Signed κ InMemoryEvidenceStore) ℓ β :=
  (perform runtime operation.entry).after { world with environment := operation.environment }

/-- A live call under a decision id the store already knows repeats an allowed record of the same
action. -/
def Operation.RepeatsFaithfully (operation : Operation ρ)
    (world : World ρ (Signed κ InMemoryEvidenceStore) ℓ β) : Prop :=
  ∀ call, operation.entry.prepare runtime.queries operation.environment = .ok call →
    call.suppressDispatch = false →
    world.evidence.store.receipts call.decisionId ≠ none →
      world.evidence.store.Evidences call.decisionId call.action call.sensitiveParameterFields

/-- Whenever the dispatcher was called, the action was in evidence under the receipt. -/
def EvidenceFirst (world : World ρ (Signed κ InMemoryEvidenceStore) ℓ β) : Prop :=
  ∀ action sensitive receipt evidence,
    .dispatched action sensitive receipt evidence ∈ world.history →
      evidence.store.Evidences receipt.decisionId.val action sensitive

variable {runtime} {signer : MacSigner κ} {world : World ρ (Signed κ InMemoryEvidenceStore) ℓ β}

section

variable (wired : runtime.evidenceStore = InMemoryEvidenceStore.port signer)
include wired

/-- A faithful call keeps evidence before effect. -/
theorem EvidenceFirst.step
    (operation : Operation ρ) (faithful : operation.RepeatsFaithfully runtime world)
    (keyed : world.evidence.store.Keyed) (first : EvidenceFirst world) :
    EvidenceFirst (operation.step runtime world) := by
  obtain ⟨events, history, shape⟩ := perform_events runtime operation.entry
    { world with environment := operation.environment }
  intro action sensitive receipt evidence member
  rw [Operation.step, history] at member
  rcases List.mem_append.mp member with earlier | now
  · exact first action sensitive receipt evidence earlier
  rcases shape with rfl | ⟨call, prepared, shape⟩
  · cases now
  obtain ⟨rfl, rfl, decided, record, middle, records, written, dispatches, -⟩ :=
    shape.of_dispatched now
  rw [wired] at written
  obtain ⟨decisionId, -, -, -, action, -⟩ := IntentRecord.of_make records.recorded
  -- the store knows the decision id of a repeated call, and writes nothing for it
  rcases (ends_of_ok written).mp
      (InMemoryEvidenceStore.ends_appendIntent record world.evidence) with
    ⟨known, rfl⟩ | ⟨-, receipt_eq, -, row, member, rfl⟩
  · rw [keyed _ receipt known, decisionId]
    rw [decisionId] at known
    exact faithful call prepared dispatches.2.2 (by simp [known])
  · exact ⟨_, row, member, by rw [receipt_eq], dispatches.1, action⟩

theorem keyed_step (operation : Operation ρ) (keyed : world.evidence.store.Keyed) :
    (operation.step runtime world).evidence.store.Keyed := by
  refine perform_evidence_invariant operation.entry _
    (fun evidence : Signed κ InMemoryEvidenceStore => evidence.store.Keyed) ?_ ?_ keyed
  · rw [wired]
    exact fun record _ _ keyed => InMemoryEvidenceStore.keyed_appendIntent record keyed
  · rw [wired]
    exact fun receipt record _ keyed =>
      InMemoryEvidenceStore.appendOutcome_invariant signer InMemoryEvidenceStore.Keyed receipt
        record keyed fun _ _ => keyed

theorem mem_rows_step (operation : Operation ρ) :
    ∀ segmentId, ∀ row ∈ (operation.step runtime world).evidence.store.rows segmentId,
      row ∈ world.evidence.store.rows segmentId ∨
        .intentAppended row.record ∈ (operation.step runtime world).history := by
  refine perform_evidence_invariant operation.entry _
    (fun evidence : Signed κ InMemoryEvidenceStore => ∀ segmentId, ∀ row ∈
      evidence.store.rows segmentId, row ∈ world.evidence.store.rows segmentId ∨
        .intentAppended row.record ∈ (operation.step runtime world).history) ?_ ?_ ?_
  · rw [wired]
    intro record evidence handed accounted segmentId row member
    rcases InMemoryEvidenceStore.mem_rows_appendIntent member with earlier | rfl
    · exact accounted segmentId row earlier
    · exact .inr handed
  · rw [wired]
    intro receipt record evidence accounted
    refine InMemoryEvidenceStore.appendOutcome_invariant signer (fun store => ∀ segmentId, ∀ row ∈
      store.rows segmentId, row ∈ world.evidence.store.rows segmentId ∨
        .intentAppended row.record ∈ (operation.step runtime world).history) receipt record
      accounted ?_
    exact fun _ _ => accounted
  · exact fun _ _ member => .inl member

end

/-- In every run from an empty store whose calls re-use decision ids faithfully, every dispatched
action is in evidence when it is dispatched: under the receipt's decision id, allowed, and equal up
to the redaction of its sensitive parameters. -/
theorem evidence_first_of_run (wired : runtime.evidenceStore = InMemoryEvidenceStore.port signer)
    {environment : ρ} {key : κ} {charges : Charges ℓ β}
    {world : World ρ (Signed κ InMemoryEvidenceStore) ℓ β}
    (run : Reaches (Operation.RepeatsFaithfully runtime) (Operation.step runtime)
      ⟨environment, ⟨key, {}⟩, charges, []⟩ world) :
    EvidenceFirst world := by
  have both : world.evidence.store.Keyed ∧ EvidenceFirst world := by
    refine run.invariant (fun world => world.evidence.store.Keyed ∧ EvidenceFirst world)
      ⟨by simp [InMemoryEvidenceStore.Keyed], by simp [EvidenceFirst]⟩ ?_
    intro operation before faithful ⟨keyed, first⟩
    exact ⟨keyed_step wired operation keyed, first.step wired operation faithful keyed⟩
  exact both.2

end Runs

def sampleDeny : AuthorizationDecision :=
  .deny .policyDenied ⟨"denied by policy", by decide⟩

/-- A call of the sample agent under the id `"decision-1"`, while the policy answers so. -/
def underPolicy (policy : AuthorizationDecision) : Operation SampleEnvironment where
  environment := { policy }
  entry := sampleCall sampleRead "decision-1"

attribute [local instance] plainRuntime

def sampleRun (operations : List (Operation SampleEnvironment)) : MemoryWorld SampleEnvironment :=
  runAll (Operation.step (sampleService MacSigner.counter)) operations (sampleWorld 0)

/-- Whether the row allows the sample call. -/
def allowsSampleRead (row : StoredRecord) : Bool :=
  let action := row.record.action
  row.record.decisionId.val = "decision-1" ∧ row.record.decision.effect = .allow ∧
    action.action = sampleRead.action ∧ action.resource = sampleRead.resource ∧
    action.consequence = sampleRead.consequence ∧ action.exposure = sampleRead.exposure ∧
    action.idempotencyKey = sampleRead.idempotencyKey ∧ action.parameters.isEmpty

theorem evidences_of_allowsSampleRead {store : InMemoryEvidenceStore} {segmentId : String}
    (allows : (store.rows segmentId).any allowsSampleRead = true) :
    store.Evidences "decision-1" sampleRead [] := by
  obtain ⟨row, member, allowed⟩ := List.any_eq_true.mp allows
  simp only [allowsSampleRead, decide_eq_true_eq, List.isEmpty_iff] at allowed
  obtain ⟨decisionId, effect, same⟩ := allowed
  refine ⟨segmentId, row, member, decisionId, effect, ?_⟩
  generalize row.record.action = action at same
  obtain ⟨name, resource, consequence, exposure, idempotencyKey, parameters⟩ := action
  obtain ⟨rfl, rfl, rfl, rfl, rfl, rfl⟩ := same
  rfl

/-- A call which repeats an allowed one under its id is dispatched again, under the same record. -/
theorem evidence_first_of_run_repeated :
    EvidenceFirst (sampleRun [underPolicy sampleAllow, underPolicy sampleAllow]) ∧
      (sampleRun [underPolicy sampleAllow, underPolicy sampleAllow]).history.countP
        Event.isDispatch = 2 := by
  refine ⟨?_, by decide +kernel⟩
  have known : ((sampleRun [underPolicy sampleAllow]).evidence.store.rows
      "segment-acme-0").any allowsSampleRead = true := by decide +kernel
  have permits : Permits (Operation.RepeatsFaithfully (sampleService MacSigner.counter))
      (Operation.step (sampleService MacSigner.counter))
      [underPolicy sampleAllow, underPolicy sampleAllow] (sampleWorld 0) := by
    refine ⟨fun _ _ _ unknown => absurd rfl unknown, ?_, trivial⟩
    intro call prepared _ _
    obtain ⟨principal, -, prepared⟩ := Except.bind_eq_ok_iff.mp prepared
    cases prepared
    exact evidences_of_allowsSampleRead known
  exact evidence_first_of_run rfl permits.reaches

/-- Whether the event hands over a record which does not allow. -/
def refusesIfRecord {ε : Type} : Event ε → Bool
  | .intentAppended record => record.decision.effect ≠ .allow
  | _ => true

private theorem evidence_eq_of_known {operations : List (Operation SampleEnvironment)}
    (known : ((sampleRun operations).evidence.store.receipts "decision-1").isSome = true)
    (quiet : (sampleRun operations).history.any Event.isDispatch = false)
    {policy : AuthorizationDecision} {action : ProposedAction} {sensitive : List String}
    {receipt : EvidenceReceipt} {evidence : Signed UInt8 InMemoryEvidenceStore}
    (member : .dispatched action sensitive receipt evidence ∈
      (sampleRun (operations ++ [underPolicy policy])).history) :
    evidence = (sampleRun operations).evidence := by
  obtain ⟨events, history, shape⟩ := perform_events (sampleService MacSigner.counter)
    (underPolicy policy).entry
    { sampleRun operations with environment := (underPolicy policy).environment }
  have extended : (sampleRun (operations ++ [underPolicy policy])).history =
      (sampleRun operations).history ++ events := by
    rw [← history]
    simp [sampleRun, runAll, Operation.step]
  rw [extended] at member
  rcases List.mem_append.mp member with earlier | now
  · exact absurd rfl (List.any_eq_false.mp quiet _ earlier)
  rcases shape with rfl | ⟨call, prepared, shape⟩
  · cases now
  obtain ⟨-, -, decided, record, middle, records, written, -⟩ := shape.of_dispatched now
  cases prepared
  obtain ⟨decisionId, -⟩ := IntentRecord.of_make records.recorded
  rcases (ends_of_ok written).mp
      (InMemoryEvidenceStore.ends_appendIntent record _) with ⟨-, same⟩ | ⟨unknown, -⟩
  · exact same
  · rw [decisionId] at unknown
    have absent : (sampleRun operations).evidence.store.receipts "decision-1" = none := unknown
    rw [absent] at known
    cases known

/-- An id first used for a denied call and then for an allowed one dispatches under the record of
the denial. -/
theorem reused_id_dispatches_denied :
    ¬ ∀ world, Reaches (fun _ _ => True) (Operation.step (sampleService MacSigner.counter))
        (sampleWorld 0) world → EvidenceFirst world := by
  intro claim
  have first : EvidenceFirst (sampleRun [underPolicy sampleDeny, underPolicy sampleAllow]) :=
    claim _ (permits_of_forall (fun _ _ => trivial) _ _).reaches
  -- The first call leaves one row, which denies; the second one is told that it is known.
  have denied : (sampleRun [underPolicy sampleDeny]).history.all refusesIfRecord = true := by
    decide +kernel
  have quiet : (sampleRun [underPolicy sampleDeny]).history.any Event.isDispatch = false := by
    decide +kernel
  have known : ((sampleRun [underPolicy sampleDeny]).evidence.store.receipts
      "decision-1").isSome = true := by
    decide +kernel
  have dispatched : (sampleRun [underPolicy sampleDeny, underPolicy sampleAllow]).history.any
      Event.isDispatch = true := by
    decide +kernel
  obtain ⟨event, member, isDispatch⟩ := List.any_eq_true.mp dispatched
  cases event with
  | intentAppended | workflowCreated => cases isDispatch
  | dispatched action sensitive receipt evidence =>
    obtain ⟨segmentId, row, row_mem, -, allowed, -⟩ :=
      first action sensitive receipt evidence member
    have unchanged := evidence_eq_of_known known quiet member
    rw [unchanged] at row_mem
    rcases mem_rows_step rfl (underPolicy sampleDeny) segmentId row row_mem with absent | handed
    · cases absent
    · have refused := List.all_eq_true.mp denied _ handed
      simp [refusesIfRecord, allowed] at refused

end DecisionService

end GlassBox
