import GlassBox.App.Exits
import GlassBox.App.Sample

/-!
# Evidence failures and effects

A caller who sees an evidence failure is promised that nothing was executed.  The outcome is signed
after the effect, and an unreachable key is then reported like a failure before it.
-/

namespace GlassBox

open EStateM

theorem cls_of_signingUnavailable {error : PyError}
    (unavailable : error.isA .signingUnavailableError = true) :
    error.cls = .signingUnavailableError := by
  unfold PyError.isA at unavailable
  cases named : error.cls <;> rw [named] at unavailable <;>
    first | rfl | simp [ErrorClass.ancestors] at unavailable

namespace MacSigner

variable {κ : Type} {signer : MacSigner κ}

theorem ends_macOfRecord_unavailable (decisionId : Identifier) (payload : ByteString) (before : κ) :
    (signer.macOfRecord decisionId payload).Ends before
      (fun _ _ => ∃ mac after, signer.mac payload before = .ok mac after)
      (fun error _ => ∃ cause after, signer.mac payload before = .error cause after ∧
        error.isA .signingUnavailableError = cause.isA .signingUnavailableError) := by
  simp only [macOfRecord, refusing, ends_tryCatch]
  cases run : signer.mac payload before with
  | ok mac after => exact (ends_of_ok run).mpr ⟨mac, after, rfl⟩
  | error cause after =>
    refine (ends_of_error run).mpr ?_
    by_cases unavailable : cause.isA .signingUnavailableError = true
    · rw [if_pos unavailable, ends_throw]
      exact ⟨cause, after, rfl, rfl⟩
    · rw [if_neg unavailable, ends_throw]
      exact ⟨cause, after, rfl, by simpa [PyError.isA, PyError.evidenceWrite,
        ErrorClass.ancestors] using unavailable⟩

end MacSigner

namespace InMemoryEvidenceStore

variable [Runtime] {κ : Type}

/-- The outcome is new to the store and the signer's key cannot be reached to sign it. -/
def RefusesOutcome (signer : MacSigner κ) (state : Signed κ InMemoryEvidenceStore)
    (receipt : EvidenceReceipt) (record : OutcomeRecord) : Prop :=
  receipt.decisionId = record.decisionId ∧
    state.store.receipts receipt.decisionId.val ≠ none ∧
    (record.decisionId, record.outcome.completedAt) ∉ state.store.outcomeKeys ∧
    ∃ payload error after,
      record.chainPayload (state.store.outcomeChain receipt.segmentId.val).length
        (lastHash (state.store.outcomeChain receipt.segmentId.val)) = .ok payload ∧
      signer.mac payload state.signer = .error error after ∧
      error.isA .signingUnavailableError = true

theorem ends_appendOutcome_unavailable {signer : MacSigner κ} (receipt : EvidenceReceipt)
    (record : OutcomeRecord) (before : Signed κ InMemoryEvidenceStore) :
    (appendOutcome signer receipt record).Ends before
      (fun _ _ => ¬ RefusesOutcome signer before receipt record)
      (fun error _ => error.isA .signingUnavailableError = true ↔
        RefusesOutcome signer before receipt record) := by
  unfold appendOutcome
  split
  next different =>
    refine iff_of_false (by simp [PyError.isA, ErrorClass.ancestors]) ?_
    exact fun refuses => different refuses.1
  next same =>
    simp only [ends_bind, ends_get]
    split
    next unknown =>
      refine iff_of_false (by simp [PyError.isA, PyError.evidenceWrite, ErrorClass.ancestors]) ?_
      exact fun refuses => refuses.2.1 unknown
    next known =>
      split
      next recorded => exact fun refuses => refuses.2.2.1 recorded
      next unrecorded =>
        simp only [ends_bind, ends_ofExcept]
        split
        next payload defined =>
          simp only [Signed.onSigner, ends_zoom]
          refine (MacSigner.ends_macOfRecord_unavailable record.decisionId payload
            before.signer).mono ?_ ?_
          · rintro _ _ ⟨mac, after, signed⟩ ⟨-, -, -, other, error, _, defined', refused, -⟩
            cases defined.symm.trans defined'
            cases signed.symm.trans refused
          · rintro error _ ⟨cause, after, refused, class_eq⟩
            rw [class_eq]
            constructor
            · intro unavailable
              exact ⟨not_not.mp same, known, unrecorded, payload, cause, after, defined, refused,
                unavailable⟩
            · rintro ⟨-, -, -, other, error, _, defined', refused', unavailable⟩
              cases defined.symm.trans defined'
              cases refused.symm.trans refused'
              exact unavailable
        next error undefined =>
          refine iff_of_false ?_ ?_
          · have validation := cls_of_chainPayload undefined
            simp [PyError.isA, validation, ErrorClass.ancestors]
          · rintro ⟨-, -, -, other, _, _, defined, -⟩
            cases undefined.symm.trans defined

end InMemoryEvidenceStore

namespace DecisionService

section Calls

variable [Runtime] {ρ ε ℓ β : Type} {κ : Type}
  {runtime : GovernanceRuntime ρ (Signed κ InMemoryEvidenceStore) ℓ β} {signer : MacSigner κ}
  {entry : Entry} {before : World ρ (Signed κ InMemoryEvidenceStore) ℓ β} {call : Evaluation}
  {after : World ρ (Signed κ InMemoryEvidenceStore) ℓ β}

/-- The dispatcher was not called between two worlds. -/
def NoDispatch (before after : World ρ ε ℓ β) : Prop :=
  ∃ events, after.history = before.history ++ events ∧ events.any Event.isDispatch = false

/-- If the call raises an evidence failure, the dispatcher was not called. -/
def FailsBeforeEffect (runtime : GovernanceRuntime ρ ε ℓ β) (entry : Entry)
    (before : World ρ ε ℓ β) : Prop :=
  ∀ error after, perform runtime entry before = .error error after →
    isEvidenceFailure error = true → NoDispatch before after

def DispatcherDocumented (runtime : GovernanceRuntime ρ ε ℓ β) : Prop :=
  ∀ action receipt timeout now before error after,
    runtime.dispatch action receipt timeout now before = .error error after →
      error.isA .dispatchError = true

/-- Whenever the call has executed its action, the signer's key can be reached for the outcome. -/
def SignsOutcome (runtime : GovernanceRuntime ρ (Signed κ InMemoryEvidenceStore) ℓ β)
    (signer : MacSigner κ) (entry : Entry)
    (before : World ρ (Signed κ InMemoryEvidenceStore) ℓ β) : Prop :=
  ∀ call decided record middle receipt evidence execution after,
    entry.prepare runtime.queries before.environment = .ok call →
    Records runtime call before decided record middle →
    InMemoryEvidenceStore.appendIntent signer record before.evidence = .ok receipt evidence →
    Dispatches call record.decision →
    dispatchIfPermitted runtime call record.decision receipt record.createdAt
      (afterAppend record middle evidence) = .ok execution after →
    ¬ InMemoryEvidenceStore.RefusesOutcome signer evidence receipt ⟨record.decisionId, execution⟩

/-- If the key can be reached for the outcome, a reported evidence failure came before the
effect. -/
theorem noDispatch_of_exits (wired : runtime.evidenceStore = InMemoryEvidenceStore.port signer)
    (documented : DispatcherDocumented runtime) (signs : SignsOutcome runtime signer entry before)
    (prepared : entry.prepare runtime.queries before.environment = .ok call) {error : PyError}
    (exits : Exits runtime call before (.error error) after)
    (failure : isEvidenceFailure error = true) : NoDispatch before after := by
  cases exits with
  | unauthorised | uncharged => exact ⟨[], by simp, rfl⟩
  | unrecorded decides => exact ⟨_, decides.history, by simp⟩
  | unwritten records | uncompensated records =>
    exact ⟨_, records.history_append, by simp [Event.isDispatch]⟩
  | undispatched records written executing =>
    cases executes_of_error executing with
    | raised _ answer other =>
      rw [documented _ _ _ _ _ _ _ answer] at other
      cases other
  | @unreported _ record _ _ _ _ _ _ _ records written executing reporting notWrite =>
    by_cases dispatches : Dispatches call record.decision
    · rw [wired] at written reporting
      have unavailable : error.isA .signingUnavailableError = true := by
        simpa [isEvidenceFailure, notWrite] using failure
      have refuses := ((ends_of_error reporting).mp
        (InMemoryEvidenceStore.ends_appendOutcome_unavailable _ _ _)).mp unavailable
      exact absurd refuses
        (signs call _ _ _ _ _ _ _ prepared records written dispatches executing)
    · have same := (executes_of_ok executing).after_of_not_dispatches dispatches
      subst same
      exact ⟨_, records.history_append, by simp [Event.isDispatch]⟩

theorem not_failsBeforeEffect_of_refuses
    (wired : runtime.evidenceStore = InMemoryEvidenceStore.port signer)
    (prepared : entry.prepare runtime.queries before.environment = .ok call) {decided : Decided}
    {record : IntentRecord} {receipt : EvidenceReceipt} {execution : ExecutionOutcome}
    {middle : World ρ (Signed κ InMemoryEvidenceStore) ℓ β}
    {evidence : Signed κ InMemoryEvidenceStore}
    (records : Records runtime call before decided record middle)
    (written : InMemoryEvidenceStore.appendIntent signer record before.evidence =
      .ok receipt evidence) (dispatches : Dispatches call record.decision)
    (executing : dispatchIfPermitted runtime call record.decision receipt record.createdAt
      (afterAppend record middle evidence) = .ok execution after)
    (refuses : InMemoryEvidenceStore.RefusesOutcome signer evidence receipt
      ⟨record.decisionId, execution⟩) : ¬ FailsBeforeEffect runtime entry before := by
  intro fails
  have executes := executes_of_ok executing
  obtain ⟨error, evidence', reporting, unavailable⟩ :
      ∃ error evidence', InMemoryEvidenceStore.appendOutcome signer receipt
        ⟨record.decisionId, execution⟩ evidence = .error error evidence' ∧
          error.isA .signingUnavailableError = true := by
    have ends := @InMemoryEvidenceStore.ends_appendOutcome_unavailable _ _ signer receipt
      ⟨record.decisionId, execution⟩ evidence
    cases run : InMemoryEvidenceStore.appendOutcome signer receipt ⟨record.decisionId, execution⟩
        evidence with
    | ok value evidence' => exact absurd refuses ((ends_of_ok run).mp ends)
    | error error evidence' =>
      exact ⟨error, evidence', rfl, ((ends_of_error run).mp ends).mpr refuses⟩
  have raised : perform runtime entry before =
      .error error { after with evidence := evidence' } := by
    have other : error.isA .evidenceWriteError = false := by
      simp [PyError.isA, cls_of_signingUnavailable unavailable, ErrorClass.ancestors]
    have durable : runtime.evidenceStore.appendIntent record before.evidence =
        .ok receipt evidence := by
      rw [wired]
      exact written
    rw [perform_of_prepare prepared, evaluate_of_written records durable]
    refine act_of_unreported executing ?_ other
    rw [wired]
    exact reporting
  obtain ⟨events, history, quiet⟩ := fails error _ raised (by simp [isEvidenceFailure, unavailable])
  have extended := executes.history_of_dispatches dispatches
  rw [show after.history = _ from history, show (afterAppend record middle evidence).history = _
    from records.history_append, List.append_assoc] at extended
  rw [List.append_cancel_left extended] at quiet
  simp [dispatchEvent, Event.isDispatch] at quiet

/-- A reported evidence failure means that nothing was executed, exactly when the signer's key can
be reached for the outcome of every executed action. -/
theorem fails_before_effect_iff_signs_outcome
    (wired : runtime.evidenceStore = InMemoryEvidenceStore.port signer)
    (documented : DispatcherDocumented runtime) :
    FailsBeforeEffect runtime entry before ↔ SignsOutcome runtime signer entry before := by
  constructor
  · intro fails call decided record middle receipt evidence execution after prepared records written
      dispatches executing refuses
    exact not_failsBeforeEffect_of_refuses wired prepared records written dispatches executing
      refuses fails
  · intro signs error after raised failure
    have ends : (perform runtime entry).Ends before (fun _ _ => True) (fun error after =>
        isEvidenceFailure error = true → NoDispatch before after) := by
      simp only [perform, ends_bind, ends_get]
      cases prepared : entry.prepare runtime.queries before.environment with
      | error error => exact fun _ => ⟨[], by simp, rfl⟩
      | ok call =>
        exact (evaluate_exits call before).mono (fun _ _ _ => trivial) fun _ _ exits failure =>
          noDispatch_of_exits wired documented signs prepared exits failure
    exact (ends_of_error raised).mp ends failure

end Calls

/-- A signer whose key is lost after a number of signatures. -/
def fadingSigner : MacSigner Nat where
  keyId := fun _ => "fading"
  mac := fun _ => do
    match ← get with
    | 0 => throw { cls := .signingUnavailableError, message := "the signing key is unavailable" }
    | left + 1 =>
      set left
      return MacSigner.numberedCode 0
  verify := fun _ _ _ _ => .ok true

attribute [local instance] plainRuntime

def sampleWithSignatures (left : Nat) :
    EStateM.Result PyError (World SampleEnvironment (Signed Nat InMemoryEvidenceStore)
      InMemoryLimitStore InMemoryBaselineStore) DecisionOutcome :=
  perform (sampleService fadingSigner) (sampleCall sampleRead "decision-1") (sampleWorld left)

/-- Whether a call raised an evidence failure, and whether it had called the dispatcher. -/
def failureAndEffect {ρ ε ℓ β : Type} :
    EStateM.Result PyError (World ρ ε ℓ β) DecisionOutcome → Bool × Bool
  | .ok _ after => (false, after.history.any Event.isDispatch)
  | .error error after => (isEvidenceFailure error, after.history.any Event.isDispatch)

theorem dispatcherDocumented_sampleService [Runtime] {κ : Type} (signer : MacSigner κ) :
    DispatcherDocumented (sampleService signer) := by
  intro action receipt timeout now before error after raised
  cases show EStateM.Result.ok _ before = EStateM.Result.error error after from raised

theorem fails_before_effect_iff_signs_outcome_unsigned :
    failureAndEffect (sampleWithSignatures 0) = (true, false) ∧
      SignsOutcome (sampleService fadingSigner) fadingSigner (sampleCall sampleRead "decision-1")
        (sampleWorld 0) := by
  have failed : failureAndEffect (sampleWithSignatures 0) = (true, false) := by decide +kernel
  refine ⟨failed, (fails_before_effect_iff_signs_outcome rfl
    (dispatcherDocumented_sampleService fadingSigner)).mp ?_⟩
  intro error after raised _
  rw [sampleWithSignatures, raised] at failed
  exact ⟨after.history, rfl, (Prod.mk.inj failed).2⟩

/-- The key is lost after the intent was signed: the action is executed and the caller sees an
evidence failure. -/
theorem executed_action_reported_as_evidence_failure :
    ¬ FailsBeforeEffect (sampleService fadingSigner) (sampleCall sampleRead "decision-1")
      (sampleWorld 1) := by
  intro fails
  have failed : failureAndEffect (sampleWithSignatures 1) = (true, true) := by decide +kernel
  unfold sampleWithSignatures at failed
  cases run : perform (sampleService fadingSigner) (sampleCall sampleRead "decision-1")
      (sampleWorld 1) with
  | ok outcome after =>
    rw [run] at failed
    cases (Prod.mk.inj failed).1
  | error error after =>
    rw [run] at failed
    obtain ⟨failure, dispatched⟩ := Prod.mk.inj failed
    obtain ⟨events, history, quiet⟩ := fails error after run failure
    rw [history] at dispatched
    exact absurd dispatched (by simpa [sampleWorld] using quiet)

end DecisionService

end GlassBox
