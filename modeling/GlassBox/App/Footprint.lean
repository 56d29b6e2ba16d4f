import GlassBox.App.Dispatching
import GlassBox.App.EvidenceBeforeEffect
import GlassBox.Foundation.Purge

/-!
# What a call leaves behind

The record and the charges of a call follow from what the ports read, the charges it found and
whether the evidence store fails to write the record, however the evidence and the history differ.
-/

namespace GlassBox

open EStateM

/-- Whether an append failed as one of evidence, so that the budget of its call is released. -/
def DecisionService.writeFailed : Except PyError EvidenceReceipt → Bool
  | .ok _ => false
  | .error error => isEvidenceFailure error

/-- Whether the store fails to write a record does not depend on the records it holds. -/
structure EvidenceStore.Steady {ε : Type} (store : EvidenceStore ε) (sound : ε → Prop) : Prop where
  sound_appendIntent : ∀ record evidence, sound evidence →
    sound ((store.appendIntent record).after evidence)
  sound_appendOutcome : ∀ receipt outcome evidence, sound evidence →
    sound ((store.appendOutcome receipt outcome).after evidence)
  writeFailed_eq : ∀ record evidence other, sound evidence → sound other →
    DecisionService.writeFailed ((store.appendIntent record).outcome evidence) =
      DecisionService.writeFailed ((store.appendIntent record).outcome other)

namespace InMemoryEvidenceStore

variable [Runtime] {κ : Type} {signer : MacSigner κ}
  (available : ∀ payload before, ∃ mac after, signer.mac payload before = .ok mac after)
include available

/-- Under a signer which is available, a record is refused only as malformed. -/
theorem appendIntent_ends_of_available (record : IntentRecord)
    (evidence : Signed κ InMemoryEvidenceStore) :
    (appendIntent signer record).Ends evidence (fun _ _ => True)
      fun error _ => error.cls = .domainValidationError := by
  simp only [appendIntent, ends_bind, ends_get]
  cases evidence.store.receipts record.decisionId.val with
  | some existing => trivial
  | none =>
    simp only [ends_bind, Signed.modifyStore, ends_modify, ends_get, ends_ofExcept]
    split
    next payload _ =>
      obtain ⟨mac, after, signed⟩ := available payload evidence.signer
      simp only [Signed.onSigner, ends_zoom]
      refine MacSigner.ends_macOfRecord_of (fun mac after _ => ?_) fun failure after failed => ?_
      · simp only [ends_pure]
        split
        next => trivial
        next error refused => exact EvidenceReceipt.cls_of_make refused
      · cases signed.symm.trans failed
    next error undefined => exact cls_of_chainPayload undefined

/-- The in-memory store is steady under a signer which is available. -/
theorem steady_port : (port signer).Steady fun _ => True := by
  have writes : ∀ record evidence,
      DecisionService.writeFailed ((appendIntent signer record).outcome evidence) = false := by
    intro record evidence
    have ends := appendIntent_ends_of_available available record evidence
    cases run : appendIntent signer record evidence with
    | ok receipt after => rw [outcome_of_ok run, DecisionService.writeFailed]
    | error error after =>
      rw [ends_of_error run] at ends
      rw [outcome_of_error run, DecisionService.writeFailed, DecisionService.isEvidenceFailure,
        PyError.isA, PyError.isA, ends]
      rfl
  exact ⟨fun _ _ _ => trivial, fun _ _ _ _ => trivial, fun record evidence other _ _ =>
    (writes record evidence).trans (writes record other).symm⟩

end InMemoryEvidenceStore

namespace DecisionService

section Footprint

variable {ρ ε ℓ β : Type} (runtime : GovernanceRuntime ρ ε ℓ β)

/-- The charges of a call once the evidence store has answered. -/
def settledCharges (call : Evaluation) (decided : Decided)
    (answer : Except PyError EvidenceReceipt) (charges : Charges ℓ β) : Charges ℓ β :=
  match answer with
  | .ok _ => charges
  | .error error => (compensate runtime call decided error).after charges

theorem settledCharges_eq (call : Evaluation) (decided : Decided)
    (answer : Except PyError EvidenceReceipt) (charges : Charges ℓ β) :
    settledCharges runtime call decided answer charges = if writeFailed answer then
      (Charges.onLimits (releaseBudgetBestEffort runtime decided.limited call.decisionId)).after
        charges
    else charges := by
  cases answer with
  | ok receipt => rfl
  | error error =>
    change (compensate runtime call decided error).after charges =
      if isEvidenceFailure error = true then _ else _
    unfold compensate
    by_cases failure : isEvidenceFailure error = true
    · rw [if_pos failure, if_pos failure]
    · rw [if_neg failure, if_neg failure]
      rfl

variable [Runtime]

def draft (call : Evaluation) (decided : Decided) (before : World ρ ε ℓ β) :
    Except PyError IntentRecord := do
  let decision ← (materializeApprovalMetadata runtime call decided).outcome before
  intentRecord runtime.config call decided decision

/-- What a call hands to the evidence store, and the charges it leaves. -/
def footprint (call : Evaluation) (before : World ρ ε ℓ β) : List IntentRecord × Charges ℓ β :=
  match authorise runtime.queries before.environment runtime.config call with
  | .error _ => ([], before.charges)
  | .ok authorised =>
    match charge runtime call authorised before.charges with
    | .error _ charges => ([], charges)
    | .ok decided charges =>
      match draft runtime call decided { before with charges } with
      | .error _ => ([], charges)
      | .ok record => ([record], settledCharges runtime call decided
          ((runtime.evidenceStore.appendIntent record).outcome before.evidence) charges)

variable {runtime} {call : Evaluation} {before after : World ρ ε ℓ β} {decided : Decided}
  {decision : AuthorizationDecision} {record : IntentRecord}

/-- A call whose decision cannot be written down leaves its charges. -/
theorem footprint_of_unrecorded {error : PyError}
    (decides : Decides runtime call before decided decision after)
    (unrecorded : intentRecord runtime.config call decided decision = .error error) :
    footprint runtime call before = ([], after.charges) := by
  obtain ⟨authorised, authorising, charging⟩ := decides.charged
  have undrafted : draft runtime call decided { before with charges := after.charges } =
      .error error := by
    unfold draft
    rw [outcome_of_ok decides.materialized]
    exact unrecorded
  simp only [footprint, authorising, charging, undrafted]

/-- A recorded call leaves its record and what the answer of the evidence store makes of its
charges. -/
theorem footprint_of_records (records : Records runtime call before decided record after) :
    footprint runtime call before = ([record], settledCharges runtime call decided
      ((runtime.evidenceStore.appendIntent record).outcome before.evidence) after.charges) := by
  obtain ⟨authorised, authorising, charging⟩ := records.charged
  have drafted : draft runtime call decided { before with charges := after.charges } =
      .ok record := by
    unfold draft
    rw [outcome_of_ok records.materialized]
    exact records.recorded
  simp only [footprint, authorising, charging, drafted]

omit [Runtime] in
theorem Executes.charges_eq {receipt : EvidenceReceipt} {result : Except PyError ExecutionOutcome}
    (executes : Executes runtime call decision receipt before result after) :
    after.charges = before.charges := by
  cases executes <;> rfl

omit [Runtime] in
theorem Executes.filterMap_history {decision : AuthorizationDecision} {receipt : EvidenceReceipt}
    {result : Except PyError ExecutionOutcome}
    (executes : Executes runtime call decision receipt before result after) :
    after.history.filterMap intentOf = before.history.filterMap intentOf := by
  cases executes with
  | withheld => rfl
  | performed | failed | raised =>
    unfold afterDispatch
    rw [List.filterMap_append]
    exact List.append_nil _

theorem Records.filterMap_history (records : Records runtime call before decided record after)
    (evidence : ε) :
    (afterAppend record after evidence).history.filterMap intentOf =
      before.history.filterMap intentOf ++ [record] := by
  unfold afterAppend
  rw [records.history_append, List.filterMap_append, List.filterMap_append,
    filterMap_workflowEvents]
  rfl

theorem Exits.footprint_eq {result : Except PyError DecisionOutcome}
    (exits : Exits runtime call before result after) :
    after.history.filterMap intentOf =
        before.history.filterMap intentOf ++ (footprint runtime call before).1 ∧
      after.charges = (footprint runtime call before).2 := by
  cases exits with
  | unauthorised authorising => simp only [footprint, authorising, List.append_nil, and_self]
  | uncharged authorising charging =>
    simp only [footprint, authorising, charging, List.append_nil, and_self]
  | unrecorded decides unrecorded =>
    rw [footprint_of_unrecorded decides unrecorded, decides.history, List.filterMap_append,
      filterMap_workflowEvents]
    exact ⟨rfl, rfl⟩
  | unwritten records refused compensating =>
    rw [footprint_of_records records, outcome_of_error refused]
    exact ⟨records.filterMap_history before.evidence, (after_of_ok compensating).symm⟩
  | uncompensated records refused compensating =>
    rw [footprint_of_records records, outcome_of_error refused]
    exact ⟨records.filterMap_history before.evidence, (after_of_error compensating).symm⟩
  | undispatched records written executing =>
    have executes := executes_of_error executing
    rw [footprint_of_records records, outcome_of_ok written]
    exact ⟨executes.filterMap_history.trans (records.filterMap_history _), executes.charges_eq⟩
  | unreported records written executing | returned records written executing =>
    have executes := executes_of_ok executing
    rw [footprint_of_records records, outcome_of_ok written]
    exact ⟨executes.filterMap_history.trans (records.filterMap_history _), executes.charges_eq⟩

omit [Runtime] in
/-- The decision becomes the one of the workflow, if the engine answers with one. -/
theorem outcome_createWorkflow (decided : Decided)
    (requires : decided.decision.effect = .requireApproval) (pending : AuthorizationDecision)
    (before : World ρ ε ℓ β) :
    (createWorkflow runtime call decided requires pending).outcome before =
      .ok (match runtime.createWorkflow with
        | none => pending
        | some create =>
          match (create (workflowRequest call decided)).outcome before.environment with
          | .ok workflowId => decided.decision.withApproval requires workflowId .pending
          | .error _ => pending) := by
  apply outcome_of_ends
  unfold createWorkflow
  cases runtime.createWorkflow with
  | none => rfl
  | some create =>
    simp only [ends_bind, World.record, ends_modify, ends_attempt, World.onEnvironment, ends_zoom]
    cases run : create (workflowRequest call decided) before.environment with
    | ok workflowId environment =>
      rw [ends_of_ok run, outcome_of_ok run]
      rfl
    | error error environment =>
      rw [ends_of_error run, outcome_of_error run]
      rfl

omit [Runtime] in
theorem outcome_materialize_congr {other : World ρ ε ℓ β} (decided : Decided)
    (environment : other.environment = before.environment) :
    (materializeApprovalMetadata runtime call decided).outcome other =
      (materializeApprovalMetadata runtime call decided).outcome before := by
  unfold materializeApprovalMetadata
  by_cases requires : decided.decision.effect = .requireApproval
  · rw [dif_pos requires]
    change EStateM.outcome (if call.suppressDispatch = true then _ else _) other =
      EStateM.outcome (if call.suppressDispatch = true then _ else _) before
    rw [environment]
    by_cases suppressed : call.suppressDispatch = true
    · rw [if_pos suppressed]
      rfl
    · rw [if_neg suppressed, outcome_createWorkflow, outcome_createWorkflow, environment]
  · rw [dif_neg requires]
    rfl

theorem footprint_congr {other : World ρ ε ℓ β}
    (environment : other.environment = before.environment)
    (charges : other.charges = before.charges) (failures : ∀ record,
      writeFailed ((runtime.evidenceStore.appendIntent record).outcome other.evidence) =
        writeFailed ((runtime.evidenceStore.appendIntent record).outcome before.evidence)) :
    footprint runtime call other = footprint runtime call before := by
  have drafted : ∀ decided left, draft runtime call decided { other with charges := left } =
      draft runtime call decided { before with charges := left } := by
    intro decided left
    have bound := @outcome_materialize_congr _ _ _ _ runtime call
      { before with charges := left } { other with charges := left } decided environment
    unfold draft
    rw [bound]
  have settled : ∀ decided record left,
      settledCharges runtime call decided
          ((runtime.evidenceStore.appendIntent record).outcome other.evidence) left =
        settledCharges runtime call decided
          ((runtime.evidenceStore.appendIntent record).outcome before.evidence) left := by
    intro decided record left
    rw [settledCharges_eq, settledCharges_eq, failures]
  simp only [footprint, charges, drafted, settled]
  rw [environment]

end Footprint

section Runs

variable [Runtime] {ρ ε ℓ β : Type} {runtime : GovernanceRuntime ρ ε ℓ β}

theorem perform_footprint {entry : Entry} {call : Evaluation} {before : World ρ ε ℓ β}
    (prepared : entry.prepare runtime.queries before.environment = .ok call) :
    intents runtime entry before = (footprint runtime call before).1 ∧
      ((perform runtime entry).after before).charges = (footprint runtime call before).2 := by
  have exits : ∃ result, Exits runtime call before result
      ((perform runtime entry).after before) := by
    refine after_of_ends
      (fun after : World ρ ε ℓ β => ∃ result, Exits runtime call before result after) ?_
    unfold EStateM.Ends
    rw [perform_of_prepare prepared]
    exact (evaluate_exits call before).mono (fun _ _ exits => ⟨_, exits⟩)
      fun _ _ exits => ⟨_, exits⟩
  obtain ⟨result, exits⟩ := exits
  obtain ⟨handed, charges⟩ := exits.footprint_eq
  obtain ⟨events, history, -⟩ := perform_events runtime entry before
  refine ⟨?_, charges⟩
  rw [history, List.filterMap_append] at handed
  rw [intents, newEvents_eq history]
  exact List.append_cancel_left handed

variable (runtime) in
/-- A call: the records it hands to the evidence store, and the world it leaves. -/
def Operation.hands (operation : Operation ρ) (world : World ρ ε ℓ β) :
    List IntentRecord × World ρ ε ℓ β :=
  (intents runtime operation.entry { world with environment := operation.environment },
    (perform runtime operation.entry).after { world with environment := operation.environment })

/-- Worlds with the same charges before an evidence store which is steady on their evidence. -/
structure Alike (sound : ε → Prop) (world other : World ρ ε ℓ β) : Prop where
  charges : other.charges = world.charges
  sound_left : sound world.evidence
  sound_right : sound other.evidence

variable {sound : ε → Prop} {world other : World ρ ε ℓ β}

/-- A call takes the same decision in worlds which are alike, and leaves them alike. -/
theorem Alike.hands (steady : runtime.evidenceStore.Steady sound) (alike : Alike sound world other)
    (operation : Operation ρ) :
    (operation.hands runtime other).1 = (operation.hands runtime world).1 ∧
      Alike sound (operation.hands runtime world).2 (operation.hands runtime other).2 := by
  let facing (world : World ρ ε ℓ β) : World ρ ε ℓ β :=
    { world with environment := operation.environment }
  have kept : ∀ world : World ρ ε ℓ β, sound world.evidence →
      sound ((perform runtime operation.entry).after (facing world)).evidence :=
    fun world consistent => perform_evidence_invariant operation.entry (facing world) sound
      (fun record evidence _ => steady.sound_appendIntent record evidence)
      steady.sound_appendOutcome consistent
  cases prepared : operation.entry.prepare runtime.queries operation.environment with
  | error error =>
    have unmoved : ∀ world : World ρ ε ℓ β,
        (perform runtime operation.entry).after (facing world) = facing world :=
      fun world => after_of_error (perform_of_prepare_error prepared)
    refine ⟨?_, ?_, kept world alike.sound_left, kept other alike.sound_right⟩
    · exact (intents_of_prepare_error prepared).trans (intents_of_prepare_error prepared).symm
    · unfold Operation.hands
      rw [unmoved world, unmoved other]
      exact alike.charges
  | ok call =>
    have same : footprint runtime call (facing other) = footprint runtime call (facing world) :=
      footprint_congr rfl alike.charges fun record =>
        steady.writeFailed_eq record _ _ alike.sound_right alike.sound_left
    have left := @perform_footprint _ _ _ _ _ runtime operation.entry call (facing world) prepared
    have right := @perform_footprint _ _ _ _ _ runtime operation.entry call (facing other) prepared
    rw [same] at right
    exact ⟨right.1.trans left.1.symm, right.2.trans left.2.symm, kept world alike.sound_left,
      kept other alike.sound_right⟩

/-- Calls take the same decisions from worlds which are alike. -/
theorem Alike.serve_hands (steady : runtime.evidenceStore.Steady sound)
    (alike : Alike sound world other) (operations : List (Operation ρ)) :
    (serve (Operation.hands runtime) operations other).1 =
      (serve (Operation.hands runtime) operations world).1 := by
  induction operations generalizing world other with
  | nil => rfl
  | cons operation operations ih =>
    obtain ⟨handed, later⟩ := alike.hands steady operation
    rw [serve_cons, serve_cons, handed, ih later]

end Runs

end DecisionService

end GlassBox
