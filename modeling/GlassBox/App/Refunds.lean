import GlassBox.App.MemoryCharges
import GlassBox.App.Replay

/-!
# The charges of calls which do not take effect

The budget of a call is returned when the baseline stage denies and when the evidence write fails,
but not when a later step raises anything else, and an observation is never taken back.
-/

namespace GlassBox

open EStateM

namespace DecisionService

section Calls

variable [Runtime] {ρ ε ℓ β : Type}

/-- When a call takes place. -/
def Entry.time (queries : Queries ρ) (environment : ρ) : Entry → ℚ
  | .replay _ _ _ now => now.getD (queries.now environment)
  | _ => queries.now environment

theorem now_of_prepare {queries : Queries ρ} {environment : ρ} {entry : Entry} {call : Evaluation}
    (prepared : entry.prepare queries environment = .ok call) :
    call.now = entry.time queries environment := by
  cases entry with
  | decideAndDispatch =>
    obtain ⟨_, -, made⟩ := Except.bind_eq_ok_iff.mp prepared
    cases made
    rfl
  | decideAndDispatchForRequest | decideAndDispatchForToolCall =>
    obtain ⟨_, -, prepared⟩ := Except.bind_eq_ok_iff.mp prepared
    obtain ⟨_, -, made⟩ := Except.bind_eq_ok_iff.mp prepared
    cases made
    rfl
  | replay =>
    cases prepared
    rfl

variable (runtime : GovernanceRuntime ρ ε ℓ β) (call : Evaluation) (before : World ρ ε ℓ β)

/-- The call ends with a denial or an exception. -/
def Fails : Prop :=
  (evaluate runtime call).Ends before (fun outcome _ => outcome.decision.effect = .deny)
    fun _ _ => True

/-- A call which passed every stage ends with an exception; the index says whether the service
returns the budget then. -/
inductive Broken : Bool → Prop
  /-- The decision cannot be written down as a record. -/
  | unrecordable : ¬ Recordable runtime.config call → Broken false
  | unwritten {decided : Decided} {record : IntentRecord} {error : PyError}
      {middle : World ρ ε ℓ β} {evidence : ε} :
      Records runtime call before decided record middle →
      runtime.evidenceStore.appendIntent record before.evidence = .error error evidence →
      Broken (isEvidenceFailure error)
  /-- The dispatcher raises something which is not a dispatch error. -/
  | undispatched {decided : Decided} {record : IntentRecord} {receipt : EvidenceReceipt}
      {error : PyError} {middle : World ρ ε ℓ β} {evidence : ε} {environment : ρ} :
      Records runtime call before decided record middle →
      runtime.evidenceStore.appendIntent record before.evidence = .ok receipt evidence →
      Dispatches call record.decision →
      dispatchAnswer runtime call receipt middle.environment = .error error environment →
      error.isA .dispatchError = false → Broken false
  /-- The outcome write raises something which is not an evidence write error. -/
  | unreported {decided : Decided} {record : IntentRecord} {receipt : EvidenceReceipt}
      {execution : ExecutionOutcome} {error : PyError} {middle after : World ρ ε ℓ β}
      {evidence evidence' : ε} :
      Records runtime call before decided record middle →
      runtime.evidenceStore.appendIntent record before.evidence = .ok receipt evidence →
      dispatchIfPermitted runtime call record.decision receipt record.createdAt
        (afterAppend record middle evidence) = .ok execution after →
      runtime.evidenceStore.appendOutcome receipt ⟨record.decisionId, execution⟩ evidence =
        .error error evidence' →
      error.isA .evidenceWriteError = false → Broken false

variable {runtime call before} {outcome : DecisionOutcome} {after : World ρ ε ℓ β}

theorem ends_iff_fails (holds : Charges ℓ β → Prop) : (evaluate runtime call).Ends before
        (fun outcome after => outcome.decision.effect = .deny → holds after.charges)
        (fun _ after => holds after.charges) ↔
      (Fails runtime call before → holds (footprint runtime call before).2) := by
  have exits := @evaluate_exits _ _ _ _ runtime _ call before
  unfold Fails
  cases run : evaluate runtime call before with
  | ok outcome after =>
    rw [ends_of_ok run] at exits
    rw [ends_of_ok run, ends_of_ok run, exits.footprint_eq.2]
  | error error after =>
    rw [ends_of_error run] at exits
    rw [ends_of_error run, ends_of_error run, exits.footprint_eq.2, true_imp_iff]

theorem exists_records_of_ok (run : evaluate runtime call before = .ok outcome after) :
    ∃ decided record middle, Records runtime call before decided record middle ∧
      outcome.decision = record.decision := by
  have exits := (ends_of_ok run).mp (evaluate_exits call before)
  cases exits with
  | returned records => exact ⟨_, _, _, records, rfl⟩

theorem Broken.not_returns {returned : Bool} (broken : Broken runtime call before returned) :
    evaluate runtime call before ≠ .ok outcome after := by
  intro run
  cases broken with
  | unrecordable unrecordable =>
    obtain ⟨decided, record, middle, records, -⟩ := exists_records_of_ok run
    exact unrecordable (IntentOf.recordable ⟨decided, rfl, rfl, records.recorded⟩)
  | unwritten records refused =>
    obtain ⟨receipt, evidence, written⟩ := records.accepts run
    cases refused.symm.trans written
  | @undispatched _ record receipt error middle evidence environment records written dispatches
      answer other =>
      rw [evaluate_of_written records written] at run
      obtain ⟨execution, after', executing, -⟩ := exists_of_bind_eq_ok run
      cases executes_of_ok executing with
      | withheld held => exact held dispatches
      | performed _ answered => cases answer.symm.trans answered
      | failed _ answered known =>
        cases answer.symm.trans answered
        rw [other] at known
        cases known
  | unreported records written executing reporting other =>
    rw [evaluate_of_written records written, act_of_unreported executing reporting other] at run
    cases run

section Charged

variable {authorised : Authorised}
  (authorising : authorise runtime.queries before.environment runtime.config call = .ok authorised)
include authorising

variable {error : PyError}

theorem fails_of_uncharged {charges : Charges ℓ β}
    (charging : charge runtime call authorised before.charges = .error error charges) :
    Fails runtime call before ∧ (footprint runtime call before).2 = charges := by
  refine ⟨?_, by simp only [footprint, authorising, charging]⟩
  cases run : evaluate runtime call before with
  | error => exact (ends_of_error run).mpr trivial
  | ok outcome after =>
    obtain ⟨decided, record, middle, records, -⟩ := exists_records_of_ok run
    obtain ⟨authorised', authorising', charging'⟩ := records.charged
    cases authorising.symm.trans authorising'
    cases charging.symm.trans charging'

variable {decided : Decided} {charges : Charges ℓ β}
  (charging : charge runtime call authorised before.charges = .ok decided charges)
include charging

theorem Records.decided_eq {decided' : Decided} {record : IntentRecord} {middle : World ρ ε ℓ β}
    (records : Records runtime call before decided' record middle) :
    decided' = decided ∧ middle.charges = charges := by
  obtain ⟨authorised', authorising', charging'⟩ := records.charged
  cases authorising.symm.trans authorising'
  cases charging.symm.trans charging'
  exact ⟨rfl, rfl⟩

theorem footprint_of_charged : (footprint runtime call before).2 = charges ∨
    ∃ error, (footprint runtime call before).2 =
      (compensate runtime call decided error).after charges := by
  simp only [footprint, authorising, charging]
  split
  next => exact .inl rfl
  next =>
    unfold settledCharges
    split
    next => exact .inl rfl
    next error _ => exact .inr ⟨error, rfl⟩

theorem fails_of_denied (denied : decided.decision.effect = .deny) :
    Fails runtime call before := by
  cases run : evaluate runtime call before with
  | error => exact (ends_of_error run).mpr trivial
  | ok outcome after =>
    obtain ⟨decided', record, middle, records, same⟩ := exists_records_of_ok run
    obtain ⟨rfl, -⟩ := records.decided_eq authorising charging
    refine (ends_of_ok run).mpr ?_
    rw [same, records.bound.effect_eq]
    exact denied

theorem exists_broken {after : World ρ ε ℓ β}
    (run : evaluate runtime call before = .error error after) :
    ∃ returned, Broken runtime call before returned := by
  have exits := (ends_of_error run).mp (evaluate_exits call before)
  cases exits with
  | unauthorised raised => cases authorising.symm.trans raised
  | uncharged authorising' raised =>
    cases authorising.symm.trans authorising'
    cases charging.symm.trans raised
  | @unrecorded decided' decision _ _ _ unrecorded =>
    refine ⟨false, .unrecordable fun recordable => ?_⟩
    obtain ⟨record, recorded⟩ := exists_intentRecord recordable decided' decision
    cases unrecorded.symm.trans recorded
  | unwritten records refused | uncompensated records refused =>
    exact ⟨_, .unwritten records refused⟩
  | undispatched records written executing =>
    cases executes_of_error executing with
    | raised dispatches answer other =>
      exact ⟨false, .undispatched records written dispatches answer other⟩
  | unreported records written executing reporting other =>
    exact ⟨false, .unreported records written executing reporting other⟩

/-- A charged call which is not denied fails exactly when it is broken. -/
theorem fails_iff_broken (undenied : decided.decision.effect ≠ .deny) :
    Fails runtime call before ↔ ∃ returned, Broken runtime call before returned := by
  unfold Fails
  cases run : evaluate runtime call before with
  | error error after =>
    exact iff_of_true ((ends_of_error run).mpr trivial)
      (exists_broken authorising charging run)
  | ok outcome after =>
    obtain ⟨decided', record, middle, records, same⟩ := exists_records_of_ok run
    obtain ⟨rfl, -⟩ := records.decided_eq authorising charging
    rw [ends_of_ok run, same, records.bound.effect_eq]
    refine iff_of_false undenied ?_
    rintro ⟨returned, broken⟩
    exact broken.not_returns run

theorem Broken.footprint_eq {returned : Bool} (broken : Broken runtime call before returned) :
    ∃ error, isEvidenceFailure error = returned ∧ (footprint runtime call before).2 =
      (compensate runtime call decided error).after charges := by
  -- an exception of any other class leaves the budget alone
  have kept : (compensate runtime call decided ⟨.other "", "", []⟩).after charges = charges := rfl
  cases broken with
  | unrecordable unrecordable =>
    refine ⟨_, rfl, Eq.trans ?_ kept.symm⟩
    simp only [footprint, authorising, charging]
    split
    next => rfl
    next record drafted =>
      obtain ⟨decision, -, recorded⟩ := Except.bind_eq_ok_iff.mp drafted
      exact absurd (IntentOf.recordable ⟨decided, rfl, rfl, recorded⟩) unrecordable
  | @unwritten _ _ error _ _ records refused =>
    obtain ⟨rfl, rfl⟩ := records.decided_eq authorising charging
    refine ⟨error, rfl, ?_⟩
    rw [footprint_of_records records, outcome_of_error refused]
    rfl
  | undispatched records written | unreported records written =>
    obtain ⟨rfl, rfl⟩ := records.decided_eq authorising charging
    refine ⟨_, rfl, Eq.trans ?_ kept.symm⟩
    rw [footprint_of_records records, outcome_of_ok written]
    rfl

end Charged

end Calls

section Memory

variable [Runtime] {ρ ε : Type}
  (runtime : GovernanceRuntime ρ ε InMemoryLimitStore InMemoryBaselineStore) (call : Evaluation)
  (before : World ρ ε InMemoryLimitStore InMemoryBaselineStore)

/-- Nothing has to be evicted for the call. -/
structure Roomy : Prop where
  windows : ∀ key, limitKeyFor runtime.config call.principal call.action = .ok key →
    before.charges.limits.windows.Fits before.charges.limits.maxSubjects key.canonicalKey
  distributions : before.charges.baselines.observations.Fits before.charges.baselines.maxSubjects
    (baselineKeyFor call.principal).canonicalKey

/-- The stages before the limit stage do not deny, and the call is counted under the key. -/
structure Chargeable (key : LimitKey) : Prop where
  authorised : ∃ authorised,
    authorise runtime.queries before.environment runtime.config call = .ok authorised ∧
      authorised.decision.effect ≠ .deny
  keyed : limitKeyFor runtime.config call.principal call.action = .ok key

/-- What a failed call charged to a key is taken back, or was there before. -/
structure Refunds (key : LimitKey) : Prop where
  /-- An admission which cannot be reported was there already. -/
  unreported : ∀ member, before.charges.limits.Affords key call.decisionId call.now member →
    ¬ before.charges.limits.Reports key call.now member →
    before.charges.limits.Holds key call.now member
  /-- If the baseline store raises, the admission was there already. -/
  balked : ∀ member, Reserves call key before.charges.limits (some member) →
    Balks runtime.config call before.charges.baselines →
    before.charges.limits.Holds key call.now member
  /-- If the baseline stage denies, the window held nothing the release takes out. -/
  flagged : ∀ member, Reserves call key before.charges.limits (some member) →
    Flags runtime.config call before.charges.baselines →
    ¬ before.charges.limits.HoldsFor key call.now call.decisionId
  /-- If a later step raises, nothing was learned, and the budget was returned or was there
  already. -/
  broken : ∀ budget returned, Reserves call key before.charges.limits budget →
    ¬ Balks runtime.config call before.charges.baselines →
    ¬ Flags runtime.config call before.charges.baselines → Broken runtime call before returned →
    ¬ Learns runtime.config call before.charges.baselines ∧
      ∀ member ∈ budget, if returned then
          ¬ before.charges.limits.HoldsFor key call.now call.decisionId
        else before.charges.limits.Holds key call.now member

variable {runtime call before} {key : LimitKey} {authorised : Authorised}

/-- A call which the limit stage does not count charges nothing. -/
theorem footprint_of_unchargeable (unchargeable : ∀ key, ¬ Chargeable runtime call before key) :
    (footprint runtime call before).2 = before.charges := by
  cases authorising : authorise runtime.queries before.environment runtime.config call with
  | error error => simp only [footprint, authorising]
  | ok authorised =>
    by_cases denied : authorised.decision.effect = .deny
    · refine footprint_of_withheld fun authorised' authorising' => ?_
      cases authorising.symm.trans authorising'
      exact denied
    · cases keyed : limitKeyFor runtime.config call.principal call.action with
      | ok key => exact absurd ⟨⟨authorised, authorising, denied⟩, keyed⟩ (unchargeable key)
      | error error =>
        have raised : limitStage runtime call authorised before.charges.limits =
            .error error before.charges.limits := by
          unfold limitStage
          rw [if_neg denied, keyed]
          rfl
        have charging : charge runtime call authorised before.charges =
            .error error before.charges := bind_of_error (zoom_of_error raised)
        exact (fails_of_uncharged authorising charging).2

theorem Barred.refunds (barred : Barred call key before.charges.limits) :
    Refunds runtime call before key where
  unreported := fun member affords => absurd affords (barred.unaffordable member)
  balked := fun _ reserves => absurd reserves (barred.unreserved _)
  flagged := fun _ reserves => absurd reserves (barred.unreserved _)
  broken := fun _ _ reserves => absurd reserves (barred.unreserved _)

theorem refunds_iff_of_unreported {member : String}
    (affords : before.charges.limits.Affords key call.decisionId call.now member)
    (unreported : ¬ before.charges.limits.Reports key call.now member) :
    Refunds runtime call before key ↔ before.charges.limits.Holds key call.now member := by
  have unreserved : ∀ budget, ¬ Reserves call key before.charges.limits budget :=
    fun budget reserves => unreported (reserves.reports_of_affords affords)
  constructor
  · intro refunds
    exact refunds.unreported member affords unreported
  · intro holds
    refine ⟨fun other affords' _ => ?_, fun other reserves => absurd reserves (unreserved _),
      fun other reserves => absurd reserves (unreserved _),
      fun budget _ reserves => absurd reserves (unreserved _)⟩
    cases affords.named.symm.trans affords'.named
    exact holds

section Reserved

variable {budget : Option String} (reserves : Reserves call key before.charges.limits budget)
include reserves

theorem refunds_iff_of_balked (balks : Balks runtime.config call before.charges.baselines) :
    Refunds runtime call before key ↔
      ∀ member ∈ budget, before.charges.limits.Holds key call.now member := by
  constructor
  · rintro refunds member rfl
    exact refunds.balked member reserves balks
  · intro holds
    refine ⟨fun member affords unreported => ?_, fun member reserves' _ => ?_,
      fun member _ flags => absurd balks (not_balks_of_flags flags),
      fun _ _ _ steady => absurd balks steady⟩
    · exact absurd (reserves.reports_of_affords affords) unreported
    · exact holds member (reserves.unique reserves')

theorem refunds_iff_of_flagged (flags : Flags runtime.config call before.charges.baselines) :
    Refunds runtime call before key ↔
      ∀ member ∈ budget, ¬ before.charges.limits.HoldsFor key call.now call.decisionId := by
  constructor
  · rintro refunds member rfl
    exact refunds.flagged member reserves flags
  · intro free
    refine ⟨fun member affords unreported => ?_,
      fun member _ balks => absurd balks (not_balks_of_flags flags), fun member reserves' _ => ?_,
      fun _ _ _ _ unflagged => absurd flags unflagged⟩
    · exact absurd (reserves.reports_of_affords affords) unreported
    · exact free member (reserves.unique reserves')

theorem refunds_iff_of_passed (steady : ¬ Balks runtime.config call before.charges.baselines)
    (unflagged : ¬ Flags runtime.config call before.charges.baselines) :
    Refunds runtime call before key ↔ ∀ returned, Broken runtime call before returned →
      ¬ Learns runtime.config call before.charges.baselines ∧
        ∀ member ∈ budget, if returned then
            ¬ before.charges.limits.HoldsFor key call.now call.decisionId
          else before.charges.limits.Holds key call.now member := by
  constructor
  · intro refunds returned broken
    exact refunds.broken budget returned reserves steady unflagged broken
  · intro returns
    refine ⟨fun member affords unreported => ?_, fun member _ balks => absurd balks steady,
      fun member _ flags => absurd flags unflagged, fun budget' returned reserves' _ _ broken => ?_⟩
    · exact absurd (reserves.reports_of_affords affords) unreported
    · rw [← reserves.unique reserves']
      exact returns returned broken

theorem mem_compensated_iff (returns : Bool) : (∀ entry, entry ∈ (if returns then
        returned call.decisionId budget.isSome (held call key before.charges.limits budget)
        else held call key before.charges.limits budget) ↔
          entry ∈ before.charges.limits.inWindow key call.now) ↔
      ∀ member ∈ budget, if returns then
          ¬ before.charges.limits.HoldsFor key call.now call.decisionId
        else before.charges.limits.Holds key call.now member := by
  cases returns with
  | true => simpa using reserves.mem_returned_iff
  | false => simpa using mem_held_iff

end Reserved

/-- A budget which is not held any more is not returned twice. -/
theorem Spent.footprint {decided : Decided} {charges : MemoryCharges} {holds : Bool}
    {entries : List Admission} {learned : Prop} (memory : OverMemory runtime)
    (authorising : authorise runtime.queries before.environment runtime.config call =
      .ok authorised)
    (charging : charge runtime call authorised before.charges = .ok decided charges)
    (budget : Budget key decided.limited holds)
    (available : holds = true → before.charges.limits.available = true)
    (stable : returned call.decisionId holds entries = entries)
    (spent : Spent key call.now entries learned before.charges charges) :
    Spent key call.now entries learned before.charges
      (DecisionService.footprint runtime call before).2 := by
  rcases footprint_of_charged authorising charging with same | ⟨error, same⟩
  · rwa [same]
  · have compensated := spent.compensate memory budget available error
    rwa [stable, ite_self, ← same] at compensated

/-- A failed call leaves the charges as they were exactly when what it charged is taken back or was
there before. -/
theorem refunds_iff (memory : OverMemory runtime) (roomy : Roomy runtime call before)
    (authorising : authorise runtime.queries before.environment runtime.config call =
      .ok authorised) (undenied : authorised.decision.effect ≠ .deny)
    (keyed : limitKeyFor runtime.config call.principal call.action = .ok key) :
    (Fails runtime call before →
      Uncharged call.now before.charges (footprint runtime call before).2) ↔
      Refunds runtime call before key := by
  have charged := @charged_charge _ _ _ runtime call key authorised before.charges memory undenied
    keyed (roomy.windows key keyed) roomy.distributions
  cases charging : charge runtime call authorised before.charges with
  | error error charges =>
    obtain ⟨fails, left⟩ := fails_of_uncharged authorising charging
    rw [charging] at charged
    rw [left, imp_iff_right fails]
    cases charged with
    | unlimited barred spent =>
      exact iff_of_true (spent.uncharged_iff.mpr ⟨fun _ => Iff.rfl, not_false⟩) barred.refunds
    | unreported affords unreported spent =>
      rw [spent.uncharged_iff, refunds_iff_of_unreported affords unreported,
        InMemoryLimitStore.mem_grown_iff]
      exact and_iff_left not_false
    | balked reserves balks spent =>
      rw [spent.uncharged_iff, refunds_iff_of_balked reserves balks, mem_held_iff]
      exact and_iff_left not_false
  | ok decided charges =>
    rw [charging] at charged
    cases charged with
    | denied barred denied budget spent =>
      have fails := fails_of_denied authorising charging denied
      rw [imp_iff_right fails]
      have left := spent.footprint memory authorising charging budget nofun rfl
      exact iff_of_true (left.uncharged_iff.mpr ⟨fun _ => Iff.rfl, not_false⟩) barred.refunds
    | flagged reserves steady flags denied budget spent =>
      have fails := fails_of_denied authorising charging denied
      have left := spent.footprint memory authorising charging budget reserves.available
        (returned_returned ..)
      rw [imp_iff_right fails, refunds_iff_of_flagged reserves flags, left.uncharged_iff,
        reserves.mem_returned_iff]
      exact and_iff_left not_false
    | passed reserves steady unflagged unchanged budget spent =>
      rw [fails_iff_broken authorising charging (by rwa [unchanged]),
        refunds_iff_of_passed reserves steady unflagged, exists_imp]
      refine forall_congr' fun returned => imp_congr_right fun broken => ?_
      obtain ⟨error, same, footprint_eq⟩ := broken.footprint_eq authorising charging
      have left := spent.compensate memory budget reserves.available error
      rw [same] at left
      rw [footprint_eq, left.uncharged_iff, mem_compensated_iff reserves, and_comm]

/-- A call which ends with a denial or an exception leaves every window and every distribution as
it was, exactly when what it charged is taken back or was there before. -/
theorem unsuccessful_uncharged_iff {entry : Entry} (memory : OverMemory runtime)
    (roomy : ∀ call, entry.prepare runtime.queries before.environment = .ok call →
      Roomy runtime call before) :
    (perform runtime entry).Ends before
        (fun outcome after => outcome.decision.effect = .deny →
          Uncharged (entry.time runtime.queries before.environment) before.charges after.charges)
        (fun _ after =>
          Uncharged (entry.time runtime.queries before.environment) before.charges after.charges) ↔
      ∀ call key, entry.prepare runtime.queries before.environment = .ok call →
        Chargeable runtime call before key → Refunds runtime call before key := by
  cases prepared : entry.prepare runtime.queries before.environment with
  | error error =>
    rw [ends_of_error (perform_of_prepare_error prepared)]
    refine iff_of_true (.refl ..) ?_
    intro call key made
    cases made
  | ok call =>
    have ends_iff := @ends_iff_fails _ _ _ _ _ runtime call before
      (Uncharged call.now before.charges)
    unfold EStateM.Ends at ends_iff ⊢
    rw [perform_of_prepare prepared, ← now_of_prepare prepared, ends_iff]
    by_cases chargeable : ∃ key, Chargeable runtime call before key
    · obtain ⟨key, ⟨authorised, authorising, undenied⟩, keyed⟩ := chargeable
      rw [refunds_iff memory (roomy call prepared) authorising undenied keyed]
      constructor
      · intro refunds call' key' made chargeable'
        cases made
        cases keyed.symm.trans chargeable'.keyed
        exact refunds
      · intro refunds
        exact refunds call key rfl ⟨⟨authorised, authorising, undenied⟩, keyed⟩
    · have unchargeable := not_exists.mp chargeable
      rw [footprint_of_unchargeable unchargeable]
      refine iff_of_true (fun _ => .refl ..) ?_
      intro call' key made chargeable'
      cases made
      exact absurd chargeable' (unchargeable key)

end Memory

theorem roomy_meteredWorld [Runtime] {runtime : MemoryRuntime SampleEnvironment} (call : Evaluation)
    (policy : AuthorizationDecision) : Roomy runtime call (meteredWorld policy) where
  windows := fun _ _ => .inr (show 0 < 10000 by decide)
  distributions := .inr (show 0 < 10000 by decide)

/-- The metered service before a store which takes no record. -/
def refusingService [Runtime] : MemoryRuntime SampleEnvironment :=
  { meteredService with evidenceStore := refusingEvidence _ }

attribute [local instance] plainRuntime

/-- An admission whose record is refused is returned. -/
theorem unsuccessful_uncharged_refused :
    let start := meteredWorld sampleAllow
    let call := sampleCall sampleRead "decision-1"
    (match perform refusingService call start with
      | .ok _ _ => false
      | .error error _ => isEvidenceFailure error) = true ∧
    (perform refusingService call).Ends start
      (fun outcome after => outcome.decision.effect = .deny →
        Uncharged 0 start.charges after.charges)
      (fun _ after => Uncharged 0 start.charges after.charges) := by
  let start := meteredWorld sampleAllow
  let entry := sampleCall sampleRead "decision-1"
  refine ⟨by decide +kernel, (unsuccessful_uncharged_iff ⟨rfl, rfl⟩
    fun call _ => roomy_meteredWorld call sampleAllow).mpr ?_⟩
  intro call key prepared _
  have returns : (match perform meteredService entry start with
      | .ok _ _ => true
      | .error _ _ => false) = true := by
    decide +kernel
  have recordable : Recordable refusingService.config call := by
    cases run : perform meteredService entry start with
    | error error after =>
      rw [run] at returns
      cases returns
    | ok outcome after =>
      have evaluated : perform meteredService entry start = evaluate meteredService call start :=
        perform_of_prepare prepared
      rw [evaluated] at run
      obtain ⟨decided, record, middle, records, -⟩ := exists_records_of_ok run
      exact IntentOf.recordable ⟨decided, rfl, rfl, records.recorded⟩
  have unexposed : call.action.exposure.monetary = none := by
    obtain ⟨_, -, made⟩ := Except.bind_eq_ok_iff.mp prepared
    cases made
    rfl
  refine ⟨fun member _ unreported => ?_, fun _ _ balks => ?_, fun _ _ flags => ?_,
    fun budget returned _ _ _ broken => ⟨fun learns => ?_, fun member _ => ?_⟩⟩
  · have grows : start.charges.limits.grown key call.now member = [⟨call.now, member, 1⟩] := rfl
    have bound : start.charges.limits.ceiling key.canonicalKey = 1 := rfl
    refine absurd ?_ unreported
    rw [InMemoryLimitStore.Reports, grows, bound]
    simp [SlidingWindow.total]
  · simp [Balks, unexposed] at balks
  · simp [Flags, unexposed] at flags
  · simp [Learns, unexposed] at learns
  · cases broken with
    | unrecordable unrecordable => exact absurd recordable unrecordable
    | unwritten records refused =>
      cases refused
      rintro ⟨entry, member, -⟩
      cases member
    | undispatched records written | unreported records written => cases written

def blankCause : Entry :=
  .decideAndDispatch sampleCredential sampleRead
    { decisionId := some "decision-1", causationId := some "" }

def readKey : LimitKey := { sampleLimitKey with action := some sampleRead.action }

/-- The record of a call with a blank causation id cannot be made, and its admission stays. -/
theorem blank_cause_stays_charged :
    let start := meteredWorld sampleAllow
    OverMemory meteredService ∧
      (∀ call, blankCause.prepare meteredService.queries start.environment = .ok call →
        Roomy meteredService call start) ∧
      ¬ (perform meteredService blankCause).Ends start
        (fun outcome after => outcome.decision.effect = .deny →
          Uncharged (blankCause.time meteredService.queries start.environment) start.charges
            after.charges)
        (fun _ after =>
          Uncharged (blankCause.time meteredService.queries start.environment) start.charges
            after.charges) := by
  let start := meteredWorld sampleAllow
  refine ⟨⟨rfl, rfl⟩, fun call _ => roomy_meteredWorld call sampleAllow, fun claim => ?_⟩
  have admitted : (match perform meteredService blankCause start with
      | .ok _ _ => false
      | .error _ after => (after.charges.limits.inWindow readKey 0).length == 1) = true := by
    decide +kernel
  cases run : perform meteredService blankCause start with
  | ok outcome after =>
    rw [run] at admitted
    cases admitted
  | error error after =>
    rw [run] at admitted
    obtain ⟨entry, only⟩ := List.length_eq_one_iff.mp (eq_of_beq admitted)
    have unchanged := (ends_of_error run).mp claim
    have known := (unchanged.admissions readKey entry).mp (only ▸ List.mem_singleton_self entry)
    cases known

end DecisionService

end GlassBox
