import GlassBox.App.Footprint

/-!
# Replay

A replay runs the whole evaluation with the dispatcher and the workflow engine left alone.  The
limit and the baseline stage are not: a replay which reaches them is charged like a live decision.
-/

namespace GlassBox

namespace DecisionService

section Calls

variable [Runtime] {ρ ε ℓ β : Type} {runtime : GovernanceRuntime ρ ε ℓ β} {call : Evaluation}
  {before after : World ρ ε ℓ β}

/-- The stages before the limit stage deny the call, or one of them raises. -/
def Entry.Withheld (runtime : GovernanceRuntime ρ ε ℓ β) (environment : ρ) (entry : Entry) : Prop :=
  ∀ call authorised, entry.prepare runtime.queries environment = .ok call →
    authorise runtime.queries environment runtime.config call = .ok authorised →
      authorised.decision.effect = .deny

/-- A suppressed call leaves what the ports read. -/
theorem Exits.environment_of_suppressed {result : Except PyError DecisionOutcome}
    (exits : Exits runtime call before result after) (suppressed : call.suppressDispatch = true) :
    after.environment = before.environment := by
  have held : ∀ decision, ¬ Dispatches call decision := by
    intro decision dispatches
    rw [dispatches.2.2] at suppressed
    cases suppressed
  cases exits with
  | unauthorised | uncharged => rfl
  | unrecorded decides => exact decides.environment suppressed
  | unwritten records | uncompensated records => exact records.environment suppressed
  | undispatched records _ executing =>
    rw [(executes_of_error executing).after_of_not_dispatches (held _)]
    exact records.environment suppressed
  | unreported records _ executing | returned records _ executing =>
    rw [(executes_of_ok executing).after_of_not_dispatches (held _)]
    exact records.environment suppressed

/-- A suppressed call calls no port with effects but the evidence store. -/
theorem CallEvents.intentAppended_of_suppressed {events : List (Event ε)}
    (shape : CallEvents runtime call before events) (suppressed : call.suppressDispatch = true)
    {event : Event ε} (member : event ∈ events) : ∃ record, event = .intentAppended record := by
  have unasked : ∀ decided, workflowEvents runtime call decided = [] := by
    simp [workflowEvents, suppressed]
  cases shape with
  | undecided => cases member
  | decided =>
    rw [unasked] at member
    cases member
  | recorded =>
    rw [unasked] at member
    exact ⟨_, List.mem_singleton.mp member⟩
  | dispatched _ _ dispatches =>
    rw [dispatches.2.2] at suppressed
    cases suppressed

/-- What is denied before the limit stage holds no verdict to be released. -/
theorem charge_run_of_denied {authorised : Authorised}
    (denied : authorised.decision.effect = .deny) (charges : Charges ℓ β) :
    ∃ decided, charge runtime call authorised charges = .ok decided charges ∧
      decided.limited.verdict = none := by
  let limited : Limited := {
    decision := authorised.decision
    outcome := .skipped .limits ⟨"action already denied", by decide⟩ }
  have skipped : limitStage runtime call authorised charges.limits =
      .ok limited charges.limits := by
    unfold limitStage
    rw [if_pos denied]
    rfl
  refine ⟨decidedBy authorised limited
    (.skipped .baseline ⟨"action already denied", by decide⟩), ?_, rfl⟩
  unfold charge Charges.onLimits
  rw [EStateM.bind_of_ok (EStateM.zoom_of_ok skipped)]
  exact if_pos denied ▸ rfl

omit [Runtime] in
theorem settledCharges_of_unlimited {decided : Decided}
    (unlimited : decided.limited.verdict = none) (answer : Except PyError EvidenceReceipt)
    (charges : Charges ℓ β) : settledCharges runtime call decided answer charges = charges := by
  have kept : releaseBudget runtime decided.limited call.decisionId = pure () := by
    unfold releaseBudget
    rw [unlimited]
    split
    next _ _ _ known => cases known
    next => rfl
  rw [settledCharges_eq, releaseBudgetBestEffort, kept]
  split <;> rfl

/-- A call which is denied before the limit stage charges nothing. -/
theorem footprint_of_withheld (withheld : ∀ authorised,
      authorise runtime.queries before.environment runtime.config call = .ok authorised →
        authorised.decision.effect = .deny) :
    (footprint runtime call before).2 = before.charges := by
  unfold footprint
  cases authorising : authorise runtime.queries before.environment runtime.config call with
  | error error => rfl
  | ok authorised =>
    obtain ⟨decided, charging, unlimited⟩ := @charge_run_of_denied _ _ _ _ _ runtime call
      authorised (withheld authorised authorising) before.charges
    dsimp only
    rw [charging]
    dsimp only
    split
    next => rfl
    next record _ =>
      exact settledCharges_of_unlimited unlimited _ before.charges

/-- A replay calls neither the dispatcher nor the workflow engine and leaves what the ports read.
If a stage before the limit stage denies it, it leaves the charges as well, and later calls hand
the same records to a steady evidence store as if there had been no replay. -/
theorem replay_read_only_of_withheld (principal : VerifiedPrincipal) (action : ProposedAction)
    (options : CallOptions) (now : Option ℚ) (before : World ρ ε ℓ β) :
    let replay : Entry := .replay principal action options now
    let replayed := (perform runtime replay).after before
    (∀ event ∈ newEvents runtime replay before, ∃ record, event = .intentAppended record) ∧
      replayed.environment = before.environment ∧
      (replay.Withheld runtime before.environment →
        replayed.charges = before.charges ∧
          ∀ sound, runtime.evidenceStore.Steady sound → sound before.evidence →
            ∀ later, (serve (Operation.hands runtime) later replayed).1 =
              (serve (Operation.hands runtime) later before).1) := by
  intro replay replayed
  obtain ⟨call, prepared, suppressed⟩ : ∃ call,
      replay.prepare runtime.queries before.environment = .ok call ∧
        call.suppressDispatch = true := ⟨_, rfl, rfl⟩
  refine ⟨?_, ?_, fun withheld => ?_⟩
  · intro event member
    obtain ⟨events, history, rfl | ⟨call', prepared', shape⟩⟩ :=
      perform_events runtime replay before
    · rw [newEvents_eq history] at member
      cases member
    · cases prepared.symm.trans prepared'
      rw [newEvents_eq history] at member
      exact shape.intentAppended_of_suppressed suppressed member
  · rcases perform_exits runtime replay before with same | ⟨call', result, prepared', exits⟩
    · exact congrArg World.environment same
    · cases prepared.symm.trans prepared'
      exact exits.environment_of_suppressed suppressed
  · have charges : replayed.charges = before.charges :=
      (perform_footprint prepared).2.trans
        (footprint_of_withheld fun authorised => withheld call authorised prepared)
    refine ⟨charges, fun sound steady consistent later => ?_⟩
    have kept : sound replayed.evidence := perform_evidence_invariant replay before sound
      (fun record evidence _ => steady.sound_appendIntent record evidence)
      steady.sound_appendOutcome consistent
    have alike : Alike sound before replayed := ⟨charges, consistent, kept⟩
    exact alike.serve_hands steady later

end Calls

/-- The sample service, whose evidence is kept in memory. -/
def meteredService [Runtime] : MemoryRuntime SampleEnvironment :=
  sampleService MacSigner.counter

/-- A world in which each counter admits one call a window. -/
def meteredWorld (policy : AuthorizationDecision) : MemoryWorld SampleEnvironment :=
  { sampleWorld 0 with environment := { policy }, charges := ⟨{ defaultLimit := 1 }, {}⟩ }

def sampleReplay : Entry := .replay samplePrincipal sampleRead {} none

/-- What is decided of a live call. -/
def liveEffects [Runtime] (world : MemoryWorld SampleEnvironment) : List (List DecisionEffect) :=
  (serve (Operation.hands meteredService) [underPolicy sampleAllow] world).1.map fun answer =>
    answer.2.map fun record => record.decision.effect

attribute [local instance] plainRuntime

/-- A replay the policy denies leaves the one admission of the window to the live call. -/
theorem replay_read_only_of_withheld_denied :
    let start := meteredWorld sampleDeny
    let replayed := (perform meteredService sampleReplay).after start
    liveEffects replayed = [[.allow]] ∧ replayed.charges = start.charges ∧
      liveEffects replayed = liveEffects start := by
  let start := meteredWorld sampleDeny
  have denies : ((sampleReplay.prepare meteredService.queries start.environment >>=
      authorise meteredService.queries start.environment meteredService.config).toOption.map
        fun authorised => authorised.decision.effect) = some .deny := by
    decide +kernel
  have withheld : sampleReplay.Withheld meteredService start.environment := by
    intro call authorised prepared authorising
    rw [Except.bind_eq_ok_iff.mpr ⟨call, prepared, authorising⟩] at denies
    exact Option.some.inj denies
  obtain ⟨-, -, unchanged⟩ := @replay_read_only_of_withheld _ _ _ _ _ meteredService
    samplePrincipal sampleRead {} none start
  obtain ⟨charges, later⟩ := unchanged withheld
  have steady : meteredService.evidenceStore.Steady fun _ => True :=
    InMemoryEvidenceStore.steady_port MacSigner.counter_honest.available
  refine ⟨by decide +kernel, charges, ?_⟩
  exact congrArg (List.map fun answer : Operation SampleEnvironment × List IntentRecord =>
    answer.2.map fun record => record.decision.effect)
    (later _ steady trivial [underPolicy sampleAllow])

/-- A replay takes the one admission of the window, so that the live call after it is denied. -/
theorem replay_spends_the_budget :
    let start := meteredWorld sampleAllow
    let replayed := (perform meteredService sampleReplay).after start
    replayed.charges ≠ start.charges ∧ liveEffects start = [[.allow]] ∧
      liveEffects replayed = [[.deny]] := by
  refine ⟨?_, by decide +kernel, by decide +kernel⟩
  intro same
  have windows := congrArg (fun charges => charges.limits.windows.entries.length) same
  revert windows
  decide +kernel

end DecisionService

end GlassBox
