import GlassBox.Adapters.Memory.Leftovers
import GlassBox.App.FailClosed

/-!
# The charging stages over the in-memory stores

What the limit and the baseline stage do to the windows and the distributions of the in-memory
stores, and what is left of it when the budget is returned.
-/

namespace GlassBox

open EStateM

namespace DecisionService

abbrev MemoryCharges := Charges InMemoryLimitStore InMemoryBaselineStore

/-- The admissions in every window and the samples of every distribution are as before. -/
structure Uncharged (moment : ℚ) (before after : MemoryCharges) : Prop where
  admissions : ∀ key entry,
    entry ∈ after.limits.inWindow key moment ↔ entry ∈ before.limits.inWindow key moment
  samples : ∀ canonical,
    after.baselines.samples canonical = before.baselines.samples canonical

theorem Uncharged.refl (moment : ℚ) (charges : MemoryCharges) : Uncharged moment charges charges :=
  ⟨fun _ _ => Iff.rfl, fun _ => rfl⟩

/-- One window changed to this, and a distribution changed if something was learned. -/
structure Spent (key : LimitKey) (moment : ℚ) (entries : List Admission) (learned : Prop)
    (before after : MemoryCharges) : Prop where
  limits : InMemoryLimitStore.Rewindowed key moment entries before.limits after.limits
  samples : (∀ canonical, after.baselines.samples canonical = before.baselines.samples canonical) ↔
    ¬ learned

theorem Spent.uncharged_iff {key : LimitKey} {moment : ℚ} {entries : List Admission}
    {learned : Prop} {before after : MemoryCharges}
    (spent : Spent key moment entries learned before after) :
    Uncharged moment before after ↔
      (∀ entry, entry ∈ entries ↔ entry ∈ before.limits.inWindow key moment) ∧ ¬ learned := by
  rw [← spent.limits.mem_iff, ← spent.samples]
  exact ⟨fun same => ⟨same.admissions, same.samples⟩, fun same => ⟨same.1, same.2⟩⟩

/-- What a release leaves of a window. -/
def returned (decisionId : String) (holds : Bool) (entries : List Admission) : List Admission :=
  if holds then entries.filter fun entry => !InMemoryLimitStore.belongsTo decisionId entry
  else entries

theorem returned_returned (decisionId : String) (holds : Bool) (entries : List Admission) :
    returned decisionId holds (returned decisionId holds entries) =
      returned decisionId holds entries := by
  cases holds with
  | false => rfl
  | true => exact List.filter_filter.trans (by simp [returned])

section Baselines

variable [Runtime] (config : ServiceConfig) (call : Evaluation) (store : InMemoryBaselineStore)

def assessment (amount : Amount) : Except PyError BaselineVerdict :=
  (InMemoryBaselineStore.evaluate (baselineKeyFor call.principal) amount.val call.action.action
    config.anomalyThreshold call.now).outcome store

/-- The baseline store raises something which is not its unavailability. -/
def BalksAt (amount : Amount) : Prop :=
  ∃ error, assessment config call store amount = .error error ∧
    error.isA .baselineStoreUnavailable = false

/-- The amount is anomalous, or the store does not answer to an action which may not degrade. -/
def FlagsAt (amount : Amount) : Prop :=
  (∃ verdict, assessment config call store amount = .ok verdict ∧ verdict.anomalous = true) ∨
  ∃ error, assessment config call store amount = .error error ∧
    error.isA .baselineStoreUnavailable = true ∧
    call.action.consequence.mayDegradeOnDependencyFailure = false

/-- The amount is not anomalous, and one more sample of it changes the distribution. -/
def LearnsAt (amount : Amount) : Prop :=
  (∃ verdict, assessment config call store amount = .ok verdict ∧ verdict.anomalous = false) ∧
  (store.samples (baselineKeyFor call.principal).canonicalKey ++ [amount.val]).rtake
      store.maxSamples ≠
    store.samples (baselineKeyFor call.principal).canonicalKey

def Balks : Prop := ∃ amount ∈ call.action.exposure.monetary, BalksAt config call store amount

def Flags : Prop := ∃ amount ∈ call.action.exposure.monetary, FlagsAt config call store amount

def Learns : Prop := ∃ amount ∈ call.action.exposure.monetary, LearnsAt config call store amount

inductive Compared : EStateM.Result PyError InMemoryBaselineStore StageResult → Prop
  | balked {error : PyError} : Balks config call store → Compared (.error error store)
  | flagged {result : StageResult} {denial : AuthorizationDecision} :
      ¬ Balks config call store → Flags config call store → result.denial = some denial →
      denial.effect = .deny → Compared (.ok result store)
  | passed {result : StageResult} {after : InMemoryBaselineStore} :
      ¬ Balks config call store → ¬ Flags config call store → result.denial = none →
      ((∀ canonical, after.samples canonical = store.samples canonical) ↔
        ¬ Learns config call store) → Compared (.ok result after)

variable {config call store} {ρ ε ℓ : Type}
  {runtime : GovernanceRuntime ρ ε ℓ InMemoryBaselineStore}

section Amount

variable {amount : Amount} (exposed : call.action.exposure.monetary = some amount)
include exposed

theorem balks_iff : Balks config call store ↔ BalksAt config call store amount := by
  simp [Balks, exposed]

theorem flags_iff : Flags config call store ↔ FlagsAt config call store amount := by
  simp [Flags, exposed]

theorem learns_iff : Learns config call store ↔ LearnsAt config call store amount := by
  simp [Learns, exposed]

/-- A store which does not answer stops an action which may not degrade. -/
theorem compared_of_unavailable {error : PyError}
    (answer : assessment config call store amount = .error error)
    (down : error.isA .baselineStoreUnavailable = true) :
    Compared config call store (.ok (baselineUnavailable call.action) store) := by
  have steady : ¬ Balks config call store := by
    simp [balks_iff exposed, BalksAt, answer, down]
  have unlearned : ¬ Learns config call store := by
    simp [learns_iff exposed, LearnsAt, answer]
  unfold baselineUnavailable
  by_cases advisory : call.action.consequence.mayDegradeOnDependencyFailure = true
  · have unflagged : ¬ Flags config call store := by
      simp [flags_iff exposed, FlagsAt, answer, advisory]
    rw [if_pos advisory]
    exact .passed steady unflagged rfl ⟨fun _ => unlearned, fun _ _ => rfl⟩
  · have flagged : Flags config call store :=
      (flags_iff exposed).mpr (.inr ⟨error, answer, down, by simpa using advisory⟩)
    rw [if_neg advisory]
    exact .flagged steady flagged rfl rfl

theorem compared_of_observed {verdict : BaselineVerdict} {after : InMemoryBaselineStore}
    (answer : assessment config call store amount = .ok verdict)
    (ordinary : verdict.anomalous = false) (samples : ∀ canonical, after.samples canonical =
      if canonical = (baselineKeyFor call.principal).canonicalKey then
        (store.samples (baselineKeyFor call.principal).canonicalKey ++ [amount.val]).rtake
          store.maxSamples
      else store.samples canonical) :
    Compared config call store (.ok (.passed .baseline) after) := by
  have steady : ¬ Balks config call store := by
    simp [balks_iff exposed, BalksAt, answer]
  have unflagged : ¬ Flags config call store := by
    simp [flags_iff exposed, FlagsAt, answer, ordinary]
  refine .passed steady unflagged rfl ?_
  rw [learns_iff exposed]
  constructor
  · rintro same ⟨-, changed⟩
    have kept := same (baselineKeyFor call.principal).canonicalKey
    rw [samples, if_pos rfl] at kept
    exact changed kept
  · intro unlearned canonical
    rw [samples]
    split
    next own =>
      rw [own]
      exact not_not.mp fun changed => unlearned ⟨⟨verdict, answer, ordinary⟩, changed⟩
    next => rfl

end Amount

theorem not_balks_of_flags (flags : Flags config call store) : ¬ Balks config call store := by
  rintro ⟨amount, exposed, error, raised, other⟩
  rcases (flags_iff exposed).mp flags with ⟨verdict, answered, -⟩ | ⟨error', answered, down, -⟩
  · cases raised.symm.trans answered
  · cases raised.symm.trans answered
    rw [other] at down
    cases down

theorem compared_of_unexposed (unexposed : call.action.exposure.monetary = none)
    (reason : Text) : Compared config call store (.ok (.skipped .baseline reason) store) := by
  refine .passed ?_ ?_ rfl ?_
  · simp [Balks, unexposed]
  · simp [Flags, unexposed]
  · simp [Learns, unexposed]

theorem compared_checkBaseline (port : runtime.baselineStore = InMemoryBaselineStore.port)
    (fits : store.observations.Fits store.maxSubjects
      (baselineKeyFor call.principal).canonicalKey) :
    Compared runtime.config call store (checkBaseline runtime call store) := by
  unfold checkBaseline
  cases exposed : call.action.exposure.monetary with
  | none => exact compared_of_unexposed exposed _
  | some amount =>
    have tried : attempt (PyError.isA · .baselineStoreUnavailable)
        (InMemoryBaselineStore.port.evaluate (baselineKeyFor call.principal) amount.val
          call.action.action runtime.config.anomalyThreshold call.now) store =
        (attempt (PyError.isA · .baselineStoreUnavailable)
          (assessment runtime.config call store amount)).endingIn store :=
      attempt_of_endingIn (InMemoryBaselineStore.evaluate_run ..)
    rw [port]
    dsimp only
    cases answer : assessment runtime.config call store amount with
    | error error =>
      rw [answer] at tried
      by_cases down : error.isA .baselineStoreUnavailable = true
      · rw [Except.attempt_eq_none_iff.mpr ⟨error, rfl, down⟩] at tried
        rw [bind_of_ok tried]
        exact compared_of_unavailable exposed answer down
      · rw [@Except.attempt_of_uncaught _ _ error
          (PyError.isA · .baselineStoreUnavailable) down] at tried
        rw [bind_of_error tried]
        exact .balked ((balks_iff exposed).mpr ⟨error, answer, by simpa using down⟩)
    | ok verdict =>
      rw [answer] at tried
      rw [bind_of_ok tried]
      dsimp only
      by_cases anomalous : verdict.anomalous = true
      · have steady : ¬ Balks runtime.config call store := by
          simp [balks_iff exposed, BalksAt, answer]
        have flagged : Flags runtime.config call store :=
          (flags_iff exposed).mpr (.inl ⟨verdict, answer, anomalous⟩)
        rw [if_pos anomalous]
        exact .flagged steady flagged rfl rfl
      · obtain ⟨after, observed, samples⟩ :=
          @InMemoryBaselineStore.observe_run _ (baselineKeyFor call.principal) amount.val store
            (InMemoryBaselineStore.available_of_evaluate answer) fits
        have recorded : InMemoryBaselineStore.port.observe (baselineKeyFor call.principal)
            amount.val call.now store = .ok () after := observed
        rw [if_neg anomalous, bind_of_ok recorded]
        exact compared_of_observed exposed answer (by simpa using anomalous) samples

end Baselines

section Limits

variable [Runtime] (call : Evaluation) (key : LimitKey) (store : InMemoryLimitStore)

/-- The limit stage lets the call pass, with budget held under this member if there is one. -/
inductive Reserves : Option String → Prop
  | admitted {member : String} : store.Affords key call.decisionId call.now member →
      store.Reports key call.now member → Reserves (some member)
  | degraded : store.available = false →
      call.action.consequence.mayDegradeOnDependencyFailure = true → Reserves none

/-- The window while the budget is held. -/
def held : Option String → List Admission
  | none => store.inWindow key call.now
  | some member => store.grown key call.now member

/-- Nothing is admitted, and the limit stage does not let the call pass. -/
structure Barred : Prop where
  unaffordable : ∀ member, ¬ store.Affords key call.decisionId call.now member
  unreserved : ∀ budget, ¬ Reserves call key store budget

/-- The budget the outcome of the limit stage holds in a window. -/
structure Budget (limited : Limited) (holds : Bool) : Prop where
  key : limited.key = some key
  holds : limited.verdict.any (·.admitted) = holds

/-- How the limit stage ends for a call which is not denied yet. -/
inductive Metered (authorised : Authorised) :
    EStateM.Result PyError InMemoryLimitStore Limited → Prop
  | raised {error : PyError} {after : InMemoryLimitStore} : Barred call key store →
      InMemoryLimitStore.Rewindowed key call.now (store.inWindow key call.now) store after →
      Metered authorised (.error error after)
  | denied {limited : Limited} {after : InMemoryLimitStore} : Barred call key store →
      limited.decision.effect = .deny → Budget key limited false →
      InMemoryLimitStore.Rewindowed key call.now (store.inWindow key call.now) store after →
      Metered authorised (.ok limited after)
  | unreported {member : String} {error : PyError} {after : InMemoryLimitStore} :
      store.Affords key call.decisionId call.now member → ¬ store.Reports key call.now member →
      InMemoryLimitStore.Rewindowed key call.now (store.grown key call.now member) store after →
      Metered authorised (.error error after)
  | reserved {budget : Option String} {limited : Limited} {after : InMemoryLimitStore} :
      Reserves call key store budget → limited.decision = authorised.decision →
      Budget key limited budget.isSome →
      InMemoryLimitStore.Rewindowed key call.now (held call key store budget) store after →
      Metered authorised (.ok limited after)

variable {call key store} {budget : Option String} {member : String} {ρ ε β : Type}
  {runtime : GovernanceRuntime ρ ε InMemoryLimitStore β} {authorised : Authorised}
  {verdict : LimitVerdict} {after : InMemoryLimitStore}

/-- A call reserves under one member at most. -/
theorem Reserves.unique {budget' : Option String} (reserves : Reserves call key store budget)
    (reserves' : Reserves call key store budget') : budget = budget' := by
  cases reserves with
  | admitted affords =>
    cases reserves' with
    | admitted affords' =>
      cases affords.named.symm.trans affords'.named
      rfl
    | degraded down => cases down.symm.trans affords.available
  | degraded down =>
    cases reserves' with
    | admitted affords => cases down.symm.trans affords.available
    | degraded => rfl

theorem Reserves.reports_of_affords (reserves : Reserves call key store budget)
    (affords : store.Affords key call.decisionId call.now member) :
    store.Reports key call.now member := by
  cases reserves with
  | admitted affords' reports =>
    cases affords.named.symm.trans affords'.named
    exact reports
  | degraded down => cases down.symm.trans affords.available

omit [Runtime] in
theorem mem_held_iff :
    (∀ entry, entry ∈ held call key store budget ↔ entry ∈ store.inWindow key call.now) ↔
      ∀ member ∈ budget, store.Holds key call.now member := by
  cases budget with
  | none => exact iff_of_true (fun _ => Iff.rfl) nofun
  | some member =>
    refine InMemoryLimitStore.mem_grown_iff.trans ?_
    simp

theorem Reserves.mem_returned_iff (reserves : Reserves call key store budget) :
    (∀ entry, entry ∈ returned call.decisionId budget.isSome (held call key store budget) ↔
        entry ∈ store.inWindow key call.now) ↔
      ∀ member ∈ budget, ¬ store.HoldsFor key call.now call.decisionId := by
  cases reserves with
  | degraded => exact iff_of_true (fun _ => Iff.rfl) nofun
  | admitted affords =>
    refine (InMemoryLimitStore.mem_released_iff affords.named).trans ?_
    simp

/-- Who is not admitted is barred while the store answers. -/
theorem barred_of_available (available : store.available = true)
    (unaffordable : ∀ member, ¬ store.Affords key call.decisionId call.now member) :
    Barred call key store := by
  refine ⟨unaffordable, fun budget reserves => ?_⟩
  cases reserves with
  | admitted affords => exact unaffordable _ affords
  | degraded down =>
    rw [available] at down
    cases down

def limitedBy (call : Evaluation) (authorised : Authorised) (key : LimitKey)
    (verdict : Option LimitVerdict) : Limited :=
  let result := (verdict.map judgeLimit).getD (limitsUnavailable call.action)
  { decision := result.denial.getD authorised.decision
    outcome := result.outcome
    key := some key
    verdict := verdict }

theorem metered_of_unavailable (down : store.available = false) :
    Metered call key store authorised (.ok (limitedBy call authorised key none) store) := by
  unfold limitedBy limitsUnavailable
  by_cases advisory : call.action.consequence.mayDegradeOnDependencyFailure = true
  · exact .reserved (.degraded down advisory) (by simp [advisory, StageResult.skipped]) ⟨rfl, rfl⟩
      (.refl ..)
  · refine .denied ⟨fun member affords => ?_, fun budget reserves => ?_⟩
      (by simp [advisory, StageResult.failed]) ⟨rfl, rfl⟩ (.refl ..)
    · cases down.symm.trans affords.available
    · cases reserves with
      | admitted affords => cases down.symm.trans affords.available
      | degraded _ degrades => exact advisory degrades

/-- `_check_limits`, while no window is evicted. -/
theorem metered_limitStage (port : runtime.limitStore = InMemoryLimitStore.port)
    (undenied : authorised.decision.effect ≠ .deny)
    (keyed : limitKeyFor runtime.config call.principal call.action = .ok key)
    (fits : store.windows.Fits store.maxSubjects key.canonicalKey) :
    Metered call key store authorised (limitStage runtime call authorised store) := by
  unfold limitStage
  rw [if_neg undenied, bind_of_ok (ofExcept_run keyed store), port]
  have tried := @InMemoryLimitStore.tried_tryConsume key call.now call.decisionId store _ fits
  have port_eq : InMemoryLimitStore.port.tryConsume key 1 call.decisionId call.now store =
      InMemoryLimitStore.tryConsume key 1 call.decisionId call.now store := rfl
  generalize InMemoryLimitStore.tryConsume key 1 call.decisionId call.now store = result
    at tried port_eq
  cases tried with
  | unavailable down known =>
    rw [bind_of_ok (attempt_of_caught port_eq known)]
    exact metered_of_unavailable down
  | raised available other unaffordable kept =>
    rw [bind_of_error (attempt_of_uncaught port_eq (by simp [other]))]
    exact .raised (barred_of_available available unaffordable) kept
  | refused available refused unaffordable kept =>
    rw [bind_of_ok (attempt_of_ok port_eq)]
    exact .denied (barred_of_available available unaffordable)
      (by simp [judgeLimit, refused, StageResult.denied])
      ⟨rfl, by simp [refused]⟩ kept
  | unreported other affords unreported grows =>
    rw [bind_of_error (attempt_of_uncaught port_eq (by simp [other]))]
    exact .unreported affords unreported grows
  | admitted admitted affords reports grows =>
    rw [bind_of_ok (attempt_of_ok port_eq)]
    exact .reserved (.admitted affords reports)
      (by simp [judgeLimit, admitted, StageResult.passed])
      ⟨rfl, by simp [admitted]⟩ grows

end Limits

section Charging

variable [Runtime] {ρ ε : Type}
  {runtime : GovernanceRuntime ρ ε InMemoryLimitStore InMemoryBaselineStore} {call : Evaluation}
  {key : LimitKey} {authorised : Authorised} {before : MemoryCharges}

structure OverMemory (runtime : GovernanceRuntime ρ ε InMemoryLimitStore InMemoryBaselineStore) :
    Prop where
  limitStore : runtime.limitStore = InMemoryLimitStore.port
  baselineStore : runtime.baselineStore = InMemoryBaselineStore.port

/-- How the charging stages end for a call which is not denied yet. -/
inductive Charged (config : ServiceConfig) (call : Evaluation) (key : LimitKey)
    (authorised : Authorised) (before : MemoryCharges) :
    EStateM.Result PyError MemoryCharges Decided → Prop
  /-- The limit stage raises before it admits anything. -/
  | unlimited {error : PyError} {after : MemoryCharges} : Barred call key before.limits →
      Spent key call.now (before.limits.inWindow key call.now) False before after →
      Charged config call key authorised before (.error error after)
  | denied {decided : Decided} {after : MemoryCharges} : Barred call key before.limits →
      decided.decision.effect = .deny → Budget key decided.limited false →
      Spent key call.now (before.limits.inWindow key call.now) False before after →
      Charged config call key authorised before (.ok decided after)
  /-- The limit stage raises after the admission. -/
  | unreported {member : String} {error : PyError} {after : MemoryCharges} :
      before.limits.Affords key call.decisionId call.now member →
      ¬ before.limits.Reports key call.now member →
      Spent key call.now (before.limits.grown key call.now member) False before after →
      Charged config call key authorised before (.error error after)
  | balked {budget : Option String} {error : PyError} {after : MemoryCharges} :
      Reserves call key before.limits budget → Balks config call before.baselines →
      Spent key call.now (held call key before.limits budget) False before after →
      Charged config call key authorised before (.error error after)
  /-- The baseline stage denies, and the budget is returned. -/
  | flagged {budget : Option String} {decided : Decided} {after : MemoryCharges} :
      Reserves call key before.limits budget → ¬ Balks config call before.baselines →
      Flags config call before.baselines → decided.decision.effect = .deny →
      Budget key decided.limited budget.isSome →
      Spent key call.now (returned call.decisionId budget.isSome
        (held call key before.limits budget)) False before after →
      Charged config call key authorised before (.ok decided after)
  | passed {budget : Option String} {decided : Decided} {after : MemoryCharges} :
      Reserves call key before.limits budget → ¬ Balks config call before.baselines →
      ¬ Flags config call before.baselines → decided.decision = authorised.decision →
      Budget key decided.limited budget.isSome →
      Spent key call.now (held call key before.limits budget)
        (Learns config call before.baselines) before after →
      Charged config call key authorised before (.ok decided after)

omit [Runtime] in
theorem spent_of_rewindowed {entries : List Admission} {limits : InMemoryLimitStore}
    (rewindowed : InMemoryLimitStore.Rewindowed key call.now entries before.limits limits) :
    Spent key call.now entries False before ⟨limits, before.baselines⟩ :=
  ⟨rewindowed, iff_of_true (fun _ => rfl) not_false⟩

theorem releaseBudget_run {limited : Limited} {holds : Bool} {limits : InMemoryLimitStore}
    (port : runtime.limitStore = InMemoryLimitStore.port) (budget : Budget key limited holds)
    (available : holds = true → limits.available = true) :
    ∃ after, releaseBudget runtime limited call.decisionId limits = .ok () after ∧
      InMemoryLimitStore.Rewindowed key call.now
        (returned call.decisionId holds (limits.inWindow key call.now)) limits after := by
  obtain ⟨keyed, holds_eq⟩ := budget
  unfold releaseBudget
  rw [keyed, port]
  cases verdict_eq : limited.verdict with
  | none =>
    rw [verdict_eq] at holds_eq
    cases holds_eq
    exact ⟨limits, rfl, .refl ..⟩
  | some verdict =>
    rw [verdict_eq] at holds_eq
    have admitted_eq : verdict.admitted = holds := holds_eq
    dsimp only
    cases holds with
    | false =>
      rw [admitted_eq]
      exact ⟨limits, rfl, .refl ..⟩
    | true =>
      rw [if_pos admitted_eq]
      exact InMemoryLimitStore.release_rewindowed (available rfl)

theorem Reserves.available {budget : Option String} {limits : InMemoryLimitStore}
    (reserves : Reserves call key limits budget) (holds : budget.isSome = true) :
    limits.available = true := by
  cases reserves with
  | admitted affords => exact affords.available
  | degraded => cases holds

theorem charged_charge (memory : OverMemory runtime) (undenied : authorised.decision.effect ≠ .deny)
    (keyed : limitKeyFor runtime.config call.principal call.action = .ok key)
    (windows : before.limits.windows.Fits before.limits.maxSubjects key.canonicalKey)
    (distributions : before.baselines.observations.Fits before.baselines.maxSubjects
      (baselineKeyFor call.principal).canonicalKey) :
    Charged runtime.config call key authorised before (charge runtime call authorised before) := by
  have metered := @metered_limitStage _ call key before.limits _ _ _ runtime authorised
    memory.limitStore undenied keyed windows
  unfold charge
  cases limiting : limitStage runtime call authorised before.limits with
  | error error limits =>
    have raised : Charges.onLimits (limitStage runtime call authorised) before =
        .error error ⟨limits, before.baselines⟩ := zoom_of_error limiting
    rw [bind_of_error raised]
    rw [limiting] at metered
    cases metered with
    | raised barred kept => exact .unlimited barred (spent_of_rewindowed kept)
    | unreported affords unreported grows =>
      exact .unreported affords unreported (spent_of_rewindowed grows)
  | ok limited limits =>
    have answered : Charges.onLimits (limitStage runtime call authorised) before =
        .ok limited ⟨limits, before.baselines⟩ := zoom_of_ok limiting
    rw [bind_of_ok answered]
    rw [limiting] at metered
    cases metered with
    | denied barred denied budget kept =>
      rw [if_pos denied]
      exact .denied barred denied budget (spent_of_rewindowed kept)
    | @reserved budget _ _ reserves unchanged refundable grows =>
      rw [if_neg (by rwa [unchanged])]
      have compared := @compared_checkBaseline _ call before.baselines _ _ _ runtime
        memory.baselineStore distributions
      cases comparing : checkBaseline runtime call before.baselines with
      | error error baselines =>
        have raised : Charges.onBaselines (checkBaseline runtime call)
            ⟨limits, before.baselines⟩ = .error error ⟨limits, baselines⟩ :=
          zoom_of_error comparing
        rw [bind_of_error raised]
        rw [comparing] at compared
        cases compared with
        | balked balks => exact .balked reserves balks (spent_of_rewindowed grows)
      | ok result baselines =>
        have answered : Charges.onBaselines (checkBaseline runtime call)
            ⟨limits, before.baselines⟩ = .ok result ⟨limits, baselines⟩ :=
          zoom_of_ok comparing
        rw [bind_of_ok answered]
        rw [comparing] at compared
        cases compared with
        | flagged steady flags denial denies =>
          obtain ⟨after, released, leaves⟩ := @releaseBudget_run _ _ _ runtime call key
            limited _ limits memory.limitStore refundable fun holds =>
              grows.available.trans (reserves.available holds)
          rw [grows.window] at leaves
          have decides : (decidedBy authorised limited result).decision.effect = .deny := by
            rw [decidedBy, denial]
            exact denies
          have refunded : Charges.onLimits
              (releaseBudget runtime limited call.decisionId)
              ⟨limits, before.baselines⟩ = .ok () ⟨after, before.baselines⟩ :=
            zoom_of_ok released
          rw [denial]
          dsimp only
          rw [bind_of_ok refunded]
          exact .flagged reserves steady flags decides refundable
            (spent_of_rewindowed (grows.trans leaves))
        | passed steady unflagged undenied' samples =>
          have decides : (decidedBy authorised limited result).decision =
              authorised.decision := by
            rw [decidedBy, undenied', ← unchanged]
            rfl
          rw [undenied']
          exact .passed reserves steady unflagged decides refundable ⟨grows, samples⟩

/-- A failed evidence write returns the budget, and nothing else does. -/
theorem Spent.compensate {decided : Decided} {holds : Bool} {entries : List Admission}
    {learned : Prop} {middle : MemoryCharges} (memory : OverMemory runtime)
    (budget : Budget key decided.limited holds)
    (available : holds = true → before.limits.available = true)
    (spent : Spent key call.now entries learned before middle) (error : PyError) :
    Spent key call.now
      (if isEvidenceFailure error then returned call.decisionId holds entries else entries) learned
      before ((compensate runtime call decided error).after middle) := by
  unfold DecisionService.compensate
  split
  next =>
    obtain ⟨after, released, leaves⟩ := @releaseBudget_run _ _ _ runtime call key decided.limited
      _ middle.limits memory.limitStore budget fun holds =>
        spent.limits.available.trans (available holds)
    have survived : releaseBudgetBestEffort runtime decided.limited call.decisionId
        middle.limits = .ok () after := by
      unfold releaseBudgetBestEffort
      rw [bind_of_ok (attempt_of_ok released)]
      rfl
    unfold Charges.onLimits
    rw [after_of_ok (zoom_of_ok survived)]
    rw [spent.limits.window] at leaves
    exact ⟨spent.limits.trans leaves, spent.samples⟩
  next => exact spent

end Charging

end DecisionService

end GlassBox
