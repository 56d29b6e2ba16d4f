import GlassBox.Adapters.Postgres.Dispatcher
import GlassBox.Foundation.Runs
import GlassBox.Domain.Sample

/-!
# Dispatching at once

Whatever the replicas, the transactions and the handlers do, the handler of a key is started at
most once, and all calls which report its end report the same.
-/

namespace GlassBox

namespace PostgresDispatcher

/-- The call inserted the row of its key and has not ended. -/
def Phase.holdsClaim : Phase → Bool
  | .claimed | .submitted | .completing _ => true
  | _ => false

def Phase.isEarly : Phase → Bool
  | .ready | .admitted | .claimed => true
  | _ => false

/-- The call holds the claim and does not know its outcome. -/
def Phase.isUndecided : Phase → Bool
  | .claimed | .submitted => true
  | _ => false

theorem Phase.holdsClaim_of_isUndecided {phase : Phase} (undecided : phase.isUndecided = true) :
    phase.holdsClaim = true := by
  cases phase <;> first | rfl | cases undecided

def IsFinal (outcome : ExecutionOutcome) : Prop :=
  outcome.status = .executed ∨ outcome.status = .failed

def Phase.Reports (outcome : ExecutionOutcome) : Phase → Prop
  | .completing decided => decided = outcome
  | .returned answer => answer = outcome ∧ IsFinal outcome
  | _ => False

def Worker.isSubmitted : Worker → Bool
  | .queued | .running | .ended _ => true
  | _ => false

def Worker.isUnstarted : Worker → Bool
  | .idle | .queued => true
  | _ => false

section Invariant

variable {ι ℛ : Type} (calls : ι → DispatchCall ℛ)

/-- What holds of the ledger: rows which were claimed are there, terminal ones say what was
decided, and only a call which inserted the row of its key started its handler. -/
structure Sound (shared : Shared ι ℛ) : Prop where
  fresh : ∀ key, shared.ledger key = none →
    shared.claimant key = none ∧ shared.verdict key = none
  settled : ∀ key row verdict, shared.ledger key = some row → row.verdict = some verdict →
    shared.verdict key = some verdict
  claimed : ∀ i ∈ shared.starts, shared.claimant (calls i).key = some i
  once : shared.starts.Nodup

/-- What a call knows about the ledger. -/
structure Knows (i : ι) (shared : Shared ι ℛ) (mine : CallState) : Prop where
  claimant : mine.phase.holdsClaim = true ∨ mine.worker.isSubmitted = true →
    shared.claimant (calls i).key = some i
  undecided : mine.phase.isUndecided = true → shared.verdict (calls i).key = none
  reports : ∀ outcome, mine.phase.Reports outcome →
    shared.verdict (calls i).key = some (verdictOf outcome)
  unstarted : mine.worker.isUnstarted = true → i ∉ shared.starts
  early : mine.phase.isEarly = true → mine.worker = .idle

def DispatchInvariant : Dispatches ι ℛ → Prop :=
  Interleaved.Invariant (Sound calls) (Knows calls) fun _ _ _ _ => True

variable {calls} {i j : ι} {shared shared' : Shared ι ℛ} {mine : CallState} {phase : Phase}
  {key : String}

/-- A call does not notice what happens to other keys, or to its own without a decision. -/
theorem Knows.stable (knows : Knows calls j shared mine)
    (claimant : ∀ i, shared.claimant (calls j).key = some i →
      shared'.claimant (calls j).key = some i)
    (verdict : shared'.verdict (calls j).key = shared.verdict (calls j).key)
    (starts : j ∈ shared'.starts → j ∈ shared.starts) : Knows calls j shared' mine where
  claimant := fun holds => claimant j (knows.claimant holds)
  undecided := fun undecided => verdict.trans (knows.undecided undecided)
  reports := fun outcome reports => verdict.trans (knows.reports outcome reports)
  unstarted := fun unstarted started => knows.unstarted unstarted (starts started)
  early := knows.early

/-- The ledger and the slots are not what a call knows about. -/
theorem Knows.congr (knows : Knows calls j shared mine)
    (claimant : shared'.claimant = shared.claimant) (verdict : shared'.verdict = shared.verdict)
    (starts : shared'.starts = shared.starts) : Knows calls j shared' mine :=
  knows.stable (fun _ => by rw [claimant]; exact id) (by rw [verdict]) (by rw [starts]; exact id)

/-- A call which ends without a final outcome has nothing left to know but its handler. -/
theorem Knows.exits (knows : Knows calls i shared mine) (ended : phase.holdsClaim = false)
    (early : phase.isEarly = false) (reports : ∀ outcome, phase.Reports outcome →
      shared.verdict (calls i).key = some (verdictOf outcome)) :
    Knows calls i shared ⟨phase, mine.worker⟩ where
  claimant := by
    rintro (holds | submitted)
    · exact absurd (ended.symm.trans holds) Bool.false_ne_true
    · exact knows.claimant (.inr submitted)
  undecided := fun undecided =>
    absurd (ended.symm.trans (Phase.holdsClaim_of_isUndecided undecided)) Bool.false_ne_true
  reports := reports
  unstarted := knows.unstarted
  early := fun holds => absurd (early.symm.trans holds) Bool.false_ne_true

section

variable (sound : Sound calls shared)
include sound

/-- A row may be written which says nothing but what was decided for its key. -/
theorem Sound.write {row : LedgerRow}
    (agrees : ∀ verdict, row.verdict = some verdict → shared.verdict key = some verdict) :
    Sound calls { shared with ledger := Function.update shared.ledger key (some row) } where
  fresh := by
    intro other absent
    dsimp only at absent ⊢
    rw [Function.update_apply] at absent
    split at absent
    next => cases absent
    next => exact sound.fresh other absent
  settled := by
    intro other stored verdict found decided
    dsimp only at found ⊢
    rw [Function.update_apply] at found
    split at found
    next same =>
      cases found
      exact same ▸ agrees verdict decided
    next => exact sound.settled other stored verdict found decided
  claimed := sound.claimed
  once := sound.once

/-- The claimant of a key which had none. -/
theorem Sound.claim (present : shared.ledger key ≠ none)
    (unclaimed : shared.claimant key = none) (i : ι) :
    Sound calls { shared with claimant := Function.update shared.claimant key (some i) } where
  fresh := by
    intro other absent
    have different : other ≠ key := by
      rintro rfl
      exact present absent
    simpa [different] using sound.fresh other absent
  settled := sound.settled
  claimed := by
    intro j started
    have claimed := sound.claimed j started
    have different : (calls j).key ≠ key := by
      intro same
      rw [same, unclaimed] at claimed
      cases claimed
    simpa [different] using claimed
  once := sound.once

/-- The verdict on a key about which no row says anything. -/
theorem Sound.decide (present : shared.ledger key ≠ none)
    (undecided : shared.verdict key = none) (verdict : Verdict) :
    Sound calls { shared with
      verdict := Function.update shared.verdict key (some verdict) } where
  fresh := by
    intro other absent
    have different : other ≠ key := by
      rintro rfl
      exact present absent
    simpa [different] using sound.fresh other absent
  settled := by
    intro other row decided found read
    have earlier := sound.settled other row decided found read
    have different : other ≠ key := by
      rintro rfl
      rw [undecided] at earlier
      cases earlier
    simpa [different] using earlier
  claimed := sound.claimed
  once := sound.once

/-- A call which inserted the row of its key may start its handler. -/
theorem Sound.start
    (claimant : shared.claimant (calls i).key = some i) (unstarted : i ∉ shared.starts) :
    Sound calls { shared with starts := shared.starts ++ [i] } where
  fresh := sound.fresh
  settled := sound.settled
  claimed := by
    intro j started
    rcases List.mem_append.mp started with earlier | now
    · exact sound.claimed j earlier
    · rw [List.mem_singleton.mp now]
      exact claimant
  once := List.nodup_append.mpr ⟨sound.once, List.nodup_singleton i, by
    rintro j earlier k now rfl
    exact unstarted (List.mem_singleton.mp now ▸ earlier)⟩

theorem Sound.present (claimant : shared.claimant key = some i) :
    shared.ledger key ≠ none := by
  intro absent
  cases (sound.fresh key absent).1.symm.trans claimant

end

variable (calls i shared) in
structure Keeps (after : Shared ι ℛ × CallState) : Prop where
  sound : Sound calls after.1
  knows : Knows calls i after.1 after.2
  others : ∀ j, j ≠ i → ∀ other, Knows calls j shared other → Knows calls j after.1 other

variable [DecidableEq ℛ] {worker : Worker} {ledger : Ledger}

theorem keeps_exits (call : DispatchCall ℛ) (sound : Sound calls { shared with ledger })
    (knows : Knows calls i shared mine) (ended : phase.holdsClaim = false)
    (early : phase.isEarly = false) (reports : ∀ outcome, phase.Reports outcome →
      shared.verdict (calls i).key = some (verdictOf outcome)) :
    Keeps calls i shared ({ shared with ledger }.exits call mine.worker phase) where
  sound := ⟨sound.fresh, sound.settled, sound.claimed, sound.once⟩
  knows := (knows.exits ended early reports).congr rfl rfl rfl
  others := fun _ _ _ other => other.congr rfl rfl rfl

theorem keeps_raises (call : DispatchCall ℛ) (error : PyError)
    (sound : Sound calls { shared with ledger }) (knows : Knows calls i shared mine) :
    Keeps calls i shared ({ shared with ledger }.exits call mine.worker (.raised error)) :=
  keeps_exits call sound knows rfl rfl nofun

theorem keeps_enter (wiring : Wiring) (sound : Sound calls shared)
    (knows : Knows calls i shared ⟨.ready, worker⟩) :
    Keeps calls i shared (enter (calls i) wiring shared worker) := by
  unfold enter
  split
  next =>
    refine ⟨⟨sound.fresh, sound.settled, sound.claimed, sound.once⟩, ?_,
      fun _ _ _ other => other.congr rfl rfl rfl⟩
    exact ⟨knows.claimant ∘ Or.imp_left nofun, nofun, nofun, knows.unstarted, knows.early⟩
  next error => exact ⟨sound, knows.exits rfl rfl nofun, fun _ _ _ other => other⟩

/-- The row inserted by a claim says nothing yet. -/
theorem claim_cases (action : ProposedAction) (receipt : EvidenceReceipt) (ledger : Ledger) :
    claim action receipt ledger = (false, ledger) ∨
    ledger action.idempotencyKey.val = none ∧ ∃ row : LedgerRow, row.verdict = none ∧
      claim action receipt ledger =
        (true, Function.update ledger action.idempotencyKey.val (some row)) := by
  unfold claim
  split
  next => exact .inl rfl
  next absent => exact .inr ⟨absent, _, rfl, rfl⟩

theorem keeps_claims (fate : Fate) (sound : Sound calls shared)
    (knows : Knows calls i shared ⟨.admitted, worker⟩) :
    Keeps calls i shared (claims i (calls i) fate shared worker) := by
  unfold claims
  rcases claim_cases (calls i).action (calls i).receipt shared.ledger with
    found | ⟨absent, row, silent, inserted⟩
  · simp only [found]
    cases fate with
    | committed => exact ⟨sound, knows.exits rfl rfl nofun, fun _ _ _ other => other⟩
    | lost error | unacknowledged error => exact keeps_raises _ _ sound knows
  · have written : Sound calls { shared with
        ledger := Function.update shared.ledger (calls i).key (some row) } :=
      sound.write (by simp [silent])
    obtain ⟨unclaimed, undecided⟩ := sound.fresh _ absent
    simp only [inserted]
    cases fate with
    | committed =>
      refine ⟨written.claim (by simp [DispatchCall.key]) unclaimed i, ?_, ?_⟩
      · exact ⟨fun _ => by simp, fun _ => undecided, nofun, knows.unstarted, knows.early⟩
      · intro j different other knows
        refine knows.stable (fun k claimant => ?_) rfl id
        have apart : (calls j).key ≠ (calls i).key := by
          intro same
          rw [same] at claimant
          cases unclaimed.symm.trans claimant
        simpa [apart] using claimant
    | lost error => exact keeps_raises _ _ sound knows
    | unacknowledged error => exact keeps_raises _ _ written knows

theorem keeps_decides [Runtime] (ending : HandlerEnd) (sound : Sound calls shared)
    (knows : Knows calls i shared ⟨.submitted, worker⟩) :
    Keeps calls i shared (decides (calls i) ending shared worker) := by
  have claimant := knows.claimant (.inl rfl)
  have undecided := knows.undecided rfl
  have present := sound.present claimant
  unfold decides
  split
  next outcome _ =>
    refine ⟨sound.decide present undecided _, ?_, ?_⟩
    · refine ⟨fun _ => claimant, nofun, ?_, knows.unstarted, nofun⟩
      rintro _ rfl
      simp
    · intro j different other knows
      by_cases same : (calls j).key = (calls i).key
      · -- a call which reports nothing and holds no claim does not notice the decision
        have foreign : shared.claimant (calls j).key ≠ some j := by
          rw [same, claimant]
          exact fun own => different (Option.some.inj own).symm
        refine ⟨fun holds => absurd (knows.claimant holds) foreign, fun early => absurd
          (knows.claimant (.inl (Phase.holdsClaim_of_isUndecided early))) foreign, ?_,
          knows.unstarted, knows.early⟩
        intro outcome reports
        cases (same ▸ undecided).symm.trans (knows.reports outcome reports)
      · exact knows.stable (fun _ => id) (by simp [same]) id
  next error _ => exact keeps_raises _ _ sound knows

/-- The written row says what the outcome does. -/
theorem complete_cases (rowSecurity : Bool) (key : String) (outcome : ExecutionOutcome)
    (tenantId : Identifier) (ledger : Ledger) :
    (∃ error, complete rowSecurity key outcome tenantId ledger = .error error) ∨
    complete rowSecurity key outcome tenantId ledger = .ok ledger ∨
    ∃ row : LedgerRow, row.verdict = some (verdictOf outcome) ∧
      complete rowSecurity key outcome tenantId ledger =
        .ok (Function.update ledger key (some row)) := by
  unfold complete
  split
  next => exact .inr (.inl rfl)
  next row _ =>
    split
    next => exact .inl ⟨_, rfl⟩
    next status admitted =>
      refine .inr (.inr ⟨_, ?_, rfl⟩)
      have terminal : status.terminal = some outcome.status := by
        cases held : outcome.status <;> rw [held] at admitted <;> cases admitted <;> rfl
      simp [LedgerRow.verdict, terminal, verdictOf]

theorem keeps_completes (rowSecurity : Bool) (fate : Fate) {outcome : ExecutionOutcome}
    (sound : Sound calls shared) (knows : Knows calls i shared ⟨.completing outcome, worker⟩) :
    Keeps calls i shared (completes rowSecurity (calls i) fate outcome shared worker) := by
  have decided := knows.reports outcome rfl
  have returned : ∀ ledger, Sound calls { shared with ledger } →
      Keeps calls i shared ({ shared with ledger }.exits (calls i) worker (.returned outcome)) := by
    intro ledger sound
    refine keeps_exits _ sound knows rfl rfl ?_
    rintro _ ⟨rfl, -⟩
    exact decided
  have failed : ∀ ledger error, Sound calls { shared with ledger } →
      Keeps calls i shared
        ({ shared with ledger }.exits (calls i) worker (completed outcome error)) := by
    intro ledger error sound
    unfold completed
    split
    next => exact returned ledger sound
    next => exact keeps_raises _ _ sound knows
  have ends : ∀ ledger, Sound calls { shared with ledger } →
      complete rowSecurity (calls i).key outcome (calls i).action.tenantId shared.ledger =
        .ok ledger →
      Keeps calls i shared (completes rowSecurity (calls i) fate outcome shared worker) := by
    intro ledger written wrote
    unfold completes
    rw [wrote]
    cases fate with
    | committed => exact returned ledger written
    | lost error => exact failed shared.ledger error sound
    | unacknowledged error => exact failed ledger error written
  rcases complete_cases rowSecurity (calls i).key outcome (calls i).action.tenantId
    shared.ledger with ⟨error, refused⟩ | unseen | ⟨row, read, wrote⟩
  · unfold completes
    rw [refused]
    exact failed shared.ledger error sound
  · exact ends _ sound unseen
  · refine ends _ (sound.write ?_) wrote
    intro verdict held
    rw [decided, ← read, held]

theorem keeps_polls (rowSecurity expired : Bool) (sound : Sound calls shared)
    (knows : Knows calls i shared ⟨.waiting, worker⟩) :
    Keeps calls i shared (polls rowSecurity (calls i) expired shared worker) := by
  unfold polls
  split
  next outcome read =>
    refine keeps_exits _ sound knows rfl rfl ?_
    rintro _ ⟨rfl, -⟩
    obtain ⟨row, found, read⟩ := Option.bind_eq_some_iff.mp read
    have stored : shared.ledger (calls i).key = some row := Option.eq_some_of_filter_eq_some found
    exact sound.settled _ row _ stored (LedgerRow.verdict_of_outcome read)
  next error _ => exact keeps_raises _ _ sound knows
  next =>
    split
    next =>
      split
      next outcome pending =>
        refine keeps_exits _ sound knows rfl rfl ?_
        rintro _ ⟨rfl, final⟩
        obtain ⟨completedAt, -, made⟩ := Except.bind_eq_ok_iff.mp pending
        cases made
        rcases final with final | final <;> cases final
      next error _ => exact keeps_raises _ _ sound knows
    next => exact ⟨sound, knows, fun _ _ _ other => other⟩

theorem keeps_advance [Runtime] (rowSecurity : Bool) (event : CallEvent)
    (sound : Sound calls shared) (knows : Knows calls i shared mine)
    {after : Shared ι ℛ × CallState}
    (advanced : advance rowSecurity i (calls i) event shared mine = some after) :
    Keeps calls i shared after := by
  unfold advance at advanced
  split at advanced <;> cases advanced
  next wiring worker => exact keeps_enter wiring sound knows
  next fate worker => exact keeps_claims fate sound knows
  next worker =>
    have idle : worker = .idle := knows.early rfl
    refine ⟨sound, ?_, fun _ _ _ other => other⟩
    exact ⟨fun _ => knows.claimant (.inl rfl), fun _ => knows.undecided rfl, nofun,
      fun _ => knows.unstarted (by rw [idle]; rfl), nofun⟩
  next error worker => exact keeps_raises _ _ sound knows
  next phase =>
    refine ⟨sound.start (knows.claimant (.inr rfl)) (knows.unstarted rfl), ?_, ?_⟩
    · refine ⟨fun _ => knows.claimant (.inr rfl), knows.undecided, knows.reports, nofun, ?_⟩
      intro early
      cases knows.early early
    · intro j different other knows
      refine knows.stable (fun _ => id) rfl fun started => ?_
      rcases List.mem_append.mp started with earlier | now
      · exact earlier
      · exact absurd (List.mem_singleton.mp now) different
  next ending phase =>
    refine ⟨sound, ?_, fun _ _ _ other => other⟩
    refine ⟨fun _ => knows.claimant (.inr rfl), knows.undecided, knows.reports, nofun, ?_⟩
    intro early
    cases knows.early early
  next ending => exact keeps_decides ending sound knows
  next worker => exact keeps_decides .timedOut sound knows
  next fate outcome worker => exact keeps_completes rowSecurity fate sound knows
  next expired worker => exact keeps_polls rowSecurity expired sound knows
  next error worker => exact keeps_raises _ _ sound knows

omit [DecidableEq ℛ] in
theorem Knows.crash (knows : Knows calls i shared mine) : Knows calls i shared mine.crash := by
  obtain ⟨phase, worker⟩ := mine
  refine ⟨?_, ?_, ?_, ?_, ?_⟩
  · rintro (holds | submitted)
    · cases phase <;> cases holds
    · cases worker with
      | ended ending => exact knows.claimant (.inr rfl)
      | _ => cases submitted
  · intro undecided
    cases phase <;> cases undecided
  · intro outcome reports
    cases phase with
    | returned answer => exact knows.reports outcome reports
    | _ => cases reports
  · intro unstarted
    cases worker with
    | idle => exact knows.unstarted rfl
    | _ => cases unstarted
  · intro early
    cases phase with
    | ready =>
      have idle : worker = .idle := knows.early rfl
      rw [idle]
      rfl
    | _ => cases early

variable [Runtime] [DecidableEq ι] {rowSecurity : Bool} {state : Dispatches ι ℛ}

theorem DispatchInvariant.step (invariant : DispatchInvariant calls state)
    (event : SystemEvent ι ℛ) : DispatchInvariant calls (step rowSecurity calls event state) := by
  unfold PostgresDispatcher.step
  cases event with
  | call i event =>
    dsimp only
    split
    next shared mine advanced =>
      have keeps := keeps_advance rowSecurity event invariant.whole (invariant.own i) advanced
      exact invariant.move (fun _ _ _ _ _ => trivial) keeps.sound keeps.knows
        (fun j different => keeps.others j different _ (invariant.own j)) fun _ _ => trivial
    next => exact invariant
  | crash replica =>
    have sound := invariant.whole
    refine ⟨⟨sound.fresh, sound.settled, sound.claimed, sound.once⟩, ?_, fun _ _ _ => trivial⟩
    intro i
    dsimp only
    split
    next => exact (invariant.own i).crash.congr rfl rfl rfl
    next => exact (invariant.own i).congr rfl rfl rfl

omit [DecidableEq ℛ] [Runtime] [DecidableEq ι] in
theorem dispatchInvariant_start (ledger : Ledger) : DispatchInvariant calls (start ι ledger) where
  whole := {
    fresh := by
      intro key absent
      have absent : ledger key = none := absent
      exact ⟨rfl, by simp [start, absent]⟩
    settled := by
      intro key row verdict found read
      have found : ledger key = some row := found
      simpa [start, found] using read
    claimed := nofun
    once := .nil }
  own := fun i => ⟨by rintro (holds | submitted) <;> contradiction, nofun, nofun,
    fun _ => List.not_mem_nil, fun _ => rfl⟩
  apart := fun _ _ _ => trivial

theorem dispatchInvariant_of_run
    (run : Reaches (fun _ _ => True) (step rowSecurity calls) (start ι ledger) state) :
    DispatchInvariant calls state :=
  run.invariant (DispatchInvariant calls) (dispatchInvariant_start ledger)
    fun event _ _ invariant => invariant.step event

omit [Runtime] [DecidableEq ι] in
theorem length_le_one_of_nodup {items : List ι} (nodup : items.Nodup)
    (same : ∀ i ∈ items, ∀ j ∈ items, i = j) : items.length ≤ 1 := by
  match items with
  | [] | [_] => simp
  | i :: j :: rest =>
    cases same i (by simp) j (by simp)
    simp at nodup

/-- In every run, from any ledger: among the calls of one key at most one handler was ever started;
a handler which was started, or which a worker may start next, belongs to a key with a row; and any
two calls of one key which returned that the effect was executed or failed returned the same status,
digest and error class. -/
theorem dispatched_at_most_once (rowSecurity : Bool) (calls : ι → DispatchCall ℛ)
    {ledger : Ledger} {state : Dispatches ι ℛ}
    (run : Reaches (fun _ _ => True) (step rowSecurity calls) (start ι ledger) state) :
    (∀ key, (state.shared.starts.filter fun i => (calls i).key = key).length ≤ 1) ∧
    (∀ i, i ∈ state.shared.starts ∨ (state.phases i).worker = .queued →
      state.shared.ledger (calls i).key ≠ none) ∧
    ∀ i j outcome other, (calls i).key = (calls j).key →
      (state.phases i).phase = .returned outcome → (state.phases j).phase = .returned other →
      IsFinal outcome → IsFinal other → verdictOf outcome = verdictOf other := by
  have invariant := dispatchInvariant_of_run run
  refine ⟨fun key => ?_, ?_, ?_⟩
  · -- Two started calls of the key are both its claimant.
    refine length_le_one_of_nodup (invariant.whole.once.filter _) ?_
    intro i started j started'
    simp only [List.mem_filter, decide_eq_true_eq] at started started'
    have left := invariant.whole.claimed i started.1
    have right := invariant.whole.claimed j started'.1
    rw [started.2] at left
    rw [started'.2] at right
    exact Option.some.inj (left.symm.trans right)
  · rintro i (started | queued)
    · exact invariant.whole.present (invariant.whole.claimed i started)
    · exact invariant.whole.present ((invariant.own i).claimant (.inr (by rw [queued]; rfl)))
  · intro i j outcome other same returned returned' final final'
    have left := (invariant.own i).reports outcome (by rw [returned]; exact ⟨rfl, final⟩)
    have right := (invariant.own j).reports other (by rw [returned']; exact ⟨rfl, final'⟩)
    rw [same] at left
    exact Option.some.inj (left.symm.trans right)

end Invariant

def twoCalls (replica : Bool) : DispatchCall Bool where
  replica := replica
  action := sampleAction Sample.read .reversible none
  receipt := sampleReceipt Sample.decision Sample.segment
  timeoutS := 30
  now := 0

/-- The second replica is told to wait while the handler runs at the first one. -/
def race : List (SystemEvent Bool Bool) :=
  [.call false (.enter ⟨fun _ => true, none, true, 8⟩), .call false (.claim .committed),
    .call false .submit, .call true (.enter ⟨fun _ => true, none, true, 8⟩),
    .call true (.claim .committed), .call true (.poll false), .call false .start,
    .call false (.finish (.returned .none "None")), .call false .collect,
    .call false (.complete .committed), .call true (.poll false)]

/-- The calls after the race, from an empty ledger. -/
def raced : Dispatches Bool Bool :=
  letI := plainRuntime
  runAll (step true twoCalls) race (start Bool fun _ => none)

/-- Whether the call returned that the effect was executed. -/
def Phase.isExecuted : Phase → Bool
  | .returned outcome => outcome.status = .executed
  | _ => false

theorem dispatched_at_most_once_raced :
    (raced.shared.starts.filter fun i => (twoCalls i).key = "key").length ≤ 1 ∧
    raced.shared.starts = [false] ∧
    (raced.phases false).phase.isExecuted = true ∧ (raced.phases true).phase.isExecuted = true := by
  let _ := plainRuntime
  have run : Reaches (fun _ _ => True) (step true twoCalls) (start Bool fun _ => none) raced := by
    exact (permits_of_forall (fun _ _ => trivial) race _).reaches
  exact ⟨(dispatched_at_most_once true twoCalls run).1 "key", by decide +kernel, by decide +kernel,
    by decide +kernel⟩

end PostgresDispatcher

end GlassBox
