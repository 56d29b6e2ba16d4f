import GlassBox.Adapters.Memory.Dispatch
import GlassBox.Domain.Sample
import GlassBox.Foundation.Interleaving
import GlassBox.Foundation.Runs

/-!
# Calls of the in-memory dispatcher at once

`dispatch` of `adapters/outbound/memory/dispatch.py` as interleaved steps.  The wait for a handler
ends with it or with a timeout; either way the slot is given back, and the handler of a call which
stopped waiting runs on.
-/

namespace GlassBox

/-- The statuses of an effect whose dispatch is over. -/
def ExecutionStatus.isTerminal : ExecutionStatus → Bool
  | .executed | .failed | .indeterminate => true
  | _ => false

theorem isTerminal_of_outcomeOf [Runtime] {ending : HandlerEnd} {timeoutS now : ℚ}
    {outcome : ExecutionOutcome} (recorded : outcomeOf ending timeoutS now = .ok outcome) :
    outcome.status.isTerminal = true := by
  cases ending with
  | timedOut | raised errorClass =>
    obtain ⟨completedAt, -, made⟩ := Except.bind_eq_ok_iff.mp recorded
    cases made
    rfl
  | returned result text =>
    obtain ⟨completedAt, -, made⟩ := Except.bind_eq_ok_iff.mp recorded
    split at made
    · cases made
      rfl
    · cases made
      rfl

namespace InMemoryDispatcher

/-- A call of `dispatch`, and the outer world its receipt is checked in. -/
structure PoolCall (ρ : Type) where
  action : ProposedAction
  receipt : EvidenceReceipt
  timeoutS : ℚ
  now : ℚ
  outer : ρ

def PoolCall.key {ρ : Type} (call : PoolCall ρ) : String := call.action.idempotencyKey.val

inductive HandlerFuture
  | unsubmitted
  /-- Queued in the pool or running. -/
  | unfinished
  | done (ending : HandlerEnd)

inductive PoolPhase
  | idle
  /-- The key and a slot are reserved. -/
  | reserved
  /-- The handler is submitted. -/
  | waiting
  /-- The wait is over, and the slot is still held. -/
  | ended (result : Except PyError ExecutionOutcome)
  /-- The slot was given back, and the outcome is not written yet. -/
  | released (outcome : ExecutionOutcome)
  | returned (outcome : ExecutionOutcome)
  | raised (error : PyError)

/-- Whether a call counts as in flight. -/
def PoolPhase.holdsSlot : PoolPhase → Bool
  | .reserved | .waiting | .ended _ => true
  | _ => false

/-- An outcome is still to be written, an error reaches the caller. -/
def PoolPhase.afterLeaving : Except PyError ExecutionOutcome → PoolPhase
  | .ok outcome => .released outcome
  | .error error => .raised error

structure PoolCallState where
  phase : PoolPhase := .idle
  future : HandlerFuture := .unsubmitted

structure Pool (ι ρ : Type) where
  dispatcher : InMemoryDispatcher ρ
  /-- The calls whose handlers were submitted and are not finished. -/
  unfinished : List ι := []
  /-- The calls which hold a slot; nothing reads this. -/
  holders : List ι := []

/-- A step of one call or of its handler. -/
inductive PoolEvent
  | reserve
  | submit
  | finish (ending : HandlerEnd)
  /-- `timeout_s` elapses before the handler ends. -/
  | expire
  /-- The wait is answered by the finished handler. -/
  | wake
  /-- `_in_flight -= 1`. -/
  | leave
  /-- The outcome takes the place of the reservation. -/
  | record

section Steps

variable {ρ : Type}

/-- What `dispatch` decides before it reserves anything: a recorded outcome is the answer. -/
def admission (call : PoolCall ρ) (dispatcher : InMemoryDispatcher ρ) :
    Except PyError (Option ExecutionOutcome) := do
  requireValidReceipt dispatcher.requireReceipt
    (dispatcher.receiptCheck.map fun check => check call.receipt call.outer) call.action
      call.receipt
  match dispatcher.outcomes call.key with
  | some recorded => return some recorded
  | none =>
    match dispatcher.handlers call.action.action.val with
    | none => throw (noHandler call.action call.receipt)
    | some _ =>
      if dispatcher.maxInFlight ≤ dispatcher.inFlight then
        throw (atInFlightBound call.action dispatcher.inFlight dispatcher.maxInFlight)
      else return none

def reserve (key : String) (dispatcher : InMemoryDispatcher ρ) : InMemoryDispatcher ρ :=
  { dispatcher.settle key pending with inFlight := dispatcher.inFlight + 1 }

def leave (dispatcher : InMemoryDispatcher ρ) : InMemoryDispatcher ρ :=
  { dispatcher with inFlight := dispatcher.inFlight - 1 }

variable {ι : Type} [DecidableEq ι] [Runtime]

/-- One step of a call, if the call has it to make. -/
def advance (i : ι) (call : PoolCall ρ) (event : PoolEvent) (pool : Pool ι ρ)
    (own : PoolCallState) : Option (Pool ι ρ × PoolCallState) :=
  match event, own.phase, own.future with
  | .reserve, .idle, _ =>
    match admission call pool.dispatcher with
    | .error error => some (pool, { own with phase := .raised error })
    | .ok (some recorded) => some (pool, { own with phase := .returned recorded })
    | .ok none =>
      some ({ pool with
          dispatcher := pool.dispatcher.reserve call.key
          holders := i :: pool.holders }, { own with phase := .reserved })
  | .submit, .reserved, _ =>
    some ({ pool with unfinished := i :: pool.unfinished }, ⟨.waiting, .unfinished⟩)
  | .finish ending, _, .unfinished =>
    some ({ pool with unfinished := pool.unfinished.erase i }, { own with future := .done ending })
  | .expire, .waiting, .unfinished =>
    some (pool, { own with phase := .ended (outcomeOf .timedOut call.timeoutS call.now) })
  | .wake, .waiting, .done ending =>
    some (pool, { own with phase := .ended (outcomeOf ending call.timeoutS call.now) })
  | .leave, .ended result, _ =>
    some ({ pool with
        dispatcher := pool.dispatcher.leave
        holders := pool.holders.erase i },
      { own with phase := .afterLeaving result })
  | .record, .released outcome, _ =>
    some ({ pool with dispatcher := pool.dispatcher.settle call.key outcome },
      { own with phase := .returned outcome })
  | _, _, _ => none

abbrev Pooled (ι ρ : Type) := Interleaved ι (Pool ι ρ) PoolCallState

/-- One step of one call; what a call does not have to make is not made. -/
def step (calls : ι → PoolCall ρ) (event : ι × PoolEvent) (state : Pooled ι ρ) : Pooled ι ρ :=
  match advance event.1 (calls event.1) event.2 state.shared (state.phases event.1) with
  | none => state
  | some (pool, own) => state.move event.1 pool own

omit [DecidableEq ι] [Runtime] in
def poolStart (ι : Type) (dispatcher : InMemoryDispatcher ρ) : Pooled ι ρ :=
  ⟨⟨dispatcher, [], []⟩, fun _ => {}⟩

end Steps

section Invariant

variable {ι ρ : Type} [DecidableEq ι] {i j : ι} {pool pool' : Pool ι ρ} {own : PoolCallState}
  {state : Pooled ι ρ} {call : PoolCall ρ} {dispatcher : InMemoryDispatcher ρ}

/-- No wait times out before its handler ends, and no call comes while its key is reserved. -/
def Orderly (calls : ι → PoolCall ρ) (event : ι × PoolEvent) (state : Pooled ι ρ) : Prop :=
  match event.2 with
  | .expire => False
  | .reserve => state.shared.dispatcher.outcomes (calls event.1).key ≠ some pending
  | _ => True

/-- The handlers at work are within the bound, and every returned outcome is terminal. -/
structure Contained (state : Pooled ι ρ) : Prop where
  bounded : state.shared.unfinished.length ≤ state.shared.dispatcher.maxInFlight
  terminal : ∀ i outcome, (state.phases i).phase = .returned outcome →
    outcome.status.isTerminal = true

/-- The outcome a call has reached, written or not. -/
def PoolPhase.outcome : PoolPhase → Option ExecutionOutcome
  | .ended (.ok outcome) | .released outcome | .returned outcome => some outcome
  | _ => none

/-- The pool counts its slots, and the ledger holds reservations and terminal outcomes. -/
structure PoolSound (pool : Pool ι ρ) : Prop where
  slots : pool.holders.length = pool.dispatcher.inFlight
  bounded : pool.dispatcher.inFlight ≤ pool.dispatcher.maxInFlight
  holders : pool.holders.Nodup
  unfinished : pool.unfinished.Nodup
  ledger : ∀ key outcome, pool.dispatcher.outcomes key = some outcome → outcome ≠ pending →
    outcome.status.isTerminal = true

/-- A call holds a slot exactly as its phase says, and waits for its handler as long as that is at
work. -/
structure PoolKnows (i : ι) (pool : Pool ι ρ) (own : PoolCallState) : Prop where
  slot : i ∈ pool.holders ↔ own.phase.holdsSlot = true
  handler : i ∈ pool.unfinished ↔ own.future = .unfinished
  awaited : own.future = .unfinished → own.phase = .waiting
  terminal : ∀ outcome, own.phase.outcome = some outcome → outcome.status.isTerminal = true

abbrev PoolInvariant (state : Pooled ι ρ) : Prop :=
  state.Invariant PoolSound PoolKnows fun _ _ _ _ => True

omit [DecidableEq ι] in
theorem PoolKnows.stable (knows : PoolKnows i pool own)
    (holders : i ∈ pool'.holders ↔ i ∈ pool.holders)
    (unfinished : i ∈ pool'.unfinished ↔ i ∈ pool.unfinished) : PoolKnows i pool' own where
  slot := holders.trans knows.slot
  handler := unfinished.trans knows.handler
  awaited := knows.awaited
  terminal := knows.terminal

/-- A step keeps the invariant when it keeps the parts about the pool and the moved call. -/
theorem PoolInvariant.moved (invariant : PoolInvariant state) (sound : PoolSound pool)
    (knows : PoolKnows i pool own)
    (holders : ∀ j, j ≠ i → (j ∈ pool.holders ↔ j ∈ state.shared.holders))
    (unfinished : ∀ j, j ≠ i → (j ∈ pool.unfinished ↔ j ∈ state.shared.unfinished)) :
    PoolInvariant (state.move i pool own) :=
  Interleaved.Invariant.move invariant (fun _ _ _ _ _ => trivial) sound knows
    (fun j other => (invariant.own j).stable (holders j other) (unfinished j other))
    fun _ _ => trivial

omit [DecidableEq ι] in
theorem PoolInvariant.contained (invariant : PoolInvariant state) : Contained state where
  bounded := by
    have held : state.shared.unfinished ⊆ state.shared.holders := by
      intro i member
      have waits := (invariant.own i).awaited ((invariant.own i).handler.mp member)
      apply (invariant.own i).slot.mpr
      rw [waits]
      rfl
    calc
      state.shared.unfinished.length ≤ state.shared.holders.length :=
        (List.subperm_of_subset invariant.whole.unfinished held).length_le
      _ = state.shared.dispatcher.inFlight := invariant.whole.slots
      _ ≤ state.shared.dispatcher.maxInFlight := invariant.whole.bounded
  terminal := by
    intro i outcome returned
    apply (invariant.own i).terminal outcome
    rw [returned]
    rfl

theorem inFlight_lt_of_admission (admitted : admission call dispatcher = .ok none) :
    dispatcher.inFlight < dispatcher.maxInFlight := by
  obtain ⟨-, -, admitted⟩ := Except.bind_eq_ok_iff.mp admitted
  split at admitted
  · cases admitted
  · split at admitted
    · cases admitted
    · split at admitted
      · cases admitted
      · omega

theorem recorded_of_admission {recorded : ExecutionOutcome}
    (admitted : admission call dispatcher = .ok (some recorded)) :
    dispatcher.outcomes call.key = some recorded := by
  obtain ⟨-, -, admitted⟩ := Except.bind_eq_ok_iff.mp admitted
  split at admitted
  · rename_i found
    cases admitted
    exact found
  · split at admitted
    · cases admitted
    · split at admitted <;> cases admitted

omit [DecidableEq ι] in
theorem PoolSound.settle (sound : PoolSound pool) {key : String} {outcome : ExecutionOutcome}
    (settled : outcome ≠ pending → outcome.status.isTerminal = true) :
    ∀ other recorded, (pool.dispatcher.settle key outcome).outcomes other = some recorded →
      recorded ≠ pending → recorded.status.isTerminal = true := by
  intro other recorded found
  simp only [InMemoryDispatcher.settle, Function.update_apply] at found
  split at found
  · cases found
    exact settled
  · exact sound.ledger other recorded found

variable {call : PoolCall ρ} {result : Except PyError ExecutionOutcome}

section

variable (invariant : PoolInvariant state)
include invariant

theorem PoolInvariant.reserve (idle : (state.phases i).phase = .idle)
    (admitted : admission call state.shared.dispatcher = .ok none) :
    PoolInvariant (state.move i
      { state.shared with
        dispatcher := state.shared.dispatcher.reserve call.key
        holders := i :: state.shared.holders }
      { state.phases i with phase := .reserved }) := by
  have knows := invariant.own i
  have free : i ∉ state.shared.holders := by
    rw [knows.slot, idle]
    nofun
  have resting : (state.phases i).future ≠ .unfinished := by
    intro atWork
    have waits := knows.awaited atWork
    rw [idle] at waits
    cases waits
  refine invariant.moved ?_ ?_ ?_ ?_
  · refine ⟨?_, inFlight_lt_of_admission admitted, ?_, invariant.whole.unfinished, ?_⟩
    · simp [InMemoryDispatcher.reserve, invariant.whole.slots]
    · exact List.nodup_cons.mpr ⟨free, invariant.whole.holders⟩
    · exact invariant.whole.settle fun other => absurd rfl other
  · exact ⟨by simp [PoolPhase.holdsSlot], knows.handler, fun atWork => absurd atWork resting, nofun⟩
  · intro j other
    simp [other]
  · exact fun _ _ => Iff.rfl

theorem PoolInvariant.submit (reserved : (state.phases i).phase = .reserved) :
    PoolInvariant (state.move i
      { state.shared with unfinished := i :: state.shared.unfinished }
        ⟨.waiting, .unfinished⟩) := by
  have knows := invariant.own i
  have fresh : i ∉ state.shared.unfinished := by
    intro member
    have waits := knows.awaited (knows.handler.mp member)
    rw [reserved] at waits
    cases waits
  refine invariant.moved ?_ ?_ (fun _ _ => Iff.rfl) ?_
  · exact ⟨invariant.whole.slots, invariant.whole.bounded, invariant.whole.holders,
      List.nodup_cons.mpr ⟨fresh, invariant.whole.unfinished⟩, invariant.whole.ledger⟩
  · refine ⟨?_, by simp, fun _ => rfl, nofun⟩
    rw [knows.slot, reserved]
    rfl
  · intro j other
    simp [other]

theorem PoolInvariant.finish (ending : HandlerEnd) :
    PoolInvariant (state.move i
      { state.shared with unfinished := state.shared.unfinished.erase i }
      { state.phases i with future := .done ending }) := by
  have knows := invariant.own i
  refine invariant.moved ?_ ?_ (fun _ _ => Iff.rfl) ?_
  · exact ⟨invariant.whole.slots, invariant.whole.bounded, invariant.whole.holders,
      invariant.whole.unfinished.erase i, invariant.whole.ledger⟩
  · refine ⟨knows.slot, ?_, nofun, knows.terminal⟩
    simp [invariant.whole.unfinished.not_mem_erase]
  · intro j other
    exact List.mem_erase_of_ne other

theorem PoolInvariant.wake
    (waiting : (state.phases i).phase = .waiting) (finished : (state.phases i).future ≠ .unfinished)
    (terminal : ∀ outcome, result = .ok outcome → outcome.status.isTerminal = true) :
    PoolInvariant (state.move i state.shared { state.phases i with phase := .ended result }) := by
  have knows := invariant.own i
  refine invariant.moved invariant.whole ?_ (fun _ _ => Iff.rfl) fun _ _ => Iff.rfl
  refine ⟨?_, knows.handler, fun atWork => absurd atWork finished, ?_⟩
  · rw [knows.slot, waiting]
    rfl
  · intro outcome reached
    cases result with
    | error error => cases reached
    | ok value =>
      cases reached
      exact terminal _ rfl

theorem PoolInvariant.leave (ended : (state.phases i).phase = .ended result) :
    PoolInvariant (state.move i
      { state.shared with
        dispatcher := state.shared.dispatcher.leave
        holders := state.shared.holders.erase i }
      { state.phases i with phase := .afterLeaving result }) := by
  have knows := invariant.own i
  have holds : i ∈ state.shared.holders := by
    rw [knows.slot, ended]
    rfl
  have resting : (state.phases i).future ≠ .unfinished := by
    intro atWork
    have waits := knows.awaited atWork
    rw [ended] at waits
    cases waits
  refine invariant.moved ?_ ?_ ?_ fun _ _ => Iff.rfl
  · refine ⟨?_, ?_, invariant.whole.holders.erase i, invariant.whole.unfinished,
      invariant.whole.ledger⟩
    · change (state.shared.holders.erase i).length = state.shared.dispatcher.inFlight - 1
      rw [List.length_erase_of_mem holds, invariant.whole.slots]
    · exact (Nat.sub_le _ 1).trans invariant.whole.bounded
  · have free : i ∉ state.shared.holders.erase i := invariant.whole.holders.not_mem_erase
    cases result with
    | ok outcome =>
      refine ⟨iff_of_false free nofun, knows.handler, fun atWork => absurd atWork resting, ?_⟩
      rintro reached ⟨⟩
      exact knows.terminal outcome (by rw [ended]; rfl)
    | error error =>
      exact ⟨iff_of_false free nofun, knows.handler, fun atWork => absurd atWork resting, nofun⟩
  · intro j other
    exact List.mem_erase_of_ne other

theorem PoolInvariant.record {outcome : ExecutionOutcome}
    (released : (state.phases i).phase = .released outcome) :
    PoolInvariant (state.move i
      { state.shared with dispatcher := state.shared.dispatcher.settle call.key outcome }
      { state.phases i with phase := .returned outcome }) := by
  have knows := invariant.own i
  have terminal : outcome.status.isTerminal = true :=
    knows.terminal outcome (by rw [released]; rfl)
  refine invariant.moved ?_ ?_ (fun _ _ => Iff.rfl) fun _ _ => Iff.rfl
  · exact ⟨invariant.whole.slots, invariant.whole.bounded, invariant.whole.holders,
      invariant.whole.unfinished, invariant.whole.settle fun _ => terminal⟩
  · refine ⟨?_, knows.handler, ?_, ?_⟩
    · rw [knows.slot, released]
      rfl
    · intro atWork
      have waits := knows.awaited atWork
      rw [released] at waits
      cases waits
    · rintro reached ⟨⟩
      exact terminal

theorem PoolInvariant.settled
    (idle : (state.phases i).phase = .idle) {phase : PoolPhase} (beyond : phase.holdsSlot = false)
    (terminal : ∀ outcome, phase.outcome = some outcome → outcome.status.isTerminal = true) :
    PoolInvariant (state.move i state.shared { state.phases i with phase }) := by
  have knows := invariant.own i
  refine invariant.moved invariant.whole ?_ (fun _ _ => Iff.rfl) fun _ _ => Iff.rfl
  refine ⟨?_, knows.handler, ?_, terminal⟩
  · rw [knows.slot, idle, beyond]
    rfl
  · intro atWork
    have waits := knows.awaited atWork
    rw [idle] at waits
    cases waits

end

variable [Runtime] {calls : ι → PoolCall ρ}

theorem PoolInvariant.orderly {event : ι × PoolEvent} (orderly : Orderly calls event state)
    (invariant : PoolInvariant state) : PoolInvariant (step calls event state) := by
  obtain ⟨i, event⟩ := event
  unfold step
  cases moved : advance i (calls i) event state.shared (state.phases i) with
  | none => exact invariant
  | some after =>
    unfold advance at moved
    split at moved
    next idle =>
      split at moved
      next error refused =>
        cases moved
        exact invariant.settled idle rfl nofun
      next recorded admitted =>
        cases moved
        refine invariant.settled idle rfl ?_
        rintro outcome ⟨⟩
        have found := recorded_of_admission admitted
        exact invariant.whole.ledger _ _ found fun same => orderly (same ▸ found)
      next admitted =>
        cases moved
        exact invariant.reserve idle admitted
    next reserved =>
      cases moved
      exact invariant.submit reserved
    next ending _ =>
      cases moved
      exact invariant.finish ending
    next => exact orderly.elim
    next ending waiting finished =>
      cases moved
      refine invariant.wake waiting (by rw [finished]; nofun) ?_
      exact fun outcome recorded => isTerminal_of_outcomeOf recorded
    next result ended =>
      cases moved
      exact invariant.leave ended
    next outcome released =>
      cases moved
      exact invariant.record released
    next => cases moved

/-- In a run in which no wait times out before its handler ends, and no call comes while its key is
reserved, the handlers at work stay within the bound and every outcome returned is terminal. -/
theorem contained_of_run {dispatcher : InMemoryDispatcher ρ} (unused : dispatcher.inFlight = 0)
    (empty : ∀ key, dispatcher.outcomes key = none)
    (run : Reaches (Orderly calls) (step calls) (poolStart ι dispatcher) state) :
    Contained state := by
  have initial : PoolInvariant (poolStart ι dispatcher) := by
    refine ⟨⟨unused.symm, ?_, List.nodup_nil, List.nodup_nil, ?_⟩, ?_, fun _ _ _ => trivial⟩
    · exact unused.symm ▸ Nat.zero_le _
    · intro key outcome recorded
      cases (empty key).symm.trans recorded
    · exact fun i => ⟨by simp [poolStart, PoolPhase.holdsSlot], by simp [poolStart], nofun, nofun⟩
  have invariant := run.invariant PoolInvariant initial fun event before orderly kept =>
    kept.orderly orderly
  exact invariant.contained

end Invariant

section Once

variable {ι ρ : Type} {calls : ι → PoolCall ρ} {call : PoolCall ρ} {i : ι} {event : PoolEvent}
  {pool : Pool ι ρ} {own : PoolCallState} {state : Pooled ι ρ} {after : Pool ι ρ × PoolCallState}
  {dispatcher : InMemoryDispatcher ρ}

/-- The call has reserved its key. -/
def PoolCallState.Claims (own : PoolCallState) : Prop :=
  own.phase = .reserved ∨ own.future ≠ .unsubmitted

/-- A reserved key is in the ledger, and two calls do not reserve one key. -/
abbrev ClaimedOnce (calls : ι → PoolCall ρ) (state : Pooled ι ρ) : Prop :=
  state.Invariant (fun _ => True)
    (fun i pool own => own.Claims → (pool.dispatcher.outcomes (calls i).key).isSome)
    fun i j own other => (calls i).key = (calls j).key → own.Claims → ¬ other.Claims

theorem outcomes_of_admission (admitted : admission call dispatcher = .ok none) :
    dispatcher.outcomes call.key = none := by
  obtain ⟨-, -, admitted⟩ := Except.bind_eq_ok_iff.mp admitted
  split at admitted
  · cases admitted
  · assumption

theorem isSome_settle {key : String} (other : String) (outcome : ExecutionOutcome)
    (found : (dispatcher.outcomes key).isSome) :
    ((dispatcher.settle other outcome).outcomes key).isSome := by
  simp only [settle, Function.update_apply]
  split
  · rfl
  · exact found

variable [DecidableEq ι] [Runtime]

/-- A step keeps what the ledger has, and reserves a key only if the ledger does not have it. -/
theorem claims_of_advance (moved : advance i call event pool own = some after) :
    (∀ key, (pool.dispatcher.outcomes key).isSome → (after.1.dispatcher.outcomes key).isSome) ∧
      (after.2.Claims → own.Claims ∨ pool.dispatcher.outcomes call.key = none ∧
        (after.1.dispatcher.outcomes call.key).isSome) := by
  have later : ∀ phase, PoolCallState.Claims { own with phase } → phase ≠ .reserved → own.Claims :=
    fun _ claimed other => .inr (claimed.resolve_left other)
  unfold advance at moved
  split at moved
  next =>
    split at moved
    iterate 2
      next =>
        cases moved
        exact ⟨fun _ => id, fun claimed => .inl (later _ claimed (by rintro ⟨⟩))⟩
    next admitted =>
      cases moved
      refine ⟨fun _ => isSome_settle _ _, fun _ => .inr ⟨outcomes_of_admission admitted, ?_⟩⟩
      simp [reserve, settle]
  next reserved =>
    cases moved
    exact ⟨fun _ => id, fun _ => .inl (.inl reserved)⟩
  next submitted =>
    cases moved
    exact ⟨fun _ => id, fun _ => .inl (.inr (by simp [submitted]))⟩
  iterate 2
    next =>
      cases moved
      exact ⟨fun _ => id, fun claimed => .inl (later _ claimed (by rintro ⟨⟩))⟩
  next result _ =>
    cases moved
    exact ⟨fun _ => id, fun claimed => .inl (later _ claimed (by cases result <;> rintro ⟨⟩))⟩
  next =>
    cases moved
    exact ⟨fun _ => isSome_settle _ _, fun claimed => .inl (later _ claimed (by rintro ⟨⟩))⟩
  next => cases moved

theorem ClaimedOnce.step (once : ClaimedOnce calls state) (event : ι × PoolEvent) :
    ClaimedOnce calls (step calls event state) := by
  unfold InMemoryDispatcher.step
  cases moved : advance event.1 (calls event.1) event.2 state.shared (state.phases event.1) with
  | none => exact once
  | some after =>
    obtain ⟨kept, claims⟩ := claims_of_advance moved
    refine once.move (fun _ _ _ _ apart same mine theirs => apart same.symm theirs mine) trivial
      (fun claimed => ?_) (fun j _ claimed => kept _ (once.own j claimed))
      fun j other same claimed theirs => ?_
    · rcases claims claimed with before | ⟨-, found⟩
      · exact kept _ (once.own _ before)
      · exact found
    · rcases claims claimed with before | ⟨missing, -⟩
      · exact once.apart _ j other.symm same before theirs
      · have found := once.own j theirs
        rw [← same, missing] at found
        cases found

/-- In every interleaving, timeouts and repeated keys included, handlers are submitted at most once
under an idempotency key. -/
theorem submitted_at_most_once (calls : ι → PoolCall ρ) (dispatcher : InMemoryDispatcher ρ)
    (events : List (ι × PoolEvent)) : Set.InjOn (fun i => (calls i).key)
      {i | ((runAll (step calls) events (poolStart ι dispatcher)).phases i).future ≠
        .unsubmitted} := by
  have unclaimed : ¬ ({} : PoolCallState).Claims := by simp [PoolCallState.Claims]
  have initial : ClaimedOnce calls (poolStart ι dispatcher) :=
    ⟨trivial, fun _ claimed => absurd claimed unclaimed, fun _ _ _ _ claimed =>
      absurd claimed unclaimed⟩
  have once := runAll_invariant _ initial fun event (_ : event ∈ events) _ kept => kept.step event
  intro i first j second same
  by_contra differs
  exact once.apart i j differs same (.inr first) (.inr second)

end Once

def oneSlot : InMemoryDispatcher Unit where
  handlers := fun _ => some fun _ _ => .returned .none "None"
  maxInFlight := 1

def keyedCall (key : Identifier) : PoolCall Unit where
  action := { sampleAction Sample.read .reversible none with idempotencyKey := key }
  receipt := sampleReceipt Sample.decision Sample.segment
  timeoutS := 30
  now := 0
  outer := ()

def twoKeys (second : Bool) : PoolCall Unit :=
  keyedCall (if second then ⟨"key-2", by decide⟩ else ⟨"key-1", by decide⟩)

def oneKey (_ : Bool) : PoolCall Unit := keyedCall Sample.key

/-- The first call times out and gives its slot to the second one while its handler runs on. -/
def overtaken : List (Bool × PoolEvent) :=
  [(false, .reserve), (false, .submit), (false, .expire), (false, .leave), (true, .reserve),
    (true, .submit)]

def twoSlots : InMemoryDispatcher Unit := { oneSlot with maxInFlight := 2 }

/-- Two calls share the pool, and the handler of the second ends first. -/
def bothReturn : List (Bool × PoolEvent) :=
  [(false, .reserve), (false, .submit), (true, .reserve), (true, .submit),
    (true, .finish (.returned .none "None")), (false, .finish (.returned .none "None")),
    (true, .wake), (true, .leave), (false, .wake), (true, .record), (false, .leave),
    (false, .record)]

attribute [local instance] plainRuntime

theorem contained_of_run_bothReturn :
    let state := runAll (step twoKeys) bothReturn (poolStart Bool twoSlots)
    Contained state ∧ ∀ second, (state.phases second).phase.outcome.map ExecutionOutcome.status =
      some .executed := by
  have free : ((runAll (step twoKeys) (bothReturn.take 2)
      (poolStart Bool twoSlots)).shared.dispatcher.outcomes (twoKeys true).key).isNone = true := by
    decide +kernel
  have permits : Permits (Orderly twoKeys) (step twoKeys) bothReturn (poolStart Bool twoSlots) := by
    refine ⟨nofun, trivial, fun reserved => ?_, trivial, trivial, trivial, trivial, trivial,
      trivial, trivial, trivial, trivial, trivial⟩
    cases (congrArg Option.isNone reserved).symm.trans free
  exact ⟨contained_of_run rfl (fun _ => rfl) permits.reaches, by decide +kernel⟩

/-- With one slot, two handlers are at work; and a duplicate is told that its effect awaits an
approval. -/
theorem slot_reused_and_reservation_returned :
    ¬ Contained (runAll (step twoKeys) overtaken (poolStart Bool oneSlot)) ∧
      ¬ Contained (runAll (step oneKey) [(false, .reserve), (true, .reserve)]
        (poolStart Bool oneSlot)) := by
  constructor
  · intro contained
    have atWork : (runAll (step twoKeys) overtaken
        (poolStart Bool oneSlot)).shared.unfinished.length = 2 := by decide +kernel
    have bound : (runAll (step twoKeys) overtaken
        (poolStart Bool oneSlot)).shared.dispatcher.maxInFlight = 1 := by decide +kernel
    have bounded := contained.bounded
    omega
  · intro contained
    cases contained.terminal true pending rfl

end InMemoryDispatcher

end GlassBox
