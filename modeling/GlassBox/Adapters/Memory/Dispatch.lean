import GlassBox.Adapters.Dispatch
import GlassBox.Ports.Governance

/-!
# The in-memory dispatcher

`adapters/outbound/memory/dispatch.py`.  A key which is in the ledger is answered from it, whatever
the action.  The calls of one service come one after another.
-/

namespace GlassBox

open EStateM

/-- `InMemoryDispatcher`.  What a handler does, and whether a receipt was issued, is a matter of an
outer world of type `ρ`. -/
structure InMemoryDispatcher (ρ : Type) where
  handlers : String → Option (ProposedAction → ρ → HandlerEnd) := fun _ => none
  outcomes : String → Option ExecutionOutcome := fun _ => none
  receiptCheck : Option (EvidenceReceipt → ρ → Bool) := none
  requireReceipt : Bool := true
  maxInFlight : Nat := 8
  inFlight : Nat := 0
  /-- The actions handlers were given, and how each ended; nothing reads this. -/
  runs : List (ProposedAction × HandlerEnd) := []

structure Dispatching (ρ : Type) where
  outer : ρ
  dispatcher : InMemoryDispatcher ρ

namespace InMemoryDispatcher

variable {ρ : Type} {dispatcher : InMemoryDispatcher ρ}

def pending : ExecutionOutcome where
  status := .pendingApproval
  completedAt := Timestamp.epoch
  failure_named := nofun

def settle (key : String) (outcome : ExecutionOutcome) (dispatcher : InMemoryDispatcher ρ) :
    InMemoryDispatcher ρ :=
  { dispatcher with outcomes := Function.update dispatcher.outcomes key (some outcome) }

def ran (action : ProposedAction) (ending : HandlerEnd) (dispatcher : InMemoryDispatcher ρ) :
    InMemoryDispatcher ρ :=
  { dispatcher with runs := dispatcher.runs ++ [(action, ending)] }

def update (change : InMemoryDispatcher ρ → InMemoryDispatcher ρ) :
    EStateM PyError (Dispatching ρ) Unit :=
  modify fun state => { state with dispatcher := change state.dispatcher }

/-- A handler was given the action and ended before the wait for it did. -/
def Performs (dispatcher : InMemoryDispatcher ρ) (action : ProposedAction) : Prop :=
  ∃ ending, ending ≠ .timedOut ∧ (action, ending) ∈ dispatcher.runs

/-- Behind every effect the ledger reports as executed, a handler performed an action under its
key. -/
def Answered (dispatcher : InMemoryDispatcher ρ) : Prop :=
  ∀ key outcome, dispatcher.outcomes key = some outcome → outcome.status = .executed →
    ∃ action, action.idempotencyKey.val = key ∧ dispatcher.Performs action

theorem Performs.ran {action : ProposedAction} (performs : dispatcher.Performs action)
    (other : ProposedAction) (ending : HandlerEnd) :
    (dispatcher.ran other ending).Performs action := by
  obtain ⟨earlier, ended, member⟩ := performs
  exact ⟨earlier, ended, List.mem_append_left _ member⟩

theorem Answered.ran (answered : dispatcher.Answered) (action : ProposedAction)
    (ending : HandlerEnd) : (dispatcher.ran action ending).Answered := by
  intro key outcome recorded executed
  obtain ⟨earlier, same, performs⟩ := answered key outcome recorded executed
  exact ⟨earlier, same, performs.ran action ending⟩

theorem Answered.settle (answered : dispatcher.Answered) {key : String} {outcome : ExecutionOutcome}
    (performed : outcome.status = .executed →
      ∃ action, action.idempotencyKey.val = key ∧ dispatcher.Performs action) :
    (dispatcher.settle key outcome).Answered := by
  intro other kept recorded executed
  simp only [InMemoryDispatcher.settle, Function.update_apply] at recorded
  split at recorded
  next same =>
    cases recorded
    exact same ▸ performed executed
  next => exact answered other kept recorded executed

variable [Runtime] {before : Dispatching ρ}

/-- The part of `dispatch` behind the lock: the key is reserved, the handler is run, and its outcome
takes the place of the reservation. -/
def execute (handler : ProposedAction → ρ → HandlerEnd) (action : ProposedAction)
    (timeoutS now : ℚ) : EStateM PyError (Dispatching ρ) ExecutionOutcome := do
  update (settle action.idempotencyKey.val pending)
  let ending := handler action (← get).outer
  update (ran action ending)
  let outcome ← ofExcept (outcomeOf ending timeoutS now)
  update (settle action.idempotencyKey.val outcome)
  return outcome

/-- A known key is answered from the ledger. -/
def dispatch (action : ProposedAction) (receipt : EvidenceReceipt) (timeoutS now : ℚ) :
    EStateM PyError (Dispatching ρ) ExecutionOutcome := do
  let ⟨outer, dispatcher⟩ ← get
  ofExcept (requireValidReceipt dispatcher.requireReceipt
    (dispatcher.receiptCheck.map fun check => check receipt outer) action receipt)
  match dispatcher.outcomes action.idempotencyKey.val with
  | some recorded => return recorded
  | none =>
    match dispatcher.handlers action.action.val with
    | none => throw (noHandler action receipt)
    | some handler =>
      if dispatcher.maxInFlight ≤ dispatcher.inFlight then
        throw (atInFlightBound action dispatcher.inFlight dispatcher.maxInFlight)
      else execute handler action timeoutS now

/-- What a call of the dispatcher leaves behind: an answered ledger, and, if it reports an effect,
an action which was performed under the key, by this call or before. -/
def Reports (action : ProposedAction) (before : Dispatching ρ) (outcome : ExecutionOutcome)
    (after : Dispatching ρ) : Prop :=
  after.dispatcher.Answered ∧ (outcome.status = .executed →
    ∃ performed, performed.idempotencyKey = action.idempotencyKey ∧
      after.dispatcher.Performs performed ∧
      (performed = action ∨ before.dispatcher.Performs performed))

theorem ends_execute (handler : ProposedAction → ρ → HandlerEnd) (action : ProposedAction)
    (timeoutS now : ℚ) (answered : before.dispatcher.Answered) :
    (execute handler action timeoutS now).Ends before (Reports action before)
      (fun _ after => after.dispatcher.Answered) := by
  have kept : ((before.dispatcher.settle action.idempotencyKey.val pending).ran action
      (handler action before.outer)).Answered :=
    (answered.settle (by simp [pending])).ran action (handler action before.outer)
  simp only [execute, update, ends_bind, ends_modify, ends_get]
  cases ended : outcomeOf (handler action before.outer) timeoutS now with
  | error error => exact kept
  | ok outcome =>
    have performed : outcome.status = .executed →
        ((before.dispatcher.settle action.idempotencyKey.val pending).ran action
          (handler action before.outer)).Performs action := by
      intro executed
      obtain ⟨result, text, returned⟩ := returned_of_executed ended executed
      exact ⟨handler action before.outer, by simp [returned], by simp [InMemoryDispatcher.ran]⟩
    exact ⟨kept.settle fun executed => ⟨action, rfl, performed executed⟩,
      fun executed => ⟨action, rfl, performed executed, .inl rfl⟩⟩

theorem ends_dispatch (action : ProposedAction) (receipt : EvidenceReceipt) (timeoutS now : ℚ)
    (answered : before.dispatcher.Answered) :
    (dispatch action receipt timeoutS now).Ends before (Reports action before)
      (fun _ after => after.dispatcher.Answered) := by
  simp only [dispatch, ends_bind, ends_get, ends_ofExcept]
  split
  next =>
    cases recorded : before.dispatcher.outcomes action.idempotencyKey.val with
    | some outcome =>
      refine ⟨answered, fun executed => ?_⟩
      obtain ⟨performed, same, performs⟩ := answered _ outcome recorded executed
      exact ⟨performed, Subtype.ext same, performs, .inr performs⟩
    | none =>
      cases before.dispatcher.handlers action.action.val with
      | none => exact answered
      | some handler =>
        dsimp only
        split
        next => exact answered
        next => exact ends_execute handler action timeoutS now answered
  next => exact answered

end InMemoryDispatcher

end GlassBox
