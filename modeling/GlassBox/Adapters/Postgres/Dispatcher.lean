import GlassBox.Adapters.Dispatch
import GlassBox.Foundation.Interleaving

/-!
# The ledger of dispatches

`adapters/outbound/postgres/dispatcher.py` and the table `dispatch_ledger` of
`adapters/outbound/postgres/schema.py`.  A key is claimed by the insertion of a row.  The replicas
share the ledger only; every transaction may fail before or after it took effect, a replica may
crash, and a handler may outlive the call which submitted it.
-/

namespace GlassBox

namespace PostgresDispatcher

/-- The `status` column; its check admits nothing else. -/
inductive LedgerStatus
  | claimed
  | executed
  | failed
  | indeterminate
  deriving DecidableEq

/-- The status written for an outcome, if the check of the column admits it. -/
def LedgerStatus.ofExecution : ExecutionStatus → Option LedgerStatus
  | .executed => some .executed
  | .failed => some .failed
  | .indeterminate => some .indeterminate
  | _ => none

/-- `ExecutionStatus(status)` of a status in `_TERMINAL_STATUSES`. -/
def LedgerStatus.terminal : LedgerStatus → Option ExecutionStatus
  | .claimed => none
  | .executed => some .executed
  | .failed => some .failed
  | .indeterminate => some .indeterminate

/-- A row of `dispatch_ledger`, without the time of the claim, which no statement reads. -/
structure LedgerRow where
  decisionId : Identifier
  action : Identifier
  /-- Null in rows older than the column. -/
  tenantId : Option Identifier
  status : LedgerStatus := .claimed
  completedAt : Option ℚ := none
  resultDigest : Option Sha256Hex := none
  errorClass : Option Text := none

/-- The rows by their primary key. -/
abbrev Ledger := String → Option LedgerRow

/-- What two outcomes of one key have to agree on. -/
structure Verdict where
  status : ExecutionStatus
  resultDigest : Option Sha256Hex
  errorClass : Option Text
  deriving DecidableEq

/-- The part of an outcome which does not depend on the time of its call. -/
def verdictOf (outcome : ExecutionOutcome) : Verdict :=
  ⟨outcome.status, outcome.resultDigest, outcome.errorClass⟩

def LedgerRow.verdict (row : LedgerRow) : Option Verdict :=
  row.status.terminal.map fun status => ⟨status, row.resultDigest, row.errorClass⟩

/-- `ExecutionOutcome(…)` of a row with a terminal status. -/
def LedgerRow.outcome (row : LedgerRow) (now : ℚ) : Option (Except PyError ExecutionOutcome) :=
  row.status.terminal.map fun status => do
    let completedAt ← requireTimestamp (row.completedAt.getD now) "completed_at"
    if named : status = .failed → row.errorClass.isSome then
      .ok {
        status := status
        completedAt := completedAt
        resultDigest := row.resultDigest
        errorClass := row.errorClass
        failure_named := named }
    else .error (.validation "a failed outcome must record its error class" "error_class")

theorem LedgerRow.verdict_of_outcome {row : LedgerRow} {now : ℚ} {outcome : ExecutionOutcome}
    (read : row.outcome now = some (.ok outcome)) : row.verdict = some (verdictOf outcome) := by
  obtain ⟨status, terminal, made⟩ := Option.map_eq_some_iff.mp read
  obtain ⟨completedAt, -, made⟩ := Except.bind_eq_ok_iff.mp made
  split at made
  next =>
    cases made
    simp [LedgerRow.verdict, terminal, verdictOf]
  next => cases made

section Statements

/-- `_CLAIM`: whether a row was inserted.  The conflict is with a row of any tenant. -/
def claim (action : ProposedAction) (receipt : EvidenceReceipt) (ledger : Ledger) :
    Bool × Ledger :=
  match ledger action.idempotencyKey.val with
  | some _ => (false, ledger)
  | none => (true, Function.update ledger action.idempotencyKey.val (some {
      decisionId := receipt.decisionId
      action := action.action
      tenantId := some action.tenantId }))

variable (rowSecurity : Bool)

/-- The row of a key, as a transaction of the tenant sees it. -/
def select (key : String) (tenantId : Identifier) (ledger : Ledger) : Option LedgerRow :=
  (ledger key).filter fun row => !rowSecurity || row.tenantId = some tenantId

/-- `_COMPLETE`: the row, if it is visible, takes the outcome. -/
def complete (key : String) (outcome : ExecutionOutcome) (tenantId : Identifier)
    (ledger : Ledger) : Except PyError Ledger :=
  match select rowSecurity key tenantId ledger with
  | none => .ok ledger
  | some row =>
    match LedgerStatus.ofExecution outcome.status with
    | none => .error { cls := .other "CheckViolation", message := "dispatch_ledger_status_valid" }
    | some status => .ok (Function.update ledger key (some { row with
        status := status
        completedAt := some outcome.completedAt.val
        resultDigest := outcome.resultDigest
        errorClass := outcome.errorClass }))

end Statements

structure DispatchCall (ℛ : Type) where
  replica : ℛ
  action : ProposedAction
  receipt : EvidenceReceipt
  timeoutS : ℚ
  now : ℚ

def DispatchCall.key {ℛ : Type} (call : DispatchCall ℛ) : String :=
  call.action.idempotencyKey.val

/-- What a replica is wired with when a call enters. -/
structure Wiring where
  handles : String → Bool
  receiptCheck : Option (EvidenceReceipt → Bool) := none
  requireReceipt : Bool := true
  maxInFlight : Nat := 8

/-- The checks before a claim: the receipt, the handler and the in-flight bound. -/
def admission {ℛ : Type} (wiring : Wiring) (call : DispatchCall ℛ) (inFlight : Nat) :
    Except PyError Unit := do
  requireValidReceipt wiring.requireReceipt
    (wiring.receiptCheck.map fun check => check call.receipt) call.action call.receipt
  if wiring.handles call.action.action.val then
    if wiring.maxInFlight ≤ inFlight then
      .error (atInFlightBound call.action inFlight wiring.maxInFlight)
    else .ok ()
  else .error (noHandler call.action call.receipt)

/-- How a transaction ends. -/
inductive Fate
  | committed
  /-- It failed and took no effect. -/
  | lost (error : PyError)
  /-- It failed after it took effect. -/
  | unacknowledged (error : PyError)

/-- The errors which `except DriverUnavailableError` takes. -/
def isDriverUnavailable (error : PyError) : Bool := error.cls = .other "DriverUnavailableError"

/-- What `_claim` raises for a failed transaction. -/
def claimFailure (error : PyError) : PyError :=
  if isDriverUnavailable error then error
  else {
    cls := .other "DriverUnavailableError"
    message := "could not claim the dispatch ledger"
    context := [("cause", .str error.cls.name), ("detail", .str error.message)] }

/-- The answer to a call which waited for another one in vain. -/
def claimPending (timeoutS now : ℚ) : Except PyError ExecutionOutcome := do
  let completedAt ← requireTimestamp (now + timeoutS) "completed_at"
  return .ofTimeout ⟨"DispatchClaimPending", by decide⟩ completedAt

/-- What happens during a call while no other one is in flight. -/
structure Conduct where
  wiring : Wiring
  claimFate : Fate := .committed
  /-- How the wait for the handler ends. -/
  ending : HandlerEnd
  completeFate : Fate := .committed
  /-- The turns of the loop which polls the row before the deadline, in which the row is read or
  cannot be read. -/
  turns : List (Except PyError Unit) := []

structure Dispatched where
  ledger : Ledger
  started : List ProposedAction := []

section Program

variable {α ℛ : Type}

/-- `with self._provider.transaction()`. -/
def transaction (fate : Fate) (statements : Ledger → Except PyError (α × Ledger)) :
    EStateM PyError Dispatched α := do
  let (answer, ledger) ← ofExcept (statements (← get).ledger)
  match fate with
  | .committed =>
    modify fun state => { state with ledger }
    return answer
  | .lost error => throw error
  | .unacknowledged error =>
    modify fun state => { state with ledger }
    throw error

/-- `_claim`. -/
def claimKey (call : DispatchCall ℛ) (fate : Fate) : EStateM PyError Dispatched Bool :=
  tryCatch (transaction fate fun ledger => .ok (claim call.action call.receipt ledger))
    fun error => throw (claimFailure error)

/-- `_complete`. -/
def completeKey (rowSecurity : Bool) (call : DispatchCall ℛ) (fate : Fate)
    (outcome : ExecutionOutcome) : EStateM PyError Dispatched Unit :=
  tryCatch
    (transaction fate fun ledger =>
      (complete rowSecurity call.key outcome call.action.tenantId ledger).map ((), ·))
    fun error => if isDriverUnavailable error then pure () else throw error

def readOutcome (rowSecurity : Bool) (call : DispatchCall ℛ) (ledger : Ledger) :
    Option (Except PyError ExecutionOutcome) :=
  (select rowSecurity call.key call.action.tenantId ledger).bind (LedgerRow.outcome · call.now)

/-- `_await_existing`; the row is read once more after the deadline. -/
def awaitExisting (rowSecurity : Bool) (call : DispatchCall ℛ) :
    List (Except PyError Unit) → EStateM PyError Dispatched ExecutionOutcome
  | [] => do
    match readOutcome rowSecurity call (← get).ledger with
    | some result => ofExcept result
    | none => ofExcept (claimPending call.timeoutS call.now)
  | turn :: turns => do
    ofExcept turn
    match readOutcome rowSecurity call (← get).ledger with
    | some result => ofExcept result
    | none => awaitExisting rowSecurity call turns

/-- `self._pool.submit(handler, action)`. -/
def submit (action : ProposedAction) : EStateM PyError Dispatched Unit :=
  modify fun state => { state with started := state.started ++ [action] }

/-- A call while no other is at work. -/
def dispatch [Runtime] (rowSecurity : Bool) (call : DispatchCall ℛ) (conduct : Conduct) :
    EStateM PyError Dispatched ExecutionOutcome := do
  ofExcept (admission conduct.wiring call 0)
  if ← claimKey call conduct.claimFate then
    submit call.action
    let outcome ← ofExcept (outcomeOf conduct.ending call.timeoutS call.now)
    completeKey rowSecurity call conduct.completeFate outcome
    return outcome
  else awaitExisting rowSecurity call conduct.turns

end Program

inductive Phase
  | ready
  /-- It holds an in-flight slot. -/
  | admitted
  /-- It inserted the row of its key. -/
  | claimed
  /-- It waits for the handler it submitted. -/
  | submitted
  /-- It knows its outcome and has yet to write it to the ledger. -/
  | completing (outcome : ExecutionOutcome)
  /-- It polls the row of another call. -/
  | waiting
  | returned (outcome : ExecutionOutcome)
  | raised (error : PyError)
  | crashed

/-- The handler of a call in the worker pool. -/
inductive Worker
  | idle
  | queued
  | running
  | ended (ending : HandlerEnd)
  | gone

structure CallState where
  phase : Phase := .ready
  worker : Worker := .idle

/-- What the calls share: the ledger, the slots of each replica and the order in which handlers
were started.  No call reads who inserted the row of a key or what was decided for it. -/
structure Shared (ι ℛ : Type) where
  ledger : Ledger
  inFlight : ℛ → Nat
  starts : List ι
  claimant : String → Option ι
  verdict : String → Option Verdict

inductive CallEvent
  /-- It is checked against the wiring of its replica. -/
  | enter (wiring : Wiring)
  | claim (fate : Fate)
  | submit
  /-- The pool takes no more work. -/
  | submitFails (error : PyError)
  /-- A worker takes its handler from the queue. -/
  | start
  | finish (ending : HandlerEnd)
  /-- The wait for the handler ends with the handler. -/
  | collect
  /-- The wait for the handler ends without it. -/
  | timeout
  | complete (fate : Fate)
  /-- The row is read, before or after the deadline. -/
  | poll (expired : Bool)
  /-- The row cannot be read. -/
  | pollFails (error : PyError)

section Machine

variable {ι ℛ : Type} [DecidableEq ℛ]

def Shared.leave (shared : Shared ι ℛ) (replica : ℛ) : Shared ι ℛ :=
  { shared with
    inFlight := Function.update shared.inFlight replica (shared.inFlight replica - 1) }

def Shared.enrol (shared : Shared ι ℛ) (replica : ℛ) : Shared ι ℛ :=
  { shared with
    inFlight := Function.update shared.inFlight replica (shared.inFlight replica + 1) }

def Shared.exits (shared : Shared ι ℛ) (call : DispatchCall ℛ) (worker : Worker)
    (phase : Phase) : Shared ι ℛ × CallState :=
  (shared.leave call.replica, ⟨phase, worker⟩)

/-- Receipt, handler and in-flight bound. -/
def enter (call : DispatchCall ℛ) (wiring : Wiring) (shared : Shared ι ℛ) (worker : Worker) :
    Shared ι ℛ × CallState :=
  match admission wiring call (shared.inFlight call.replica) with
  | .ok () => (shared.enrol call.replica, ⟨.admitted, worker⟩)
  | .error error => (shared, ⟨.raised error, worker⟩)

/-- `_claim`. -/
def claims (i : ι) (call : DispatchCall ℛ) (fate : Fate) (shared : Shared ι ℛ)
    (worker : Worker) : Shared ι ℛ × CallState :=
  let (inserted, ledger) := claim call.action call.receipt shared.ledger
  match fate with
  | .committed =>
    if inserted then
      ({ shared with
        ledger := ledger
        claimant := Function.update shared.claimant call.key (some i) }, ⟨.claimed, worker⟩)
    else (shared, ⟨.waiting, worker⟩)
  | .lost error => shared.exits call worker (.raised (claimFailure error))
  | .unacknowledged error => { shared with ledger }.exits call worker (.raised (claimFailure error))

/-- The outcome of the handler is known, or cannot be written down. -/
def decides [Runtime] (call : DispatchCall ℛ) (ending : HandlerEnd) (shared : Shared ι ℛ)
    (worker : Worker) : Shared ι ℛ × CallState :=
  match outcomeOf ending call.timeoutS call.now with
  | .ok outcome =>
    ({ shared with
      verdict := Function.update shared.verdict call.key (some (verdictOf outcome)) },
      ⟨.completing outcome, worker⟩)
  | .error error => shared.exits call worker (.raised error)

/-- `_complete` swallows the failure of the driver and no other. -/
def completed (outcome : ExecutionOutcome) (error : PyError) : Phase :=
  if isDriverUnavailable error then .returned outcome else .raised error

/-- `_complete`. -/
def completes (rowSecurity : Bool) (call : DispatchCall ℛ) (fate : Fate)
    (outcome : ExecutionOutcome) (shared : Shared ι ℛ) (worker : Worker) :
    Shared ι ℛ × CallState :=
  match complete rowSecurity call.key outcome call.action.tenantId shared.ledger, fate with
  | .ok ledger, .committed => { shared with ledger }.exits call worker (.returned outcome)
  | .ok ledger, .unacknowledged error =>
    { shared with ledger }.exits call worker (completed outcome error)
  | .ok _, .lost error => shared.exits call worker (completed outcome error)
  | .error error, _ => shared.exits call worker (completed outcome error)

/-- One turn of `_await_existing`. -/
def polls (rowSecurity : Bool) (call : DispatchCall ℛ) (expired : Bool) (shared : Shared ι ℛ)
    (worker : Worker) : Shared ι ℛ × CallState :=
  match readOutcome rowSecurity call shared.ledger with
  | some (.ok outcome) => shared.exits call worker (.returned outcome)
  | some (.error error) => shared.exits call worker (.raised error)
  | none =>
    if expired then
      match claimPending call.timeoutS call.now with
      | .ok outcome => shared.exits call worker (.returned outcome)
      | .error error => shared.exits call worker (.raised error)
    else (shared, ⟨.waiting, worker⟩)

/-- What an event does to a call, if the call is at a point where it can happen. -/
def advance [Runtime] (rowSecurity : Bool) (i : ι) (call : DispatchCall ℛ) (event : CallEvent)
    (shared : Shared ι ℛ) (mine : CallState) : Option (Shared ι ℛ × CallState) :=
  match event, mine with
  | .enter wiring, ⟨.ready, worker⟩ => some (enter call wiring shared worker)
  | .claim fate, ⟨.admitted, worker⟩ => some (claims i call fate shared worker)
  | .submit, ⟨.claimed, _⟩ => some (shared, ⟨.submitted, .queued⟩)
  | .submitFails error, ⟨.claimed, worker⟩ => some (shared.exits call worker (.raised error))
  | .start, ⟨phase, .queued⟩ =>
    some ({ shared with starts := shared.starts ++ [i] }, ⟨phase, .running⟩)
  | .finish ending, ⟨phase, .running⟩ => some (shared, ⟨phase, .ended ending⟩)
  | .collect, ⟨.submitted, .ended ending⟩ => some (decides call ending shared (.ended ending))
  | .timeout, ⟨.submitted, worker⟩ => some (decides call .timedOut shared worker)
  | .complete fate, ⟨.completing outcome, worker⟩ =>
    some (completes rowSecurity call fate outcome shared worker)
  | .poll expired, ⟨.waiting, worker⟩ => some (polls rowSecurity call expired shared worker)
  | .pollFails error, ⟨.waiting, worker⟩ => some (shared.exits call worker (.raised error))
  | _, _ => none

def CallState.crash (mine : CallState) : CallState where
  phase := match mine.phase with
    | .ready => .ready
    | .returned outcome => .returned outcome
    | .raised error => .raised error
    | _ => .crashed
  worker := match mine.worker with
    | .idle => .idle
    | .ended ending => .ended ending
    | _ => .gone

inductive SystemEvent (ι ℛ : Type)
  | call (i : ι) (event : CallEvent)
  | crash (replica : ℛ)

/-- Calls over the ledger. -/
abbrev Dispatches (ι ℛ : Type) := Interleaved ι (Shared ι ℛ) CallState

/-- One thing happens; an event which cannot happen is none. -/
def step [Runtime] [DecidableEq ι] (rowSecurity : Bool) (calls : ι → DispatchCall ℛ)
    (event : SystemEvent ι ℛ) (state : Dispatches ι ℛ) : Dispatches ι ℛ :=
  match event with
  | .call i event =>
    match advance rowSecurity i (calls i) event state.shared (state.phases i) with
    | some (shared, mine) => state.move i shared mine
    | none => state
  | .crash replica =>
    { shared := { state.shared with
        inFlight := Function.update state.shared.inFlight replica 0 }
      phases := fun i =>
        if (calls i).replica = replica then (state.phases i).crash else state.phases i }

def start (ι : Type) {ℛ : Type} (ledger : Ledger) : Dispatches ι ℛ where
  shared := {
    ledger := ledger
    inFlight := fun _ => 0
    starts := []
    claimant := fun _ => none
    verdict := fun key => (ledger key).bind LedgerRow.verdict }
  phases := fun _ => {}

end Machine

end PostgresDispatcher

end GlassBox
