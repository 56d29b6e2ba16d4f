import GlassBox.Adapters.Postgres.Dispatcher
import GlassBox.Domain.Sample
import GlassBox.Foundation.Coupling
import GlassBox.Foundation.Runs

/-!
# Dispatches of several tenants

Calls of `dispatch` on one ledger.  A call reads and writes the row of its own key only, but the
primary key does not know tenants while row-level security does: a call which conflicts with the
row of another tenant neither runs its handler nor sees the outcome.
-/

namespace GlassBox

open EStateM

namespace PostgresDispatcher

/-- One call and what happens during it. -/
structure Episode where
  call : DispatchCall Unit
  conduct : Conduct

def Episode.tenantId (episode : Episode) : Identifier := episode.call.action.tenantId

def ofTenant (tenantId : Identifier) (actions : List ProposedAction) : List ProposedAction :=
  actions.filter (·.tenantId = tenantId)

/-- Two states which a tenant with these keys cannot tell apart. -/
structure Alike (tenantId : Identifier) (keys : Set String) (left right : Dispatched) : Prop where
  ledger : Set.EqOn left.ledger right.ledger keys
  started : ofTenant tenantId left.started = ofTenant tenantId right.started

section Alike

variable {tenantId : Identifier} {keys : Set String} {α : Type}
  {statements : Ledger → Except PyError (α × Ledger)} {action : ProposedAction} {key : String}

theorem Alike.refl (state : Dispatched) : Alike tenantId keys state state :=
  ⟨Set.eqOn_refl _ _, rfl⟩

theorem Alike.symm {left right : Dispatched} (alike : Alike tenantId keys left right) :
    Alike tenantId keys right left := ⟨alike.ledger.symm, alike.started.symm⟩

theorem Alike.trans {first second third : Dispatched} (front : Alike tenantId keys first second)
    (back : Alike tenantId keys second third) : Alike tenantId keys first third :=
  ⟨front.ledger.trans back.ledger, front.started.trans back.started⟩

/-- A transaction which writes under a key of nobody else. -/
theorem within_transaction (fate : Fate)
    (frame : ∀ ledger answer ledger', statements ledger = .ok (answer, ledger') →
      Set.EqOn ledger ledger' keys) :
    (transaction fate statements).Within (Alike tenantId keys) := by
  rw [within_iff_ends]
  intro before
  simp only [transaction, ends_bind, ends_get]
  cases wrote : statements before.ledger with
  | error error => exact .refl before
  | ok written =>
    have alike : Alike tenantId keys before { before with ledger := written.2 } :=
      ⟨frame before.ledger written.1 written.2 wrote, rfl⟩
    cases fate with
    | committed => simpa using alike
    | lost error => exact .refl before
    | unacknowledged error => simpa using alike

theorem eqOn_claim {receipt : EvidenceReceipt} (foreign : action.idempotencyKey.val ∉ keys)
    (ledger : Ledger) :
    Set.EqOn ledger (claim action receipt ledger).2 keys := by
  intro key member
  have different : key ≠ action.idempotencyKey.val := by
    rintro rfl
    exact foreign member
  unfold claim
  split
  next => rfl
  next => exact (Function.update_of_ne different ..).symm

theorem eqOn_complete {rowSecurity : Bool} {outcome : ExecutionOutcome} {ledger ledger' : Ledger}
    (foreign : key ∉ keys)
    (wrote : complete rowSecurity key outcome tenantId ledger = .ok ledger') :
    Set.EqOn ledger ledger' keys := by
  intro other member
  have different : other ≠ key := by
    rintro rfl
    exact foreign member
  unfold complete at wrote
  split at wrote
  next =>
    cases wrote
    rfl
  next =>
    split at wrote
    next => cases wrote
    next =>
      cases wrote
      exact (Function.update_of_ne different ..).symm

theorem within_ofExcept (result : Except PyError α) :
    (ofExcept result : EStateM PyError Dispatched α).Within (Alike tenantId keys) := by
  cases result with
  | ok value => exact within_pure .refl value
  | error error => exact within_throw .refl error

theorem within_bind {β : Type} {program : EStateM PyError Dispatched β}
    {next : β → EStateM PyError Dispatched α} (front : program.Within (Alike tenantId keys))
    (back : ∀ value, (next value).Within (Alike tenantId keys)) :
    (program >>= next).Within (Alike tenantId keys) :=
  @EStateM.Within.bind _ _ _ _ (Alike tenantId keys) Alike.trans _ _ front back

theorem within_tryCatch {program : EStateM PyError Dispatched α}
    {handler : PyError → EStateM PyError Dispatched α}
    (front : program.Within (Alike tenantId keys))
    (back : ∀ error, (handler error).Within (Alike tenantId keys)) :
    (tryCatch program handler).Within (Alike tenantId keys) :=
  @EStateM.Within.tryCatch _ _ _ (Alike tenantId keys) Alike.trans _ _ front back

theorem within_submit (other : action.tenantId ≠ tenantId) :
    (submit action).Within (Alike tenantId keys) := by
  rw [within_iff_ends]
  intro before
  rw [submit, ends_modify]
  exact ⟨Set.eqOn_refl _ _, by simp [ofTenant, other]⟩

theorem within_awaitExisting (rowSecurity : Bool) (call : DispatchCall Unit)
    (turns : List (Except PyError Unit)) :
    (awaitExisting rowSecurity call turns).Within (Alike tenantId keys) := by
  have read : (get : EStateM PyError Dispatched Dispatched).Within (Alike tenantId keys) :=
    fun state => .refl state
  induction turns with
  | nil =>
    refine within_bind read fun state => ?_
    split
    next result _ => exact within_ofExcept result
    next => exact within_ofExcept _
  | cons turn turns ih =>
    refine within_bind (within_ofExcept turn) fun _ => within_bind read fun state => ?_
    split
    next result _ => exact within_ofExcept result
    next => exact ih

variable [Runtime] {call : DispatchCall Unit}

/-- A call of another tenant under a key of nobody else leaves the tenant alone. -/
theorem within_dispatch (rowSecurity : Bool) (conduct : Conduct)
    (other : call.action.tenantId ≠ tenantId) (foreign : call.key ∉ keys) :
    (dispatch rowSecurity call conduct).Within (Alike tenantId keys) := by
  refine within_bind (within_ofExcept _) fun _ => within_bind ?_ fun inserted => ?_
  · refine within_tryCatch (within_transaction _ ?_) fun error => within_throw .refl _
    intro ledger answer ledger' wrote
    have written : (claim call.action call.receipt ledger).2 = ledger' :=
      congrArg Prod.snd (Except.ok.inj wrote)
    exact written ▸ eqOn_claim foreign ledger
  · split
    next =>
      refine within_bind (within_submit other) fun _ => within_bind (within_ofExcept _)
        fun outcome => within_bind ?_ fun _ => within_pure .refl _
      refine within_tryCatch (within_transaction _ ?_) fun error => ?_
      · intro ledger answer ledger' wrote
        obtain ⟨written, wrote, made⟩ := Except.map_eq_ok_iff.mp wrote
        cases made
        exact eqOn_complete foreign wrote
      · split
        next => exact within_pure .refl ()
        next => exact within_throw .refl error
    next => exact within_awaitExisting rowSecurity call conduct.turns

/-- Statements whose answer and whose writes depend on the keys of the tenant only. -/
def Local (keys : Set String) (statements : Ledger → Except PyError (α × Ledger)) : Prop :=
  ∀ left right : Ledger, Set.EqOn left right keys →
    (∃ error, statements left = .error error ∧ statements right = .error error) ∨
    ∃ answer left' right', statements left = .ok (answer, left') ∧
      statements right = .ok (answer, right') ∧ Set.EqOn left' right' keys

omit [Runtime] in
theorem couples_transaction (fate : Fate) (coupled : Local keys statements) :
    (transaction fate statements).Couples (Alike tenantId keys) := by
  intro left right alike
  unfold transaction
  rw [bind_of_ok (get_run left), bind_of_ok (get_run right)]
  rcases coupled left.ledger right.ledger alike.ledger with
    ⟨error, left_run, right_run⟩ | ⟨answer, left', right', left_run, right_run, same⟩
  · rw [left_run, right_run]
    exact ⟨.error error, left, right, rfl, rfl, alike⟩
  · rw [left_run, right_run]
    have written : Alike tenantId keys { left with ledger := left' }
        { right with ledger := right' } := ⟨same, alike.started⟩
    cases fate with
    | committed => exact ⟨.ok answer, _, _, rfl, rfl, written⟩
    | lost error => exact ⟨.error error, left, right, rfl, rfl, alike⟩
    | unacknowledged error => exact ⟨.error error, _, _, rfl, rfl, written⟩

omit [Runtime] in
theorem eqOn_update {left right : Ledger} (same : Set.EqOn left right keys) (key : String)
    (row : Option LedgerRow) :
    Set.EqOn (Function.update left key row) (Function.update right key row) keys := by
  intro other member
  by_cases written : other = key
  · simp [written]
  · rw [Function.update_of_ne written, Function.update_of_ne written, same member]

omit [Runtime] in
theorem local_claim (receipt : EvidenceReceipt) (own : action.idempotencyKey.val ∈ keys) :
    Local keys fun ledger => .ok (claim action receipt ledger) := by
  intro left right same
  right
  unfold claim
  dsimp only
  rw [← same own]
  cases left action.idempotencyKey.val with
  | some row => exact ⟨_, _, _, rfl, rfl, same⟩
  | none => exact ⟨_, _, _, rfl, rfl, eqOn_update same _ _⟩

omit [Runtime] in
theorem local_complete (rowSecurity : Bool) (outcome : ExecutionOutcome) (tenant : Identifier)
    (own : key ∈ keys) :
    Local keys fun ledger => (complete rowSecurity key outcome tenant ledger).map ((), ·) := by
  intro left right same
  have seen : select rowSecurity key tenant left = select rowSecurity key tenant right := by
    rw [select, select, same own]
  unfold complete
  dsimp only
  rw [← seen]
  cases select rowSecurity key tenant left with
  | none => exact .inr ⟨_, _, _, rfl, rfl, same⟩
  | some row =>
    cases LedgerStatus.ofExecution outcome.status with
    | none => exact .inl ⟨_, rfl, rfl⟩
    | some status => exact .inr ⟨_, _, _, rfl, rfl, eqOn_update same _ _⟩

omit [Runtime] in
theorem couples_readOutcome (rowSecurity : Bool) (own : call.key ∈ keys)
    {otherwise : EStateM PyError Dispatched ExecutionOutcome}
    (coupled : otherwise.Couples (Alike tenantId keys)) :
    EStateM.Couples (Alike tenantId keys) (do
      match readOutcome rowSecurity call (← get).ledger with
      | some result => ofExcept result
      | none => otherwise) := by
  refine @couples_get_bind _ _ _ _ _
    (fun state : Dispatched => readOutcome rowSecurity call state.ledger)
    (fun read => match read with
      | some result => ofExcept result
      | none => otherwise) (fun left right alike => ?_) fun read => ?_
  · rw [readOutcome, readOutcome, select, select, alike.ledger own]
  · cases read with
    | some result => exact couples_ofExcept result
    | none => exact coupled

omit [Runtime] in
theorem couples_awaitExisting (rowSecurity : Bool) (own : call.key ∈ keys)
    (turns : List (Except PyError Unit)) :
    (awaitExisting rowSecurity call turns).Couples (Alike tenantId keys) := by
  induction turns with
  | nil => exact couples_readOutcome rowSecurity own (couples_ofExcept _)
  | cons turn turns ih =>
    exact (couples_ofExcept turn).bind fun _ => couples_readOutcome rowSecurity own ih

theorem couples_dispatch (rowSecurity : Bool) (conduct : Conduct) (own : call.key ∈ keys) :
    (dispatch rowSecurity call conduct).Couples (Alike tenantId keys) := by
  refine (couples_ofExcept _).bind fun _ => EStateM.Couples.bind ?_ fun inserted => ?_
  · exact (couples_transaction _ (local_claim _ own)).tryCatch fun _ => couples_throw _
  · split
    next =>
      refine EStateM.Couples.bind ?_ fun _ => (couples_ofExcept _).bind fun outcome =>
        EStateM.Couples.bind ?_ fun _ => couples_pure _
      · refine couples_modify fun left right alike => ⟨alike.ledger, ?_⟩
        have started := alike.started
        simp only [ofTenant] at started
        simp [ofTenant, List.filter_append, started]
      · refine (couples_transaction _ (local_complete _ _ _ own)).tryCatch fun error => ?_
        split
        next => exact couples_pure ()
        next => exact couples_throw error
    next => exact couples_awaitExisting rowSecurity own conduct.turns

end Alike

section Runs

variable [Runtime] {tenantId : Identifier} {keys : Set String}

/-- The effect of a call on the ledger; its row-level security is in force. -/
def Episode.step (episode : Episode) (state : Dispatched) : Dispatched :=
  (dispatch true episode.call episode.conduct).after state

def Episode.answer (episode : Episode) (state : Dispatched) : Except PyError ExecutionOutcome :=
  match dispatch true episode.call episode.conduct state with
  | .ok outcome _ => .ok outcome
  | .error error _ => .error error

/-- The answers to a sequence of calls, each beside its call. -/
def answers : List Episode → Dispatched → List (Episode × Except PyError ExecutionOutcome)
  | [], _ => []
  | episode :: episodes, state =>
    (episode, episode.answer state) :: answers episodes (episode.step state)

def callsOf (tenantId : Identifier) (episodes : List Episode) : List Episode :=
  episodes.filter (·.tenantId = tenantId)

/-- What a tenant is told. -/
def answersTo (tenantId : Identifier) (episodes : List Episode) (state : Dispatched) :
    List (Episode × Except PyError ExecutionOutcome) :=
  (answers episodes state).filter (·.1.tenantId = tenantId)

def startedFor (tenantId : Identifier) (episodes : List Episode) (state : Dispatched) :
    List ProposedAction :=
  ofTenant tenantId (runAll Episode.step episodes state).started

def keysOf (tenantId : Identifier) (episodes : List Episode) : Set String :=
  {key | ∃ episode ∈ callsOf tenantId episodes, episode.call.key = key}

def KeysApart (tenantId : Identifier) (episodes : List Episode) : Prop :=
  ∀ episode ∈ episodes, episode.tenantId ≠ tenantId →
    episode.call.key ∉ keysOf tenantId episodes

variable {episode : Episode} {left right : Dispatched}

theorem step_of_other (other : episode.tenantId ≠ tenantId) (foreign : episode.call.key ∉ keys)
    (state : Dispatched) :
    Alike tenantId keys state (episode.step state) :=
  within_dispatch true episode.conduct other foreign state

theorem step_of_own (own : episode.call.key ∈ keys) (alike : Alike tenantId keys left right) :
    episode.answer left = episode.answer right ∧
      Alike tenantId keys (episode.step left) (episode.step right) := by
  obtain ⟨result, left', right', left_run, right_run, alike'⟩ :=
    couples_dispatch true episode.conduct own left right alike
  unfold Episode.answer Episode.step EStateM.after
  rw [left_run, right_run]
  cases result with
  | ok outcome | error error => exact ⟨rfl, alike'⟩

/-- Leaving out the calls of other tenants changes nothing for the tenant. -/
theorem alone {episodes : List Episode}
    (own : ∀ episode ∈ episodes, episode.tenantId = tenantId → episode.call.key ∈ keys)
    (foreign : ∀ episode ∈ episodes, episode.tenantId ≠ tenantId → episode.call.key ∉ keys)
    (alike : Alike tenantId keys left right) :
    answersTo tenantId episodes left = answers (callsOf tenantId episodes) right ∧
      startedFor tenantId episodes left =
        startedFor tenantId (callsOf tenantId episodes) right := by
  induction episodes generalizing left right with
  | nil => exact ⟨rfl, alike.started⟩
  | cons episode episodes ih =>
    have own' := fun other member => own other (List.mem_cons_of_mem _ member)
    have foreign' := fun other member => foreign other (List.mem_cons_of_mem _ member)
    by_cases mine : episode.tenantId = tenantId
    · obtain ⟨told, alike⟩ := step_of_own (own episode List.mem_cons_self mine) alike
      obtain ⟨answered, started⟩ := ih own' foreign' alike
      have kept : callsOf tenantId (episode :: episodes) = episode :: callsOf tenantId episodes :=
        List.filter_cons_of_pos (by simpa using mine)
      rw [kept]
      refine ⟨?_, started⟩
      rw [answersTo, answers, List.filter_cons_of_pos (by simpa using mine), told]
      exact congrArg _ answered
    · have step := step_of_other mine (foreign episode List.mem_cons_self mine) left
      obtain ⟨answered, started⟩ := ih own' foreign' (step.symm.trans alike)
      have dropped : callsOf tenantId (episode :: episodes) = callsOf tenantId episodes :=
        List.filter_cons_of_neg (by simpa using mine)
      rw [dropped]
      refine ⟨?_, started⟩
      rw [answersTo, answers, List.filter_cons_of_neg (by simpa using mine)]
      exact answered

end Runs

/-- A call for an action under a key, whose handler returns nothing. -/
def sampleEpisode (tenantId : Identifier) (key : Identifier) : Episode where
  call := {
    replica := ()
    action :=
      { sampleAction Sample.read .reversible none with
        resource :=
          { kind := Sample.account, id := Sample.account42, tenantId := tenantId }
        idempotencyKey := key }
    receipt := sampleReceipt Sample.decision Sample.segment
    timeoutS := 30
    now := 0 }
  conduct := {
    wiring := { handles := fun _ => true }
    ending := .returned .none "None" }

/-- Another tenant. -/
def globex : Identifier := ⟨"globex", by decide⟩

attribute [local instance] plainRuntime

def answeredStatus (answer : Episode × Except PyError ExecutionOutcome) : Option ExecutionStatus :=
  answer.2.toOption.map ExecutionOutcome.status

end PostgresDispatcher

end GlassBox
