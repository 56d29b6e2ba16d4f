import GlassBox.Domain.Catalogue
import GlassBox.Domain.ChainPayload

/-!
# What both dispatchers make of a handler

`adapters/outbound/memory/dispatch.py` and `adapters/outbound/postgres/dispatcher.py` share the
check of the receipt and the way the end of a handler becomes an outcome.
-/

namespace GlassBox

/-- How the future of a submitted handler ends the wait for it. -/
inductive HandlerEnd
  /-- The handler returned a value; `text` is its `repr`. -/
  | returned (result : Value) (text : String)
  /-- The handler raised an exception of a class of this name. -/
  | raised (errorClass : Text)
  /-- The wait ended in a `TimeoutError`; the handler may not even have started. -/
  | timedOut

/-- `DispatchRefusedError(…)`. -/
def dispatchRefused (message : String) (context : List (String × Value)) : PyError where
  cls := .dispatchRefusedError
  message := message
  context := context

/-- `_require_valid_receipt` of a receipt, with what the receipt check says about it if there is
one. -/
def requireValidReceipt (requireReceipt : Bool) (issued : Option Bool) (action : ProposedAction)
    (receipt : EvidenceReceipt) : Except PyError Unit :=
  if requireReceipt = true ∧ issued = some false then
    .error (dispatchRefused "the evidence store did not issue this receipt"
      [("action", .str action.action.val), ("decision_id", .str receipt.decisionId.val)])
  else .ok ()

def noHandler (action : ProposedAction) (receipt : EvidenceReceipt) : PyError :=
  dispatchRefused "no handler is registered for this action"
    [("action", .str action.action.val), ("decision_id", .str receipt.decisionId.val)]

def atInFlightBound (action : ProposedAction) (inFlight maxInFlight : Nat) : PyError :=
  dispatchRefused "dispatcher is at its in-flight bound"
    [("action", .str action.action.val), ("in_flight", .ofNat inFlight),
      ("max_in_flight", .ofNat maxInFlight)]

/-- `ExecutionOutcome(…)` of an effect which failed. -/
def ExecutionOutcome.ofFailure (errorClass : Text) (completedAt : Timestamp) :
    ExecutionOutcome where
  status := .failed
  completedAt := completedAt
  errorClass := some errorClass
  failure_named := fun _ => rfl

/-- `ExecutionOutcome(…)` of an effect which may or may not have occurred. -/
def ExecutionOutcome.ofTimeout (errorClass : Text) (completedAt : Timestamp) :
    ExecutionOutcome where
  status := .indeterminate
  completedAt := completedAt
  errorClass := some errorClass
  failure_named := nofun

section Outcome

variable [Runtime]

/-- `_digest`: of the canonical form, or of the `repr` of an opaque result. -/
def digestOf (result : Value) (text : String) : Sha256Hex :=
  match canonicalBytes [("result", result)] with
  | .ok material => sha256Hexdigest material
  | .error _ => sha256Hexdigest (utf8 text)

/-- `ExecutionOutcome(…)` of an effect which was performed. -/
def ExecutionOutcome.ofResult (result : Value) (text : String) (completedAt : Timestamp) :
    ExecutionOutcome where
  status := .executed
  completedAt := completedAt
  resultDigest := some (digestOf result text)
  failure_named := nofun

def outcomeOf (ending : HandlerEnd) (timeoutS now : ℚ) : Except PyError ExecutionOutcome :=
  match ending with
  | .timedOut => do
    let completedAt ← requireTimestamp (now + timeoutS) "completed_at"
    return .ofTimeout ⟨"DispatchTimeout", by decide⟩ completedAt
  | .raised errorClass => do
    let completedAt ← requireTimestamp now "completed_at"
    return .ofFailure errorClass completedAt
  | .returned result text => do
    let completedAt ← requireTimestamp now "completed_at"
    if scanFlagged result then
      return .ofFailure ⟨"ToolOutputQuarantinedError", by decide⟩ completedAt
    else return .ofResult result text completedAt

theorem returned_of_executed {ending : HandlerEnd} {timeoutS now : ℚ} {outcome : ExecutionOutcome}
    (recorded : outcomeOf ending timeoutS now = .ok outcome)
    (executed : outcome.status = .executed) : ∃ result text, ending = .returned result text := by
  cases ending with
  | returned result text => exact ⟨result, text, rfl⟩
  | raised errorClass | timedOut =>
    obtain ⟨completedAt, -, made⟩ := Except.bind_eq_ok_iff.mp recorded
    cases made
    cases executed

end Outcome

end GlassBox
