import GlassBox.Workflow.Operations

/-!
# Decided workflows

`expire` and `revoke` refuse a workflow which is decided; `start_review`, `approve`, `reject` and
`escalate` do not look at its state.  A decision therefore stands along every run in which those
calls respect it.
-/

namespace GlassBox

def WorkflowState.isDecided : WorkflowState → Bool
  | .approved | .rejected | .expired | .revoked => true
  | _ => false

theorem WorkflowState.awaitsReview_of_isDecided {state : WorkflowState}
    (decided : state.isDecided = true) : state.awaitsReview = false := by
  cases state <;> first | rfl | cases decided

namespace ReviewCall

variable (settings : EngineSettings) (state : EngineState WorkflowTable) (call : ReviewCall)

/-- The call does not overturn a decision: it neither reopens the review nor escalates it, an
approval which reaches its quorum finds the workflow approved, and a rejection finds it rejected. -/
def Respects (decided : WorkflowState) : Prop :=
  match call.kind with
  | .startReview | .escalate _ => False
  | .approve minApprovers | .quorumApprove minApprovers =>
    decided = .approved ∨ ((call.voters settings state).length : Int) < minApprovers
  | .reject => decided = .rejected
  | .expire | .revoke | .addComment => True

/-- An approval leaves a workflow in its state when it was approved already, or when the quorum is
not reached. -/
theorem next_approval_eq_self_iff (now : ℚ) (actor notes : String) (actors : List String)
    (minApprovers : Int) (before : WorkflowState) :
    (EngineSettings.approval now actor notes actors minApprovers).next before = before ↔
      before = .approved ∨ (actors.length : Int) < minApprovers := by
  rw [EngineSettings.next_approval]
  by_cases enough : (actors.length : Int) ≥ minApprovers
  · rw [if_pos enough]
    exact eq_comm.trans (or_iff_left (not_lt.mpr enough)).symm
  · rw [if_neg enough]
    exact iff_of_true rfl (.inr (not_le.mp enough))

/-- A call keeps a decision exactly when it respects it. -/
theorem next_eq_self_iff {decided : WorkflowState} (ended : decided.isDecided = true)
    (held : state.store.persistedState call.workflowId = some decided) :
    call.next settings state decided = decided ↔ call.Respects settings state decided := by
  obtain ⟨document, document_held, rfl⟩ := Option.map_eq_some_iff.mp
    ((WorkflowTable.persistedState_eq _ _).symm.trans held)
  have loaded : state.store.load call.now call.workflowId = some (document.fromJson call.now) := by
    rw [WorkflowTable.load, document_held, Option.map_some]
  have closed : (document.fromJson call.now).state.awaitsReview = false :=
    WorkflowState.awaitsReview_of_isDecided ended
  rw [next_of_load settings state call loaded]
  unfold admits writes Respects
  cases call.kind with
  | startReview =>
    refine iff_of_false ?_ id
    intro same
    rw [← same] at ended
    cases ended
  | approve minApprovers | quorumApprove minApprovers =>
    exact next_approval_eq_self_iff _ _ _ _ minApprovers _
  | reject => exact eq_comm
  | escalate escalateTo =>
    refine iff_of_false ?_ id
    intro same
    rw [← same] at ended
    cases ended
  | expire => simp [EngineSettings.expires, closed]
  | revoke => simp [closed]
  | addComment => exact iff_of_true rfl trivial

end ReviewCall

namespace EngineSettings

variable (settings : EngineSettings)

def RespectsDecisions (operation : ReviewOperation) (state : EngineState WorkflowTable) : Prop :=
  match operation with
  | .createFromDecision .. | .expireOverdue .. => True
  | .call call =>
    ∀ decided, state.store.persistedState call.workflowId = some decided →
      decided.isDecided = true → call.Respects settings state decided

def DecidedAs (workflowId : String) (decided : WorkflowState)
    (state : EngineState WorkflowTable) : Prop :=
  state.store.persistedState workflowId = some decided

variable {settings} {workflowId : String} {decided : WorkflowState}
  {state : EngineState WorkflowTable}

theorem decidedAs_step_createFromDecision (now : ℚ) (request : ReviewRequest)
    (before : DecidedAs workflowId decided state) :
    DecidedAs workflowId decided (settings.step (.createFromDecision now request) state) := by
  rw [DecidedAs, WorkflowTable.persistedState_eq] at before ⊢
  obtain ⟨document, held, rfl⟩ := Option.map_eq_some_iff.mp before
  rw [settings.document_step_createFromDecision state now request held, Option.map_some]

theorem decidedAs_step_call {call : ReviewCall} (ended : decided.isDecided = true)
    (respects : settings.RespectsDecisions (.call call) state)
    (before : DecidedAs workflowId decided state) :
    DecidedAs workflowId decided (settings.step (.call call) state) := by
  rw [DecidedAs, persistedState_step_call]
  by_cases same : workflowId = call.workflowId
  · subst same
    have kept := (call.next_eq_self_iff settings state ended before).mpr
      (respects decided before ended)
    rw [if_pos rfl, before, Option.map_some, kept]
  · rw [if_neg same]
    exact before

theorem decidedAs_step {operation : ReviewOperation} (ended : decided.isDecided = true)
    (respects : settings.RespectsDecisions operation state)
    (before : DecidedAs workflowId decided state) :
    DecidedAs workflowId decided (settings.step operation state) := by
  cases operation with
  | createFromDecision now request => exact decidedAs_step_createFromDecision now request before
  | call call => exact decidedAs_step_call ended respects before
  | expireOverdue now actor =>
    refine settings.step_expireOverdue_invariant (DecidedAs workflowId decided) before ?_
    intro inst _ middle held
    exact decidedAs_step_call ended (fun _ _ _ => trivial) held

/-- A decision is final along every run whose calls respect decisions. -/
theorem decision_final {start : EngineState WorkflowTable} (ended : decided.isDecided = true)
    (held : start.store.persistedState workflowId = some decided)
    (run : Reaches settings.RespectsDecisions settings.step start state) :
    state.store.persistedState workflowId = some decided :=
  run.invariant (DecidedAs workflowId decided) held
    fun _ _ respects before => decidedAs_step ended respects before

/-- A rejected workflow, on which a comment is made, stays rejected. -/
theorem decision_final_commented : (sampleSettings.step (sampleCall 2 "bob" .addComment)
      (sampleRun [sampleCall 1 "alice" .reject])).store.persistedState "workflow" =
        some .rejected := by
  have commented : PermittedStep sampleSettings.RespectsDecisions sampleSettings.step
      (sampleRun [sampleCall 1 "alice" .reject]) _ :=
    ⟨sampleCall 2 "bob" .addComment, fun _ _ _ => trivial, rfl⟩
  exact decision_final rfl (by decide +kernel) (.single commented)

/-- One reviewer rejects, and another one approves what was rejected. -/
theorem rejected_then_approved :
    (sampleRun [sampleCall 1 "alice" .reject]).store.persistedState "workflow" = some .rejected ∧
      (sampleSettings.step (sampleCall 2 "bob" (.approve 1))
        (sampleRun [sampleCall 1 "alice" .reject])).store.persistedState "workflow" =
          some .approved := by
  decide +kernel

end EngineSettings

end GlassBox
