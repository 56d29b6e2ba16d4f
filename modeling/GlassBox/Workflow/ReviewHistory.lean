import GlassBox.Workflow.Operations

/-!
# The review history

Every operation saves the steps as `_from_json` rebuilt them, so a recorded step is kept only when
it was created at the very instant of the load and was never completed.
-/

namespace GlassBox

/-- The step is read back as it was saved. -/
def WorkflowStep.Survives (now : ℚ) (step : WorkflowStep) : Prop :=
  step.createdAt = now ∧ step.completedAt = none

variable {now : ℚ}

theorem WorkflowStep.reread_eq_self_iff {step : WorkflowStep} :
    step.reread now = step ↔ step.Survives now := by
  obtain ⟨stepId, workflowId, stepType, actor, notes, outcome, createdAt, completedAt⟩ := step
  simp [reread, make, Survives, eq_comm]

/-- Every recorded step is read back as it was saved. -/
def WorkflowDocument.Survives (now : ℚ) (document : WorkflowDocument) : Prop :=
  ∀ step ∈ document.steps, step.Survives now

theorem WorkflowDocument.map_reread_eq_self_iff {document : WorkflowDocument} :
    document.steps.map (WorkflowStep.reread now) = document.steps ↔ document.Survives now := by
  have unchanged := @List.map_inj_left _ _ document.steps (WorkflowStep.reread now) id
  rw [List.map_id] at unchanged
  refine unchanged.trans (forall₂_congr fun step _ => ?_)
  exact WorkflowStep.reread_eq_self_iff

/-- A revision keeps the history exactly when the document survives the load. -/
theorem Revision.prefix_rewritten_iff (revision : Revision) (now : ℚ) (stepId : String)
    (document : WorkflowDocument) :
    document.steps <+: (revision.rewritten now stepId document).steps ↔ document.Survives now := by
  rw [revision.steps_rewritten, ← WorkflowDocument.map_reread_eq_self_iff]
  have length_eq : (document.steps.map (WorkflowStep.reread now)).length = document.steps.length :=
    List.length_map _
  constructor
  · intro kept
    have within := List.prefix_of_prefix_length_le kept (List.prefix_append _ _) length_eq.ge
    exact (within.eq_of_length length_eq.symm).symm
  · intro unchanged
    rw [unchanged]
    exact List.prefix_append _ _

namespace EngineSettings

variable (settings : EngineSettings)

/-- The operation rewrites only documents which survive the load. -/
def RewritesFaithfully (operation : ReviewOperation) (state : EngineState WorkflowTable) : Prop :=
  match operation with
  | .createFromDecision .. => True
  | .call call =>
    (call.revision settings state).isSome →
      ∀ document ∈ state.store.document call.workflowId, document.Survives call.now
  | .expireOverdue now _ =>
    ∀ inst ∈ overdue now state.store,
      ∀ document ∈ state.store.document inst.workflowId, document.Survives now

def HistoryBegins (workflowId : String) (steps : List WorkflowStep)
    (state : EngineState WorkflowTable) : Prop :=
  ∃ document, state.store.document workflowId = some document ∧ steps <+: document.steps

variable {settings} {workflowId : String} {steps : List WorkflowStep}
  {state : EngineState WorkflowTable} {call : ReviewCall}

section

variable (before : HistoryBegins workflowId steps state)
include before

theorem historyBegins_step_createFromDecision (now : ℚ) (request : ReviewRequest) :
    HistoryBegins workflowId steps (settings.step (.createFromDecision now request) state) := by
  obtain ⟨document, held, kept⟩ := before
  exact ⟨document, settings.document_step_createFromDecision state now request held, kept⟩

theorem historyBegins_step_call_of_ne (other : workflowId ≠ call.workflowId) :
    HistoryBegins workflowId steps (settings.step (.call call) state) := by
  obtain ⟨document, held, kept⟩ := before
  exact ⟨document, (settings.document_step_call_of_ne state other).trans held, kept⟩

theorem historyBegins_step_call (faithful : settings.RewritesFaithfully (.call call) state) :
    HistoryBegins workflowId steps (settings.step (.call call) state) := by
  by_cases same : workflowId = call.workflowId
  · subst same
    obtain ⟨document, held, kept⟩ := before
    refine ⟨call.rewritten settings state document, ?_, ?_⟩
    · rw [document_step_call, if_pos rfl, held, Option.map_some]
    · unfold ReviewCall.rewritten
      cases revised : call.revision settings state with
      | none => exact kept
      | some revision =>
        have survives := faithful (by rw [revised]; rfl) document held
        exact kept.trans ((revision.prefix_rewritten_iff _ _ document).mpr survives)
  · exact historyBegins_step_call_of_ne before same

/-- Expiring distinct workflows keeps the history when each document survives the load. -/
theorem historyBegins_expiries (now : ℚ) (actor : String) {insts : List WorkflowInstance}
    (distinct : (insts.map WorkflowInstance.workflowId).Nodup) (faithful : ∀ inst ∈ insts,
      ∀ document ∈ state.store.document inst.workflowId, document.Survives now) :
    HistoryBegins workflowId steps (runAll settings.step
      (insts.map fun inst => .call (expiry now actor inst.workflowId)) state) := by
  induction insts generalizing state with
  | nil => exact before
  | cons inst rest ih =>
    rw [List.map_cons, List.nodup_cons] at distinct
    have first : settings.RewritesFaithfully (.call (expiry now actor inst.workflowId)) state :=
      fun _ => faithful inst List.mem_cons_self
    refine ih (historyBegins_step_call before first) distinct.2 ?_
    intro later member document held
    have other : later.workflowId ≠ inst.workflowId := by
      intro same
      exact distinct.1 (same ▸ List.mem_map_of_mem member)
    have kept : (settings.step (.call (expiry now actor inst.workflowId)) state).store.document
        later.workflowId = _ := settings.document_step_call_of_ne state other
    exact faithful later (List.mem_cons_of_mem _ member) document (kept.symm.trans held)

theorem historyBegins_step {operation : ReviewOperation}
    (faithful : settings.RewritesFaithfully operation state) :
    HistoryBegins workflowId steps (settings.step operation state) := by
  cases operation with
  | createFromDecision now request => exact historyBegins_step_createFromDecision before now request
  | call call => exact historyBegins_step_call before faithful
  | expireOverdue now actor =>
    rw [step_expireOverdue]
    exact historyBegins_expiries before now actor (nodup_overdue now state.store) faithful

end

/-- The history only grows, along every run which rewrites only documents that survive the load. -/
theorem history_append_only {start : EngineState WorkflowTable} {document : WorkflowDocument}
    (held : start.store.document workflowId = some document)
    (run : Reaches settings.RewritesFaithfully settings.step start state) :
    ∃ later, state.store.document workflowId = some later ∧ document.steps <+: later.steps :=
  run.invariant (HistoryBegins workflowId document.steps) ⟨document, held, List.prefix_rfl⟩
    fun _ _ faithful before => historyBegins_step before faithful

/-- A comment at the instant of another leaves the first one as it was recorded. -/
theorem history_append_only_comments :
    ∃ document later,
      (sampleRun [sampleCall 1 "alice" .addComment]).store.document "workflow" = some document ∧
      document.steps.map WorkflowStep.createdAt = [1] ∧
      (sampleRun [sampleCall 1 "alice" .addComment,
        sampleCall 1 "bob" .addComment]).store.document "workflow" = some later ∧
      document.steps <+: later.steps := by
  have commented : ((sampleRun [sampleCall 1 "alice" .addComment]).store.document "workflow").map
      (fun document => document.steps.map fun step => (step.createdAt, step.completedAt)) =
        some [(1, none)] := by decide +kernel
  obtain ⟨document, held, times⟩ := Option.map_eq_some_iff.mp commented
  have survives : document.Survives 1 := by
    intro step member
    have pair := List.mem_map_of_mem (f := fun step => (step.createdAt, step.completedAt)) member
    rw [times, List.mem_singleton, Prod.mk.injEq] at pair
    exact pair
  have faithful : sampleSettings.RewritesFaithfully (sampleCall 1 "bob" .addComment)
      (sampleRun [sampleCall 1 "alice" .addComment]) := by
    intro _ other other_held
    cases held.symm.trans other_held
    exact survives
  have second : PermittedStep sampleSettings.RewritesFaithfully sampleSettings.step
      (sampleRun [sampleCall 1 "alice" .addComment]) _ :=
    ⟨sampleCall 1 "bob" .addComment, faithful, rfl⟩
  obtain ⟨later, later_held, kept⟩ := history_append_only held (.single second)
  refine ⟨document, later, held, ?_, later_held, kept⟩
  simpa [Function.comp_def] using congrArg (List.map Prod.fst) times

/-- A comment takes away the completion time of the rejection before it. -/
theorem completion_time_lost :
    let before := (sampleRun [sampleCall 1 "alice" .reject]).store.document "workflow"
    let after := (sampleRun [sampleCall 1 "alice" .reject,
      sampleCall 2 "bob" .addComment]).store.document "workflow"
    before.map (fun document => document.steps.map WorkflowStep.completedAt) = some [some 1] ∧
      after.map (fun document => document.steps.map WorkflowStep.completedAt) = some [none, none] ∧
      ¬ (before.elim [] WorkflowDocument.steps <+: after.elim [] WorkflowDocument.steps) := by
  decide +kernel

end EngineSettings

end GlassBox
