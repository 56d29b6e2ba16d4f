import GlassBox.Foundation.Runs
import GlassBox.Workflow.Engine

/-!
# The operations of the engine over SQLite

`step` is one operation on a database and the votes in memory, whether it returns or raises.
`create_from_decision` adds a row, `expire_overdue` is a run of `expire`, and every other
operation rewrites at most one document.
-/

namespace GlassBox

open EStateM
open SQLiteWorkflowRepository (get_run pendingRows nodup_pendingRows integrityError)

/-- The object is the same workflow with one more step. -/
structure WorkflowInstance.ExtendedBy (inst : WorkflowInstance) (step : WorkflowStep)
    (changed : WorkflowInstance) : Prop where
  workflowId : changed.workflowId = inst.workflowId
  decisionId : changed.decisionId = inst.decisionId
  createdAt : changed.createdAt = inst.createdAt
  slaMinutes : changed.slaMinutes = inst.slaMinutes
  steps : changed.steps = inst.steps ++ [step]

/-- The state which `add_step` gives a workflow. -/
def StepOutcome.advances : StepOutcome → Option WorkflowState
  | .approved => some .approved
  | .rejected => some .rejected
  | .escalated => some .escalated
  | .expired => some .expired
  | .revoked => some .revoked
  | .pending | .partialApproval => none

namespace WorkflowInstance

theorem extendedBy_addStep (now : ℚ) (step : WorkflowStep) (inst : WorkflowInstance) :
    inst.ExtendedBy step (inst.addStep now step) := by
  unfold addStep
  cases step.outcome <;> exact ⟨rfl, rfl, rfl, rfl, rfl⟩

/-- The step `_transition` adds. -/
def transitionStep (now : ℚ) (stepType : StepType) (actor notes : String) (outcome : StepOutcome)
    (stepId : String) (inst : WorkflowInstance) : WorkflowStep :=
  { WorkflowStep.make now stepId inst.workflowId stepType (some actor) notes outcome with
    completedAt := some now }

theorem extendedBy_transitioned (now : ℚ) (stepType : StepType) (actor notes : String)
    (newState : WorkflowState) (outcome : StepOutcome) (stepId : String) (inst : WorkflowInstance) :
    inst.ExtendedBy (inst.transitionStep now stepType actor notes outcome stepId)
      (inst.transitioned now stepType actor notes newState outcome stepId) := by
  unfold transitioned
  by_cases review : newState = .inReview
  · simp only [review, if_true]
    exact { extendedBy_addStep now (inst.transitionStep now stepType actor notes outcome stepId)
      inst with }
  · simp only [review, if_false]
    exact { extendedBy_addStep now (inst.transitionStep now stepType actor notes outcome stepId)
      { inst with state := newState } with }

theorem state_transitioned (now : ℚ) (stepType : StepType) (actor notes : String)
    (newState : WorkflowState) (outcome : StepOutcome) (stepId : String) (inst : WorkflowInstance) :
    (inst.transitioned now stepType actor notes newState outcome stepId).state =
      if newState = .inReview then .inReview else outcome.advances.getD newState := by
  unfold transitioned
  by_cases review : newState = .inReview
  · simp only [review, if_true]
  · simp only [review, if_false, addStep, WorkflowStep.make]
    cases outcome <;> rfl

end WorkflowInstance

/-- A change of a workflow, the step it adds and the state it leads to. -/
structure Revision where
  change : String → WorkflowInstance → WorkflowInstance
  step : String → WorkflowInstance → WorkflowStep
  next : WorkflowState → WorkflowState
  named : ∀ stepId inst, (step stepId inst).stepId = stepId
  extended : ∀ stepId (inst : WorkflowInstance),
    inst.ExtendedBy (step stepId inst) (change stepId inst)
  moved : ∀ stepId (inst : WorkflowInstance), (change stepId inst).state = next inst.state

namespace Revision

def transition (now : ℚ) (stepType : StepType) (actor notes : String) (newState : WorkflowState)
    (outcome : StepOutcome) : Revision where
  change := .transitioned now stepType actor notes newState outcome
  step := WorkflowInstance.transitionStep now stepType actor notes outcome
  next := fun _ => if newState = .inReview then .inReview else outcome.advances.getD newState
  named := fun _ _ => rfl
  extended := WorkflowInstance.extendedBy_transitioned now stepType actor notes newState outcome
  moved := WorkflowInstance.state_transitioned now stepType actor notes newState outcome

/-- The partial branch of `approve`. -/
def partialApproval (now : ℚ) (actor notes : String) (actors : List String)
    (minApprovers : Int) : Revision where
  change := .partlyApproved now actor notes actors minApprovers
  step := fun stepId inst => .make now stepId inst.workflowId .approve (some actor)
    (WorkflowInstance.partialNotes actors.length minApprovers notes) .partialApproval
  next := id
  named := fun _ _ => rfl
  extended := fun _ inst =>
    { WorkflowInstance.extendedBy_addStep now _ { inst with approvalActors := actors } with }
  moved := fun _ _ => rfl

def escalation (now : ℚ) (actor escalateTo notes : String) : Revision where
  change := .escalated now actor escalateTo notes
  step := WorkflowInstance.transitionStep now .escalate actor notes .escalated
  next := fun _ => .escalated
  named := fun _ _ => rfl
  extended := fun _ inst =>
    { WorkflowInstance.extendedBy_addStep now _ { inst with escalateTo := some escalateTo } with }
  moved := fun _ _ => rfl

def comment (now : ℚ) (actor notes : String) : Revision where
  change := .commented now actor notes
  step := fun stepId inst =>
    .make now stepId inst.workflowId .comment (some actor) notes .pending
  next := id
  named := fun _ _ => rfl
  extended := fun _ _ => ⟨rfl, rfl, rfl, rfl, rfl⟩
  moved := fun _ _ => rfl

end Revision

namespace EngineSettings

variable (settings : EngineSettings)

/-- The state after an operation saved the object it loaded and changed. -/
def revised (state : EngineState WorkflowTable) (now : ℚ) (workflowId : String)
    (change : String → WorkflowInstance → WorkflowInstance) : EngineState WorkflowTable :=
  match state.store.load now workflowId with
  | none => state
  | some inst =>
    { state with
      drawn := state.drawn + 1
      store := state.store.save now (change (settings.uuid4 state.drawn) inst) }

variable (state : EngineState WorkflowTable) (now : ℚ) (workflowId actor notes : String)

theorem load_run :
    WorkflowEngine.onStore (settings.overSQLite.repo.get now workflowId) state =
      .ok (state.store.load now workflowId) state :=
  zoom_of_ok (get_run now workflowId state.store)

theorem revise_run (change : String → WorkflowInstance → WorkflowInstance) :
    settings.overSQLite.revise now workflowId change state =
      .ok ((state.store.load now workflowId).map fun inst =>
          (change (settings.uuid4 state.drawn) inst).touched now)
        (settings.revised state now workflowId change) := by
  refine (bind_of_ok (settings.load_run state now workflowId)).trans ?_
  unfold revised
  cases state.store.load now workflowId with
  | none | some inst => rfl

/-- What `approve` writes once these actors have voted. -/
def approval (now : ℚ) (actor notes : String) (actors : List String) (minApprovers : Int) :
    Revision :=
  if (actors.length : Int) ≥ minApprovers then
    .transition now .approve actor
      (WorkflowInstance.quorumNotes actors.length minApprovers notes) .approved .approved
  else .partialApproval now actor notes actors minApprovers

/-- An approval moves the workflow exactly when it reaches its quorum. -/
theorem next_approval (now : ℚ) (actor notes : String) (actors : List String)
    (minApprovers : Int) (before : WorkflowState) :
    (approval now actor notes actors minApprovers).next before =
      if (actors.length : Int) ≥ minApprovers then .approved else before := by
  unfold approval
  split <;> rfl

/-- The votes an approval leaves: none when the transition was attempted. -/
def votesLeft (votes : String → Option QuorumEntry) (workflowId : String) (actors : List String)
    (minApprovers : Int) : String → Option QuorumEntry :=
  if (actors.length : Int) ≥ minApprovers then Function.update votes workflowId none else votes

/-- The state after `approve`: the vote is counted, and a workflow which exists is revised. -/
def approved (state : EngineState WorkflowTable) (now : ℚ) (workflowId actor notes : String)
    (minApprovers : Int) : EngineState WorkflowTable :=
  let votes := settings.voted now state.quorumState workflowId actor
  let actors := (settings.votedEntry now state.quorumState workflowId actor).actors
  match state.store.load now workflowId with
  | none => { state with quorumState := votes }
  | some inst =>
    { quorumState := votesLeft votes workflowId actors minApprovers
      drawn := state.drawn + 1
      store := state.store.save now
        ((approval now actor notes actors minApprovers).change (settings.uuid4 state.drawn)
          inst) }

section Approving

variable {state : EngineState WorkflowTable} {now : ℚ} {workflowId : String}
  {inst : WorkflowInstance} (loaded : state.store.load now workflowId = some inst)
  (actor notes : String) (actors : List String) (minApprovers : Int)

include loaded in
theorem saveApproval_run :
    settings.overSQLite.saveApproval now workflowId actor notes actors minApprovers state =
      .ok () (settings.revised state now workflowId (.transitioned now .approve actor
        (WorkflowInstance.quorumNotes actors.length minApprovers notes) .approved .approved)) := by
  have moved := settings.revise_run state now workflowId (.transitioned now .approve actor
    (WorkflowInstance.quorumNotes actors.length minApprovers notes) .approved .approved)
  simp only [revised, loaded, Option.map_some] at moved ⊢
  refine (bind_of_ok moved).trans ?_
  exact congrArg
    (fun table => EStateM.Result.ok () { state with drawn := state.drawn + 1, store := table })
    (WorkflowTable.update_update state.store _)

include loaded in
theorem recordApproval_run :
    settings.overSQLite.recordApproval now workflowId actor notes actors minApprovers inst state =
      .ok () {
        quorumState := votesLeft state.quorumState workflowId actors minApprovers
        drawn := state.drawn + 1
        store := state.store.save now
          ((approval now actor notes actors minApprovers).change (settings.uuid4 state.drawn)
            inst) } := by
  unfold WorkflowEngine.recordApproval votesLeft approval
  by_cases enough : (actors.length : Int) ≥ minApprovers
  · rw [if_pos enough, if_pos enough, if_pos enough]
    have saved := settings.saveApproval_run loaded actor notes actors minApprovers
    simp only [revised, loaded] at saved
    exact bind_of_ok (tryCatch_of_ok saved)
  · rw [if_neg enough, if_neg enough, if_neg enough]
    rfl

end Approving

theorem approve_run (minApprovers : Int) :
    settings.overSQLite.approve now workflowId actor notes minApprovers state =
      .ok ((settings.approved state now workflowId actor notes minApprovers).store.load now
          workflowId)
        (settings.approved state now workflowId actor notes minApprovers) := by
  let voting : EngineState WorkflowTable :=
    { state with quorumState := settings.voted now state.quorumState workflowId actor }
  let actors := (settings.votedEntry now state.quorumState workflowId actor).actors
  have vote : settings.overSQLite.vote now workflowId actor state = .ok actors voting := rfl
  refine (bind_of_ok vote).trans ?_
  refine (bind_of_ok (settings.load_run voting now workflowId)).trans ?_
  unfold approved
  cases loaded : state.store.load now workflowId with
  | none => exact congrArg (EStateM.Result.ok · voting) loaded.symm
  | some inst =>
    have held : voting.store.load now workflowId = some inst := loaded
    have recorded := settings.recordApproval_run held actor notes actors minApprovers
    exact (bind_of_ok recorded).trans (settings.load_run _ now workflowId)

/-- Whether `expire` goes on: the workflow is still pending and its deadline is over. -/
def expires (now : ℚ) (inst : WorkflowInstance) : Bool :=
  inst.state.awaitsReview && inst.isSlaBreached now

theorem expire_run :
    settings.overSQLite.expire now workflowId actor notes state =
      if (state.store.load now workflowId).any (expires now) then
        settings.overSQLite.transition now workflowId .expire actor notes .expired .expired state
      else .ok none state := by
  refine (bind_of_ok (settings.load_run state now workflowId)).trans ?_
  cases state.store.load now workflowId with
  | none => rfl
  | some inst =>
    by_cases awaits : inst.state.awaitsReview = true
    · by_cases late : inst.isSlaBreached now = true
      · simp [expires, awaits, late]
      · simp [expires, awaits, late, pure, EStateM.pure]
    · simp [expires, awaits, pure, EStateM.pure]

theorem revoke_run :
    settings.overSQLite.revoke now workflowId actor notes state =
      if (state.store.load now workflowId).any (·.state.awaitsReview) then
        settings.overSQLite.transition now workflowId .revoke actor notes .revoked .revoked state
      else .ok none state := by
  refine (bind_of_ok (settings.load_run state now workflowId)).trans ?_
  cases state.store.load now workflowId with
  | none => rfl
  | some inst =>
    by_cases awaits : inst.state.awaitsReview = true
    · simp [awaits]
    · simp [awaits, pure, EStateM.pure]

theorem after_of_guarded {state : EngineState WorkflowTable} {now : ℚ} {workflowId : String}
    {program : EStateM PyError (EngineState WorkflowTable) (Option WorkflowInstance)}
    {guard : WorkflowInstance → Bool} {change : String → WorkflowInstance → WorkflowInstance}
    (run : program state = if (state.store.load now workflowId).any guard then
        settings.overSQLite.revise now workflowId change state
      else .ok none state) :
    program.after state = match (state.store.load now workflowId).filter guard with
      | none => state
      | some inst =>
        { state with
          drawn := state.drawn + 1
          store := state.store.save now (change (settings.uuid4 state.drawn) inst) } := by
  have revised := settings.revise_run state now workflowId change
  unfold EngineSettings.revised at revised
  cases loaded : state.store.load now workflowId with
  | none =>
    rw [loaded] at run
    exact after_of_ok run
  | some inst =>
    rw [loaded] at run revised
    by_cases admitted : guard inst = true
    · rw [Option.any_some, if_pos admitted] at run
      rw [Option.filter_some, if_pos admitted]
      exact after_of_ok (run.trans revised)
    · rw [Option.any_some, if_neg admitted] at run
      rw [Option.filter_some, if_neg admitted]
      exact after_of_ok run

end EngineSettings

/-- An operation on one workflow. -/
inductive ReviewKind
  | startReview
  | approve (minApprovers : Int)
  | quorumApprove (minApprovers : Int)
  | reject
  | escalate (escalateTo : String)
  | expire
  | revoke
  | addComment
  deriving DecidableEq

/-- A call of an operation on one workflow, and the time it is made. -/
structure ReviewCall where
  now : ℚ
  workflowId : String
  actor : String
  notes : String
  kind : ReviewKind
  deriving DecidableEq

namespace ReviewCall

/-- The method which is called. -/
def program {ρ : Type} (engine : WorkflowEngine ρ) (call : ReviewCall) :
    EStateM PyError (EngineState ρ) (Option WorkflowInstance) :=
  match call.kind with
  | .startReview => engine.startReview call.now call.workflowId call.actor call.notes
  | .approve minApprovers =>
    engine.approve call.now call.workflowId call.actor call.notes minApprovers
  | .quorumApprove minApprovers =>
    engine.quorumApprove call.now call.workflowId call.actor minApprovers call.notes
  | .reject => engine.reject call.now call.workflowId call.actor call.notes
  | .escalate escalateTo =>
    engine.escalate call.now call.workflowId call.actor escalateTo call.notes
  | .expire => engine.expire call.now call.workflowId call.actor call.notes
  | .revoke => engine.revoke call.now call.workflowId call.actor call.notes
  | .addComment => engine.addComment call.now call.workflowId call.actor call.notes

variable (settings : EngineSettings) (state : EngineState WorkflowTable) (call : ReviewCall)

/-- The actors whose votes the workflow has once this one is counted. -/
def voters : List String :=
  (settings.votedEntry call.now state.quorumState call.workflowId call.actor).actors

/-- What the call writes, once these actors have voted. -/
def writes (actors : List String) : Revision :=
  match call.kind with
  | .startReview => .transition call.now .review call.actor call.notes .inReview .pending
  | .approve minApprovers | .quorumApprove minApprovers =>
    EngineSettings.approval call.now call.actor call.notes actors minApprovers
  | .reject => .transition call.now .reject call.actor call.notes .rejected .rejected
  | .escalate escalateTo => .escalation call.now call.actor escalateTo call.notes
  | .expire => .transition call.now .expire call.actor call.notes .expired .expired
  | .revoke => .transition call.now .revoke call.actor call.notes .revoked .revoked
  | .addComment => .comment call.now call.actor call.notes

/-- Whether the call goes on with the object it loaded first. -/
def admits (inst : WorkflowInstance) : Bool :=
  match call.kind with
  | .expire => EngineSettings.expires call.now inst
  | .revoke => inst.state.awaitsReview
  | _ => true

/-- The votes once the call has counted its own, if it casts one. -/
def counted : String → Option QuorumEntry :=
  match call.kind with
  | .approve _ | .quorumApprove _ =>
    settings.voted call.now state.quorumState call.workflowId call.actor
  | _ => state.quorumState

/-- The votes once the call has saved the workflow. -/
def votesAfter : String → Option QuorumEntry :=
  match call.kind with
  | .approve minApprovers | .quorumApprove minApprovers =>
    EngineSettings.votesLeft (call.counted settings state) call.workflowId
      (call.voters settings state) minApprovers
  | _ => state.quorumState

def concluded : EngineState WorkflowTable :=
  match (state.store.load call.now call.workflowId).filter call.admits with
  | none => { state with quorumState := call.counted settings state }
  | some inst =>
    { quorumState := call.votesAfter settings state
      drawn := state.drawn + 1
      store := state.store.save call.now
        ((call.writes (call.voters settings state)).change (settings.uuid4 state.drawn) inst) }

/-- A call of the engine over SQLite leaves the state `concluded`. -/
theorem after_program : (call.program settings.overSQLite).after state =
    call.concluded settings state := by
  have revised (change) := after_of_ok
    (settings.revise_run state call.now call.workflowId change)
  have approved (minApprovers) := after_of_ok
    (settings.approve_run state call.now call.workflowId call.actor call.notes minApprovers)
  have expired := settings.after_of_guarded
    (settings.expire_run state call.now call.workflowId call.actor call.notes)
  have revoked := settings.after_of_guarded
    (settings.revoke_run state call.now call.workflowId call.actor call.notes)
  unfold EngineSettings.revised at revised
  unfold EngineSettings.approved at approved
  unfold program concluded votesAfter counted admits writes voters
  cases call.kind with
  | startReview | reject | escalate escalateTo | addComment =>
    refine (revised _).trans ?_
    cases state.store.load call.now call.workflowId <;> rfl
  | approve minApprovers | quorumApprove minApprovers =>
    refine (approved _).trans ?_
    cases state.store.load call.now call.workflowId <;> rfl
  | expire => exact expired
  | revoke => exact revoked

/-- The change the call makes to its workflow, unless it is refused. -/
def revision : Option Revision :=
  if (state.store.load call.now call.workflowId).any call.admits then
    some (call.writes (call.voters settings state))
  else none

theorem store_after_program : ((call.program settings.overSQLite).after state).store =
      match call.revision settings state with
      | none => state.store
      | some revision =>
        (settings.revised state call.now call.workflowId revision.change).store := by
  rw [after_program]
  unfold concluded revision EngineSettings.revised
  cases state.store.load call.now call.workflowId with
  | none => rfl
  | some inst =>
    rw [Option.filter_some, Option.any_some]
    by_cases admitted : call.admits inst = true
    · rw [if_pos admitted, if_pos admitted]
    · rw [if_neg admitted, if_neg admitted]

end ReviewCall

inductive ReviewOperation
  | createFromDecision (now : ℚ) (request : ReviewRequest)
  | call (call : ReviewCall)
  | expireOverdue (now : ℚ) (actor : String)

namespace EngineSettings

variable (settings : EngineSettings)

/-- The state after an operation of the engine over SQLite, whether it returns or raises. -/
def step (operation : ReviewOperation) (state : EngineState WorkflowTable) :
    EngineState WorkflowTable :=
  match operation with
  | .createFromDecision now request =>
    (settings.overSQLite.createFromDecision now request).after state
  | .call call => (call.program settings.overSQLite).after state
  | .expireOverdue now actor => (settings.overSQLite.expireOverdue now actor).after state

/-- The call of `expire` which `expire_overdue` makes. -/
def expiry (now : ℚ) (actor workflowId : String) : ReviewCall where
  now := now
  workflowId := workflowId
  actor := actor
  notes := WorkflowEngine.expiryNotes
  kind := .expire

/-- The workflows `expire_overdue` goes through. -/
def overdue (now : ℚ) (table : WorkflowTable) : List WorkflowInstance :=
  ((pendingRows table).map fun row => row.fullJson.fromJson now).filter
    (WorkflowInstance.isSlaBreached now)

/-- The workflows `expire_overdue` goes through are distinct. -/
theorem nodup_overdue (now : ℚ) (table : WorkflowTable) :
    ((overdue now table).map WorkflowInstance.workflowId).Nodup := by
  have listed : ((pendingRows table).map fun row =>
      row.fullJson.fromJson now).map WorkflowInstance.workflowId =
        (pendingRows table).map WorkflowRow.workflowId := by
    rw [List.map_map]
    exact List.map_congr_left fun row _ => row.identified
  refine List.Nodup.sublist (List.filter_sublist.map _) ?_
  rw [listed]
  exact nodup_pendingRows table

theorem exists_expire_run (state : EngineState WorkflowTable) (now : ℚ)
    (workflowId actor notes : String) :
    ∃ result after, settings.overSQLite.expire now workflowId actor notes state =
      .ok result after := by
  rw [expire_run]
  split
  · exact ⟨_, _, settings.revise_run state now workflowId _⟩
  · exact ⟨_, _, rfl⟩

theorem expireEach_after (now : ℚ) (actor : String) (insts : List WorkflowInstance)
    (state : EngineState WorkflowTable) :
    (settings.overSQLite.expireEach now actor insts).after state =
      runAll settings.step (insts.map fun inst => .call (expiry now actor inst.workflowId))
        state := by
  induction insts generalizing state with
  | nil => rfl
  | cons inst rest ih =>
    obtain ⟨result, after, run⟩ := settings.exists_expire_run state now inst.workflowId actor
      WorkflowEngine.expiryNotes
    have first : settings.step (.call (expiry now actor inst.workflowId)) state = after :=
      after_of_ok run
    rw [List.map_cons, runAll, List.foldl_cons, first]
    calc (settings.overSQLite.expireEach now actor (inst :: rest)).after state
        = ((result.toList ++ ·) <$> settings.overSQLite.expireEach now actor rest).after after :=
          after_bind_of_ok run
      _ = (settings.overSQLite.expireEach now actor rest).after after := after_map ..
      _ = _ := ih after

theorem step_expireOverdue (now : ℚ) (actor : String) (state : EngineState WorkflowTable) :
    settings.step (.expireOverdue now actor) state = runAll settings.step
        ((overdue now state.store).map fun inst => .call (expiry now actor inst.workflowId))
        state :=
  settings.expireEach_after now actor (overdue now state.store) state

theorem step_expireOverdue_invariant (holds : EngineState WorkflowTable → Prop)
    {now : ℚ} {actor : String} {state : EngineState WorkflowTable} (initial : holds state)
    (kept : ∀ inst ∈ overdue now state.store, ∀ before, holds before →
      holds (settings.step (.call (expiry now actor inst.workflowId)) before)) :
    holds (settings.step (.expireOverdue now actor) state) := by
  rw [step_expireOverdue]
  refine runAll_invariant holds initial fun operation member => ?_
  obtain ⟨inst, listed, rfl⟩ := List.mem_map.mp member
  exact kept inst listed

def newInstance (now : ℚ) (request : ReviewRequest) (workflowId : String) : WorkflowInstance :=
  .make now workflowId request.decisionId request.agentId request.decisionType request.riskScore
    (request.violations ++ request.warnings.getD [])
    (request.slaMinutes.getD settings.defaultSlaMinutes) request.assignedTo request.escalateTo

theorem createFromDecision_run (now : ℚ) (request : ReviewRequest)
    (state : EngineState WorkflowTable) :
    settings.overSQLite.createFromDecision now request state =
      match KeyedRows.find WorkflowRow.decisionId state.store.rows request.decisionId with
      | some row => .ok (row.fullJson.fromJson now) state
      | none =>
        let inst := settings.newInstance now request (settings.uuid4 state.drawn)
        match state.store.insert (.ofInstance now inst) with
        | some table => .ok inst { state with drawn := state.drawn + 1, store := table }
        | none => .error integrityError
            { state with drawn := state.drawn + 1 } := by
  have asked : WorkflowEngine.onStore
      (settings.overSQLite.repo.getByDecision now request.decisionId) state =
        .ok ((KeyedRows.find WorkflowRow.decisionId state.store.rows request.decisionId).map
          fun row => row.fullJson.fromJson now) state := rfl
  refine (bind_of_ok asked).trans ?_
  cases KeyedRows.find WorkflowRow.decisionId state.store.rows request.decisionId with
  | some row => rfl
  | none =>
    let inst := settings.newInstance now request (settings.uuid4 state.drawn)
    have created : SQLiteWorkflowRepository.create now inst state.store =
        match state.store.insert (.ofInstance now inst) with
        | some table => .ok () table
        | none => .error integrityError state.store := by
      refine (bind_of_ok (get_run state.store)).trans ?_
      cases state.store.insert (.ofInstance now inst) <;> rfl
    have drawn : settings.overSQLite.newUuid state =
        .ok (settings.uuid4 state.drawn) { state with drawn := state.drawn + 1 } := rfl
    refine (bind_of_ok drawn).trans ?_
    cases added : state.store.insert (.ofInstance now inst) with
    | some table =>
      rw [added] at created
      simp only [added, inst]
      exact bind_of_ok (zoom_of_ok created)
    | none =>
      rw [added] at created
      simp only [added, inst]
      exact bind_of_error (zoom_of_error created)

end EngineSettings

namespace Revision

variable (revision : Revision) (now : ℚ) (stepId : String) (document : WorkflowDocument)

def rewritten : WorkflowDocument :=
  ((revision.change stepId (document.fromJson now)).touched now).toDict now

theorem workflowId_rewritten :
    (revision.rewritten now stepId document).workflowId = document.workflowId :=
  (revision.extended stepId (document.fromJson now)).workflowId

theorem state_rewritten :
    (revision.rewritten now stepId document).state = revision.next document.state :=
  revision.moved stepId (document.fromJson now)

/-- The steps are the ones the document had, as they are read back, and the new one. -/
theorem steps_rewritten : (revision.rewritten now stepId document).steps =
      document.steps.map (WorkflowStep.reread now) ++
        [revision.step stepId (document.fromJson now)] :=
  (revision.extended stepId (document.fromJson now)).steps

end Revision

namespace EngineSettings

variable (settings : EngineSettings)

theorem document_revised (revision : Revision) (state : EngineState WorkflowTable) (now : ℚ)
    (workflowId other : String) :
    (settings.revised state now workflowId revision.change).store.document other =
      if other = workflowId then
        (state.store.document workflowId).map
          (revision.rewritten now (settings.uuid4 state.drawn))
      else state.store.document other := by
  unfold revised WorkflowTable.load
  cases held : state.store.document workflowId with
  | none =>
    by_cases same : other = workflowId
    · simp [same, held]
    · simp [same]
  | some document =>
    have identified : (revision.rewritten now (settings.uuid4 state.drawn) document).workflowId =
        workflowId :=
      (revision.workflowId_rewritten now _ document).trans
        (WorkflowTable.workflowId_of_document held)
    by_cases same : other = workflowId
    · subst same
      have saved := WorkflowTable.document_update_self state.store
        (revision.rewritten now (settings.uuid4 state.drawn) document)
      rw [identified, held] at saved
      rw [if_pos rfl]
      exact saved
    · have kept := WorkflowTable.document_update_of_ne state.store
        (identified.symm ▸ same : other ≠
          (revision.rewritten now (settings.uuid4 state.drawn) document).workflowId)
      rw [if_neg same]
      exact kept

end EngineSettings

namespace ReviewCall

variable (settings : EngineSettings) (state : EngineState WorkflowTable) (call : ReviewCall)

def rewritten (document : WorkflowDocument) : WorkflowDocument :=
  match call.revision settings state with
  | none => document
  | some revision => revision.rewritten call.now (settings.uuid4 state.drawn) document

def next (before : WorkflowState) : WorkflowState :=
  match call.revision settings state with
  | none => before
  | some revision => revision.next before

theorem next_of_load {inst : WorkflowInstance}
    (loaded : state.store.load call.now call.workflowId = some inst) (before : WorkflowState) :
    call.next settings state before =
      if call.admits inst then (call.writes (call.voters settings state)).next before
      else before := by
  unfold next revision
  rw [loaded, Option.any_some]
  by_cases admitted : call.admits inst = true
  · rw [if_pos admitted, if_pos admitted]
  · rw [if_neg admitted, if_neg admitted]

theorem state_rewritten (document : WorkflowDocument) :
    (call.rewritten settings state document).state = call.next settings state document.state := by
  unfold rewritten next
  cases call.revision settings state with
  | none => rfl
  | some revision => exact revision.state_rewritten _ _ document

end ReviewCall

namespace EngineSettings

variable (settings : EngineSettings) (state : EngineState WorkflowTable) {workflowId : String}

theorem document_step_call (call : ReviewCall) (workflowId : String) :
    (settings.step (.call call) state).store.document workflowId =
      if workflowId = call.workflowId then
        (state.store.document call.workflowId).map (call.rewritten settings state)
      else state.store.document workflowId := by
  rw [step, call.store_after_program settings state]
  unfold ReviewCall.rewritten
  cases call.revision settings state with
  | none =>
    by_cases same : workflowId = call.workflowId
    · simp [same]
    · rw [if_neg same]
  | some revision => exact settings.document_revised revision state _ _ workflowId

theorem document_step_call_of_ne {call : ReviewCall} (other : workflowId ≠ call.workflowId) :
    (settings.step (.call call) state).store.document workflowId =
      state.store.document workflowId := by
  rw [document_step_call, if_neg other]

theorem persistedState_step_call (call : ReviewCall) (workflowId : String) :
    (settings.step (.call call) state).store.persistedState workflowId =
      if workflowId = call.workflowId then
        (state.store.persistedState call.workflowId).map (call.next settings state)
      else state.store.persistedState workflowId := by
  simp only [WorkflowTable.persistedState_eq, document_step_call]
  by_cases same : workflowId = call.workflowId
  · rw [if_pos same, if_pos same, Option.map_map, Option.map_map]
    exact Option.map_congr fun document _ => call.state_rewritten settings state document
  · rw [if_neg same, if_neg same]

/-- `create_from_decision` leaves the table alone, or inserts the row of a new workflow. -/
theorem store_step_createFromDecision (now : ℚ) (request : ReviewRequest) :
    (settings.step (.createFromDecision now request) state).store = state.store ∨
      state.store.insert (.ofInstance now
        (settings.newInstance now request (settings.uuid4 state.drawn))) =
          some (settings.step (.createFromDecision now request) state).store := by
  have run := settings.createFromDecision_run now request state
  cases found : KeyedRows.find WorkflowRow.decisionId state.store.rows request.decisionId with
  | some row =>
    rw [found] at run
    exact .inl (congrArg EngineState.store (after_of_ok run))
  | none =>
    rw [found] at run
    dsimp only at run
    cases added : state.store.insert (.ofInstance now
        (settings.newInstance now request (settings.uuid4 state.drawn))) with
    | some table =>
      rw [added] at run
      rw [step, after_of_ok run]
      exact .inr rfl
    | none =>
      rw [added] at run
      rw [step, after_of_error run]
      exact .inl rfl

theorem document_step_createFromDecision (now : ℚ) (request : ReviewRequest)
    {document : WorkflowDocument} (held : state.store.document workflowId = some document) :
    (settings.step (.createFromDecision now request) state).store.document workflowId =
      some document := by
  rcases settings.store_step_createFromDecision state now request with same | added
  · rw [same]
    exact held
  · exact WorkflowTable.document_of_insert added held

/-- The identifiers of one workflow and of its steps. -/
def sampleSettings : EngineSettings where
  uuid4
    | 0 => "workflow"
    | 1 => "first"
    | 2 => "second"
    | _ => "later"

def sampleRequest : ReviewRequest where
  decisionId := "decision"
  agentId := "agent"
  decisionType := "payment.create"
  riskScore := 1 / 2
  violations := []

def newEngine : EngineState WorkflowTable where
  store := .empty

def sampleCall (now : ℚ) (actor : String) (kind : ReviewKind) : ReviewOperation :=
  .call { now := now, workflowId := "workflow", actor := actor, notes := "", kind := kind }

def sampleRun (operations : List ReviewOperation) : EngineState WorkflowTable :=
  runAll sampleSettings.step (.createFromDecision 0 sampleRequest :: operations) newEngine

end EngineSettings

end GlassBox
