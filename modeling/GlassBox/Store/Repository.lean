import GlassBox.Domain.Errors
import GlassBox.Foundation.KeyedRows
import GlassBox.Foundation.Program

/-!
# The workflow repository

`store/repository.py`.  The repository keeps one row a workflow, whose `full_json` column holds the
whole object, and loading rebuilds the object from that document.  Every reading of the wall clock
inside one operation gives the same instant.
-/

namespace GlassBox

/-- `WorkflowInstance.STATES`. -/
inductive WorkflowState
  | pending
  | inReview
  | approved
  | rejected
  | escalated
  | timedOut
  | expired
  | revoked
  deriving DecidableEq

/-- `state in ("pending", "in_review")`. -/
def WorkflowState.awaitsReview : WorkflowState → Bool
  | .pending | .inReview => true
  | _ => false

/-- The `step_type` of a step. -/
inductive StepType
  | review
  | approve
  | reject
  | escalate
  | expire
  | revoke
  | comment
  deriving DecidableEq

/-- The `outcome` of a step. -/
inductive StepOutcome
  | pending
  | approved
  | rejected
  | escalated
  | expired
  | revoked
  | partialApproval
  deriving DecidableEq

structure WorkflowStep where
  stepId : String
  workflowId : String
  stepType : StepType
  actor : Option String
  notes : String
  outcome : StepOutcome
  createdAt : ℚ
  completedAt : Option ℚ
  deriving DecidableEq

structure WorkflowInstance where
  workflowId : String
  decisionId : String
  agentId : String
  decisionType : String
  riskScore : ℚ
  violations : List String
  slaMinutes : Int
  assignedTo : Option String
  escalateTo : Option String
  state : WorkflowState
  steps : List WorkflowStep
  approvalActors : List String
  createdAt : ℚ
  updatedAt : ℚ
  resolvedAt : Option ℚ
  deriving DecidableEq

/-- What `to_dict` renders, and `json.loads` reads back. -/
structure WorkflowDocument where
  workflowId : String
  decisionId : String
  agentId : String
  decisionType : String
  riskScore : ℚ
  violations : List String
  slaMinutes : Int
  assignedTo : Option String
  escalateTo : Option String
  state : WorkflowState
  steps : List WorkflowStep
  createdAt : ℚ
  updatedAt : ℚ
  resolvedAt : Option ℚ
  slaBreached : Bool
  deriving DecidableEq

def WorkflowStep.make (now : ℚ) (stepId workflowId : String) (stepType : StepType)
    (actor : Option String) (notes : String) (outcome : StepOutcome) : WorkflowStep :=
  { stepId, workflowId, stepType, actor, notes, outcome, createdAt := now, completedAt := none }

namespace WorkflowInstance

/-- A pending workflow without steps. -/
def make (now : ℚ) (workflowId decisionId agentId decisionType : String) (riskScore : ℚ)
    (violations : List String) (slaMinutes : Int) (assignedTo escalateTo : Option String) :
    WorkflowInstance where
  workflowId := workflowId
  decisionId := decisionId
  agentId := agentId
  decisionType := decisionType
  riskScore := riskScore
  violations := violations
  slaMinutes := slaMinutes
  assignedTo := assignedTo
  escalateTo := escalateTo
  state := .pending
  steps := []
  approvalActors := []
  createdAt := now
  updatedAt := now
  resolvedAt := none

/-- Whether the review is overdue. -/
def isSlaBreached (now : ℚ) (inst : WorkflowInstance) : Bool :=
  now - inst.createdAt > inst.slaMinutes * 60

def resolved (inst : WorkflowInstance) (state : WorkflowState) (step : WorkflowStep) :
    WorkflowInstance :=
  { inst with state := state, resolvedAt := some (step.completedAt.getD inst.updatedAt) }

/-- The outcome of the step moves the state. -/
def addStep (now : ℚ) (step : WorkflowStep) (inst : WorkflowInstance) : WorkflowInstance :=
  let inst := { inst with steps := inst.steps ++ [step], updatedAt := now }
  match step.outcome with
  | .approved => inst.resolved .approved step
  | .rejected => inst.resolved .rejected step
  | .escalated => { inst with state := .escalated }
  | .expired => inst.resolved .expired step
  | .revoked => inst.resolved .revoked step
  | .pending | .partialApproval => inst

/-- The object with the `updated_at` which a save gives it. -/
def touched (now : ℚ) (inst : WorkflowInstance) : WorkflowInstance := { inst with updatedAt := now }

def toDict (now : ℚ) (inst : WorkflowInstance) : WorkflowDocument where
  workflowId := inst.workflowId
  decisionId := inst.decisionId
  agentId := inst.agentId
  decisionType := inst.decisionType
  riskScore := inst.riskScore
  violations := inst.violations
  slaMinutes := inst.slaMinutes
  assignedTo := inst.assignedTo
  escalateTo := inst.escalateTo
  state := inst.state
  steps := inst.steps
  createdAt := inst.createdAt
  updatedAt := inst.updatedAt
  resolvedAt := inst.resolvedAt
  slaBreached := inst.isSlaBreached now

end WorkflowInstance

/-- The step `_from_json` rebuilds: the constructor sets its times anew. -/
def WorkflowStep.reread (now : ℚ) (step : WorkflowStep) : WorkflowStep :=
  .make now step.stepId step.workflowId step.stepType step.actor step.notes step.outcome

def WorkflowDocument.fromJson (now : ℚ) (document : WorkflowDocument) : WorkflowInstance :=
  let inst := WorkflowInstance.make now document.workflowId document.decisionId document.agentId
    document.decisionType document.riskScore document.violations document.slaMinutes
    document.assignedTo document.escalateTo
  { inst with
    state := document.state
    createdAt := document.createdAt
    updatedAt := document.updatedAt
    resolvedAt := document.resolvedAt
    steps := document.steps.map (WorkflowStep.reread now) }

/-- `WorkflowRepository`; every method reads the clock. -/
structure WorkflowRepository (ρ : Type) where
  create : ℚ → WorkflowInstance → EStateM PyError ρ Unit
  get : ℚ → String → EStateM PyError ρ (Option WorkflowInstance)
  getByDecision : ℚ → String → EStateM PyError ρ (Option WorkflowInstance)
  /-- The object which was passed in, with the `updated_at` the method gave it. -/
  update : ℚ → WorkflowInstance → EStateM PyError ρ WorkflowInstance
  listPending : ℚ → EStateM PyError ρ (List WorkflowInstance)
  listSlaBreached : ℚ → EStateM PyError ρ (List WorkflowInstance)

/-- A row of `workflows`, without the columns no statement reads.  Both statements which write a row
take its identifier and its state from the object they render. -/
structure WorkflowRow where
  workflowId : String
  decisionId : String
  state : WorkflowState
  createdAt : ℚ
  fullJson : WorkflowDocument
  identified : fullJson.workflowId = workflowId
  stated : fullJson.state = state
  deriving DecidableEq

/-- The row `create` inserts. -/
def WorkflowRow.ofInstance (now : ℚ) (inst : WorkflowInstance) : WorkflowRow where
  workflowId := inst.workflowId
  decisionId := inst.decisionId
  state := inst.state
  createdAt := inst.createdAt
  fullJson := inst.toDict now
  identified := rfl
  stated := rfl

/-- The `UPDATE` of one row, which leaves its identifiers and its creation time. -/
def WorkflowRow.updated (document : WorkflowDocument) (row : WorkflowRow) : WorkflowRow :=
  if same : document.workflowId = row.workflowId then
    { row with
      state := document.state
      fullJson := document
      identified := same
      stated := rfl }
  else row

@[simp]
theorem WorkflowRow.workflowId_updated (document : WorkflowDocument) (row : WorkflowRow) :
    (row.updated document).workflowId = row.workflowId := by
  unfold updated
  split <;> rfl

@[simp]
theorem WorkflowRow.decisionId_updated (document : WorkflowDocument) (row : WorkflowRow) :
    (row.updated document).decisionId = row.decisionId := by
  unfold updated
  split <;> rfl

/-- The table `workflows`, with its `PRIMARY KEY` and its `UNIQUE` constraint. -/
@[ext]
structure WorkflowTable where
  rows : List WorkflowRow
  workflowIds : (rows.map WorkflowRow.workflowId).Nodup
  decisionIds : (rows.map WorkflowRow.decisionId).Nodup

namespace WorkflowTable

def empty : WorkflowTable := ⟨[], List.nodup_nil, List.nodup_nil⟩

def row (table : WorkflowTable) (workflowId : String) : Option WorkflowRow :=
  KeyedRows.find WorkflowRow.workflowId table.rows workflowId

/-- The `INSERT`, which fails when it would repeat an identifier. -/
def insert (table : WorkflowTable) (new : WorkflowRow) : Option WorkflowTable :=
  if fresh : new.workflowId ∉ table.rows.map WorkflowRow.workflowId ∧
      new.decisionId ∉ table.rows.map WorkflowRow.decisionId then
    some {
      rows := table.rows ++ [new]
      workflowIds := KeyedRows.nodup_append table.workflowIds fresh.1
      decisionIds := KeyedRows.nodup_append table.decisionIds fresh.2 }
  else none

/-- The `UPDATE`. -/
def update (table : WorkflowTable) (document : WorkflowDocument) : WorkflowTable where
  rows := KeyedRows.rewrite WorkflowRow.workflowId table.rows document.workflowId
    (.updated document)
  workflowIds := by
    rw [KeyedRows.map_rewrite _ (WorkflowRow.workflowId_updated document)]
    exact table.workflowIds
  decisionIds := by
    rw [KeyedRows.map_rewrite _ (WorkflowRow.decisionId_updated document)]
    exact table.decisionIds

def document (table : WorkflowTable) (workflowId : String) : Option WorkflowDocument :=
  (table.row workflowId).map WorkflowRow.fullJson

/-- The `state` column of a workflow. -/
def persistedState (table : WorkflowTable) (workflowId : String) : Option WorkflowState :=
  (table.row workflowId).map WorkflowRow.state

theorem persistedState_eq (table : WorkflowTable) (workflowId : String) :
    table.persistedState workflowId = (table.document workflowId).map WorkflowDocument.state := by
  rw [persistedState, document, Option.map_map]
  exact Option.map_congr fun row _ => row.stated.symm

variable {table : WorkflowTable} {workflowId : String} {document : WorkflowDocument}
  {inserted : WorkflowTable} {new : WorkflowRow}

theorem workflowId_of_document (held : table.document workflowId = some document) :
    document.workflowId = workflowId := by
  obtain ⟨row, found, rfl⟩ := Option.map_eq_some_iff.mp held
  exact row.identified.trans (KeyedRows.key_of_find found)

theorem document_update_self (table : WorkflowTable) (document : WorkflowDocument) :
    (table.update document).document document.workflowId =
      (table.document document.workflowId).map fun _ => document := by
  have found := @KeyedRows.find_rewrite_self _ _ _ WorkflowRow.workflowId table.rows
    document.workflowId (.updated document) (WorkflowRow.workflowId_updated document)
  simp only [WorkflowTable.document, row, update, found, Option.map_map]
  refine Option.map_congr fun row member => ?_
  exact congrArg WorkflowRow.fullJson (dif_pos (KeyedRows.key_of_find member).symm)

theorem update_update (table : WorkflowTable) (document : WorkflowDocument) :
    (table.update document).update document = table.update document := by
  refine WorkflowTable.ext ?_
  simp only [update, KeyedRows.rewrite, List.map_map]
  refine List.map_congr_left fun row _ => ?_
  by_cases same : row.workflowId = document.workflowId <;>
    simp [same, WorkflowRow.updated]

theorem document_update_of_ne (table : WorkflowTable) (other : workflowId ≠ document.workflowId) :
    (table.update document).document workflowId = table.document workflowId := by
  simp only [WorkflowTable.document, row, update,
    KeyedRows.find_rewrite_of_ne (WorkflowRow.workflowId_updated document) other]

section

variable (added : table.insert new = some inserted)
include added

theorem rows_of_insert :
    inserted.rows = table.rows ++ [new] ∧
      new.workflowId ∉ table.rows.map WorkflowRow.workflowId ∧
      new.decisionId ∉ table.rows.map WorkflowRow.decisionId := by
  unfold insert at added
  split at added
  case isTrue fresh =>
    cases added
    exact ⟨rfl, fresh⟩
  case isFalse => cases added

theorem document_of_insert (held : table.document workflowId = some document) :
    inserted.document workflowId = some document := by
  obtain ⟨rows, fresh, -⟩ := rows_of_insert added
  obtain ⟨row, found, rfl⟩ := Option.map_eq_some_iff.mp held
  have other : workflowId ≠ new.workflowId := by
    rintro rfl
    exact Option.some_ne_none row (found.symm.trans (KeyedRows.find_eq_none_iff.mpr fresh))
  rw [WorkflowTable.document, WorkflowTable.row, rows, KeyedRows.find_append_of_fresh other]
  exact congrArg (Option.map WorkflowRow.fullJson) found

theorem persistedState_of_insert (workflowId : String) :
    inserted.persistedState workflowId =
      if workflowId = new.workflowId then some new.state else table.persistedState workflowId := by
  obtain ⟨rows, fresh, -⟩ := rows_of_insert added
  rw [persistedState, WorkflowTable.row, rows]
  by_cases same : workflowId = new.workflowId
  · subst same
    rw [KeyedRows.find_append_added fresh, if_pos rfl, Option.map_some]
  · rw [KeyedRows.find_append_of_fresh same, if_neg same]
    rfl

end

/-- The object `get` rebuilds. -/
def load (table : WorkflowTable) (now : ℚ) (workflowId : String) : Option WorkflowInstance :=
  (table.document workflowId).map (WorkflowDocument.fromJson now)

/-- The table after `update`. -/
def save (table : WorkflowTable) (now : ℚ) (inst : WorkflowInstance) : WorkflowTable :=
  table.update ((inst.touched now).toDict now)

theorem exists_load_of_persistedState (now : ℚ) {state : WorkflowState}
    (held : table.persistedState workflowId = some state) :
    ∃ inst, table.load now workflowId = some inst := by
  rw [persistedState_eq] at held
  obtain ⟨document, found, -⟩ := Option.map_eq_some_iff.mp held
  exact ⟨document.fromJson now, by rw [load, found, Option.map_some]⟩

end WorkflowTable

namespace SQLiteWorkflowRepository

/-- What SQLite raises when a constraint is violated. -/
def integrityError : PyError :=
  { cls := .other "IntegrityError", message := "UNIQUE constraint failed" }

/-- A taken identifier raises. -/
def create (now : ℚ) (inst : WorkflowInstance) : EStateM PyError WorkflowTable Unit := do
  match (← get).insert (.ofInstance now inst) with
  | some table => set table
  | none => throw integrityError

/-- The row with a value in a column. -/
def loadBy (column : WorkflowRow → String) (now : ℚ) (value : String) :
    EStateM PyError WorkflowTable (Option WorkflowInstance) := do
  return (KeyedRows.find column (← get).rows value).map fun row => row.fullJson.fromJson now

/-- Writes the whole row again. -/
def update (now : ℚ) (inst : WorkflowInstance) :
    EStateM PyError WorkflowTable WorkflowInstance := do
  let inst := inst.touched now
  modify fun table => table.update (inst.toDict now)
  return inst

/-- The rows `list_pending` selects. -/
def pendingRows (table : WorkflowTable) : List WorkflowRow :=
  (table.rows.filter fun row => row.state.awaitsReview).insertionSort
    fun first second => first.createdAt ≤ second.createdAt

theorem nodup_pendingRows (table : WorkflowTable) :
    ((pendingRows table).map WorkflowRow.workflowId).Nodup := by
  have sorted := (List.perm_insertionSort (fun first second : WorkflowRow =>
    first.createdAt ≤ second.createdAt) (table.rows.filter fun row => row.state.awaitsReview)).map
      WorkflowRow.workflowId
  exact sorted.nodup_iff.mpr (table.workflowIds.sublist (List.filter_sublist.map _))

/-- The oldest comes first. -/
def listPending (now : ℚ) : EStateM PyError WorkflowTable (List WorkflowInstance) := do
  return (pendingRows (← get)).map fun row => row.fullJson.fromJson now

/-- The pending ones which are overdue. -/
def listSlaBreached (now : ℚ) : EStateM PyError WorkflowTable (List WorkflowInstance) := do
  return (← listPending now).filter (WorkflowInstance.isSlaBreached now)

end SQLiteWorkflowRepository

def SQLiteWorkflowRepository : WorkflowRepository WorkflowTable where
  create := SQLiteWorkflowRepository.create
  get := SQLiteWorkflowRepository.loadBy WorkflowRow.workflowId
  getByDecision := SQLiteWorkflowRepository.loadBy WorkflowRow.decisionId
  update := SQLiteWorkflowRepository.update
  listPending := SQLiteWorkflowRepository.listPending
  listSlaBreached := SQLiteWorkflowRepository.listSlaBreached

namespace SQLiteWorkflowRepository

theorem get_run (now : ℚ) (workflowId : String) (table : WorkflowTable) :
    SQLiteWorkflowRepository.get now workflowId table = .ok (table.load now workflowId) table := by
  simp only [WorkflowTable.load, WorkflowTable.document, Option.map_map]
  rfl

end SQLiteWorkflowRepository

end GlassBox
