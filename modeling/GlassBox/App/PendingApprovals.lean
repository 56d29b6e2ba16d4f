import GlassBox.App.ApprovalService
import GlassBox.Workflow.Operations

/-!
# Approvals under review

`list_pending` selects rows by their state, `expire` looks at the state of the object, and the
service shows a state of its own.  They agree on every workflow but an escalated one.
-/

namespace GlassBox

/-- The approval still waits for a decision. -/
def ApprovalState.isOpen (state : ApprovalState) : Bool := state = .pending ∨ state = .inReview

/-- What the service shows under review: what awaits review, what is escalated and what timed
out. -/
theorem WorkflowState.isOpen_projected_iff (state : WorkflowState) :
    state.projected.isOpen = true ↔
      state.awaitsReview = true ∨ state = .escalated ∨ state = .timedOut := by
  cases state <;> decide

namespace EngineSettings

variable (settings : EngineSettings) {table : WorkflowTable} {now : ℚ} {row : WorkflowRow}
  {state : EngineState WorkflowTable} {workflowId : String} {document : WorkflowDocument}

def approvals : ApprovalService WorkflowTable where
  workflowEngine := some settings.overSQLite

/-- The record of a row, as the service shows it. -/
def recordOf (now : ℚ) (row : WorkflowRow) : ApprovalRecord :=
  (row.fullJson.fromJson now).project now

theorem workflowId_recordOf (now : ℚ) (row : WorkflowRow) :
    (recordOf now row).workflowId = row.workflowId := row.identified

theorem state_recordOf (now : ℚ) (row : WorkflowRow) :
    (recordOf now row).state = row.state.projected :=
  congrArg WorkflowState.projected row.stated

/-- The records of the workflows whose approval waits for a decision. -/
def underReview (now : ℚ) (table : WorkflowTable) : List ApprovalRecord :=
  (table.rows.map (recordOf now)).filter fun record => record.state.isOpen

/-- The records `list_pending` returns. -/
def listed (now : ℚ) (table : WorkflowTable) : List ApprovalRecord :=
  (SQLiteWorkflowRepository.pendingRows table).map (recordOf now)

theorem listPending_run (now : ℚ) (state : EngineState WorkflowTable) :
    settings.approvals.listPending now state = .ok (listed now state.store) state := by
  have selected : WorkflowEngine.onStore (settings.overSQLite.repo.listPending now) state =
      .ok ((SQLiteWorkflowRepository.pendingRows state.store).map fun row =>
        row.fullJson.fromJson now) state := rfl
  have required : settings.approvals.requireEngine state = .ok settings.overSQLite state := rfl
  refine (EStateM.bind_of_ok required).trans ((EStateM.bind_of_ok selected).trans ?_)
  rw [List.map_map]
  rfl

theorem listed_perm (now : ℚ) (table : WorkflowTable) : (listed now table).Perm
      ((table.rows.filter fun row => row.state.awaitsReview).map (recordOf now)) :=
  (List.perm_insertionSort _ _).map _

theorem underReview_eq (now : ℚ) (table : WorkflowTable) :
    underReview now table =
      (table.rows.filter fun row => row.state.projected.isOpen).map (recordOf now) := by
  rw [underReview, List.filter_map]
  congr 1
  exact List.filter_congr fun row _ => by rw [Function.comp_apply, state_recordOf]

theorem eq_of_mem_rows {first second : WorkflowRow} (first_mem : first ∈ table.rows)
    (second_mem : second ∈ table.rows) (same : first.workflowId = second.workflowId) :
    first = second := by
  have found := KeyedRows.find_of_mem table.workflowIds first_mem
  rw [same, KeyedRows.find_of_mem table.workflowIds second_mem] at found
  exact (Option.some.inj found).symm

/-- Nothing under review is missing from the list when no workflow is escalated or timed out. -/
theorem listed_perm_underReview (now : ℚ)
    (settled : ∀ row ∈ table.rows, row.state ≠ .escalated ∧ row.state ≠ .timedOut) :
    (listed now table).Perm (underReview now table) := by
  have selected : (table.rows.filter fun row => row.state.awaitsReview) =
      table.rows.filter fun row => row.state.projected.isOpen := by
    refine List.filter_congr fun row member => ?_
    rw [Bool.eq_iff_iff, WorkflowState.isOpen_projected_iff]
    exact (or_iff_left (not_or.mpr (settled row member))).symm
  rw [underReview_eq, ← selected]
  exact listed_perm now table

theorem not_escalated_of_listed (exact_list : (listed now table).Perm (underReview now table))
    (member : row ∈ table.rows) : row.state ≠ .escalated := by
  intro escalated
  have shown : recordOf now row ∈ underReview now table := by
    rw [underReview_eq]
    refine List.mem_map_of_mem (List.mem_filter.mpr ⟨member, ?_⟩)
    exact (WorkflowState.isOpen_projected_iff _).mpr (.inr (.inl escalated))
  obtain ⟨other, other_mem, same⟩ := List.mem_map.mp
    ((listed_perm now table).mem_iff.mp (exact_list.mem_iff.mpr shown))
  obtain ⟨other_row, awaits⟩ := List.mem_filter.mp other_mem
  have identified : other.workflowId = row.workflowId := by
    rw [← workflowId_recordOf now other, same, workflowId_recordOf]
  rw [eq_of_mem_rows other_row member identified, escalated] at awaits
  cases awaits

theorem after_expireOverdue (now : ℚ) (actor : String) (state : EngineState WorkflowTable) :
    (settings.approvals.expireOverdue now actor).after state =
      settings.step (.expireOverdue now actor) state :=
  EStateM.after_map ..

/-- `expire` moves a workflow which awaits review after its deadline. -/
theorem persistedState_expiry (actor : String)
    (held : state.store.document workflowId = some document)
    (overdue : expires now (document.fromJson now) = true) :
    (settings.step (.call (expiry now actor workflowId)) state).store.persistedState workflowId =
      some .expired := by
  have loaded : state.store.load now workflowId = some (document.fromJson now) := by
    rw [WorkflowTable.load, held, Option.map_some]
  have moved := ReviewCall.next_of_load settings state (expiry now actor workflowId) loaded
    document.state
  have found : state.store.persistedState (expiry now actor workflowId).workflowId =
      some document.state := by
    rw [WorkflowTable.persistedState_eq]
    exact congrArg (Option.map WorkflowDocument.state) held
  rw [persistedState_step_call, found, Option.map_some, moved]
  exact (if_pos rfl).trans (congrArg some (if_pos overdue))

/-- A run of `expire` over distinct workflows moves each one which awaits review after its
deadline. -/
theorem persistedState_expiries (actor : String) {insts : List WorkflowInstance}
    (distinct : (insts.map WorkflowInstance.workflowId).Nodup)
    (overdue : expires now (document.fromJson now) = true)
    (member : workflowId ∈ insts.map WorkflowInstance.workflowId)
    (held : state.store.document workflowId = some document) :
    (runAll settings.step (insts.map fun inst => .call (expiry now actor inst.workflowId))
      state).store.persistedState workflowId = some .expired := by
  induction insts generalizing state with
  | nil => cases member
  | cons inst rest ih =>
    rw [List.map_cons, List.nodup_cons] at distinct
    rw [List.map_cons, runAll, List.foldl_cons]
    by_cases same : workflowId = inst.workflowId
    · subst same
      -- the later calls are on other workflows
      refine runAll_invariant
        (fun after : EngineState WorkflowTable =>
          after.store.persistedState inst.workflowId = some .expired)
        (settings.persistedState_expiry actor held overdue) ?_
      intro operation later before expired
      obtain ⟨other, other_mem, rfl⟩ := List.mem_map.mp later
      have different : inst.workflowId ≠ other.workflowId := by
        intro same
        exact distinct.1 (same ▸ List.mem_map_of_mem other_mem)
      rw [persistedState_step_call]
      exact (if_neg different).trans expired
    · refine ih distinct.2 ((List.mem_cons.mp member).resolve_left same) ?_
      rw [settings.document_step_call_of_ne state same]
      exact held

/-- `expire_overdue` moves every workflow which awaits review after its deadline. -/
theorem persistedState_expireOverdue (actor : String) (member : row ∈ state.store.rows)
    (awaits : row.state.awaitsReview = true)
    (late : (row.fullJson.fromJson now).isSlaBreached now = true) :
    (settings.step (.expireOverdue now actor) state).store.persistedState row.workflowId =
      some .expired := by
  have held : state.store.document row.workflowId = some row.fullJson :=
    congrArg (Option.map WorkflowRow.fullJson)
      (KeyedRows.find_of_mem state.store.workflowIds member)
  have found : (row.fullJson.fromJson now).workflowId = row.workflowId := row.identified
  have stated : (row.fullJson.fromJson now).state = row.state := row.stated
  have selected : row.fullJson.fromJson now ∈ overdue now state.store := by
    refine List.mem_filter.mpr ⟨List.mem_map_of_mem ?_, late⟩
    exact (List.perm_insertionSort _ _).mem_iff.mpr (List.mem_filter.mpr ⟨member, awaits⟩)
  rw [step_expireOverdue]
  refine settings.persistedState_expiries actor (nodup_overdue now state.store) ?_ ?_ held
  · rw [expires, stated, awaits, late, Bool.and_self]
  · exact found ▸ List.mem_map_of_mem selected

def NoneTimedOut (state : EngineState WorkflowTable) : Prop :=
  ∀ workflowId, state.store.persistedState workflowId ≠ some .timedOut

theorem next_writes_ne_timedOut (call : ReviewCall) (actors : List String)
    {before : WorkflowState} (other : before ≠ .timedOut) :
    (call.writes actors).next before ≠ .timedOut := by
  have approved (minApprovers : Int) :
      (approval call.now call.actor call.notes actors minApprovers).next before ≠ .timedOut := by
    rw [next_approval]
    split
    · nofun
    · exact other
  unfold ReviewCall.writes
  cases call.kind with
  | startReview => nofun
  | approve minApprovers | quorumApprove minApprovers => exact approved minApprovers
  | reject | escalate escalateTo | expire | revoke => nofun
  | addComment => exact other

theorem noneTimedOut_step_call (call : ReviewCall) (before : NoneTimedOut state) :
    NoneTimedOut (settings.step (.call call) state) := by
  intro workflowId
  rw [persistedState_step_call]
  by_cases same : workflowId = call.workflowId
  · rw [if_pos same]
    intro timed
    obtain ⟨old, held, moved⟩ := Option.map_eq_some_iff.mp timed
    have other : old ≠ .timedOut := by
      rintro rfl
      exact before call.workflowId held
    obtain ⟨inst, loaded⟩ := WorkflowTable.exists_load_of_persistedState call.now held
    rw [call.next_of_load settings state loaded] at moved
    split at moved
    · exact next_writes_ne_timedOut call _ other moved
    · exact other moved
  · rw [if_neg same]
    exact before workflowId

theorem noneTimedOut_step_createFromDecision (now : ℚ) (request : ReviewRequest)
    (before : NoneTimedOut state) :
    NoneTimedOut (settings.step (.createFromDecision now request) state) := by
  intro workflowId
  rcases settings.store_step_createFromDecision state now request with same | added
  · rw [same]
    exact before workflowId
  · rw [WorkflowTable.persistedState_of_insert added]
    split
    · exact nofun
    · exact before workflowId

theorem noneTimedOut_step (operation : ReviewOperation) (before : NoneTimedOut state) :
    NoneTimedOut (settings.step operation state) := by
  cases operation with
  | createFromDecision now request =>
    exact settings.noneTimedOut_step_createFromDecision now request before
  | call call => exact settings.noneTimedOut_step_call call before
  | expireOverdue now actor =>
    refine settings.step_expireOverdue_invariant NoneTimedOut before ?_
    intro inst _ middle held
    exact settings.noneTimedOut_step_call _ held

theorem ne_timedOut_of_mem (untimed : NoneTimedOut state) (member : row ∈ state.store.rows) :
    row.state ≠ .timedOut := by
  intro timed
  refine untimed row.workflowId ?_
  rw [WorkflowTable.persistedState, WorkflowTable.row,
    KeyedRows.find_of_mem state.store.workflowIds member, Option.map_some, timed]

variable {settings} in
/-- In every state the operations reach, `list_pending` returns exactly what the service shows under
review, and `expire_overdue` expires all of it which is overdue, exactly when no workflow is
escalated. -/
theorem nothing_under_review_lost_iff {state : EngineState WorkflowTable}
    (reached : Reaches (fun _ _ => True) settings.step newEngine state) (now : ℚ) (actor : String) :
    ((∃ records, settings.approvals.listPending now state = .ok records state ∧
        records.Perm (underReview now state.store)) ∧
      ∀ row ∈ state.store.rows, (recordOf now row).state.isOpen = true →
        (recordOf now row).slaBreached = true →
        ((settings.approvals.expireOverdue now actor).after state).store.persistedState
          row.workflowId = some .expired) ↔
      ∀ row ∈ state.store.rows, row.state ≠ .escalated := by
  have untimed : NoneTimedOut state :=
    reached.invariant NoneTimedOut (fun _ => nofun)
      fun operation _ _ before => settings.noneTimedOut_step operation before
  rw [settings.listPending_run, settings.after_expireOverdue]
  constructor
  · rintro ⟨⟨records, returned, shown⟩, -⟩ row member
    cases returned
    exact not_escalated_of_listed shown member
  · intro unescalated
    have settled (row) (member : row ∈ state.store.rows) :=
      And.intro (unescalated row member) (ne_timedOut_of_mem untimed member)
    refine ⟨⟨_, rfl, listed_perm_underReview now settled⟩, ?_⟩
    intro row member shown late
    rw [state_recordOf] at shown
    have awaits : row.state.awaitsReview = true :=
      ((WorkflowState.isOpen_projected_iff row.state).mp shown).resolve_right
        (not_or.mpr (settled row member))
    exact settings.persistedState_expireOverdue actor member awaits late

theorem reaches_sampleRun (operations : List ReviewOperation) :
    Reaches (fun _ _ => True) sampleSettings.step newEngine (sampleRun operations) :=
  (permits_of_forall (fun _ _ => trivial) _ _).reaches

/-- A pending workflow is listed, and expires once it is overdue. -/
theorem nothing_under_review_lost_pending :
    (∃ records, sampleSettings.approvals.listPending 4000 (sampleRun []) =
        .ok records (sampleRun []) ∧
      records.Perm (underReview 4000 (sampleRun []).store)) ∧
    ∀ row ∈ (sampleRun []).store.rows, (recordOf 4000 row).state.isOpen = true →
      (recordOf 4000 row).slaBreached = true →
      ((sampleSettings.approvals.expireOverdue 4000 "system").after
        (sampleRun [])).store.persistedState row.workflowId = some .expired :=
  (nothing_under_review_lost_iff (reaches_sampleRun []) 4000 "system").mpr (by decide +kernel)

/-- An escalated workflow is shown under review, and is neither listed nor expired. -/
theorem escalated_lost :
    let state := sampleRun [sampleCall 1 "alice" (.escalate "carol")]
    Reaches (fun _ _ => True) sampleSettings.step newEngine state ∧
      sampleSettings.approvals.listPending 4000 state = .ok [] state ∧
      (underReview 4000 state.store).map ApprovalRecord.state = [.inReview] ∧
      (underReview 4000 state.store).map ApprovalRecord.slaBreached = [true] ∧
      ((sampleSettings.approvals.expireOverdue 4000 "system").after state).store.persistedState
        "workflow" = some .escalated := by
  intro state
  have unlisted : listed 4000 state.store = [] := by decide +kernel
  refine ⟨reaches_sampleRun _, ?_, by decide +kernel⟩
  rw [listPending_run, unlisted]

end EngineSettings

end GlassBox
