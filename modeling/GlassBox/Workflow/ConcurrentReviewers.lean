import GlassBox.Foundation.Interleaving
import GlassBox.Workflow.Operations

/-!
# Reviewers who work at once

Nothing ties the `UPDATE` of a call to the `SELECT` before it.  The calls of several reviewers
interleave their statements; no step is lost when every save finds the document which its call
loaded.
-/

namespace GlassBox

/-- What a call is going to save: the document it loaded, the change it makes and the identifier of
its step. -/
structure Edit where
  loaded : WorkflowDocument
  revision : Revision
  stepId : String
  /-- Whether the object is saved a second time, as `approve` does once the quorum is reached. -/
  again : Bool

namespace Edit

def saved (edit : Edit) (now : ℚ) : WorkflowDocument :=
  edit.revision.rewritten now edit.stepId edit.loaded

def step (edit : Edit) (now : ℚ) : WorkflowStep :=
  edit.revision.step edit.stepId (edit.loaded.fromJson now)

end Edit

inductive ReviewPhase
  | waiting
  /-- `approve` has counted the votes. -/
  | voted (actors : List String)
  /-- The workflow was looked at, and `_transition` is about to load it. -/
  | admitted (actors : List String)
  /-- The object is loaded and changed. -/
  | holding (edit : Edit)
  /-- `approve` is about to save the object again. -/
  | savedOnce (edit : Edit)
  /-- `approve` is about to forget the votes. -/
  | forgetting (edit : Edit)
  /-- The call has returned, with what it saved, if it saved anything. -/
  | completed (edit : Option Edit)

def ReviewKind.threshold : ReviewKind → Option Int
  | .approve minApprovers | .quorumApprove minApprovers => some minApprovers
  | _ => none

namespace ReviewCall

variable (settings : EngineSettings) (call : ReviewCall)

def reachesQuorum (actors : List String) : Bool :=
  call.kind.threshold.any fun minApprovers => minApprovers ≤ (actors.length : Int)

/-- The actors the next step loads the workflow with, if it loads it in order to save it. -/
def loadsWith : ReviewPhase → Option (List String)
  | .waiting =>
    match call.kind with
    | .startReview | .reject | .escalate _ | .addComment => some []
    | .approve _ | .quorumApprove _ | .expire | .revoke => none
  | .voted actors => if call.reachesQuorum actors then none else some actors
  | .admitted actors => some actors
  | _ => none

/-- The `SELECT` of a call which goes on to save the workflow. -/
def load (shared : EngineState WorkflowTable) (actors : List String) (again : Bool) :
    EngineState WorkflowTable × ReviewPhase :=
  match shared.store.document call.workflowId with
  | none => (shared, .completed none)
  | some document =>
    ({ shared with drawn := shared.drawn + 1 }, .holding {
        loaded := document
        revision := call.writes actors
        stepId := settings.uuid4 shared.drawn
        again := again })

def save (shared : EngineState WorkflowTable) (edit : Edit) : EngineState WorkflowTable :=
  { shared with store := shared.store.update (edit.saved call.now) }

def advance : EngineState WorkflowTable × ReviewPhase → EngineState WorkflowTable × ReviewPhase
  | (shared, .waiting) =>
    match call.kind with
    | .startReview | .reject | .escalate _ | .addComment => call.load settings shared [] false
    | .approve _ | .quorumApprove _ =>
      ({ shared with quorumState := call.counted settings shared },
        .voted (call.voters settings shared))
    | .expire | .revoke =>
      if (shared.store.load call.now call.workflowId).any call.admits then
        (shared, .admitted [])
      else (shared, .completed none)
  | (shared, .voted actors) =>
    if call.reachesQuorum actors then
      match shared.store.document call.workflowId with
      | none => (shared, .completed none)
      | some _ => (shared, .admitted actors)
    else call.load settings shared actors false
  | (shared, .admitted actors) => call.load settings shared actors call.kind.threshold.isSome
  | (shared, .holding edit) =>
    (call.save shared edit, if edit.again then .savedOnce edit else .completed (some edit))
  | (shared, .savedOnce edit) => (call.save shared edit, .forgetting edit)
  | (shared, .forgetting edit) =>
    ({ shared with quorumState := Function.update shared.quorumState call.workflowId none },
      .completed (some edit))
  | (shared, .completed edit) => (shared, .completed edit)

end ReviewCall

namespace ReviewCall

variable {settings : EngineSettings} {call : ReviewCall} {shared : EngineState WorkflowTable}

theorem load_of_held {document : WorkflowDocument}
    (held : shared.store.document call.workflowId = some document) (actors : List String)
    (again : Bool) :
    call.load settings shared actors again = ({ shared with drawn := shared.drawn + 1 },
        .holding ⟨document, call.writes actors, settings.uuid4 shared.drawn, again⟩) := by
  rw [load, held]

end ReviewCall

def WorkflowStep.content (step : WorkflowStep) : WorkflowStep := step.reread 0

/-- The states in which a request is turned down. -/
def WorkflowState.isRefusal : WorkflowState → Bool
  | .rejected | .revoked => true
  | _ => false

namespace WorkflowDocument

/-- The steps with an identifier, but for their times. -/
def stepsNamed (document : WorkflowDocument) (stepId : String) : List WorkflowStep :=
  (document.steps.filter fun step => step.stepId = stepId).map WorkflowStep.content

end WorkflowDocument

namespace Edit

variable (edit : Edit) (now : ℚ)

@[simp]
theorem stepId_step : (edit.step now).stepId = edit.stepId := edit.revision.named _ _

/-- A save adds the step of the call to the ones there were. -/
theorem stepsNamed_saved (stepId : String) : (edit.saved now).stepsNamed stepId =
      edit.loaded.stepsNamed stepId ++
        if stepId = edit.stepId then [(edit.step now).content] else [] := by
  have steps : (edit.saved now).steps =
      edit.loaded.steps.map (WorkflowStep.reread now) ++ [edit.step now] :=
    edit.revision.steps_rewritten now _ _
  simp only [WorkflowDocument.stepsNamed, steps, List.filter_append, List.map_append,
    List.filter_map, List.map_map]
  refine congrArg₂ (· ++ ·) rfl ?_
  by_cases same : stepId = edit.stepId
  · simp [same]
  · simp [same, Ne.symm same]

/-- The document has the step of the call, once. -/
def RecordedIn (document : WorkflowDocument) : Prop :=
  document.stepsNamed edit.stepId = [(edit.step now).content]

end Edit

namespace ReviewCall

variable (call : ReviewCall)

/-- Whether the call takes a workflow out of any state it is in: it starts a review, escalates,
expires, or approves with a complete quorum. -/
def reopens (actors : List String) : Bool :=
  match call.kind with
  | .startReview | .escalate _ | .expire => true
  | .approve _ | .quorumApprove _ => call.reachesQuorum actors
  | .reject | .revoke | .addComment => false

theorem isRefusal_next_writes {actors : List String} (closed : call.reopens actors = false)
    {before : WorkflowState} (refusal : before.isRefusal = true) :
    ((call.writes actors).next before).isRefusal = true := by
  unfold reopens reachesQuorum at closed
  unfold writes
  cases kind : call.kind with
  | startReview | escalate | expire =>
    rw [kind] at closed
    cases closed
  | approve minApprovers | quorumApprove minApprovers =>
    rw [kind] at closed
    have missing : ¬ (actors.length : Int) ≥ minApprovers := by
      simpa [ReviewKind.threshold] using closed
    rw [EngineSettings.next_approval, if_neg missing]
    exact refusal
  | reject | revoke => rfl
  | addComment => exact refusal

end ReviewCall

namespace EngineSettings

variable {ι : Type} [DecidableEq ι] (settings : EngineSettings) (calls : ι → ReviewCall)
  (workflowId : String)

def reviewStep (i : ι) (state : Interleaved ι (EngineState WorkflowTable) ReviewPhase) :
    Interleaved ι (EngineState WorkflowTable) ReviewPhase :=
  state.move i ((calls i).advance settings (state.shared, state.phases i)).1
    ((calls i).advance settings (state.shared, state.phases i)).2

/-- A save finds the document its call loaded, or saved before, and no call which would reopen the
workflow loads it when it is turned down. -/
def Serial (i : ι) (state : Interleaved ι (EngineState WorkflowTable) ReviewPhase) : Prop :=
  (∀ actors ∈ (calls i).loadsWith (state.phases i), (calls i).reopens actors = true →
    ∀ document ∈ state.shared.store.document workflowId, document.state.isRefusal = false) ∧
  match state.phases i with
  | .holding edit => state.shared.store.document workflowId = some edit.loaded
  | .savedOnce edit => state.shared.store.document workflowId = some (edit.saved (calls i).now)
  | _ => True

end EngineSettings

/-- What the call is about to save, or has saved. -/
def ReviewPhase.edit : ReviewPhase → Option Edit
  | .holding edit | .savedOnce edit | .forgetting edit => some edit
  | .completed edit => edit
  | .waiting | .voted _ | .admitted _ => none

def ReviewPhase.unsaved : ReviewPhase → Option Edit
  | .holding edit => some edit
  | _ => none

def ReviewPhase.saved : ReviewPhase → Option Edit
  | .savedOnce edit | .forgetting edit => some edit
  | .completed edit => edit
  | .waiting | .voted _ | .admitted _ | .holding _ => none

variable {edit : Edit} {phase : ReviewPhase}

theorem ReviewPhase.mem_edit (member : edit ∈ phase.unsaved ∨ edit ∈ phase.saved) :
    edit ∈ phase.edit := by
  cases phase <;> rcases member with member | member <;> first | exact member | cases member

theorem ReviewCall.document_save {call : ReviewCall} {shared : EngineState WorkflowTable}
    {workflowId : String} {document : WorkflowDocument}
    (held : shared.store.document workflowId = some document)
    (identified : (edit.saved call.now).workflowId = workflowId) :
    (call.save shared edit).store.document workflowId = some (edit.saved call.now) := by
  have updated := WorkflowTable.document_update_self shared.store (edit.saved call.now)
  rwa [identified, held] at updated

/-- A step which neither loads the workflow in order to save it nor saves it. -/
structure ReviewCall.Rests (before : EngineState WorkflowTable × ReviewPhase)
    (after : EngineState WorkflowTable × ReviewPhase) : Prop where
  store : after.1.store = before.1.store
  drawn : after.1.drawn = before.1.drawn
  edits : after.2.edit = before.2.edit
  saved : after.2.saved = before.2.saved
  unsaved : after.2.unsaved = none

/-- A step which loads the workflow in order to save it. -/
structure ReviewCall.Loads (settings : EngineSettings) (call : ReviewCall)
    (before after : EngineState WorkflowTable × ReviewPhase) (edit : Edit)
    (actors : List String) : Prop where
  held : before.1.store.document call.workflowId = some edit.loaded
  loadsWith : call.loadsWith before.2 = some actors
  revision : edit.revision = call.writes actors
  stepId : edit.stepId = settings.uuid4 before.1.drawn
  shared : after.1 = { before.1 with drawn := before.1.drawn + 1 }
  phase : after.2 = .holding edit

/-- A step which saves the workflow, for the first or the second time. -/
structure ReviewCall.Saves (call : ReviewCall)
    (before after : EngineState WorkflowTable × ReviewPhase) (edit : Edit) : Prop where
  phase : before.2 = .holding edit ∨ before.2 = .savedOnce edit
  shared : after.1 = call.save before.1 edit
  edits : after.2.edit = some edit
  saved : after.2.saved = some edit
  unsaved : after.2.unsaved = none

/-- What a step can do. -/
inductive ReviewCall.Moves (settings : EngineSettings) (call : ReviewCall)
    (before after : EngineState WorkflowTable × ReviewPhase) : Prop
  | rests (rests : Rests before after)
  | loads (edit : Edit) (actors : List String)
      (loads : Loads settings call before after edit actors)
  | saves (edit : Edit) (saves : Saves call before after edit)

namespace ReviewCall

variable (settings : EngineSettings) (call : ReviewCall)

theorem moves_load {shared : EngineState WorkflowTable} {phase : ReviewPhase}
    {actors : List String} (loadsWith : call.loadsWith phase = some actors)
    (edits : phase.edit = none) (saved : phase.saved = none) (again : Bool) :
    Moves settings call (shared, phase) (call.load settings shared actors again) := by
  cases held : shared.store.document call.workflowId with
  | none =>
    rw [load, held]
    exact .rests ⟨rfl, rfl, edits.symm, saved.symm, rfl⟩
  | some document =>
    rw [load_of_held held]
    exact .loads _ actors ⟨held, loadsWith, rfl, rfl, rfl, rfl⟩

/-- Every step rests, loads or saves. -/
theorem moves_advance (shared : EngineState WorkflowTable) (phase : ReviewPhase) :
    Moves settings call (shared, phase) (call.advance settings (shared, phase)) := by
  cases phase with
  | waiting =>
    rw [advance]
    cases kind : call.kind with
    | startReview | reject | escalate | addComment =>
      exact moves_load settings call (by rw [loadsWith, kind]) rfl rfl false
    | approve minApprovers | quorumApprove minApprovers => exact .rests ⟨rfl, rfl, rfl, rfl, rfl⟩
    | expire | revoke =>
      dsimp only
      split <;> exact .rests ⟨rfl, rfl, rfl, rfl, rfl⟩
  | voted actors =>
    unfold advance
    dsimp only
    by_cases quorum : call.reachesQuorum actors = true
    · rw [if_pos quorum]
      split <;> exact .rests ⟨rfl, rfl, rfl, rfl, rfl⟩
    · rw [if_neg quorum]
      exact moves_load settings call (by rw [loadsWith, if_neg quorum]) rfl rfl false
  | admitted actors => exact moves_load settings call rfl rfl rfl _
  | holding edit =>
    rw [advance]
    cases edit.again <;> exact .saves edit ⟨.inl rfl, rfl, rfl, rfl, rfl⟩
  | savedOnce edit => exact .saves edit ⟨.inr rfl, rfl, rfl, rfl, rfl⟩
  | forgetting edit | completed edit => exact .rests ⟨rfl, rfl, rfl, rfl, rfl⟩

end ReviewCall

namespace EngineSettings

/-- No identifier which is still to be drawn names a recorded step. -/
def Numbered (settings : EngineSettings) (drawn : ℕ) (document : WorkflowDocument) : Prop :=
  ∀ n, drawn ≤ n → document.stepsNamed (settings.uuid4 n) = []

/-- What a call relies on: it writes a step of its own, whose identifier was drawn, a step it is
about to save is not recorded yet and does not reopen what was turned down, and a step it has saved
is recorded. -/
structure Accounted (settings : EngineSettings) (call : ReviewCall) (drawn : ℕ)
    (document : WorkflowDocument) (phase : ReviewPhase) : Prop where
  own : ∀ edit ∈ phase.edit, ∃ actors, edit.revision = call.writes actors
  drawn : ∀ edit ∈ phase.edit, ∃ n < drawn, edit.stepId = settings.uuid4 n
  unsaved : ∀ edit ∈ phase.unsaved, document.stepsNamed edit.stepId = []
  closed : ∀ edit ∈ phase.unsaved, edit.loaded.state.isRefusal = true →
    (edit.saved call.now).state.isRefusal = true
  recorded : ∀ edit ∈ phase.saved, edit.RecordedIn call.now document
  refused : ∀ edit ∈ phase.saved, (edit.saved call.now).state.isRefusal = true →
    document.state.isRefusal = true

variable {phase : ReviewPhase}

theorem Accounted.mono {settings : EngineSettings} {call : ReviewCall} {drawn drawn' : ℕ}
    {document : WorkflowDocument} (later : drawn ≤ drawn')
    (accounted : settings.Accounted call drawn document phase) :
    settings.Accounted call drawn' document phase :=
  { accounted with
    drawn := fun edit member =>
      have ⟨n, lower, named⟩ := accounted.drawn edit member
      ⟨n, lower.trans_le later, named⟩ }

/-- The steps of two calls have different identifiers. -/
def Distinct (phase phase' : ReviewPhase) : Prop :=
  ∀ edit ∈ phase.edit, ∀ other ∈ phase'.edit, edit.stepId ≠ other.stepId

theorem Distinct.symm {phase' : ReviewPhase} (distinct : Distinct phase phase') :
    Distinct phase' phase :=
  fun edit member other other_member => (distinct other other_member edit member).symm

variable {ι : Type} [DecidableEq ι]

def ReviewInvariant (settings : EngineSettings) (calls : ι → ReviewCall) (workflowId : String) :
    Interleaved ι (EngineState WorkflowTable) ReviewPhase → Prop :=
  Interleaved.Invariant
    (fun shared => ∃ document, shared.store.document workflowId = some document ∧
      settings.Numbered shared.drawn document)
    (fun i shared phase => ∀ document, shared.store.document workflowId = some document →
      settings.Accounted (calls i) shared.drawn document phase)
    (fun _ _ phase phase' => Distinct phase phase')

variable {settings : EngineSettings} {calls : ι → ReviewCall} {workflowId : String}
  {state : Interleaved ι (EngineState WorkflowTable) ReviewPhase} {i : ι}
  {shared : EngineState WorkflowTable} {phase : ReviewPhase}

section

variable (invariant : ReviewInvariant settings calls workflowId state)
include invariant

/-- A step which leaves the document alone. -/
theorem ReviewInvariant.rests
    (document_eq : shared.store.document workflowId = state.shared.store.document workflowId)
    (drawn_eq : shared.drawn = state.shared.drawn) (edits : phase.edit = (state.phases i).edit)
    (saved : phase.saved = (state.phases i).saved) (unsaved : phase.unsaved = none) :
    ReviewInvariant settings calls workflowId (state.move i shared phase) := by
  refine invariant.move (fun _ _ _ _ => Distinct.symm) ?_ ?_ ?_ ?_
  · rw [document_eq, drawn_eq]
    exact invariant.whole
  · intro document held
    have accounted := invariant.own i document (document_eq ▸ held)
    rw [drawn_eq]
    refine ⟨?_, ?_, ?_, ?_, ?_, ?_⟩
    · rw [edits]
      exact accounted.own
    · rw [edits]
      exact accounted.drawn
    · rw [unsaved]
      exact fun edit absent => (Option.not_mem_none edit absent).elim
    · rw [unsaved]
      exact fun edit absent => (Option.not_mem_none edit absent).elim
    · rw [saved]
      exact accounted.recorded
    · rw [saved]
      exact accounted.refused
  · intro j _ document held
    rw [drawn_eq]
    exact invariant.own j document (document_eq ▸ held)
  · intro j other
    unfold Distinct
    rw [edits]
    exact invariant.apart i j other.symm

section

variable (injective : Function.Injective settings.uuid4)
include injective

/-- A step which loads the workflow draws a new identifier. -/
theorem ReviewInvariant.loads (same : ∀ i, (calls i).workflowId = workflowId)
    (serial : Serial calls workflowId i state) {after : EngineState WorkflowTable × ReviewPhase}
    {edit : Edit} {actors : List String}
    (loads : ReviewCall.Loads settings (calls i) (state.shared, state.phases i) after edit actors) :
    ReviewInvariant settings calls workflowId (state.move i after.1 after.2) := by
  rw [loads.shared, loads.phase]
  have held := loads.held
  rw [same i] at held
  obtain ⟨document, document_held, numbered⟩ := invariant.whole
  cases held.symm.trans document_held
  have closed : edit.loaded.state.isRefusal = true →
      (edit.saved (calls i).now).state.isRefusal = true := by
    intro refusal
    rw [Edit.saved, edit.revision.state_rewritten, loads.revision]
    refine (calls i).isRefusal_next_writes ?_ refusal
    by_contra reopens
    have turned := serial.1 actors loads.loadsWith (Bool.of_not_eq_false reopens) _ held
    rw [refusal] at turned
    cases turned
  refine invariant.move (fun _ _ _ _ => Distinct.symm) ?_ ?_ ?_ ?_
  · exact ⟨_, document_held, fun n later => numbered n (Nat.le_of_succ_le later)⟩
  · intro other other_held
    cases other_held.symm.trans document_held
    refine ⟨?_, ?_, ?_, ?_, ?_, ?_⟩
    · rintro _ ⟨⟩
      exact ⟨actors, loads.revision⟩
    · rintro _ ⟨⟩
      exact ⟨state.shared.drawn, Nat.lt_succ_self _, loads.stepId⟩
    · rintro _ ⟨⟩
      rw [loads.stepId]
      exact numbered _ le_rfl
    · rintro _ ⟨⟩
      exact closed
    · exact fun edit absent => (Option.not_mem_none edit absent).elim
    · exact fun edit absent => (Option.not_mem_none edit absent).elim
  · intro j _ other other_held
    exact (invariant.own j other other_held).mono (Nat.le_succ _)
  · rintro j _ _ ⟨⟩ other member equal
    obtain ⟨n, lower, named⟩ := (invariant.own j _ document_held).drawn other member
    rw [loads.stepId, named] at equal
    exact lower.ne' (injective equal)

/-- A step which saves what its call loaded adds one step to the document. -/
theorem ReviewInvariant.saves {edit : Edit} (holding : state.phases i = .holding edit)
    (current : state.shared.store.document workflowId = some edit.loaded)
    (edits : phase.edit = some edit) (saved : phase.saved = some edit)
    (unsaved : phase.unsaved = none) :
    ReviewInvariant settings calls workflowId
      (state.move i ((calls i).save state.shared edit) phase) := by
  have after : ((calls i).save state.shared edit).store.document workflowId =
      some (edit.saved (calls i).now) :=
    ReviewCall.document_save current ((edit.revision.workflowId_rewritten _ _ _).trans
      (WorkflowTable.workflowId_of_document current))
  have own := invariant.own i _ current
  rw [holding] at own
  obtain ⟨number, drawn, named⟩ := own.drawn edit rfl
  have added := edit.stepsNamed_saved (calls i).now
  refine invariant.move (fun _ _ _ _ => Distinct.symm) ?_ ?_ ?_ ?_
  · refine ⟨_, after, fun n later => ?_⟩
    obtain ⟨document, held, numbered⟩ := invariant.whole
    cases held.symm.trans current
    have different : settings.uuid4 n ≠ edit.stepId := by
      rw [named]
      exact fun equal => (drawn.trans_le later).ne' (injective equal)
    rw [added, numbered n later, if_neg different, List.append_nil]
  · intro other other_held
    cases other_held.symm.trans after
    refine ⟨?_, ?_, ?_, ?_, ?_, ?_⟩
    · rw [edits]
      rintro _ ⟨⟩
      exact own.own edit rfl
    · rw [edits]
      rintro _ ⟨⟩
      exact ⟨number, drawn, named⟩
    · rw [unsaved]
      exact fun edit absent => (Option.not_mem_none edit absent).elim
    · rw [unsaved]
      exact fun edit absent => (Option.not_mem_none edit absent).elim
    · rw [saved]
      rintro _ ⟨⟩
      rw [Edit.RecordedIn, added, own.unsaved edit rfl, if_pos rfl, List.nil_append]
    · rw [saved]
      rintro _ ⟨⟩
      exact id
  · intro j different other other_held
    cases other_held.symm.trans after
    have theirs := invariant.own j _ current
    have apart : ∀ their ∈ (state.phases j).edit, their.stepId ≠ edit.stepId := by
      intro their member
      have distinct := invariant.apart j i different their member
      rw [holding] at distinct
      exact distinct edit rfl
    refine { theirs with unsaved := ?_, recorded := ?_, refused := ?_ }
    · intro their member
      rw [added, theirs.unsaved their member,
        if_neg (apart their (ReviewPhase.mem_edit (.inl member))), List.append_nil]
    · intro their member
      rw [Edit.RecordedIn, added, theirs.recorded their member,
        if_neg (apart their (ReviewPhase.mem_edit (.inr member))), List.append_nil]
    · intro their member refusal
      exact own.closed edit rfl (theirs.refused their member refusal)
  · intro j other
    unfold Distinct
    have distinct := invariant.apart i j other.symm
    rw [holding] at distinct
    rw [edits]
    exact distinct

theorem ReviewInvariant.step
    (same : ∀ i, (calls i).workflowId = workflowId) (serial : Serial calls workflowId i state) :
    ReviewInvariant settings calls workflowId (settings.reviewStep calls i state) := by
  cases (calls i).moves_advance settings state.shared (state.phases i) with
  | rests rests =>
    refine invariant.rests ?_ rests.drawn rests.edits rests.saved rests.unsaved
    rw [rests.store]
  | loads edit actors loads => exact invariant.loads injective same serial loads
  | saves edit saves =>
    have current := serial.2
    unfold reviewStep
    rw [saves.shared]
    have phase : state.phases i = .holding edit ∨ state.phases i = .savedOnce edit := saves.phase
    rcases phase with holding | savedOnce
    · rw [holding] at current
      exact invariant.saves injective holding current saves.edits saves.saved saves.unsaved
    · rw [savedOnce] at current
      have unchanged := ReviewCall.document_save current
        (WorkflowTable.workflowId_of_document current)
      refine invariant.rests (unchanged.trans current.symm) rfl ?_ ?_ saves.unsaved
      · rw [saves.edits, savedOnce]
        rfl
      · rw [saves.saved, savedOnce]
        rfl

end

end

omit [DecidableEq ι] in
/-- Calls which have not begun, on a workflow whose steps have other identifiers than the ones to
come. -/
theorem reviewInvariant_waiting {document : WorkflowDocument}
    (held : shared.store.document workflowId = some document)
    (numbered : settings.Numbered shared.drawn document) :
    ReviewInvariant settings calls workflowId ⟨shared, fun _ => .waiting⟩ where
  whole := ⟨document, held, numbered⟩
  own := by
    intro i other _
    refine ⟨?_, ?_, ?_, ?_, ?_, ?_⟩ <;>
      exact fun edit absent => (Option.not_mem_none edit absent).elim
  apart := fun _ _ _ edit absent => (Option.not_mem_none edit absent).elim

/-- Concurrent reviewers lose nothing when every save finds what its call loaded and no call
reopens a workflow which is turned down: a call which has returned and saved a step has this step of
its own in the document, once, and a workflow which such a call turned down is not approved. -/
theorem reviewers_lose_nothing (injective : Function.Injective settings.uuid4)
    (same : ∀ i, (calls i).workflowId = workflowId) {document : WorkflowDocument}
    (held : shared.store.document workflowId = some document)
    (numbered : settings.Numbered shared.drawn document)
    (run : Reaches (Serial calls workflowId) (settings.reviewStep calls)
      ⟨shared, fun _ => .waiting⟩ state) :
    ∃ final, state.shared.store.document workflowId = some final ∧
      ∀ i edit, state.phases i = .completed (some edit) →
        (∃ actors, edit.revision = (calls i).writes actors) ∧
        edit.RecordedIn (calls i).now final ∧
        ((edit.saved (calls i).now).state.isRefusal = true → final.state ≠ .approved) := by
  have invariant := run.invariant (ReviewInvariant settings calls workflowId)
    (reviewInvariant_waiting held numbered)
    fun i before serial invariant => invariant.step injective same serial
  obtain ⟨final, final_held, -⟩ := invariant.whole
  refine ⟨final, final_held, fun i edit returned => ?_⟩
  have accounted := invariant.own i final final_held
  rw [returned] at accounted
  refine ⟨accounted.own edit rfl, accounted.recorded edit rfl, fun refusal approved => ?_⟩
  have refused := accounted.refused edit rfl refusal
  rw [approved] at refused
  cases refused

/-- Distinct identifiers. -/
def racingSettings : EngineSettings where
  uuid4 := fun n => String.ofList ('w' :: List.replicate n 'x')

theorem racingSettings_injective : Function.Injective racingSettings.uuid4 := by
  intro m n equal
  have lists := String.ofList_injective equal
  simpa using congrArg List.length lists

/-- A workflow which two reviewers have before them. -/
def racingStart : Interleaved Bool (EngineState WorkflowTable) ReviewPhase :=
  ⟨racingSettings.step (.createFromDecision 0 sampleRequest) newEngine, fun _ => .waiting⟩

/-- One reviewer makes the first call, another one the second. -/
def racingCalls (first second : ReviewKind) (reviewer : Bool) : ReviewCall where
  now := 1
  workflowId := "w"
  actor := if reviewer then "alice" else "bob"
  notes := ""
  kind := if reviewer then first else second

/-- A comment or a rejection which is saved at once finds what it loaded. -/
theorem serial_in_turn {reviewer : Bool}
    {state : Interleaved Bool (EngineState WorkflowTable) ReviewPhase}
    (waiting : state.phases reviewer = .waiting) {document : WorkflowDocument}
    (held : state.shared.store.document "w" = some document) :
    let calls := racingCalls .addComment .reject
    Serial calls "w" reviewer state ∧
      Serial calls "w" reviewer (racingSettings.reviewStep calls reviewer state) := by
  intro calls
  have kept (actors : List String) : (calls reviewer).reopens actors ≠ true := by
    cases reviewer <;> exact Bool.false_ne_true
  have loaded : (calls reviewer).advance racingSettings
      (state.shared, state.phases reviewer) =
        ({ state.shared with drawn := state.shared.drawn + 1 }, .holding ⟨document,
          (calls reviewer).writes [], racingSettings.uuid4 state.shared.drawn, false⟩) := by
    rw [waiting]
    cases reviewer <;> exact ReviewCall.load_of_held held [] false
  refine ⟨⟨fun actors _ reopened => (kept actors reopened).elim, ?_⟩,
    fun actors _ reopened => (kept actors reopened).elim, ?_⟩
  · rw [waiting]
    trivial
  · rw [reviewStep, Interleaved.move_phases_self, Interleaved.move_shared, loaded]
    exact held

/-- Two reviewers who save in turn have the comment and the rejection in the document. -/
theorem reviewers_lose_nothing_in_turn :
    let state := runAll (racingSettings.reviewStep (racingCalls .addComment .reject))
      [true, true, false, false] racingStart
    (∀ i, (state.phases i matches .completed (some _)) = true) ∧
    ∃ final, state.shared.store.document "w" = some final ∧
      ∀ i edit, state.phases i = .completed (some edit) →
        (∃ actors, edit.revision = (racingCalls .addComment .reject i).writes actors) ∧
        edit.RecordedIn (racingCalls .addComment .reject i).now final ∧
        ((edit.saved (racingCalls .addComment .reject i).now).state.isRefusal = true →
          final.state ≠ .approved) := by
  refine ⟨by decide +kernel, ?_⟩
  have unreviewed : (racingStart.shared.store.document "w").map WorkflowDocument.steps =
      some [] := by decide +kernel
  obtain ⟨document, held, steps⟩ := Option.map_eq_some_iff.mp unreviewed
  have numbered : racingSettings.Numbered racingStart.shared.drawn document := by
    intro n _
    rw [WorkflowDocument.stepsNamed, steps]
    rfl
  let commented := runAll (racingSettings.reviewStep (racingCalls .addComment .reject))
    [true, true] racingStart
  have present : (commented.shared.store.document "w").isSome = true := by decide +kernel
  obtain ⟨second, second_held⟩ := Option.isSome_iff_exists.mp present
  have permits : Permits (Serial (racingCalls .addComment .reject) "w")
      (racingSettings.reviewStep (racingCalls .addComment .reject)) [true, true, false, false]
      racingStart := by
    obtain ⟨load, save⟩ := @serial_in_turn true racingStart rfl _ held
    obtain ⟨load', save'⟩ := @serial_in_turn false commented rfl _ second_held
    exact ⟨load, save, load', save', trivial⟩
  exact reviewers_lose_nothing racingSettings_injective (fun _ => rfl) held numbered
    permits.reaches

/-- Two reviewers load the same document; the approval is saved after the rejection. -/
theorem rejection_overwritten :
    let final := runAll (racingSettings.reviewStep (racingCalls (.approve 1) .reject))
      [true, true, true, false, false, true, true, true] racingStart
    (final.phases true matches .completed (some _)) = true ∧
      (final.phases false matches .completed (some _)) = true ∧
      (final.phases false).saved.map (fun edit => (edit.saved 1).state) = some .rejected ∧
      (final.shared.store.document "w").map (fun document =>
        (document.state, document.steps.map WorkflowStep.actor)) =
          some (.approved, [some "alice"]) := by
  decide +kernel

end EngineSettings

end GlassBox
