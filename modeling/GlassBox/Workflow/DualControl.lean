import GlassBox.Workflow.Operations

/-!
# Dual control

Every call of `approve` states a threshold of its own, and the vote is held against that one alone.
The threshold is met in full when no vote states a smaller one than a vote before it.
-/

namespace GlassBox

/-- A call of `approve`, or of `quorum_approve`. -/
structure Vote where
  now : ℚ
  workflowId : String
  actor : String
  notes : String
  minApprovers : Int
  /-- Whether the call is made through `quorum_approve`. -/
  throughQuorum : Bool

namespace Vote

def call (vote : Vote) : ReviewCall where
  now := vote.now
  workflowId := vote.workflowId
  actor := vote.actor
  notes := vote.notes
  kind := if vote.throughQuorum then .quorumApprove vote.minApprovers
    else .approve vote.minApprovers

def actorsFor (workflowId : String) (votes : List Vote) : Finset String :=
  ((votes.filter fun vote => vote.workflowId = workflowId).map Vote.actor).toFinset

theorem actorsFor_append_self (votes : List Vote) (vote : Vote) :
    actorsFor vote.workflowId (votes ++ [vote]) =
      insert vote.actor (actorsFor vote.workflowId votes) := by
  ext actor
  simp [actorsFor]

theorem actorsFor_append_of_ne {workflowId : String} (votes : List Vote) {vote : Vote}
    (other : vote.workflowId ≠ workflowId) :
    actorsFor workflowId (votes ++ [vote]) = actorsFor workflowId votes := by
  simp [actorsFor, other]

end Vote

/-- The entry holds these actors, each once. -/
structure QuorumEntry.Counts (entry : Option QuorumEntry) (actors : Finset String) : Prop where
  nodup : (entry.elim [] QuorumEntry.actors).Nodup
  actors : (entry.elim [] QuorumEntry.actors).toFinset = actors

theorem QuorumEntry.Counts.card {entry : QuorumEntry} {actors : Finset String}
    (counts : Counts (some entry) actors) : actors.card = entry.actors.length := by
  rw [← counts.actors]
  exact List.toFinset_card_of_nodup counts.nodup

namespace EngineSettings

variable (settings : EngineSettings)

def castVote (vote : Vote) (state : EngineState WorkflowTable) : EngineState WorkflowTable :=
  settings.step (.call vote.call) state

def KeepsEntries (vote : Vote) (state : EngineState WorkflowTable) : Prop :=
  settings.evictStaleQuorumEntries vote.now state.quorumState = state.quorumState

theorem castVote_eq (vote : Vote) (state : EngineState WorkflowTable) :
    settings.castVote vote state =
      settings.approved state vote.now vote.workflowId vote.actor vote.notes
        vote.minApprovers := by
  have run := EStateM.after_of_ok (settings.approve_run state vote.now vote.workflowId vote.actor
    vote.notes vote.minApprovers)
  unfold castVote step Vote.call ReviewCall.program
  cases vote.throughQuorum <;> exact run

variable {settings} {vote : Vote} {state : EngineState WorkflowTable} {workflowId : String}
  {votes : List Vote}

theorem counts_votedEntry (kept : settings.KeepsEntries vote state) {actors : Finset String}
    (before : QuorumEntry.Counts (state.quorumState vote.workflowId) actors) :
    QuorumEntry.Counts
      (some (settings.votedEntry vote.now state.quorumState vote.workflowId vote.actor))
      (insert vote.actor actors) := by
  unfold votedEntry
  rw [show settings.evictStaleQuorumEntries vote.now state.quorumState = _ from kept]
  have nodup := before.nodup
  have same := before.actors
  cases held : state.quorumState vote.workflowId with
  | none =>
    rw [held] at same
    subst same
    exact ⟨by simp, by simp⟩
  | some entry =>
    rw [held] at nodup same
    subst same
    by_cases again : vote.actor ∈ entry.actors
    · simp only [Option.getD_some, again, if_true]
      exact ⟨nodup, by simp [again]⟩
    · simp only [Option.getD_some, again, if_false]
      exact ⟨by simpa using List.Nodup.concat again nodup, by simp⟩

theorem persistedState_castVote_self (vote : Vote) (state : EngineState WorkflowTable) :
    (settings.castVote vote state).store.persistedState vote.workflowId =
      (state.store.persistedState vote.workflowId).map fun before =>
        if ((settings.votedEntry vote.now state.quorumState vote.workflowId
            vote.actor).actors.length : Int) ≥ vote.minApprovers then .approved
        else before := by
  have moved := settings.persistedState_step_call state vote.call vote.call.workflowId
  rw [if_pos rfl] at moved
  refine moved.trans (Option.map_congr fun before held => ?_)
  obtain ⟨inst, loaded⟩ := WorkflowTable.exists_load_of_persistedState vote.now held
  rw [ReviewCall.next_of_load settings state vote.call loaded]
  unfold ReviewCall.admits ReviewCall.writes Vote.call
  cases vote.throughQuorum <;> exact next_approval ..

theorem persistedState_castVote_of_ne (other : workflowId ≠ vote.workflowId)
    (state : EngineState WorkflowTable) :
    (settings.castVote vote state).store.persistedState workflowId =
      state.store.persistedState workflowId := by
  rw [castVote, persistedState_step_call]
  exact if_neg other

theorem approved_castVote (approved : state.store.persistedState workflowId = some .approved) :
    (settings.castVote vote state).store.persistedState workflowId = some .approved := by
  by_cases same : workflowId = vote.workflowId
  · subst same
    rw [persistedState_castVote_self, approved, Option.map_some, ite_self]
  · rw [persistedState_castVote_of_ne same, approved]

theorem quorumState_castVote_of_ne (kept : settings.KeepsEntries vote state)
    (other : workflowId ≠ vote.workflowId) :
    (settings.castVote vote state).quorumState workflowId = state.quorumState workflowId := by
  have voted : settings.voted vote.now state.quorumState vote.workflowId vote.actor workflowId =
      state.quorumState workflowId := by
    rw [EngineSettings.voted, Function.update_of_ne other, kept]
  rw [castVote_eq, approved]
  cases state.store.load vote.now vote.workflowId with
  | none => exact voted
  | some inst =>
    simp only [votesLeft]
    split
    · rw [Function.update_of_ne other, voted]
    · exact voted

theorem quorumState_castVote_self
    (undecided : (settings.castVote vote state).store.persistedState vote.workflowId ≠
      some .approved) :
    (settings.castVote vote state).quorumState vote.workflowId =
      some (settings.votedEntry vote.now state.quorumState vote.workflowId vote.actor) := by
  rw [persistedState_castVote_self] at undecided
  rw [castVote_eq, approved]
  cases loaded : state.store.load vote.now vote.workflowId with
  | none => exact Function.update_self ..
  | some inst =>
    have present : (state.store.persistedState vote.workflowId).isSome := by
      rw [WorkflowTable.persistedState_eq]
      obtain ⟨document, held, -⟩ := Option.map_eq_some_iff.mp loaded
      rw [held]
      rfl
    obtain ⟨before, held⟩ := Option.isSome_iff_exists.mp present
    rw [held] at undecided
    simp only [votesLeft]
    split
    case isTrue enough => exact absurd (congrArg some (if_pos enough)) undecided
    case isFalse => exact Function.update_self ..

def Tallies (workflowId : String) (votes : List Vote) (state : EngineState WorkflowTable) : Prop :=
  state.store.persistedState workflowId ≠ some .approved →
    QuorumEntry.Counts (state.quorumState workflowId) (Vote.actorsFor workflowId votes)

theorem tallies_castVote (kept : settings.KeepsEntries vote state)
    (before : Tallies workflowId votes state) :
    Tallies workflowId (votes ++ [vote]) (settings.castVote vote state) := by
  intro undecided
  have counted := before fun approved => undecided (approved_castVote approved)
  by_cases same : workflowId = vote.workflowId
  · subst same
    rw [Vote.actorsFor_append_self, quorumState_castVote_self undecided]
    exact counts_votedEntry kept counted
  · rw [Vote.actorsFor_append_of_ne votes (Ne.symm same), quorumState_castVote_of_ne kept same]
    exact counted

theorem tallies_runAll {start : EngineState WorkflowTable}
    (unvoted : start.quorumState workflowId = none)
    (kept : Permits settings.KeepsEntries settings.castVote votes start) :
    Tallies workflowId votes (runAll settings.castVote votes start) := by
  induction votes using List.reverseRecOn with
  | nil =>
    intro _
    rw [runAll, List.foldl_nil, unvoted]
    exact ⟨List.nodup_nil, rfl⟩
  | append_singleton votes vote ih =>
    obtain ⟨earlier, last, -⟩ := permits_append_iff.mp kept
    rw [runAll_append]
    exact tallies_castVote last (ih earlier)

/-- The votes never state a smaller threshold than a vote for the same workflow before them. -/
def Unlowered (votes : List Vote) : Prop :=
  votes.Pairwise fun earlier later =>
    earlier.workflowId = later.workflowId → earlier.minApprovers ≤ later.minApprovers

def sampleVote (now : ℚ) (actor : String) (minApprovers : Int) : Vote where
  now := now
  workflowId := "workflow"
  actor := actor
  notes := ""
  minApprovers := minApprovers
  throughQuorum := true

/-- A workflow which becomes approved was voted for by as many actors as any of the votes asked
for. -/
theorem dual_control {workflowId : String} {votes : List Vote} {last : Vote}
    {start : EngineState WorkflowTable} (unvoted : start.quorumState workflowId = none)
    (kept : Permits settings.KeepsEntries settings.castVote (votes ++ [last]) start)
    (unlowered : Unlowered (votes ++ [last]))
    (before : (runAll settings.castVote votes start).store.persistedState workflowId ≠
      some .approved)
    (after : (runAll settings.castVote (votes ++ [last]) start).store.persistedState workflowId =
      some .approved) :
    ∀ vote ∈ votes ++ [last], vote.workflowId = workflowId →
      vote.minApprovers ≤ (Vote.actorsFor workflowId (votes ++ [last])).card := by
  obtain ⟨earlier, keeps, -⟩ := permits_append_iff.mp kept
  have counted := tallies_runAll unvoted earlier before
  rw [runAll_append] at after
  change (settings.castVote last _).store.persistedState workflowId = _ at after
  have same : workflowId = last.workflowId := by
    by_contra other
    rw [persistedState_castVote_of_ne other] at after
    exact before after
  subst same
  have card := (counts_votedEntry keeps counted).card
  rw [← Vote.actorsFor_append_self] at card
  rw [persistedState_castVote_self] at after
  obtain ⟨previous, held, moved⟩ := Option.map_eq_some_iff.mp after
  -- The last vote reached the threshold it stated, which is the largest of all.
  have enough : last.minApprovers ≤ (Vote.actorsFor last.workflowId (votes ++ [last])).card := by
    by_contra missing
    rw [card] at missing
    exact before (held.trans (congrArg some ((if_neg missing).symm.trans moved)))
  intro vote member same
  rcases List.mem_append.mp member with earlier | new
  · have stated := (List.pairwise_append.mp unlowered).2.2 vote earlier last List.mem_cons_self
    exact (stated same).trans enough
  · rw [List.mem_singleton.mp new]
    exact enough

/-- No entry is stale when a second vote for the sample workflow is cast. -/
theorem permits_sampleVotes (actor : String) (minApprovers : Int) :
    Permits sampleSettings.KeepsEntries sampleSettings.castVote
      [sampleVote 1 "alice" 2, sampleVote 2 actor minApprovers] (sampleRun []) := by
  have first : sampleSettings.KeepsEntries (sampleVote 1 "alice" 2) (sampleRun []) :=
    funext fun _ => rfl
  refine ⟨first, funext fun workflowId => ?_, trivial⟩
  by_cases same : workflowId = "workflow"
  · subst same
    change sampleSettings.evictStaleQuorumEntries 2 _ "workflow" = _
    decide +kernel
  · have unvoted := quorumState_castVote_of_ne first same
    rw [evictStaleQuorumEntries, unvoted]
    rfl

/-- Two reviewers who are both asked for two approve the sample workflow. -/
theorem dual_control_two_reviewers :
    let votes := [sampleVote 1 "alice" 2, sampleVote 2 "bob" 2]
    (runAll sampleSettings.castVote votes (sampleRun [])).store.persistedState "workflow" =
        some .approved ∧
      ∀ vote ∈ votes, vote.workflowId = "workflow" →
        vote.minApprovers ≤ (Vote.actorsFor "workflow" votes).card := by
  have approved : (runAll sampleSettings.castVote
      [sampleVote 1 "alice" 2, sampleVote 2 "bob" 2] (sampleRun [])).store.persistedState
        "workflow" = some .approved := by decide +kernel
  have unlowered : Unlowered ([sampleVote 1 "alice" 2] ++ [sampleVote 2 "bob" 2]) := by
    simp [Unlowered, sampleVote]
  exact ⟨approved, dual_control rfl (permits_sampleVotes "bob" 2) unlowered
    (by decide +kernel) approved⟩

/-- One reviewer, who is asked for two, votes again and asks for one. -/
theorem threshold_lowered :
    let votes := [sampleVote 1 "alice" 2, sampleVote 2 "alice" 1]
    Permits sampleSettings.KeepsEntries sampleSettings.castVote votes (sampleRun []) ∧
      (sampleRun []).store.persistedState "workflow" = some .pending ∧
      (runAll sampleSettings.castVote [sampleVote 1 "alice" 2]
        (sampleRun [])).store.persistedState "workflow" = some .pending ∧
      (runAll sampleSettings.castVote votes (sampleRun [])).store.persistedState "workflow" =
        some .approved ∧
      ¬ ∀ vote ∈ votes, vote.workflowId = "workflow" →
        vote.minApprovers ≤ (Vote.actorsFor "workflow" votes).card := by
  refine ⟨permits_sampleVotes "alice" 1, ?_⟩
  decide +kernel

end EngineSettings

end GlassBox
