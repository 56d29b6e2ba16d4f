import GlassBox.Foundation.Runs

/-!
# Change data capture

`adapters/outbound/postgres/cdc_source.py` and `adapters/outbound/delta/cdc_consumer.py`.  A poll
consumes changes from the slot and yields the inserts above the checkpoint; the consumer merges
them into Bronze and then moves the checkpoint.  An LSN is its number.
-/

namespace GlassBox

namespace Cdc

variable {ρ : Type} {table : String} {checkpoint : Option Nat}

/-- A decoded row of `pg_logical_slot_get_changes`; the table is named with its schema. -/
structure Change (ρ : Type) where
  lsn : Nat
  action : String
  table : String
  columns : ρ
  deriving DecidableEq

/-- A Bronze row. -/
structure Event (ρ : Type) where
  columns : ρ
  cdcLsn : Nat
  deriving DecidableEq

def Change.event (change : Change ρ) : Event ρ := ⟨change.columns, change.lsn⟩

def Change.isInsert (table : String) (change : Change ρ) : Bool :=
  change.action = "I" ∧ change.table = table

def inserts (table : String) (rows : List (Change ρ)) : List (Event ρ) :=
  (rows.filter (Change.isInsert table)).map Change.event

def above (checkpoint : Option Nat) (lsn : Nat) : Bool := checkpoint.all (· < lsn)

def eventsFromRows (table : String) (checkpoint : Option Nat) (rows : List (Change ρ)) :
    List (Event ρ) :=
  inserts table (rows.filter fun change => above checkpoint change.lsn)

def advanced (checkpoint : Option Nat) (events : List (Event ρ)) : Option Nat :=
  (events.getLast?.map Event.cdcLsn).or checkpoint

/-- `append_batch`: the rows whose key is not in the table yet. -/
def appendBatch (decisionId : ρ → String) (bronze events : List (Event ρ)) : List (Event ρ) :=
  bronze ++ events.filter fun event =>
    decisionId event.columns ∉ bronze.map fun row => decisionId row.columns

def Present (decisionId : ρ → String) (bronze : List (Event ρ)) (decision : String) : Prop :=
  ∃ row ∈ bronze, decisionId row.columns = decision

theorem eventsFromRows_eq_iff {rows : List (Change ρ)} :
    eventsFromRows table checkpoint rows = inserts table rows ↔
      ∀ event ∈ inserts table rows, above checkpoint event.cdcLsn = true := by
  have swapped : eventsFromRows table checkpoint rows =
      (inserts table rows).filter fun event => above checkpoint event.cdcLsn := by
    unfold eventsFromRows inserts
    rw [List.filter_map, List.filter_filter, List.filter_filter]
    simp only [Function.comp_def, Change.event, Bool.and_comm]
  rw [swapped, List.filter_eq_self]

variable {bronze events : List (Event ρ)}

theorem present_appendBatch {decisionId : ρ → String} {event : Event ρ} (member : event ∈ events) :
    Present decisionId (appendBatch decisionId bronze events) (decisionId event.columns) := by
  by_cases known : decisionId event.columns ∈ bronze.map fun row => decisionId row.columns
  · obtain ⟨row, held, same⟩ := List.mem_map.mp known
    exact ⟨row, List.mem_append_left _ held, same⟩
  · exact ⟨event, List.mem_append_right _ (List.mem_filter.mpr ⟨member, by simpa using known⟩), rfl⟩

/-- `append_batch` with the number of inserted rows; a missing table is created with every row. -/
def writeBatch (decisionId : ρ → String) (rows : List (Event ρ))
    (stored : Option (List (Event ρ))) : ℕ × Option (List (Event ρ)) :=
  if rows.isEmpty then (0, stored)
  else
    match stored with
    | none => (rows.length, some rows)
    | some bronze =>
      let merged := appendBatch decisionId bronze rows
      (merged.length - bronze.length, some merged)

/-- Consecutive calls of `append_batch`, with the sum of the returned counts. -/
def writeBatches (decisionId : ρ → String) :
    List (List (Event ρ)) → Option (List (Event ρ)) → ℕ × Option (List (Event ρ))
  | [], stored => (0, stored)
  | rows :: batches, stored =>
    let (inserted, written) := writeBatch decisionId rows stored
    let (total, final) := writeBatches decisionId batches written
    (inserted + total, final)

def decisions (decisionId : ρ → String) (rows : List (Event ρ)) : List String :=
  rows.map fun row => decisionId row.columns

/-- Bronze has one row for each decision in the batches, and the counts add up to their number. -/
def LandedOnce (decisionId : ρ → String) (batches : List (List (Event ρ))) : Prop :=
  let landed := decisions decisionId ((writeBatches decisionId batches none).2.getD [])
  landed.Nodup ∧ landed.toFinset = (decisions decisionId batches.flatten).toFinset ∧
    (writeBatches decisionId batches none).1 =
      (decisions decisionId batches.flatten).toFinset.card

/-- A batch repeats only decisions of earlier batches. -/
def Unrepeated : Finset String → List (List String) → Prop
  | _, [] => True
  | seen, batch :: batches =>
    (batch.filter (· ∉ seen)).Nodup ∧ Unrepeated (seen ∪ batch.toFinset) batches

section Landing

variable (decisionId : ρ → String)

theorem decisions_appendBatch :
    decisions decisionId (appendBatch decisionId bronze events) =
      decisions decisionId bronze ++
        (decisions decisionId events).filter (· ∉ decisions decisionId bronze) := by
  simp [decisions, appendBatch, List.filter_map, Function.comp_def]

theorem writeBatch_spec (events : List (Event ρ)) (stored : Option (List (Event ρ))) :
    (writeBatch decisionId events stored).2.getD [] =
        appendBatch decisionId (stored.getD []) events ∧
      (writeBatch decisionId events stored).1 + (stored.getD []).length =
        (appendBatch decisionId (stored.getD []) events).length := by
  unfold writeBatch
  by_cases empty : events.isEmpty
  · simp [List.isEmpty_iff.mp empty, appendBatch]
  · rw [if_neg empty]
    cases stored with
    | none => simp [appendBatch]
    | some bronze => simp [appendBatch, Nat.add_comm]

theorem writeBatches_spec (batches : List (List (Event ρ))) (stored : Option (List (Event ρ))) :
    (writeBatches decisionId batches stored).2.getD [] =
        batches.foldl (appendBatch decisionId) (stored.getD []) ∧
      (writeBatches decisionId batches stored).1 + (stored.getD []).length =
        (batches.foldl (appendBatch decisionId) (stored.getD [])).length := by
  induction batches generalizing stored with
  | nil => exact ⟨rfl, Nat.zero_add _⟩
  | cons rows batches ih =>
    obtain ⟨written, inserted⟩ := writeBatch_spec decisionId rows stored
    obtain ⟨final, total⟩ := ih (writeBatch decisionId rows stored).2
    rw [written] at final total
    refine ⟨final, ?_⟩
    rw [List.foldl_cons]
    simp only [writeBatches]
    omega

theorem toFinset_decisions_foldl (bronze : List (Event ρ)) (batches : List (List (Event ρ))) :
    (decisions decisionId (batches.foldl (appendBatch decisionId) bronze)).toFinset =
      (decisions decisionId bronze).toFinset ∪
        (decisions decisionId batches.flatten).toFinset := by
  induction batches generalizing bronze with
  | nil => simp [decisions]
  | cons rows batches ih =>
    have parts : decisions decisionId (rows :: batches).flatten =
        decisions decisionId rows ++ decisions decisionId batches.flatten := List.map_append
    rw [List.foldl_cons, ih, decisions_appendBatch, parts]
    ext decision
    by_cases held : decision ∈ decisions decisionId bronze
    · simp [held]
    · simp [held]

theorem nodup_decisions_foldl (bronze : List (Event ρ)) (batches : List (List (Event ρ))) :
    (decisions decisionId (batches.foldl (appendBatch decisionId) bronze)).Nodup ↔
      (decisions decisionId bronze).Nodup ∧
        Unrepeated (decisions decisionId bronze).toFinset (batches.map (decisions decisionId)) := by
  induction batches generalizing bronze with
  | nil => simp [Unrepeated]
  | cons rows batches ih =>
    have known := toFinset_decisions_foldl decisionId bronze [rows]
    rw [List.foldl_cons, List.foldl_nil, List.flatten_singleton] at known
    rw [List.foldl_cons, ih, known, decisions_appendBatch, List.nodup_append]
    have apart : ∀ decision ∈ decisions decisionId bronze,
        ∀ other ∈ (decisions decisionId rows).filter (· ∉ decisions decisionId bronze),
          decision ≠ other := by
      rintro decision held other member rfl
      simp [held] at member
    simp only [Unrepeated, List.map_cons, List.mem_toFinset, and_assoc]
    exact and_congr_right' (and_congr_right' (and_iff_right apart))

theorem landedOnce_iff_unrepeated (batches : List (List (Event ρ))) :
    LandedOnce decisionId batches ↔ Unrepeated ∅ (batches.map (decisions decisionId)) := by
  obtain ⟨final, total⟩ := writeBatches_spec decisionId batches none
  have rows := toFinset_decisions_foldl decisionId [] batches
  have once := nodup_decisions_foldl decisionId [] batches
  simp only [decisions, List.map_nil, List.toFinset_nil, Finset.empty_union, List.nodup_nil,
    true_and] at rows once
  unfold LandedOnce
  rw [final]
  refine ⟨fun landed => once.mp landed.1, fun unrepeated => ?_⟩
  have nodup := once.mpr unrepeated
  refine ⟨nodup, rows, ?_⟩
  rw [decisions, ← rows, List.toFinset_card_of_nodup nodup, List.length_map]
  exact total

/-- The first write keeps both rows of a decision. -/
theorem repeated_row_lands_twice : ¬ LandedOnce id [[⟨"d", 1⟩, ⟨"d", 2⟩]] := by
  unfold LandedOnce
  decide

end Landing

/-- What the polls of consecutive runs yield when the slot returns these batches. -/
def polls (table : String) : Option Nat → List (List (Change ρ)) → List (List (Event ρ))
  | _, [] => []
  | checkpoint, rows :: batches =>
    let events := eventsFromRows table checkpoint rows
    events :: polls table (advanced checkpoint events) batches

/-- Every insert is yielded by exactly one poll, the one its batch went to. -/
def YieldedOnce (table : String) (batches : List (List (Change ρ))) : Prop :=
  polls table none batches = batches.map (inserts table)

/-- The inserts of every batch have LSNs above the last insert before it, if there is one. -/
def Ascending (table : String) : Option Nat → List (List (Change ρ)) → Prop
  | _, [] => True
  | last, rows :: batches =>
    (∀ event ∈ inserts table rows, above last event.cdcLsn = true) ∧
      Ascending table (advanced last (inserts table rows)) batches

theorem polls_eq_iff {batches : List (List (Change ρ))} :
    polls table checkpoint batches = batches.map (inserts table) ↔
      Ascending table checkpoint batches := by
  induction batches generalizing checkpoint with
  | nil => exact iff_of_true rfl trivial
  | cons rows batches ih =>
    rw [polls, List.map_cons, List.cons.injEq, Ascending, ← eventsFromRows_eq_iff]
    refine and_congr_right fun complete => ?_
    rw [complete]
    exact ih

theorem yieldedOnce_iff_ascending {batches : List (List (Change ρ))} :
    YieldedOnce table batches ↔ Ascending table none batches :=
  polls_eq_iff

/-- A transaction which wrote early and committed late comes in the second batch. -/
theorem late_commit_is_dropped :
    ¬ YieldedOnce "public.evidence_intent"
      [[⟨10, "I", "public.evidence_intent", ()⟩], [⟨5, "I", "public.evidence_intent", ()⟩]] := by
  unfold YieldedOnce
  decide

inductive Phase (ρ : Type)
  | idle
  | checked (checkpoint : Option Nat)
  | polled (events : List (Event ρ))
  | landed (events : List (Event ρ))

/-- The slot, what was consumed from it, Bronze, the stored checkpoint and the running consumer. -/
structure Pipeline (ρ : Type) where
  slot : List (Change ρ) := []
  consumed : List (Change ρ) := []
  bronze : List (Event ρ) := []
  checkpoint : Option Nat := none
  phase : Phase ρ := .idle

/-- A commit of a writer, a step of the consumer, or a crash after which the consumer restarts. -/
inductive Step (ρ : Type)
  | commit (changes : List (Change ρ))
  | readCheckpoint
  /-- The transaction which reads this many changes from the slot commits. -/
  | poll (count : Nat)
  | land
  | failLand
  | storeCheckpoint
  | crash

variable (table : String) (decisionId : ρ → String)

/-- One step of the pipeline; a step out of turn does nothing. -/
def Step.run (step : Step ρ) (state : Pipeline ρ) : Pipeline ρ :=
  match step, state.phase with
  | .commit changes, _ => { state with slot := state.slot ++ changes }
  | .readCheckpoint, .idle => { state with phase := .checked state.checkpoint }
  | .poll count, .checked checkpoint =>
    let events := eventsFromRows table checkpoint (state.slot.take count)
    { state with
      slot := state.slot.drop count
      consumed := state.consumed ++ state.slot.take count
      phase := if events.isEmpty then .idle else .polled events }
  | .land, .polled events =>
    { state with
      bronze := appendBatch decisionId state.bronze events
      phase := .landed events }
  | .storeCheckpoint, .landed events =>
    { state with checkpoint := advanced state.checkpoint events, phase := .idle }
  | .failLand, .polled _ | .crash, _ => { state with phase := .idle }
  | _, _ => state

/-- Every insert consumed from the slot is in Bronze, in the hands of the running consumer, or again
in the slot, from which alone a later poll can return it. -/
def Accounted (state : Pipeline ρ) : Prop :=
  ∀ event ∈ inserts table state.consumed,
    Present decisionId state.bronze (decisionId event.columns) ∨
      (∃ events, state.phase = .polled events ∧ event ∈ events) ∨
      event ∈ inserts table state.slot

/-- The consumer neither crashes nor fails with a batch in its hands, and polls only inserts above
the checkpoint it read. -/
def Step.Careful (step : Step ρ) (state : Pipeline ρ) : Prop :=
  match step with
  | .poll count => ∀ checkpoint, state.phase = .checked checkpoint →
      ∀ event ∈ inserts table (state.slot.take count), above checkpoint event.cdcLsn = true
  | .failLand | .crash => ∀ events, state.phase ≠ .polled events
  | _ => True

variable {table decisionId}

theorem inserts_append (first second : List (Change ρ)) :
    inserts table (first ++ second) = inserts table first ++ inserts table second := by
  simp [inserts]

theorem accounted_run (step : Step ρ) (state : Pipeline ρ) (careful : step.Careful table state)
    (accounted : Accounted table decisionId state) :
    Accounted table decisionId (step.run table decisionId state) := by
  unfold Step.run
  split
  next changes _ =>
    intro event member
    rcases accounted event member with present | held | waiting
    · exact .inl present
    · exact .inr (.inl held)
    · rw [inserts_append]
      exact .inr (.inr (List.mem_append_left _ waiting))
  next phase =>
    intro event member
    simpa [phase] using accounted event member
  next count checkpoint phase =>
    -- what was waiting in the slot is now consumed or waits behind the batch
    have complete := eventsFromRows_eq_iff.mpr (careful checkpoint phase)
    have polled : ∀ event ∈ inserts table (state.slot.take count),
        ∃ events, (if (eventsFromRows table checkpoint (state.slot.take count)).isEmpty then .idle
          else .polled (eventsFromRows table checkpoint (state.slot.take count)) : Phase ρ) =
            .polled events ∧ event ∈ events := by
      intro event member
      rw [complete, if_neg (by simp [List.ne_nil_of_mem member])]
      exact ⟨_, rfl, member⟩
    intro event member
    rw [inserts_append] at member
    rcases List.mem_append.mp member with earlier | now
    · rcases accounted event earlier with present | ⟨events, other, -⟩ | waiting
      · exact .inl present
      · simp [phase] at other
      · rw [← List.take_append_drop count state.slot, inserts_append] at waiting
        rcases List.mem_append.mp waiting with taken | left
        · exact .inr (.inl (polled event taken))
        · exact .inr (.inr left)
    · exact .inr (.inl (polled event now))
  next events phase =>
    intro event member
    rcases accounted event member with present | ⟨held, same, inside⟩ | waiting
    · obtain ⟨row, stored, same⟩ := present
      exact .inl ⟨row, List.mem_append_left _ stored, same⟩
    · cases phase.symm.trans same
      exact .inl (present_appendBatch inside)
    · exact .inr (.inr waiting)
  next phase =>
    intro event member
    simpa [phase] using accounted event member
  next events phase => exact absurd phase (careful events)
  next =>
    intro event member
    rcases accounted event member with present | ⟨held, same, -⟩ | waiting
    · exact .inl present
    · exact absurd same (careful held)
    · exact .inr (.inr waiting)
  next => exact accounted

theorem accounted_of_careful {state : Pipeline ρ}
    (run : Reaches (Step.Careful table) (Step.run table decisionId) {} state) :
    Accounted table decisionId state :=
  run.invariant _ (by simp [Accounted, inserts]) accounted_run

/-- A consumer which crashes before it stores its checkpoint, and goes on with the next batch. -/
def crashAfterLanding : List (Step String) :=
  [.commit [⟨1, "I", "public.evidence_intent", "d"⟩, ⟨2, "I", "public.evidence_intent", "e"⟩],
    .readCheckpoint, .poll 1, .land, .crash, .readCheckpoint, .poll 1, .land, .storeCheckpoint]

theorem accounted_of_crashAfterLanding :
    let state := runAll (Step.run "public.evidence_intent" id) crashAfterLanding {}
    Accounted "public.evidence_intent" id state ∧
      (inserts "public.evidence_intent" state.consumed).length = 2 := by
  refine ⟨accounted_of_careful (Permits.reaches ?_), by decide⟩
  refine ⟨trivial, trivial, ?_, trivial, ?_, trivial, ?_, trivial, trivial, trivial⟩
  · intro checkpoint phase event _
    cases phase
    rfl
  · intro events phase
    cases phase
  · intro checkpoint phase event _
    cases phase
    rfl

/-- A crash between the poll and the write to Bronze. -/
theorem crash_after_poll_loses :
    ¬ Accounted "public.evidence_intent" id
      (runAll (Step.run "public.evidence_intent" id)
        [.commit [⟨1, "I", "public.evidence_intent", "d"⟩], .readCheckpoint, .poll 1, .crash]
        {}) := by
  intro accounted
  have lost := accounted ⟨"d", 1⟩ (by decide)
  simp [runAll, Step.run, Present, inserts, eventsFromRows, Change.isInsert, above] at lost

section Sourced

def Step.changes : Step ρ → List (Change ρ)
  | .commit changes => changes
  | _ => []

variable (table decisionId) in
/-- The pipeline holds committed inserts, and the checkpoint does not run ahead of Bronze. -/
structure Sourced (committed : List (Change ρ)) (state : Pipeline ρ) : Prop where
  slot : state.slot ⊆ committed
  bronze : state.bronze ⊆ inserts table committed
  inHand : ∀ events, state.phase = .polled events ∨ state.phase = .landed events →
    events ⊆ inserts table committed
  landed : ∀ events, state.phase = .landed events → ∀ event ∈ events,
    Present decisionId state.bronze (decisionId event.columns)
  checkpoint : ∀ lsn ∈ state.checkpoint, ∃ event ∈ inserts table committed,
    event.cdcLsn = lsn ∧ Present decisionId state.bronze (decisionId event.columns)

theorem eventsFromRows_subset {rows committed : List (Change ρ)} (known : rows ⊆ committed) :
    eventsFromRows table checkpoint rows ⊆ inserts table committed := by
  intro event member
  simp only [eventsFromRows, inserts, List.mem_map, List.mem_filter] at member ⊢
  obtain ⟨change, ⟨⟨waiting, -⟩, isInsert⟩, made⟩ := member
  exact ⟨change, ⟨known waiting, isInsert⟩, made⟩

theorem Sourced.run {committed : List (Change ρ)} {state : Pipeline ρ} (step : Step ρ)
    (commits : step.changes ⊆ committed) (sourced : Sourced table decisionId committed state) :
    Sourced table decisionId committed (step.run table decisionId state) := by
  obtain ⟨slot, held, inHand, landed, behind⟩ := sourced
  unfold Step.run
  split
  next => exact ⟨List.append_subset.mpr ⟨slot, commits⟩, held, inHand, landed, behind⟩
  next => exact ⟨slot, held, nofun, nofun, behind⟩
  next count checkpoint _ =>
    have polled := @eventsFromRows_subset _ checkpoint table _ _
      (List.Subset.trans (List.take_subset count state.slot) slot)
    refine ⟨List.Subset.trans (List.drop_subset ..) slot, held, ?_, ?_, behind⟩
    · intro events phase
      dsimp only at phase
      split at phase <;> rcases phase with ⟨⟨⟩⟩ | ⟨⟨⟩⟩
      exact polled
    · intro events phase
      dsimp only at phase
      split at phase <;> cases phase
  next events phase =>
    have polled := inHand events (.inl phase)
    refine ⟨slot, ?_, ?_, ?_, ?_⟩
    · exact List.append_subset.mpr ⟨held, List.Subset.trans (List.filter_subset_self _) polled⟩
    · rintro _ (⟨⟨⟩⟩ | ⟨⟨⟩⟩)
      exact polled
    · rintro _ ⟨⟩ event member
      exact present_appendBatch member
    · intro lsn stored
      obtain ⟨event, inserted, same, row, present, decides⟩ := behind lsn stored
      exact ⟨event, inserted, same, row, List.mem_append_left _ present, decides⟩
  next events phase =>
    refine ⟨slot, held, nofun, nofun, fun lsn stored => ?_⟩
    cases last : events.getLast? with
    | none =>
      simp only [advanced, last] at stored
      exact behind lsn stored
    | some event =>
      simp only [advanced, last] at stored
      cases stored
      have member := List.mem_of_getLast? last
      exact ⟨event, inHand events (.inr phase) member, rfl, landed events phase event member⟩
  iterate 2
    next => exact ⟨slot, held, nofun, nofun, behind⟩
  next => exact ⟨slot, held, inHand, landed, behind⟩

/-- Whatever fails or crashes, a Bronze row is an insert which was committed, and the checkpoint is
the LSN of an insert whose decision is in Bronze. -/
theorem bronze_sourced (table : String) (decisionId : ρ → String) (steps : List (Step ρ)) :
    let final := runAll (Step.run table decisionId) steps {}
    let committed := inserts table (steps.flatMap Step.changes)
    final.bronze ⊆ committed ∧ ∀ lsn ∈ final.checkpoint, ∃ event ∈ committed,
      event.cdcLsn = lsn ∧ Present decisionId final.bronze (decisionId event.columns) := by
  have initial : Sourced table decisionId (steps.flatMap Step.changes) {} :=
    ⟨List.nil_subset _, List.nil_subset _, nofun, nofun, nofun⟩
  have sourced := runAll_invariant _ initial fun step member _ kept =>
    kept.run step fun _ => List.mem_flatMap_of_mem member
  exact ⟨sourced.bronze, sourced.checkpoint⟩

end Sourced

section Draining

variable (table : String) (decisionId : ρ → String) (batchSize : ℕ)

/-- `_poll_and_land`: how many events were polled and how many rows inserted. -/
def pollAndLand (state : Pipeline ρ) : ℕ × ℕ × Pipeline ρ :=
  let events := eventsFromRows table state.checkpoint (state.slot.take batchSize)
  let after := runAll (Step.run table decisionId)
    [.readCheckpoint, .poll batchSize, .land, .storeCheckpoint] state
  (events.length, after.bronze.length - state.bronze.length, after)

/-- `run_until_drained`, with the number of batches it may still poll. -/
def runUntilDrained : ℕ → Pipeline ρ → ℕ × Pipeline ρ
  | 0, state => (0, state)
  | maxBatches + 1, state =>
    match pollAndLand table decisionId batchSize state with
    | (0, _, after) => (0, after)
    | (_ + 1, inserted, after) =>
      let (total, last) := runUntilDrained maxBatches after
      (inserted + total, last)

/-- Every batch but the last holds an insert above the checkpoint. -/
def Fed (state : Pipeline ρ) : Prop :=
  ∀ index, (index + 1) * batchSize < state.slot.length → eventsFromRows table state.checkpoint
    ((state.slot.drop (index * batchSize)).take batchSize) ≠ []

variable {table decisionId batchSize} {state : Pipeline ρ}

/-- A poll which yields something leaves changes which lie above the checkpoint it moves to. -/
theorem fed_of_polled (increasing : state.slot.Pairwise (·.lsn < ·.lsn)) {after : Pipeline ρ}
    {events : List (Event ρ)} (some_polled : events ≠ [])
    (polled : eventsFromRows table state.checkpoint (state.slot.take batchSize) = events)
    (slot_eq : after.slot = state.slot.drop batchSize)
    (checkpoint_eq : after.checkpoint = advanced state.checkpoint events) :
    Fed table batchSize after ↔ Fed table batchSize state := by
  obtain ⟨event, last⟩ := Option.isSome_iff_exists.mp (List.getLast?_isSome.mpr some_polled)
  have member : event ∈ eventsFromRows table state.checkpoint (state.slot.take batchSize) :=
    polled ▸ List.mem_of_getLast? last
  obtain ⟨change, kept, rfl⟩ := List.mem_map.mp member
  obtain ⟨taken, known⟩ := List.mem_filter.mp (List.mem_filter.mp kept).1
  have beyond : ∀ later ∈ state.slot.drop batchSize, change.lsn < later.lsn := by
    rw [← List.take_append_drop batchSize state.slot, List.pairwise_append] at increasing
    exact increasing.2.2 change taken
  have same : ∀ index, eventsFromRows table after.checkpoint
      ((after.slot.drop (index * batchSize)).take batchSize) = eventsFromRows table
        state.checkpoint ((state.slot.drop ((index + 1) * batchSize)).take batchSize) := by
    intro index
    rw [slot_eq, List.drop_drop, Nat.succ_mul, Nat.add_comm batchSize]
    unfold eventsFromRows
    rw [List.filter_congr fun later inside => ?_]
    have above_last := beyond later ?_
    · rw [checkpoint_eq, advanced, last]
      cases checkpoint : state.checkpoint with
      | none => simpa [above, Change.event] using above_last
      | some stored =>
        simp only [above, checkpoint, Option.all_some, decide_eq_true_eq] at known
        simp [above, Change.event, above_last, known.trans above_last]
    · rw [Nat.add_comm, ← List.drop_drop] at inside
      exact List.mem_of_mem_drop (List.mem_of_mem_take inside)
  have length_eq : after.slot.length = state.slot.length - batchSize := by
    rw [slot_eq, List.length_drop]
  simp only [Fed, same]
  constructor
  · intro fed index within
    cases index with
    | zero => simpa [polled] using some_polled
    | succ index =>
      rw [Nat.succ_mul] at within
      exact fed index (by omega)
  · intro fed index within
    refine fed (index + 1) ?_
    rw [Nat.succ_mul]
    omega

theorem pollAndLand_eq (idle : state.phase = .idle) : ∃ inserted bronze consumed,
    pollAndLand table decisionId batchSize state =
      ((eventsFromRows table state.checkpoint (state.slot.take batchSize)).length, inserted,
        { slot := state.slot.drop batchSize, consumed, bronze
          checkpoint := advanced state.checkpoint
            (eventsFromRows table state.checkpoint (state.slot.take batchSize)) }) := by
  simp only [pollAndLand, runAll, List.foldl_cons, Step.run, idle]
  cases eventsFromRows table state.checkpoint (state.slot.take batchSize) with
  | nil => exact ⟨0, state.bronze, state.consumed ++ state.slot.take batchSize, by simp [advanced]⟩
  | cons event events => exact ⟨_, _, _, rfl⟩

theorem drained_iff_fed (idle : state.phase = .idle)
    (increasing : state.slot.Pairwise (·.lsn < ·.lsn)) (positive : 1 ≤ batchSize)
    {maxBatches : ℕ} (enough : state.slot.length < maxBatches) :
    (runUntilDrained table decisionId batchSize maxBatches state).2.slot = [] ↔
      Fed table batchSize state := by
  induction maxBatches generalizing state with
  | zero => omega
  | succ maxBatches ih =>
    obtain ⟨inserted, bronze, consumed, run⟩ :=
      @pollAndLand_eq _ table decisionId batchSize state idle
    simp only [runUntilDrained, run]
    cases polled : eventsFromRows table state.checkpoint (state.slot.take batchSize) with
    | nil =>
      simp only [List.length_nil, List.drop_eq_nil_iff]
      constructor
      · intro short index within
        rw [Nat.succ_mul] at within
        omega
      · intro fed
        by_contra long
        exact fed 0 (by omega) (by simpa using polled)
    | cons event events =>
      have nonempty : state.slot ≠ [] := by
        intro empty
        simp [empty, eventsFromRows, inserts] at polled
      have shorter : (state.slot.drop batchSize).length < maxBatches := by
        have := List.length_pos_iff.mpr nonempty
        rw [List.length_drop]
        omega
      refine (ih rfl increasing.drop shorter).trans ?_
      exact fed_of_polled increasing (List.cons_ne_nil event events) polled rfl rfl

end Draining

def twoInserts : Pipeline String where
  slot := [⟨1, "I", "public.evidence_intent", "d"⟩, ⟨2, "I", "public.evidence_intent", "e"⟩]

theorem drained_of_twoInserts :
    (runUntilDrained "public.evidence_intent" id 1 3 twoInserts).2.slot = [] := by
  refine (drained_iff_fed rfl (by simp [twoInserts]) (le_refl 1) (by decide)).mpr ?_
  intro index (below : (index + 1) * 1 < 2)
  obtain rfl : index = 0 := by omega
  decide

/-- A batch without an insert into the table ends the loop before the second change. -/
theorem foreign_batch_stops_draining :
    (runUntilDrained "public.evidence_intent" id 1 3
      { slot := [⟨1, "I", "public.evidence_outcome", "d"⟩,
        ⟨2, "I", "public.evidence_intent", "d"⟩] }).2.slot ≠ [] := by
  decide

end Cdc

end GlassBox
