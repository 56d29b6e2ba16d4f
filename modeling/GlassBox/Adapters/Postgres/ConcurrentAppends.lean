import GlassBox.Foundation.Runs
import GlassBox.Adapters.Postgres.Statements
import GlassBox.Domain.Sample

/-!
# Concurrent appends

Calls of `append_intent` which run at once.  The lock they take is on the segment and the unique
index on the decision and its time, so neither stops two calls for one decision which name
different segments and times.
-/

namespace GlassBox

namespace Postgres

section OneRecord

variable {ι κ : Type} (store : PostgresEvidenceStore κ) (records : ι → IntentRecord)

/-- Calls for one decision meet at the lock of their segment or in the index of decisions. -/
def Meet (record other : IntentRecord) : Prop :=
  record.decisionId = other.decisionId →
    record.segmentId = other.segmentId ∨ columnTime store record = columnTime store other

/-- Rows of one decision which the unique index tells apart from the row of the record. -/
def Unrivalled (record : IntentRecord) (intents : List IntentRow) : Prop :=
  ∀ row ∈ intents, row.decisionId = record.decisionId → row.createdAt = columnTime store record

def Fresh (record : IntentRecord) (intents : List IntentRow) : Prop :=
  ∀ row ∈ intents, row.decisionId ≠ record.decisionId

def Receipted (record : IntentRecord) (intents : List IntentRow) (receipt : EvidenceReceipt) :
    Prop :=
  ∃ row ∈ intents, row.decisionId = record.decisionId ∧ ReceiptOf row receipt

def Phase.Knows (record : IntentRecord) (intents : List IntentRow) : Phase → Prop
  | .ready | .opened _ | .locked _ | .raised _ => True
  | .unseen _ => Unrivalled store record intents
  | .signed _ row => RowOf store record row ∧ Unrivalled store record intents
  | .written _ row => RowOf store record row ∧ Fresh record intents
  | .finishing _ (some row) receipt =>
    RowOf store record row ∧ Fresh record intents ∧ ReceiptOf row receipt
  | .finishing _ none receipt | .returned receipt => Receipted record intents receipt

/-- What holds of two calls at any time. -/
structure CallsApart (i j : ι) (phase other : Phase) : Prop where
  meet : phase.isOpen = true → other.isOpen = true → Meet store (records i) (records j)
  exclusive : phase.holdsSegment = true → other.holdsSegment = true →
    (records i).segmentId ≠ (records j).segmentId
  distinct : phase.uncommitted.isSome = true → other.uncommitted.isSome = true →
    (records i).decisionId ≠ (records j).decisionId

def OneRowEach (intents : List IntentRow) : Prop :=
  intents.Pairwise fun row other => row.decisionId ≠ other.decisionId

def AppendsInvariant : Appends ι κ → Prop :=
  Interleaved.Invariant (fun shared => OneRowEach shared.store.intents)
    (fun i shared phase => phase.Knows store (records i) shared.store.intents)
    (CallsApart store records)

/-- No call starts while a call for the same decision is open which it would not meet. -/
def Awaits (i : ι) (state : Appends ι κ) : Prop :=
  ∀ j, j ≠ i → state.phases i = .ready → (state.phases j).isOpen = true →
    Meet store (records i) (records j)

variable {store records} {record : IntentRecord} {phase : Phase} {other : Phase} {i j : ι}
  {intents : List IntentRow} {row : IntentRow} {state after : Appends ι κ}
  {shared : Signed κ Database} {receipt : EvidenceReceipt}

theorem Meet.symm {other : IntentRecord} (meet : Meet store record other) :
    Meet store other record := fun same => (meet same.symm).imp Eq.symm Eq.symm

theorem CallsApart.symm (apart : CallsApart store records i j phase other) :
    CallsApart store records j i other phase where
  meet := fun left right => (apart.meet right left).symm
  exclusive := fun left right => (apart.exclusive right left).symm
  distinct := fun left right => (apart.distinct right left).symm

/-- A move to a phase which is open, locked or has a row only if the call was so before. -/
theorem CallsApart.weaken {phase' : Phase} (apart : CallsApart store records i j phase other)
    (isOpen : phase'.isOpen = true → phase.isOpen = true)
    (holdsSegment : phase'.holdsSegment = true → phase.holdsSegment = true)
    (uncommitted : phase'.uncommitted.isSome = true → phase.uncommitted.isSome = true) :
    CallsApart store records i j phase' other where
  meet := fun left right => apart.meet (isOpen left) right
  exclusive := fun left right => apart.exclusive (holdsSegment left) right
  distinct := fun left right => apart.distinct (uncommitted left) right

theorem Phase.Knows.rowOf (knows : phase.Knows store record intents)
    (inserted : row ∈ phase.uncommitted) : RowOf store record row := by
  cases phase with
  | written segment written | finishing segment written receipt =>
    cases inserted
    exact knows.1
  | _ => cases inserted

/-- A committed row disturbs no call which the unique index would tell of it. -/
theorem Phase.Knows.concat (knows : phase.Knows store record intents)
    (timed : phase.holdsSegment = true → row.decisionId = record.decisionId →
      row.createdAt = columnTime store record)
    (distinct : phase.uncommitted.isSome = true → row.decisionId ≠ record.decisionId) :
    phase.Knows store record (intents ++ [row]) := by
  have unrivalled (holds : phase.holdsSegment = true) (before : Unrivalled store record intents) :
      Unrivalled store record (intents ++ [row]) := by
    intro other stored same
    rcases List.mem_append.mp stored with old | new
    · exact before other old same
    · cases List.mem_singleton.mp new
      exact timed holds same
  have fresh (inserted : phase.uncommitted.isSome = true) (before : Fresh record intents) :
      Fresh record (intents ++ [row]) := by
    intro other stored
    rcases List.mem_append.mp stored with old | new
    · exact before other old
    · cases List.mem_singleton.mp new
      exact distinct inserted
  have receipted {receipt : EvidenceReceipt} (before : Receipted record intents receipt) :
      Receipted record (intents ++ [row]) receipt := by
    obtain ⟨other, stored, named⟩ := before
    exact ⟨other, List.mem_append_left _ stored, named⟩
  cases phase with
  | ready | opened _ | locked _ | raised _ => trivial
  | unseen segment => exact unrivalled rfl knows
  | signed segment written => exact ⟨knows.1, unrivalled rfl knows.2⟩
  | written segment written => exact ⟨knows.1, fresh rfl knows.2⟩
  | finishing segment written receipt =>
    cases written with
    | none => exact receipted knows
    | some written => exact ⟨knows.1, fresh rfl knows.2.1, knows.2.2⟩
  | returned receipt => exact receipted knows

/-- The calls which returned name the same row when they were made for one decision. -/
def OneReceiptEach (records : ι → IntentRecord) (state : Appends ι κ) : Prop :=
  ∀ i j receipt other, state.phases i = .returned receipt → state.phases j = .returned other →
    (records i).decisionId = (records j).decisionId →
    receipt.segmentId = other.segmentId ∧ receipt.seq = other.seq ∧
      receipt.recordHmac = other.recordHmac

theorem OneRowEach.eq (distinct : OneRowEach intents) {other : IntentRow} (stored : row ∈ intents)
    (other_stored : other ∈ intents) (same : row.decisionId = other.decisionId) : row = other := by
  by_contra different
  have : Std.Symm fun row other : IntentRow => row.decisionId ≠ other.decisionId :=
    ⟨fun _ _ => Ne.symm⟩
  exact distinct.forall stored other_stored different same

theorem ReceiptOf.agree {other : EvidenceReceipt} (read : ReceiptOf row receipt)
    (other_read : ReceiptOf row other) :
    receipt.segmentId = other.segmentId ∧ receipt.seq = other.seq ∧
      receipt.recordHmac = other.recordHmac :=
  ⟨read.segmentId_eq.trans other_read.segmentId_eq.symm, read.seq_eq.trans other_read.seq_eq.symm,
    Subtype.ext (read.recordHmac_eq.trans other_read.recordHmac_eq.symm)⟩

theorem AppendsInvariant.oneReceiptEach (invariant : AppendsInvariant store records state) :
    OneReceiptEach records state := by
  intro i j receipt other returned other_returned same
  have knows := invariant.own i
  have other_knows := invariant.own j
  rw [returned] at knows
  rw [other_returned] at other_knows
  obtain ⟨row, stored, row_decision, read⟩ := knows
  obtain ⟨other_row, other_stored, other_decision, other_read⟩ := other_knows
  have row_eq := invariant.whole.eq stored other_stored
    (row_decision.trans (same.trans other_decision.symm))
  subst row_eq
  exact read.agree other_read

variable [DecidableEq ι] {i : ι} {segment : SegmentRow}

section

variable (invariant : AppendsInvariant store records state)
include invariant

/-- A call moves on within its transaction, without taking a lock or inserting a row. -/
theorem AppendsInvariant.continue {signer : κ}
    (knows : phase.Knows store (records i) state.shared.store.intents)
    (isOpen : phase.isOpen = true → (state.phases i).isOpen = true)
    (holdsSegment : phase.holdsSegment = true → (state.phases i).holdsSegment = true)
    (uncommitted : phase.uncommitted.isSome = true → (state.phases i).uncommitted.isSome = true) :
    AppendsInvariant store records (state.move i { state.shared with signer } phase) := by
  refine invariant.move (fun _ _ _ _ => CallsApart.symm) invariant.whole knows
    (fun j _ => invariant.own j) fun j other => ?_
  exact (invariant.apart i j other.symm).weaken isOpen holdsSegment uncommitted

theorem AppendsInvariant.insert
    (signed : state.phases i = .signed segment row) (free : ¬ Awaited state i row)
    (unique : ∀ other ∈ state.shared.store.intents, ¬ row.Conflicts other) :
    AppendsInvariant store records (state.move i state.shared (.written segment row)) := by
  have knows := invariant.own i
  rw [signed] at knows
  obtain ⟨rowOf, unrivalled⟩ := knows
  refine invariant.move_phase (fun _ _ _ _ => CallsApart.symm) ⟨rowOf, ?_⟩ fun j other => ?_
  · intro stored member same
    refine unique stored member ⟨?_, .inl (same.trans rowOf.decisionId_eq.symm)⟩
    rw [unrivalled stored member same, rowOf.createdAt_eq]
  · have apart := invariant.apart i j other.symm
    rw [signed] at apart
    refine ⟨fun _ => apart.meet rfl, fun _ => apart.exclusive rfl, fun _ inserted same => ?_⟩
    have holds := Phase.holdsSegment_of_uncommitted inserted
    rcases apart.meet rfl (Phase.isOpen_of_holdsSegment holds) same with segment_eq | time_eq
    · exact apart.exclusive rfl holds segment_eq
    · obtain ⟨rival, rival_mem⟩ := Option.isSome_iff_exists.mp inserted
      have rivalOf := (invariant.own j).rowOf rival_mem
      refine free ⟨j, other, rival, rival_mem, ?_, .inl ?_⟩
      · rw [rivalOf.createdAt_eq, rowOf.createdAt_eq, time_eq]
      · rw [rivalOf.decisionId_eq, rowOf.decisionId_eq, same]

theorem AppendsInvariant.commit (finishing : state.phases i = .finishing segment (some row) receipt)
    (intents_eq : shared.store.intents = state.shared.store.intents ++ [row]) :
    AppendsInvariant store records (state.move i shared (.returned receipt)) := by
  have knows := invariant.own i
  rw [finishing] at knows
  obtain ⟨rowOf, fresh, read⟩ := knows
  have apart (j : ι) (other : j ≠ i) := invariant.apart i j other.symm
  rw [finishing] at apart
  refine invariant.move (fun _ _ _ _ => CallsApart.symm) ?_ ?_ (fun j other => ?_)
    fun j other => ⟨nofun, nofun, nofun⟩
  · rw [intents_eq]
    refine List.pairwise_append.mpr ⟨invariant.whole, List.pairwise_singleton _ _, ?_⟩
    intro stored member new new_mem
    cases List.mem_singleton.mp new_mem
    rw [rowOf.decisionId_eq]
    exact fresh stored member
  · rw [intents_eq]
    exact ⟨row, by simp, rowOf.decisionId_eq, read⟩
  · rw [intents_eq]
    refine (invariant.own j).concat (fun holds same => ?_) fun inserted same => ?_
    · rw [rowOf.decisionId_eq] at same
      rw [rowOf.createdAt_eq]
      refine ((apart j other).meet rfl (Phase.isOpen_of_holdsSegment holds) same).resolve_left ?_
      exact (apart j other).exclusive rfl holds
    · rw [rowOf.decisionId_eq] at same
      exact (apart j other).distinct rfl inserted same

/-- Every statement of a call which waits for its rivals keeps the invariant. -/
theorem AppendsInvariant.transition (sees_all : store.session.rowSecurity = false)
    (awaits : Awaits store records i state) (transition : Transition store records i state after) :
    AppendsInvariant store records after := by
  have knows := invariant.own i
  cases transition with
  | waits => exact invariant
  | fails => exact invariant.continue trivial nofun nofun nofun
  | opens ready =>
    refine invariant.move_phase (fun _ _ _ _ => CallsApart.symm) trivial fun j other => ?_
    exact ⟨fun _ => awaits j other ready, nofun, nofun⟩
  | locks opened free =>
    refine invariant.move_phase (fun _ _ _ _ => CallsApart.symm) trivial fun j other => ?_
    have apart := invariant.apart i j other.symm
    rw [opened] at apart
    refine ⟨fun _ => apart.meet rfl, fun _ holds same => ?_, nofun⟩
    exact free ⟨j, other, same.symm, holds⟩
  | misses locked absent =>
    refine invariant.continue ?_ (by simp [locked, Phase.isOpen])
      (by simp [locked, Phase.holdsSegment]) nofun
    exact fun row stored same => absurd same (absent sees_all row stored)
  | finds locked stored same read =>
    exact invariant.continue ⟨_, stored, same, read⟩ (by simp [locked, Phase.isOpen])
      (by simp [locked, Phase.holdsSegment]) nofun
  | signs unseen built =>
    rw [unseen] at knows
    exact invariant.continue ⟨built, knows⟩ (by simp [unseen, Phase.isOpen])
      (by simp [unseen, Phase.holdsSegment]) nofun
  | inserts signed free unique => exact invariant.insert signed free unique
  | advances written made =>
    rw [written] at knows
    obtain ⟨rowOf, fresh⟩ := knows
    obtain ⟨decision_eq, segment_eq, seq_eq, mac_eq⟩ := EvidenceReceipt.of_make made
    refine invariant.continue ⟨rowOf, fresh, ?_⟩ (by simp [written, Phase.isOpen])
      (by simp [written, Phase.holdsSegment]) (by simp [written, Phase.uncommitted])
    exact ⟨decision_eq.trans rowOf.decisionId_eq.symm, segment_eq.trans rowOf.segmentId_eq.symm,
      seq_eq, mac_eq⟩
  | @commits segment row receipt finishing =>
    cases row with
    | some row => exact invariant.commit finishing rfl
    | none =>
      have kept : (state.shared.store.commit (records i).segmentId.val segment none).intents =
          state.shared.store.intents := List.append_nil _
      rw [finishing] at knows
      have receipted : Receipted (records i) state.shared.store.intents receipt := knows
      refine invariant.move (fun _ _ _ _ => CallsApart.symm) ?_ ?_ (fun j _ => ?_)
        fun j _ => ⟨nofun, nofun, nofun⟩
      · simpa only [kept] using invariant.whole
      · rwa [← kept] at receipted
      · simpa only [kept] using invariant.own j

end

/-- In every interleaving in which no call starts while a call for the same decision is open with
another segment and another time, each decision has one row and one receipt. -/
theorem one_record_of_awaiting [Runtime] [Fintype ι] (sees_all : store.session.rowSecurity = false)
    {start : Signed κ Database} (distinct : OneRowEach start.store.intents)
    (run : Reaches (Awaits store records) (statement store records) ⟨start, fun _ => .ready⟩
      state) :
    OneRowEach state.shared.store.intents ∧ OneReceiptEach records state := by
  have invariant : AppendsInvariant store records state := by
    refine run.invariant (AppendsInvariant store records)
      ⟨distinct, fun _ => trivial, fun _ _ _ => ⟨nofun, nofun, nofun⟩⟩ ?_
    intro i before awaits invariant
    exact invariant.transition sees_all awaits (statement_transition i before)
  exact ⟨invariant.whole, invariant.oneReceiptEach⟩

end OneRecord

instance (intents : List IntentRow) : Decidable (OneRowEach intents) :=
  inferInstanceAs (Decidable (List.Pairwise _ _))

/-- Two records of one decision, made for different segments. -/
def rivalRecord (segmentIsA : Bool) : IntentRecord :=
  sampleRecord Sample.decision
    (if segmentIsA then Sample.segmentA else Sample.segmentB)

/-- The two calls after a schedule of their statements. -/
def scheduled (records : Bool → IntentRecord) (schedule : List Bool) : Appends Bool UInt8 :=
  letI := plainRuntime
  runAll (statement sampleStore records) schedule ⟨⟨0, {}⟩, fun _ => .ready⟩

/-- Each call reads before the other one writes. -/
def crossing : List Bool := [true, true, true, false, false, false] ++
  [true, true, true, true] ++ [false, false, false, false]

theorem one_record_of_awaiting_crossing :
    OneRowEach (scheduled rivalRecord crossing).shared.store.intents ∧
      OneReceiptEach rivalRecord (scheduled rivalRecord crossing) := by
  let _ := plainRuntime
  -- The rows would have the same time, so the second insert waits for the first one and fails.
  have awaits : ∀ call (state : Appends Bool UInt8), Awaits sampleStore rivalRecord call state :=
    fun _ _ _ _ _ _ _ => .inr rfl
  have distinct : OneRowEach (⟨0, {}⟩ : Signed UInt8 Database).store.intents := .nil
  exact one_record_of_awaiting rfl distinct (permits_of_forall awaits crossing _).reaches

/-- The same two records, made at different times. -/
def lateRecord (segmentIsA : Bool) : IntentRecord :=
  { rivalRecord segmentIsA with
    createdAt := if segmentIsA then Timestamp.epoch else Timestamp.one }

def Phase.receiptSegment : Phase → Option String
  | .returned receipt => some receipt.segmentId.val
  | _ => none

theorem Phase.receiptSegment_eq {phase : Phase} {segmentId : String}
    (named : phase.receiptSegment = some segmentId) :
    ∃ receipt, phase = .returned receipt ∧ receipt.segmentId.val = segmentId := by
  cases phase with
  | returned receipt => exact ⟨receipt, rfl, Option.some.inj named⟩
  | _ => cases named

/-- Both calls write a row, and return receipts of different segments. -/
theorem crossing_appends_twice :
    (¬ ∀ schedule, OneRowEach (scheduled lateRecord schedule).shared.store.intents) ∧
      ¬ ∀ schedule, OneReceiptEach lateRecord (scheduled lateRecord schedule) := by
  have twice : ¬ OneRowEach (scheduled lateRecord crossing).shared.store.intents := by
    decide +kernel
  have first : ((scheduled lateRecord crossing).phases true).receiptSegment = some "segment-a" := by
    decide +kernel
  have second : ((scheduled lateRecord crossing).phases false).receiptSegment =
      some "segment-b" := by
    decide +kernel
  refine ⟨fun claim => twice (claim crossing), fun claim => ?_⟩
  obtain ⟨receipt, returned, segment_eq⟩ := Phase.receiptSegment_eq first
  obtain ⟨other, other_returned, other_segment_eq⟩ := Phase.receiptSegment_eq second
  obtain ⟨same, -, -⟩ := claim crossing true false receipt other returned other_returned rfl
  rw [same, other_segment_eq] at segment_eq
  exact absurd segment_eq (by decide)

end Postgres

end GlassBox
