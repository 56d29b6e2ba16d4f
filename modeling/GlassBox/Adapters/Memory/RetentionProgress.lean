import GlassBox.Adapters.Memory.SealRetry
import GlassBox.App.RetentionScheduler

/-!
# Retention reaches every record

Runs of `append_intent` and `run_once` over the in-memory stores.  The scheduler never seals a
segment again: as long as nothing is appended to a sealed segment, two further passes purge it, and
a record behind the seal stays for ever.
-/

namespace GlassBox

open EStateM

namespace InMemoryEvidenceStore

inductive ScheduledStep
  | appendIntent (record : IntentRecord)
  | runOnce (now : ℚ) (segmentIds : List String)

section Scheduled

variable [Runtime] {κ : Type} (signer : MacSigner κ)
  (scheduler : RetentionScheduler κ InMemoryEvidenceStore InMemoryWormAnchorStore)
  {segmentId : String}

/-- A pass which completed without a failed segment. -/
def Passes (now : ℚ) (segmentIds : List String)
    (before after : Sealing κ InMemoryEvidenceStore InMemoryWormAnchorStore) : Prop :=
  ∃ outcomes, scheduler.runOnce now segmentIds before = .ok outcomes after ∧
    ∀ outcome ∈ outcomes, outcome.action ≠ .failed

/-- An operation, with the rows it appended; a pass appends none. -/
def ScheduledStep.step : ScheduledStep → Archive κ → Archive κ
  | .appendIntent record, archive => archive.moveTo
      ((Sealing.onEvidence (InMemoryEvidenceStore.appendIntent signer record)).after archive.world)
  | .runOnce now segmentIds, archive =>
    { archive with world := (scheduler.runOnce now segmentIds).after archive.world }

def ScheduledStep.Succeeds : ScheduledStep → Archive κ → Prop
  | .appendIntent record, archive =>
    ∃ receipt after, InMemoryEvidenceStore.appendIntent signer record archive.world.evidence =
      .ok receipt after
  | .runOnce now segmentIds, archive => ∃ after, Passes scheduler now segmentIds archive.world after

/-- No new decision is appended to a segment which has been sealed. -/
def ScheduledStep.AvoidsSealed : ScheduledStep → Archive κ → Prop
  | .appendIntent record, archive =>
    archive.world.evidence.store.receipts record.decisionId.val = none →
    archive.world.evidence.store.wormAnchors record.segmentId.val = none
  | .runOnce .., _ => True

/-- What `_consider` does to a segment without failing. -/
inductive Considered (now : ℚ) (segmentId : String)
    (before : Sealing κ InMemoryEvidenceStore InMemoryWormAnchorStore) :
    Sealing κ InMemoryEvidenceStore InMemoryWormAnchorStore → Prop
  /-- Nobody opened the segment. -/
  | absent (missing : before.evidence.store.segments segmentId = none) :
      Considered now segmentId before before
  /-- The segment is too young to be sealed, or has no records. -/
  | unripe (unsealed : before.evidence.store.wormAnchors segmentId = none)
      (waits : now - (before.evidence.store.openedAtOrOne segmentId).val <
          scheduler.sealAfterSeconds ∨ before.evidence.store.rows segmentId = []) :
      Considered now segmentId before before
  /-- The segment is sealed up to its last record. -/
  | sealed {leaves : List SegmentLeaf} {last : SegmentLeaf} {result : SealResult}
      {after : Sealing κ InMemoryEvidenceStore InMemoryWormAnchorStore}
      (unsealed : before.evidence.store.wormAnchors segmentId = none)
      (read : segmentLeaves before.evidence.store segmentId none = .ok leaves)
      (last_eq : leaves.getLast? = some last)
      (returned : scheduler.sealer.sealSegment segmentId (last.seq + 1) now before =
        .ok result after) :
      Considered now segmentId before after
  /-- The grace period is not over, or the sealed range was purged before. -/
  | spared {anchor : WormAnchor} {locator : String}
      (marked : before.evidence.store.wormAnchors segmentId = some (anchor, locator))
      (waits : now - anchor.sealedAt.val < scheduler.purgeGraceSeconds ∨
        anchor.lastSeq + 1 ≤ before.evidence.store.purged segmentId) :
      Considered now segmentId before before
  /-- The sealed range is purged. -/
  | purged {anchor : WormAnchor} {locator : String} {result : PurgeResult}
      {after : Sealing κ InMemoryEvidenceStore InMemoryWormAnchorStore}
      (marked : before.evidence.store.wormAnchors segmentId = some (anchor, locator))
      (returned : scheduler.sealer.purge segmentId (anchor.lastSeq + 1) before = .ok result after) :
      Considered now segmentId before after

omit [Runtime] in
theorem length_segmentLeaves {store : InMemoryEvidenceStore} {leaves : List SegmentLeaf}
    (read : segmentLeaves store segmentId none = .ok leaves) :
    leaves.length = (store.rows segmentId).length := by
  have codes := congrArg List.length (leaves_of_mapM read).2
  simpa [List.length_insertionSort] using codes

variable {signer scheduler} {now : ℚ} {before after : MemorySealing κ} {beforeSeq : Int}
  {result : SealResult} {archive : Archive κ}

theorem maybePurge_considered {anchor : WormAnchor} {locator : String}
    (marked : before.evidence.store.wormAnchors segmentId = some (anchor, locator)) :
    (scheduler.maybePurge segmentId now (sealOfAnchor anchor)
        (before.evidence.store.purged segmentId)).Ends before
      (fun outcome after => outcome.action ≠ .failed →
        Considered scheduler now segmentId before after) (fun _ _ => True) := by
  unfold RetentionScheduler.maybePurge
  split
  · rename_i early
    exact fun _ => .spared marked (.inl early)
  · split
    · rename_i gone
      exact fun _ => .spared marked (.inr gone)
    · simp only [ends_bind, ends_catching]
      cases returned : scheduler.sealer.purge segmentId ((sealOfAnchor anchor).lastSeq + 1)
          before with
      | ok result after => exact (ends_of_ok returned).mpr fun _ => .purged marked returned
      | error error after =>
        rw [ends_of_error returned]
        split
        · exact fun failed => (failed rfl).elim
        · trivial

/-- A seal which returned, in terms of the two stores. -/
theorem sealedOver_of_sealSegment
    (returned : (memorySealer signer).sealSegment segmentId beforeSeq now before =
      .ok result after) : SealedOver signer segmentId beforeSeq now before after := by
  have sealed := sealSegmentUntil_sealedOver signer none segmentId beforeSeq now before
  rw [SegmentSealer.sealSegmentUntil_none, after_of_ok returned] at sealed
  exact sealed

theorem SealedOver.rows_eq (sealed : SealedOver signer segmentId beforeSeq now before after) :
    after.evidence.store.rows = before.evidence.store.rows := by
  funext other
  simp only [rows, sealed.segments_eq]

variable (signer) in
/-- The seal of a segment ends at its last record. -/
structure Covering (archive : Archive κ) : Prop where
  attested : Attested signer archive
  sealed_all : ∀ segmentId anchor locator,
    archive.world.evidence.store.wormAnchors segmentId = some (anchor, locator) →
    anchor.lastSeq + 1 = archive.world.evidence.store.nextSeq segmentId

omit [Runtime] in
/-- Nothing is new when no segment has become longer. -/
theorem Archive.moveTo_of_shorter {archive : Archive κ} {after : MemorySealing κ}
    (shorter : ∀ segmentId, (after.evidence.store.rows segmentId).length ≤
      (archive.live segmentId).length) :
    archive.moveTo after = { archive with world := after } := by
  have nothing : ∀ segmentId, (after.evidence.store.rows segmentId).drop
      (archive.live segmentId).length = [] :=
    fun segmentId => List.drop_eq_nil_of_le (shorter segmentId)
  simp only [Archive.moveTo, nothing, List.append_nil]

omit [Runtime] in
theorem last_of_segmentLeaves {store : InMemoryEvidenceStore} {segmentId : String}
    (consecutive : Consecutive (store.purged segmentId) (store.rows segmentId))
    {leaves : List SegmentLeaf} {last : SegmentLeaf}
    (read : segmentLeaves store segmentId none = .ok leaves)
    (last_eq : leaves.getLast? = some last) : last.seq + 1 = store.nextSeq segmentId := by
  obtain ⟨-, seqs, -⟩ := segmentLeaves_eq_take consecutive read
  have length_eq := length_segmentLeaves read
  rw [length_eq, List.take_length] at seqs
  have lasts := congrArg List.getLast? seqs
  rw [List.getLast?_map, last_eq, List.getLast?_map, List.getLast?_eq_getElem?] at lasts
  cases found : (store.rows segmentId)[(store.rows segmentId).length - 1]? with
  | none => simp [found] at lasts
  | some row =>
    have position := consecutive _ row found
    have within := (List.getElem?_eq_some_iff.mp found).1
    simp only [found, Option.map_some, Option.some.injEq] at lasts
    rw [nextSeq]
    omega

omit [Runtime] in
theorem segmentLeaves_nextSeq {store : InMemoryEvidenceStore} {segmentId : String}
    (consecutive : Consecutive (store.purged segmentId) (store.rows segmentId)) :
    segmentLeaves store segmentId (some (store.nextSeq segmentId)) =
      segmentLeaves store segmentId none := by
  have below : (store.rows segmentId).filter
      (fun row => decide (row.seq < (store.nextSeq segmentId : Int))) = store.rows segmentId := by
    rw [List.filter_eq_self]
    intro row member
    obtain ⟨index, found⟩ := List.mem_iff_getElem?.mp member
    have within := (List.getElem?_eq_some_iff.mp found).1
    rw [decide_eq_true_eq, consecutive index row found, nextSeq]
    omega
  simp only [segmentLeaves, consecutive.pairwise.insertionSort_eq, Option.all_some, below,
    Option.all_none, List.filter_true]

/-- The seal of a pass covers every record of the segment. -/
theorem Attested.seals_all (attested : Attested signer archive) {leaves : List SegmentLeaf}
    {last : SegmentLeaf}
    (read : segmentLeaves archive.world.evidence.store segmentId none = .ok leaves)
    (last_eq : leaves.getLast? = some last)
    (returned : (memorySealer signer).sealSegment segmentId (last.seq + 1) now archive.world =
      .ok result after) :
    after.evidence.store.wormAnchors = Function.update
        archive.world.evidence.store.wormAnchors segmentId (some (result.anchor, result.locator)) ∧
      result.anchor.lastSeq + 1 = archive.world.evidence.store.nextSeq segmentId := by
  obtain ⟨stored, anchored, rfl⟩ := anchorSegment_of_sealSegment returned
  obtain ⟨state, first, rest, -, leaves_eq, contiguous, built, signs, -, -, store_eq⟩ :=
    ((memorySealer signer).anchorSegment_eq_ok_iff retention_reads).mp anchored
  have bound : ((last.seq : Int) + 1) = archive.world.evidence.store.nextSeq segmentId := by
    exact_mod_cast last_of_segmentLeaves (attested.consecutive segmentId) read last_eq
  have all_read := leaves_eq
  rw [bound, segmentLeaves_nextSeq (attested.consecutive segmentId)] at all_read
  have length_eq := length_segmentLeaves all_read
  obtain ⟨payload, payload_eq, signed, key_eq⟩ := signs
  obtain ⟨-, first_eq, -⟩ := attested.attests_leaves leaves_eq
    ⟨contiguous, built, payload, payload_eq, _, _, signed, key_eq⟩
  obtain ⟨-, -, -, -, -, starts, ends, -⟩ := WormAnchor.make_eq_ok_iff.mp built
  rw [SegmentSealer.last_of_contiguous contiguous] at ends
  refine ⟨by simp only [withSeal, store_eq], ?_⟩
  rw [List.length_cons] at length_eq
  rw [nextSeq]
  simp only [Archive.purged] at first_eq
  omega

def Settled (segmentId : String) (world : MemorySealing κ) : Prop :=
  world.evidence.store.rows segmentId = [] ∨
    (world.evidence.store.wormAnchors segmentId).isSome

section Wired

variable (wired : scheduler.sealer = memorySealer signer) {segmentIds : List String}
  {other : String}

include wired

theorem maybeSeal_considered (unsealed : before.evidence.store.wormAnchors segmentId = none) :
    (scheduler.maybeSeal segmentId now (before.evidence.store.openedAtOrOne segmentId)).Ends before
      (fun outcome after => outcome.action ≠ .failed →
        Considered scheduler now segmentId before after) (fun _ _ => True) := by
  have retention_eq : scheduler.sealer.retention = retention := by rw [wired]; rfl
  unfold RetentionScheduler.maybeSeal
  split
  · rename_i young
    exact fun _ => .unripe unsealed (.inl young)
  · simp only [retention_eq, retention, Sealing.onStore, Sealing.onEvidence, ends_bind,
      ends_catching, ends_zoom, ends_query]
    cases read : segmentLeaves before.evidence.store segmentId none with
    | error error => exact fun failed => (failed rfl).elim
    | ok leaves =>
      simp only
      cases last_eq : leaves.getLast? with
      | none =>
        have empty : before.evidence.store.rows segmentId = [] := by
          rw [List.getLast?_eq_none_iff] at last_eq
          have length_eq := length_segmentLeaves read
          rw [last_eq] at length_eq
          exact List.length_eq_zero_iff.mp length_eq.symm
        exact fun _ => .unripe unsealed (.inr empty)
      | some last =>
        simp only [ends_bind, ends_catching]
        cases returned : scheduler.sealer.sealSegment segmentId (last.seq + 1) now before with
        | ok result after =>
          exact (ends_of_ok returned).mpr fun _ =>
            .sealed unsealed read last_eq returned
        | error error after =>
          rw [ends_of_error returned]
          split
          · exact fun failed => (failed rfl).elim
          · trivial

theorem consider_considered (now : ℚ) (segmentId : String) (before : MemorySealing κ) :
    (scheduler.consider now segmentId).Ends before
      (fun outcome after => outcome.action ≠ .failed →
        Considered scheduler now segmentId before after) (fun _ _ => True) := by
  have retention_eq : scheduler.sealer.retention = retention := by rw [wired]; rfl
  simp only [RetentionScheduler.consider, retention_eq, retention, Sealing.onStore,
    Sealing.onEvidence, ends_bind, ends_catching, ends_zoom,
    ends_query]
  cases read : segmentState before.evidence.store segmentId with
  | error error => exact fun failed => (failed rfl).elim
  | ok state =>
    cases state with
    | none => exact fun _ => .absent (segments_of_segmentState read)
    | some state =>
      obtain ⟨-, -, opened_eq, first_eq, sealing_eq⟩ := segmentState_spec read
      simp only [sealing_eq]
      cases marked : before.evidence.store.wormAnchors segmentId with
      | none =>
        simp only [opened_eq]
        exact maybeSeal_considered wired marked
      | some entry =>
        simp only [first_eq]
        exact maybePurge_considered marked

/-- A consideration drops records of its own segment, none behind its mark, and marks it if it was
not marked. -/
theorem Considered.effect (considered : Considered scheduler now segmentId before after) :
    ∃ count, after.evidence.store.rows = Function.update before.evidence.store.rows segmentId
        ((before.evidence.store.rows segmentId).drop count) ∧
      after.evidence.store.openedAt = before.evidence.store.openedAt ∧
      (∀ anchor locator, before.evidence.store.wormAnchors segmentId = some (anchor, locator) →
        ∀ row ∈ (before.evidence.store.rows segmentId).take count, row.seq ≤ anchor.lastSeq) ∧
      ∀ other, (before.evidence.store.wormAnchors other).isSome ∨ other ≠ segmentId →
        after.evidence.store.wormAnchors other = before.evidence.store.wormAnchors other := by
  cases considered with
  | absent | unripe | spared => exact ⟨0, by simp, rfl, by simp, fun _ _ => rfl⟩
  | sealed unsealed read last_eq returned =>
    rw [wired] at returned
    have sealed := sealedOver_of_sealSegment returned
    refine ⟨0, by simp [sealed.rows_eq], sealed.openedAt_eq, by simp, fun other marked => ?_⟩
    rcases sealed.wormAnchors_eq with same | ⟨_, _, -, updated⟩
    · rw [same]
    · refine updated ▸ Function.update_of_ne ?_ _ _
      rintro rfl
      simp [unsealed] at marked
  | purged marked returned =>
    rw [wired] at returned
    rw [← after_of_ok returned]
    rcases purge_deletes signer segmentId _ before with
      same | ⟨-, -, -, -, count, code, -, -, below, -, moved⟩
    · rw [same]
      exact ⟨0, by simp, rfl, by simp, fun _ _ => rfl⟩
    · rw [moved]
      refine ⟨count, rows_dropPurged .., rfl, fun anchor locator found row taken => ?_,
        fun _ _ => rfl⟩
      cases marked.symm.trans found
      exact Int.lt_add_one_iff.mp (below row taken)

theorem Covering.consider {archive : Archive κ} (covering : Covering signer archive)
    (considered : Considered scheduler now segmentId archive.world after) :
    Covering signer { archive with world := after } := by
  cases considered with
  | absent | unripe | spared => exact covering
  | sealed unsealed read last_eq returned =>
    rw [wired] at returned
    have sealed := sealedOver_of_sealSegment returned
    obtain ⟨marked, covers⟩ := covering.attested.seals_all read last_eq returned
    refine ⟨?_, ?_⟩
    · rw [← Archive.moveTo_of_shorter fun other => by rw [sealed.rows_eq]; rfl]
      exact covering.attested.seal sealed
    · intro other anchor locator found
      simp only [nextSeq, sealed.rows_eq, sealed.purged_eq]
      rw [marked] at found
      by_cases same : other = segmentId
      · subst same
        rw [Function.update_self, Option.some.injEq, Prod.mk.injEq] at found
        rw [← found.1]
        exact covers
      · rw [Function.update_of_ne same] at found
        exact covering.sealed_all other anchor locator found
  | purged marked returned =>
    rw [wired] at returned
    rw [← after_of_ok returned]
    rcases purge_deletes signer segmentId _ archive.world with
      same | ⟨cover, member, segment_eq, last_eq, count, code, -, within, below, -, moved⟩
    · rw [same]
      exact covering
    · rw [moved]
      refine ⟨?_, ?_⟩
      · rw [← Archive.moveTo_of_shorter fun other => ?_]
        · exact covering.attested.purge member segment_eq last_eq within below _
        · rw [rows_dropPurged]
          by_cases same : other = segmentId
          · subst same
            simp [Archive.live]
          · simp [same, Archive.live]
      · intro other anchor locator found
        have covers := covering.sealed_all other anchor locator found
        simp only [nextSeq, rows_dropPurged] at covers ⊢
        by_cases same : other = segmentId
        · subst same
          simp only [dropPurged, Function.update_self, List.length_drop]
          omega
        · simpa only [dropPurged, Function.update_of_ne same] using covers

theorem passes_cons (passes : Passes scheduler now (segmentId :: segmentIds) before after) :
    ∃ between, Considered scheduler now segmentId before between ∧
      Passes scheduler now segmentIds between after := by
  obtain ⟨outcomes, returned, clean⟩ := passes
  obtain ⟨outcome, between, first, returned⟩ := exists_of_bind_eq_ok returned
  obtain ⟨others, last, rest, returned⟩ := exists_of_bind_eq_ok returned
  cases returned
  rw [List.forall_mem_cons] at clean
  have considered := (ends_of_ok first).mp (consider_considered wired now segmentId before) clean.1
  exact ⟨between, considered, others, rest, clean.2⟩

/-- What every consideration of a pass keeps holds after the pass. -/
theorem passes_invariant (holds : MemorySealing κ → Prop)
    (initial : holds before) (kept : ∀ segmentId before after, holds before →
      Considered scheduler now segmentId before after → holds after)
    (passes : Passes scheduler now segmentIds before after) : holds after := by
  induction segmentIds generalizing before with
  | nil =>
    obtain ⟨_, returned, -⟩ := passes
    cases returned
    exact initial
  | cons segmentId segmentIds ih =>
    obtain ⟨between, considered, rest⟩ := passes_cons wired passes
    exact ih (kept segmentId before between initial considered) rest

theorem passes_of_mem (listed : segmentId ∈ segmentIds) (covering : Covering signer archive)
    (passes : Passes scheduler now segmentIds archive.world after) :
    ∃ start between rest, Covering signer { archive with world := start } ∧
      start.evidence.store.rows segmentId = archive.live segmentId ∧
      start.evidence.store.wormAnchors segmentId =
        archive.world.evidence.store.wormAnchors segmentId ∧
      start.evidence.store.openedAt = archive.world.evidence.store.openedAt ∧
      Considered scheduler now segmentId start between ∧
      Passes scheduler now rest between after := by
  induction segmentIds generalizing archive with
  | nil => simp at listed
  | cons head segmentIds ih =>
    obtain ⟨between, considered, rest⟩ := passes_cons wired passes
    by_cases same : segmentId = head
    · subst same
      exact ⟨archive.world, between, segmentIds, covering, rfl, rfl, rfl, considered, rest⟩
    · obtain ⟨_, effect_rows, effect_opened, -, effect_marks⟩ := considered.effect wired
      have listed : segmentId ∈ segmentIds := (List.mem_cons.mp listed).resolve_left same
      obtain ⟨start, next, later, covering, rows_eq, marks_eq, opened_eq, result⟩ :=
        ih listed (covering.consider wired considered) rest
      refine ⟨start, next, later, covering, rows_eq.trans ?_,
        marks_eq.trans (effect_marks segmentId (.inr same)), opened_eq.trans effect_opened, result⟩
      rw [Archive.live, effect_rows, Function.update_of_ne same]
      rfl

/-- A consideration at a time when the segment is old enough settles it. -/
theorem Considered.settles
    (old : (before.evidence.store.openedAtOrOne segmentId).val + scheduler.sealAfterSeconds ≤ now)
    (considered : Considered scheduler now segmentId before after) :
    Settled segmentId after := by
  cases id considered with
  | absent missing => exact .inl (by rw [rows, missing, Option.getD_none])
  | unripe unsealed waits =>
    rcases waits with young | empty
    · linarith
    · exact .inl empty
  | sealed unsealed read last_eq returned =>
    rw [wired] at returned
    obtain ⟨stored, -, rfl⟩ := anchorSegment_of_sealSegment returned
    exact .inr (by simp [withSeal])
  | spared marked => exact .inr (by rw [marked]; rfl)
  | purged marked =>
    obtain ⟨-, -, -, -, marks_eq⟩ := effect wired considered
    exact .inr (by rw [marks_eq segmentId (.inl (by rw [marked]; rfl)), marked]; rfl)

theorem Considered.keeps_empty (empty : before.evidence.store.rows segmentId = [])
    (considered : Considered scheduler now other before after) :
    after.evidence.store.rows segmentId = [] := by
  obtain ⟨count, rows_eq, -⟩ := considered.effect wired
  by_cases same : segmentId = other
  · subst same
    simp [rows_eq, empty]
  · rw [rows_eq, Function.update_of_ne same, empty]

theorem Considered.keeps_settled (settled : Settled segmentId before)
    (considered : Considered scheduler now other before after) : Settled segmentId after := by
  rcases settled with empty | marked
  · exact .inl (considered.keeps_empty wired empty)
  · obtain ⟨-, -, -, -, marks_eq⟩ := considered.effect wired
    exact .inr (by rwa [marks_eq segmentId (.inl marked)])

/-- A consideration after the grace period empties a sealed segment. -/
theorem Considered.empties
    (covering : Covering signer archive) {anchor : WormAnchor} {locator : String}
    (marked : archive.world.evidence.store.wormAnchors segmentId = some (anchor, locator))
    (beyond : anchor.sealedAt.val + scheduler.purgeGraceSeconds ≤ now)
    (considered : Considered scheduler now segmentId archive.world after) :
    after.evidence.store.rows segmentId = [] := by
  have covering_after := covering.consider wired considered
  have covers := covering.sealed_all segmentId anchor locator marked
  cases id considered with
  | absent missing => rw [rows, missing, Option.getD_none]
  | unripe unsealed | sealed unsealed =>
    rw [marked] at unsealed
    cases unsealed
  | spared found waits =>
    rw [marked] at found
    cases found
    rcases waits with early | gone
    · linarith
    · rw [nextSeq] at covers
      exact List.length_eq_zero_iff.mp (by omega)
  | purged found returned =>
    rw [marked] at found
    cases found
    rw [wired] at returned
    have behind := head_of_purge signer returned
    have marked_after : after.evidence.store.wormAnchors segmentId = some (anchor, locator) := by
      obtain ⟨-, -, -, -, marks_eq⟩ := effect wired considered
      rw [marks_eq segmentId (.inl (by rw [marked]; rfl)), marked]
    have covers_after := covering_after.sealed_all segmentId anchor locator marked_after
    have consecutive := covering_after.attested.consecutive segmentId
    cases rows_eq : after.evidence.store.rows segmentId with
    | nil => rfl
    | cons row rest =>
      have bound := behind row (by rw [rows_eq]; rfl)
      have position := consecutive 0 row (by simp [Archive.live, rows_eq])
      simp only [nextSeq, rows_eq, List.length_cons] at covers_after
      simp only [Archive.purged] at position
      omega

/-- Every operation which succeeds and avoids sealed segments keeps the seals covering. -/
theorem Covering.step (operation : ScheduledStep)
    (succeeds : operation.Succeeds signer scheduler archive)
    (avoids : operation.AvoidsSealed archive) (covering : Covering signer archive) :
    Covering signer (operation.step signer scheduler archive) := by
  cases operation with
  | appendIntent record =>
    have appended := appendIntent_appended signer record archive.world.evidence
    simp only [ScheduledStep.step, Sealing.onEvidence, after_zoom]
    refine ⟨covering.attested.append appended rfl, ?_⟩
    intro segmentId anchor locator marked
    have marked_before : archive.world.evidence.store.wormAnchors segmentId =
        some (anchor, locator) := by
      rw [← appended.wormAnchors_eq]
      exact marked
    have covers := covering.sealed_all segmentId anchor locator marked_before
    have rows_eq : ((appendIntent signer record).after archive.world.evidence).store.rows
        segmentId = archive.world.evidence.store.rows segmentId := by
      rcases appended.rows_eq with same | ⟨fresh, row, -, -, pushed⟩
      · rw [same]
      · have different : segmentId ≠ record.segmentId.val := by
          rintro rfl
          rw [avoids fresh] at marked_before
          cases marked_before
        rw [pushed, Function.update_of_ne different]
    simp only [Archive.moveTo, nextSeq, appended.purged_eq, rows_eq]
    exact covers
  | runOnce now segmentIds =>
    obtain ⟨after, passes⟩ := succeeds
    obtain ⟨outcomes, returned, -⟩ := id passes
    simp only [ScheduledStep.step, after_of_ok returned]
    exact passes_invariant wired (fun world => Covering signer { archive with world }) covering
      (fun _ _ _ covering considered => covering.consider wired considered) passes

end Wired

def Overlooked (segmentId : String) (world : MemorySealing κ) : Prop :=
  ∃ anchor locator,
    world.evidence.store.wormAnchors segmentId = some (anchor, locator) ∧
    ∃ row ∈ world.evidence.store.rows segmentId, anchor.lastSeq < row.seq

/-- No pass ever reaches that record. -/
theorem Considered.keeps_overlooked (wired : scheduler.sealer = memorySealer signer)
    {other : String} (overlooked : Overlooked segmentId before)
    (considered : Considered scheduler now other before after) : Overlooked segmentId after := by
  obtain ⟨anchor, locator, marked, row, member, behind⟩ := overlooked
  obtain ⟨count, rows_eq, -, below, marks_eq⟩ := considered.effect wired
  refine ⟨anchor, locator, by rw [marks_eq segmentId (.inl (by simp [marked])), marked], row, ?_,
    behind⟩
  rw [rows_eq]
  by_cases same : segmentId = other
  · subst same
    rw [Function.update_self]
    rw [← List.take_append_drop count (before.evidence.store.rows segmentId),
      List.mem_append] at member
    exact member.resolve_left fun taken => not_le.mpr behind (below anchor locator marked row taken)
  · rwa [Function.update_of_ne same]

end Scheduled

attribute [local instance] plainRuntime

/-- A scheduler without delays over the two stores. -/
def promptScheduler : RetentionScheduler Unit InMemoryEvidenceStore InMemoryWormAnchorStore :=
  { sealer := memorySealer steadySigner
    sealAfterSeconds := 0
    purgeGraceSeconds := 0
    delays_nonneg := ⟨le_refl _, le_refl _⟩ }

def scheduledRun (operations : List ScheduledStep) : Archive Unit :=
  runAll (ScheduledStep.step steadySigner promptScheduler) operations
    ⟨⟨⟨(), {}⟩, {}⟩, fun _ => []⟩

def appendDecision (decisionId : Identifier) : ScheduledStep :=
  .appendIntent (sampleRecord decisionId sampleSegment)

/-- Whether an append returns in the state some operations lead to. -/
def appendReturns (operations : List ScheduledStep) (decisionId : Identifier) : Bool :=
  match appendIntent steadySigner (sampleRecord decisionId sampleSegment)
      (scheduledRun operations).world.evidence with
  | .ok _ _ => true
  | .error _ _ => false

theorem succeeds_of_appendReturns {operations : List ScheduledStep} {decisionId : Identifier}
    (returns : appendReturns operations decisionId = true) :
    (appendDecision decisionId).Succeeds steadySigner promptScheduler
      (scheduledRun operations) := by
  unfold appendReturns at returns
  split at returns
  · rename_i receipt after run
    exact ⟨receipt, after, run⟩
  · cases returns

/-- Whether a pass over the sample segment completes in the state some operations lead to. -/
def passReturns (operations : List ScheduledStep) (now : ℚ) : Bool :=
  match promptScheduler.runOnce now ["segment"] (scheduledRun operations).world with
  | .ok outcomes _ => outcomes.all (·.action ≠ .failed)
  | .error _ _ => false

theorem passes_of_passReturns {operations : List ScheduledStep} {now : ℚ}
    (returns : passReturns operations now = true) :
    Passes promptScheduler now ["segment"] (scheduledRun operations).world
      (scheduledRun (operations ++ [.runOnce now ["segment"]])).world := by
  unfold passReturns at returns
  split at returns
  · rename_i outcomes after run
    refine ⟨outcomes, ?_, by simpa using returns⟩
    rw [run, scheduledRun, runAll_append]
    exact congrArg _ (after_of_ok run).symm
  · cases returns

/-- A record, a pass which seals it, and a second record behind the seal. -/
def sealedThenAppended : List ScheduledStep :=
  [appendDecision Sample.decision1, .runOnce 1 ["segment"], appendDecision Sample.decision2]

theorem overlooked_sealedThenAppended :
    Overlooked "segment" (scheduledRun sealedThenAppended).world := by
  have found : (match (scheduledRun sealedThenAppended).world.evidence.store.wormAnchors
        "segment" with
      | none => false
      | some (anchor, _) =>
        ((scheduledRun sealedThenAppended).world.evidence.store.rows "segment").any
          fun row => anchor.lastSeq < row.seq) = true := by
    decide +kernel
  split at found
  · cases found
  · rename_i anchor locator marked
    obtain ⟨row, member, behind⟩ := List.any_eq_true.mp found
    exact ⟨anchor, locator, marked, row, member, by simpa using behind⟩

end InMemoryEvidenceStore

end GlassBox
