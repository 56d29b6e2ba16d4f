import GlassBox.Adapters.Memory.Attestation

/-!
# Retrying a seal

A seal stops once its anchor is stored and is tried again.  An anchor carries the time it was made,
and the store is write-once, so the second attempt has to be made at the same time.
-/

namespace GlassBox

open EStateM

namespace InMemoryEvidenceStore

section Retry

variable [Runtime] {κ : Type} (signer : MacSigner κ)

/-- An anchor is stored under the name of its range, and no name is used twice. -/
structure Registered (world : Sealing κ InMemoryEvidenceStore InMemoryWormAnchorStore) :
    Prop where
  tenanted : ∀ segmentId, (world.evidence.store.segments segmentId).isSome →
    (world.evidence.store.tenants segmentId).isSome
  named : ∀ anchor ∈ world.anchors.anchors, anchor.anchorId.val =
    SegmentSealer.anchorName anchor.segmentId.val anchor.firstSeq anchor.lastSeq
  distinct : (world.anchors.anchors.map WormAnchor.anchorId).Nodup
  archived : ∃ archive : Archive κ, archive.world = world ∧ Attested signer archive

/-- No record is appended below the bound and nothing of the segment is purged. -/
def RetentionStep.Spares (segmentId : String) (beforeSeq : Int) :
    RetentionStep → Sealing κ InMemoryEvidenceStore InMemoryWormAnchorStore → Prop
  | .appendIntent record, world =>
    world.evidence.store.receipts record.decisionId.val = none →
    record.segmentId.val = segmentId → beforeSeq ≤ world.evidence.store.nextSeq segmentId
  | .sealSegment .., _ => True
  | .purge other _, _ => other ≠ segmentId

/-- What a retry of a seal relies on. -/
structure Retains (segmentId : String) (beforeSeq : Int) (before : InMemoryEvidenceStore)
    (anchor : WormAnchor)
    (world : Sealing κ InMemoryEvidenceStore InMemoryWormAnchorStore) : Prop where
  registered : Registered signer world
  exists_segment : (world.evidence.store.segments segmentId).isSome
  tenant_eq : world.evidence.store.tenants segmentId = before.tenants segmentId
  purged_eq : world.evidence.store.purged segmentId = before.purged segmentId
  rows_eq : ∃ added, world.evidence.store.rows segmentId = before.rows segmentId ++ added ∧
    ∀ row ∈ added, beforeSeq ≤ row.seq
  stored : anchor ∈ world.anchors.anchors

def AnchorKept (segmentId : String) (beforeSeq : Int) (now : ℚ) (anchor : WormAnchor)
    (before after : Sealing κ InMemoryEvidenceStore InMemoryWormAnchorStore) : Prop :=
  ∃ result : SealResult, result.anchor = anchor ∧
    ((memorySealer signer).anchorSegment segmentId beforeSeq now before = .ok result after ∨
      (memorySealer signer).sealSegment segmentId beforeSeq now before = .ok result after)

/-- A seal returns the stored anchor, which remains the only one of its range. -/
def Resealed (segmentId : String) (beforeSeq : Int) (now : ℚ) (anchor : WormAnchor)
    (before : Sealing κ InMemoryEvidenceStore InMemoryWormAnchorStore) : Prop :=
  ∃ result after,
    (memorySealer signer).sealSegment segmentId beforeSeq now before = .ok result after ∧
    result.anchor = anchor ∧
    after.anchors.anchors.filter (fun other => other.segmentId.val = segmentId ∧
      other.firstSeq = anchor.firstSeq ∧ other.lastSeq = anchor.lastSeq) = [anchor]

variable {signer} {anchor : WormAnchor} {world after : MemorySealing κ} {segmentId : String}
  {beforeSeq : Int} {now : ℚ} {result : SealResult}

theorem registered_empty (start : κ) : Registered signer ⟨⟨start, {}⟩, {}⟩ where
  tenanted := by simp
  named := by simp
  distinct := by simp
  archived := ⟨⟨⟨⟨start, {}⟩, {}⟩, fun _ => []⟩, rfl, attested_empty start⟩

omit [Runtime] in
theorem Appended.tenanted {record : IntentRecord} {before after : InMemoryEvidenceStore}
    (appended : Appended record before after)
    (tenanted : ∀ segmentId, (before.segments segmentId).isSome →
      (before.tenants segmentId).isSome) (segmentId : String)
    (exists_segment : (after.segments segmentId).isSome) :
    (after.tenants segmentId).isSome := by
  rcases appended.opened segmentId exists_segment with old | new
  · obtain ⟨tenantId, tenant_eq⟩ := Option.isSome_iff_exists.mp (tenanted segmentId old)
    exact Option.isSome_iff_exists.mpr ⟨tenantId, appended.tenant_eq segmentId tenantId tenant_eq⟩
  · exact new

theorem Registered.seal (registered : Registered signer world)
    (sealed : SealedOver signer segmentId beforeSeq now world after) :
    Registered signer after := by
  obtain ⟨archive, rfl, attested⟩ := registered.archived
  refine ⟨?_, ?_, ?_, archive.moveTo after, rfl, attested.seal sealed⟩
  · rw [sealed.segments_eq, sealed.tenants_eq]
    exact registered.tenanted
  · rcases sealed.anchors_eq with same | ⟨_, first, leaves, anchor, -, -, anchored, -, stored⟩
    · rw [same]
      exact registered.named
    · obtain ⟨id_eq, segment_eq, -, -, -, first_eq, last_eq, -⟩ :=
        WormAnchor.make_eq_ok_iff.mp anchored.built
      rw [stored]
      refine List.forall_mem_append.mpr ⟨registered.named, List.forall_mem_singleton.mpr ?_⟩
      rw [id_eq, segment_eq, first_eq, last_eq]
  · rcases sealed.anchors_eq with same | ⟨_, _, _, _, -, -, -, free, stored⟩
    · rw [same]
      exact registered.distinct
    · rw [stored, List.map_append, List.map_singleton]
      refine registered.distinct.append (List.nodup_singleton _) ?_
      rw [List.disjoint_singleton]
      intro used
      obtain ⟨other, member, id_eq⟩ := List.mem_map.mp used
      have unequal := List.find?_eq_none.mp free other member
      simp [id_eq] at unequal

theorem Registered.run (operation : RetentionStep) (registered : Registered signer world) :
    Registered signer (operation.run signer world) := by
  obtain ⟨archive, rfl, attested⟩ := registered.archived
  have archived : ∃ after : Archive κ, after.world = operation.run signer archive.world ∧
      Attested signer after := ⟨operation.step signer archive, rfl, attested.step operation⟩
  cases operation with
  | appendIntent record =>
    have appended := appendIntent_appended signer record archive.world.evidence
    simp only [RetentionStep.run, Sealing.onEvidence, after_zoom] at archived ⊢
    exact ⟨appended.tenanted registered.tenanted, registered.named, registered.distinct, archived⟩
  | sealSegment stop segmentId beforeSeq now =>
    exact registered.seal
      (sealSegmentUntil_sealedOver signer stop segmentId beforeSeq now archive.world)
  | purge segmentId beforeSeq =>
    simp only [RetentionStep.run] at archived ⊢
    rcases purge_deletes signer segmentId beforeSeq archive.world with
      same | ⟨-, -, -, -, count, code, positive, within, -, -, moved⟩
    · rw [same]
      exact registered
    · rw [moved] at archived ⊢
      refine ⟨?_, registered.named, registered.distinct, archived⟩
      intro other exists_segment
      refine registered.tenanted other ?_
      by_cases same : other = segmentId
      · subst same
        cases segment : archive.world.evidence.store.segments other with
        | some rows => rfl
        | none =>
          simp only [rows, segment, Option.getD_none, List.length_nil] at within
          omega
      · simpa [dropPurged, same] using exists_segment

theorem Retains.run {before : InMemoryEvidenceStore} (operation : RetentionStep)
    (spares : operation.Spares segmentId beforeSeq world)
    (tenanted : (before.tenants segmentId).isSome)
    (retains : Retains signer segmentId beforeSeq before anchor world) :
    Retains signer segmentId beforeSeq before anchor (operation.run signer world) := by
  have registered := retains.registered.run operation
  obtain ⟨added, rows_eq, above⟩ := retains.rows_eq
  cases operation with
  | appendIntent record =>
    have appended := appendIntent_appended signer record world.evidence
    simp only [RetentionStep.run, Sealing.onEvidence, after_zoom] at registered ⊢
    refine ⟨registered, appended.exists_segment segmentId retains.exists_segment, ?_, ?_, ?_,
      retains.stored⟩
    · obtain ⟨tenantId, tenant_eq⟩ := Option.isSome_iff_exists.mp tenanted
      have kept := retains.tenant_eq
      rw [tenant_eq] at kept ⊢
      exact appended.tenant_eq segmentId tenantId kept
    · rw [appended.purged_eq]
      exact retains.purged_eq
    · rcases appended.rows_eq with same | ⟨fresh, row, -, seq_eq, pushed⟩
      · rw [same]
        exact ⟨added, rows_eq, above⟩
      · by_cases same : segmentId = record.segmentId.val
        · have bound := spares fresh same.symm
          refine ⟨added ++ [row], ?_, ?_⟩
          · rw [pushed, same, Function.update_self, ← same, rows_eq, List.append_assoc]
          · refine List.forall_mem_append.mpr ⟨above, List.forall_mem_singleton.mpr ?_⟩
            rw [seq_eq, ← same]
            exact bound
        · rw [pushed, Function.update_of_ne same]
          exact ⟨added, rows_eq, above⟩
  | sealSegment stop other otherSeq now =>
    have sealed := sealSegmentUntil_sealedOver signer stop other otherSeq now world
    simp only [RetentionStep.run] at registered ⊢
    refine ⟨registered, ?_, ?_, ?_, ⟨added, ?_, above⟩, ?_⟩
    · rw [sealed.segments_eq]
      exact retains.exists_segment
    · rw [sealed.tenants_eq]
      exact retains.tenant_eq
    · rw [sealed.purged_eq]
      exact retains.purged_eq
    · simp only [rows, sealed.segments_eq]
      exact rows_eq
    · rcases sealed.anchors_eq with same | ⟨_, _, _, _, -, -, -, -, stored⟩
      · rw [same]
        exact retains.stored
      · rw [stored]
        exact List.mem_append_left _ retains.stored
  | purge other otherSeq =>
    have different : segmentId ≠ other := fun same => spares same.symm
    simp only [RetentionStep.run] at registered ⊢
    rcases purge_deletes signer other otherSeq world with
      same | ⟨-, -, -, -, count, code, -, -, -, -, moved⟩
    · rw [same]
      exact retains
    · rw [moved] at registered ⊢
      refine ⟨registered, ?_, retains.tenant_eq, ?_, ⟨added, ?_, above⟩, retains.stored⟩
      · simpa [dropPurged, different] using retains.exists_segment
      · simpa [dropPurged, different] using retains.purged_eq
      · rw [rows_dropPurged, Function.update_of_ne different]
        exact rows_eq

theorem sealSegment_of_anchorSegment
    (anchored : (memorySealer signer).anchorSegment segmentId beforeSeq now world =
      .ok result after) (exists_segment : (after.evidence.store.segments segmentId).isSome) :
    (memorySealer signer).sealSegment segmentId beforeSeq now world =
      .ok result ⟨⟨after.evidence.signer,
        withSeal segmentId result.anchor result.locator after.evidence.store⟩, after.anchors⟩ := by
  rw [SegmentSealer.sealSegment_eq_anchorSegment]
  refine eq_ok_iff_ends.mpr ?_
  rw [ends_bind, ends_of_ok anchored]
  have present : (after.evidence.store.segments segmentId).isNone = false := by
    rw [Option.isNone_eq_false_iff, exists_segment]
  simp only [memorySealer, sealer, retention, markSealed, Sealing.onStore, Sealing.onEvidence,
    ends_bind, ends_zoom, ends_get, present, ends_pure]
  exact ⟨trivial, rfl⟩

theorem anchorSegment_of_sealSegment
    (returned : (memorySealer signer).sealSegment segmentId beforeSeq now world =
      .ok result after) :
    ∃ stored, (memorySealer signer).anchorSegment segmentId beforeSeq now world =
        .ok result stored ∧
      after = ⟨⟨stored.evidence.signer,
        withSeal segmentId result.anchor result.locator stored.evidence.store⟩,
        stored.anchors⟩ := by
  have resumed := returned
  rw [SegmentSealer.sealSegment_eq_anchorSegment] at resumed
  obtain ⟨made, stored, anchored, -⟩ := exists_of_bind_eq_ok resumed
  obtain ⟨state, -, -, state_eq, -, -, -, -, -, -, store_eq⟩ :=
    ((memorySealer signer).anchorSegment_eq_ok_iff retention_reads).mp anchored
  have exists_segment := (segmentState_spec state_eq).1
  rw [← store_eq] at exists_segment
  rw [sealSegment_of_anchorSegment anchored exists_segment] at returned
  cases returned
  exact ⟨stored, anchored, rfl⟩

theorem sealedOver_of_anchorSegment
    (anchored : (memorySealer signer).anchorSegment segmentId beforeSeq now world =
      .ok result after) :
    SealedOver signer segmentId beforeSeq now world after := by
  obtain ⟨state, first, leaves, state_eq, leaves_eq, contiguous, built, signs, put, -, store_eq⟩ :=
    ((memorySealer signer).anchorSegment_eq_ok_iff retention_reads).mp anchored
  obtain ⟨payload, payload_eq, signed, key_eq⟩ := signs
  refine ⟨by rw [store_eq], by rw [store_eq], by rw [store_eq], by rw [store_eq],
    .inl (by rw [store_eq]), ?_⟩
  have stored : (InMemoryWormAnchorStore.put result.anchor).after world.anchors = after.anchors :=
    after_of_ok put
  rcases InMemoryWormAnchorStore.put_effect result.anchor world.anchors with same | ⟨free, pushed⟩
  · exact .inl (by rw [← stored, same])
  · exact .inr ⟨state, first, leaves, result.anchor, state_eq, leaves_eq,
      ⟨contiguous, built, payload, payload_eq, _, _, signed, key_eq⟩, free,
      by rw [← stored, pushed]⟩

theorem Retains.of_anchorKept {before : MemorySealing κ} (registered : Registered signer before)
    (kept : AnchorKept signer segmentId beforeSeq now anchor before after) :
    Retains signer segmentId beforeSeq before.evidence.store anchor after := by
  have of_anchored : ∀ {result : SealResult} {stored},
      (memorySealer signer).anchorSegment segmentId beforeSeq now before = .ok result stored →
      Retains signer segmentId beforeSeq before.evidence.store result.anchor stored := by
    intro result stored anchored
    obtain ⟨state, -, -, state_eq, -, -, -, -, put, -, store_eq⟩ :=
      ((memorySealer signer).anchorSegment_eq_ok_iff retention_reads).mp anchored
    refine ⟨registered.seal (sealedOver_of_anchorSegment anchored), ?_, by rw [store_eq],
      by rw [store_eq], ⟨[], by rw [store_eq, List.append_nil], by simp⟩,
      InMemoryWormAnchorStore.mem_of_put put⟩
    rw [store_eq]
    exact (segmentState_spec state_eq).1
  obtain ⟨result, rfl, anchored | returned⟩ := kept
  · exact of_anchored anchored
  · obtain ⟨stored, anchored, rfl⟩ := anchorSegment_of_sealSegment returned
    have retains := of_anchored anchored
    refine ⟨?_, retains.exists_segment, retains.tenant_eq, retains.purged_eq, retains.rows_eq,
      retains.stored⟩
    have marked : SealedOver signer segmentId beforeSeq now stored
        ⟨⟨stored.evidence.signer,
          withSeal segmentId result.anchor result.locator stored.evidence.store⟩,
          stored.anchors⟩ :=
      ⟨rfl, rfl, rfl, rfl, .inr ⟨_, _, retains.stored, rfl⟩, .inl rfl⟩
    exact retains.registered.seal marked

theorem Registered.unique (registered : Registered signer world)
    (stored : anchor ∈ world.anchors.anchors) :
    world.anchors.anchors.filter (fun other =>
      other.segmentId.val = anchor.segmentId.val ∧ other.firstSeq = anchor.firstSeq ∧
        other.lastSeq = anchor.lastSeq) = [anchor] := by
  have only : ∀ other ∈ world.anchors.anchors,
      decide (other.segmentId.val = anchor.segmentId.val ∧ other.firstSeq = anchor.firstSeq ∧
        other.lastSeq = anchor.lastSeq) = decide (other = anchor) := by
    intro other member
    rw [decide_eq_decide]
    constructor
    · rintro ⟨segment_eq, first_eq, last_eq⟩
      refine List.inj_on_of_nodup_map registered.distinct member stored (Subtype.ext ?_)
      rw [registered.named other member, registered.named anchor stored, segment_eq, first_eq,
        last_eq]
    · rintro rfl
      exact ⟨rfl, rfl, rfl⟩
  rw [List.filter_congr only, List.filter_eq,
    List.count_eq_one_of_mem registered.distinct.of_map stored, List.replicate_one]

/-- After a seal which kept its anchor, and while nothing is appended below its bound or purged, a
second attempt returns the stored anchor as the only one of its range exactly when it is made at the
time of the first, the segment's state can be read and the signer signs the anchor as before. -/
theorem resealed_iff {start : κ}
    {before stopped world : Sealing κ InMemoryEvidenceStore InMemoryWormAnchorStore}
    (run : Reaches (fun _ _ => True) (RetentionStep.run signer) ⟨⟨start, {}⟩, {}⟩ before)
    {segmentId : String} {beforeSeq : Int} {now : ℚ} {anchor : WormAnchor}
    (kept : AnchorKept signer segmentId beforeSeq now anchor before stopped)
    (between : Reaches (RetentionStep.Spares segmentId beforeSeq) (RetentionStep.run signer)
      stopped world) (later : ℚ) :
    Resealed signer segmentId beforeSeq later anchor world ↔
      later = now ∧
      (∃ state, segmentState world.evidence.store segmentId = .ok (some state)) ∧
      ∃ after, (memorySealer signer).Signs anchor world.evidence.signer after := by
  have registered : Registered signer before :=
    run.invariant (Registered signer) (registered_empty start)
      fun operation _ _ registered => registered.run operation
  obtain ⟨result, stored, anchored, result_eq⟩ : ∃ result stored,
      (memorySealer signer).anchorSegment segmentId beforeSeq now before = .ok result stored ∧
      result.anchor = anchor := by
    obtain ⟨result, result_eq, anchored | returned⟩ := kept
    · exact ⟨result, stopped, anchored, result_eq⟩
    · obtain ⟨stored, anchored, -⟩ := anchorSegment_of_sealSegment returned
      exact ⟨result, stored, anchored, result_eq⟩
  obtain ⟨state, first, leaves, state_eq, leaves_eq, contiguous, built, -, -, -, -⟩ :=
    ((memorySealer signer).anchorSegment_eq_ok_iff retention_reads).mp anchored
  rw [result_eq] at built
  obtain ⟨-, segment_eq, -, -, -, -, -, time_eq, -, -⟩ := WormAnchor.make_eq_ok_iff.mp built
  obtain ⟨exists_segment, tenant_eq, -⟩ := segmentState_spec state_eq
  have retains : Retains signer segmentId beforeSeq before.evidence.store anchor world :=
    between.invariant (Retains signer segmentId beforeSeq before.evidence.store anchor)
      (.of_anchorKept registered kept) fun operation _ spares retains =>
        retains.run operation spares (registered.tenanted segmentId exists_segment)
  constructor
  · rintro ⟨again, after, returned, again_eq, -⟩
    obtain ⟨_, anchored, -⟩ := anchorSegment_of_sealSegment returned
    obtain ⟨state, _, _, state_eq, -, -, built, signs, -, -, -⟩ :=
      ((memorySealer signer).anchorSegment_eq_ok_iff retention_reads).mp anchored
    rw [again_eq] at built signs
    obtain ⟨-, -, -, -, -, -, -, later_eq, -, -⟩ := WormAnchor.make_eq_ok_iff.mp built
    exact ⟨later_eq.symm.trans time_eq, ⟨state, state_eq⟩, _, signs⟩
  · rintro ⟨rfl, ⟨now_state, now_state_eq⟩, after, signs⟩
    obtain ⟨present, now_tenant_eq, -⟩ := segmentState_spec now_state_eq
    obtain ⟨added, rows_eq, above⟩ := retains.rows_eq
    obtain ⟨archive, rfl, attested⟩ := retains.registered.archived
    have leaves_now := segmentLeaves_of_append (attested.consecutive segmentId) rows_eq above
    have same_tenant : now_state.tenantId = state.tenantId := by
      rw [now_tenant_eq, tenant_eq, retains.tenant_eq]
    have put_again := InMemoryWormAnchorStore.put_of_mem retains.registered.distinct retains.stored
    have again : (memorySealer signer).anchorSegment segmentId beforeSeq later archive.world =
        .ok ⟨anchor, "memory://" ++ anchor.anchorId.val, leaves.length + 1⟩
          ⟨⟨after, archive.world.evidence.store⟩, archive.world.anchors⟩ :=
      ((memorySealer signer).anchorSegment_eq_ok_iff retention_reads).mpr
        ⟨now_state, first, leaves, now_state_eq, leaves_now.trans leaves_eq, contiguous,
          by rw [same_tenant]; exact built, signs, put_again, rfl, rfl⟩
    refine ⟨_, _, sealSegment_of_anchorSegment again present, rfl, ?_⟩
    rw [← segment_eq]
    exact retains.registered.unique retains.stored

end Retry

def steadySigner : MacSigner Unit where
  keyId := fun _ => "steady"
  mac := fun _ => pure (List.replicate 32 7)
  verify := fun _ _ mac keyId => .ok (mac = List.replicate 32 7 ∧ keyId = "steady")

attribute [local instance] plainRuntime

def oneRecord : Sealing Unit InMemoryEvidenceStore InMemoryWormAnchorStore :=
  runAll (RetentionStep.run steadySigner)
    [.appendIntent (sampleRecord Sample.decision1 sampleSegment)] ⟨⟨(), {}⟩, {}⟩

/-- A seal of that record at time zero, stopped before it marks the segment. -/
def stoppedSeal : EStateM.Result PyError
    (Sealing Unit InMemoryEvidenceStore InMemoryWormAnchorStore) SealResult :=
  (memorySealer steadySigner).anchorSegment "segment" 1 0 oneRecord

/-- The stopped seal stores an anchor, which with the state it leaves passes a test. -/
def stoppedSealShows (test : SealResult →
    Sealing Unit InMemoryEvidenceStore InMemoryWormAnchorStore → Bool) : Bool :=
  match stoppedSeal with
  | .error .. => false
  | .ok result stopped => test result stopped

theorem exists_of_stoppedSealShows {test : SealResult →
      Sealing Unit InMemoryEvidenceStore InMemoryWormAnchorStore → Bool}
    (shows : stoppedSealShows test = true) :
    ∃ result stopped, stoppedSeal = .ok result stopped ∧ test result stopped = true := by
  unfold stoppedSealShows at shows
  cases run : stoppedSeal with
  | error error stopped => simp [run] at shows
  | ok result stopped => exact ⟨result, stopped, rfl, by rwa [run] at shows⟩

theorem reaches_oneRecord :
    Reaches (fun _ _ => True) (RetentionStep.run steadySigner) ⟨⟨(), {}⟩, {}⟩ oneRecord := by
  exact (permits_of_forall (fun _ _ => trivial) _ _).reaches

/-- After the stopped seal a second record is appended; a retry at time zero returns the stored
anchor, and one at time one does not. -/
theorem resealed_iff_retried :
    ∃ anchor stopped, AnchorKept steadySigner "segment" 1 0 anchor oneRecord stopped ∧
      let appended := RetentionStep.run steadySigner
        (.appendIntent (sampleRecord Sample.decision2 sampleSegment)) stopped
      (appended.evidence.store.rows "segment").length = 2 ∧
      Resealed steadySigner "segment" 1 0 anchor appended ∧
      ¬ Resealed steadySigner "segment" 1 1 anchor appended := by
  have facts : stoppedSealShows (fun result stopped =>
      let appended := RetentionStep.run steadySigner
        (.appendIntent (sampleRecord Sample.decision2 sampleSegment)) stopped
      (1 : Int) ≤ stopped.evidence.store.nextSeq "segment" ∧
        (appended.evidence.store.rows "segment").length = 2 ∧
        ((segmentState appended.evidence.store "segment").toOption.bind id).isSome ∧
        result.anchor.rootSignature.val = List.replicate 32 7 ∧
        result.anchor.signerKeyId.val = "steady" ∧
        result.anchor.signingPayload.toOption.isSome) = true := by
    decide +kernel
  obtain ⟨result, stopped, run, facts⟩ := exists_of_stoppedSealShows facts
  obtain ⟨above, two, state, signature, keyId, payload⟩ := of_decide_eq_true facts
  have kept : AnchorKept steadySigner "segment" 1 0 result.anchor oneRecord stopped :=
    ⟨result, rfl, .inl run⟩
  have between : Reaches (RetentionStep.Spares "segment" 1) (RetentionStep.run steadySigner) stopped
      (RetentionStep.run steadySigner
        (.appendIntent (sampleRecord Sample.decision2 sampleSegment)) stopped) :=
    .single ⟨.appendIntent (sampleRecord Sample.decision2 sampleSegment), fun _ _ => above, rfl⟩
  have reseal := resealed_iff reaches_oneRecord kept between
  refine ⟨result.anchor, stopped, kept, two, (reseal 0).mpr ⟨rfl, ?_, (), ?_⟩, fun resealed => ?_⟩
  · revert state
    generalize segmentState _ "segment" = answer
    rcases answer with error | found
    · simp [Except.toOption]
    · cases found <;> simp [Except.toOption]
  · obtain ⟨bytes, signed⟩ := Option.isSome_iff_exists.mp payload
    cases signing : result.anchor.signingPayload with
    | error error => simp [signing, Except.toOption] at signed
    | ok bytes => exact ⟨bytes, signing, by rw [signature]; rfl, keyId.symm⟩
  · exact absurd ((reseal 1).mp resealed).1 one_ne_zero

/-- A second attempt one second later is refused by the write-once store. -/
theorem later_seal_is_refused :
    ¬ ∀ (before stopped world : Sealing Unit InMemoryEvidenceStore InMemoryWormAnchorStore)
        (segmentId : String) (beforeSeq : Int) (now later : ℚ) (anchor : WormAnchor),
      Reaches (fun _ _ => True) (RetentionStep.run steadySigner) ⟨⟨(), {}⟩, {}⟩ before →
      AnchorKept steadySigner segmentId beforeSeq now anchor before stopped →
      Reaches (RetentionStep.Spares segmentId beforeSeq) (RetentionStep.run steadySigner) stopped
        world →
      now ≤ later → Resealed steadySigner segmentId beforeSeq later anchor world := by
  intro claim
  have refused : stoppedSealShows (fun _ stopped =>
      !(((memorySealer steadySigner).sealSegment "segment" 1 1).outcome stopped).isOk) = true := by
    decide +kernel
  obtain ⟨result, stopped, run, refused⟩ := exists_of_stoppedSealShows refused
  obtain ⟨again, after, returned, -⟩ := claim oneRecord stopped stopped "segment" 1 0 1
    result.anchor reaches_oneRecord ⟨result, rfl, .inl run⟩ .refl (by norm_num)
  rw [EStateM.outcome_of_ok returned] at refused
  cases refused

end InMemoryEvidenceStore

end GlassBox
