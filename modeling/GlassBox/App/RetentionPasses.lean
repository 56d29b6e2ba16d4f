import GlassBox.App.RetentionScheduler
import GlassBox.Domain.Sample

/-!
# When a retention pass completes

`run_once` takes two of the domain errors from `seal` and one from `purge`; any other error, a gap
between the leaves and an anchor which cannot be made end the pass.
-/

namespace GlassBox

open EStateM

namespace SegmentSealer

variable [Runtime] {κ σ α : Type} (sealer : SegmentSealer κ σ α)

/-- Once the leaves were read: they have no gap, the anchor has valid values, and the stores fail
only with errors which are taken. -/
def LeavesHandled (caught : PyError → Bool) (segmentId : String) (tenantId : Identifier)
    (first : SegmentLeaf) (leaves : List SegmentLeaf) (now : ℚ) (world : Sealing κ σ α) : Prop :=
  (first :: leaves).map SegmentLeaf.seq = List.range' first.seq (first :: leaves).length ∧
  isIdentifier (anchorName segmentId first.seq (first.seq + leaves.length)) ∧
  isIdentifier segmentId ∧ (0 ≤ now ∧ now ≤ maxTimestamp) ∧
  ∀ unsigned, unsignedAnchor segmentId tenantId first leaves now = .ok unsigned →
    (Sealing.onSigner do
        let payload ← ofExcept unsigned.signingPayload
        sealer.signer.mac payload).Ends world
      (fun signature world =>
        32 ≤ signature.length ∧ isIdentifier (sealer.signer.keyId world.evidence.signer) ∧
        ∀ anchor, anchorOf segmentId tenantId first leaves now signature
            (sealer.signer.keyId world.evidence.signer) = .ok anchor →
          (Sealing.onAnchors (sealer.anchors.put anchor)).Ends world
            (fun locator world =>
              (Sealing.onStore (sealer.retention.markSealed segmentId anchor locator)).Ends world
                (fun _ _ => True) fun error _ => caught error = true)
            fun error _ => caught error = true)
      fun _ _ => True

/-- The stores fail only with errors which are taken, and the leaves can be sealed. -/
def SealHandled (caught : PyError → Bool) (segmentId : String) (beforeSeq : Int) (now : ℚ)
    (world : Sealing κ σ α) : Prop :=
  (Sealing.onStore (sealer.retention.segmentState segmentId)).Ends world
    (fun state world => ∀ segment, state = some segment →
      (Sealing.onStore (sealer.retention.segmentLeaves segmentId (some beforeSeq))).Ends world
        (fun leaves world => ∀ first rest, leaves = first :: rest →
          sealer.LeavesHandled caught segmentId segment.tenantId first rest now world)
        fun error _ => caught error = true)
    fun error _ => caught error = true

/-- The anchors which `covering_anchor` checks: those which end where the purge ends, up to the
first one it accepts. -/
def Checked (signer : κ) (beforeSeq : Int) (anchors : List WormAnchor) (anchor : WormAnchor) :
    Prop :=
  ∃ front back, anchors = front ++ anchor :: back ∧ (anchor.lastSeq : Int) = beforeSeq - 1 ∧
    ∀ other ∈ front, (other.lastSeq : Int) = beforeSeq - 1 →
      sealer.verifyAnchor signer other = .ok false

/-- The stores, and the signer for the anchors which are checked, fail only with errors which are
taken. -/
def PurgeHandled (caught : PyError → Bool) (segmentId : String) (beforeSeq : Int)
    (world : Sealing κ σ α) : Prop :=
  (Sealing.onAnchors (sealer.anchors.listForSegment segmentId)).Ends world
    (fun anchors world =>
      (∀ anchor, sealer.Checked world.evidence.signer beforeSeq anchors anchor →
        ∀ error, sealer.verifyAnchor world.evidence.signer anchor = .error error →
          caught error = true) ∧
      ∀ anchor, sealer.firstCovering world.evidence.signer beforeSeq anchors = .ok (some anchor) →
        (Sealing.onStore (sealer.retention.purgeBefore segmentId beforeSeq)).Ends world
          (fun _ _ => True) fun error _ => caught error = true)
    fun error _ => caught error = true

end SegmentSealer

namespace RetentionScheduler

variable {error : PyError}

theorem caughtFromSeal_of_validation (validation : error.cls = .domainValidationError) :
    caughtFromSeal error = false := by
  simp [caughtFromSeal, PyError.isA, validation, ErrorClass.ancestors]

theorem caughtFromSeal_of_requireContiguous {segmentId : String} {expected : Nat}
    {leaves : List SegmentLeaf}
    (gap : SegmentSealer.requireContiguous segmentId expected leaves = .error error) :
    caughtFromSeal error = false := by
  induction leaves generalizing expected with
  | nil => cases gap
  | cons leaf leaves ih =>
    simp only [SegmentSealer.requireContiguous] at gap
    split at gap
    · cases gap
      rfl
    · exact ih gap

theorem ends_refusing_caught {κ : Type} {message : String} {context : List (String × Value)}
    {signing : EStateM PyError κ ByteString} {before : κ} {returns : ByteString → κ → Prop} :
    (MacSigner.refusing message context signing).Ends before returns
        (fun error _ => caughtFromSeal error = true) ↔
      signing.Ends before returns fun _ _ => True := by
  simp only [MacSigner.refusing, ends_tryCatch]
  refine ends_congr (fun _ _ => Iff.rfl) fun error after => iff_true_intro ?_
  split
  · rename_i unavailable
    simp [caughtFromSeal, unavailable]
  · rfl

end RetentionScheduler

namespace SegmentSealer

open RetentionScheduler

variable [Runtime] {κ σ α : Type} (sealer : SegmentSealer κ σ α)

/-- Sealing leaves raises nothing but what is taken exactly when it is handled. -/
theorem sealLeaves_handled_iff (segmentId : String) (tenantId : Identifier) (first : SegmentLeaf)
    (leaves : List SegmentLeaf) (now : ℚ) (world : Sealing κ σ α) :
    (sealer.sealLeaves segmentId tenantId first leaves now).Ends world (fun _ _ => True)
        (fun error _ => caughtFromSeal error = true) ↔
      sealer.LeavesHandled caughtFromSeal segmentId tenantId first leaves now world := by
  simp only [sealLeaves, anchorLeaves, signAnchor, ends_bind, ends_ofExcept]
  unfold LeavesHandled
  cases gap : requireContiguous segmentId first.seq (first :: leaves) with
  | error error =>
    have uncaught := caughtFromSeal_of_requireContiguous gap
    have broken := mt requireContiguous_eq_ok_iff.mpr (by rw [gap]; simp)
    simp only [uncaught, Bool.false_eq_true, broken, false_and]
  | ok contiguous =>
    have contiguous := requireContiguous_eq_ok_iff.mp gap
    have valid_iff (signature : ByteString) (keyId : String) :
        (∃ anchor, anchorOf segmentId tenantId first leaves now signature keyId =
          .ok anchor) ↔ _ := exists_anchorOf_iff contiguous
    cases built : unsignedAnchor segmentId tenantId first leaves now with
    | error error =>
      have uncaught := caughtFromSeal_of_validation (WormAnchor.cls_of_make built)
      have invalid := mt (valid_iff _ _).mpr (by rw [← unsignedAnchor, built]; simp)
      refine iff_of_false (by simp [uncaught]) ?_
      rintro ⟨-, anchor_valid, segment_valid, time_valid, -⟩
      exact invalid ⟨anchor_valid, segment_valid, by simp, by decide, time_valid⟩
    | ok unsigned =>
      obtain ⟨anchor_valid, segment_valid, -, -, time_valid⟩ := (valid_iff _ _).mp ⟨_, built⟩
      simp only [contiguous, anchor_valid, segment_valid, time_valid, Except.ok.injEq,
        true_and, forall_eq']
      simp only [Sealing.onSigner, Sealing.onEvidence, Signed.onSigner, ends_zoom,
        ends_refusing_caught]
      refine ends_congr (fun signature signer => ?_) fun _ _ => Iff.rfl
      rw [ends_get]
      cases made : anchorOf segmentId tenantId first leaves now signature
          (sealer.signer.keyId signer) with
      | error error =>
        have uncaught := caughtFromSeal_of_validation (WormAnchor.cls_of_make made)
        have invalid := mt (valid_iff _ _).mpr (by rw [made]; simp)
        refine iff_of_false (by simp [uncaught]) ?_
        rintro ⟨signature_valid, key_valid, -⟩
        exact invalid ⟨anchor_valid, segment_valid, signature_valid, key_valid, time_valid⟩
      | ok anchor =>
        obtain ⟨-, -, signature_valid, key_valid, -⟩ := (valid_iff _ _).mp ⟨_, made⟩
        simp only [signature_valid, key_valid, Except.ok.injEq, true_and, forall_eq', ends_pure]

/-- Sealing raises nothing but what is taken exactly when it is handled. -/
theorem sealSegment_handled_iff (segmentId : String) (beforeSeq : Int) (now : ℚ)
    (world : Sealing κ σ α) :
    (sealer.sealSegment segmentId beforeSeq now).Ends world (fun _ _ => True)
        (fun error _ => caughtFromSeal error = true) ↔
      sealer.SealHandled caughtFromSeal segmentId beforeSeq now world := by
  rw [sealSegment, onLeaves, ends_bind]
  refine ends_congr (fun state world => ?_) fun _ _ => Iff.rfl
  cases state with
  | none => exact iff_of_true rfl (by simp)
  | some segment =>
    simp only [ends_bind, Option.some.injEq, forall_eq']
    refine ends_congr (fun leaves world => ?_) fun _ _ => Iff.rfl
    cases leaves with
    | nil => exact iff_of_true rfl (by simp)
    | cons first leaves =>
      rw [sealer.sealLeaves_handled_iff]
      constructor
      · rintro handled _ _ ⟨⟩
        exact handled
      · exact fun handled => handled first leaves rfl

theorem checked_cons_iff {signer : κ} {beforeSeq : Int} {head anchor : WormAnchor}
    {anchors : List WormAnchor} :
    sealer.Checked signer beforeSeq (head :: anchors) anchor ↔
      anchor = head ∧ (head.lastSeq : Int) = beforeSeq - 1 ∨
      ((head.lastSeq : Int) = beforeSeq - 1 → sealer.verifyAnchor signer head = .ok false) ∧
        sealer.Checked signer beforeSeq anchors anchor := by
  constructor
  · rintro ⟨front, back, split, ends, rejected⟩
    cases front with
    | nil =>
      cases split
      exact .inl ⟨rfl, ends⟩
    | cons _ front =>
      cases split
      obtain ⟨head_rejected, rejected⟩ := List.forall_mem_cons.mp rejected
      exact .inr ⟨head_rejected, front, back, rfl, ends, rejected⟩
  · rintro (⟨rfl, ends⟩ | ⟨head_rejected, front, back, rfl, ends, rejected⟩)
    · exact ⟨[], anchors, rfl, ends, by simp⟩
    · exact ⟨head :: front, back, rfl, ends, List.forall_mem_cons.mpr ⟨head_rejected, rejected⟩⟩

/-- The search for a covering anchor raises nothing but what is taken exactly when checking the
anchors does not. -/
theorem firstCovering_caught_iff (caught : PyError → Bool) (signer : κ) (beforeSeq : Int)
    (anchors : List WormAnchor) :
    (∀ error, sealer.firstCovering signer beforeSeq anchors = .error error →
        caught error = true) ↔
      ∀ anchor, sealer.Checked signer beforeSeq anchors anchor →
        ∀ error, sealer.verifyAnchor signer anchor = .error error → caught error = true := by
  induction anchors with
  | nil =>
    refine iff_of_true (by simp [firstCovering]) ?_
    rintro anchor ⟨front, back, split, -⟩
    simp at split
  | cons head anchors ih =>
    simp only [checked_cons_iff, firstCovering]
    by_cases ends : (head.lastSeq : Int) = beforeSeq - 1
    · cases verified : sealer.verifyAnchor signer head with
      | error raised => simp [ends, verified, bind, Except.bind]
      | ok accepted =>
        cases accepted with
        | true => simp [ends, verified, bind, Except.bind, pure, Except.pure]
        | false => simp [ends, verified, bind, Except.bind, ih, or_imp, forall_and]
    · simp [ends, ih]

/-- Purging raises nothing but what is taken exactly when it is handled. -/
theorem purge_handled_iff (segmentId : String) (beforeSeq : Int) (world : Sealing κ σ α) :
    (sealer.purge segmentId beforeSeq).Ends world (fun _ _ => True)
        (fun error _ => caughtFromPurge error = true) ↔
      sealer.PurgeHandled caughtFromPurge segmentId beforeSeq world := by
  simp only [purge, coveringAnchor, ends_bind]
  refine ends_congr (fun anchors world => ?_) fun _ _ => Iff.rfl
  rw [ends_get, ← sealer.firstCovering_caught_iff]
  cases sealer.firstCovering world.evidence.signer beforeSeq anchors with
  | error error => simp
  | ok covering =>
    cases covering with
    | none => exact iff_of_true rfl (by simp)
    | some anchor => simp

end SegmentSealer

namespace RetentionScheduler

variable [Runtime] {κ σ α : Type} (scheduler : RetentionScheduler κ σ α)

/-- Where a segment is due, its seal or its purge is handled. -/
def Handled (now : ℚ) (segmentId : String) (world : Sealing κ σ α) : Prop :=
  (Sealing.onStore (scheduler.sealer.retention.segmentState segmentId)).Ends world
    (fun state world => ∀ segment, state = some segment →
      match segment.sealing with
      | none => scheduler.sealAfterSeconds ≤ now - segment.openedAt.val →
          (Sealing.onStore (scheduler.sealer.retention.segmentLeaves segmentId none)).Ends world
            (fun leaves world => ∀ last, leaves.getLast? = some last →
              scheduler.sealer.SealHandled caughtFromSeal segmentId (last.seq + 1) now world)
            fun _ _ => True
      | some cover => scheduler.purgeGraceSeconds ≤ now - cover.sealedAt.val →
          segment.firstSeq < cover.lastSeq + 1 →
          scheduler.sealer.PurgeHandled caughtFromPurge segmentId (cover.lastSeq + 1) world)
    fun _ _ => True

/-- Each segment is handled in the state in which the pass comes to it. -/
def HandledAlong (now : ℚ) : List String → Sealing κ σ α → Prop
  | [], _ => True
  | segmentId :: segmentIds, world =>
    scheduler.Handled now segmentId world ∧
      HandledAlong now segmentIds ((scheduler.consider now segmentId).after world)

theorem maybeSeal_returns_iff (segmentId : String) (now : ℚ) (openedAt : Timestamp)
    (world : Sealing κ σ α) :
    (scheduler.maybeSeal segmentId now openedAt).Ends world (fun _ _ => True) (fun _ _ => False) ↔
      (scheduler.sealAfterSeconds ≤ now - openedAt.val →
        (Sealing.onStore (scheduler.sealer.retention.segmentLeaves segmentId none)).Ends world
          (fun leaves world => ∀ last, leaves.getLast? = some last →
            scheduler.sealer.SealHandled caughtFromSeal segmentId (last.seq + 1) now world)
          fun _ _ => True) := by
  unfold maybeSeal
  split
  · rename_i young
    exact iff_of_true trivial fun old => absurd young (not_lt.mpr old)
  · rename_i old
    simp only [not_lt.mp old, true_imp_iff, ends_bind, ends_catching]
    refine ends_congr (fun leaves world => ?_) fun _ _ => iff_of_true trivial trivial
    cases leaves.getLast? with
    | none => exact iff_of_true trivial (by simp)
    | some last =>
      simp only [Option.some.injEq, forall_eq', ← SegmentSealer.sealSegment_handled_iff]
      refine returns_bind_catching_iff fun result after => ?_
      cases result <;> trivial

theorem maybePurge_returns_iff (segmentId : String) (now : ℚ) (cover : SegmentSeal)
    (liveFirstSeq : Nat) (world : Sealing κ σ α) :
    (scheduler.maybePurge segmentId now cover liveFirstSeq).Ends world (fun _ _ => True)
        (fun _ _ => False) ↔
      (scheduler.purgeGraceSeconds ≤ now - cover.sealedAt.val → liveFirstSeq < cover.lastSeq + 1 →
        scheduler.sealer.PurgeHandled caughtFromPurge segmentId (cover.lastSeq + 1) world) := by
  unfold maybePurge
  split
  · rename_i within
    exact iff_of_true trivial fun beyond => absurd within (not_lt.mpr beyond)
  · rename_i beyond
    split
    · rename_i purged
      exact iff_of_true trivial fun _ live => absurd purged (not_le.mpr live)
    · rename_i live
      simp only [not_lt.mp beyond, not_le.mp live, true_imp_iff, ← SegmentSealer.purge_handled_iff]
      refine returns_bind_catching_iff fun result after => ?_
      cases result <;> trivial

/-- Considering a segment does not raise exactly when it is handled. -/
theorem consider_returns_iff (now : ℚ) (segmentId : String) (world : Sealing κ σ α) :
    (scheduler.consider now segmentId).Ends world (fun _ _ => True) (fun _ _ => False) ↔
      scheduler.Handled now segmentId world := by
  simp only [consider, ends_bind, ends_catching]
  refine ends_congr (fun state world => ?_) fun _ _ => iff_of_true trivial trivial
  cases state with
  | none => exact iff_of_true trivial (by simp)
  | some segment =>
    simp only [Option.some.injEq, forall_eq']
    cases sealing : segment.sealing with
    | none => exact scheduler.maybeSeal_returns_iff segmentId now segment.openedAt world
    | some cover =>
      exact scheduler.maybePurge_returns_iff segmentId now cover segment.firstSeq world

theorem consider_segmentId (now : ℚ) (segmentId : String) (world : Sealing κ σ α) :
    (scheduler.consider now segmentId).Ends world
      (fun outcome _ => outcome.segmentId = segmentId) fun _ _ => True := by
  simp only [consider, ends_bind, ends_catching, if_true]
  refine ends_of_forall (fun state world => ?_) fun _ _ => rfl
  cases state with
  | none => rfl
  | some segment =>
    cases sealing : segment.sealing with
    | none =>
      simp only [sealing, maybeSeal]
      split
      · rfl
      · simp only [ends_bind, ends_catching, if_true]
        refine ends_of_forall (fun leaves world => ?_) fun _ _ => rfl
        cases leaves.getLast? with
        | none => rfl
        | some last =>
          simp only [ends_bind, ends_catching]
          refine ends_of_forall (fun _ _ => rfl) fun _ _ => ?_
          split <;> trivial
    | some cover =>
      simp only [sealing, maybePurge]
      split
      · rfl
      · split
        · rfl
        · simp only [ends_bind, ends_catching]
          refine ends_of_forall (fun _ _ => rfl) fun _ _ => ?_
          split <;> trivial

/-- A pass returns one outcome for each given segment, in order, exactly when each segment is
handled in the state in which the pass comes to it. -/
theorem runOnce_completes_iff (now : ℚ) (segmentIds : List String) (world : Sealing κ σ α) :
    (∃ outcomes after, scheduler.runOnce now segmentIds world = .ok outcomes after ∧
        outcomes.map RetentionOutcome.segmentId = segmentIds) ↔
      scheduler.HandledAlong now segmentIds world := by
  induction segmentIds generalizing world with
  | nil => exact iff_of_true ⟨[], world, rfl, rfl⟩ trivial
  | cons segmentId segmentIds ih =>
    have named := scheduler.consider_segmentId now segmentId world
    rw [HandledAlong, ← scheduler.consider_returns_iff, ← ih]
    unfold EStateM.Ends at named ⊢
    cases considered : scheduler.consider now segmentId world with
    | error error middle =>
      refine iff_of_false ?_ fun handled => handled.1
      rintro ⟨outcomes, after, run, -⟩
      rw [runOnce, bind_of_error considered] at run
      cases run
    | ok outcome middle =>
      rw [considered] at named
      rw [after_of_ok considered, runOnce]
      simp only [bind_of_ok considered, true_and]
      cases rest : scheduler.runOnce now segmentIds middle with
      | error error after => simp [bind_of_error rest]
      | ok outcomes after =>
        rw [bind_of_ok rest]
        constructor
        · rintro ⟨_, _, ⟨⟩, names⟩
          exact ⟨outcomes, after, rfl, (List.cons.inj names).2⟩
        · rintro ⟨_, _, ⟨⟩, names⟩
          exact ⟨outcome :: outcomes, after, rfl, by rw [List.map_cons, named, names]⟩

end RetentionScheduler

def PyError.isRetentionError (error : PyError) : Prop :=
  error.cls = .evidenceWriteError ∨ error.cls = .evidenceIntegrityError ∨
    error.cls = .signingUnavailableError ∨ error.cls = .domainValidationError

/-- Every operation returns or raises one of the four domain errors. -/
structure SegmentSealer.RaisesRetentionErrors {κ σ α : Type} (sealer : SegmentSealer κ σ α) :
    Prop where
  segmentState : ∀ segmentId store, (sealer.retention.segmentState segmentId).Ends store
    (fun _ _ => True) fun error _ => error.isRetentionError
  segmentLeaves : ∀ segmentId beforeSeq store,
    (sealer.retention.segmentLeaves segmentId beforeSeq).Ends store
      (fun _ _ => True) fun error _ => error.isRetentionError
  markSealed : ∀ segmentId anchor locator store,
    (sealer.retention.markSealed segmentId anchor locator).Ends store
      (fun _ _ => True) fun error _ => error.isRetentionError
  purgeBefore : ∀ segmentId beforeSeq store,
    (sealer.retention.purgeBefore segmentId beforeSeq).Ends store
      (fun _ _ => True) fun error _ => error.isRetentionError
  put : ∀ anchor anchors, (sealer.anchors.put anchor).Ends anchors
    (fun _ _ => True) fun error _ => error.isRetentionError
  listForSegment : ∀ segmentId anchors, (sealer.anchors.listForSegment segmentId).Ends anchors
    (fun _ _ => True) fun error _ => error.isRetentionError
  mac : ∀ payload signer, (sealer.signer.mac payload).Ends signer
    (fun _ _ => True) fun error _ => error.isRetentionError
  verify : ∀ signer payload mac keyId error,
    sealer.signer.verify signer payload mac keyId = .error error → error.isRetentionError

def sampleAnchor : WormAnchor where
  anchorId := ⟨"segment:0-0", by decide⟩
  segmentId := Sample.segment
  tenantId := acme
  merkleRoot := Sample.mac
  treeSize := 1
  firstSeq := 0
  lastSeq := 0
  sealedAt := Timestamp.one
  rootSignature := Sample.mac
  signerKeyId := Sample.key
  first_le_last := le_refl _
  covers_range := rfl

def sealedSegment : EvidenceSegment where
  segmentId := Sample.segment
  tenantId := acme
  openedAt := Timestamp.one
  sealing := some {
    sealedAt := Timestamp.one
    lastSeq := 0
    merkleRoot := Sample.mac
    sealSignature := List.replicate 32 0
    wormAnchorId := some ⟨"segment:0-0", by decide⟩ }
  sealed_after_opening := by
    rintro _ ⟨⟩
    exact le_refl _
  purge_within_seal := by
    rintro _ ⟨⟩
    exact Nat.zero_le _

/-- Stores which answer every call, with a signer which cannot reach its key to verify. -/
def keylessScheduler : RetentionScheduler Unit Unit Unit where
  sealer := {
    retention := {
      segmentState := fun _ => return some sealedSegment
      segmentLeaves := fun _ _ => return []
      markSealed := fun _ _ _ => return ()
      purgeBefore := fun _ _ => return 0 }
    anchors := {
      put := fun _ => return "anchor"
      listForSegment := fun _ => return [sampleAnchor] }
    signer := {
      keyId := fun _ => "key"
      mac := fun _ => return List.replicate 32 0
      verify := fun _ _ _ _ => .error { cls := .signingUnavailableError, message := "no key" } } }
  sealAfterSeconds := 0
  purgeGraceSeconds := 0
  delays_nonneg := Sample.no_delays

/-- A key which cannot be reached ends the pass, although `verify` may raise that error. -/
theorem unavailable_key_ends_pass :
    letI := plainRuntime
    ¬ ∀ scheduler : RetentionScheduler Unit Unit Unit, scheduler.sealer.RaisesRetentionErrors →
      ∀ now segmentIds world, ∃ outcomes after,
        scheduler.runOnce now segmentIds world = .ok outcomes after ∧
          outcomes.map RetentionOutcome.segmentId = segmentIds := by
  let _ := plainRuntime
  intro claim
  obtain ⟨outcomes, after, run, -⟩ :=
    claim keylessScheduler ⟨fun _ _ => trivial, fun _ _ _ => trivial, fun _ _ _ _ => trivial,
      fun _ _ _ => trivial, fun _ _ => trivial, fun _ _ => trivial, fun _ _ => trivial,
      fun _ _ _ => by rintro _ _ ⟨⟩; exact .inr (.inr (.inl rfl))⟩ 2 ["segment"] ⟨⟨(), ()⟩, ()⟩
  have raised : (match keylessScheduler.runOnce 2 ["segment"] ⟨⟨(), ()⟩, ()⟩ with
      | .ok _ _ => false
      | .error error _ => error.cls = .evidenceIntegrityError) = true := by
    decide +kernel
  rw [run] at raised
  cases raised

end GlassBox
