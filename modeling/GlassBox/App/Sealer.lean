import GlassBox.Ports.Evidence

/-!
# Segment sealing and retention

`app/sealer.py`, generic in its two stores.  The sealer signs the Merkle root of the leaves, makes
the anchor durable and then records the seal; a purge re-reads the anchor before it deletes.
-/

namespace GlassBox

open EStateM

/-- What the sealer works on: a signed evidence store and an anchor store. -/
structure Sealing (κ σ α : Type) where
  evidence : Signed κ σ
  anchors : α

namespace Sealing

variable {κ σ α β : Type}

/-- Run a program of the evidence store and its signer. -/
def onEvidence (program : EStateM PyError (Signed κ σ) β) : EStateM PyError (Sealing κ σ α) β :=
  EStateM.zoom Sealing.evidence (fun evidence world => { world with evidence }) program

def onSigner (program : EStateM PyError κ β) : EStateM PyError (Sealing κ σ α) β :=
  onEvidence (Signed.onSigner program)

/-- Run a program of the store alone. -/
def onStore (program : EStateM PyError σ β) : EStateM PyError (Sealing κ σ α) β :=
  onEvidence (EStateM.zoom Signed.store (fun store state => { state with store }) program)

/-- Run a program of the anchor store. -/
def onAnchors (program : EStateM PyError α β) : EStateM PyError (Sealing κ σ α) β :=
  EStateM.zoom Sealing.anchors (fun anchors world => { world with anchors }) program

end Sealing

structure SealResult where
  anchor : WormAnchor
  locator : String
  leavesSealed : Nat

structure PurgeResult where
  segmentId : String
  purged : Nat
  anchorId : Identifier

/-- `SegmentSealer`: a retention store, an anchor store and a signer. -/
structure SegmentSealer (κ σ α : Type) where
  retention : EvidenceRetentionStore σ
  anchors : WormAnchorStore α
  signer : MacSigner κ

namespace SegmentSealer

/-- The leaves have no gap. -/
def requireContiguous (segmentId : String) (expected : Nat) :
    List SegmentLeaf → Except PyError Unit
  | [] => .ok ()
  | leaf :: leaves =>
    if leaf.seq ≠ expected then
      .error {
        cls := .evidenceIntegrityError
        message := "cannot seal a segment with a gap in its sequence"
        context := [("segment_id", .str segmentId), ("expected_seq", .ofNat expected),
          ("found_seq", .ofNat leaf.seq)] }
    else requireContiguous segmentId (expected + 1) leaves

variable [Runtime] {κ σ α : Type} (sealer : SegmentSealer κ σ α) {segmentId : String}
  {leaves : List SegmentLeaf} {tenantId : Identifier} {first : SegmentLeaf} {now : ℚ}
  {signature : ByteString} {keyId : String} {anchor : WormAnchor} {world : Sealing κ σ α}
  {holds : σ → Prop} {beforeSeq : Int}

def anchorName (segmentId : String) (first last : Nat) : String :=
  segmentId ++ ":" ++ toString first ++ "-" ++ toString last

def anchorOf (segmentId : String) (tenantId : Identifier) (first : SegmentLeaf)
    (leaves : List SegmentLeaf) (now : ℚ) (signature : ByteString) (keyId : String) :
    Except PyError WormAnchor :=
  let last := (leaves.getLast?.getD first).seq
  WormAnchor.make (anchorName segmentId first.seq last) segmentId tenantId
    (merkleRoot ((first :: leaves).map fun leaf => leaf.recordHmac.val))
    (leaves.length + 1) first.seq last now signature keyId

/-- `_unsigned_anchor`: a placeholder signature, which is not part of what is signed. -/
def unsignedAnchor (segmentId : String) (tenantId : Identifier) (first : SegmentLeaf)
    (leaves : List SegmentLeaf) (now : ℚ) : Except PyError WormAnchor :=
  anchorOf segmentId tenantId first leaves now (List.replicate 32 0) "pending"

/-- The signature of an anchor; no anchor is written without one. -/
def signAnchor (segmentId : String) (unsigned : WormAnchor) :
    EStateM PyError (Sealing κ σ α) ByteString :=
  Sealing.onSigner (MacSigner.refusing
    "anchor signing failed; refusing to write an unsigned anchor"
    [("segment_id", .str segmentId)] do
      let payload ← ofExcept unsigned.signingPayload
      sealer.signer.mac payload)

/-- The part of `seal` from the leaves it read to its anchor being stored. -/
def anchorLeaves (segmentId : String) (tenantId : Identifier) (first : SegmentLeaf)
    (leaves : List SegmentLeaf) (now : ℚ) : EStateM PyError (Sealing κ σ α) SealResult := do
  ofExcept (requireContiguous segmentId first.seq (first :: leaves))
  let unsigned ← ofExcept (unsignedAnchor segmentId tenantId first leaves now)
  let signature ← sealer.signAnchor segmentId unsigned
  let keyId := sealer.signer.keyId (← get).evidence.signer
  let anchor ← ofExcept (anchorOf segmentId tenantId first leaves now signature keyId)
  let locator ← Sealing.onAnchors (sealer.anchors.put anchor)
  return { anchor, locator, leavesSealed := leaves.length + 1 }

/-- The part of `seal` which starts once the leaves were read. -/
def sealLeaves (segmentId : String) (tenantId : Identifier) (first : SegmentLeaf)
    (leaves : List SegmentLeaf) (now : ℚ) : EStateM PyError (Sealing κ σ α) SealResult := do
  let result ← sealer.anchorLeaves segmentId tenantId first leaves now
  Sealing.onStore (sealer.retention.markSealed segmentId result.anchor result.locator)
  return result

/-- `seal` reads its segment and the leaves below the bound, and goes on with them. -/
def onLeaves (segmentId : String) (beforeSeq : Int)
    (next : Identifier → SegmentLeaf → List SegmentLeaf →
      EStateM PyError (Sealing κ σ α) SealResult) : EStateM PyError (Sealing κ σ α) SealResult := do
  match ← Sealing.onStore (sealer.retention.segmentState segmentId) with
  | none => throw (.evidenceWrite "segment not found" [("segment_id", .str segmentId)])
  | some state =>
    match ← Sealing.onStore (sealer.retention.segmentLeaves segmentId (some beforeSeq)) with
    | [] =>
      throw (.evidenceWrite "nothing to seal in this range"
        [("segment_id", .str segmentId), ("before_seq", .int beforeSeq)])
    | first :: leaves => next state.tenantId first leaves

/-- `seal`. -/
def sealSegment (segmentId : String) (beforeSeq : Int) (now : ℚ) :
    EStateM PyError (Sealing κ σ α) SealResult :=
  sealer.onLeaves segmentId beforeSeq fun tenantId first leaves =>
    sealer.sealLeaves segmentId tenantId first leaves now

/-- Whether the anchor's signature holds. -/
def verifyAnchor (signer : κ) (anchor : WormAnchor) : Except PyError Bool :=
  tryCatch
    (do
      let payload ← anchor.signingPayload
      sealer.signer.verify signer payload anchor.rootSignature.val anchor.signerKeyId.val)
    fun error =>
      if error.isA .signingUnavailableError then
        throw {
          cls := .evidenceIntegrityError
          message := "anchor cannot be verified; its signing key is unavailable"
          context := [("anchor_id", .str anchor.anchorId.val),
            ("signer_key_id", .str anchor.signerKeyId.val)] }
      else throw error

/-- The loop of `covering_anchor`. -/
def firstCovering (signer : κ) (beforeSeq : Int) :
    List WormAnchor → Except PyError (Option WormAnchor)
  | [] => .ok none
  | anchor :: anchors =>
    if (anchor.lastSeq : Int) ≠ beforeSeq - 1 then firstCovering signer beforeSeq anchors
    else do
      if ← sealer.verifyAnchor signer anchor then return some anchor
      else firstCovering signer beforeSeq anchors

/-- The first anchor which ends the range and verifies. -/
def coveringAnchor (segmentId : String) (beforeSeq : Int) :
    EStateM PyError (Sealing κ σ α) (Option WormAnchor) := do
  let anchors ← Sealing.onAnchors (sealer.anchors.listForSegment segmentId)
  ofExcept (sealer.firstCovering (← get).evidence.signer beforeSeq anchors)

/-- Nothing is purged without a covering anchor. -/
def purge (segmentId : String) (beforeSeq : Int) :
    EStateM PyError (Sealing κ σ α) PurgeResult := do
  match ← sealer.coveringAnchor segmentId beforeSeq with
  | none =>
    throw (.evidenceWrite "refusing to purge a range that is not covered by a durable anchor"
      [("segment_id", .str segmentId), ("before_seq", .int beforeSeq)])
  | some anchor =>
    let purged ← Sealing.onStore (sealer.retention.purgeBefore segmentId beforeSeq)
    return { segmentId, purged, anchorId := anchor.anchorId }

/-- `seal_and_purge`: the ordering is not a caller's responsibility. -/
def sealAndPurge (segmentId : String) (beforeSeq : Int) (now : ℚ) :
    EStateM PyError (Sealing κ σ α) PurgeResult := do
  let _ ← sealer.sealSegment segmentId beforeSeq now
  sealer.purge segmentId beforeSeq

omit [Runtime] in
theorem requireContiguous_eq_ok_iff {expected : Nat} :
    requireContiguous segmentId expected leaves = .ok () ↔
      leaves.map SegmentLeaf.seq = List.range' expected leaves.length := by
  induction leaves generalizing expected with
  | nil => simp [requireContiguous]
  | cons leaf leaves ih =>
    simp only [requireContiguous, List.map_cons, List.length_cons, List.range'_succ,
      List.cons.injEq, ← ih]
    by_cases same : leaf.seq = expected
    · simp [same]
    · simp [same]

omit [Runtime] in
theorem last_of_contiguous {first : SegmentLeaf} {leaves : List SegmentLeaf}
    (contiguous : (first :: leaves).map SegmentLeaf.seq =
      List.range' first.seq (first :: leaves).length) :
    (leaves.getLast?.getD first).seq = first.seq + leaves.length := by
  have last := congrArg List.getLast? contiguous
  rw [List.getLast?_map, List.getLast?_cons, List.getLast?_range'] at last
  simpa using last

theorem exists_anchorOf_iff (contiguous : (first :: leaves).map SegmentLeaf.seq =
      List.range' first.seq (first :: leaves).length) :
    (∃ anchor, anchorOf segmentId tenantId first leaves now signature keyId = .ok anchor) ↔
      isIdentifier (anchorName segmentId first.seq (first.seq + leaves.length)) ∧
      isIdentifier segmentId ∧ 32 ≤ signature.length ∧ isIdentifier keyId ∧
      (0 ≤ now ∧ now ≤ maxTimestamp) := by
  have last := last_of_contiguous contiguous
  have sized : leaves.length + 1 = first.seq + leaves.length - first.seq + 1 := by omega
  simp only [anchorOf, WormAnchor.exists_make_iff, last, merkleRoot_length, le_refl, true_and,
    ← sized, and_true, Nat.le_add_right]

theorem lastSeq_of_anchorOf
    (built : anchorOf segmentId tenantId first leaves now signature keyId = .ok anchor) :
    anchor.lastSeq = (leaves.getLast?.getD first).seq :=
  (WormAnchor.make_eq_ok_iff.mp built).2.2.2.2.2.2.1

/-- An anchor which covers a purge is one of those listed, and its signature was accepted. -/
theorem firstCovering_spec {signer : κ} {anchors : List WormAnchor}
    (found : sealer.firstCovering signer beforeSeq anchors = .ok (some anchor)) :
    anchor ∈ anchors ∧ (anchor.lastSeq : Int) = beforeSeq - 1 ∧
      sealer.verifyAnchor signer anchor = .ok true := by
  induction anchors with
  | nil => cases found
  | cons other anchors ih =>
    have later : sealer.firstCovering signer beforeSeq anchors = .ok (some anchor) →
        anchor ∈ other :: anchors ∧ (anchor.lastSeq : Int) = beforeSeq - 1 ∧
          sealer.verifyAnchor signer anchor = .ok true := fun found =>
      have ⟨member, covers⟩ := ih found
      ⟨List.mem_cons_of_mem other member, covers⟩
    simp only [firstCovering] at found
    split at found
    · exact later found
    · rename_i covers
      obtain ⟨accepted, verified, found⟩ := Except.bind_eq_ok_iff.mp found
      split at found
      · rename_i genuine
        cases found
        exact ⟨List.mem_cons_self, not_not.mp covers, genuine ▸ verified⟩
      · exact later found

/-- Purging does nothing, or deletes behind an anchor which covers the range. -/
theorem purge_effect {listForSegment : α → String → List WormAnchor}
    (lists : ∀ segmentId, sealer.anchors.listForSegment segmentId =
      EStateM.query fun anchors => .ok (listForSegment anchors segmentId))
    (segmentId : String) (beforeSeq : Int) (world : Sealing κ σ α) :
    (sealer.purge segmentId beforeSeq).after world = world ∨
    ∃ anchor ∈ listForSegment world.anchors segmentId,
      (anchor.lastSeq : Int) = beforeSeq - 1 ∧
      sealer.verifyAnchor world.evidence.signer anchor = .ok true ∧
      (sealer.purge segmentId beforeSeq).after world =
        ⟨⟨world.evidence.signer, (sealer.retention.purgeBefore segmentId beforeSeq).after
          world.evidence.store⟩, world.anchors⟩ := by
  refine after_of_ends (fun after => after = world ∨
    ∃ anchor ∈ listForSegment world.anchors segmentId,
      (anchor.lastSeq : Int) = beforeSeq - 1 ∧
      sealer.verifyAnchor world.evidence.signer anchor = .ok true ∧
      after = ⟨⟨world.evidence.signer, (sealer.retention.purgeBefore segmentId beforeSeq).after
        world.evidence.store⟩, world.anchors⟩) ?_
  simp only [purge, coveringAnchor, lists, Sealing.onAnchors, ends_bind,
    ends_zoom, ends_query, ends_get, ends_ofExcept]
  cases found : sealer.firstCovering world.evidence.signer beforeSeq
      (listForSegment world.anchors segmentId) with
  | error error => exact .inl trivial
  | ok covering =>
    cases covering with
    | none => exact .inl rfl
    | some anchor =>
      obtain ⟨member, covers, accepted⟩ := sealer.firstCovering_spec found
      simp only [Sealing.onStore, Sealing.onEvidence, ends_bind, ends_zoom]
      exact ends_iff_after.mpr (.inr ⟨anchor, member, covers, accepted, rfl⟩)

theorem purge_store (unchanged : holds world.evidence.store)
    (purged : holds ((sealer.retention.purgeBefore segmentId beforeSeq).after
      world.evidence.store)) :
    holds ((sealer.purge segmentId beforeSeq).after world).evidence.store := by
  refine after_of_ends (fun world : Sealing κ σ α => holds world.evidence.store) ?_
  simp only [purge, coveringAnchor, Sealing.onAnchors, ends_bind, ends_zoom,
    ends_get, ends_ofExcept]
  refine ends_of_forall (fun anchors after => ?_) fun _ _ => unchanged
  cases sealer.firstCovering world.evidence.signer beforeSeq anchors with
  | error error => exact unchanged
  | ok covering =>
    cases covering with
    | none => exact unchanged
    | some anchor =>
      simp only [Sealing.onStore, Sealing.onEvidence, ends_bind, ends_zoom, ends_pure]
      exact ends_iff_after.mpr purged

end SegmentSealer

end GlassBox
