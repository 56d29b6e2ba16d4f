import GlassBox.App.Sealer

/-!
# Seals which stop half-way

`seal` may stop after any of its steps, and any of them may raise.  Whatever happens, it does
nothing, or stores one signed anchor over the leaves it read, or stores it and marks the segment.
-/

namespace GlassBox

open EStateM
open Sealing (onAnchors onEvidence onSigner onStore)

namespace SegmentSealer

/-- The steps of `seal` after which it may stop. -/
inductive SealStop
  | read
  | signed
  | anchored
  | marked
  deriving DecidableEq

variable {κ σ α : Type}

/-- The process stops here. -/
def interrupted : PyError := { cls := .other "Interrupted", message := "the process stopped" }

def stopAfter (stop : Option SealStop) (step : SealStop) : EStateM PyError (Sealing κ σ α) Unit :=
  if stop = some step then throw interrupted else return ()

theorem ends_stopAfter {stop : Option SealStop} {step : SealStop} {before : Sealing κ σ α}
    {returns : Unit → Sealing κ σ α → Prop} {raises : PyError → Sealing κ σ α → Prop}
    (returned : returns () before) (raised : ∀ error, raises error before) :
    (stopAfter stop step).Ends before returns raises := by
  unfold stopAfter
  split
  · exact raised _
  · exact returned

variable [Runtime] (sealer : SegmentSealer κ σ α)

/-- `sealLeaves`, stopping after the chosen step. -/
def sealLeavesUntil (stop : Option SealStop) (segmentId : String) (tenantId : Identifier)
    (first : SegmentLeaf) (leaves : List SegmentLeaf) (now : ℚ) :
    EStateM PyError (Sealing κ σ α) SealResult := do
  ofExcept (requireContiguous segmentId first.seq (first :: leaves))
  let unsigned ← ofExcept (unsignedAnchor segmentId tenantId first leaves now)
  stopAfter stop .read
  let signature ← sealer.signAnchor segmentId unsigned
  stopAfter stop .signed
  let keyId := sealer.signer.keyId (← get).evidence.signer
  let anchor ← ofExcept (anchorOf segmentId tenantId first leaves now signature keyId)
  let locator ← onAnchors (sealer.anchors.put anchor)
  stopAfter stop .anchored
  onStore (sealer.retention.markSealed segmentId anchor locator)
  stopAfter stop .marked
  return { anchor, locator, leavesSealed := leaves.length + 1 }

/-- `seal`, stopping after the chosen step. -/
def sealSegmentUntil (stop : Option SealStop) (segmentId : String) (beforeSeq : Int) (now : ℚ) :
    EStateM PyError (Sealing κ σ α) SealResult :=
  sealer.onLeaves segmentId beforeSeq fun tenantId first leaves =>
    sealer.sealLeavesUntil stop segmentId tenantId first leaves now

theorem sealSegmentUntil_none : sealer.sealSegmentUntil none = sealer.sealSegment := by
  have leaves_eq : sealer.sealLeavesUntil none = sealer.sealLeaves := by
    funext segmentId tenantId first leaves now
    simp [sealLeavesUntil, sealLeaves, anchorLeaves, stopAfter]
  funext segmentId beforeSeq now
  rw [sealSegmentUntil, leaves_eq, sealSegment]

/-- An anchor over leaves without a gap, signed by the sealer's signer. -/
structure AnchorsLeaves (segmentId : String) (tenantId : Identifier) (first : SegmentLeaf)
    (leaves : List SegmentLeaf) (now : ℚ) (anchor : WormAnchor) : Prop where
  contiguous : (first :: leaves).map SegmentLeaf.seq =
    List.range' first.seq (first :: leaves).length
  built : anchorOf segmentId tenantId first leaves now anchor.rootSignature.val
    anchor.signerKeyId.val = .ok anchor
  signed : ∃ payload, anchor.signingPayload = .ok payload ∧
    sealer.signer.Produced payload anchor.rootSignature.val anchor.signerKeyId.val

inductive SealEffect (segmentId : String) (tenantId : Identifier) (first : SegmentLeaf)
    (leaves : List SegmentLeaf) (now : ℚ) (before : Sealing κ σ α) : Sealing κ σ α → Prop
  /-- Nothing was stored. -/
  | nothing {signer : κ} : SealEffect segmentId tenantId first leaves now before
      ⟨⟨signer, before.evidence.store⟩, before.anchors⟩
  /-- The anchor went to the anchor store. -/
  | anchored {signer : κ} {anchor : WormAnchor}
      (anchors : sealer.AnchorsLeaves segmentId tenantId first leaves now anchor) :
      SealEffect segmentId tenantId first leaves now before
        ⟨⟨signer, before.evidence.store⟩, (sealer.anchors.put anchor).after before.anchors⟩
  /-- The anchor was stored, and went to the segment as well. -/
  | marked {signer : κ} {anchor : WormAnchor} {locator : String} {stored : α}
      (anchors : sealer.AnchorsLeaves segmentId tenantId first leaves now anchor)
      (put : sealer.anchors.put anchor before.anchors = .ok locator stored) :
      SealEffect segmentId tenantId first leaves now before
        ⟨⟨signer, (sealer.retention.markSealed segmentId anchor locator).after
          before.evidence.store⟩, stored⟩

variable {sealer} {segmentId : String} {tenantId : Identifier} {first : SegmentLeaf}
  {leaves : List SegmentLeaf} {now : ℚ} {anchor : WormAnchor} {world : Sealing κ σ α}

theorem signingPayload_of_anchorOf {signature signature' : ByteString} {keyId keyId' : String}
    {anchor' : WormAnchor}
    (built : anchorOf segmentId tenantId first leaves now signature keyId = .ok anchor)
    (built' : anchorOf segmentId tenantId first leaves now signature' keyId' = .ok anchor') :
    anchor.signingPayload = anchor'.signingPayload := by
  obtain ⟨id_eq, segment_eq, tenant_eq, root_eq, size_eq, first_eq, last_eq, time_eq, -, -⟩ :=
    WormAnchor.make_eq_ok_iff.mp built
  obtain ⟨id_eq', segment_eq', tenant_eq', root_eq', size_eq', first_eq', last_eq', time_eq', -,
    -⟩ := WormAnchor.make_eq_ok_iff.mp built'
  unfold WormAnchor.signingPayload
  rw [id_eq, segment_eq, tenant_eq, root_eq, size_eq, first_eq, last_eq, time_eq, id_eq',
    segment_eq', tenant_eq', root_eq', size_eq', first_eq', last_eq', time_eq']

omit [Runtime] in
theorem ends_signing {message : String} {context : List (String × Value)}
    {payload : Except PyError ByteString} {signer : MacSigner κ} {before : κ}
    {returns : ByteString → κ → Prop} {raises : PyError → κ → Prop}
    (returned : ∀ bytes mac after, payload = .ok bytes → signer.mac bytes before = .ok mac after →
      returns mac after)
    (raised : ∀ error after, raises error after) :
    (MacSigner.refusing message context do
        let bytes ← ofExcept payload
        signer.mac bytes).Ends before returns raises := by
  have refused (error : PyError) (after : κ) :
      (if error.isA .signingUnavailableError then throw error
        else throw (.evidenceWrite message (context ++ [("cause", .str error.cls.name)])) :
          EStateM PyError κ ByteString).Ends after returns raises := by
    split <;> exact raised _ _
  simp only [MacSigner.refusing, ends_tryCatch]
  cases payload with
  | error error => exact refused error before
  | ok bytes =>
    cases run : signer.mac bytes before with
    | ok mac after => exact (ends_of_ok run).mpr (returned bytes mac after rfl run)
    | error error after => exact (ends_of_error run).mpr (refused error after)

theorem sealLeavesUntil_effect (stop : Option SealStop) :
    sealer.SealEffect segmentId tenantId first leaves now world
      ((sealer.sealLeavesUntil stop segmentId tenantId first leaves now).after world) := by
  refine after_of_ends (sealer.SealEffect segmentId tenantId first leaves now world) ?_
  simp only [sealLeavesUntil, ends_bind, ends_ofExcept]
  cases gap : requireContiguous segmentId first.seq (first :: leaves) with
  | error error => exact .nothing
  | ok contiguous =>
    cases unsigned_built : unsignedAnchor segmentId tenantId first leaves now with
    | error error => exact .nothing
    | ok unsigned =>
      refine ends_stopAfter ?_ fun _ => .nothing
      simp only [signAnchor, onSigner, onEvidence, Signed.onSigner, ends_zoom]
      refine ends_signing (fun payload signature signer defined signed => ?_)
        fun _ _ => .nothing
      refine ends_stopAfter ?_ fun _ => .nothing
      rw [ends_get]
      cases built : anchorOf segmentId tenantId first leaves now signature
          (sealer.signer.keyId signer) with
      | error error => exact .nothing
      | ok anchor =>
        obtain ⟨-, -, -, -, -, -, -, -, signature_eq, key_eq⟩ :=
          WormAnchor.make_eq_ok_iff.mp built
        have anchors : sealer.AnchorsLeaves segmentId tenantId first leaves now anchor := by
          refine ⟨requireContiguous_eq_ok_iff.mp gap, ?_, payload, ?_, ?_⟩
          · rw [signature_eq, key_eq, built]
          · rw [signingPayload_of_anchorOf built unsigned_built, defined]
          · rw [signature_eq, key_eq]
            exact ⟨_, _, signed, rfl⟩
        simp only [onAnchors, ends_zoom]
        cases put : sealer.anchors.put anchor world.anchors with
        | error error stored =>
          rw [ends_of_error put, ← after_of_error put]
          exact .anchored anchors
        | ok locator stored =>
          rw [ends_of_ok put]
          refine ends_stopAfter ?_ fun _ => ?_
          · have marked : sealer.SealEffect segmentId tenantId first leaves now world
                ⟨⟨signer, (sealer.retention.markSealed segmentId anchor locator).after
                  world.evidence.store⟩, stored⟩ := .marked anchors put
            simp only [onStore, onEvidence, ends_zoom]
            cases run : sealer.retention.markSealed segmentId anchor locator
                world.evidence.store with
            | error error after =>
              rw [after_of_error run] at marked
              exact (ends_of_error run).mpr marked
            | ok _ after =>
              rw [after_of_ok run] at marked
              exact (ends_of_ok run).mpr (ends_stopAfter marked fun _ => marked)
          · rw [← after_of_ok put]
            exact .anchored anchors

section Reads

variable {segmentState : σ → String → Except PyError (Option EvidenceSegment)}
  {segmentLeaves : σ → String → Option Int → Except PyError (List SegmentLeaf)}
  (reads : sealer.retention.Reads segmentState segmentLeaves)
include reads

/-- A seal, stopped or not, over a store whose queries only read. -/
theorem sealSegmentUntil_effect (stop : Option SealStop) (segmentId : String) (beforeSeq : Int)
    (now : ℚ) (world : Sealing κ σ α) :
    (sealer.sealSegmentUntil stop segmentId beforeSeq now).after world = world ∨
    ∃ state first leaves,
      segmentState world.evidence.store segmentId = .ok (some state) ∧
      segmentLeaves world.evidence.store segmentId (some beforeSeq) = .ok (first :: leaves) ∧
      sealer.SealEffect segmentId state.tenantId first leaves now world
        ((sealer.sealSegmentUntil stop segmentId beforeSeq now).after world) := by
  refine after_of_ends (fun after => after = world ∨ ∃ state first leaves,
    segmentState world.evidence.store segmentId = .ok (some state) ∧
    segmentLeaves world.evidence.store segmentId (some beforeSeq) = .ok (first :: leaves) ∧
    sealer.SealEffect segmentId state.tenantId first leaves now world after) ?_
  simp only [sealSegmentUntil, onLeaves, reads.segmentState_eq, reads.segmentLeaves_eq, onStore,
    onEvidence, ends_bind, ends_zoom, ends_query]
  cases segmentState world.evidence.store segmentId with
  | error error => exact .inl trivial
  | ok state =>
    cases state with
    | none => exact .inl rfl
    | some state =>
      simp only [ends_bind, ends_zoom, ends_query]
      cases segmentLeaves world.evidence.store segmentId (some beforeSeq) with
      | error error => exact .inl trivial
      | ok leaves =>
        cases leaves with
        | nil => exact .inl rfl
        | cons first leaves =>
          exact ends_iff_after.mpr
            (.inr ⟨state, first, leaves, rfl, rfl, sealLeavesUntil_effect stop⟩)

/-- Sealing leaves the store alone or marks it with an anchor over the leaves it read. -/
theorem sealSegment_store {holds : σ → Prop} {beforeSeq : Int}
    (unchanged : holds world.evidence.store) (marked : ∀ first leaves anchor locator,
      segmentLeaves world.evidence.store segmentId (some beforeSeq) = .ok (first :: leaves) →
      anchor.lastSeq = (leaves.getLast?.getD first).seq →
      holds ((sealer.retention.markSealed segmentId anchor locator).after
        world.evidence.store)) :
    holds ((sealer.sealSegment segmentId beforeSeq now).after world).evidence.store := by
  rw [← sealSegmentUntil_none]
  rcases sealSegmentUntil_effect reads none segmentId beforeSeq now world with
    same | ⟨state, first, leaves, -, read, effect⟩
  · rwa [same]
  · generalize (sealer.sealSegmentUntil none segmentId beforeSeq now).after world = after at effect
    cases effect with
    | nothing | anchored => exact unchanged
    | marked anchors => exact marked first leaves _ _ read (lastSeq_of_anchorOf anchors.built)

end Reads

section Anchoring

variable (sealer) {after : Sealing κ σ α} {result : SealResult}

/-- `seal` up to its anchor being stored. -/
def anchorSegment (segmentId : String) (beforeSeq : Int) (now : ℚ) :
    EStateM PyError (Sealing κ σ α) SealResult :=
  sealer.onLeaves segmentId beforeSeq fun tenantId first leaves =>
    sealer.anchorLeaves segmentId tenantId first leaves now

theorem sealSegment_eq_anchorSegment (segmentId : String) (beforeSeq : Int) (now : ℚ) :
    sealer.sealSegment segmentId beforeSeq now = do
      let result ← sealer.anchorSegment segmentId beforeSeq now
      onStore (sealer.retention.markSealed segmentId result.anchor result.locator)
      return result := by
  simp only [sealSegment, anchorSegment, onLeaves, bind_assoc]
  refine bind_congr fun state => ?_
  cases state with
  | none => rfl
  | some state =>
    simp only [bind_assoc]
    refine bind_congr fun leaves => ?_
    cases leaves <;> rfl

def Signs (anchor : WormAnchor) (before after : κ) : Prop :=
  ∃ payload, anchor.signingPayload = .ok payload ∧
    sealer.signer.mac payload before = .ok anchor.rootSignature.val after ∧
    sealer.signer.keyId after = anchor.signerKeyId.val

/-- The leaves were anchored by one signature, and the anchor was stored. -/
structure StoresAnchor (segmentId : String) (tenantId : Identifier) (first : SegmentLeaf)
    (leaves : List SegmentLeaf) (now : ℚ) (before : Sealing κ σ α) (result : SealResult)
    (after : Sealing κ σ α) : Prop where
  contiguous : (first :: leaves).map SegmentLeaf.seq =
    List.range' first.seq (first :: leaves).length
  built : anchorOf segmentId tenantId first leaves now result.anchor.rootSignature.val
    result.anchor.signerKeyId.val = .ok result.anchor
  signs : sealer.Signs result.anchor before.evidence.signer after.evidence.signer
  stored : sealer.anchors.put result.anchor before.anchors = .ok result.locator after.anchors
  size : result.leavesSealed = leaves.length + 1
  store_eq : after.evidence.store = before.evidence.store

theorem anchorLeaves_run
    (stores : sealer.StoresAnchor segmentId tenantId first leaves now world result after) :
    sealer.anchorLeaves segmentId tenantId first leaves now world = .ok result after := by
  obtain ⟨payload, payload_eq, signed, key_eq⟩ := stores.signs
  obtain ⟨named, segment_valid, -, -, time_valid⟩ :=
    (exists_anchorOf_iff stores.contiguous).mp ⟨_, stores.built⟩
  obtain ⟨unsigned, unsigned_built⟩ :
      ∃ unsigned, unsignedAnchor segmentId tenantId first leaves now = .ok unsigned :=
    (exists_anchorOf_iff stores.contiguous).mpr
      ⟨named, segment_valid, by simp, by decide, time_valid⟩
  rw [← signingPayload_of_anchorOf unsigned_built stores.built] at payload_eq
  refine eq_ok_iff_ends.mpr ?_
  simp only [anchorLeaves, ends_bind, ends_ofExcept, unsigned_built, signAnchor, onSigner,
    requireContiguous_eq_ok_iff.mpr stores.contiguous, onEvidence, Signed.onSigner, ends_zoom,
    MacSigner.refusing, ends_tryCatch, payload_eq]
  rw [ends_of_ok signed, ends_get, key_eq, stores.built]
  simp only [onAnchors, ends_zoom]
  rw [ends_of_ok stores.stored, ← stores.size, ← stores.store_eq]
  exact ⟨rfl, rfl⟩

theorem ends_anchoring :
    (sealer.anchorLeaves segmentId tenantId first leaves now).Ends world
      (sealer.StoresAnchor segmentId tenantId first leaves now world) (fun _ _ => True) := by
  simp only [anchorLeaves, ends_bind]
  cases gap : requireContiguous segmentId first.seq (first :: leaves) with
  | error error => trivial
  | ok contiguous =>
    cases unsigned_built : unsignedAnchor segmentId tenantId first leaves now with
    | error error => trivial
    | ok unsigned =>
      simp only [signAnchor, onSigner, onEvidence, Signed.onSigner, ends_zoom]
      refine ends_signing (fun payload signature signer defined signed => ?_)
        fun _ _ => trivial
      rw [ends_get]
      cases built : anchorOf segmentId tenantId first leaves now signature
          (sealer.signer.keyId signer) with
      | error error => trivial
      | ok anchor =>
        obtain ⟨-, -, -, -, -, -, -, -, signature_eq, key_eq⟩ :=
          WormAnchor.make_eq_ok_iff.mp built
        simp only [onAnchors, ends_zoom]
        cases put : sealer.anchors.put anchor world.anchors with
        | error error stored => exact (ends_of_error put).mpr trivial
        | ok locator stored =>
          refine (ends_of_ok put).mpr ⟨requireContiguous_eq_ok_iff.mp gap, ?_,
            ⟨payload, ?_, ?_, key_eq.symm⟩, put, rfl, rfl⟩
          · rw [signature_eq, key_eq, built]
          · rw [signingPayload_of_anchorOf built unsigned_built, defined]
          · rw [signature_eq, signed]

/-- When a seal gets as far as storing its anchor, and what is then stored. -/
theorem anchorSegment_eq_ok_iff
    {segmentState : σ → String → Except PyError (Option EvidenceSegment)}
    {segmentLeaves : σ → String → Option Int → Except PyError (List SegmentLeaf)}
    (reads : sealer.retention.Reads segmentState segmentLeaves) {beforeSeq : Int} :
    sealer.anchorSegment segmentId beforeSeq now world = .ok result after ↔
    ∃ state first leaves,
      segmentState world.evidence.store segmentId = .ok (some state) ∧
      segmentLeaves world.evidence.store segmentId (some beforeSeq) = .ok (first :: leaves) ∧
      sealer.StoresAnchor segmentId state.tenantId first leaves now world result after := by
  rw [eq_ok_iff_ends]
  simp only [anchorSegment, onLeaves, reads.segmentState_eq, reads.segmentLeaves_eq, onStore,
    onEvidence, ends_bind, ends_zoom, ends_query]
  cases segmentState world.evidence.store segmentId with
  | error error => simp
  | ok state =>
    cases state with
    | none => simp
    | some state =>
      simp only [ends_bind, ends_zoom, ends_query]
      cases segmentLeaves world.evidence.store segmentId (some beforeSeq) with
      | error error => simp
      | ok leaves =>
        cases leaves with
        | nil => simp
        | cons first leaves =>
          have anchored : sealer.anchorLeaves segmentId state.tenantId first leaves now
              world = .ok result after ↔ sealer.StoresAnchor segmentId state.tenantId
                first leaves now world result after :=
            ⟨fun run => (ends_of_ok run).mp sealer.ends_anchoring, sealer.anchorLeaves_run⟩
          rw [eq_ok_iff_ends] at anchored
          simp [anchored]

end Anchoring

end SegmentSealer

end GlassBox
