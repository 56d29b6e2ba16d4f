import GlassBox.App.Sealer

/-!
# Scheduled retention

`app/retention_scheduler.py`.  A pass considers each given segment once: one without a seal is
sealed when it is old enough, and a sealed one is purged when its grace period is over.  The clock
is read once, and a segment has all fields of a seal or none.
-/

namespace GlassBox

inductive RetentionAction
  | sealed
  | purged
  | skipped
  | failed
  deriving DecidableEq

structure RetentionOutcome where
  segmentId : String
  action : RetentionAction
  detail : String := ""

/-- A sealer with the delays of both phases. -/
structure RetentionScheduler (κ σ α : Type) where
  sealer : SegmentSealer κ σ α
  sealAfterSeconds : ℚ
  purgeGraceSeconds : ℚ
  delays_nonneg : 0 ≤ sealAfterSeconds ∧ 0 ≤ purgeGraceSeconds

namespace RetentionScheduler

/-- What `_maybe_seal` takes from `seal`. -/
def caughtFromSeal (error : PyError) : Bool :=
  error.isA .evidenceWriteError || error.isA .signingUnavailableError

/-- What `_maybe_purge` takes from `purge`. -/
def caughtFromPurge (error : PyError) : Bool := error.isA .evidenceWriteError

variable [Runtime] {κ σ α : Type} (scheduler : RetentionScheduler κ σ α)

/-- Seals a segment which is old enough. -/
def maybeSeal (segmentId : String) (now : ℚ) (openedAt : Timestamp) :
    EStateM PyError (Sealing κ σ α) RetentionOutcome := do
  if now - openedAt.val < scheduler.sealAfterSeconds then
    return ⟨segmentId, .skipped, "not old enough to seal"⟩
  else
    match ← EStateM.catching (fun _ => true)
        (Sealing.onStore (scheduler.sealer.retention.segmentLeaves segmentId none)) with
    | .error error => return ⟨segmentId, .failed, error.message⟩
    | .ok leaves =>
      match leaves.getLast? with
      | none => return ⟨segmentId, .skipped, "nothing to seal yet"⟩
      | some last =>
        match ← EStateM.catching caughtFromSeal
            (scheduler.sealer.sealSegment segmentId (last.seq + 1) now) with
        | .error error => return ⟨segmentId, .failed, error.message⟩
        | .ok result =>
          return ⟨segmentId, .sealed, "sealed " ++ toString result.leavesSealed ++ " record(s)"⟩

/-- Purges what was sealed, after the grace period. -/
def maybePurge (segmentId : String) (now : ℚ) (cover : SegmentSeal) (liveFirstSeq : Nat) :
    EStateM PyError (Sealing κ σ α) RetentionOutcome := do
  if now - cover.sealedAt.val < scheduler.purgeGraceSeconds then
    return ⟨segmentId, .skipped, "within purge grace period"⟩
  else if cover.lastSeq + 1 ≤ liveFirstSeq then
    return ⟨segmentId, .skipped, "already purged"⟩
  else
    match ← EStateM.catching caughtFromPurge
        (scheduler.sealer.purge segmentId (cover.lastSeq + 1)) with
    | .error error => return ⟨segmentId, .failed, error.message⟩
    | .ok result => return ⟨segmentId, .purged, "purged " ++ toString result.purged ++ " record(s)"⟩

/-- One segment of a pass. -/
def consider (now : ℚ) (segmentId : String) :
    EStateM PyError (Sealing κ σ α) RetentionOutcome := do
  match ← EStateM.catching (fun _ => true)
      (Sealing.onStore (scheduler.sealer.retention.segmentState segmentId)) with
  | .error error => return ⟨segmentId, .failed, error.message⟩
  | .ok none => return ⟨segmentId, .skipped, "segment not found"⟩
  | .ok (some state) =>
    match state.sealing with
    | none => scheduler.maybeSeal segmentId now state.openedAt
    | some cover => scheduler.maybePurge segmentId now cover state.firstSeq

/-- `run_once`, at the time the clock gives. -/
def runOnce (now : ℚ) : List String → EStateM PyError (Sealing κ σ α) (List RetentionOutcome)
  | [] => return []
  | segmentId :: segmentIds => do
    let outcome ← scheduler.consider now segmentId
    let outcomes ← runOnce now segmentIds
    return outcome :: outcomes

end RetentionScheduler

end GlassBox
