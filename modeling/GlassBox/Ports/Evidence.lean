import GlassBox.Domain.Segment

/-!
# Signing, evidence, retention and anchor ports

`ports/keys.py`, `ports/evidence.py`, `ports/retention.py` and `ports/worm.py`.  A signer has a
state of its own, so that its key can become unreachable between two calls.
-/

namespace GlassBox

structure MacSigner (κ : Type) where
  /-- Identifier of the key currently used for signing. -/
  keyId : κ → String
  /-- The code over a payload; raises when the key cannot be reached. -/
  mac : ByteString → EStateM PyError κ ByteString
  /-- Whether a code authenticates a payload under a named key. -/
  verify : κ → ByteString → ByteString → String → Except PyError Bool

/-- A store together with the signer it shares with its callers. -/
structure Signed (κ σ : Type) where
  signer : κ
  store : σ

namespace Signed

variable {κ σ α : Type}

def onSigner (program : EStateM PyError κ α) : EStateM PyError (Signed κ σ) α :=
  EStateM.zoom Signed.signer (fun signer state => { state with signer }) program

def modifyStore (change : σ → σ) : EStateM PyError (Signed κ σ) Unit :=
  modify fun state => { state with store := change state.store }

end Signed

namespace MacSigner

variable {κ σ : Type} {signer : MacSigner κ} {decisionId : Identifier} {payload : ByteString}
  {before : κ} {returns : ByteString → κ → Prop} {raises : PyError → κ → Prop}

/-- A failure to sign other than an unreachable key becomes an evidence failure. -/
def refusing (message : String) (context : List (String × Value))
    (signing : EStateM PyError κ ByteString) : EStateM PyError κ ByteString :=
  tryCatch signing fun error =>
    if error.isA .signingUnavailableError then throw error
    else throw (.evidenceWrite message (context ++ [("cause", .str error.cls.name)]))

/-- Without a code nothing is written. -/
def macOfRecord (signer : MacSigner κ) (decisionId : Identifier) (payload : ByteString) :
    EStateM PyError κ ByteString :=
  refusing "MAC computation failed; refusing to write unkeyed evidence"
    [("decision_id", .str decisionId.val)] (signer.mac payload)

section

variable (returned : ∀ mac after, signer.mac payload before = .ok mac after → returns mac after)
include returned

theorem ends_macOfRecord_of
    (raised : ∀ failure after, signer.mac payload before = .error failure after →
      ∀ error, raises error after) :
    (signer.macOfRecord decisionId payload).Ends before returns raises := by
  simp only [macOfRecord, refusing, EStateM.ends_tryCatch]
  cases run : signer.mac payload before with
  | ok mac after => exact (EStateM.ends_of_ok run).mpr (returned mac after run)
  | error error after =>
    rw [EStateM.ends_of_error run]
    split <;> simp only [EStateM.ends_throw, raised error after run]

theorem ends_macOfRecord (raised : ∀ error after, raises error after) :
    (signer.macOfRecord decisionId payload).Ends before returns raises :=
  ends_macOfRecord_of returned fun _ after _ error => raised error after

end

/-- The signer made this code for this payload under this key, at some point of its life. -/
def Produced (signer : MacSigner κ) (payload mac : ByteString) (keyId : String) : Prop :=
  ∃ before after, signer.mac payload before = .ok mac after ∧ signer.keyId after = keyId

/-- The signer is available, and its `verify` accepts exactly the codes it produces. -/
structure Honest (signer : MacSigner κ) : Prop where
  available : ∀ payload before, ∃ mac after, signer.mac payload before = .ok mac after
  verifies : ∀ state payload mac keyId,
    signer.verify state payload mac keyId = .ok true ↔ signer.Produced payload mac keyId

/-- The signer accepts, in every state, what it produced before. -/
def AcceptsOwn (signer : MacSigner κ) : Prop :=
  ∀ state payload mac keyId, signer.Produced payload mac keyId →
    signer.verify state payload mac keyId = .ok true

theorem Honest.acceptsOwn (honest : signer.Honest) : signer.AcceptsOwn :=
  fun state payload mac keyId => (honest.verifies state payload mac keyId).mpr

def numberedCode (number : UInt8) : ByteString := List.replicate 31 1 ++ [number]

def counter : MacSigner UInt8 where
  keyId := fun _ => "counter"
  mac := fun _ => modifyGet fun number => (numberedCode number, number + 1)
  verify := fun _ _ mac keyId =>
    .ok (mac = numberedCode (mac.getLast?.getD 0) ∧ keyId = "counter")

/-- Honesty asks nothing of the strength of the codes. -/
theorem counter_honest : counter.Honest where
  available := fun _ _ => ⟨_, _, rfl⟩
  verifies := by
    intro _ payload mac keyId
    constructor
    · intro accepted
      have ⟨mac_eq, keyId_eq⟩ :
          mac = numberedCode (mac.getLast?.getD 0) ∧ keyId = "counter" := by
        simpa [counter] using accepted
      refine ⟨mac.getLast?.getD 0, mac.getLast?.getD 0 + 1, ?_, keyId_eq.symm⟩
      exact congrArg (EStateM.Result.ok · _) mac_eq.symm
    · rintro ⟨number, _, made, rfl⟩
      have mac_eq : numberedCode number = mac := by
        injection made
      have again : mac = numberedCode (mac.getLast?.getD 0) := by
        rw [← mac_eq]
        simp [numberedCode]
      simp only [counter, ← again, and_self, decide_true]

end MacSigner

/-- `EvidenceStore`, without `verify`. -/
structure EvidenceStore (ε : Type) where
  appendIntent : IntentRecord → EStateM PyError ε EvidenceReceipt
  appendOutcome : EvidenceReceipt → OutcomeRecord → EStateM PyError ε Unit

/-- `EvidenceRetentionStore`: the privileged operations of the retention job. -/
structure EvidenceRetentionStore (σ : Type) where
  segmentState : String → EStateM PyError σ (Option EvidenceSegment)
  segmentLeaves : String → Option Int → EStateM PyError σ (List SegmentLeaf)
  markSealed : String → WormAnchor → String → EStateM PyError σ Unit
  purgeBefore : String → Int → EStateM PyError σ Nat

structure EvidenceRetentionStore.Reads {σ : Type} (retention : EvidenceRetentionStore σ)
    (state : σ → String → Except PyError (Option EvidenceSegment))
    (leaves : σ → String → Option Int → Except PyError (List SegmentLeaf)) : Prop where
  segmentState_eq : ∀ segmentId,
    retention.segmentState segmentId = EStateM.query fun store => state store segmentId
  segmentLeaves_eq : ∀ segmentId beforeSeq,
    retention.segmentLeaves segmentId beforeSeq =
      EStateM.query fun store => leaves store segmentId beforeSeq

/-- `WormAnchorStore`: write-once storage of anchors. -/
structure WormAnchorStore (α : Type) where
  /-- Store an anchor and return its locator. -/
  put : WormAnchor → EStateM PyError α String
  /-- Every anchor of a segment, oldest first. -/
  listForSegment : String → EStateM PyError α (List WormAnchor)

/-- One appended record with everything needed to verify it again. -/
structure Stored (ρ : Type) where
  record : ρ
  seq : Int
  prevHash : ByteString
  recordHmac : ByteString
  signerKeyId : String

abbrev StoredRecord := Stored IntentRecord

abbrev StoredOutcome := Stored OutcomeRecord

end GlassBox
