import GlassBox.Adapters.Postgres.Deletion

/-!
# Moving rows between segments and chains

A ledger keeps every code the signer made and the call it was made in.  Rows are replaced by any
rows which carry such codes; `verify` does not compare the segment, or the kind of chain, a payload
was signed for with the place of the row.
-/

namespace GlassBox

/-- A code, with the payload and the key it was made for. -/
structure Code where
  payload : ByteString
  mac : ByteString
  keyId : String
  deriving DecidableEq

namespace MacSigner

variable {κ : Type} (signer : MacSigner κ) {allowed : Code → Prop}

/-- The signer together with the codes it made, oldest first. -/
def recording : MacSigner (κ × List Code) where
  keyId := fun state => signer.keyId state.1
  mac := fun payload state =>
    match signer.mac payload state.1 with
    | .ok mac after => .ok mac (after, state.2 ++ [⟨payload, mac, signer.keyId after⟩])
    | .error error after => .error error (after, state.2)
  verify := fun state => signer.verify state.1

/-- A code which was made is accepted only for the payload and the key it was made for. -/
def OnlyIssued (state : κ) (codes : List Code) : Prop :=
  ∀ payload mac keyId, (∃ code ∈ codes, code.mac = mac) →
    signer.verify state payload mac keyId = .ok true → ⟨payload, mac, keyId⟩ ∈ codes

/-- Codes which are allowed were added to the record. -/
def Extends (allowed : Code → Prop) (before after : κ × List Code) : Prop :=
  ∃ codes, after.2 = before.2 ++ codes ∧ ∀ code ∈ codes, allowed code

theorem extends_refl (state : κ × List Code) :
    Extends allowed state state := ⟨[], by simp, by simp⟩

theorem extends_recording {payload : ByteString}
    (signs : ∀ code : Code, code.payload = payload → allowed code) (state : κ × List Code) :
    Extends allowed state ((signer.recording.mac payload).after state) := by
  cases run : signer.mac payload state.1 with
  | ok mac after =>
    refine ⟨[⟨payload, mac, signer.keyId after⟩], ?_, ?_⟩
    · simp only [EStateM.after, recording, run]
    · simpa using signs _ rfl
  | error error after =>
    refine ⟨[], ?_, by simp⟩
    simp only [EStateM.after, recording, run, List.append_nil]

end MacSigner

namespace Postgres

/-- Receipts name rows, and rows of one decision are in one segment. -/
structure Placed (intents : List IntentRow) (receipts : List EvidenceReceipt) : Prop where
  receipts : ∀ receipt ∈ receipts, ∃ row ∈ intents,
    receipt.decisionId = row.decisionId ∧ receipt.segmentId = row.segmentId
  unique : ∀ row ∈ intents, ∀ other ∈ intents, row.decisionId = other.decisionId →
    row.segmentId = other.segmentId

variable {intents : List IntentRow} {receipts : List EvidenceReceipt}

theorem Placed.segmentId_eq (placed : Placed intents receipts) {receipt other : EvidenceReceipt}
    (member : receipt ∈ receipts) (other_member : other ∈ receipts)
    (same : receipt.decisionId = other.decisionId) :
    receipt.segmentId = other.segmentId := by
  obtain ⟨row, row_mem, decision_eq, segment_eq⟩ := placed.receipts receipt member
  obtain ⟨other_row, other_row_mem, other_decision_eq, other_segment_eq⟩ :=
    placed.receipts other other_member
  rw [segment_eq, other_segment_eq]
  exact placed.unique row row_mem other_row other_row_mem
    (decision_eq.symm.trans (same.trans other_decision_eq))

theorem Placed.returned {intents : List IntentRow} {receipts : List EvidenceReceipt}
    (placed : Placed intents receipts) {row : IntentRow} (member : row ∈ intents)
    {receipt : EvidenceReceipt} (read : ReceiptOf row receipt) :
    Placed intents (receipts ++ [receipt]) where
  receipts := by
    intro other other_mem
    rcases List.mem_append.mp other_mem with known | new
    · exact placed.receipts other known
    · cases List.mem_singleton.mp new
      exact ⟨row, member, read.decisionId_eq, read.segmentId_eq⟩
  unique := placed.unique

theorem Placed.inserted (placed : Placed intents receipts) {row : IntentRow}
    (fresh : ∀ other ∈ intents, other.decisionId ≠ row.decisionId) :
    Placed (intents ++ [row]) receipts where
  receipts := by
    intro receipt member
    obtain ⟨other, other_mem, named⟩ := placed.receipts receipt member
    exact ⟨other, List.mem_append_left _ other_mem, named⟩
  unique := by
    intro left left_mem right right_mem same
    rcases List.mem_append.mp left_mem with left_old | left_new
    · rcases List.mem_append.mp right_mem with right_old | right_new
      · exact placed.unique left left_old right right_old same
      · cases List.mem_singleton.mp right_new
        exact absurd same (fresh left left_old)
    · cases List.mem_singleton.mp left_new
      rcases List.mem_append.mp right_mem with right_old | right_new
      · exact absurd same.symm (fresh right right_old)
      · cases List.mem_singleton.mp right_new
        rfl

/-- The tables and the signer, with what was issued and returned so far. -/
structure Ledger (κ : Type) where
  state : Signed (κ × List Code) Database
  /-- Every code, beside the call it was made in. -/
  issued : List (Append × Code) := []
  /-- Every receipt `append_intent` returned. -/
  receipts : List EvidenceReceipt := []

def Ledger.codes {κ : Type} (ledger : Ledger κ) : List Code := ledger.state.signer.2

section Ledger

variable [Runtime] {κ : Type} (store : PostgresEvidenceStore κ)

def recordingStore : PostgresEvidenceStore (κ × List Code) :=
  { session := store.session
    signer := store.signer.recording
    verifyColumns := store.verifyColumns }

def Append.returned {κ : Type} (store : PostgresEvidenceStore κ) :
    Append → Signed κ Database → List EvidenceReceipt
  | .intent record, state =>
    match appendIntent store record state with
    | .ok receipt _ => [receipt]
    | .error .. => []
  | .outcome .., _ => []

/-- One call, with the codes it makes and the receipt it returns entered in the ledger. -/
def Ledger.step (append : Append) (ledger : Ledger κ) : Ledger κ :=
  let after := append.step (recordingStore store) ledger.state
  { state := after
    issued := ledger.issued ++ (after.signer.2.drop ledger.codes.length).map (append, ·)
    receipts := ledger.receipts ++ append.returned (recordingStore store) ledger.state }

/-- An outcome is appended with a receipt which was returned before. -/
def Append.OwnReceipt : Append → Ledger κ → Prop
  | .intent _, _ => True
  | .outcome receipt _, ledger => receipt ∈ ledger.receipts

instance (append : Append) (ledger : Ledger κ) : Decidable (append.OwnReceipt ledger) :=
  match append with
  | .intent _ => inferInstanceAs (Decidable True)
  | .outcome receipt _ => inferInstanceAs (Decidable (receipt ∈ ledger.receipts))

/-- The payload a call signs at a position behind a link. -/
def Append.payload : Append → Int → ByteString → Except PyError ByteString
  | .intent record => record.chainPayload
  | .outcome _ record => record.chainPayload

/-- What a ledger knows of the codes and receipts it holds. -/
structure Accounted (ledger : Ledger κ) : Prop where
  codes_eq : ledger.issued.map Prod.snd = ledger.codes
  payloads : ∀ {append code}, (append, code) ∈ ledger.issued →
    ∃ seq prevHash, append.payload seq prevHash = .ok code.payload
  outcomes : ∀ {receipt record code}, (.outcome receipt record, code) ∈ ledger.issued →
    receipt ∈ ledger.receipts ∧ receipt.decisionId = record.decisionId
  placed : Placed ledger.state.store.intents ledger.receipts

variable {store}

theorem accounted_start (signer : κ) : Accounted (⟨⟨(signer, []), {}⟩, [], []⟩ : Ledger κ) where
  codes_eq := rfl
  payloads := by simp
  outcomes := by simp
  placed := ⟨by simp, by simp⟩

/-- A code the call may make: for its own payload, and an outcome's only for its own decision. -/
def Append.MaySign (append : Append) (code : Code) : Prop :=
  (∃ seq prevHash, append.payload seq prevHash = .ok code.payload) ∧
    ∀ receipt record, append = .outcome receipt record → receipt.decisionId = record.decisionId

theorem Append.extends_step (append : Append) (state : Signed (κ × List Code) Database) :
    MacSigner.Extends append.MaySign state.signer
      (append.step (recordingStore store) state).signer := by
  cases append with
  | intent record =>
    refine appendIntent_signs MacSigner.extends_refl (fun {seq prevHash payload} defined => ?_)
      state
    refine store.signer.extends_recording fun code payload_eq => ⟨⟨seq, prevHash, ?_⟩, nofun⟩
    rw [payload_eq]
    exact defined
  | outcome receipt record =>
    refine appendOutcome_signs MacSigner.extends_refl
      (fun same {seq prevHash payload} defined => ?_) state
    refine store.signer.extends_recording fun code payload_eq => ⟨⟨seq, prevHash, ?_⟩, ?_⟩
    · rw [payload_eq]
      exact defined
    · rintro _ _ ⟨⟩
      exact same

/-- A call of a session which sees all rows keeps receipts and rows placed. -/
theorem Placed.step {store : PostgresEvidenceStore κ} (sees_all : store.session.rowSecurity = false)
    {state : Signed κ Database} {receipts : List EvidenceReceipt}
    (placed : Placed state.store.intents receipts) (append : Append) :
    Placed (append.step store state).store.intents (receipts ++ append.returned store state) := by
  cases append with
  | intent record =>
    have commits := @appendIntent_commits _ _ store record state
    cases run : appendIntent store record state with
    | error error after =>
      rw [EStateM.ends_of_error run] at commits
      simpa [Append.step, Append.returned, EStateM.after, run, commits] using placed
    | ok receipt after =>
      rw [EStateM.ends_of_ok run] at commits
      simp only [Append.step, Append.returned, EStateM.after, run]
      generalize after.store = tables at commits ⊢
      cases commits with
      | known stored same read => exact placed.returned stored read
      | @added row written fresh read =>
        obtain ⟨-, -, -, decision_eq⟩ := written.place
        refine (placed.inserted fun other member => ?_).returned (by simp) read
        rw [decision_eq]
        exact fresh sees_all other member
  | outcome receipt record =>
    rw [Append.returned, List.append_nil, Append.step, appendOutcome_intents]
    exact placed

/-- A call of a session which sees all rows keeps the ledger accounted. -/
theorem Accounted.step (sees_all : store.session.rowSecurity = false) {ledger : Ledger κ}
    (accounted : Accounted ledger) (append : Append) (own : append.OwnReceipt ledger) :
    Accounted (ledger.step store append) := by
  obtain ⟨codes, codes_eq, may_sign⟩ := @Append.extends_step _ _ store append ledger.state
  have seen : (recordingStore store).session.rowSecurity = false := sees_all
  have issued_eq : (ledger.step store append).issued = ledger.issued ++ codes.map (append, ·) := by
    simp only [Ledger.step, Ledger.codes, codes_eq, List.drop_left]
  refine ⟨?_, ?_, ?_, accounted.placed.step seen append⟩
  · rw [issued_eq, List.map_append, accounted.codes_eq, List.map_map]
    simpa [Ledger.step, Ledger.codes, Function.comp_def] using codes_eq.symm
  · intro other code member
    rw [issued_eq, List.mem_append] at member
    rcases member with old | new
    · exact accounted.payloads old
    · obtain ⟨made, made_mem, pair_eq⟩ := List.mem_map.mp new
      cases pair_eq
      exact (may_sign _ made_mem).1
  · intro receipt record code member
    rw [issued_eq, List.mem_append] at member
    rcases member with old | new
    · obtain ⟨returned, same⟩ := accounted.outcomes old
      exact ⟨List.mem_append_left _ returned, same⟩
    · obtain ⟨made, made_mem, pair_eq⟩ := List.mem_map.mp new
      cases pair_eq
      exact ⟨List.mem_append_left _ own, (may_sign _ made_mem).2 receipt record rfl⟩

end Ledger

section Attack

variable [Runtime] {κ : Type} {store : PostgresEvidenceStore κ} {ledger : Ledger κ}

/-- The state after the rows of both tables were replaced behind the store's back. -/
def overwritten (state : Signed κ Database) (intents : List IntentRow)
    (outcomes : List OutcomeRow) : Signed κ Database :=
  { state with store := { state.store with intents, outcomes } }

/-- `append_intent` made the row for a record of the segment. -/
def IntentFrom (ledger : Ledger κ) (segmentId : String) (row : IntentRow) : Prop :=
  ∃ record code, (Append.intent record, code) ∈ ledger.issued ∧
    record.segmentId.val = segmentId ∧
    storedPayload row.seq row.prevHash row.record = .ok code.payload ∧
    row.recordHmac = code.mac ∧ row.signerKeyId = code.keyId

/-- `append_outcome` made the row for a receipt of the segment. -/
def OutcomeFrom (ledger : Ledger κ) (segmentId : String) (row : OutcomeRow) : Prop :=
  ∃ receipt record code, (Append.outcome receipt record, code) ∈ ledger.issued ∧
    receipt.segmentId.val = segmentId ∧
    storedPayload row.seq row.prevHash row.record = .ok code.payload ∧
    row.recordHmac = code.mac ∧ row.signerKeyId = code.keyId

/-- A report tells which rows are authentic. -/
theorem authentic_of_verify {store : PostgresEvidenceStore κ}
    (sees_all : store.session.rowSecurity = false) {state : Signed κ Database}
    {segmentId : String} {segment : SegmentRow}
    (found : state.store.segments segmentId = some segment) {now : ℚ} {report : IntegrityReport}
    (verified : verify store state segmentId now = .ok report) :
    (report.isAcceptable = true → ∀ row ∈ state.store.rows segmentId,
      Authentic store.signer state.signer (intentRows store.verifyColumns) row) ∧
    (report.outcomeStatus = .intact → ∀ row ∈ state.store.outcomeRows segmentId,
      Authentic store.signer state.signer outcomeRows row) := by
  unfold verify at verified
  simp only [found] at verified
  obtain ⟨outcome, outcome_eq, verified⟩ := Except.bind_eq_ok_iff.mp verified
  obtain ⟨⟨checked, finding⟩, walked, reported⟩ := Except.bind_eq_ok_iff.mp verified
  have carried : report.outcomeStatus = outcome.outcomeStatus := by
    cases finding with
    | some finding =>
      obtain ⟨finding, row⟩ := finding
      cases finding <;> exact IntegrityReport.outcomeStatus_of_make reported
    | none =>
      change reportAccepted segmentId checked segment now outcome = .ok report at reported
      unfold reportAccepted at reported
      split at reported
      · split at reported <;> exact IntegrityReport.outcomeStatus_of_make reported
      · exact IntegrityReport.outcomeStatus_of_make reported
  constructor
  · intro acceptable row member
    cases finding with
    | some finding =>
      rw [isAcceptable_of_reportFinding reported] at acceptable
      cases acceptable
    | none =>
      refine authentic_of_walk walked row ?_
      rw [chain_eq sees_all, List.mem_insertionSort]
      exact member
  · intro intact row member
    obtain ⟨count, accepted⟩ := walk_of_intact_outcomes outcome_eq (carried.symm.trans intact)
    refine authentic_of_walk accepted row ?_
    exact (List.mem_insertionSort _).mpr member

theorem Accounted.textAt_eq {ledger : Ledger κ} (accounted : Accounted ledger) {append : Append}
    {code : Code} (issued : (append, code) ∈ ledger.issued) {seq : Int} {prevHash : ByteString}
    {record : List (String × Value)}
    (stored : storedPayload seq prevHash record = .ok code.payload) (key : String) :
    textAt record key = match append with
      | .intent record => textAt record.asEvidence key
      | .outcome _ record => textAt record.asEvidence key := by
  obtain ⟨signed_seq, signed_prev, defined⟩ := accounted.payloads issued
  cases append with
  | intent record | outcome receipt record =>
    exact textAt_of_payload stored (storedPayload_of_chainPayload defined) key

/-- An authentic row with a code which was made carries a payload signed in some call. -/
theorem Accounted.issue_of_authentic (accounted : Accounted ledger)
    (only : store.signer.OnlyIssued ledger.state.signer.1 ledger.codes) {payload mac : ByteString}
    {keyId : String} (known : ∃ code ∈ ledger.codes, code.mac = mac)
    (accepted : (recordingStore store).signer.verify ledger.state.signer payload mac keyId =
      .ok true) : ∃ append, (append, ⟨payload, mac, keyId⟩) ∈ ledger.issued := by
  have made := only payload mac keyId known accepted
  rw [← accounted.codes_eq] at made
  obtain ⟨⟨append, code⟩, member, rfl⟩ := List.mem_map.mp made
  exact ⟨append, member⟩

/-- An accepted intent comes from its segment exactly when the signed record names the segment. -/
theorem Accounted.intentFrom_iff (accounted : Accounted ledger)
    (only : store.signer.OnlyIssued ledger.state.signer.1 ledger.codes) {row : IntentRow}
    (known : ∃ code ∈ ledger.codes, code.mac = row.recordHmac)
    (authentic : Authentic (recordingStore store).signer ledger.state.signer
      (intentRows store.verifyColumns) row) (segmentId : String) :
    IntentFrom ledger segmentId row ↔ textAt row.record "segment_id" = some segmentId := by
  constructor
  · rintro ⟨record, code, issued, rfl, stored, -⟩
    exact accounted.textAt_eq issued stored "segment_id"
  · intro named
    obtain ⟨-, payload, stored, accepted⟩ := authentic
    obtain ⟨append, issued⟩ := accounted.issue_of_authentic only known accepted
    have signed := accounted.textAt_eq issued stored "segment_id"
    rw [named] at signed
    cases append with
    | intent record => exact ⟨record, _, issued, (Option.some.inj signed).symm, stored, rfl, rfl⟩
    | outcome receipt record => cases signed

def NamesDecisionOf (ledger : Ledger κ) (segmentId : String) (row : OutcomeRow) : Prop :=
  (textAt row.record "status").isSome ∧ ∃ receipt ∈ ledger.receipts,
    receipt.segmentId.val = segmentId ∧
      textAt row.record "decision_id" = some receipt.decisionId.val

instance (ledger : Ledger κ) (segmentId : String) (row : OutcomeRow) :
    Decidable (NamesDecisionOf ledger segmentId row) :=
  inferInstanceAs (Decidable (_ ∧ ∃ receipt ∈ ledger.receipts, _))

/-- An accepted outcome comes from its segment exactly when the signed record is an outcome of a
decision of the segment. -/
theorem Accounted.outcomeFrom_iff (accounted : Accounted ledger)
    (only : store.signer.OnlyIssued ledger.state.signer.1 ledger.codes) {row : OutcomeRow}
    (known : ∃ code ∈ ledger.codes, code.mac = row.recordHmac)
    (authentic : Authentic (recordingStore store).signer ledger.state.signer outcomeRows row)
    (segmentId : String) :
    OutcomeFrom ledger segmentId row ↔ NamesDecisionOf ledger segmentId row := by
  constructor
  · rintro ⟨receipt, record, code, issued, rfl, stored, -⟩
    obtain ⟨returned, same⟩ := accounted.outcomes issued
    have status := accounted.textAt_eq issued stored "status"
    have decision := accounted.textAt_eq issued stored "decision_id"
    refine ⟨by rw [status]; rfl, receipt, returned, rfl, decision.trans ?_⟩
    rw [same]
    rfl
  · rintro ⟨has_status, named, returned, segment_eq, decision⟩
    obtain ⟨-, payload, stored, accepted⟩ := authentic
    obtain ⟨append, issued⟩ := accounted.issue_of_authentic only known accepted
    have status := accounted.textAt_eq issued stored "status"
    have signed := accounted.textAt_eq issued stored "decision_id"
    cases append with
    | intent record =>
      rw [status] at has_status
      cases has_status
    | outcome receipt record =>
      obtain ⟨own_returned, same⟩ := accounted.outcomes issued
      rw [decision] at signed
      have decision_eq : named.decisionId = receipt.decisionId :=
        (Subtype.ext (Option.some.inj signed)).trans same.symm
      have moved := accounted.placed.segmentId_eq returned own_returned decision_eq
      exact ⟨receipt, record, _, issued, moved ▸ segment_eq, stored, rfl, rfl⟩

/-- Among replaced rows which `verify` accepts, none was moved from another segment or chain exactly
when each stored record names the place it is found in. -/
theorem no_transplant_iff (sees_all : store.session.rowSecurity = false) {start : κ}
    (run : Reaches Append.OwnReceipt (Ledger.step store) ⟨⟨(start, []), {}⟩, [], []⟩ ledger)
    (only : store.signer.OnlyIssued ledger.state.signer.1 ledger.codes)
    {intents : List IntentRow} {outcomes : List OutcomeRow}
    (intents_known : ∀ row ∈ intents, ∃ code ∈ ledger.codes, code.mac = row.recordHmac)
    (outcomes_known : ∀ row ∈ outcomes, ∃ code ∈ ledger.codes, code.mac = row.recordHmac)
    {segmentId : String} {segment : SegmentRow}
    (found : ledger.state.store.segments segmentId = some segment) {now : ℚ}
    {report : IntegrityReport}
    (verified : verify (recordingStore store) (overwritten ledger.state intents outcomes)
      segmentId now = .ok report) :
    (report.isAcceptable = true →
      ((∀ row ∈ intents, row.segmentId.val = segmentId → IntentFrom ledger segmentId row) ↔
        ∀ row ∈ intents, row.segmentId.val = segmentId →
          textAt row.record "segment_id" = some segmentId)) ∧
    (report.outcomeStatus = .intact →
      ((∀ row ∈ outcomes, row.segmentId.val = segmentId → OutcomeFrom ledger segmentId row) ↔
        ∀ row ∈ outcomes, row.segmentId.val = segmentId →
          NamesDecisionOf ledger segmentId row)) := by
  have accounted : Accounted ledger := by
    refine run.invariant Accounted (accounted_start start) ?_
    exact fun append _ own accounted => accounted.step sees_all append own
  have seen : (recordingStore store).session.rowSecurity = false := sees_all
  have found' : (overwritten ledger.state intents outcomes).store.segments segmentId =
      some segment := found
  obtain ⟨intents_authentic, outcomes_authentic⟩ := authentic_of_verify seen found' verified
  constructor
  · intro acceptable
    refine forall_congr' fun row => forall_congr' fun member => forall_congr' fun placed => ?_
    exact accounted.intentFrom_iff only (intents_known row member)
      (intents_authentic acceptable row (List.mem_filter.mpr ⟨member, by simpa using placed⟩))
      segmentId
  · intro intact
    refine forall_congr' fun row => forall_congr' fun member => forall_congr' fun placed => ?_
    exact accounted.outcomeFrom_iff only (outcomes_known row member)
      (outcomes_authentic intact row (List.mem_filter.mpr ⟨member, by simpa using placed⟩))
      segmentId

end Attack

/-- A signer which keeps every payload and numbers its codes. -/
def archiveSigner : MacSigner (List ByteString) where
  keyId := fun _ => "archive"
  mac := fun payload => modifyGet fun archive =>
    (MacSigner.numberedCode (UInt8.ofNat archive.length), archive ++ [payload])
  verify := fun archive payload mac keyId =>
    let number := mac.getLast?.getD 0
    .ok (mac = MacSigner.numberedCode number ∧ archive[number.toNat]? = some payload ∧
      keyId = "archive")

/-- The recorded codes are those of the archive. -/
def Synced (state : List ByteString × List Code) : Prop :=
  state.2 = state.1.mapIdx fun index payload =>
    ⟨payload, MacSigner.numberedCode (UInt8.ofNat index), "archive"⟩

theorem synced_mac (payload : ByteString) (state : List ByteString × List Code)
    (synced : Synced state) : Synced ((archiveSigner.recording.mac payload).after state) := by
  change state.2 ++ [_] = List.mapIdx _ (state.1 ++ [payload])
  rw [List.mapIdx_concat, ← synced]
  rfl

theorem archiveSigner_onlyIssued {state : List ByteString × List Code} (synced : Synced state) :
    archiveSigner.OnlyIssued state.1 state.2 := by
  rintro payload mac keyId - accepted
  obtain ⟨mac_eq, kept, keyId_eq⟩ : mac = MacSigner.numberedCode (mac.getLast?.getD 0) ∧
      state.1[(mac.getLast?.getD 0).toNat]? = some payload ∧ keyId = "archive" := by
    simpa [archiveSigner] using accepted
  generalize mac.getLast?.getD 0 = number at mac_eq kept
  refine List.mem_of_getElem? (i := number.toNat) ?_
  rw [synced, List.getElem?_mapIdx, kept, mac_eq, keyId_eq]
  simp

def archiveStore : PostgresEvidenceStore (List ByteString) where
  session := { columns := exactColumns, clock := 0, rowSecurity := false }
  signer := archiveSigner

/-- The archive stays in step with the recorded codes. -/
def KeepsSynced (before after : List ByteString × List Code) : Prop :=
  Synced before → Synced after

theorem synced_of_reaches [Runtime] {ledger : Ledger (List ByteString)}
    (run : Reaches Append.OwnReceipt (Ledger.step archiveStore) ⟨⟨([], []), {}⟩, [], []⟩
      ledger) : Synced ledger.state.signer := by
  refine run.invariant (fun ledger => Synced ledger.state.signer) rfl ?_
  intro append ledger _
  have kept : KeepsSynced ledger.state.signer (ledger.step archiveStore append).state.signer := by
    cases append with
    | intent record =>
      exact appendIntent_signs (fun _ synced => synced) (fun _ => synced_mac _) ledger.state
    | outcome receipt record =>
      exact appendOutcome_signs (fun _ synced => synced) (fun _ {_ _ _} _ => synced_mac _)
        ledger.state
  exact kept

attribute [local instance] plainRuntime

def twoSegments : Ledger (List ByteString) :=
  runAll (Ledger.step archiveStore)
    [.intent (sampleRecord Sample.decision1 Sample.segmentA),
      .intent (sampleRecord Sample.decision2 Sample.segmentB)]
    ⟨⟨([], []), {}⟩, [], []⟩

def firstOutcome : Append :=
  .outcome (twoSegments.receipts.head?.getD
      (sampleReceipt Sample.decision1 Sample.segmentA))
    (sampleOutcome Sample.decision1)

def recordedRun : List Append :=
  [.intent (sampleRecord Sample.decision1 Sample.segmentA),
    .intent (sampleRecord Sample.decision2 Sample.segmentB), firstOutcome]

def recordedLedger : Ledger (List ByteString) :=
  runAll (Ledger.step archiveStore) recordedRun ⟨⟨([], []), {}⟩, [], []⟩

private theorem recordedLedger_reached :
    Reaches Append.OwnReceipt (Ledger.step archiveStore) ⟨⟨([], []), {}⟩, [], []⟩
      recordedLedger := by
  have permits : Permits Append.OwnReceipt (Ledger.step archiveStore) recordedRun
      ⟨⟨([], []), {}⟩, [], []⟩ := by
    decide +kernel
  exact permits.reaches

private theorem recordedLedger_onlyIssued :
    archiveSigner.OnlyIssued recordedLedger.state.signer.1 recordedLedger.codes :=
  archiveSigner_onlyIssued (synced_of_reaches recordedLedger_reached)

/-- What `verify` reports of a segment of the sample whose rows were replaced. -/
def reportedStatuses (intents : List IntentRow) (outcomes : List OutcomeRow)
    (segmentId : String) : Option (Bool × IntegrityStatus) :=
  (verify (recordingStore archiveStore) (overwritten recordedLedger.state intents outcomes)
    segmentId 0).toOption.map fun report => (report.isAcceptable, report.outcomeStatus)

private theorem verify_of_statuses {outcomes : List OutcomeRow} {segmentId : String}
    (statuses : reportedStatuses intents outcomes segmentId = some (true, .intact)) :
    ∃ report, verify (recordingStore archiveStore)
        (overwritten recordedLedger.state intents outcomes) segmentId 0 = .ok report ∧
      report.isAcceptable = true ∧ report.outcomeStatus = .intact := by
  unfold reportedStatuses at statuses
  cases verified : verify (recordingStore archiveStore)
      (overwritten recordedLedger.state intents outcomes) segmentId 0 with
  | error error =>
    rw [verified] at statuses
    cases statuses
  | ok report =>
    rw [verified] at statuses
    exact ⟨report, rfl, by simpa [Except.toOption] using statuses⟩

theorem no_transplant_of_own_outcomes :
    recordedLedger.state.store.outcomes.length = 1 ∧
    ∀ row ∈ recordedLedger.state.store.outcomes, row.segmentId.val = "segment-a" →
      OutcomeFrom recordedLedger "segment-a" row := by
  refine ⟨by decide +kernel, ?_⟩
  have occupied : (recordedLedger.state.store.segments "segment-a").isSome = true := by
    decide +kernel
  obtain ⟨segment, found⟩ := Option.isSome_iff_exists.mp occupied
  have known : ∀ row ∈ recordedLedger.state.store.outcomes,
      ∃ code ∈ recordedLedger.codes, code.mac = row.recordHmac := by
    decide +kernel
  have named : ∀ row ∈ recordedLedger.state.store.outcomes, row.segmentId.val = "segment-a" →
      NamesDecisionOf recordedLedger "segment-a" row := by
    decide +kernel
  have statuses : reportedStatuses [] recordedLedger.state.store.outcomes "segment-a" =
      some (true, .intact) := by
    decide +kernel
  obtain ⟨report, verified, acceptable, intact⟩ := verify_of_statuses statuses
  have traced := @no_transplant_iff _ _ archiveStore recordedLedger rfl _ recordedLedger_reached
    recordedLedger_onlyIssued [] _ (by simp) known _ _ found _ _ verified
  exact (traced.2 intact).mpr named

/-- The outcome of the first segment, copied to the outcomes of the second one. -/
def movedOutcomes : List OutcomeRow :=
  recordedLedger.state.store.outcomes.map fun row =>
    { row with segmentId := Sample.segmentB }

/-- The same outcome, copied to the intents of the second segment. -/
def movedIntents : List IntentRow :=
  recordedLedger.state.store.outcomes.map fun row => {
    segmentId := Sample.segmentB
    seq := row.seq
    decisionId := row.decisionId
    tenantId := acme
    createdAt := 0
    action := Sample.read
    consequenceClass := ""
    riskScore := 0
    record := row.record
    prevHash := row.prevHash
    recordHmac := row.recordHmac
    signerKeyId := row.signerKeyId }

/-- Both chains of the second segment verify with a row made for an outcome of the first one. -/
theorem moved_outcome_accepted :
    (¬ ∀ ledger, Reaches Append.OwnReceipt (Ledger.step archiveStore)
        ⟨⟨([], []), {}⟩, [], []⟩ ledger →
      archiveSigner.OnlyIssued ledger.state.signer.1 ledger.codes →
      ∀ (intents : List IntentRow) (outcomes : List OutcomeRow),
      (∀ row ∈ intents, ∃ code ∈ ledger.codes, code.mac = row.recordHmac) →
      (∀ row ∈ outcomes, ∃ code ∈ ledger.codes, code.mac = row.recordHmac) →
      ∀ (segmentId : String) (now : ℚ) (report : IntegrityReport),
      verify (recordingStore archiveStore) (overwritten ledger.state intents outcomes) segmentId
        now = .ok report → report.isAcceptable = true →
      ∀ row ∈ intents, row.segmentId.val = segmentId → IntentFrom ledger segmentId row) ∧
    ¬ ∀ ledger, Reaches Append.OwnReceipt (Ledger.step archiveStore)
        ⟨⟨([], []), {}⟩, [], []⟩ ledger →
      archiveSigner.OnlyIssued ledger.state.signer.1 ledger.codes →
      ∀ (intents : List IntentRow) (outcomes : List OutcomeRow),
      (∀ row ∈ intents, ∃ code ∈ ledger.codes, code.mac = row.recordHmac) →
      (∀ row ∈ outcomes, ∃ code ∈ ledger.codes, code.mac = row.recordHmac) →
      ∀ (segmentId : String) (segment : SegmentRow) (now : ℚ) (report : IntegrityReport),
      ledger.state.store.segments segmentId = some segment →
      verify (recordingStore archiveStore) (overwritten ledger.state intents outcomes) segmentId
        now = .ok report → report.outcomeStatus = .intact →
      ∀ row ∈ outcomes, row.segmentId.val = segmentId → OutcomeFrom ledger segmentId row := by
  have intents_known : ∀ row ∈ movedIntents,
      ∃ code ∈ recordedLedger.codes, code.mac = row.recordHmac := by
    decide +kernel
  have outcomes_known : ∀ row ∈ movedOutcomes,
      ∃ code ∈ recordedLedger.codes, code.mac = row.recordHmac := by
    decide +kernel
  have statuses : reportedStatuses movedIntents movedOutcomes "segment-b" =
      some (true, .intact) := by
    decide +kernel
  obtain ⟨report, verified, acceptable, intact⟩ := verify_of_statuses statuses
  have accounted : Accounted recordedLedger := by
    refine recordedLedger_reached.invariant Accounted (accounted_start []) ?_
    exact fun append _ own accounted => accounted.step rfl append own
  constructor
  · intro claim
    have all := claim recordedLedger recordedLedger_reached recordedLedger_onlyIssued movedIntents
      movedOutcomes intents_known outcomes_known "segment-b" 0 report verified acceptable
    have unnamed : ∃ row ∈ movedIntents, row.segmentId.val = "segment-b" ∧
        textAt row.record "segment_id" = none := by
      decide +kernel
    obtain ⟨row, member, placed, unnamed⟩ := unnamed
    obtain ⟨record, code, issued, -, stored, -⟩ := all row member placed
    have named := accounted.textAt_eq issued stored "segment_id"
    rw [unnamed] at named
    cases named
  · intro claim
    have occupied : (recordedLedger.state.store.segments "segment-b").isSome = true := by
      decide +kernel
    obtain ⟨segment, found⟩ := Option.isSome_iff_exists.mp occupied
    have all := claim recordedLedger recordedLedger_reached recordedLedger_onlyIssued movedIntents
      movedOutcomes intents_known outcomes_known "segment-b" segment 0 report found verified intact
    have present : ∃ row ∈ movedOutcomes, row.segmentId.val = "segment-b" := by decide +kernel
    obtain ⟨row, member, placed⟩ := present
    obtain ⟨receipt, record, code, issued, moved, -⟩ := all row member placed
    have elsewhere : (recordedLedger.issued.all fun call =>
        match call.1 with
        | .intent _ => true
        | .outcome receipt _ => receipt.segmentId.val != "segment-b") = true := by
      decide +kernel
    have other : (receipt.segmentId.val != "segment-b") = true :=
      List.all_eq_true.mp elsewhere _ issued
    rw [moved] at other
    cases other

end Postgres

end GlassBox
