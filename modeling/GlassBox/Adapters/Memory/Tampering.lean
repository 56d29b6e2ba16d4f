import GlassBox.Adapters.Memory.EvidenceStore
import GlassBox.Domain.Sample

/-!
# Tampering with the rows of a segment

An attacker replaces the rows of a segment by any rows carrying codes of it.  Under a signer that
cannot be forged, `verify` accepts exactly the common prefix with the genuine rows and reports it,
unless it raises at the first differing row.
-/

namespace GlassBox

open IntegrityReport (isAcceptable make make_of_reportable reportable_of_make)

/-- `verify` accepts a code only for the payload and the key it was produced for, and raises only
the error its port documents. -/
structure Unforgeable {κ : Type} (signer : MacSigner κ) (state : κ)
    (produced : ByteString → Option (ByteString × String)) : Prop where
  accepts_only : ∀ payload mac keyId, signer.verify state payload mac keyId = .ok true →
    produced mac = some (payload, keyId)
  documented : ∀ payload mac keyId error, signer.verify state payload mac keyId = .error error →
    error.isA .signingUnavailableError = true

namespace InMemoryEvidenceStore

section Rows

variable [Runtime]

/-- Rows compared on position, link, payload, code and key. -/
def SameRow (left right : StoredRecord) : Prop :=
  left.seq = right.seq ∧ left.prevHash = right.prevHash ∧
    (intentRows.payload left).toOption = (intentRows.payload right).toOption ∧
    left.recordHmac = right.recordHmac ∧ left.signerKeyId = right.signerKeyId

instance : DecidableRel SameRow := fun _ _ => inferInstanceAs (Decidable (_ ∧ _))

/-- A row at which `verify` raises instead of reporting. -/
def Unreportable (expectedSeq : Int) (expectedPrev : ByteString) (row : StoredRecord) : Prop :=
  row.seq < 0 ∨ row.seq = expectedSeq ∧ row.prevHash = expectedPrev ∧
    (intentRows.payload row).toOption = none

instance (expectedSeq : Int) (expectedPrev : ByteString) (row : StoredRecord) :
    Decidable (Unreportable expectedSeq expectedPrev row) :=
  inferInstanceAs (Decidable (_ ∨ _))

end Rows

section Binding

variable [Runtime] {κ : Type} {signer : MacSigner κ} {state : κ}
  {produced : ByteString → Option (ByteString × String)} {left right : StoredRecord}

private theorem authentic_of_same (same : SameRow left right)
    (authentic : Authentic signer state intentRows right) :
    Authentic signer state intentRows left := by
  obtain ⟨-, -, payload_eq, hmac_eq, key_eq⟩ := same
  obtain ⟨-, payload, defined, accepted⟩ := authentic
  rw [defined] at payload_eq
  refine ⟨rfl, payload, ?_, ?_⟩
  · cases computed : intentRows.payload left with
    | error error =>
      rw [computed] at payload_eq
      cases payload_eq
    | ok other =>
      rw [computed] at payload_eq
      cases payload_eq
      rfl
  · change signer.verify state payload left.recordHmac left.signerKeyId = .ok true
    rw [hmac_eq, key_eq]
    exact accepted

private theorem same_of_authentic (unforgeable : Unforgeable signer state produced)
    (left_authentic : Authentic signer state intentRows left)
    (right_authentic : Authentic signer state intentRows right)
    (hmac_eq : left.recordHmac = right.recordHmac) : SameRow left right := by
  obtain ⟨-, payload, defined, accepted⟩ := left_authentic
  obtain ⟨-, payload', defined', accepted'⟩ := right_authentic
  have made := unforgeable.accepts_only _ _ _ accepted
  have made' := unforgeable.accepts_only _ _ _ accepted'
  rw [show intentRows.tag left = intentRows.tag right from hmac_eq, made', Option.some.injEq,
    Prod.mk.injEq] at made
  obtain ⟨rfl, key_eq⟩ := made
  obtain ⟨seq_eq, prev_eq⟩ := chainPayload_injective defined defined'
  exact ⟨seq_eq, prev_eq, by rw [defined, defined'], hmac_eq, key_eq.symm⟩

end Binding

section Reporting

variable [Runtime] {κ : Type} {signer : MacSigner κ} {state : κ} {expectedSeq : Int}
  {row : StoredRecord}

private theorem inspect_of_not_accepted
    (documented : ∀ payload mac keyId error, signer.verify state payload mac keyId = .error error →
      error.isA .signingUnavailableError = true) {head : ByteString}
    (refused : ¬ intentRows.Accepted (Authentic signer state intentRows) expectedSeq head row) :
    (∃ error, inspect signer state intentRows expectedSeq (some head) row = .error error ∧
      row.seq = expectedSeq ∧ row.prevHash = head ∧
      (intentRows.payload row).toOption = none) ∨
    ∃ finding, inspect signer state intentRows expectedSeq (some head) row = .ok (some finding) ∧
      (finding = .unavailable → row.seq = expectedSeq) ∧
      ¬ (row.seq = expectedSeq ∧ row.prevHash = head ∧
        (intentRows.payload row).toOption = none) := by
  have unfound := mt inspect_eq_none_iff.mp refused
  by_cases seq_eq : intentRows.seq row = expectedSeq
  · by_cases prev_eq : intentRows.prev row = head
    · have step : inspect signer state intentRows expectedSeq (some head) row =
          (intentRows.payload row >>= fun payload =>
            authenticate signer state intentRows payload row) := by
        simp [inspect, seq_eq, prev_eq, show intentRows.columnMismatch row = .ok none from rfl,
          bind, Except.bind]
      cases computed : intentRows.payload row with
      | error error => exact .inl ⟨error, by rw [step, computed]; rfl, seq_eq, prev_eq, rfl⟩
      | ok payload =>
        have reached : inspect signer state intentRows expectedSeq (some head) row =
            authenticate signer state intentRows payload row := by
          rw [step, computed]
          rfl
        rw [reached] at unfound ⊢
        have answered : ∃ finding, authenticate signer state intentRows payload row =
            .ok (some finding) := by
          unfold authenticate at unfound ⊢
          cases verdict : signer.verify state payload (intentRows.tag row)
              (intentRows.signerKeyId row) with
          | error error => exact ⟨.unavailable, if_pos (documented _ _ _ error verdict)⟩
          | ok authentic =>
            cases authentic with
            | true => simp [verdict] at unfound
            | false => exact ⟨.forged, rfl⟩
        obtain ⟨finding, found⟩ := answered
        exact .inr ⟨finding, found, fun _ => seq_eq, fun undefined => by cases undefined.2.2⟩
    · refine .inr ⟨.linkMismatch, ?_, by simp, fun undefined => prev_eq undefined.2.1⟩
      simp [inspect, seq_eq, Ne.symm prev_eq]
  · refine .inr ⟨.discontinuity expectedSeq, ?_, by simp, fun undefined => seq_eq undefined.1⟩
    simp [inspect, seq_eq]

private theorem reportFinding_eq {segmentId : String} {now : ℚ} {outcome : OutcomeReport}
    (valid : IntegrityReport.Reportable segmentId .intact now none outcome) (checked : Nat)
    {finding : Finding} (nonneg : 0 ≤ expectedSeq)
    (unavailable_at : finding = .unavailable → row.seq = expectedSeq) :
    if row.seq < 0 then
      ∃ error, reportFinding intentRows segmentId checked now finding row outcome = .error error
    else ∃ report,
      reportFinding intentRows segmentId checked now finding row outcome = .ok report ∧
        report.isAcceptable = false ∧ report.recordsChecked = checked := by
  cases finding with
  | unavailable =>
    have seq_eq := unavailable_at rfl
    rw [if_neg (by omega)]
    have reportable : IntegrityReport.Reportable segmentId .unverifiable now none outcome :=
      { valid with broken_iff := by simp }
    obtain ⟨report, made, status, checked_eq, -⟩ :=
      make_of_reportable reportable checked _
    exact ⟨report, made, by rw [isAcceptable, status]; rfl, checked_eq⟩
  | discontinuity expected | linkMismatch | columnMismatch name | forged =>
    change if row.seq < 0 then
        ∃ error, make segmentId .broken checked now (some row.seq) _ outcome = .error error
      else ∃ report, make segmentId .broken checked now (some row.seq) _ outcome = .ok report ∧ _
    split
    · rename_i negative
      cases made : make segmentId .broken checked now (some row.seq) _ outcome with
      | error error => exact ⟨error, rfl⟩
      | ok report =>
        have nonneg := (reportable_of_make made).1.seq_nonneg row.seq rfl
        omega
    · rename_i nonneg
      obtain ⟨report, made, status, checked_eq, -⟩ :=
        make_of_reportable (valid.broken (by omega : 0 ≤ row.seq)) checked _
      exact ⟨report, made, by rw [isAcceptable, status]; rfl, checked_eq⟩

end Reporting

section Localisation

variable [Runtime] {κ : Type} {signer : MacSigner κ} {state : Signed κ InMemoryEvidenceStore}
  {segmentId : String} {now : ℚ}

def withRows (state : Signed κ InMemoryEvidenceStore) (segmentId : String)
    (rows : List StoredRecord) : Signed κ InMemoryEvidenceStore :=
  { state with store := { state.store with
      segments := Function.update state.store.segments segmentId (some rows) } }

/-- An acceptable segment is linked, and its other report fields are in order. -/
theorem linked_of_acceptable {rows : List StoredRecord} {report : IntegrityReport}
    (exists_segment : state.store.segments segmentId = some rows)
    (verified : verify signer state segmentId now = .ok report) (acceptable : report.isAcceptable) :
    intentRows.Linked (Authentic signer state.signer intentRows) (state.store.purged segmentId)
        (state.store.chainHead segmentId) rows ∧
      ∃ outcome, verifyOutcomeChain signer state.signer outcomeRows
          (state.store.outcomeChain segmentId) = .ok outcome ∧
        IntegrityReport.Reportable segmentId .intact now none outcome := by
  obtain ⟨outcome, outcome_eq, verified⟩ := Except.bind_eq_ok_iff.mp verified
  simp only [exists_segment] at verified
  obtain ⟨result, walked, reported⟩ := Except.bind_eq_ok_iff.mp verified
  rcases @walk_eq κ StoredRecord signer state.signer intentRows (state.store.purged segmentId)
      (state.store.chainHead segmentId) 0 rows with
    ⟨linked, ends⟩ | ⟨front, row, back, rfl, -, refused, ends⟩
  · rw [ends] at walked
    cases walked
    simp only [reportAccepted] at reported
    refine ⟨linked, outcome, outcome_eq, ?_⟩
    split at reported
    · exact { (reportable_of_make reported).1 with broken_iff := by simp }
    · exact (reportable_of_make reported).1
  · rw [ends] at walked
    obtain ⟨finding, inspected, rfl⟩ := Except.map_eq_ok_iff.mp walked
    cases finding with
    | none => exact absurd (inspect_eq_none_iff.mp inspected) refused
    | some finding =>
      rw [isAcceptable_of_reportFinding reported] at acceptable
      cases acceptable

/-- A replaced segment verifies as a whole, or the first row that is not accepted decides. -/
theorem verify_withRows (rows : List StoredRecord) {outcome : OutcomeReport}
    (documented : ∀ payload mac keyId error,
      signer.verify state.signer payload mac keyId = .error error →
        error.isA .signingUnavailableError = true)
    (outcome_eq : verifyOutcomeChain signer state.signer outcomeRows
      (state.store.outcomeChain segmentId) = .ok outcome)
    (valid : IntegrityReport.Reportable segmentId .intact now none outcome) :
    (intentRows.Linked (Authentic signer state.signer intentRows) (state.store.purged segmentId)
        (state.store.chainHead segmentId) rows ∧
      ∃ report, verify signer (withRows state segmentId rows) segmentId now = .ok report ∧
        report.isAcceptable = true) ∨
    ∃ front row back, rows = front ++ row :: back ∧
      intentRows.Linked (Authentic signer state.signer intentRows) (state.store.purged segmentId)
        (state.store.chainHead segmentId) front ∧
      ¬ intentRows.Accepted (Authentic signer state.signer intentRows)
        (state.store.purged segmentId + front.length)
        (intentRows.lastTag (state.store.chainHead segmentId) front) row ∧
      ((Unreportable (state.store.purged segmentId + front.length)
          (intentRows.lastTag (state.store.chainHead segmentId) front) row ∧
        ∃ error, verify signer (withRows state segmentId rows) segmentId now = .error error) ∨
      (¬ Unreportable (state.store.purged segmentId + front.length)
          (intentRows.lastTag (state.store.chainHead segmentId) front) row ∧
        ∃ report, verify signer (withRows state segmentId rows) segmentId now = .ok report ∧
          report.isAcceptable = false ∧ report.recordsChecked = front.length)) := by
  have unfolded : verify signer (withRows state segmentId rows) segmentId now =
      (walk signer state.signer intentRows (state.store.purged segmentId)
        (some (state.store.chainHead segmentId)) 0 rows >>= fun result =>
          result.2.elim (reportAccepted segmentId rows.length (state.store.purged segmentId)
              (state.store.chainAnchor segmentId).isSome now outcome) fun found =>
            reportFinding intentRows segmentId result.1 now found.1 found.2 outcome) := by
    unfold verify
    simp only [withRows, Function.update_self, outcome_eq]
    refine bind_congr (x := walk signer state.signer intentRows (state.store.purged segmentId)
      (some (state.store.chainHead segmentId)) 0 rows) fun result => ?_
    rcases result with ⟨checked, _ | ⟨finding, row⟩⟩ <;> rfl
  rcases @walk_eq κ StoredRecord signer state.signer intentRows (state.store.purged segmentId)
      (state.store.chainHead segmentId) 0 rows with
    ⟨linked, ends⟩ | ⟨front, row, back, rfl, linked, refused, ends⟩
  · refine .inl ⟨linked, ?_⟩
    rw [unfolded, ends]
    unfold reportAccepted
    split
    · obtain ⟨report, made, status, -, -⟩ := make_of_reportable
        ({ valid with broken_iff := by simp } :
          IntegrityReport.Reportable _ .sealedPurged _ none _) rows.length _
      exact ⟨report, made, by rw [isAcceptable, status]; rfl⟩
    · obtain ⟨report, made, status, -, -⟩ :=
        make_of_reportable valid rows.length _
      exact ⟨report, made, by rw [isAcceptable, status]; rfl⟩
  · refine .inr ⟨front, row, back, rfl, linked, refused, ?_⟩
    rcases inspect_of_not_accepted documented refused with
      ⟨error, inspected, undefined⟩ | ⟨finding, inspected, unavailable_at, defined⟩
    · exact .inl ⟨.inr undefined, error, by rw [unfolded, ends, inspected]; rfl⟩
    · have reached : verify signer (withRows state segmentId (front ++ row :: back)) segmentId now =
          reportFinding intentRows segmentId (0 + front.length) now finding row outcome := by
        rw [unfolded, ends, inspected]
        rfl
      have reported := reportFinding_eq valid (0 + front.length) (by omega) unavailable_at
      rw [reached]
      split at reported
      · rename_i negative
        exact .inl ⟨.inl negative, reported⟩
      · rename_i nonneg
        rw [Nat.zero_add] at reported ⊢
        exact .inr ⟨fun unreportable => unreportable.elim nonneg defined, reported⟩

/-- `verify` returned a report an auditor may rely on. -/
def Acceptable (result : Except PyError IntegrityReport) : Prop :=
  ∃ report, result = .ok report ∧ report.isAcceptable = true

def FirstDifferenceReportable (store : InMemoryEvidenceStore) (segmentId : String)
    (genuine replaced : List StoredRecord) : Prop :=
  let common := ChainView.commonPrefixLength SameRow replaced genuine
  ∀ row ∈ replaced[common]?,
    ¬ Unreportable (store.purged segmentId + common)
      (intentRows.lastTag (store.chainHead segmentId) (replaced.take common)) row

instance (store : InMemoryEvidenceStore) (segmentId : String)
    (genuine replaced : List StoredRecord) :
    Decidable (FirstDifferenceReportable store segmentId genuine replaced) :=
  inferInstanceAs (Decidable (∀ row ∈ _, _))

private theorem getElem?_commonPrefixLength {genuine replaced : List StoredRecord}
    (agree : List.Forall₂ SameRow replaced (genuine.take replaced.length)) :
    replaced[ChainView.commonPrefixLength SameRow replaced genuine]? = none := by
  have whole := ChainView.commonPrefixLength_append SameRow agree []
    (genuine.drop replaced.length)
  rw [List.append_nil, List.take_append_drop] at whole
  rw [whole]
  simp

/-- Replaced rows verify exactly when they repeat a prefix of the genuine ones, and otherwise the
report counts the rows they have in common with them. -/
def Localised (signer : MacSigner κ) (state : Signed κ InMemoryEvidenceStore) (segmentId : String)
    (now : ℚ) (genuine replaced : List StoredRecord) : Prop :=
  let result := verify signer (withRows state segmentId replaced) segmentId now
  (Acceptable result ↔ List.Forall₂ SameRow replaced (genuine.take replaced.length)) ∧
    (¬ Acceptable result → ∃ report, result = .ok report ∧
      report.recordsChecked = ChainView.commonPrefixLength SameRow replaced genuine)

/-- Tampering is localised exactly when the first difference is reportable. -/
theorem tampering_localised_iff {produced : ByteString → Option (ByteString × String)}
    (unforgeable : Unforgeable signer state.signer produced) {genuine : List StoredRecord}
    (exists_segment : state.store.segments segmentId = some genuine)
    (acceptable : Acceptable (verify signer state segmentId now)) (replaced : List StoredRecord)
    (known : ∀ row ∈ replaced, ∃ original ∈ genuine, row.recordHmac = original.recordHmac) :
    Localised signer state segmentId now genuine replaced ↔
      FirstDifferenceReportable state.store segmentId genuine replaced := by
  obtain ⟨report, verified, relied⟩ := acceptable
  obtain ⟨linked, outcome, outcome_eq, valid⟩ :=
    linked_of_acceptable exists_segment verified relied
  -- under an unforgeable signer a code of the segment belongs to one row
  have binding : ChainView.Binding intentRows.toChainView
      (Authentic signer state.signer intentRows) SameRow genuine := {
    seq_eq := fun same => same.1
    prev_eq := fun same => same.2.1
    tag_eq := fun same => same.2.2.2.1
    authentic_of := fun same member => authentic_of_same same (linked.authentic_of_mem member)
    binds := fun authentic member hmac_eq =>
      same_of_authentic unforgeable authentic (linked.authentic_of_mem member) hmac_eq }
  have prefix_iff := binding.linked_iff linked replaced known
  rcases verify_withRows replaced unforgeable.documented outcome_eq valid with
    ⟨replaced_linked, accepted⟩ | ⟨front, row, back, rfl, front_linked, refused, decided⟩
  · have agree := prefix_iff.mp replaced_linked
    refine iff_of_true ⟨iff_of_true accepted agree, fun refused => absurd accepted refused⟩ ?_
    intro row found
    rw [getElem?_commonPrefixLength agree] at found
    cases found
  · have common := binding.commonPrefixLength_eq linked known front_linked refused
    have differs : ¬ List.Forall₂ SameRow (front ++ row :: back)
        (genuine.take (front ++ row :: back).length) := by
      rw [← prefix_iff, ChainView.linked_append]
      exact fun linked => refused linked.2.1
    have condition : FirstDifferenceReportable state.store segmentId genuine
        (front ++ row :: back) ↔ ¬ Unreportable (state.store.purged segmentId + front.length)
          (intentRows.lastTag (state.store.chainHead segmentId) front) row := by
      simp [FirstDifferenceReportable, common]
    rw [condition]
    rcases decided with ⟨unreportable, error, raised⟩ | ⟨reportable, report, reported, rest⟩
    · refine iff_of_false ?_ (not_not_intro unreportable)
      rintro ⟨-, localised⟩
      have refused : ¬ Acceptable (verify signer (withRows state segmentId (front ++ row :: back))
          segmentId now) := by
        rintro ⟨_, returned, -⟩
        rw [raised] at returned
        cases returned
      obtain ⟨_, returned, -⟩ := localised refused
      rw [raised] at returned
      cases returned
    · refine iff_of_true ⟨iff_of_false ?_ differs, fun _ => ⟨report, reported, ?_⟩⟩ reportable
      · rintro ⟨_, returned, relied⟩
        rw [reported] at returned
        cases returned
        rw [rest.1] at relied
        cases relied
      · rw [rest.2, common]

end Localisation

/-- Codes number the payloads they were made for, and `verify` looks them up. -/
def ledgerSigner : MacSigner (List (ByteString × ByteString)) where
  keyId := fun _ => "ledger"
  mac := fun payload => do
    let code := List.replicate 31 0 ++ [UInt8.ofNat ((← get).length + 1)]
    modify ((code, payload) :: ·)
    return code
  verify := fun log payload mac keyId => .ok (log.lookup mac = some payload ∧ keyId = "ledger")

theorem ledgerSigner_unforgeable (log : List (ByteString × ByteString)) :
    Unforgeable ledgerSigner log fun mac => (log.lookup mac).map (·, "ledger") where
  accepts_only := by
    intro payload mac keyId accepted
    have ⟨found, keyId_eq⟩ : log.lookup mac = some payload ∧ keyId = "ledger" := by
      simpa [ledgerSigner] using accepted
    rw [found, keyId_eq]
    rfl
  documented := by
    intro payload mac keyId error raised
    cases raised

attribute [local instance] plainRuntime

def twoRecords : Signed (List (ByteString × ByteString)) InMemoryEvidenceStore :=
  (do
    let _ ← appendIntent ledgerSigner
      (sampleRecord Sample.decision1 Sample.segment)
    appendIntent ledgerSigner
      (sampleRecord Sample.decision2 Sample.segment)).after ⟨[], {}⟩

def twoRows : List StoredRecord := twoRecords.store.rows "segment"

private theorem twoRecords_signed :
    ∀ row ∈ twoRows, Authentic ledgerSigner twoRecords.signer intentRows row := by
  have known : twoRows.map (fun row => (intentRows.payload row).toOption) =
      twoRows.map fun row => twoRecords.signer.lookup row.recordHmac := rfl
  have labelled : ∀ row ∈ twoRows,
      (intentRows.payload row).toOption.isSome = true ∧ row.signerKeyId = "ledger" := by
    decide +kernel
  intro row member
  obtain ⟨defined, key_eq⟩ := labelled row member
  have found := List.map_inj_left.mp known row member
  cases payload_eq : intentRows.payload row with
  | error error =>
    rw [payload_eq] at defined
    cases defined
  | ok payload =>
    rw [payload_eq] at found
    refine ⟨rfl, payload, payload_eq, congrArg Except.ok (decide_eq_true ⟨found.symm, key_eq⟩)⟩

private theorem twoRecords_segment : twoRecords.store.segments "segment" = some twoRows := rfl

private theorem twoRecords_acceptable :
    Acceptable (verify ledgerSigner twoRecords "segment" 0) := by
  obtain ⟨first, second, both⟩ := List.length_eq_two.mp
    (show twoRows.length = 2 by decide +kernel)
  have positions : twoRows.map Stored.seq = [0, 1] := by decide +kernel
  have links : twoRows.map Stored.prevHash =
      twoRecords.store.chainHead "segment" ::
        (twoRows.map Stored.recordHmac).take 1 := by
    decide +kernel
  have signed := twoRecords_signed
  have linked : intentRows.Linked (Authentic ledgerSigner twoRecords.signer intentRows) 0
      (twoRecords.store.chainHead "segment") twoRows := by
    rw [both] at positions links signed ⊢
    simp only [List.map_cons, List.map_nil, List.take_succ_cons, List.take_zero, List.cons.injEq,
      and_true] at positions links
    exact ⟨⟨positions.1, links.1, signed first (by simp)⟩,
      ⟨positions.2, links.2, signed second (by simp)⟩, trivial⟩
  have reportable : IntegrityReport.Reportable "segment" .intact 0 none {} := by
    constructor <;> decide +kernel
  rcases verify_withRows twoRows (ledgerSigner_unforgeable twoRecords.signer).documented rfl
      reportable with
    ⟨-, accepted⟩ | ⟨front, row, back, rows_eq, -, refused, -⟩
  · rwa [withRows, ← twoRecords_segment, Function.update_eq_self] at accepted
  · rw [rows_eq, ChainView.linked_append] at linked
    exact absurd linked.2.1 refused

theorem tampering_localised_reversed :
    Localised ledgerSigner twoRecords "segment" 0 twoRows twoRows.reverse := by
  have reportable : FirstDifferenceReportable twoRecords.store "segment" twoRows
      twoRows.reverse := by
    decide +kernel
  exact (tampering_localised_iff (ledgerSigner_unforgeable _) twoRecords_segment
    twoRecords_acceptable _ fun row member =>
      ⟨row, List.mem_reverse.mp member, rfl⟩).mpr reportable

/-- The genuine rows under a negative position. -/
def renumbered : List StoredRecord := twoRows.map fun row => { row with seq := -1 }

/-- `verify` raises at a negative position and reports no common prefix. -/
theorem renumbered_not_localised :
    ¬ Localised ledgerSigner twoRecords "segment" 0 twoRows renumbered := by
  rintro ⟨-, localised⟩
  have raised : (verify ledgerSigner (withRows twoRecords "segment" renumbered) "segment"
      0).toOption.isNone = true := by
    decide +kernel
  have refused : ¬ Acceptable (verify ledgerSigner (withRows twoRecords "segment" renumbered)
      "segment" 0) := by
    rintro ⟨report, verified, -⟩
    rw [verified] at raised
    cases raised
  obtain ⟨report, verified, -⟩ := localised refused
  rw [verified] at raised
  cases raised

end InMemoryEvidenceStore

end GlassBox
