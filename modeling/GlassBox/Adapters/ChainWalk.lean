import GlassBox.Foundation.Chain
import GlassBox.Ports.Evidence

/-!
# Walking a chain

The loop shared by the verification methods of the evidence stores.  Each row is checked for its
position, its link, its columns and its code, and the walk stops at the first row that fails.
-/

namespace GlassBox

structure ChainRows (Row : Type) extends ChainView Row ByteString where
  signerKeyId : Row → String
  /-- The first indexed column which disagrees with the signed record. -/
  columnMismatch : Row → Except PyError (Option String)
  /-- The bytes the row's code should authenticate, recomputed from the stored fields. -/
  payload : Row → Except PyError ByteString

/-- Why a walk stopped at a row. -/
inductive Finding
  | discontinuity (expected : Int)
  | linkMismatch
  | columnMismatch (name : String)
  | unavailable
  | forged
  deriving DecidableEq

section Walk

variable {κ Row : Type} (signer : MacSigner κ) (state : κ) (rows : ChainRows Row)

/-- The signer's verdict on the code of one row. -/
def authenticate (payload : ByteString) (row : Row) : Except PyError (Option Finding) :=
  match signer.verify state payload (rows.tag row) (rows.signerKeyId row) with
  | .ok true => .ok none
  | .ok false => .ok (some .forged)
  | .error error =>
    if error.isA .signingUnavailableError then .ok (some .unavailable) else .error error

/-- The finding of one step of the loop, if any. -/
def inspect (expectedSeq : Int) (expectedPrev : Option ByteString) (row : Row) :
    Except PyError (Option Finding) :=
  if rows.seq row ≠ expectedSeq then .ok (some (.discontinuity expectedSeq))
  else if expectedPrev.any (· ≠ rows.prev row) then .ok (some .linkMismatch)
  else do
    match ← rows.columnMismatch row with
    | some name => return some (.columnMismatch name)
    | none =>
      let payload ← rows.payload row
      authenticate signer state rows payload row

/-- Accepted rows are counted up to the first finding. -/
def walk (expectedSeq : Int) (expectedPrev : Option ByteString) (checked : Nat) :
    List Row → Except PyError (Nat × Option (Finding × Row))
  | [] => .ok (checked, none)
  | row :: later => do
    match ← inspect signer state rows expectedSeq expectedPrev row with
    | none => walk (expectedSeq + 1) (some (rows.tag row)) (checked + 1) later
    | some finding => return (checked, some (finding, row))

/-- The stored fields of the row agree with its columns and carry the signer's code. -/
def Authentic (row : Row) : Prop :=
  rows.columnMismatch row = .ok none ∧ ∃ payload, rows.payload row = .ok payload ∧
    signer.verify state payload (rows.tag row) (rows.signerKeyId row) = .ok true

variable {signer state rows} {row : Row} {expectedSeq : Int} {head : ByteString} {chain : List Row}
  {start : Int} {expectedPrev : Option ByteString}

theorem authenticate_eq_none_iff {payload : ByteString} :
    authenticate signer state rows payload row = .ok none ↔
      signer.verify state payload (rows.tag row) (rows.signerKeyId row) = .ok true := by
  unfold authenticate
  cases signer.verify state payload (rows.tag row) (rows.signerKeyId row) with
  | ok authentic => cases authentic <;> simp
  | error error => by_cases unavailable : error.isA .signingUnavailableError <;> simp [unavailable]

/-- A step of the loop finds nothing exactly at an accepted row. -/
theorem inspect_eq_none_iff :
    inspect signer state rows expectedSeq (some head) row = .ok none ↔
      rows.Accepted (Authentic signer state rows) expectedSeq head row := by
  unfold inspect ChainView.Accepted Authentic
  by_cases seq_eq : rows.seq row = expectedSeq
  · by_cases prev_eq : rows.prev row = head
    · simp only [seq_eq, prev_eq, ne_eq, not_true_eq_false, if_false, Option.any_some,
        decide_false, Bool.false_eq_true, true_and, Except.bind_eq_ok_iff]
      constructor
      · rintro ⟨mismatch, columns, rest⟩
        cases mismatch with
        | some name => cases rest
        | none =>
          obtain ⟨payload, payload_eq, accepted⟩ := Except.bind_eq_ok_iff.mp rest
          exact ⟨columns, payload, payload_eq, authenticate_eq_none_iff.mp accepted⟩
      · rintro ⟨columns, payload, payload_eq, accepted⟩
        exact ⟨none, columns, Except.bind_eq_ok_iff.mpr
          ⟨payload, payload_eq, authenticate_eq_none_iff.mpr accepted⟩⟩
    · simp [seq_eq, prev_eq, Ne.symm prev_eq]
  · simp [seq_eq]

theorem walk_eq (start : Int) (head : ByteString) (checked : Nat) (chain : List Row) :
    (rows.Linked (Authentic signer state rows) start head chain ∧
      walk signer state rows start (some head) checked chain = .ok (checked + chain.length, none)) ∨
    ∃ front row back, chain = front ++ row :: back ∧
      rows.Linked (Authentic signer state rows) start head front ∧
      ¬ rows.Accepted (Authentic signer state rows) (start + front.length)
        (rows.lastTag head front) row ∧
      walk signer state rows start (some head) checked chain =
        (inspect signer state rows (start + front.length) (some (rows.lastTag head front))
          row).map fun finding => (checked + front.length, finding.map (·, row)) := by
  induction chain generalizing start head checked with
  | nil => exact .inl ⟨trivial, rfl⟩
  | cons row later ih =>
    by_cases accepted : rows.Accepted (Authentic signer state rows) start head row
    · have step : walk signer state rows start (some head) checked (row :: later) =
          walk signer state rows (start + 1) (some (rows.tag row)) (checked + 1) later := by
        rw [walk, inspect_eq_none_iff.mpr accepted]
        rfl
      rcases ih (start + 1) (rows.tag row) (checked + 1) with
        ⟨linked, ends⟩ | ⟨front, rejected, back, rfl, linked, refused, ends⟩
      · refine .inl ⟨⟨accepted, linked⟩, ?_⟩
        rw [step, ends, List.length_cons, Nat.add_assoc, Nat.add_comm 1]
      · have position : start + 1 + (front.length : Int) =
            start + ((row :: front).length : Int) := by
          rw [List.length_cons]
          omega
        have count : checked + 1 + front.length = checked + (row :: front).length := by
          omega
        rw [position] at refused ends
        rw [count] at ends
        exact .inr ⟨row :: front, rejected, back, rfl, ⟨accepted, linked⟩, refused, step.trans ends⟩
    · refine .inr ⟨[], row, later, rfl, trivial, by simpa using accepted, ?_⟩
      simp only [List.length_nil, Int.ofNat_zero, Int.add_zero, ChainView.lastTag_nil]
      have found := mt inspect_eq_none_iff.mp accepted
      rw [walk]
      cases inspected : inspect signer state rows start (some head) row with
      | error error => rfl
      | ok finding =>
        cases finding with
        | none => exact absurd inspected found
        | some finding => rfl

theorem walk_of_linked (linked : rows.Linked (Authentic signer state rows) start head chain) :
    walk signer state rows start (some head) 0 chain = .ok (chain.length, none) := by
  rcases @walk_eq κ Row signer state rows start head 0 chain with
    ⟨-, ends⟩ | ⟨front, row, back, rfl, -, refused, -⟩
  · simpa using ends
  · rw [ChainView.linked_append] at linked
    exact absurd linked.2.1 refused

/-- A row in which nothing is found is authentic, whatever link was expected. -/
theorem authentic_of_inspect
    (inspected : inspect signer state rows expectedSeq expectedPrev row = .ok none) :
    Authentic signer state rows row := by
  unfold inspect at inspected
  split at inspected
  · cases inspected
  · split at inspected
    · cases inspected
    · obtain ⟨mismatch, columns, rest⟩ := Except.bind_eq_ok_iff.mp inspected
      cases mismatch with
      | some name => cases rest
      | none =>
        obtain ⟨payload, payload_eq, accepted⟩ := Except.bind_eq_ok_iff.mp rest
        exact ⟨columns, payload, payload_eq, authenticate_eq_none_iff.mp accepted⟩

/-- A walk which finds nothing accepted authentic rows only. -/
theorem authentic_of_walk {checked count : Nat}
    (walked : walk signer state rows expectedSeq expectedPrev checked chain = .ok (count, none)) :
    ∀ row ∈ chain, Authentic signer state rows row := by
  induction chain generalizing expectedSeq expectedPrev checked with
  | nil => simp
  | cons row later ih =>
    obtain ⟨finding, inspected, rest⟩ := Except.bind_eq_ok_iff.mp walked
    cases finding with
    | some finding => cases rest
    | none =>
      intro other member
      rcases List.mem_cons.mp member with rfl | member
      · exact authentic_of_inspect inspected
      · exact ih rest other member

/-- An authentic row is refused for its position or its link. -/
theorem inspect_of_authentic (authentic : Authentic signer state rows row)
    (refused : ¬ rows.Accepted (Authentic signer state rows) expectedSeq head row) :
    ∃ finding, inspect signer state rows expectedSeq (some head) row = .ok (some finding) ∧
      finding ≠ .unavailable := by
  by_cases seq_eq : rows.seq row = expectedSeq
  · have differs : rows.prev row ≠ head := fun prev_eq => refused ⟨seq_eq, prev_eq, authentic⟩
    exact ⟨.linkMismatch, by simp [inspect, seq_eq, Ne.symm differs], nofun⟩
  · exact ⟨.discontinuity expectedSeq, by simp [inspect, seq_eq], nofun⟩

theorem walk_of_not_linked (authentic : ∀ row ∈ chain, Authentic signer state rows row)
    (unlinked : ¬ rows.Linked (Authentic signer state rows) start head chain) :
    ∃ checked finding, ∃ row ∈ chain, finding ≠ .unavailable ∧
      walk signer state rows start (some head) 0 chain = .ok (checked, some (finding, row)) := by
  rcases @walk_eq κ Row signer state rows start head 0 chain with
    ⟨linked, -⟩ | ⟨front, row, back, rfl, -, refused, ends⟩
  · exact absurd linked unlinked
  · have member : row ∈ front ++ row :: back := by simp
    obtain ⟨finding, inspected, known⟩ := inspect_of_authentic (authentic row member) refused
    refine ⟨0 + front.length, finding, row, member, known, ?_⟩
    rw [ends, inspected]
    rfl

variable (signer rows) in
/-- The row's code was made by the signer for the row's own payload. -/
def Genuine (row : Row) : Prop :=
  rows.columnMismatch row = .ok none ∧ ∃ payload, rows.payload row = .ok payload ∧
    signer.Produced payload (rows.tag row) (rows.signerKeyId row)

/-- A genuine row is accepted by an honest signer, in whatever state it is. -/
theorem Genuine.authentic (genuine : Genuine signer rows row) (honest : signer.Honest) (state : κ) :
    Authentic signer state rows row := by
  obtain ⟨columns, payload, defined, produced⟩ := genuine
  exact ⟨columns, payload, defined, (honest.verifies state payload _ _).mpr produced⟩

end Walk

section Reports

variable {κ Row : Type} (signer : MacSigner κ) (state : κ) (rows : ChainRows Row)

/-- The report of an intent chain whose walk stopped at `row`. -/
def reportFinding [Runtime] (segmentId : String) (checked : Nat) (now : ℚ) (finding : Finding)
    (row : Row) (outcome : OutcomeReport) : Except PyError IntegrityReport :=
  let broken (detail : String) :=
    IntegrityReport.make segmentId .broken checked now (some (rows.seq row)) detail outcome
  match finding with
  | .discontinuity expected => broken ("sequence discontinuity: expected " ++ toString expected)
  | .linkMismatch => broken "chain link does not match the previous record"
  | .columnMismatch name => broken ("indexed column disagrees with the signed record: " ++ name)
  | .unavailable =>
    IntegrityReport.make segmentId .unverifiable checked now none
      ("signing key " ++ Runtime.reprStr (rows.signerKeyId row) ++ " is unavailable") outcome
  | .forged => broken "record MAC does not authenticate the stored fields"

/-- The walk over the outcomes of a segment. -/
def verifyOutcomeChain (chain : List Row) : Except PyError OutcomeReport := do
  match ← walk signer state rows 0 (some genesisPrevHash) 0 chain with
  | (checked, none) => return { outcomeRecordsChecked := checked }
  | (checked, some (.unavailable, _)) =>
    return { outcomeStatus := .unverifiable, outcomeRecordsChecked := checked }
  | (checked, some (_, row)) =>
    return {
      outcomeStatus := .broken
      outcomeRecordsChecked := checked
      firstBrokenOutcomeSeq := some (rows.seq row) }

variable {signer state rows} {chain : List Row} {outcome : OutcomeReport} {segmentId : String}
  {now : ℚ} {finding : Finding} {row : Row}

theorem verifyOutcomeChain_of_linked
    (linked : rows.Linked (Authentic signer state rows) 0 genesisPrevHash chain) :
    verifyOutcomeChain signer state rows chain = .ok { outcomeRecordsChecked := chain.length } := by
  unfold verifyOutcomeChain
  rw [walk_of_linked linked]
  rfl

theorem verifyOutcomeChain_of_not_linked
    (authentic : ∀ row ∈ chain, Authentic signer state rows row)
    (unlinked : ¬ rows.Linked (Authentic signer state rows) 0 genesisPrevHash chain) :
    ∃ checked, ∃ row ∈ chain, verifyOutcomeChain signer state rows chain = .ok {
      outcomeStatus := .broken
      outcomeRecordsChecked := checked
      firstBrokenOutcomeSeq := some (rows.seq row) } := by
  obtain ⟨checked, finding, row, member, known, walked⟩ := walk_of_not_linked authentic unlinked
  refine ⟨checked, row, member, ?_⟩
  unfold verifyOutcomeChain
  rw [walked]
  cases finding with
  | unavailable => exact absurd rfl known
  | discontinuity expected | linkMismatch | columnMismatch name | forged => rfl

theorem isAcceptable_of_reportFinding [Runtime] {checked : Nat} {report : IntegrityReport}
    (reported : reportFinding rows segmentId checked now finding row outcome = .ok report) :
    report.isAcceptable = false := by
  cases finding <;>
    · rw [IntegrityReport.isAcceptable, (IntegrityReport.reportable_of_make reported).2.1]
      rfl

theorem walk_of_intact_outcomes
    (verified : verifyOutcomeChain signer state rows chain = .ok outcome)
    (intact : outcome.outcomeStatus = .intact) :
    ∃ checked, walk signer state rows 0 (some genesisPrevHash) 0 chain = .ok (checked, none) := by
  obtain ⟨⟨checked, finding⟩, walked, reported⟩ := Except.bind_eq_ok_iff.mp verified
  cases finding with
  | none => exact ⟨checked, walked⟩
  | some finding =>
    obtain ⟨finding, row⟩ := finding
    cases finding <;>
      · cases reported
        cases intact

theorem reportFinding_of_known [Runtime]
    (valid : IntegrityReport.Reportable segmentId .intact now none outcome) (checked : Nat)
    (known : finding ≠ .unavailable) (nonneg : 0 ≤ rows.seq row) :
    ∃ report, reportFinding rows segmentId checked now finding row outcome = .ok report ∧
      report.status = .broken ∧ report.recordsChecked = checked ∧
      report.outcomeStatus = outcome.outcomeStatus := by
  have made := IntegrityReport.make_of_reportable (valid.broken nonneg) checked
  cases finding with
  | unavailable => exact absurd rfl known
  | discontinuity expected | linkMismatch | columnMismatch name | forged => exact made _

end Reports

end GlassBox
