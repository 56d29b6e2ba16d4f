import GlassBox.Adapters.Postgres.HonestRuns

/-!
# The Postgres evidence store under its own policies

A role which is subject to the policies of `evidence_intent` sees a row only in a transaction that
set its tenant.  `append_intent` sets it; the other methods do not, so they see no row at all.
-/

namespace GlassBox

namespace Postgres

section Unseen

variable {κ : Type} {session : Session}

theorem intents_unseen (secured : session.rowSecurity = true) (database : Database) :
    session.intents { database } = [] := by
  simp [Session.intents, Session.sees, secured]

/-- Hence a segment has no leaf to seal. -/
theorem segmentLeaves_unseen (secured : session.rowSecurity = true) (database : Database)
    (segmentId : String) (beforeSeq : Option Int) :
    segmentLeaves session database segmentId beforeSeq = .ok [] := by
  simp only [segmentLeaves, Session.chain, intents_unseen secured]
  rfl

variable [Runtime] {store : PostgresEvidenceStore κ}

theorem appendIntent_stores {record : IntentRecord} (state : Signed κ Database) :
    (appendIntent store record).Ends state
      (fun _ after => state.store.intents <+: after.store.intents ∧ after.store.intents ≠ [])
      fun _ _ => True := by
  refine (appendIntent_commits state).mono ?_ fun _ _ _ => trivial
  intro receipt after committed
  generalize after.store = tables at committed ⊢
  cases committed with
  | known stored same read => exact ⟨List.prefix_rfl, List.ne_nil_of_mem stored⟩
  | added written fresh read => exact ⟨List.prefix_append .., by simp⟩

theorem appendAll_stores (records : List IntentRecord) (state : Signed κ Database) :
    (records.mapM (appendIntent store)).Ends state
      (fun _ after => state.store.intents <+: after.store.intents ∧
        (records ≠ [] → after.store.intents ≠ []))
      fun _ _ => True := by
  induction records generalizing state with
  | nil => exact ⟨List.prefix_rfl, fun nonempty => absurd rfl nonempty⟩
  | cons record records ih =>
    rw [List.mapM_cons, EStateM.ends_bind]
    refine (appendIntent_stores state).mono ?_ fun _ _ _ => trivial
    rintro receipt middle ⟨kept, nonempty⟩
    rw [EStateM.ends_bind]
    refine (ih middle).mono ?_ fun _ _ _ => trivial
    rintro receipts after ⟨later_kept, -⟩
    refine ⟨kept.trans later_kept, fun _ empty => nonempty ?_⟩
    rw [empty] at later_kept
    exact List.prefix_nil.mp later_kept

end Unseen

section ReadsBack

variable [Runtime] {κ : Type} (store : PostgresEvidenceStore κ)

/-- Every appended row is found by the methods which read the table. -/
structure ReadsBack (state : Signed κ Database) (receipts : List EvidenceReceipt) : Prop where
  outcomes : ∀ receipt ∈ receipts, ∀ record, (appendOutcome store receipt record).Ends state
    (fun _ _ => True) fun error _ => error.message ≠ "no intent record exists for this receipt"
  leaves : ∀ segmentId, ∃ leaves,
    segmentLeaves store.session state.store segmentId none = .ok leaves ∧
      leaves.length = (state.store.rows segmentId).length
  checked : ∀ segmentId, (state.store.segments segmentId).isSome → ∀ now : Timestamp, ∃ report,
    verify store state segmentId now.val = .ok report ∧
      report.recordsChecked = (state.store.rows segmentId).length

variable {store}

/-- Under the store's own policies nothing that was appended is read back: the methods agree with
the table exactly when it is empty. -/
theorem readsBack_iff_nothing_appended (secured : store.session.rowSecurity = true)
    {records : List IntentRecord} {receipts : List EvidenceReceipt} {start : κ}
    {state : Signed κ Database}
    (appended : records.mapM (appendIntent store) ⟨start, {}⟩ = .ok receipts state) :
    ReadsBack store state receipts ↔ records = [] := by
  constructor
  · intro reads
    by_contra nonempty
    have stored := (EStateM.ends_of_ok appended).mp (appendAll_stores records ⟨start, {}⟩)
    obtain ⟨row, member⟩ := List.exists_mem_of_ne_nil _ (stored.2 nonempty)
    obtain ⟨leaves, read, length_eq⟩ := reads.leaves row.segmentId.val
    rw [segmentLeaves_unseen secured] at read
    cases read
    have live : row ∈ state.store.rows row.segmentId.val :=
      List.mem_filter.mpr ⟨member, by simp⟩
    exact absurd length_eq.symm (List.ne_nil_of_mem live ∘ List.length_eq_zero_iff.mp)
  · rintro rfl
    cases appended
    refine ⟨by simp, fun segmentId => ?_, by simp⟩
    exact ⟨[], segmentLeaves_unseen secured _ segmentId none, rfl⟩

end ReadsBack

def securedStore : PostgresEvidenceStore UInt8 where
  session := { columns := exactColumns, clock := 0, rowSecurity := true }
  signer := MacSigner.counter

attribute [local instance] plainRuntime

def securedAppend : EStateM PyError (Signed UInt8 Database) (List EvidenceReceipt) :=
  [sampleRecord Sample.decision1 Sample.segment].mapM (appendIntent securedStore)

theorem securedAppend_returns : ∃ receipts state, securedAppend ⟨0, {}⟩ = .ok receipts state := by
  have returns : (match securedAppend ⟨0, {}⟩ with
      | .ok .. => true
      | .error .. => false) = true := by
    decide +kernel
  cases run : securedAppend ⟨0, {}⟩ with
  | ok receipts state => exact ⟨receipts, state, rfl⟩
  | error error state =>
    rw [run] at returns
    cases returns

theorem readsBack_iff_nothing_appended_one :
    ∃ receipts state, securedAppend ⟨0, {}⟩ = .ok receipts state ∧
      ¬ ReadsBack securedStore state receipts := by
  obtain ⟨receipts, state, appended⟩ := securedAppend_returns
  refine ⟨receipts, state, appended, fun reads => ?_⟩
  cases (readsBack_iff_nothing_appended rfl appended).mp reads

/-- The leaf of the appended record is not returned, nor is the record checked. -/
theorem appended_row_unseen :
    ¬ ∀ (records : List IntentRecord) (receipts : List EvidenceReceipt)
        (state : Signed UInt8 Database),
      records.mapM (appendIntent securedStore) ⟨0, {}⟩ = .ok receipts state →
      ReadsBack securedStore state receipts := by
  intro claim
  obtain ⟨receipts, state, appended⟩ := securedAppend_returns
  obtain ⟨leaves, read, length_eq⟩ := (claim _ receipts state appended).leaves "segment"
  rw [segmentLeaves_unseen rfl] at read
  cases read
  have one : (state.store.rows "segment").length = 1 := by
    have evaluated : ((securedAppend.after ⟨0, {}⟩).store.rows "segment").length = 1 := by
      decide +kernel
    rwa [EStateM.after, appended] at evaluated
  rw [one] at length_eq
  cases length_eq

end Postgres

end GlassBox
