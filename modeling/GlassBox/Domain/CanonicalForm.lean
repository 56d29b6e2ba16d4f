import GlassBox.Domain.ChainPayload

/-!
# Which records have a canonical form

A record has one when each of its fields does, so a field may be exchanged for another one without
looking at the rest.
-/

namespace GlassBox

private theorem exists_map_ok_iff {α β : Type} {change : α → β} {program : Except PyError α} :
    (∃ result, program.map change = .ok result) ↔ ∃ value, program = .ok value := by
  cases program <;> simp [Except.map]

section Normalise

variable [Runtime]

theorem canonicalBytes_ok_iff {payload : List (String × Value)} :
    (∃ bytes, canonicalBytes payload = .ok bytes) ↔ (Value.record payload).isCanonical = true := by
  unfold canonicalBytes canonicalJson
  rw [exists_map_ok_iff, exists_map_ok_iff, normalise_ok_iff]

/-- A link of a chain has a payload when its record has a canonical form. -/
theorem chainPayload_ok_iff {evidence : List (String × Value)} {seq : Int} {prevHash : ByteString} :
    (∃ payload, chainPayload evidence seq prevHash = .ok payload) ↔
      0 ≤ seq ∧ prevHash.length = 32 ∧ (Value.record evidence).isCanonical = true := by
  have body : (∃ payload, canonicalBytes [("seq", .int seq), ("prev_hash", .str (hexText prevHash)),
      ("record", .record evidence)] = .ok payload) ↔
      (Value.record evidence).isCanonical = true := by
    rw [canonicalBytes_ok_iff]
    simp [Value.record, Value.isCanonical, entriesCanonical]
  unfold chainPayload
  split
  next negative => simp [negative]
  next nonneg =>
    split
    next other => simp_all [genesisPrevHash]
    next length =>
      rw [body]
      simp_all [genesisPrevHash]

end Normalise

section Records

@[simp]
theorem isCanonical_str (text : String) : (Value.str text).isCanonical = true := rfl

@[simp]
theorem isCanonical_ofRat (value : ℚ) : (Value.ofRat value).isCanonical = true := rfl

@[simp]
theorem isCanonical_ofOptionStr (text : Option String) :
    (Value.ofOptionStr text).isCanonical = true := by
  cases text <;> rfl

@[simp]
theorem isCanonical_ofOptionRat (value : Option ℚ) :
    (Value.ofOptionRat value).isCanonical = true := by
  cases value <;> rfl

variable {items : List Value}

@[simp]
theorem itemsCanonical_iff :
    itemsCanonical items = true ↔ ∀ item ∈ items, item.isCanonical = true := by
  induction items with
  | nil => simp [itemsCanonical]
  | cons item items ih => simp [itemsCanonical, ih]

@[simp]
theorem isCanonical_list :
    (Value.list items).isCanonical = true ↔ ∀ item ∈ items, item.isCanonical = true :=
  itemsCanonical_iff

@[simp]
theorem isCanonical_record {entries : List (String × Value)} :
    (Value.record entries).isCanonical = true ↔ ∀ entry ∈ entries, entry.2.isCanonical = true := by
  rw [Value.record, Value.isCanonical]
  induction entries with
  | nil => simp [entriesCanonical]
  | cons entry entries ih => simp [entriesCanonical, ih]

theorem dictOf_of_nodup {α : Type} {pairs : List (String × α)}
    (distinct : (pairs.map Prod.fst).Nodup) : dictOf pairs = pairs := by
  have extended : ∀ (rest entries : List (String × α)), ((entries ++ rest).map Prod.fst).Nodup →
      rest.foldl (fun entries pair =>
        if entries.any (fun entry => entry.1 == pair.1) then
          entries.map fun entry => if entry.1 == pair.1 then pair else entry
        else entries ++ [pair]) entries = entries ++ rest := by
    intro rest
    induction rest with
    | nil => simp
    | cons pair rest ih =>
      intro entries distinct
      have fresh : entries.any (fun entry => entry.1 == pair.1) = false := by
        rw [List.map_append, List.nodup_append'] at distinct
        rw [List.any_eq_false]
        intro entry member same
        exact distinct.2.2 (List.mem_map_of_mem member) (by simp [beq_iff_eq.mp same])
      rw [List.foldl_cons, if_neg (by simp [fresh]), ih _ (by simpa using distinct)]
      simp
  exact extended pairs [] distinct

theorem isCanonical_stageOutcome (outcome : StageOutcome) :
    (Value.record outcome.asEvidence).isCanonical = true := by
  simp only [isCanonical_record, StageOutcome.asEvidence, List.forall_mem_cons, isCanonical_str,
    isCanonical_ofRat, isCanonical_ofOptionStr, List.not_mem_nil, false_implies, implies_true,
    and_self]

theorem isCanonical_provenance (provenance : ModelProvenance) :
    (Value.record provenance.asEvidence).isCanonical = true := by
  simp only [isCanonical_record, ModelProvenance.asEvidence, List.forall_mem_cons, isCanonical_str,
    isCanonical_list, isCanonical_ofOptionStr, List.forall_mem_map, List.not_mem_nil, false_implies,
    implies_true, and_self]

theorem isCanonical_exposure (exposure : Exposure) :
    (Value.record exposure.asEvidence).isCanonical = true := by
  cases counted : exposure.records <;>
    simp [Exposure.asEvidence, counted, Value.ofNat, Value.isCanonical]

theorem ProposedAction.isCanonical_asEvidence {action : ProposedAction} :
    (Value.record action.asEvidence).isCanonical = true ↔
      (Value.record (dictOf action.parameters)).isCanonical = true := by
  have exposure := isCanonical_exposure action.exposure
  rw [isCanonical_record, ProposedAction.asEvidence, ResourceRef.asEvidence]
  generalize Value.record action.exposure.asEvidence = exposed at exposure
  generalize Value.record (dictOf action.parameters) = parameters
  simp [exposure]

theorem AuthorizationDecision.isCanonical_asEvidence {decision : AuthorizationDecision}
    (unconditional : decision.obligations = []) :
    (Value.record decision.asEvidence).isCanonical = true := by
  rw [isCanonical_record, AuthorizationDecision.asEvidence, unconditional,
    List.forall_mem_append, List.forall_mem_append]
  refine ⟨⟨?_, ?_⟩, ?_⟩
  · simp only [List.forall_mem_cons, isCanonical_str, isCanonical_list, isCanonical_ofOptionStr,
      List.forall_mem_map, List.map_nil, List.not_mem_nil, false_implies, implies_true, and_self]
  · intro entry member
    obtain ⟨approvalId, -, rfl⟩ := List.mem_map.mp member
    rfl
  · intro entry member
    obtain ⟨state, -, rfl⟩ := List.mem_map.mp member
    rfl

theorem RiskScore.isCanonical_asEvidence {risk : RiskScore} (factors : risk.inputs.factors = [])
    (context : risk.inputs.context = []) :
    (Value.record risk.asEvidence).isCanonical = true := by
  have exposure := isCanonical_exposure risk.inputs.exposure
  have inputs : (Value.record risk.inputs.asEvidence).isCanonical = true := by
    rw [isCanonical_record, RiskInputs.asEvidence, factors, context]
    generalize Value.record risk.inputs.exposure.asEvidence = exposed at exposure
    simp [exposure, dictOf]
  rw [isCanonical_record, RiskScore.asEvidence]
  generalize Value.record risk.inputs.asEvidence = evaluated at inputs
  simp [inputs, Value.isCanonical]

theorem IntentRecord.isCanonical_asEvidence {record : IntentRecord} :
    (Value.record record.asEvidence).isCanonical = true ↔
      (Value.record record.principal.asEvidence).isCanonical = true ∧
      (Value.record record.action.asEvidence).isCanonical = true ∧
      (Value.record record.decision.asEvidence).isCanonical = true ∧
      (Value.record record.risk.asEvidence).isCanonical = true ∧
      (∀ verdict ∈ record.limits, (Value.record verdict.asEvidence).isCanonical = true) ∧
      (Value.record (dictOf record.attributes)).isCanonical = true := by
  have stages := isCanonical_stageOutcome
  have provenance := isCanonical_provenance record.provenance
  rw [isCanonical_record, IntentRecord.asEvidence]
  generalize Value.record record.principal.asEvidence = principal
  generalize Value.record record.action.asEvidence = action
  generalize Value.record record.decision.asEvidence = decision
  generalize Value.record record.risk.asEvidence = risk
  generalize Value.record (dictOf record.attributes) = attributes
  generalize Value.record record.provenance.asEvidence = origin at provenance
  simp only [List.forall_mem_cons, isCanonical_str, isCanonical_list, List.forall_mem_map, stages,
    provenance, isCanonical_ofOptionStr, isCanonical_ofRat, implies_true, true_and,
    List.not_mem_nil, false_implies, and_true]

end Records

end GlassBox
