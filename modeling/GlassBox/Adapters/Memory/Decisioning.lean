import GlassBox.Domain.Risk
import GlassBox.Foundation.Program

/-!
# The reference risk engine

`adapters/outbound/memory/decisioning.py`: the highest factor, escalated by the number of further
elevated ones and raised to the floor of the consequence class.
-/

namespace GlassBox

open Except (bind_eq_ok_iff)

structure ReferenceRiskEngine where
  modelVersion : String := "reference-v0.1.0"
  /-- Points for each elevated factor beyond the highest. -/
  escalation : ℚ := 5
  escalationFloor : ℚ := 25
  available : Bool := true

namespace ReferenceRiskEngine

/-- The score of the factors before the consequence floor. -/
def rawScore (engine : ReferenceRiskEngine) (factors : List RiskFactor) : ℚ :=
  match (factors.map fun factor => factor.score.val).mergeSort fun left right => right ≤ left with
  | [] => 0
  | highest :: others =>
    min 100 (highest + others.countP (engine.escalationFloor ≤ ·) * engine.escalation)

/-- The raw score, raised to its floor. -/
def score (engine : ReferenceRiskEngine) (inputs : RiskInputs) : Except PyError RiskScore :=
  if engine.available then
    (RiskScore.make (engine.rawScore inputs.factors) engine.modelVersion inputs).map
      RiskScore.withConsequenceFloor
  else
    .error {
      cls := .riskModelUnavailableError
      message := "risk model is unavailable"
      context := [("model_version", .str engine.modelVersion)] }

variable {engine : ReferenceRiskEngine} {inputs : RiskInputs} {risk : RiskScore}

theorem score_eq_ok_iff : engine.score inputs = .ok risk ↔ engine.available = true ∧
    ∃ raw : Score, raw.val = engine.rawScore inputs.factors ∧
      ∃ version : Identifier, version.val = engine.modelVersion ∧
        RiskScore.withConsequenceFloor ⟨raw, version, inputs, raw, false, le_refl _⟩ = risk := by
  unfold score
  by_cases available : engine.available = true
  · rw [if_pos available, Except.map_eq_ok_iff]
    constructor
    · rintro ⟨_, made, rfl⟩
      obtain ⟨raw, raw_eq, made⟩ := bind_eq_ok_iff.mp made
      obtain ⟨version, named, made⟩ := bind_eq_ok_iff.mp made
      cases made
      exact ⟨available, raw, requireScore_eq_ok_iff.mp raw_eq, version,
        requireIdentifier_eq_ok_iff.mp named, rfl⟩
    · rintro ⟨-, raw, raw_eq, version, named, rfl⟩
      exact ⟨_, bind_eq_ok_iff.mpr ⟨raw, requireScore_eq_ok_iff.mpr raw_eq, bind_eq_ok_iff.mpr
        ⟨version, requireIdentifier_eq_ok_iff.mpr named, rfl⟩⟩, rfl⟩
  · simp [available]

theorem exists_score {inputs' : RiskInputs} (scored : engine.score inputs = .ok risk)
    (factors : inputs'.factors = inputs.factors)
    (consequence : inputs'.consequence = inputs.consequence) :
    ∃ risk', engine.score inputs' = .ok risk' ∧ risk'.value = risk.value ∧
      risk'.inputs = inputs' := by
  obtain ⟨available, raw, raw_eq, version, named, rfl⟩ := score_eq_ok_iff.mp scored
  refine ⟨_, score_eq_ok_iff.mpr ⟨available, raw, factors ▸ raw_eq, version, named, rfl⟩, ?_, ?_⟩
  · rw [RiskScore.value_withConsequenceFloor, RiskScore.value_withConsequenceFloor, consequence]
  · rw [RiskScore.inputs_withConsequenceFloor]

section Aggregation

variable {scores scores' : List ℚ} {factors factors' : List RiskFactor}

def peak (scores : List ℚ) : ℚ := scores.foldr max 0

theorem peak_le {bound : ℚ} (nonneg : 0 ≤ bound) (below : ∀ score ∈ scores, score ≤ bound) :
    peak scores ≤ bound := by
  induction scores with
  | nil => exact nonneg
  | cons score scores ih =>
    exact max_le (below score List.mem_cons_self) (ih fun _ member => below _ (.tail _ member))

theorem peak_nonneg : 0 ≤ peak scores := by
  induction scores with
  | nil => exact le_refl _
  | cons score scores ih => exact le_max_of_le_right ih

/-- Further scores and higher ones raise the peak and leave no fewer scores above a floor. -/
theorem peak_mono (riskier : scores.SublistForall₂ (· ≤ ·) scores') (floor : ℚ) :
    peak scores ≤ peak scores' ∧
      scores.countP (floor ≤ ·) ≤ scores'.countP (floor ≤ ·) := by
  induction riskier with
  | nil => exact ⟨peak_nonneg, Nat.zero_le _⟩
  | cons raised _ ih =>
    refine ⟨max_le_max raised ih.1, ?_⟩
    simp only [List.countP_cons, decide_eq_true_eq]
    refine add_le_add ih.2 ?_
    split_ifs with elevated remains
    · exact le_refl _
    · exact absurd (elevated.trans raised) remains
    · exact Nat.zero_le _
    · exact le_refl _
  | cons_right _ ih =>
    exact ⟨le_max_of_le_right ih.1, ih.2.trans (by simp [List.countP_cons])⟩

/-- The highest factor is elevated if any is, so it is the one that is not counted. -/
theorem rawScore_eq : engine.rawScore factors =
    let scores := factors.map fun factor => factor.score.val
    min 100 (peak scores +
      (scores.countP (engine.escalationFloor ≤ ·) - 1 : ℕ) * engine.escalation) := by
  dsimp only
  unfold rawScore
  have nonneg : ∀ score ∈ factors.map fun factor => factor.score.val, 0 ≤ score := by
    simpa using fun factor _ => factor.score.property.1
  have permuted := List.mergeSort_perm (factors.map fun factor => factor.score.val)
    fun left right => decide (right ≤ left)
  have sorted := List.pairwise_mergeSort' (· ≥ ·) (factors.map fun factor => factor.score.val)
  rw [← permuted.countP_eq, peak, ← permuted.foldr_eq 0]
  generalize (factors.map fun factor => factor.score.val).mergeSort
    (fun left right => decide (right ≤ left)) = ordered at *
  cases ordered with
  | nil => simp
  | cons highest others =>
    have below : ∀ score ∈ others, score ≤ highest := by
      simpa using (List.pairwise_cons.mp sorted).1
    have top : max highest (peak others) = highest :=
      max_eq_left (peak_le (nonneg highest (permuted.subset List.mem_cons_self)) below)
    dsimp only
    rw [List.foldr_cons, show others.foldr max 0 = peak others from rfl, top, List.countP_cons]
    split
    next => rw [Nat.add_sub_cancel]
    next short =>
      have none : others.countP (engine.escalationFloor ≤ ·) = 0 := by
        rw [List.countP_eq_zero]
        intro score member elevated
        exact short (by simpa using le_trans (by simpa using elevated) (below score member))
      rw [none]

theorem rawScore_mono (nonneg : 0 ≤ engine.escalation)
    (riskier : (factors.map fun factor => factor.score.val).SublistForall₂ (· ≤ ·)
      (factors'.map fun factor => factor.score.val)) :
    engine.rawScore factors ≤ engine.rawScore factors' := by
  obtain ⟨higher, more⟩ := peak_mono riskier engine.escalationFloor
  rw [rawScore_eq, rawScore_eq]
  refine min_le_min_left _ (add_le_add higher (mul_le_mul_of_nonneg_right ?_ nonneg))
  exact_mod_cast Nat.sub_le_sub_right more 1

theorem rawScore_perm (permuted : factors.Perm factors') :
    engine.rawScore factors = engine.rawScore factors' := by
  have scores := permuted.map fun factor => factor.score.val
  simp only [rawScore_eq, peak, scores.foldr_eq, scores.countP_eq]

theorem rawScore_mem (nonneg : 0 ≤ engine.escalation) :
    0 ≤ engine.rawScore factors ∧ engine.rawScore factors ≤ 100 := by
  rw [rawScore_eq]
  refine ⟨le_min (by norm_num) (add_nonneg peak_nonneg ?_), min_le_left _ _⟩
  exact mul_nonneg (Nat.cast_nonneg _) nonneg

end Aggregation

theorem value_of_score (scored : engine.score inputs = .ok risk) : risk.value.val =
    max (engine.rawScore inputs.factors) (consequenceFloor inputs.consequence).lowerBound.val := by
  obtain ⟨-, raw, raw_eq, version, -, rfl⟩ := score_eq_ok_iff.mp scored
  rw [RiskScore.value_withConsequenceFloor, ← raw_eq]
  split
  next reached => exact (max_eq_left reached).symm
  next below => exact (max_eq_right (not_le.mp below).le).symm

/-- A score is on the scale and at its floor, does not depend on the order of the factors, and does
not decrease when factors are added, their scores raised or the consequence class raised. -/
theorem score_lawful (nonneg : 0 ≤ engine.escalation) (available : engine.available = true)
    (version : Identifier) (named : version.val = engine.modelVersion) (inputs : RiskInputs) :
    ∃ risk, engine.score inputs = .ok risk ∧ 0 ≤ risk.value.val ∧ risk.value.val ≤ 100 ∧
      (consequenceFloor inputs.consequence).severity ≤ risk.level.severity ∧
      risk.withConsequenceFloor = risk ∧
      ∀ inputs' risk', engine.score inputs' = .ok risk' →
        (inputs.factors.Perm inputs'.factors → inputs'.consequence = inputs.consequence →
          risk'.value = risk.value) ∧
        ((inputs.factors.map fun factor => factor.score.val).SublistForall₂ (· ≤ ·)
            (inputs'.factors.map fun factor => factor.score.val) →
          inputs.consequence.severity ≤ inputs'.consequence.severity →
          risk.value.val ≤ risk'.value.val) := by
  obtain ⟨risk, scored⟩ : ∃ risk, engine.score inputs = .ok risk :=
    ⟨_, score_eq_ok_iff.mpr ⟨available, ⟨_, rawScore_mem nonneg⟩, rfl, version, named, rfl⟩⟩
  have value_eq := value_of_score scored
  refine ⟨risk, scored, risk.value.property.1, risk.value.property.2, ?_, ?_, ?_⟩
  · exact RiskLevel.severity_le_fromScore (value_eq ▸ le_max_right _ _)
  · obtain ⟨-, _, -, _, -, rfl⟩ := score_eq_ok_iff.mp scored
    exact RiskScore.withConsequenceFloor_withConsequenceFloor _
  · intro inputs' risk' scored'
    have value_eq' := value_of_score scored'
    refine ⟨fun permuted same => Subtype.ext ?_, fun riskier graver => ?_⟩
    · rw [value_eq, value_eq', rawScore_perm permuted, same]
    · rw [value_eq, value_eq']
      exact max_le_max (rawScore_mono nonneg riskier) (lowerBound_consequenceFloor_mono graver)

def sampleFactor (name : Identifier) (score : Score) : RiskFactor :=
  { name, score, rationale := ⟨"observed", by decide⟩ }

/-- One factor is raised and another one added, for a graver action. -/
theorem score_lawful_raised :
    let amount (score : Score) := sampleFactor ⟨"amount", by decide⟩ score
    let novelty := sampleFactor ⟨"novelty", by decide⟩ ⟨10, by norm_num⟩
    let velocity := sampleFactor ⟨"velocity", by decide⟩ ⟨40, by norm_num⟩
    let inputs : RiskInputs := ⟨.compensable, {}, Timestamp.epoch,
      [amount ⟨20, by norm_num⟩, velocity], [], by decide⟩
    let raised : RiskInputs := ⟨.irreversible, {}, Timestamp.epoch,
      [amount ⟨60, by norm_num⟩, novelty, velocity], [], by decide⟩
    ∃ risk risk', score {} inputs = .ok risk ∧ score {} raised = .ok risk' ∧
      RiskLevel.medium.severity ≤ risk.level.severity ∧ risk.value.val ≤ risk'.value.val := by
  intro amount novelty velocity inputs raised
  have lawful := @score_lawful {} (by norm_num) rfl ⟨"reference-v0.1.0", by decide⟩ rfl
  obtain ⟨risk, scored, -, -, floored, -, monotone⟩ := lawful inputs
  obtain ⟨risk', scored', -⟩ := lawful raised
  refine ⟨risk, risk', scored, scored', floored, (monotone raised risk' scored').2 ?_ (by decide)⟩
  refine .cons (?_ : (20 : ℚ) ≤ 60) (.cons_right (.cons (le_refl (40 : ℚ)) .nil))
  norm_num

end ReferenceRiskEngine

end GlassBox
