import GlassBox.Domain.Action

/-!
# Risk inputs and scores

`domain/risk.py`: one banding table, and a floor under the score given by the consequence class.
-/

namespace GlassBox

inductive RiskLevel
  | low
  | medium
  | high
  | critical
  deriving DecidableEq

abbrev Score := { value : ℚ // 0 ≤ value ∧ value ≤ 100 }

/-- `_require_score` of a finite number. -/
def requireScore (value : ℚ) (field : String) : Except PyError Score :=
  if valid : 0 ≤ value ∧ value ≤ 100 then .ok ⟨value, valid⟩
  else
    .error (.validation "score is outside the 0-100 scale" field
      [("value", .ofRat value), ("minimum", .ofRat 0), ("maximum", .ofRat 100)])

theorem requireScore_eq_ok_iff {value : ℚ} {field : String} {score : Score} :
    requireScore value field = .ok score ↔ score.val = value := by
  unfold requireScore
  split
  next => simp [Subtype.ext_iff, eq_comm]
  next invalid =>
    refine iff_of_false (by simp) ?_
    rintro rfl
    exact invalid score.property

namespace RiskLevel

def value : RiskLevel → String
  | low => "low"
  | medium => "medium"
  | high => "high"
  | critical => "critical"

def severity : RiskLevel → Nat
  | low => 0
  | medium => 1
  | high => 2
  | critical => 3

/-- The inclusive lower bound of a band in `RISK_BANDS`. -/
def lowerBound : RiskLevel → Score
  | low => ⟨0, by norm_num⟩
  | medium => ⟨25, by norm_num⟩
  | high => ⟨50, by norm_num⟩
  | critical => ⟨75, by norm_num⟩

/-- `RISK_BANDS`, ascending. -/
def bands : List RiskLevel := [low, medium, high, critical]

/-- The last band the score reaches. -/
def fromScore (score : Score) : RiskLevel :=
  bands.foldl (fun selected level =>
    if level.lowerBound.val ≤ score.val then level else selected) low

theorem severity_le_fromScore {level : RiskLevel} {score : Score}
    (reached : level.lowerBound.val ≤ score.val) :
    level.severity ≤ (fromScore score).severity := by
  unfold fromScore bands
  simp only [List.foldl_cons, List.foldl_nil]
  cases level <;> split_ifs <;> first | contradiction | decide

end RiskLevel

/-- `CONSEQUENCE_FLOORS`. -/
def consequenceFloor : ConsequenceClass → RiskLevel
  | .advisory => .low
  | .reversible => .low
  | .compensable => .medium
  | .irreversible => .high

theorem lowerBound_consequenceFloor_mono {milder graver : ConsequenceClass}
    (graver_le : milder.severity ≤ graver.severity) :
    (consequenceFloor milder).lowerBound.val ≤ (consequenceFloor graver).lowerBound.val := by
  revert graver_le
  cases milder <;> cases graver <;> decide +kernel

/-- One named contribution to a risk score. -/
structure RiskFactor where
  name : Identifier
  score : Score
  rationale : Text
  detail : List (String × Value) := []

def RiskFactor.asEvidence (factor : RiskFactor) : List (String × Value) :=
  [("name", .str factor.name.val), ("score", .ofRat factor.score.val),
    ("level", .str (RiskLevel.fromScore factor.score).value),
    ("rationale", .str factor.rationale.val), ("detail", .record (dictOf factor.detail))]

structure RiskInputs where
  consequence : ConsequenceClass
  exposure : Exposure
  evaluatedAt : Timestamp
  factors : List RiskFactor := []
  context : List (String × Value) := []
  /-- No two factors share a name. -/
  factors_nodup : (factors.map RiskFactor.name).Nodup

/-- The `risk_inputs` payload. -/
def RiskInputs.asEvidence (inputs : RiskInputs) : List (String × Value) :=
  [("consequence_class", .str inputs.consequence.value),
    ("exposure", .record inputs.exposure.asEvidence),
    ("evaluated_at", .ofRat inputs.evaluatedAt.val),
    ("factors", .list (inputs.factors.map fun factor => .record factor.asEvidence)),
    ("context", .record (dictOf inputs.context))]

/-- The outcome of a risk evaluation, pinned to a model version. -/
structure RiskScore where
  value : Score
  modelVersion : Identifier
  inputs : RiskInputs
  rawValue : Score := value
  floorApplied : Bool := false
  /-- A floor may only raise a score. -/
  raw_le_value : rawValue.val ≤ value.val

namespace RiskScore

/-- `RiskScore(…)` without a raw value of its own. -/
def make (value : ℚ) (modelVersion : String) (inputs : RiskInputs) : Except PyError RiskScore := do
  let value ← requireScore value "value"
  let modelVersion ← requireIdentifier modelVersion "model_version"
  return { value, modelVersion, inputs, raw_le_value := le_refl _ }

def level (score : RiskScore) : RiskLevel := RiskLevel.fromScore score.value

/-- Raise a score to the minimum its consequence class permits. -/
def withConsequenceFloor (score : RiskScore) : RiskScore :=
  if reached : (consequenceFloor score.inputs.consequence).lowerBound.val ≤ score.value.val then
    score
  else
    { score with
      value := (consequenceFloor score.inputs.consequence).lowerBound
      floorApplied := true
      raw_le_value := score.raw_le_value.trans (le_of_lt (not_le.mp reached)) }

@[simp]
theorem inputs_withConsequenceFloor (score : RiskScore) :
    score.withConsequenceFloor.inputs = score.inputs := by
  unfold withConsequenceFloor
  split <;> rfl

theorem value_withConsequenceFloor (score : RiskScore) :
    score.withConsequenceFloor.value =
      if (consequenceFloor score.inputs.consequence).lowerBound.val ≤ score.value.val then
        score.value
      else (consequenceFloor score.inputs.consequence).lowerBound := by
  unfold withConsequenceFloor
  split <;> rfl

theorem withConsequenceFloor_withConsequenceFloor (score : RiskScore) :
    score.withConsequenceFloor.withConsequenceFloor = score.withConsequenceFloor := by
  refine dif_pos ?_
  rw [inputs_withConsequenceFloor, value_withConsequenceFloor]
  split
  next reached => exact reached
  next => exact le_refl _

/-- Whether the score's band is strictly above `threshold`. -/
def exceeds (score : RiskScore) (threshold : RiskLevel) : Bool :=
  threshold.severity < score.level.severity

/-- The risk fields recorded on the evidence row. -/
def asEvidence (score : RiskScore) : List (String × Value) :=
  [("risk_score", .ofRat score.value.val), ("risk_level", .str score.level.value),
    ("risk_raw_score", .ofRat score.rawValue.val),
    ("risk_raw_level", .str (RiskLevel.fromScore score.rawValue).value),
    ("risk_floor_applied", .bool score.floorApplied),
    ("risk_model_ver", .str score.modelVersion.val),
    ("risk_inputs", .record score.inputs.asEvidence)]

end RiskScore

end GlassBox
