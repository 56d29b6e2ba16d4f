import GlassBox.Domain.ChainPayload

/-!
# A runtime and a small domain

`plainRuntime` shows that the laws asked of a runtime can hold together.  The remaining definitions
are one agent, one action and one decision, from which concrete executions are built.
-/

namespace GlassBox

/-- Sign, numerator, `e` and denominator. -/
def plainReprChars (value : ℚ) : List Char :=
  ((if value.num < 0 then ['-'] else []) ++ Nat.toDigits 10 value.num.natAbs) ++
    'e' :: Nat.toDigits 10 value.den

private theorem minus_notMem_digits (number : Nat) : '-' ∉ Nat.toDigits 10 number :=
  fun member => absurd (isDigit_of_mem_toDigits_ten member) (by decide)

private theorem e_notMem_digits (number : Nat) : 'e' ∉ Nat.toDigits 10 number :=
  fun member => absurd (isDigit_of_mem_toDigits_ten member) (by decide)

private theorem num_eq_of_signed_digits {left right : Int}
    (same : (if left < 0 then ['-'] else []) ++ Nat.toDigits 10 left.natAbs =
      (if right < 0 then ['-'] else []) ++ Nat.toDigits 10 right.natAbs) : left = right := by
  by_cases left_neg : left < 0 <;> by_cases right_neg : right < 0 <;>
    simp only [left_neg, right_neg, if_true, if_false, List.nil_append, List.cons_append,
      List.cons.injEq, true_and] at same
  · have := toDigits_ten_injective same
    omega
  · exact absurd (same ▸ List.mem_cons_self) (minus_notMem_digits _)
  · exact absurd (same ▸ List.mem_cons_self) (minus_notMem_digits _)
  · have := toDigits_ten_injective same
    omega

theorem plainReprChars_injective : Function.Injective plainReprChars := by
  intro left right same
  have absent : ∀ value : ℚ,
      'e' ∉ (if value.num < 0 then ['-'] else []) ++ Nat.toDigits 10 value.num.natAbs := by
    intro value
    split <;> simp [e_notMem_digits]
  obtain ⟨numerators, denominators⟩ := append_mark_inj (absent left) (absent right) same
  exact Rat.ext (num_eq_of_signed_digits numerators) (toDigits_ten_injective denominators)

/-- A runtime with exact fractions, no patterns and a truncating digest. -/
@[reducible]
def plainRuntime : Runtime where
  reprFloat := fun value => String.ofList (plainReprChars value)
  reprFloat_injective := by
    intro left right same
    exact plainReprChars_injective (String.ofList_injective same)
  reprFloat_chars := by
    intro value char member
    rw [String.toList_ofList, plainReprChars] at member
    simp only [List.mem_append, List.mem_cons] at member
    rcases member with (sign | digit) | rfl | digit
    · split at sign
      · simp_all
      · simp at sign
    · exact mem_floatChars_of_isDigit (isDigit_of_mem_toDigits_ten digit)
    · decide
    · exact mem_floatChars_of_isDigit (isDigit_of_mem_toDigits_ten digit)
  reprFloat_not_int := by
    intro value
    exact ⟨'e', by simp [plainReprChars], by decide⟩
  floatOfText := fun _ => none
  reprStr := fun text => "'" ++ text ++ "'"
  sqrt := fun value => Nat.sqrt value.num.natAbs / Nat.sqrt value.den
  sqrt_nonneg := fun value => div_nonneg (Nat.cast_nonneg _) (Nat.cast_nonneg _)
  reSearch := fun _ _ => false
  fnmatchcase := fun name pattern => pattern == "*" || pattern == name
  sha256 := fun data => (data ++ List.replicate 32 0).take 32
  sha256_length := by
    intro data
    simp [List.length_take]

section Domain

/-- `"acme"`, the tenant of the sample. -/
def acme : Identifier := ⟨"acme", by decide⟩

namespace Sample

abbrev read : Identifier := ⟨"read", by decide⟩

abbrev pay : Identifier := ⟨"pay", by decide⟩

abbrev tool : Identifier := ⟨"tool", by decide⟩

abbrev account : Identifier := ⟨"account", by decide⟩

abbrev account42 : Identifier := ⟨"42", by decide⟩

abbrev key : Identifier := ⟨"key", by decide⟩

abbrev bundle : Identifier := ⟨"bundle", by decide⟩

abbrev model : Identifier := ⟨"model", by decide⟩

abbrev segment : Identifier := ⟨"segment", by decide⟩

abbrev segmentA : Identifier := ⟨"segment-a", by decide⟩

abbrev segmentB : Identifier := ⟨"segment-b", by decide⟩

abbrev decision : Identifier := ⟨"decision", by decide⟩

abbrev decision1 : Identifier := ⟨"decision-1", by decide⟩

abbrev decision2 : Identifier := ⟨"decision-2", by decide⟩

abbrev mac : Mac := ⟨List.replicate 32 0, by decide⟩

theorem lowest_le : (RiskLevel.lowerBound .low).val ≤ (RiskLevel.lowerBound .low).val := le_refl _

abbrev everything : Text := ⟨"*", by decide⟩

theorem executed_ne_failed : ExecutionStatus.executed ≠ .failed := by decide

theorem no_delays : (0 : ℚ) ≤ 0 ∧ (0 : ℚ) ≤ 0 := ⟨le_refl 0, le_refl 0⟩

theorem executed_unnamed : ExecutionStatus.executed = .failed → (none : Option Text).isSome := by
  intro failed
  cases failed

end Sample

/-- An agent whose credential is valid from the epoch to `maxTimestamp`. -/
def samplePrincipal : VerifiedPrincipal where
  agentRef := ⟨"agent", by decide⟩
  agentInstanceId := ⟨"agent-1", by decide⟩
  tenantId := acme
  credentialType := .oidc
  credentialId := ⟨"credential", by decide⟩
  issuedAt := Timestamp.epoch
  expiresAt := ⟨maxTimestamp, by decide +kernel⟩
  issued_before_expiry := by decide +kernel
  leaf_is_agent := by simp [DelegationChain.empty]
  root_is_delegator := by simp [DelegationChain.empty]

def sampleAction (name : Identifier) (consequence : ConsequenceClass) (monetary : Option Amount) :
    ProposedAction where
  action := name
  resource := { kind := Sample.account, id := Sample.account42, tenantId := acme }
  consequence := consequence
  exposure := { monetary }
  idempotencyKey := Sample.key

def zeroDigest : Sha256Hex :=
  ⟨"0000000000000000000000000000000000000000000000000000000000000000", by decide⟩

def sampleAllow : AuthorizationDecision :=
  .allow ⟨"matched", by decide⟩ Sample.bundle zeroDigest []

abbrev sampleScore (inputs : RiskInputs) : RiskScore where
  value := RiskLevel.lowerBound .low
  modelVersion := Sample.model
  inputs := inputs
  raw_le_value := Sample.lowest_le

def sampleRisk (action : ProposedAction) (now : Timestamp) : RiskScore :=
  sampleScore {
    consequence := action.consequence
    exposure := action.exposure
    evaluatedAt := now
    factors_nodup := by exact List.nodup_nil }

def sampleRecord (decisionId segmentId : Identifier) : IntentRecord where
  decisionId := decisionId
  segmentId := segmentId
  tenantId := acme
  createdAt := Timestamp.epoch
  principal := samplePrincipal
  action := sampleAction Sample.read .advisory none
  decision := sampleAllow
  risk := sampleRisk (sampleAction Sample.read .advisory none) Timestamp.epoch
  traceId := ⟨"trace", by decide⟩
  principal_tenant := rfl
  action_tenant := rfl

def sampleReceipt (decisionId segmentId : Identifier) : EvidenceReceipt where
  decisionId := decisionId
  segmentId := segmentId
  seq := 0
  recordHmac := Sample.mac
  signerKeyId := Sample.key
  persistedAt := Timestamp.epoch

def sampleOutcome (decisionId : Identifier) : OutcomeRecord where
  decisionId := decisionId
  outcome := {
    status := .executed, completedAt := Timestamp.epoch, failure_named := Sample.executed_unnamed }

end Domain

def sampleLimitKey : LimitKey where
  tenantId := acme
  scope := .agent
  subject := ⟨"agent", by decide⟩
  window := ⟨60, by decide, by decide⟩

end GlassBox
