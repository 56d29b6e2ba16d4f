import GlassBox.Domain.Serialization
import GlassBox.Foundation.Program

/-!
# Limit and baseline keys and verdicts

`domain/limits.py` and the value types of `ports/baseline.py`.
-/

namespace GlassBox

open Except (bind_eq_ok_iff bind_eq_error_iff)

/-- A sliding time window, in whole seconds. -/
structure Window where
  seconds : Nat
  positive : 0 < seconds
  within_a_year : seconds ≤ 31536000
  deriving DecidableEq

namespace Window

/-- A positive length of a year at most. -/
def make (seconds : Int) : Except PyError Window :=
  if seconds ≤ 0 then
    .error (.validation "window length must be positive" "seconds" [("value", .int seconds)])
  else if bound : 0 < seconds.toNat ∧ seconds.toNat ≤ 31536000 then
    .ok ⟨seconds.toNat, bound.1, bound.2⟩
  else
    .error (.validation "window length must not exceed one year" "seconds"
      [("value", .int seconds)])

/-- Lower bound of the window ending at `now`. -/
def startOf (window : Window) (now : Timestamp) : ℚ := now.val - window.seconds

/-- Compact label used inside canonical keys. -/
def label (window : Window) : String := toString window.seconds ++ "s"

theorem bar_notMem_label (window : Window) : '|' ∉ window.label.toList := by
  have digits : (toString window.seconds).toList = Nat.toDigits 10 window.seconds :=
    Nat.toList_repr
  rw [label, String.toList_append, digits, List.mem_append]
  rintro (member | member)
  · exact absurd (isDigit_of_mem_toDigits_ten member) (by decide)
  · exact absurd member (by decide)

theorem label_injective : Function.Injective label := by
  intro left right same
  have digits := congrArg String.toList same
  rw [label, label, String.toList_append, String.toList_append] at digits
  have printed : ∀ window : Window,
      (toString window.seconds).toList = Nat.toDigits 10 window.seconds := fun _ => Nat.toList_repr
  have seconds := List.append_cancel_right digits
  rw [printed, printed] at seconds
  cases left
  cases right
  cases toDigits_ten_injective seconds
  rfl

end Window

inductive LimitScope
  | agent
  | tenant
  | resource
  | delegatingSubject
  | global
  deriving DecidableEq

/-- The enumeration value used in keys and evidence. -/
def LimitScope.value : LimitScope → String
  | agent => "agent"
  | tenant => "tenant"
  | resource => "resource"
  | delegatingSubject => "delegating_subject"
  | global => "global"

/-- Identity of one counter in the limit store. -/
structure LimitKey where
  tenantId : Identifier
  scope : LimitScope
  subject : Identifier
  window : Window
  /-- The action name, or `none` for the wildcard `"*"`. -/
  action : Option Identifier := none
  deriving DecidableEq

namespace LimitKey

def actionText (key : LimitKey) : String := (key.action.map Subtype.val).getD "*"

/-- The stable string identity of this counter. -/
def canonicalKey (key : LimitKey) : String :=
  "|".intercalate ["glassbox", "limit", key.tenantId.val, key.scope.value, key.subject.val,
    key.actionText, key.window.label]

theorem bar_notMem_actionText (key : LimitKey) : '|' ∉ key.actionText.toList := by
  unfold actionText
  cases key.action with
  | none => decide
  | some action => exact Identifier.notMem (by decide) (by decide) action

theorem actionText_injective {left right : Option Identifier}
    (same : (left.map Subtype.val).getD "*" = (right.map Subtype.val).getD "*") : left = right := by
  have wildcard : ∀ action : Identifier, action.val ≠ "*" := by
    rintro ⟨text, valid⟩ rfl
    exact absurd valid (by decide)
  cases left with
  | none =>
    cases right with
    | none => rfl
    | some action => exact absurd same.symm (wildcard action)
  | some action =>
    cases right with
    | none => exact absurd same (wildcard action)
    | some other => exact congrArg some (Subtype.ext same)

theorem canonicalKey_injective : Function.Injective canonicalKey := by
  intro left right same
  have parts : ∀ key : LimitKey, key.canonicalKey.toList.splitOn '|' =
      ["glassbox", "limit", key.tenantId.val, key.scope.value, key.subject.val, key.actionText,
        key.window.label].map String.toList := by
    intro key
    rw [canonicalKey, String.toList_intercalate]
    refine List.splitOn_intercalate '|' ?_ (by simp)
    have scope : '|' ∉ key.scope.value.toList := by cases key.scope <;> decide
    have tenant := Identifier.notMem (by decide : isIdentifierChar '|' = false) (by decide)
      key.tenantId
    have subject := Identifier.notMem (by decide : isIdentifierChar '|' = false) (by decide)
      key.subject
    simpa using ⟨tenant, scope, subject, bar_notMem_actionText key,
      Window.bar_notMem_label key.window⟩
  have fields := (parts left).symm.trans
    ((congrArg (fun text => text.toList.splitOn '|') same).trans (parts right))
  simp only [List.map_cons, List.map_nil, List.cons.injEq, String.toList_inj, true_and,
    and_true] at fields
  obtain ⟨tenant, scope, subject, action, window⟩ := fields
  have scope_eq : left.scope = right.scope := by
    cases left_scope : left.scope <;> cases right_scope : right.scope <;>
      simp [left_scope, right_scope, LimitScope.value] at scope ⊢
  obtain ⟨_, _, _, _, _⟩ := left
  obtain ⟨_, _, _, _, _⟩ := right
  cases Subtype.ext tenant
  cases scope_eq
  cases Subtype.ext subject
  cases Window.label_injective window
  cases actionText_injective action
  rfl

/-- `member_for`: the sorted-set member of one admission. -/
def memberFor [Runtime] (decisionId : String) (now : ℚ) : Except PyError String := do
  let _ ← requireIdentifier decisionId "decision_id"
  let moment ← requireTimestamp now "now"
  return Runtime.reprFloat moment.val ++ ":" ++ decisionId

variable {decisionId : String} {now : ℚ}

/-- Only identifiers at supported times have a member. -/
theorem memberFor_eq_ok_iff [Runtime] {member : String} :
    memberFor decisionId now = .ok member ↔
      isIdentifier decisionId = true ∧ (0 ≤ now ∧ now ≤ maxTimestamp) ∧
        member = Runtime.reprFloat now ++ ":" ++ decisionId := by
  constructor
  · intro named
    obtain ⟨identifier, identified, named⟩ := bind_eq_ok_iff.mp named
    obtain ⟨moment, stamped, named⟩ := bind_eq_ok_iff.mp named
    cases named
    rw [← requireIdentifier_eq_ok_iff.mp identified, ← requireTimestamp_eq_ok_iff.mp stamped]
    exact ⟨identifier.property, moment.property, rfl⟩
  · rintro ⟨identified, stamped, rfl⟩
    have first : requireIdentifier decisionId "decision_id" = .ok ⟨decisionId, identified⟩ :=
      requireIdentifier_eq_ok_iff.mpr rfl
    have second : requireTimestamp now "now" = .ok ⟨now, stamped⟩ :=
      requireTimestamp_eq_ok_iff.mpr rfl
    unfold memberFor
    rw [first, second]
    rfl

theorem cls_of_memberFor [Runtime] {error : PyError}
    (unnamed : memberFor decisionId now = .error error) : error.cls = .domainValidationError := by
  refine Except.Raises.bind (fun _ => cls_of_requireIdentifier) (fun _ => ?_) _ unnamed
  exact .bind (fun _ => cls_of_requireTimestamp) fun _ => Except.raises_ok

theorem member_injective [Runtime] {moment moment' : ℚ} {decisionId' : String}
    (same : Runtime.reprFloat moment ++ ":" ++ decisionId =
      Runtime.reprFloat moment' ++ ":" ++ decisionId') :
    moment = moment' ∧ decisionId = decisionId' := by
  have colon : ∀ value, ':' ∉ (Runtime.reprFloat value).toList :=
    fun value member => absurd (Runtime.reprFloat_chars value ':' member) (by decide)
  have chars := congrArg String.toList same
  simp only [String.toList_append, List.append_assoc] at chars
  obtain ⟨moment_eq, id_eq⟩ := append_mark_inj (colon moment) (colon moment') chars
  exact ⟨Runtime.reprFloat_injective (String.toList_inj.mp moment_eq), String.toList_inj.mp id_eq⟩

def asEvidence (key : LimitKey) : List (String × Value) :=
  [("tenant_id", .str key.tenantId.val), ("scope", .str key.scope.value),
    ("subject", .str key.subject.val), ("action", .str key.actionText),
    ("window_seconds", .ofNat key.window.seconds), ("key", .str key.canonicalKey)]

end LimitKey

/-- The atomic result of a check-and-consume against one counter. -/
structure LimitVerdict where
  admitted : Bool
  key : LimitKey
  limit : Amount
  observed : Amount
  evaluatedAt : Timestamp
  retryAfterS : Option Amount := none
  cooldownUntil : Option Timestamp := none
  /-- An admitted verdict does not report consumption above the limit. -/
  admitted_within : admitted = true → observed.val ≤ limit.val

namespace LimitVerdict

/-- `LimitVerdict(…)`; `retry` holds `retry_after_s` and `cooldown_until`. -/
def make (admitted : Bool) (key : LimitKey) (limit observed evaluatedAt : ℚ)
    (retry : Option (ℚ × ℚ)) : Except PyError LimitVerdict := do
  let limit ← requireNonNegative limit "limit"
  let observed ← requireNonNegative observed "observed"
  let evaluatedAt ← requireTimestamp evaluatedAt "evaluated_at"
  let retryAfterS ← retry.mapM fun pair => requireNonNegative pair.1 "retry_after_s"
  let cooldownUntil ← retry.mapM fun pair => requireTimestamp pair.2 "cooldown_until"
  if admitted_within : admitted = true → observed.val ≤ limit.val then
    return {
      admitted := admitted
      key := key
      limit := limit
      observed := observed
      evaluatedAt := evaluatedAt
      retryAfterS := retryAfterS
      cooldownUntil := cooldownUntil
      admitted_within := admitted_within }
  else
    throw (.validation "an admitted verdict cannot report consumption above the limit" "observed"
      [("observed", .ofRat observed.val), ("limit", .ofRat limit.val)])

variable {key : LimitKey} {limit observed evaluatedAt : ℚ} {retry : Option (ℚ × ℚ)}
  {admitted : Bool} {verdict : LimitVerdict}

theorem of_make (made : make admitted key limit observed evaluatedAt retry = .ok verdict) :
    verdict.admitted = admitted ∧ verdict.cooldownUntil.map Subtype.val = retry.map Prod.snd := by
  obtain ⟨_, _, made⟩ := bind_eq_ok_iff.mp made
  obtain ⟨_, _, made⟩ := bind_eq_ok_iff.mp made
  obtain ⟨_, _, made⟩ := bind_eq_ok_iff.mp made
  obtain ⟨_, _, made⟩ := bind_eq_ok_iff.mp made
  obtain ⟨cooldownUntil, stamped, made⟩ := bind_eq_ok_iff.mp made
  split at made
  · cases made
    refine ⟨rfl, ?_⟩
    cases retry with
    | none =>
      cases stamped
      rfl
    | some pair =>
      obtain ⟨bound, within, returned⟩ := bind_eq_ok_iff.mp stamped
      cases returned
      exact congrArg some (requireTimestamp_eq_ok_iff.mp within)
  · cases made

/-- An admitted verdict reports what is within the limit. -/
theorem within_of_make (made : make true key limit observed evaluatedAt retry = .ok verdict) :
    0 ≤ observed ∧ observed ≤ limit := by
  obtain ⟨bound, limited, made⟩ := bind_eq_ok_iff.mp made
  obtain ⟨seen, counted, made⟩ := bind_eq_ok_iff.mp made
  obtain ⟨_, _, made⟩ := bind_eq_ok_iff.mp made
  obtain ⟨_, _, made⟩ := bind_eq_ok_iff.mp made
  obtain ⟨_, _, made⟩ := bind_eq_ok_iff.mp made
  rw [← requireNonNegative_eq_ok_iff.mp limited, ← requireNonNegative_eq_ok_iff.mp counted]
  refine ⟨seen.property, ?_⟩
  split at made
  next within => exact within rfl
  next => cases made

theorem cls_of_make {error : PyError}
    (refused : make admitted key limit observed evaluatedAt retry = .error error) :
    error.cls = .domainValidationError := by
  refine Except.Raises.bind (fun _ => cls_of_requireNonNegative) (fun _ => ?_) _ refused
  refine .bind (fun _ => cls_of_requireNonNegative) fun _ => ?_
  refine .bind (fun _ => cls_of_requireTimestamp) fun _ => ?_
  refine .bind (.mapM fun _ _ => cls_of_requireNonNegative) fun _ => ?_
  refine .bind (.mapM fun _ _ => cls_of_requireTimestamp) fun _ error refused => ?_
  split at refused
  · cases refused
  · cases refused
    rfl

theorem exists_make {admitted : Bool} {key : LimitKey} {limit observed evaluatedAt : ℚ}
    {retry : Option (ℚ × ℚ)} (limit_nonneg : 0 ≤ limit) (observed_nonneg : 0 ≤ observed)
    (evaluated : 0 ≤ evaluatedAt ∧ evaluatedAt ≤ maxTimestamp)
    (retried : ∀ pair ∈ retry, 0 ≤ pair.1 ∧ 0 ≤ pair.2 ∧ pair.2 ≤ maxTimestamp)
    (within : admitted = true → observed ≤ limit) :
    ∃ verdict, make admitted key limit observed evaluatedAt retry = .ok verdict := by
  unfold make
  have stamped : requireTimestamp evaluatedAt "evaluated_at" = .ok ⟨evaluatedAt, evaluated⟩ :=
    requireTimestamp_eq_ok_iff.mpr rfl
  rw [requireNonNegative, dif_pos limit_nonneg, requireNonNegative, dif_pos observed_nonneg,
    stamped]
  cases retry with
  | none => exact ⟨_, dif_pos within⟩
  | some pair =>
    obtain ⟨wait, bound⟩ := retried pair rfl
    have cooldown : requireTimestamp pair.2 "cooldown_until" = .ok ⟨pair.2, bound⟩ :=
      requireTimestamp_eq_ok_iff.mpr rfl
    simp only [Option.mapM_some, requireNonNegative, dif_pos wait, cooldown]
    exact ⟨_, dif_pos within⟩

/-- The `limits_verdict` payload. -/
def asEvidence (verdict : LimitVerdict) : List (String × Value) :=
  [("admitted", .bool verdict.admitted), ("key", .record verdict.key.asEvidence),
    ("limit", .ofRat verdict.limit.val), ("observed", .ofRat verdict.observed.val),
    ("remaining", .ofRat (max 0 (verdict.limit.val - verdict.observed.val))),
    ("evaluated_at", .ofRat verdict.evaluatedAt.val),
    ("retry_after_s", .ofOptionRat (verdict.retryAfterS.map Subtype.val)),
    ("cooldown_until", .ofOptionRat (verdict.cooldownUntil.map Subtype.val))]

end LimitVerdict

inductive BaselineScope
  | agent
  | peerGroup
  | tenant
  deriving DecidableEq

/-- The enumeration value used in keys. -/
def BaselineScope.value : BaselineScope → String
  | agent => "agent"
  | peerGroup => "peer_group"
  | tenant => "tenant"

/-- Identity of one behavioural distribution. -/
structure BaselineKey where
  tenantId : Identifier
  scope : BaselineScope
  subject : Identifier
  metric : Identifier
  window : Window
  deriving DecidableEq

namespace BaselineKey

/-- The stable string identity of this distribution. -/
def canonicalKey (key : BaselineKey) : String :=
  "|".intercalate ["glassbox", "baseline", key.tenantId.val, key.scope.value, key.subject.val,
    key.metric.val, key.window.label]

/-- The peer-group key used when a subject has too little history. -/
def peerGroupFallback (key : BaselineKey) (peerGroup : Identifier) : BaselineKey :=
  { key with scope := .peerGroup, subject := peerGroup }

end BaselineKey

/-- The result of comparing an observation against a baseline. -/
structure BaselineVerdict where
  anomalous : Bool
  key : BaselineKey
  observation : ℚ
  zScore : PyFloat
  threshold : ℚ
  sampleCount : Nat
  usedPeerPrior : Bool := false

end GlassBox
