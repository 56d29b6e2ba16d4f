import GlassBox.Domain.CanonicalForm

/-!
# Policy bundles

`domain/policy_bundle.py`.  The first rule of a bundle which matches an action decides about it.  A
rule with a monetary ceiling matches only actions whose amount is known.  The analysis of
conflicting rules is left out.
-/

namespace GlassBox

inductive RuleEffect
  | allow
  | deny
  | requireApproval
  deriving DecidableEq

def RuleEffect.value : RuleEffect → String
  | allow => "allow"
  | deny => "deny"
  | requireApproval => "require_approval"

def maxRulesPerBundle : Nat := 10000

/-- One declarative condition-effect pair. -/
structure PolicyRule where
  name : Identifier
  effect : RuleEffect
  actionPattern : Text := ⟨"*", by decide⟩
  resourcePattern : Text := ⟨"*", by decide⟩
  /-- The rule applies up to this consequence class. -/
  maxConsequence : Option ConsequenceClass := none
  /-- The rule applies to a known amount up to this ceiling. -/
  maxMonetary : Option Amount := none
  /-- Lower values are evaluated first. -/
  priority : Int := 100
  rationale : String := ""

def PolicyRule.coversAmount (rule : PolicyRule) (monetary : Option Amount) : Bool :=
  match rule.maxMonetary with
  | none => true
  | some ceiling =>
    match monetary with
    | none => false
    | some amount => amount.val ≤ ceiling.val

/-- Both patterns fit, and both ceilings. -/
def PolicyRule.matches [Runtime] (rule : PolicyRule) (action : ProposedAction) : Bool :=
  Runtime.fnmatchcase action.action.val rule.actionPattern.val &&
    Runtime.fnmatchcase (action.resource.kind.val ++ "/" ++ action.resource.id.val)
      rule.resourcePattern.val &&
    (match rule.maxConsequence with
      | none => true
      | some ceiling => action.consequence.severity ≤ ceiling.severity) &&
    rule.coversAmount action.exposure.monetary

/-- The representation which is hashed and signed; it has no rationale. -/
def PolicyRule.asEvidence (rule : PolicyRule) : List (String × Value) :=
  [("name", .str rule.name.val), ("effect", .str rule.effect.value),
    ("action_pattern", .str rule.actionPattern.val),
    ("resource_pattern", .str rule.resourcePattern.val),
    ("max_consequence", .ofOptionStr (rule.maxConsequence.map ConsequenceClass.value)),
    ("max_monetary", .ofOptionRat (rule.maxMonetary.map Subtype.val)),
    ("priority", .int rule.priority)]

/-- A versioned set of policy rules. -/
structure PolicyBundle where
  bundleId : Identifier
  tenantId : Identifier
  version : Nat
  createdAt : Timestamp
  rules : List PolicyRule := []
  rules_length : rules.length ≤ maxRulesPerBundle
  names_nodup : (rules.map PolicyRule.name).Nodup
  /-- The rules stand in the order they are evaluated in. -/
  rules_sorted : rules.Pairwise fun earlier later => earlier.priority ≤ later.priority

namespace PolicyBundle

variable [Runtime]

/-- `matching_rule`: the first rule which matches. -/
def matchingRule (bundle : PolicyBundle) (action : ProposedAction) : Option PolicyRule :=
  bundle.rules.find? fun rule => rule.matches action

/-- `canonical_payload`: the bytes a signer must sign. -/
def canonicalPayload (bundle : PolicyBundle) : Except PyError ByteString :=
  canonicalBytes
    [("bundle_id", .str bundle.bundleId.val), ("tenant_id", .str bundle.tenantId.val),
      ("version", .ofNat bundle.version), ("created_at", .ofRat bundle.createdAt.val),
      ("rules", .list (bundle.rules.map fun rule => .record (dictOf rule.asEvidence)))]

def digest (bundle : PolicyBundle) : Except PyError Sha256Hex := do
  let payload ← bundle.canonicalPayload
  return sha256Hexdigest payload

end PolicyBundle

structure SignedPolicyBundle where
  bundle : PolicyBundle
  mac : Mac
  signerKeyId : Identifier

end GlassBox
