import GlassBox.Domain.Action
import GlassBox.Foundation.Program

/-!
# Agent mandates

`domain/mandate.py`.  A mandate is a ceiling on what an agent may attempt.  Approvers, which
nothing here reads, are left out.
-/

namespace GlassBox

/-- Why a mandate refused an action. -/
inductive MandateDenialReason
  | notYetValid
  | expired
  | revoked
  | wrongTenant
  | actionNotGranted
  | resourceNotGranted
  | actionResourcePairNotGranted
  | consequenceExceedsCeiling
  | exposureExceedsCeiling
  | toolNotGranted
  | toolDefinitionChanged
  deriving DecidableEq

/-- The result of checking an action against a mandate. -/
structure MandateVerdict where
  permitted : Bool
  reasons : List MandateDenialReason := []
  detail : String := ""
  mandateVersion : Option Nat := none
  /-- A refusal, and only a refusal, states its reasons. -/
  reasons_iff : permitted = false ↔ reasons ≠ []

structure ActionResourceGrant where
  actionPattern : Text
  resourcePattern : Text

/-- Permission for an agent to invoke one tool at one definition. -/
structure ToolGrant where
  toolName : Identifier
  definitionSha256 : Sha256Hex
  maxConsequence : ConsequenceClass := .reversible
  requiresApproval : Bool := false

/-- The case of a digest does not matter. -/
def ToolGrant.matches (grant : ToolGrant) (toolName definitionSha256 : String) : Bool :=
  grant.toolName.val = toolName ∧ grant.definitionSha256.val = lowerText definitionSha256

/-- An agent's approved scope of authority. -/
structure Mandate where
  tenantId : Identifier
  agentRef : Identifier
  version : Nat
  maxConsequence : ConsequenceClass
  maxExposure : Exposure
  validFrom : Timestamp
  allowedActions : List Text := []
  allowedResources : List Text := []
  toolGrants : List ToolGrant := []
  validUntil : Option Timestamp := none
  revokedAt : Option Timestamp := none
  resourceScopedGrants : List ActionResourceGrant := []
  version_positive : 1 ≤ version
  from_before_until : ∀ moment ∈ validUntil, validFrom.val < moment.val
  grants_nodup : (toolGrants.map ToolGrant.toolName).Nodup

namespace Mandate

/-- From the moment of revocation on. -/
def isRevokedAt (mandate : Mandate) (moment : Timestamp) : Bool :=
  match mandate.revokedAt with
  | none => false
  | some revokedAt => revokedAt.val ≤ moment.val

/-- The reasons a mandate's period gives against an action. -/
def periodReasons (mandate : Mandate) (moment : Timestamp) : List MandateDenialReason :=
  if mandate.isRevokedAt moment then [.revoked]
  else if moment.val < mandate.validFrom.val then [.notYetValid]
  else if mandate.validUntil.any fun bound => bound.val ≤ moment.val then [.expired]
  else []

/-- `kind/id`, the name resource patterns are matched against. -/
def resourceName (action : ProposedAction) : String :=
  action.resource.kind.val ++ "/" ++ action.resource.id.val

section Permits

variable [Runtime]

/-- `_matches_any`: an empty set of patterns matches nothing. -/
def matchesAny (patterns : List Text) (name : String) : Bool :=
  patterns.any fun pattern => Runtime.fnmatchcase name pattern.val

/-- Every failing dimension, in the order the source checks them. -/
def denialReasons (mandate : Mandate) (action : ProposedAction) (moment : Timestamp) :
    List MandateDenialReason :=
  mandate.periodReasons moment ++
    (if action.tenantId ≠ mandate.tenantId then [.wrongTenant] else []) ++
    (if matchesAny mandate.allowedActions action.action.val then [] else [.actionNotGranted]) ++
    (if matchesAny mandate.allowedResources (resourceName action) then []
      else [.resourceNotGranted]) ++
    (if mandate.resourceScopedGrants.isEmpty || mandate.resourceScopedGrants.any fun grant =>
        Runtime.fnmatchcase action.action.val grant.actionPattern.val &&
          Runtime.fnmatchcase (resourceName action) grant.resourcePattern.val then []
      else [.actionResourcePairNotGranted]) ++
    (if mandate.maxConsequence.severity < action.consequence.severity then
      [.consequenceExceedsCeiling] else []) ++
    (if action.exposure.exceeds mandate.maxExposure then [.exposureExceedsCeiling] else [])

/-- Permitted if nothing speaks against it. -/
def permits (mandate : Mandate) (action : ProposedAction) (now : ℚ) :
    Except PyError MandateVerdict := do
  let moment ← requireTimestamp now "now"
  let reasons := mandate.denialReasons action moment
  return {
    permitted := reasons.isEmpty
    reasons := reasons
    detail :=
      if reasons.isEmpty then ""
      else "action=" ++ action.action.val ++ " resource=" ++ resourceName action ++
        " consequence=" ++ action.consequence.value
    mandateVersion := some mandate.version
    reasons_iff := by simp }

end Permits

def permit (mandate : Mandate) : MandateVerdict where
  permitted := true
  mandateVersion := some mandate.version
  reasons_iff := by simp

/-- `MandateVerdict.refuse` for one reason. -/
def refuse (mandate : Mandate) (reason : MandateDenialReason) (detail : String) :
    MandateVerdict where
  permitted := false
  reasons := [reason]
  detail := detail
  mandateVersion := some mandate.version
  reasons_iff := by simp

/-- `permits_tool`: an unknown tool, or one whose digest has changed, is refused. -/
def permitsTool (mandate : Mandate) (toolName definitionSha256 : String) :
    Except PyError MandateVerdict := do
  let _ ← requireIdentifier toolName "tool_name"
  let _ ← requireNonEmpty definitionSha256 "definition_sha256"
  let byName := mandate.toolGrants.filter fun grant => grant.toolName.val = toolName
  if byName.isEmpty then
    return mandate.refuse .toolNotGranted ("tool=" ++ toolName)
  else if byName.any fun grant => grant.matches toolName definitionSha256 then
    return mandate.permit
  else
    return mandate.refuse .toolDefinitionChanged
      ("tool=" ++ toolName ++ " presented_digest=" ++ lowerText definitionSha256)

/-- The first grant of the tool. -/
def toolGrant (mandate : Mandate) (toolName : String) : Option ToolGrant :=
  mandate.toolGrants.find? fun grant => grant.toolName.val = toolName

end Mandate

end GlassBox
