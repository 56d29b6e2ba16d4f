import GlassBox.Domain.Serialization
import GlassBox.Foundation.Program

/-!
# Actions, resources, consequence and exposure

`domain/action.py`.  An action built from a tuple of pairs keeps those pairs unchecked, which is
why `parameters` may hold values that have no canonical form.
-/

namespace GlassBox

/-- Reversibility of an action's effect, from least to most severe. -/
inductive ConsequenceClass
  | advisory
  | reversible
  | compensable
  | irreversible
  deriving DecidableEq

namespace ConsequenceClass

def value : ConsequenceClass → String
  | advisory => "advisory"
  | reversible => "reversible"
  | compensable => "compensable"
  | irreversible => "irreversible"

def severity : ConsequenceClass → Nat
  | advisory => 0
  | reversible => 1
  | compensable => 2
  | irreversible => 3

/-- Only advice passes without a dependency. -/
def mayDegradeOnDependencyFailure (consequence : ConsequenceClass) : Bool :=
  consequence == .advisory

end ConsequenceClass

/-- How many principals or records a mistake would touch. -/
inductive BlastRadius
  | single
  | group
  | tenant
  | global
  deriving DecidableEq

namespace BlastRadius

def value : BlastRadius → String
  | single => "single"
  | group => "group"
  | tenant => "tenant"
  | global => "global"

def severity : BlastRadius → Nat
  | single => 0
  | group => 1
  | tenant => 2
  | global => 3

end BlastRadius

/-- A tenant-scoped reference to the thing an action operates on. -/
structure ResourceRef where
  kind : Identifier
  id : Identifier
  tenantId : Identifier
  deriving DecidableEq

namespace ResourceRef

def make (kind id tenantId : String) : Except PyError ResourceRef := do
  let kind ← requireIdentifier kind "kind"
  let id ← requireIdentifier id "id"
  let tenantId ← requireIdentifier tenantId "tenant_id"
  return { kind, id, tenantId }

/-- The resource fields recorded on the evidence row. -/
def asEvidence (resource : ResourceRef) : List (String × Value) :=
  [("resource_kind", .str resource.kind.val), ("resource_id", .str resource.id.val),
    ("tenant_id", .str resource.tenantId.val)]

end ResourceRef

/-- The magnitude at stake; an unknown magnitude is absent, not zero. -/
structure Exposure where
  blastRadius : BlastRadius := .single
  monetary : Option Amount := none
  records : Option Nat := none
  deriving DecidableEq

namespace Exposure

/-- Neither part may be negative. -/
def make [Runtime] (blastRadius : BlastRadius) (monetary : Option PyFloat) (records : Option Int) :
    Except PyError Exposure := do
  let monetary ← monetary.mapM fun value => do
    let number ← requireFinite value "monetary"
    requireNonNegative number "monetary"
  match records with
  | none => return { blastRadius, monetary }
  | some count =>
    if count < 0 then
      throw (.validation "records must not be negative" "records" [("value", .int count)])
    else return { blastRadius, monetary, records := some count.toNat }

theorem cls_of_make [Runtime] {radius : BlastRadius} {monetary : Option PyFloat}
    {records : Option Int} {error : PyError}
    (refused : make radius monetary records = .error error) :
    error.cls = .domainValidationError := by
  suffices raises : Except.Raises (·.cls = .domainValidationError) (make radius monetary records)
    from raises error refused
  refine .bind (.mapM fun _ => ?_) fun _ error refused => ?_
  · exact .bind (fun _ => cls_of_requireFinite) fun _ _ => cls_of_requireNonNegative
  · cases records with
    | none => cases refused
    | some count =>
      dsimp only at refused
      split at refused
      · cases refused
        rfl
      · cases refused

/-- Whether an exposure breaches `ceiling` on some dimension.  An unknown magnitude breaches any
ceiling that constrains it. -/
def exceeds (exposure ceiling : Exposure) : Bool :=
  ceiling.blastRadius.severity < exposure.blastRadius.severity ||
    (match ceiling.monetary with
      | none => false
      | some bound =>
        match exposure.monetary with
        | none => true
        | some amount => bound.val < amount.val) ||
    (match ceiling.records with
      | none => false
      | some bound =>
        match exposure.records with
        | none => true
        | some count => bound < count)

/-- The exposure fields recorded on the evidence row. -/
def asEvidence (exposure : Exposure) : List (String × Value) :=
  [("blast_radius", .str exposure.blastRadius.value),
    ("monetary", .ofOptionRat (exposure.monetary.map Subtype.val)),
    ("records", match exposure.records with
      | none => .none
      | some count => .ofNat count)]

end Exposure

def redactedParameterPlaceholder : String := "<redacted>"

/-- A concrete action, as understood by the control plane. -/
structure ProposedAction where
  action : Identifier
  resource : ResourceRef
  consequence : ConsequenceClass
  exposure : Exposure
  idempotencyKey : Identifier
  parameters : List (String × Value) := []

namespace ProposedAction

/-- `ProposedAction(…)` over a tuple of pairs, which is kept unchecked. -/
def make (action : String) (resource : ResourceRef) (consequence : ConsequenceClass)
    (exposure : Exposure) (idempotencyKey : String) (parameters : List (String × Value)) :
    Except PyError ProposedAction := do
  let action ← requireIdentifier action "action"
  let idempotencyKey ← requireIdentifier idempotencyKey "idempotency_key"
  return { action, resource, consequence, exposure, idempotencyKey, parameters }

theorem cls_of_make {action : String} {resource : ResourceRef} {consequence : ConsequenceClass}
    {exposure : Exposure} {idempotencyKey : String} {parameters : List (String × Value)}
    {error : PyError}
    (refused : make action resource consequence exposure idempotencyKey parameters = .error error) :
    error.cls = .domainValidationError := by
  refine Except.Raises.bind (fun _ => cls_of_requireIdentifier) (fun _ => ?_) _ refused
  exact .bind (fun _ => cls_of_requireIdentifier) fun _ => Except.raises_ok

/-- Tenant that owns the target resource. -/
def tenantId (action : ProposedAction) : Identifier := action.resource.tenantId

/-- The evidence-bound copy, with the values of the sensitive parameters replaced. -/
def withRedactedParameters (action : ProposedAction) (sensitiveFields : List String) :
    ProposedAction :=
  { action with
    parameters := action.parameters.map fun entry =>
      if entry.1 ∈ sensitiveFields then (entry.1, .str redactedParameterPlaceholder) else entry }

/-- The action fields recorded on the evidence row. -/
def asEvidence (action : ProposedAction) : List (String × Value) :=
  [("action", .str action.action.val)] ++ action.resource.asEvidence ++
    [("consequence_class", .str action.consequence.value),
      ("exposure", .record action.exposure.asEvidence),
      ("idempotency_key", .str action.idempotencyKey.val),
      ("parameters", .record (dictOf action.parameters))]

@[simp]
theorem withRedactedParameters_nil (action : ProposedAction) :
    action.withRedactedParameters [] = action := by
  simp [withRedactedParameters]

@[simp]
theorem tenantId_withRedactedParameters (action : ProposedAction) (sensitiveFields : List String) :
    (action.withRedactedParameters sensitiveFields).tenantId = action.tenantId := rfl

end ProposedAction

end GlassBox
