import GlassBox.Domain.Sample

/-!
# The in-memory attestation provider

`InMemoryAttestationProvider` of `adapters/outbound/memory/catalogue.py`.  A fact is held under the
qualified name of its resource, which joins tenant, kind and id with slashes.
-/

namespace GlassBox

def ResourceRef.qualifiedName (resource : ResourceRef) : String :=
  resource.tenantId.val ++ "/" ++ resource.kind.val ++ "/" ++ resource.id.val

/-- Facts by tenant, resource and name. -/
structure InMemoryAttestationProvider where
  facts : String × String × String → Option Bool := fun _ => none
  available : Bool := true

/-- The arguments of a call of `record`. -/
structure AttestedFact where
  tenantId : String
  resource : ResourceRef
  name : String
  value : Bool

def AttestedFact.key (fact : AttestedFact) : String × String × String :=
  (fact.tenantId, fact.resource.qualifiedName, fact.name)

namespace InMemoryAttestationProvider

def record (provider : InMemoryAttestationProvider) (fact : AttestedFact) :
    InMemoryAttestationProvider :=
  { provider with facts := Function.update provider.facts fact.key (some fact.value) }

/-- `resolve`, which does not read the time. -/
def resolve (provider : InMemoryAttestationProvider) (tenantId : String) (resource : ResourceRef)
    (name : String) : Except PyError Bool :=
  let refused (message : String) : PyError :=
    { cls := .attestationUnavailableError, message, context := [("tenant_id", .str tenantId),
      ("resource", .str resource.qualifiedName), ("name", .str name)] }
  if provider.available then
    match provider.facts (tenantId, resource.qualifiedName, name) with
    | some value => .ok value
    | none => .error (refused "attestation was never recorded by the system of record")
  else .error (refused "attestation provider is unreachable")

/-- Recording a fact about the first resource anywhere in a sequence of calls changes no answer
about the second one. -/
def Isolated (resource other : ResourceRef) : Prop :=
  ∀ (provider : InMemoryAttestationProvider) (front back : List AttestedFact)
    (tenantId name : String) (value : Bool),
    ((front ++ ⟨tenantId, resource, name, value⟩ :: back).foldl record provider).resolve
        tenantId other name =
      ((front ++ back).foldl record provider).resolve tenantId other name

theorem resolve_foldl_record {tenantId name : String} {resource : ResourceRef}
    {left right : InMemoryAttestationProvider} (available : left.available = right.available)
    (same : left.facts (tenantId, resource.qualifiedName, name) =
      right.facts (tenantId, resource.qualifiedName, name)) (calls : List AttestedFact) :
    (calls.foldl record left).resolve tenantId resource name =
      (calls.foldl record right).resolve tenantId resource name := by
  induction calls generalizing left right with
  | nil =>
    unfold resolve
    rw [List.foldl_nil, List.foldl_nil, available, same]
  | cons call calls ih =>
    refine ih available ?_
    simp only [record, Function.update_apply, same]

/-- Attestations of two resources are isolated exactly when their qualified names differ. -/
theorem isolated_iff (resource other : ResourceRef) :
    Isolated resource other ↔ resource.qualifiedName ≠ other.qualifiedName := by
  constructor
  · intro isolated same
    have changed := isolated {} [] [] "" "" true
    simp [resolve, record, AttestedFact.key, same] at changed
  · intro apart provider front back tenantId name value
    rw [List.foldl_append, List.foldl_append]
    refine resolve_foldl_record ?_ ?_ back
    · rfl
    · exact Function.update_of_ne (by simp [AttestedFact.key, apart.symm]) _ _

/-- A fact about the resource `c` of the kind `a/b` answers for the resource `b/c` of the kind
`a`. -/
theorem other_resource_attested :
    let resource : ResourceRef := ⟨⟨"a/b", by decide⟩, ⟨"c", by decide⟩, acme⟩
    let other : ResourceRef := ⟨⟨"a", by decide⟩, ⟨"b/c", by decide⟩, acme⟩
    resource.kind ≠ other.kind ∧
      (resolve {} "acme" other "paid").toOption = none ∧
      (resolve (record {} ⟨"acme", resource, "paid", true⟩) "acme" other "paid").toOption =
        some true ∧ ¬ Isolated resource other := by
  refine ⟨by decide, by decide, by decide, fun isolated => ?_⟩
  exact (isolated_iff _ _).mp isolated (by decide)

end InMemoryAttestationProvider

end GlassBox
