import GlassBox.Domain.Catalogue
import GlassBox.Domain.Sample
import GlassBox.Foundation.Runs

/-!
# The in-memory tool registry

`ToolRegistryBundle` of `domain/tool_registry.py` and `adapters/outbound/memory/tool_registry.py`.
The first digest seen for a tool is its approval, and another one quarantines it until an operator
approves.  The version and the digest of a bundle are left out.
-/

namespace GlassBox

/-- A set of governed tool definitions. -/
structure ToolRegistryBundle where
  bundleId : Identifier
  tenantId : Identifier
  definitions : List ToolDefinition := []
  names_nodup : (definitions.map ToolDefinition.toolName).Nodup

def ToolRegistryBundle.resolve (bundle : ToolRegistryBundle) (toolName : String) :
    Option ToolDefinition :=
  bundle.definitions.find? fun definition => definition.toolName.val = toolName

/-- Bundles, approvals and quarantine. -/
structure InMemoryToolRegistry where
  bundles : String → Option ToolRegistryBundle := fun _ => none
  available : Bool := true
  /-- The approved digest of a tenant's tool. -/
  approvedDigests : String × String → Option String := fun _ => none
  quarantined : String × String → Bool := fun _ => false

namespace InMemoryToolRegistry

/-- The loop body of `load_bundle`. -/
def register (tenantId : String) (registry : InMemoryToolRegistry) (definition : ToolDefinition) :
    InMemoryToolRegistry :=
  let key := (tenantId, definition.toolName.val)
  match registry.approvedDigests key with
  | none =>
    { registry with
      approvedDigests :=
        Function.update registry.approvedDigests key (some definition.definitionSha256.val) }
  | some previous =>
    if previous ≠ definition.definitionSha256.val then
      { registry with quarantined := Function.update registry.quarantined key true }
    else registry

/-- Registers each tool, then the bundle. -/
def loadBundle (bundle : ToolRegistryBundle) (registry : InMemoryToolRegistry) :
    InMemoryToolRegistry :=
  let registered := bundle.definitions.foldl (register bundle.tenantId.val) registry
  { registered with
    bundles := Function.update registered.bundles bundle.tenantId.val (some bundle) }

/-- Ends the quarantine at a digest. -/
def approve (tenantId toolName definitionSha256 : String) (registry : InMemoryToolRegistry) :
    InMemoryToolRegistry :=
  { registry with
    quarantined := Function.update registry.quarantined (tenantId, toolName) false
    approvedDigests := Function.update registry.approvedDigests (tenantId, toolName)
      (some (lowerText definitionSha256)) }

def activeBundle (registry : InMemoryToolRegistry) (tenantId : String) :
    Except PyError ToolRegistryBundle :=
  if registry.available = false then
    .error {
      cls := .toolRegistryUnavailableError
      message := "tool registry is unreachable"
      context := [("tenant_id", .str tenantId), ("adapter", .str "InMemoryToolRegistry")] }
  else
    match registry.bundles tenantId with
    | none =>
      .error {
        cls := .toolRegistryUnavailableError
        message := "no active tool registry bundle for tenant"
        context := [("tenant_id", .str tenantId), ("adapter", .str "InMemoryToolRegistry")] }
    | some bundle => .ok bundle

/-- A tool at the digest asked for, not in quarantine. -/
def resolve (registry : InMemoryToolRegistry) (tenantId toolName definitionSha256 : String) :
    Except PyError ToolDefinition := do
  let bundle ← registry.activeBundle tenantId
  if registry.quarantined (tenantId, toolName) then
    throw {
      cls := .toolQuarantinedError
      message := "tool definition changed and is pending re-approval"
      context := [("tenant_id", .str tenantId), ("tool_name", .str toolName)] }
  else
    match bundle.resolve toolName with
    | none =>
      throw {
        cls := .toolNotGovernedError
        message := "tool is not in the governed registry"
        context := [("tenant_id", .str tenantId), ("tool_name", .str toolName),
          ("bundle_id", .str bundle.bundleId.val)] }
    | some definition =>
      if definition.definitionSha256.val ≠ lowerText definitionSha256 then
        throw {
          cls := .toolNotGovernedError
          message := "tool definition digest does not match the registered one"
          context := [("tenant_id", .str tenantId), ("tool_name", .str toolName),
            ("registered_digest", .str definition.definitionSha256.val),
            ("presented_digest", .str (lowerText definitionSha256))] }
      else return definition

variable {registry : InMemoryToolRegistry} {tenantId toolName : String}
  {definition : ToolDefinition} {key : String × String}

theorem resolve_eq_ok {definitionSha256 : String}
    (resolved : registry.resolve tenantId toolName definitionSha256 = .ok definition) :
    registry.quarantined (tenantId, toolName) = false ∧
    ∃ bundle, registry.bundles tenantId = some bundle ∧
      bundle.resolve toolName = some definition := by
  obtain ⟨bundle, active, resolved⟩ := Except.bind_eq_ok_iff.mp resolved
  have loaded : registry.bundles tenantId = some bundle := by
    unfold activeBundle at active
    split at active
    · cases active
    · split at active
      · cases active
      · rename_i found
        cases active
        exact found
  split at resolved
  · cases resolved
  · rename_i free
    split at resolved
    · cases resolved
    · rename_i registered
      split at resolved
      · cases resolved
      · cases resolved
        exact ⟨by simpa using free, bundle, loaded, registered⟩

inductive Operation
  | loadBundle (bundle : ToolRegistryBundle)
  | approve (tenantId toolName definitionSha256 : String)

def Operation.step : Operation → InMemoryToolRegistry → InMemoryToolRegistry
  | .loadBundle bundle => InMemoryToolRegistry.loadBundle bundle
  | .approve tenantId toolName definitionSha256 =>
    InMemoryToolRegistry.approve tenantId toolName definitionSha256

/-- What an operation makes of the approval of a tool: the first digest loaded counts as approved,
and from then on only an approval changes it. -/
def Operation.approval (tenantId toolName : String) (previous : Option String) :
    Operation → Option String
  | .loadBundle bundle =>
    if bundle.tenantId.val = tenantId then
      previous.or ((bundle.resolve toolName).map fun definition =>
        definition.definitionSha256.val)
    else previous
  | .approve tenant tool definitionSha256 =>
    if (tenant, tool) = (tenantId, toolName) then some (lowerText definitionSha256) else previous

open Operation (step)

def approvedDigest (tenantId toolName : String) (operations : List Operation) : Option String :=
  operations.foldl (Operation.approval tenantId toolName) none

/-- A tool is only approved at the digest the active bundle gives it, if it gives it one. -/
def Operation.ApprovesLoaded : Operation → InMemoryToolRegistry → Prop
  | .loadBundle _, _ => True
  | .approve tenantId toolName definitionSha256, registry =>
    ∀ bundle ∈ registry.bundles tenantId, ∀ definition ∈ bundle.resolve toolName,
      definition.definitionSha256.val = lowerText definitionSha256

theorem register_bundles (tenantId : String) (registry : InMemoryToolRegistry)
    (definition : ToolDefinition) :
    (register tenantId registry definition).bundles = registry.bundles := by
  simp only [register]
  split
  · rfl
  · split
    · rfl
    · rfl

theorem register_of_ne (other : key ≠ (tenantId, definition.toolName.val))
    (registry : InMemoryToolRegistry) :
    (register tenantId registry definition).approvedDigests key = registry.approvedDigests key ∧
    (register tenantId registry definition).quarantined key = registry.quarantined key := by
  simp only [register]
  split
  · exact ⟨Function.update_of_ne other .., rfl⟩
  · split
    · exact ⟨rfl, Function.update_of_ne other ..⟩
    · exact ⟨rfl, rfl⟩

theorem register_self (tenantId : String) (definition : ToolDefinition)
    (registry : InMemoryToolRegistry) :
    let key := (tenantId, definition.toolName.val)
    let after := register tenantId registry definition
    after.approvedDigests key =
      (registry.approvedDigests key).or (some definition.definitionSha256.val) ∧
    (after.quarantined key = false → registry.quarantined key = false ∧
      after.approvedDigests key = some definition.definitionSha256.val) := by
  simp only [register]
  cases approved : registry.approvedDigests (tenantId, definition.toolName.val) with
  | none => exact ⟨Function.update_self .., fun free => ⟨free, Function.update_self ..⟩⟩
  | some previous =>
    by_cases same : previous = definition.definitionSha256.val
    · subst same
      simp [approved]
    · simp [same, approved]

/-- What the loop of `load_bundle` does to one tool. -/
theorem foldl_register (tenantId toolName : String) {definitions : List ToolDefinition}
    (distinct : (definitions.map ToolDefinition.toolName).Nodup) (registry : InMemoryToolRegistry) :
    let key := (tenantId, toolName)
    let found := definitions.find? fun definition => definition.toolName.val = toolName
    let after := definitions.foldl (register tenantId) registry
    after.approvedDigests key = (registry.approvedDigests key).or
      (found.map fun definition => definition.definitionSha256.val) ∧
    (after.quarantined key = false → registry.quarantined key = false ∧
      ∀ definition ∈ found, after.approvedDigests key = some definition.definitionSha256.val) := by
  induction definitions generalizing registry with
  | nil => simp
  | cons definition definitions ih =>
    rw [List.map_cons, List.nodup_cons] at distinct
    obtain ⟨approved, spared⟩ := ih distinct.2 (register tenantId registry definition)
    by_cases same : definition.toolName.val = toolName
    · subst same
      have absent : definitions.find? (fun other =>
          decide (other.toolName.val = definition.toolName.val)) = none := by
        rw [List.find?_eq_none]
        intro other member
        have unequal : other.toolName ≠ definition.toolName := fun equal =>
          distinct.1 (equal ▸ List.mem_map_of_mem member)
        simpa using fun equal => unequal (Subtype.ext equal)
      obtain ⟨registered, approves⟩ := register_self tenantId definition registry
      simp only [absent, Option.map_none, Option.or_none, Option.mem_def, reduceCtorEq,
        false_implies, implies_true, and_true, registered] at approved spared
      simp only [List.find?_cons, decide_true, Option.mem_def, Option.some.injEq, forall_eq']
      refine ⟨approved, fun free => ?_⟩
      obtain ⟨free_before, digest_eq⟩ := approves (spared free)
      exact ⟨free_before, approved.trans (registered.symm.trans digest_eq)⟩
    · have other : (tenantId, toolName) ≠ (tenantId, definition.toolName.val) := by
        intro equal
        exact same (Prod.mk.inj equal).2.symm
      obtain ⟨approved_eq, quarantined_eq⟩ := register_of_ne other registry
      simp only [approved_eq, quarantined_eq] at approved spared
      simp only [List.find?_cons, same]
      exact ⟨approved, spared⟩

theorem foldl_register_bundles (tenantId : String) (definitions : List ToolDefinition)
    (registry : InMemoryToolRegistry) :
    (definitions.foldl (register tenantId) registry).bundles = registry.bundles := by
  induction definitions generalizing registry with
  | nil => rfl
  | cons definition definitions ih => rw [List.foldl_cons, ih, register_bundles]

theorem foldl_register_of_ne (other : key.1 ≠ tenantId) (definitions : List ToolDefinition)
    (registry : InMemoryToolRegistry) :
    (definitions.foldl (register tenantId) registry).approvedDigests key =
        registry.approvedDigests key ∧
      (definitions.foldl (register tenantId) registry).quarantined key =
        registry.quarantined key := by
  induction definitions generalizing registry with
  | nil => exact ⟨rfl, rfl⟩
  | cons definition definitions ih =>
    have unequal : key ≠ (tenantId, definition.toolName.val) := fun equal =>
      other (congrArg Prod.fst equal)
    obtain ⟨approved_eq, quarantined_eq⟩ := register_of_ne unequal registry
    rw [List.foldl_cons, (ih _).1, (ih _).2]
    exact ⟨approved_eq, quarantined_eq⟩

/-- A tool which is not quarantined is loaded at its approved digest. -/
structure Vetted (registry : InMemoryToolRegistry) (tenantId toolName : String)
    (approval : Option String) : Prop where
  approved_eq : registry.approvedDigests (tenantId, toolName) = approval
  loaded_eq : registry.quarantined (tenantId, toolName) = false →
    ∀ bundle ∈ registry.bundles tenantId, ∀ definition ∈ bundle.resolve toolName,
      approval = some definition.definitionSha256.val

theorem Vetted.step {approval : Option String} (operation : Operation)
    (approves : operation.ApprovesLoaded registry)
    (vetted : Vetted registry tenantId toolName approval) :
    Vetted (operation.step registry) tenantId toolName
      (operation.approval tenantId toolName approval) := by
  cases operation with
  | loadBundle bundle =>
    simp only [Operation.step, Operation.approval, loadBundle]
    by_cases same : bundle.tenantId.val = tenantId
    · subst same
      obtain ⟨approved, spared⟩ := foldl_register bundle.tenantId.val toolName
        bundle.names_nodup registry
      rw [vetted.approved_eq] at approved
      rw [if_pos rfl]
      refine ⟨approved, fun free active loaded definition found => ?_⟩
      simp only [Function.update_self, Option.mem_def, Option.some.injEq] at loaded
      subst loaded
      have digest_eq := (spared free).2 definition found
      rw [approved] at digest_eq
      exact digest_eq
    · have other : (tenantId, toolName).1 ≠ bundle.tenantId.val := Ne.symm same
      obtain ⟨approved_eq, quarantined_eq⟩ :=
        foldl_register_of_ne other bundle.definitions registry
      rw [if_neg same]
      refine ⟨approved_eq.trans vetted.approved_eq, fun free active loaded => ?_⟩
      simp only [Function.update_of_ne (Ne.symm same), foldl_register_bundles] at loaded
      exact vetted.loaded_eq (quarantined_eq ▸ free) active loaded
  | approve tenant tool definitionSha256 =>
    simp only [Operation.step, Operation.approval, approve]
    by_cases same : (tenant, tool) = (tenantId, toolName)
    · cases same
      rw [if_pos rfl]
      refine ⟨Function.update_self .., fun _ active loaded definition found => ?_⟩
      rw [approves active loaded definition found]
    · rw [if_neg same]
      have other : (tenantId, toolName) ≠ (tenant, tool) := Ne.symm same
      refine ⟨(Function.update_of_ne other ..).trans vetted.approved_eq, fun free => ?_⟩
      exact vetted.loaded_eq ((Function.update_of_ne other ..).symm.trans free)

variable {operations : List Operation}

theorem vetted_of_run {approval : Option String}
    (vetted : Vetted registry tenantId toolName approval)
    (permits : Permits Operation.ApprovesLoaded step operations registry) :
    Vetted (runAll step operations registry) tenantId toolName
      (operations.foldl (Operation.approval tenantId toolName) approval) := by
  induction operations generalizing registry approval with
  | nil => exact vetted
  | cons operation operations ih => exact ih (vetted.step operation permits.1) permits.2

/-- In every run in which tools are only approved at the digest they are loaded with, a resolved
definition has the digest most recently approved. -/
theorem resolved_digest_approved {operations : List Operation}
    (permits : Permits Operation.ApprovesLoaded step operations {})
    {tenantId toolName definitionSha256 : String} {definition : ToolDefinition}
    (resolved : (runAll step operations {}).resolve tenantId toolName definitionSha256 =
      .ok definition) :
    approvedDigest tenantId toolName operations = some definition.definitionSha256.val := by
  have vetted : Vetted {} tenantId toolName none := ⟨rfl, by simp⟩
  obtain ⟨free, bundle, loaded, found⟩ := resolve_eq_ok resolved
  exact (vetted_of_run vetted permits).loaded_eq free bundle loaded definition found

/-- Only an approval of the tool lifts its quarantine. -/
theorem quarantined_step {operation : Operation}
    (quarantined : registry.quarantined (tenantId, toolName) = true)
    (unapproved : ∀ digest, operation ≠ .approve tenantId toolName digest) :
    (operation.step registry).quarantined (tenantId, toolName) = true := by
  cases operation with
  | loadBundle bundle =>
    change (bundle.definitions.foldl (register bundle.tenantId.val) registry).quarantined _ = true
    by_cases same : tenantId = bundle.tenantId.val
    · subst same
      by_contra free
      have spared := (foldl_register _ _ bundle.names_nodup registry).2 (by simpa using free)
      cases quarantined.symm.trans spared.1
    · rw [(foldl_register_of_ne same _ registry).2]
      exact quarantined
  | approve tenant tool digest =>
    refine (Function.update_of_ne ?_ ..).trans quarantined
    rintro ⟨⟩
    exact unapproved digest rfl

/-- A tool which is loaded at another digest than the approved one is not resolved before it is
approved, whatever else is loaded or approved. -/
theorem changed_tool_unresolved {bundle : ToolRegistryBundle} {approved : String}
    (known : registry.approvedDigests (bundle.tenantId.val, toolName) = some approved)
    (loaded : bundle.resolve toolName = some definition)
    (changed : definition.definitionSha256.val ≠ approved)
    (unapproved : ∀ digest, .approve bundle.tenantId.val toolName digest ∉ operations)
    (digest : String) :
    ((runAll step operations (loadBundle bundle registry)).resolve bundle.tenantId.val
      toolName digest).toOption = none := by
  obtain ⟨approvals, spared⟩ := foldl_register bundle.tenantId.val toolName bundle.names_nodup
    registry
  have quarantined : (loadBundle bundle registry).quarantined (bundle.tenantId.val, toolName) =
      true := by
    by_contra free
    have approved_eq := (spared (Bool.eq_false_iff.mpr free)).2 definition loaded
    rw [approvals, known] at approved_eq
    exact changed (Option.some.inj approved_eq).symm
  have kept := runAll_invariant (fun registry : InMemoryToolRegistry =>
      registry.quarantined (bundle.tenantId.val, toolName) = true) quarantined
    fun operation member _ quarantined => quarantined_step quarantined fun digest same =>
      unapproved digest (same ▸ member)
  cases resolved : (runAll step operations (loadBundle bundle registry)).resolve
      bundle.tenantId.val toolName digest with
  | error => rfl
  | ok definition => cases kept.symm.trans (resolve_eq_ok resolved).1

def loadedDigest : Sha256Hex := ⟨String.ofList (List.replicate 64 'a'), by decide⟩

def otherDigest : String := String.ofList (List.replicate 64 'b')

def sampleTool : ToolDefinition where
  toolName := Sample.tool
  definitionSha256 := loadedDigest
  action := {
    action := Sample.read
    consequence := .reversible
    attestations_nodup := by simp
    schema_nodup := by simp }

def sampleBundle : ToolRegistryBundle where
  bundleId := Sample.bundle
  tenantId := acme
  definitions := [sampleTool]
  names_nodup := by simp

theorem changed_tool_unresolved_reloaded :
    ((runAll step [.loadBundle sampleBundle] (loadBundle sampleBundle
      (approve "acme" "tool" otherDigest {}))).resolve "acme" "tool" loadedDigest.val).toOption =
        none :=
  @changed_tool_unresolved _ "tool" sampleTool _ sampleBundle otherDigest rfl rfl (by decide)
    (by simp) loadedDigest.val

def resolvedDigest (operations : List Operation) : Option String :=
  ((runAll step operations {}).resolve "acme" "tool" loadedDigest.val).toOption.map
    fun definition => definition.definitionSha256.val

theorem exists_of_resolvedDigest {digest : String}
    (resolved : resolvedDigest operations = some digest) :
    ∃ definition, (runAll step operations {}).resolve "acme" "tool" loadedDigest.val =
      .ok definition ∧ definition.definitionSha256.val = digest := by
  unfold resolvedDigest at resolved
  cases run : (runAll step operations {}).resolve "acme" "tool" loadedDigest.val with
  | error error => simp [run, Except.toOption] at resolved
  | ok definition => exact ⟨definition, rfl, by simpa [run, Except.toOption] using resolved⟩

/-- A tool is loaded with another digest than the approved one, and then approved at it. -/
def approvedLoaded : List Operation :=
  [.approve "acme" "tool" otherDigest, .loadBundle sampleBundle,
    .approve "acme" "tool" loadedDigest.val]

theorem resolved_digest_approved_loaded :
    ∃ definition, (runAll step approvedLoaded {}).resolve "acme" "tool"
        loadedDigest.val = .ok definition ∧
      approvedDigest "acme" "tool" approvedLoaded = some definition.definitionSha256.val := by
  have digest_eq : resolvedDigest approvedLoaded = some loadedDigest.val := by decide +kernel
  obtain ⟨definition, resolved, -⟩ := exists_of_resolvedDigest digest_eq
  have own : Operation.ApprovesLoaded (.approve "acme" "tool" loadedDigest.val)
      (runAll step [.approve "acme" "tool" otherDigest, .loadBundle sampleBundle] {}) := by
    rintro bundle ⟨⟩ definition ⟨⟩
    decide +kernel
  have permits : Permits Operation.ApprovesLoaded step approvedLoaded {} :=
    ⟨fun _ unloaded => absurd unloaded (Option.not_mem_none _), trivial, own, trivial⟩
  exact ⟨definition, resolved, resolved_digest_approved permits resolved⟩

/-- Approving another digest than the loaded one leaves the loaded definition resolvable. -/
theorem unapproved_definition_resolves :
    ¬ ∀ (operations : List Operation) (tenantId toolName definitionSha256 : String)
        (definition : ToolDefinition),
      (runAll step operations {}).resolve tenantId toolName definitionSha256 =
        .ok definition →
      approvedDigest tenantId toolName operations = some definition.definitionSha256.val := by
  intro claim
  have digest_eq : resolvedDigest [.loadBundle sampleBundle, .approve "acme" "tool" otherDigest] =
      some loadedDigest.val := by
    decide +kernel
  obtain ⟨definition, resolved, definition_eq⟩ := exists_of_resolvedDigest digest_eq
  have approved := claim _ _ _ _ _ resolved
  have other : approvedDigest "acme" "tool"
      [.loadBundle sampleBundle, .approve "acme" "tool" otherDigest] ≠
        some loadedDigest.val := by
    decide +kernel
  exact other (approved.trans (congrArg some definition_eq))

end InMemoryToolRegistry

end GlassBox
