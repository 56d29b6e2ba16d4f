import GlassBox.Domain.CanonicalBytes
import GlassBox.Domain.CanonicalForm

/-!
# Frozen parameters

`freeze_mapping` of `domain/serialization.py` turns a mapping nested in parameters into the tuple
of its pairs, so evidence shows such a mapping as a list of lists.
-/

namespace GlassBox

mutual

/-- An object becomes the tuple of its pairs. -/
def toHashable : Json → Value
  | .null => .none
  | .bool value => .bool value
  | .int value => .int value
  | .float value => .ofRat value
  | .str value => .str value
  | .array items => .tuple (toHashableItems items)
  | .object entries => .tuple ((sortEntries (toHashableEntries entries)).map fun entry =>
    .tuple [.str entry.1, entry.2])

def toHashableItems : List Json → List Value
  | [] => []
  | item :: items => toHashable item :: toHashableItems items

def toHashableEntries : List (String × Json) → List (String × Value)
  | [] => []
  | (key, value) :: entries => (key, toHashable value) :: toHashableEntries entries

end

/-- Normalised, hashable and in order. -/
def freezeMapping [Runtime] (value : List (String × Value)) (field : String) :
    Except PyError (List (String × Value)) := do
  let normalised ← normaliseEntries field (value.map fun entry => (.str entry.1, entry.2))
  return sortEntries (toHashableEntries normalised)

/-- `ProposedAction(…)` over a mapping of parameters, with the other fields of an action. -/
def ProposedAction.freezing [Runtime] (action : ProposedAction)
    (parameters : List (String × Value)) : Except PyError ProposedAction := do
  let parameters ← freezeMapping parameters "parameters"
  return { action with parameters }

mutual

/-- The value with every mapping written as the list of its pairs. -/
def Json.paired : Json → Json
  | .array items => .array (pairedItems items)
  | .object entries => .array (pairedEntries entries)
  | scalar => scalar

def pairedItems : List Json → List Json
  | [] => []
  | item :: items => item.paired :: pairedItems items

def pairedEntries : List (String × Json) → List Json
  | [] => []
  | (key, value) :: entries => .array [.str key, value.paired] :: pairedEntries entries

end

/-- A mapping with every mapping below it written as the list of its pairs. -/
def Json.pairedBelow : Json → Json
  | .object entries => .object (entries.map fun entry => (entry.1, entry.2.paired))
  | other => other

theorem toHashableItems_eq_map (items : List Json) :
    toHashableItems items = items.map toHashable := by
  induction items with
  | nil => rfl
  | cons item items ih => rw [toHashableItems, ih, List.map_cons]

theorem toHashableEntries_eq_map (entries : List (String × Json)) :
    toHashableEntries entries = entries.map fun entry => (entry.1, toHashable entry.2) := by
  induction entries with
  | nil => rfl
  | cons entry entries ih => rw [toHashableEntries, ih, List.map_cons]

theorem pairedItems_eq_map (items : List Json) : pairedItems items = items.map Json.paired := by
  induction items with
  | nil => rfl
  | cons item items ih => rw [pairedItems, ih, List.map_cons]

theorem pairedEntries_eq_map (entries : List (String × Json)) :
    pairedEntries entries = entries.map fun entry => .array [.str entry.1, entry.2.paired] := by
  induction entries with
  | nil => rfl
  | cons entry entries ih => rw [pairedEntries, ih, List.map_cons]

section Frozen

variable [Runtime] {action : ProposedAction}

/-- Frozen data are serialised with every mapping as the list of its pairs. -/
theorem normalForm_toHashable (json : Json) :
    (toHashable json).isCanonical = true ∧ (toHashable json).normalForm = json.tidy.paired := by
  induction json using Json.nested_induction with
  | null | bool | int | float | str => exact ⟨rfl, rfl⟩
  | array items ih =>
    rw [toHashable, toHashableItems_eq_map]
    refine ⟨itemsCanonical_iff.mpr (List.forall_mem_map.mpr fun item member =>
      (ih item member).1), ?_⟩
    rw [Value.normalForm, itemForms_eq_map, Json.tidy, Json.paired, tidyItems_eq_map,
      pairedItems_eq_map, List.map_map, List.map_map]
    exact congrArg Json.array (List.map_congr_left fun item member => (ih item member).2)
  | object entries ih =>
    have sorted : (sortEntries entries).Perm entries := List.perm_insertionSort _ _
    rw [toHashable, toHashableEntries_eq_map,
      sortEntries_map fun entry : String × Json => toHashable entry.2, List.map_map]
    refine ⟨itemsCanonical_iff.mpr (List.forall_mem_map.mpr fun entry member => ?_), ?_⟩
    · simp [Value.isCanonical, (ih entry (sorted.mem_iff.mp member)).1]
    · rw [Value.normalForm, itemForms_eq_map, Json.tidy, Json.paired, tidyEntries_eq_map,
        sortEntries_map fun entry : String × Json => entry.2.tidy, pairedEntries_eq_map,
        List.map_map, List.map_map]
      refine congrArg Json.array (List.map_congr_left fun entry member => ?_)
      simp [Value.normalForm, itemForms, (ih entry (sorted.mem_iff.mp member)).2]

/-- The evidence of an action shows its parameters paired. -/
theorem ProposedAction.of_freezing {parameters : List (String × Value)} {made : ProposedAction}
    (distinct : (parameters.map Prod.fst).Nodup) (built : action.freezing parameters = .ok made) :
    (Value.record parameters).isCanonical = true ∧
      (Value.record made.asEvidence).isCanonical = true ∧
      (Value.record (dictOf made.parameters)).normalForm =
        (Value.record parameters).normalForm.pairedBelow ∧
      ∃ frozen, made = { action with parameters := frozen } := by
  obtain ⟨frozen, frozen_eq, built⟩ := Except.bind_eq_ok_iff.mp built
  obtain ⟨normalised, normalised_eq, frozen_eq⟩ := Except.bind_eq_ok_iff.mp frozen_eq
  cases built
  cases frozen_eq
  have forms := normalised_normaliseEntries
    (parameters.map fun entry => (.str entry.1, entry.2)) "parameters"
  rw [normalised_eq, entryForms_record] at forms
  obtain ⟨canonical, tidied⟩ : (Value.record parameters).isCanonical = true ∧
      tidyEntries normalised = parameters.map fun entry => (entry.1, entry.2.normalForm) := by
    cases forms with
    | ok canonical tidied => exact ⟨canonical, tidied⟩
  rw [tidyEntries_eq_map] at tidied
  have keys : normalised.map Prod.fst = parameters.map Prod.fst := by
    simpa [Function.comp_def] using congrArg (List.map Prod.fst) tidied
  have sorted : (sortEntries normalised).Perm normalised := List.perm_insertionSort _ _
  have plain : dictOf (sortEntries (toHashableEntries normalised)) =
      (sortEntries normalised).map fun entry => (entry.1, toHashable entry.2) := by
    rw [toHashableEntries_eq_map, sortEntries_map fun entry : String × Json => toHashable entry.2]
    refine dictOf_of_nodup ?_
    rw [List.map_map]
    exact (sorted.map Prod.fst).nodup_iff.mpr (keys ▸ distinct)
  have twice : sortEntries (sortEntries normalised) = sortEntries normalised :=
    (List.pairwise_insertionSort _ _).insertionSort_eq
  refine ⟨canonical, isCanonical_asEvidence.mpr ?_, ?_, _, rfl⟩
  · rw [plain, isCanonical_record, List.forall_mem_map]
    exact fun entry _ => (normalForm_toHashable entry.2).1
  · rw [plain, normalForm_record, normalForm_record, ← tidied, Json.pairedBelow,
      sortEntries_map fun entry : String × Json => entry.2.tidy, List.map_map, List.map_map]
    simp only [Function.comp_def, (normalForm_toHashable _).2]
    rw [sortEntries_map fun entry : String × Json => entry.2.tidy.paired, twice]

theorem ProposedAction.normalForm_asEvidence_iff {frozen frozen' : List (String × Value)} :
    (Value.record { action with parameters := frozen }.asEvidence).normalForm =
        (Value.record { action with parameters := frozen' }.asEvidence).normalForm ↔
      (Value.record (dictOf frozen)).normalForm = (Value.record (dictOf frozen')).normalForm := by
  constructor
  · intro equal
    have shown := congrArg (fun json : Json => json.at "parameters") equal
    simpa [at_normalForm_record, asEvidence, ResourceRef.asEvidence] using shown
  · intro equal
    rw [normalForm_record (asEvidence _), normalForm_record (asEvidence _)]
    simp only [asEvidence, List.map_append, List.map_cons, equal]

variable {left right : List (String × Value)} {made made' : ProposedAction}

/-- Different parameters have different evidence, exactly when they do not become the same once
every mapping nested in them is written as the list of its pairs. -/
theorem parameters_distinguished_iff (distinct : (left.map Prod.fst).Nodup)
    (distinct' : (right.map Prod.fst).Nodup)
    (built : action.freezing left = .ok made) (built' : action.freezing right = .ok made') :
    (canonicalJson left ≠ canonicalJson right →
      canonicalBytes made.asEvidence ≠ canonicalBytes made'.asEvidence) ↔
      ((Value.record left).normalForm.pairedBelow = (Value.record right).normalForm.pairedBelow →
        (Value.record left).normalForm = (Value.record right).normalForm) := by
  obtain ⟨canonical, evidence, shown, _, rfl⟩ := ProposedAction.of_freezing distinct built
  obtain ⟨canonical', evidence', shown', _, rfl⟩ := ProposedAction.of_freezing distinct' built'
  rw [not_imp_not, canonicalBytes_eq_iff evidence evidence',
    canonicalJson_eq_iff canonical canonical', ProposedAction.normalForm_asEvidence_iff, ← shown,
    ← shown']

end Frozen

attribute [local instance] plainRuntime

/-- Nested mappings which differ in a value leave different evidence. -/
theorem parameters_distinguished_nested :
    let action := sampleAction Sample.read .reversible none
    ∃ made made', action.freezing [("a", .record [("b", .int 1)])] = .ok made ∧
      action.freezing [("a", .record [("b", .int 2)])] = .ok made' ∧
      canonicalBytes made.asEvidence ≠ canonicalBytes made'.asEvidence := by
  have printed : canonicalJson [("a", .record [("b", .int 1)])] ≠
      canonicalJson [("a", .record [("b", .int 2)])] := by
    intro same
    have := congrArg Except.toOption same
    revert this
    decide +kernel
  refine ⟨_, _, rfl, rfl, (parameters_distinguished_iff (by decide) (by decide) rfl rfl).mpr
    (fun same => ?_) printed⟩
  have text := congrArg (dumps canonicalStyle) same
  exfalso
  revert text
  decide +kernel

/-- A mapping and the list of its pairs leave the same evidence. -/
theorem nested_mapping_undistinguished :
    ¬ ∀ (action : ProposedAction) (left right : List (String × Value))
        (made made' : ProposedAction),
      (left.map Prod.fst).Nodup → (right.map Prod.fst).Nodup →
      action.freezing left = .ok made → action.freezing right = .ok made' →
      canonicalJson left ≠ canonicalJson right →
      canonicalBytes made.asEvidence ≠ canonicalBytes made'.asEvidence := by
  intro claim
  refine claim (sampleAction Sample.read .reversible none) [("a", .record [("b", .int 1)])]
    [("a", .list [.list [.str "b", .int 1]])] _ _ (by decide) (by decide) rfl rfl ?_ rfl
  intro same
  have := congrArg Except.toOption same
  revert this
  decide +kernel

end GlassBox
