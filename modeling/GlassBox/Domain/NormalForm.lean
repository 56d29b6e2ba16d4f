import GlassBox.Domain.Serialization
import GlassBox.Foundation.Program

/-!
# Normal forms

`_normalise` accepts a value when none of its parts is a non-finite float, raw bytes, an unknown
object or a mapping with a key that is not text.  The members of sets and the entries of mappings
come in the order of their text.
-/

namespace GlassBox

/-- What holds of the items of every array and the values of every object holds of all data. -/
@[elab_as_elim]
theorem Json.nested_induction {motive : Json → Prop} (null : motive .null)
    (bool : ∀ value, motive (.bool value)) (int : ∀ value, motive (.int value))
    (float : ∀ value, motive (.float value)) (str : ∀ value, motive (.str value))
    (array : ∀ items, (∀ item ∈ items, motive item) → motive (.array items))
    (object : ∀ entries, (∀ entry ∈ entries, motive entry.2) → motive (.object entries))
    (value : Json) : motive value :=
  @Json.rec motive (fun items => ∀ item ∈ items, motive item)
    (fun entries => ∀ entry ∈ entries, motive entry.2) (fun entry => motive entry.2)
    null bool int float str array object (List.forall_mem_nil _)
    (fun _ _ first rest => List.forall_mem_cons.mpr ⟨first, rest⟩) (List.forall_mem_nil _)
    (fun _ _ first rest => List.forall_mem_cons.mpr ⟨first, rest⟩) (fun _ _ value => value) value

mutual

/-- The value with the entries of every object sorted. -/
def Json.tidy : Json → Json
  | .null => .null
  | .bool value => .bool value
  | .int value => .int value
  | .float value => .float value
  | .str value => .str value
  | .array items => .array (tidyItems items)
  | .object entries => .object (sortEntries (tidyEntries entries))

def tidyItems : List Json → List Json
  | [] => []
  | item :: items => item.tidy :: tidyItems items

def tidyEntries : List (String × Json) → List (String × Json)
  | [] => []
  | (key, value) :: entries => (key, value.tidy) :: tidyEntries entries

end

theorem tidyItems_eq_map (items : List Json) : tidyItems items = items.map Json.tidy := by
  induction items with
  | nil => rfl
  | cons item items ih => rw [tidyItems, ih, List.map_cons]

theorem tidyEntries_eq_map (entries : List (String × Json)) :
    tidyEntries entries = entries.map fun entry => (entry.1, entry.2.tidy) := by
  induction entries with
  | nil => rfl
  | cons entry entries ih => rw [tidyEntries, ih, List.map_cons]

theorem sortEntries_map {α β : Type} (change : String × α → β) (entries : List (String × α)) :
    sortEntries (entries.map fun entry => (entry.1, change entry)) =
      (sortEntries entries).map fun entry => (entry.1, change entry) := by
  unfold sortEntries
  rw [List.map_insertionSort (fun left right : String × α => left.1 ≤ right.1)
    fun left right : String × β => left.1 ≤ right.1]
  exact fun _ _ _ _ => Iff.rfl

section Dumps

variable [Runtime]

def entryText (style : DumpStyle) (entry : String × Json) : String :=
  quote style.ensureAscii entry.1 ++ style.keySeparator ++ dumps style entry.2

theorem dumps_array (style : DumpStyle) (items : List Json) :
    dumps style (.array items) =
      "[" ++ style.itemSeparator.intercalate (items.map (dumps style)) ++ "]" := by
  have items_eq : dumpsItems style items = items.map (dumps style) := by
    induction items with
    | nil => rfl
    | cons item items ih => rw [dumpsItems, ih, List.map_cons]
  rw [dumps, items_eq]

theorem dumps_object (style : DumpStyle) (entries : List (String × Json)) :
    dumps style (.object entries) = "\x7b" ++ style.itemSeparator.intercalate
      ((sortEntries entries).map (entryText style)) ++ "\x7d" := by
  have entries_eq : dumpsEntries style entries =
      entries.map fun entry => (entry.1, entryText style entry) := by
    induction entries with
    | nil => rfl
    | cons entry entries ih =>
      rw [dumpsEntries, ih, List.map_cons]
      rfl
  rw [dumps, entries_eq, sortEntries_map, List.map_map]
  rfl

/-- Printing sorts the entries of objects itself. -/
theorem dumps_tidy (style : DumpStyle) (value : Json) :
    dumps style value.tidy = dumps style value := by
  induction value using Json.nested_induction with
  | null | bool | int | float | str => rfl
  | array items ih =>
    rw [Json.tidy, dumps_array, dumps_array, tidyItems_eq_map, List.map_map]
    congr 3
    exact List.map_congr_left ih
  | object entries ih =>
    have printed :
        (sortEntries entries).map (fun entry => entryText style (entry.1, entry.2.tidy)) =
        (sortEntries entries).map (entryText style) := by
      refine List.map_congr_left fun entry member => ?_
      rw [entryText, entryText, ih entry ((List.perm_insertionSort _ _).mem_iff.mp member)]
    have sorted : sortEntries (sortEntries (tidyEntries entries)) =
        sortEntries (tidyEntries entries) :=
      (List.pairwise_insertionSort _ _).insertionSort_eq
    rw [Json.tidy, dumps_object, dumps_object, sorted, tidyEntries_eq_map,
      sortEntries_map fun entry : String × Json => entry.2.tidy, List.map_map, ← printed]
    rfl

end Dumps

mutual

/-- Whether `_normalise` accepts a value. -/
def Value.isCanonical : Value → Bool
  | .none | .bool _ | .int _ | .str _ => true
  | .float (.finite _) => true
  | .float _ | .bytes _ | .object _ => false
  | .enum value => value.isCanonical
  | .mapping entries => entriesCanonical entries
  | .set items | .list items | .tuple items => itemsCanonical items

/-- Whether `_normalise` accepts the entries of a mapping. -/
def entriesCanonical : List (Value × Value) → Bool
  | [] => true
  | (.str _, item) :: entries => item.isCanonical && entriesCanonical entries
  | (_, _) :: _ => false

/-- Whether `_normalise` accepts every item. -/
def itemsCanonical : List Value → Bool
  | [] => true
  | item :: items => item.isCanonical && itemsCanonical items

end

section Forms

variable [Runtime]

/-- Set members in the order of their JSON text. -/
def sortMembers (members : List Json) : List Json :=
  members.insertionSort fun left right => dumps defaultStyle left ≤ dumps defaultStyle right

mutual

def Value.normalForm : Value → Json
  | .enum value => value.normalForm
  | .bool value => .bool value
  | .int value => .int value
  | .float (.finite value) => .float value
  | .str value => .str value
  | .mapping entries => .object (sortEntries (entryForms entries))
  | .set items => .array (sortMembers (itemForms items))
  | .list items | .tuple items => .array (itemForms items)
  | .none | .float _ | .bytes _ | .object _ => .null

/-- The normal forms of the entries of a mapping with string keys. -/
def entryForms : List (Value × Value) → List (String × Json)
  | (.str key, item) :: entries => (key, item.normalForm) :: entryForms entries
  | _ => []

def itemForms : List Value → List Json
  | [] => []
  | item :: items => item.normalForm :: itemForms items

end

theorem itemForms_eq_map (items : List Value) : itemForms items = items.map Value.normalForm := by
  induction items with
  | nil => rfl
  | cons item items ih => rw [itemForms, ih, List.map_cons]

theorem entryForms_record (entries : List (String × Value)) :
    entryForms (entries.map fun entry => (.str entry.1, entry.2)) =
      entries.map fun entry => (entry.1, entry.2.normalForm) := by
  induction entries with
  | nil => rfl
  | cons entry entries ih => rw [List.map_cons, entryForms, ih, List.map_cons]

theorem normalForm_record (entries : List (String × Value)) : (Value.record entries).normalForm =
      .object (sortEntries (entries.map fun entry => (entry.1, entry.2.normalForm))) := by
  rw [Value.record, Value.normalForm, entryForms_record]

/-- Members are compared by their text, which does not depend on the order of entries. -/
theorem map_tidy_sortMembers (members : List Json) :
    (sortMembers members).map Json.tidy = sortMembers (members.map Json.tidy) := by
  refine List.map_insertionSort _ _ _ _ fun left _ right _ => ?_
  rw [dumps_tidy, dumps_tidy]

end Forms

/-- A program returns data in normal form, up to the order of entries, or refuses. -/
inductive Normalised {α β : Type} (tidy : α → β) (canonical : Bool) (form : β) :
    Except PyError α → Prop
  | ok {raw : α} : canonical = true → tidy raw = form → Normalised tidy canonical form (.ok raw)
  | error {error : PyError} : canonical = false → error.cls = .domainValidationError →
      Normalised tidy canonical form (.error error)

namespace Normalised

variable {α β γ δ : Type} {tidy : α → β} {canonical : Bool} {form : β} {program : Except PyError α}
  {tidy' : γ → δ} {form' : δ}

theorem map (normalised : Normalised tidy canonical form program) {change : α → γ}
    (changed : ∀ raw, tidy raw = form → tidy' (change raw) = form') :
    Normalised tidy' canonical form' (program.map change) := by
  cases normalised with
  | ok accepted same => exact .ok accepted (changed _ same)
  | error refused validation => exact .error refused validation

theorem cons (first : Normalised tidy canonical form program) {others : Bool} {forms : δ}
    {rest : Except PyError γ} (later : Normalised tidy' others forms rest) {join : α → γ → γ}
    (joined : ∀ raw raws, tidy raw = form → tidy' raws = forms → tidy' (join raw raws) = form') :
    Normalised tidy' (canonical && others) form' (do
      let head ← program
      let tail ← rest
      return join head tail) := by
  cases first with
  | error refused validation => exact .error (by rw [refused, Bool.false_and]) validation
  | ok accepted same =>
    cases later with
    | error refused validation => exact .error (by rw [refused, Bool.and_false]) validation
    | ok accepted' same' => exact .ok (by rw [accepted, accepted']; rfl) (joined _ _ same same')

end Normalised

section Spec

variable [Runtime] {value : Value} {path : String}

mutual

theorem normalised_normalise : ∀ (value : Value) (path : String),
    Normalised Json.tidy value.isCanonical value.normalForm (normalise path value)
  | .none, _ | .bool _, _ | .int _, _ | .str _, _ | .float (.finite _), _ => by
    rw [normalise]
    exact .ok rfl rfl
  | .float .nan, _ | .float .posInf, _ | .float .negInf, _ | .bytes _, _ | .object _, _ => by
    rw [normalise]
    · exact .error rfl rfl
    all_goals nofun
  | .enum value, path => by
    rw [normalise, Value.isCanonical, Value.normalForm]
    exact normalised_normalise value path
  | .mapping entries, path => by
    rw [normalise, Value.isCanonical, Value.normalForm]
    exact (normalised_normaliseEntries entries path).map fun raw same => by rw [Json.tidy, same]
  | .set items, path => by
    rw [normalise, Value.isCanonical, Value.normalForm]
    refine (normalised_normaliseMembers items path).map fun raw same => ?_
    rw [Json.tidy, ← same, tidyItems_eq_map, tidyItems_eq_map]
    exact congrArg Json.array (map_tidy_sortMembers raw)
  | .list items, path | .tuple items, path => by
    rw [normalise, Value.isCanonical, Value.normalForm]
    exact (normalised_normaliseItems items path 0).map fun raw same => by rw [Json.tidy, same]

theorem normalised_normaliseEntries : ∀ (entries : List (Value × Value)) (path : String),
    Normalised tidyEntries (entriesCanonical entries) (entryForms entries)
      (normaliseEntries path entries)
  | [], _ => .ok rfl rfl
  | (key, item) :: entries, path => by
    cases key with
    | str key =>
      rw [normaliseEntries, entriesCanonical, entryForms]
      exact (normalised_normalise item _).cons (normalised_normaliseEntries entries path)
        fun raw raws same same' => by rw [tidyEntries, same, same']
    | none | bool | int | float | enum | bytes | mapping | set | list | tuple | object =>
      rw [normaliseEntries]
      · exact .error rfl rfl
      · nofun

theorem normalised_normaliseMembers : ∀ (items : List Value) (path : String),
    Normalised tidyItems (itemsCanonical items) (itemForms items) (normaliseMembers path items)
  | [], _ => .ok rfl rfl
  | item :: items, path => by
    rw [normaliseMembers, itemsCanonical, itemForms]
    exact (normalised_normalise item _).cons (normalised_normaliseMembers items path)
      fun raw raws same same' => by rw [tidyItems, same, same']

theorem normalised_normaliseItems : ∀ (items : List Value) (path : String) (index : Nat),
    Normalised tidyItems (itemsCanonical items) (itemForms items) (normaliseItems path index items)
  | [], _, _ => .ok rfl rfl
  | item :: items, path, index => by
    rw [normaliseItems, itemsCanonical, itemForms]
    exact (normalised_normalise item _).cons (normalised_normaliseItems items path (index + 1))
      fun raw raws same same' => by rw [tidyItems, same, same']

end

/-- The path only shows in the error. -/
theorem normalise_ok_iff :
    (∃ json, normalise path value = .ok json) ↔ value.isCanonical = true := by
  have normalised := normalised_normalise value path
  generalize normalise path value = program at normalised
  cases normalised with
  | ok accepted _ => simp [accepted]
  | error refused _ => simp [refused]

theorem tidy_of_normalise {json : Json} (made : normalise path value = .ok json) :
    json.tidy = value.normalForm := by
  have normalised := normalised_normalise value path
  rw [made] at normalised
  cases normalised with
  | ok _ same => exact same

theorem cls_of_normalise {error : PyError} (raised : normalise path value = .error error) :
    error.cls = .domainValidationError := by
  have normalised := normalised_normalise value path
  rw [raised] at normalised
  cases normalised with
  | error _ validation => exact validation

end Spec

end GlassBox
