import GlassBox.Domain.Sample

/-!
# Canonical bytes and normal forms

Two payloads have the same bytes when they have the same normal form, which forgets the insertion
order of mappings and the iteration order of sets and is what the bytes decode to.
-/

namespace GlassBox

open Value (normalForm record)

section NormalForms

variable [Runtime]

omit [Runtime] in
theorem sortEntries_of_perm {α : Type} {entries entries' : List (String × α)}
    (permuted : entries.Perm entries') (distinct : (entries.map Prod.fst).Nodup) :
    sortEntries entries = sortEntries entries' := by
  have sorted : (sortEntries entries).Perm entries := List.perm_insertionSort _ _
  have sorted' : (sortEntries entries').Perm entries :=
    (List.perm_insertionSort _ _).trans permuted.symm
  refine List.Perm.eq_of_pairwise (fun left right member member' below above => ?_)
    (List.pairwise_insertionSort _ _) (List.pairwise_insertionSort _ _) (sorted.trans sorted'.symm)
  exact List.inj_on_of_nodup_map distinct (sorted.mem_iff.mp member) (sorted'.mem_iff.mp member')
    (le_antisymm below above)

/-- Payloads which differ in the insertion order of mappings and the iteration order of sets. -/
inductive Reordered : Value → Value → Prop
  | refl (value : Value) : Reordered value value
  | trans {first second third : Value} :
      Reordered first second → Reordered second third → Reordered first third
  | mapping {entries entries' : List (String × Value)} : (entries.map Prod.fst).Nodup →
      entries.Perm entries' → Reordered (.record entries) (.record entries')
  | set {items items' : List Value} : (∀ item ∈ items, item.isCanonical = true) →
      items.Perm items' → Reordered (.set items) (.set items')
  | inMapping {front back : List (String × Value)} {key : String} {value value' : Value} :
      Reordered value value' →
      Reordered (.record (front ++ (key, value) :: back)) (.record (front ++ (key, value') :: back))
  | inEnum {value value' : Value} : Reordered value value' →
      Reordered (.enum value) (.enum value')
  | inSet {front back : List Value} {value value' : Value} : Reordered value value' →
      Reordered (.set (front ++ value :: back)) (.set (front ++ value' :: back))
  | inList {front back : List Value} {value value' : Value} : Reordered value value' →
      Reordered (.list (front ++ value :: back)) (.list (front ++ value' :: back))
  | inTuple {front back : List Value} {value value' : Value} : Reordered value value' →
      Reordered (.tuple (front ++ value :: back)) (.tuple (front ++ value' :: back))

theorem Reordered.normalForm_eq {value value' : Value} (reordered : Reordered value value') :
    value.normalForm = value'.normalForm := by
  induction reordered with
  | refl => rfl
  | trans _ _ first second => exact first.trans second
  | mapping distinct permuted =>
    rw [normalForm_record, normalForm_record, sortEntries_of_perm (permuted.map _)]
    simpa [Function.comp_def] using distinct
  | @set items items' canonical permuted =>
    rw [normalForm, normalForm, itemForms_eq_map, itemForms_eq_map]
    have sorted : ∀ items : List Value, (sortMembers (items.map normalForm)).Perm
        (items.map normalForm) := fun items => List.perm_insertionSort _ _
    have form : ∀ json ∈ sortMembers (items.map normalForm), ∃ raw, json = Json.tidy raw := by
      intro json member
      obtain ⟨item, item_mem, rfl⟩ := List.mem_map.mp ((sorted items).mem_iff.mp member)
      obtain ⟨raw, made⟩ := (@normalise_ok_iff _ item "$").mpr (canonical item item_mem)
      exact ⟨raw, (tidy_of_normalise made).symm⟩
    have swapped : (sortMembers (items'.map normalForm)).Perm
        (sortMembers (items.map normalForm)) :=
      (sorted items').trans ((permuted.map _).symm.trans (sorted items).symm)
    refine congrArg Json.array (List.Perm.eq_of_pairwise
      (fun left right member member' below above => ?_) (List.pairwise_insertionSort _ _)
      (List.pairwise_insertionSort _ _) swapped.symm)
    obtain ⟨raw, rfl⟩ := form left member
    obtain ⟨raw', rfl⟩ := form right (swapped.mem_iff.mp member')
    rw [dumps_tidy, dumps_tidy] at below above
    exact (dumps_eq_iff .default).mp (le_antisymm below above)
  | inMapping _ same => simp [normalForm_record, same]
  | inEnum _ same => simpa [normalForm] using same
  | inSet _ same | inList _ same | inTuple _ same => simp [normalForm, itemForms_eq_map, same]

theorem exists_canonicalJson {payload : List (String × Value)}
    (canonical : (record payload).isCanonical = true) :
    ∃ json : Json, json.tidy = (record payload).normalForm ∧
      canonicalJson payload = .ok (dumps canonicalStyle json) := by
  obtain ⟨json, made⟩ := (@normalise_ok_iff _ _ "$").mpr canonical
  exact ⟨json, tidy_of_normalise made, by rw [canonicalJson, made]; rfl⟩

section Equal

variable {left right : List (String × Value)} (canonical : (record left).isCanonical = true)
  (canonical' : (record right).isCanonical = true)

include canonical canonical'

theorem canonicalJson_eq_iff : canonicalJson left = canonicalJson right ↔
    (record left).normalForm = (record right).normalForm := by
  obtain ⟨json, tidy_eq, printed⟩ := exists_canonicalJson canonical
  obtain ⟨json', tidy_eq', printed'⟩ := exists_canonicalJson canonical'
  rw [printed, printed', Except.ok.injEq, dumps_eq_iff .canonical, tidy_eq, tidy_eq']

theorem canonicalBytes_eq_iff : canonicalBytes left = canonicalBytes right ↔
    (record left).normalForm = (record right).normalForm := by
  rw [← canonicalJson_eq_iff canonical canonical']
  obtain ⟨json, -, printed⟩ := exists_canonicalJson canonical
  obtain ⟨json', -, printed'⟩ := exists_canonicalJson canonical'
  simp only [canonicalBytes, printed, printed', Except.map, Except.ok.injEq, utf8_injective.eq_iff]

end Equal

/-- Canonical bytes determine the normal form and are determined by it; they do not depend on the
order of entries or members, and decoding them gives the normal form back. -/
theorem canonicalBytes_canonical {left right : List (String × Value)}
    (canonical : (record left).isCanonical = true)
    (canonical' : (record right).isCanonical = true) :
    (canonicalBytes left = canonicalBytes right ↔
        (record left).normalForm = (record right).normalForm) ∧
      (Reordered (.record left) (.record right) → canonicalBytes left = canonicalBytes right) ∧
      ∃ text, canonicalBytes left = .ok (utf8 text) ∧ ∀ᶠ fuel in Filter.atTop,
        readValue 0 fuel text.toList = some ((record left).normalForm, []) := by
  have equal_iff := canonicalBytes_eq_iff canonical canonical'
  obtain ⟨json, tidy_eq, printed⟩ := exists_canonicalJson canonical
  refine ⟨equal_iff, fun reordered => equal_iff.mpr reordered.normalForm_eq, _,
    by rw [canonicalBytes, printed]; rfl, ?_⟩
  filter_upwards [readValue_dumps .canonical json] with fuel read
  have whole := read [] trivial
  rwa [List.append_nil, tidy_eq] at whole

end NormalForms

/-- A mapping with a set in it, in two orders. -/
theorem canonicalBytes_canonical_reordered :
    letI := plainRuntime
    canonicalBytes [("a", .set [.int 1, .int 2]), ("b", .none)] =
      canonicalBytes [("b", .none), ("a", .set [.int 2, .int 1])] := by
  let _ := plainRuntime
  have members : Reordered (.set [.int 1, .int 2]) (.set [.int 2, .int 1]) :=
    .set (by decide) (.swap _ _ _)
  refine (canonicalBytes_canonical (by decide) (by decide)).2.1
    (.trans (@Reordered.inMapping [] _ _ _ _ members) (.mapping (by decide) (.swap _ _ _)))

end GlassBox
