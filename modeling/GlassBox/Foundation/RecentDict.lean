import Mathlib

/-!
# Dictionaries bounded by recency

A dictionary which remembers the order of use and forgets the keys used longest ago when it grows
past a bound.
-/

namespace AList

variable {α : Type*} {β : α → Type*} {bound : Nat} {dict : AList β}

def keepRecent (bound : Nat) (dict : AList β) : AList β where
  entries := dict.entries.take bound
  nodupKeys := dict.nodupKeys.sublist (List.take_sublist bound dict.entries)

def forgotten (bound : Nat) (dict : AList β) : List α := (dict.entries.drop bound).keys

theorem keepRecent_of_length_le (fits : dict.entries.length ≤ bound) :
    dict.keepRecent bound = dict := by
  apply AList.ext
  exact List.take_of_length_le fits

theorem forgotten_of_length_le (fits : dict.entries.length ≤ bound) :
    dict.forgotten bound = [] := by
  rw [forgotten, List.drop_of_length_le fits]
  rfl

variable [DecidableEq α] {key : α}

private theorem kreplace_cons (key : α) (value : β key) (entry : Sigma β)
    (entries : List (Sigma β)) :
    (entry :: entries).kreplace key value =
      if key = entry.1 then ⟨key, value⟩ :: entries else entry :: entries.kreplace key value := by
  unfold List.kreplace
  rw [List.lookmap_cons]
  split <;> simp_all

theorem lookup_replace {value : β key} (member : key ∈ dict) :
    (dict.replace key value).lookup key = some value := by
  have found : ∀ entries : List (Sigma β), key ∈ entries.keys →
      (entries.kreplace key value).dlookup key = some value := by
    intro entries member
    induction entries with
    | nil => cases member
    | cons entry entries ih =>
      rw [kreplace_cons]
      by_cases same : key = entry.1
      · rw [if_pos same, List.dlookup_cons_eq]
      · rw [if_neg same, List.dlookup_cons_ne _ _ same]
        exact ih (by simpa [same] using member)
  exact found dict.entries member

theorem lookup_replace_ne {other : α} {value : β other} (ne : key ≠ other) :
    (dict.replace other value).lookup key = dict.lookup key := by
  have kept : ∀ entries : List (Sigma β),
      (entries.kreplace other value).dlookup key = entries.dlookup key := by
    intro entries
    induction entries with
    | nil => rfl
    | cons entry entries ih =>
      rw [kreplace_cons]
      by_cases same : other = entry.1
      · rw [if_pos same, List.dlookup_cons_ne _ _ ne, List.dlookup_cons_ne _ _ (same ▸ ne)]
      · rw [if_neg same]
        by_cases found : key = entry.1
        · obtain ⟨another, value⟩ := entry
          subst found
          rw [List.dlookup_cons_eq, List.dlookup_cons_eq]
        · rw [List.dlookup_cons_ne _ _ found, List.dlookup_cons_ne _ _ found, ih]
  exact kept dict.entries

/-- Use a key: a missing one is created, and what no longer fits is forgotten. -/
def touch (bound : Nat) (key : α) (fresh : β key) (dict : AList β) : AList β :=
  match dict.lookup key with
  | some value => dict.insert key value
  | none => (dict.insert key fresh).keepRecent bound

theorem lookup_touch_isSome {bound : Nat} {key : α} {fresh : β key} {dict : AList β} :
    ((dict.touch bound key fresh).lookup key).isSome ↔ key ∈ dict ∨ 0 < bound := by
  unfold touch
  cases found : dict.lookup key with
  | some value =>
    have member : key ∈ dict := lookup_isSome.mp (by rw [found]; rfl)
    simp [member]
  | none =>
    have missing : key ∉ dict := lookup_eq_none.mp found
    simp only [missing, false_or, lookup, keepRecent, entries_insert_of_notMem missing]
    cases bound with
    | zero => simp
    | succ bound => simp [List.dlookup_cons_eq]

/-- Using the key forgets nothing. -/
def Fits (bound : Nat) (key : α) (dict : AList β) : Prop :=
  key ∈ dict ∨ dict.entries.length < bound

theorem touch_of_fits {fresh : β key} (fits : dict.Fits bound key) :
    dict.touch bound key fresh = dict.insert key ((dict.lookup key).getD fresh) := by
  unfold touch
  cases found : dict.lookup key with
  | some value => rfl
  | none =>
    have missing : key ∉ dict := lookup_eq_none.mp found
    refine keepRecent_of_length_le ?_
    rw [entries_insert_of_notMem missing, List.length_cons]
    exact fits.resolve_left missing

end AList
