import Mathlib

/-!
# Rows with a key

A table is a list of rows whose keys are distinct.  A row is found by its key, and rewriting the
row with a key leaves every other row where it is.
-/

namespace KeyedRows

variable {Row Key : Type*} [DecidableEq Key] (key : Row → Key)

def find (rows : List Row) (wanted : Key) : Option Row :=
  rows.find? fun row => key row = wanted

def rewrite (rows : List Row) (wanted : Key) (change : Row → Row) : List Row :=
  rows.map fun row => if key row = wanted then change row else row

variable {key} {rows : List Row} {wanted : Key} {row : Row} {change : Row → Row} {added : Row}

theorem key_of_find (found : find key rows wanted = some row) : key row = wanted := by
  simpa using List.find?_some found

theorem find_eq_none_iff :
    find key rows wanted = none ↔ wanted ∉ rows.map key := by
  simp [find]

theorem find_of_mem (unique : (rows.map key).Nodup) (member : row ∈ rows) :
    find key rows (key row) = some row := by
  induction rows with
  | nil => cases member
  | cons first rest ih =>
    rw [List.map_cons, List.nodup_cons] at unique
    rcases List.mem_cons.mp member with rfl | later
    · simp [find]
    · have other : key first ≠ key row := by
        intro same
        exact unique.1 (same ▸ List.mem_map_of_mem later)
      simpa [find, other] using ih unique.2 later

theorem map_rewrite {α : Type*} (view : Row → α) (kept : ∀ row, view (change row) = view row) :
    (rewrite key rows wanted change).map view = rows.map view := by
  rw [rewrite, List.map_map]
  refine List.map_congr_left fun row _ => ?_
  by_cases same : key row = wanted <;> simp [same, kept]

theorem find_rewrite_self {rows : List Row} {wanted : Key} {change : Row → Row}
    (kept : ∀ row, key (change row) = key row) :
    find key (rewrite key rows wanted change) wanted = (find key rows wanted).map change := by
  induction rows with
  | nil => rfl
  | cons first rest ih =>
    simp only [find, rewrite] at ih ⊢
    by_cases same : key first = wanted
    · simp [same, kept]
    · simp [same, ih]

theorem find_rewrite_of_ne {other : Key} (kept : ∀ row, key (change row) = key row)
    (different : other ≠ wanted) :
    find key (rewrite key rows wanted change) other = find key rows other := by
  induction rows with
  | nil => rfl
  | cons first rest ih =>
    simp only [find, rewrite] at ih ⊢
    by_cases same : key first = wanted
    · simp [same, kept, different.symm, ih]
    · rw [List.map_cons, if_neg same, List.find?_cons, List.find?_cons, ih]

theorem find_append_of_fresh (different : wanted ≠ key added) :
    find key (rows ++ [added]) wanted = find key rows wanted := by
  simp [find, different.symm]

theorem find_append_added (fresh : key added ∉ rows.map key) :
    find key (rows ++ [added]) (key added) = some added := by
  have absent := find_eq_none_iff.mpr fresh
  simp only [find] at absent ⊢
  simp [List.find?_append, absent]

omit [DecidableEq Key] in
theorem nodup_append (unique : (rows.map key).Nodup) (fresh : key added ∉ rows.map key) :
    ((rows ++ [added]).map key).Nodup := by
  rw [List.map_append, List.map_singleton, ← List.concat_eq_append]
  exact unique.concat fresh

end KeyedRows
