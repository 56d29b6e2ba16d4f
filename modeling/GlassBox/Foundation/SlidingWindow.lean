import Mathlib

/-!
# Sliding windows

Entries are appended in the order of their times, and each has a cost and counts while it lies
behind a horizon.  `Within` bounds the cost of every window of a fixed width, whatever its
position.
-/

namespace SlidingWindow

variable {α T C : Type*} [LinearOrder T]

def behind (time : α → T) (horizon : T) (entries : List α) : List α :=
  entries.filter fun entry => horizon < time entry

def total [AddMonoid C] (cost : α → C) (entries : List α) : C := (entries.map cost).sum

/-- The entries of the half-open window of a width which ends at a moment. -/
def window [AddGroup T] (time : α → T) (width moment : T) (entries : List α) : List α :=
  entries.filter fun entry => moment - width < time entry ∧ time entry ≤ moment

section Behind

variable {time : α → T} {horizon later : T} {entries kept : List α}

theorem mem_behind {entry : α} :
    entry ∈ behind time horizon entries ↔ entry ∈ entries ∧ horizon < time entry := by
  simp [behind]

theorem behind_append (entries others : List α) :
    behind time horizon (entries ++ others) =
      behind time horizon entries ++ behind time horizon others :=
  List.filter_append entries others

theorem behind_filter (keep : α → Bool) :
    behind time horizon (entries.filter keep) = (behind time horizon entries).filter keep := by
  simp only [behind, List.filter_filter, Bool.and_comm]

/-- Moving the horizon forward forgets what an earlier one forgot. -/
theorem behind_behind (forward : horizon ≤ later) :
    behind time later (behind time horizon entries) = behind time later entries := by
  unfold behind
  rw [List.filter_filter]
  refine List.filter_congr fun entry _ => ?_
  by_cases counts : later < time entry
  · simp [counts, lt_of_le_of_lt forward counts]
  · simp [counts]

theorem behind_eq_mono (forward : horizon ≤ later)
    (same : behind time horizon kept = behind time horizon entries) :
    behind time later kept = behind time later entries := by
  rw [← behind_behind forward, same, behind_behind forward]

end Behind

section Total

theorem total_append [AddMonoid C] {cost : α → C} (entries others : List α) :
    total cost (entries ++ others) = total cost entries + total cost others := by
  simp [total]

variable [AddCommMonoid C] [PartialOrder C] [IsOrderedAddMonoid C] {cost : α → C}

theorem total_nonneg {entries : List α} (nonneg : ∀ entry ∈ entries, 0 ≤ cost entry) :
    0 ≤ total cost entries := by
  apply List.sum_nonneg
  simpa using nonneg

/-- Leaving entries out does not increase the cost. -/
theorem total_le_of_sublist {entries others : List α} (sublist : entries.Sublist others)
    (nonneg : ∀ entry ∈ others, 0 ≤ cost entry) : total cost entries ≤ total cost others := by
  refine List.Sublist.sum_le_sum (sublist.map cost) ?_
  simpa using nonneg

end Total

section Bound

variable [AddCommGroup T] [AddCommMonoid C] [PartialOrder C] {time : α → T} {cost : α → C}
  {width : T} {ceiling : C}

/-- The entries of every window of the width cost at most the ceiling. -/
def Within (time : α → T) (cost : α → C) (width : T) (ceiling : C) (entries : List α) : Prop :=
  ∀ moment, total cost (window time width moment entries) ≤ ceiling

theorem within_nil (nonneg : 0 ≤ ceiling) : Within time cost width ceiling [] := by
  intro moment
  simpa [window, total] using nonneg

variable [IsOrderedAddMonoid C] {entries : List α}

/-- Leaving entries out keeps the bound. -/
theorem Within.sublist {others : List α} (within : Within time cost width ceiling others)
    (sublist : entries.Sublist others) (nonneg : ∀ entry ∈ others, 0 ≤ cost entry) :
    Within time cost width ceiling entries := by
  intro moment
  refine le_trans (total_le_of_sublist (sublist.filter _) ?_) (within moment)
  intro entry member
  exact nonneg entry (List.mem_of_mem_filter member)

variable [IsOrderedAddMonoid T]

theorem window_sublist_behind {now moment : T} (forward : now ≤ moment) :
    (window time width moment entries).Sublist (behind time (now - width) entries) := by
  refine List.monotone_filter_right entries fun entry inside => ?_
  simp only [decide_eq_true_eq] at inside ⊢
  exact lt_of_le_of_lt (sub_le_sub_right forward width) inside.1

/-- An append which respects the bound at its own time respects it in every window. -/
theorem Within.concat {entry : α} (within : Within time cost width ceiling entries)
    (nonneg : ∀ other ∈ entries, 0 ≤ cost other)
    (affordable : total cost (behind time (time entry - width) entries) + cost entry ≤ ceiling) :
    Within time cost width ceiling (entries ++ [entry]) := by
  intro moment
  unfold window
  rw [List.filter_append]
  by_cases inside : moment - width < time entry ∧ time entry ≤ moment
  · -- every other entry of this window still counted when the new one was appended
    rw [List.filter_cons_of_pos (by simpa using inside), List.filter_nil, total_append]
    refine le_trans (add_le_add (total_le_of_sublist (window_sublist_behind inside.2) ?_) ?_)
      affordable
    · intro other member
      exact nonneg other (mem_behind.mp member).1
    · simp [total]
  · rw [List.filter_cons_of_neg (by simpa using inside), List.filter_nil, List.append_nil]
    exact within moment

end Bound

end SlidingWindow
