import Mathlib

/-!
# Linked and authenticated chains

Each row of a chain carries a number, a link to the tag of the row before it and a tag of its own.
`Linked` says that the numbers are consecutive, the links agree and each row is authentic.  When a
tag authenticates at most one row, the rows accepted before the first failure are the common prefix
with a linked list.
-/

/-- How a row exposes its place in a chain. -/
structure ChainView (Row Tag : Type*) where
  /-- The position the row claims. -/
  seq : Row → Int
  /-- The link to the row before it. -/
  prev : Row → Tag
  /-- The tag later rows link to. -/
  tag : Row → Tag

namespace ChainView

section Linked

variable {Row Tag : Type*} (view : ChainView Row Tag) (authentic : Row → Prop) {rows : List Row}
  {row : Row} {start : Int} {head : Tag}

/-- The row stands at the expected position, links to the expected tag and is authentic. -/
def Accepted (start : Int) (head : Tag) (row : Row) : Prop :=
  view.seq row = start ∧ view.prev row = head ∧ authentic row

/-- Consecutive authentic rows from position `start`, the first one linked to `head`. -/
def Linked : Int → Tag → List Row → Prop
  | _, _, [] => True
  | start, head, row :: rows =>
    view.Accepted authentic start head row ∧ Linked (start + 1) (view.tag row) rows

/-- The tag a row appended after `rows` must link to. -/
def lastTag (head : Tag) : List Row → Tag
  | [] => head
  | row :: rows => lastTag (view.tag row) rows

@[simp]
theorem linked_nil (start : Int) (head : Tag) : view.Linked authentic start head [] := trivial

@[simp]
theorem linked_cons (start : Int) (head : Tag) (row : Row) (rows : List Row) :
    view.Linked authentic start head (row :: rows) ↔
      view.Accepted authentic start head row ∧
        view.Linked authentic (start + 1) (view.tag row) rows :=
  Iff.rfl

@[simp]
theorem lastTag_nil (head : Tag) : view.lastTag head ([] : List Row) = head := rfl

@[simp]
theorem lastTag_concat (head : Tag) (rows : List Row) (row : Row) :
    view.lastTag head (rows ++ [row]) = view.tag row := by
  induction rows generalizing head with
  | nil => rfl
  | cons first rows ih => exact ih (view.tag first)

theorem lastTag_append (head : Tag) (front back : List Row) :
    view.lastTag head (front ++ back) = view.lastTag (view.lastTag head front) back := by
  induction front generalizing head with
  | nil => rfl
  | cons first front ih => exact ih (view.tag first)

/-- The head link matters only for an empty chain. -/
theorem lastTag_eq_getLast (head : Tag) (rows : List Row) :
    view.lastTag head rows = (rows.getLast?.map view.tag).getD head := by
  rcases List.eq_nil_or_concat rows with rfl | ⟨front, row, rfl⟩
  · rfl
  · simp

theorem lastTag_take_succ (head : Tag) {index : Nat} (found : rows[index]? = some row) :
    view.lastTag head (rows.take (index + 1)) = view.tag row := by
  rw [List.take_add_one, found, Option.toList_some, lastTag_concat]

theorem linked_append (start : Int) (head : Tag) (front back : List Row) :
    view.Linked authentic start head (front ++ back) ↔
      view.Linked authentic start head front ∧
        view.Linked authentic (start + front.length) (view.lastTag head front) back := by
  induction front generalizing start head with
  | nil => simp
  | cons row front ih =>
    have shift : start + 1 + (front.length : Int) = start + ((row :: front).length : Int) := by
      rw [List.length_cons]
      omega
    rw [List.cons_append, linked_cons, ih, linked_cons, and_assoc, shift]
    rfl

variable {view authentic}

/-- Authenticity may be replaced by a weaker requirement on the rows of the chain. -/
theorem Linked.mono {strong weak : Row → Prop}
    (linked : view.Linked strong start head rows) (embed : ∀ row ∈ rows, strong row → weak row) :
    view.Linked weak start head rows := by
  induction rows generalizing start head with
  | nil => trivial
  | cons row rows ih =>
    obtain ⟨⟨seq_eq, prev_eq, authentic⟩, rest⟩ := linked
    refine ⟨⟨seq_eq, prev_eq, embed row List.mem_cons_self authentic⟩, ih rest ?_⟩
    intro later member
    exact embed later (List.mem_cons_of_mem _ member)

variable (linked : view.Linked authentic start head rows)
include linked

/-- One accepted row at the end extends a chain. -/
theorem Linked.concat
    (accepted : view.Accepted authentic (start + rows.length) (view.lastTag head rows) row) :
    view.Linked authentic start head (rows ++ [row]) := by
  rw [linked_append]
  exact ⟨linked, accepted, trivial⟩

/-- Dropping a prefix leaves a chain which starts after it and links to its last tag. -/
theorem Linked.drop (count : Nat) (within : count ≤ rows.length) :
    view.Linked authentic (start + count) (view.lastTag head (rows.take count))
      (rows.drop count) := by
  rw [← List.take_append_drop count rows, linked_append] at linked
  simpa [List.length_take, Nat.min_eq_left within] using linked.2

theorem Linked.seq_getElem (index : Nat) (within : index < rows.length) :
    view.seq rows[index] = start + index := by
  induction rows generalizing start head index with
  | nil => simp at within
  | cons row rows ih =>
    cases index with
    | zero => simpa using linked.1.1
    | succ index =>
      have later := ih linked.2 index (by simpa using within)
      rw [List.getElem_cons_succ, later]
      omega

theorem Linked.getElem_of_mem (member : row ∈ rows) :
    ∃ index : Nat, view.seq row = start + index ∧ rows[index]? = some row := by
  obtain ⟨index, within, rfl⟩ := List.getElem_of_mem member
  exact ⟨index, linked.seq_getElem index within, List.getElem?_eq_getElem within⟩

/-- Later rows of a chain carry higher numbers. -/
theorem Linked.pairwise_seq :
    rows.Pairwise fun earlier later => view.seq earlier < view.seq later := by
  rw [List.pairwise_iff_getElem]
  intro left right left_lt right_lt before
  rw [linked.seq_getElem left left_lt, linked.seq_getElem right right_lt]
  omega

/-- The rows from a number on are what remains after the rows below it. -/
theorem Linked.filter_seq (bound : Int) :
    rows.filter (fun row => !decide (view.seq row < bound)) = rows.drop (bound - start).toNat := by
  induction rows generalizing start head with
  | nil => simp
  | cons row rows ih =>
    have seq_eq := linked.1.1
    have rest := ih linked.2
    by_cases below : view.seq row < bound
    · have count : (bound - start).toNat = (bound - (start + 1)).toNat + 1 := by omega
      rw [List.filter_cons_of_neg (by simp [below]), rest, count, List.drop_succ_cons]
    · have none_below : (bound - start).toNat = 0 := by omega
      have none_later : (bound - (start + 1)).toNat = 0 := by omega
      rw [List.filter_cons_of_pos (by simp [below]), rest, none_below, none_later]
      rfl

theorem Linked.authentic_of_mem (member : row ∈ rows) : authentic row := by
  induction rows generalizing start head with
  | nil => simp at member
  | cons first rows ih =>
    rcases List.mem_cons.mp member with rfl | member
    · exact linked.1.2.2
    · exact ih linked.2 member

/-- Rows of a chain which form a chain of their own from the same start are its first rows. -/
theorem Linked.isPrefix {kept : List Row}
    (kept_linked : view.Linked authentic start head kept) (subset : kept ⊆ rows) :
    kept <+: rows := by
  rw [List.prefix_iff_getElem?]
  intro index within
  obtain ⟨place, seq_eq, found⟩ := linked.getElem_of_mem (subset (List.getElem_mem within))
  have kept_seq := kept_linked.seq_getElem index within
  have place_eq : place = index := by omega
  rwa [place_eq] at found

/-- What is left of a chain is a chain exactly when no row behind a removed one is left. -/
theorem Linked.filter_iff (keep : Row → Bool) :
    view.Linked authentic start head (rows.filter keep) ↔
      ∀ earlier ∈ rows, ∀ later ∈ rows, view.seq earlier < view.seq later →
        keep later = true → keep earlier = true := by
  constructor
  · intro kept_linked earlier earlier_mem later later_mem before kept
    have first := linked.isPrefix kept_linked (List.filter_subset_self _)
    obtain ⟨index, index_seq, index_eq⟩ := linked.getElem_of_mem earlier_mem
    obtain ⟨place, place_seq, place_eq⟩ :=
      kept_linked.getElem_of_mem (List.mem_filter.mpr ⟨later_mem, kept⟩)
    have within : index < (rows.filter keep).length := by
      have := (List.getElem?_eq_some_iff.mp place_eq).1
      omega
    have found := List.prefix_iff_getElem?.mp first index within
    rw [index_eq, Option.some_inj] at found
    rw [found]
    exact (List.mem_filter.mp (List.getElem_mem within)).2
  · intro closed
    induction rows generalizing start head with
    | nil => trivial
    | cons row rows ih =>
      have rest := ih linked.2 fun earlier earlier_mem later later_mem =>
        closed earlier (List.mem_cons_of_mem _ earlier_mem) later
          (List.mem_cons_of_mem _ later_mem)
      by_cases kept : keep row = true
      · rw [List.filter_cons_of_pos kept]
        exact ⟨linked.1, rest⟩
      · have none_later : rows.filter keep = [] := by
          rw [List.filter_eq_nil_iff]
          intro later member later_kept
          have below := (List.pairwise_cons.mp linked.pairwise_seq).1 later member
          exact kept (closed row List.mem_cons_self later (List.mem_cons_of_mem _ member) below
            later_kept)
        rw [List.filter_cons_of_neg kept, none_later]
        trivial

end Linked

section Comparison

variable {Row Tag : Type*} {same : Row → Row → Prop} {view : ChainView Row Tag}
  {authentic : Row → Prop} {rows : List Row} {start : Int} {head : Tag}

/-- Length of the longest common prefix of two lists whose entries are compared by `same`. -/
def commonPrefixLength (same : Row → Row → Prop) [DecidableRel same] : List Row → List Row → Nat
  | left :: lefts, right :: rights =>
    if same left right then commonPrefixLength same lefts rights + 1 else 0
  | _, _ => 0

theorem commonPrefixLength_append (same : Row → Row → Prop) [DecidableRel same]
    {front matched : List Row} (agree : List.Forall₂ same front matched) (left right : List Row) :
    commonPrefixLength same (front ++ left) (matched ++ right) =
      front.length + commonPrefixLength same left right := by
  induction agree with
  | nil => simp
  | cons first _ ih =>
    simp only [List.cons_append, commonPrefixLength, first, if_true, ih, List.length_cons]
    omega

/-- A comparison of rows under which a tag of a genuine chain belongs to one row only. -/
structure Binding (view : ChainView Row Tag) (authentic : Row → Prop)
    (same : Row → Row → Prop) (rows : List Row) : Prop where
  seq_eq : ∀ {left right}, same left right → view.seq left = view.seq right
  prev_eq : ∀ {left right}, same left right → view.prev left = view.prev right
  tag_eq : ∀ {left right}, same left right → view.tag left = view.tag right
  /-- A row compared with a genuine one is authentic. -/
  authentic_of : ∀ {left right}, same left right → right ∈ rows → authentic left
  /-- An authentic row with the tag of a genuine one is that row. -/
  binds : ∀ {left right}, authentic left → right ∈ rows → view.tag left = view.tag right →
    same left right

theorem lastTag_congr (view : ChainView Row Tag)
    (tag_eq : ∀ {left right}, same left right → view.tag left = view.tag right)
    {lefts rights : List Row} (agree : List.Forall₂ same lefts rights) (head : Tag) :
    view.lastTag head lefts = view.lastTag head rights := by
  induction agree generalizing head with
  | nil => rfl
  | cons first _ ih =>
    simp only [lastTag, tag_eq first]
    exact ih _

/-- Within a genuine chain, a row is accepted next exactly when it is the chain's next row. -/
theorem Binding.accepted_iff (binding : Binding view authentic same rows)
    (linked : view.Linked authentic start head rows) (index : Nat) {row : Row}
    (known : ∃ genuine ∈ rows, view.tag row = view.tag genuine) :
    view.Accepted authentic (start + index) (view.lastTag head (rows.take index)) row ↔
      ∃ within : index < rows.length, same row rows[index] := by
  constructor
  · rintro ⟨seq_row, -, authentic_row⟩
    obtain ⟨genuine, member, tag_row⟩ := known
    have agree := binding.binds authentic_row member tag_row
    obtain ⟨place, within, rfl⟩ := List.getElem_of_mem member
    have seq_genuine := linked.seq_getElem place within
    have place_eq : place = index := by
      have := binding.seq_eq agree
      omega
    subst place_eq
    exact ⟨within, agree⟩
  · rintro ⟨within, agree⟩
    have rest := linked.drop index (Nat.le_of_lt within)
    rw [List.drop_eq_getElem_cons within] at rest
    obtain ⟨⟨seq_eq, prev_eq, -⟩, -⟩ := rest
    exact ⟨(binding.seq_eq agree).trans seq_eq, (binding.prev_eq agree).trans prev_eq,
      binding.authentic_of agree (List.getElem_mem within)⟩

/-- A list agrees with a prefix of `rows` when its front does and its last entry comes next. -/
theorem forall₂_concat_take (front : List Row) (row : Row) (rows : List Row) :
    List.Forall₂ same (front ++ [row]) (rows.take (front.length + 1)) ↔
      List.Forall₂ same front (rows.take front.length) ∧
        ∃ within : front.length < rows.length, same row rows[front.length] := by
  constructor
  · intro agree
    have lengths := agree.length_eq
    simp only [List.length_append, List.length_singleton, List.length_take] at lengths
    have within : front.length < rows.length := by omega
    have front_length : (rows.take front.length).length = front.length := by
      rw [List.length_take]
      omega
    rw [List.take_add_one, List.getElem?_eq_getElem within] at agree
    have front_agree := List.forall₂_take_append _ _ _ agree
    have last_agree := List.forall₂_drop_append _ _ _ agree
    rw [front_length, List.take_left] at front_agree
    rw [front_length, List.drop_left] at last_agree
    exact ⟨front_agree, within, by simpa using last_agree⟩
  · rintro ⟨agree, within, last⟩
    rw [List.take_add_one, List.getElem?_eq_getElem within]
    exact List.rel_append agree (List.Forall₂.cons last .nil)

/-- Rows carrying tags of a genuine chain are linked exactly when they repeat a prefix of it. -/
theorem Binding.linked_iff (binding : Binding view authentic same rows)
    (linked : view.Linked authentic start head rows) (candidate : List Row)
    (known : ∀ row ∈ candidate, ∃ genuine ∈ rows, view.tag row = view.tag genuine) :
    view.Linked authentic start head candidate ↔
      List.Forall₂ same candidate (rows.take candidate.length) := by
  induction candidate using List.reverseRecOn with
  | nil => simp
  | append_singleton front row ih =>
    have front_iff := ih fun other member => known other (List.mem_append_left _ member)
    have next_iff := binding.accepted_iff linked front.length (known row (by simp))
    rw [linked_append, front_iff, List.length_append, List.length_singleton, forall₂_concat_take]
    refine and_congr_right fun agree => ?_
    rw [← next_iff, lastTag_congr view binding.tag_eq agree]
    exact and_iff_left trivial

theorem Binding.commonPrefixLength_eq [DecidableRel same]
    (binding : Binding view authentic same rows) (linked : view.Linked authentic start head rows)
    {front back : List Row} {row : Row}
    (known : ∀ other ∈ front ++ row :: back, ∃ genuine ∈ rows, view.tag other = view.tag genuine)
    (front_linked : view.Linked authentic start head front)
    (rejected : ¬ view.Accepted authentic (start + front.length) (view.lastTag head front) row) :
    commonPrefixLength same (front ++ row :: back) rows = front.length := by
  have agree := (binding.linked_iff linked front fun other member =>
    known other (List.mem_append_left _ member)).mp front_linked
  have next_iff := binding.accepted_iff linked front.length (known row (by simp))
  rw [← lastTag_congr view binding.tag_eq agree] at next_iff
  have differs : ¬ ∃ within : front.length < rows.length, same row rows[front.length] :=
    fun next => rejected (next_iff.mpr next)
  conv_lhs => rw [← List.take_append_drop front.length rows]
  rw [commonPrefixLength_append same agree]
  cases rest : rows.drop front.length with
  | nil => simp [commonPrefixLength]
  | cons next later =>
    have within : front.length < rows.length := by
      by_contra outside
      rw [List.drop_eq_nil_of_le (by omega)] at rest
      simp at rest
    rw [List.drop_eq_getElem_cons within] at rest
    obtain ⟨rfl, rfl⟩ := List.cons.inj rest
    have unequal : ¬ same row rows[front.length] := fun equal => differs ⟨within, equal⟩
    simp [commonPrefixLength, unequal]

end Comparison

end ChainView
