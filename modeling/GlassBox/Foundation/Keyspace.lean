import GlassBox.Foundation.Coupling

/-!
# Keyspaces

A server which keeps numbers, hashes and sorted sets under text keys.  A command on a key of
another kind raises, and a hash or set which becomes empty is removed.  Numbers are exact, and
nothing expires.
-/

inductive TableKind
  | hash
  | sortedSet
  deriving DecidableEq

/-- Names with numbers: the fields of a hash, or the members of a sorted set with their scores. -/
abbrev Table := AList fun _ : String => ℚ

/-- What a key holds. -/
inductive Datum
  | number (value : ℚ)
  | table (kind : TableKind) (entries : Table)

abbrev Keyspace := String → Option Datum

/-- A command met a key of another kind. -/
structure WrongType where
  key : String

namespace Table

/-- The order of a sorted set: by score and then by name. -/
def Ranks (left right : Sigma fun _ : String => ℚ) : Prop :=
  left.2 < right.2 ∨ (left.2 = right.2 ∧ left.1 ≤ right.1)

instance : DecidableRel Ranks := fun left right =>
  inferInstanceAs (Decidable (left.2 < right.2 ∨ (left.2 = right.2 ∧ left.1 ≤ right.1)))

/-- The members of a sorted set, in their order. -/
def ranked (table : Table) : List String := (table.entries.insertionSort Ranks).map Sigma.fst

def without (names : List String) (table : Table) : Table where
  entries := table.entries.filter fun entry => entry.1 ∉ names
  nodupKeys := table.nodupKeys.sublist List.filter_sublist

theorem ranked_perm (table : Table) : table.ranked.Perm table.keys :=
  (List.perm_insertionSort _ _).map Sigma.fst

section Ranks

variable {table : Table} {entry : Sigma fun _ : String => ℚ} {names : List String}

instance : Std.Total Ranks where
  total left right := by
    obtain less | same | more := lt_trichotomy left.2 right.2
    · exact .inl (.inl less)
    · exact (le_total left.1 right.1).imp (fun le => .inr ⟨same, le⟩) fun le => .inr ⟨same.symm, le⟩
    · exact .inr (.inl more)

instance : IsTrans (Sigma fun _ : String => ℚ) Ranks where
  trans := by
    rintro first second third (less | ⟨same, le⟩) (less' | ⟨same', le'⟩)
    · exact .inl (less.trans less')
    · exact .inl (same' ▸ less)
    · exact .inl (same ▸ less')
    · exact .inr ⟨same.trans same', le.trans le'⟩

theorem not_ranks_iff {left right : Sigma fun _ : String => ℚ} :
    ¬ Ranks left right ↔ right.2 < left.2 ∨ (right.2 = left.2 ∧ right.1 < left.1) := by
  unfold Ranks
  constructor
  · intro later
    rw [not_or, not_and, not_lt, not_le] at later
    obtain less | same := later.1.lt_or_eq
    · exact .inl less
    · exact .inr ⟨same, later.2 same.symm⟩
  · rintro (less | ⟨same, less⟩) (less' | ⟨_, le⟩)
    · exact less.asymm less'
    · exact absurd less (by simp_all)
    · exact less'.ne same.symm
    · exact (lt_of_lt_of_le less le).false

/-- The first member of a sorted set ranks before every other. -/
theorem head_ranked_iff (member : entry ∈ table.entries) :
    table.ranked.head? = some entry.1 ↔ ∀ other ∈ table.entries, Ranks entry other := by
  have sorted := List.pairwise_insertionSort Ranks table.entries
  have mem_iff : ∀ other, other ∈ table.entries ↔ other ∈ table.entries.insertionSort Ranks :=
    fun other => (List.mem_insertionSort Ranks).symm
  rw [ranked, List.head?_map]
  cases rows : table.entries.insertionSort Ranks with
  | nil =>
    rw [mem_iff, rows] at member
    cases member
  | cons first rest =>
    rw [rows] at sorted
    have first_ranks : ∀ other ∈ table.entries, Ranks first other := by
      intro other other_mem
      rw [mem_iff, rows, List.mem_cons] at other_mem
      obtain rfl | later := other_mem
      · exact .inr ⟨rfl, le_refl _⟩
      · exact List.rel_of_pairwise_cons sorted later
    have first_mem : first ∈ table.entries := by
      rw [mem_iff, rows]
      exact List.mem_cons_self
    rw [List.head?_cons, Option.map_some, Option.some.injEq]
    constructor
    · intro same
      rw [← List.inj_on_of_nodup_map table.nodupKeys first_mem member same]
      exact first_ranks
    · intro least
      obtain less | ⟨same, le⟩ := first_ranks entry member
      · exact absurd (least first first_mem) (not_ranks_iff.mpr (.inl less))
      · obtain less' | ⟨_, le'⟩ := least first first_mem
        · exact absurd same less'.ne'
        · exact le_antisymm le le'

/-- The members of a sorted set beyond a bound, the first ones first. -/
def overflow (bound : Nat) (table : Table) : List String :=
  table.ranked.take (table.entries.length - bound)

theorem length_ranked (table : Table) : table.ranked.length = table.entries.length := by
  rw [(ranked_perm table).length_eq]
  exact List.length_map _

theorem overflow_of_length_le {bound : Nat} (fits : table.entries.length ≤ bound) :
    table.overflow bound = [] := by
  rw [overflow, Nat.sub_eq_zero_of_le fits, List.take_zero]

theorem keys_without (names : List String) (table : Table) :
    (without names table).keys = table.keys.filter (· ∉ names) := by
  change (table.entries.filter _).map Sigma.fst = (table.entries.map Sigma.fst).filter _
  rw [List.filter_map]
  rfl

theorem mem_without {name : String} :
    name ∈ without names table ↔ name ∈ table ∧ name ∉ names := by
  rw [AList.mem_keys, keys_without, List.mem_filter, AList.mem_keys, decide_eq_true_eq]

theorem without_without {others : List String} :
    without names (without others table) = without (others ++ names) table := by
  apply AList.ext
  change (table.entries.filter _).filter _ = table.entries.filter _
  rw [List.filter_filter]
  refine List.filter_congr fun entry _ => ?_
  rw [Bool.eq_iff_iff, Bool.and_eq_true, decide_eq_true_eq, decide_eq_true_eq, decide_eq_true_eq,
    List.mem_append, not_or, and_comm]

theorem length_without_overflow_le (bound : Nat) (table : Table) :
    (without (table.overflow bound) table).entries.length ≤ bound := by
  have distinct : table.ranked.Nodup := (ranked_perm table).nodup_iff.mpr table.nodupKeys
  have kept : table.ranked.filter (· ∉ table.overflow bound) =
      table.ranked.drop (table.entries.length - bound) := by
    have apart := List.disjoint_take_drop distinct (le_refl (table.entries.length - bound))
    conv_lhs =>
      rw [← List.take_append_drop (table.entries.length - bound) table.ranked, List.filter_append]
    rw [List.filter_eq_nil_iff.mpr, List.nil_append, List.filter_eq_self.mpr]
    · exact fun name later => decide_eq_true fun early => apart early later
    · intro name early
      rw [decide_eq_true_eq, not_not]
      exact early
  calc
    (without (table.overflow bound) table).entries.length
        = (table.keys.filter (· ∉ table.overflow bound)).length := by
          rw [← keys_without]
          exact (List.length_map _).symm
    _ = (table.ranked.filter (· ∉ table.overflow bound)).length :=
          ((ranked_perm table).filter _).length_eq.symm
    _ = table.entries.length - (table.entries.length - bound) := by
          rw [kept, List.length_drop, length_ranked]
    _ ≤ bound := by omega

theorem mem_overflow_insert_iff {bound : Nat} (fits : table.entries.length ≤ bound) :
    entry.1 ∈ overflow bound (table.insert entry.1 entry.2) ↔
      bound ≤ table.entries.length ∧ entry.1 ∉ table ∧
        ∀ other ∈ table.entries, Ranks entry other := by
  by_cases known : entry.1 ∈ table
  · have keys_length : (table.insert entry.1 entry.2).keys.length = table.keys.length := by
      have positive : 0 < table.keys.length := List.length_pos_of_mem (AList.mem_keys.mp known)
      rw [AList.keys_insert, List.length_cons, List.length_erase_of_mem (AList.mem_keys.mp known)]
      omega
    have same : (table.insert entry.1 entry.2).entries.length = table.entries.length := by
      simpa [AList.keys, List.keys] using keys_length
    rw [overflow_of_length_le (same.trans_le fits)]
    simp [known]
  · have entries_eq : (table.insert entry.1 entry.2).entries = entry :: table.entries :=
      AList.entries_insert_of_notMem known
    by_cases full : bound ≤ table.entries.length
    · have one : (table.insert entry.1 entry.2).entries.length - bound = 1 := by
        rw [entries_eq, List.length_cons]
        omega
      have member : entry ∈ (table.insert entry.1 entry.2).entries := by
        rw [entries_eq]
        exact List.mem_cons_self
      have first_iff : entry.1 ∈ (ranked (table.insert entry.1 entry.2)).take 1 ↔
          (ranked (table.insert entry.1 entry.2)).head? = some entry.1 := by
        cases ranked (table.insert entry.1 entry.2) <;> simp [eq_comm]
      rw [overflow, one, first_iff, head_ranked_iff member, entries_eq]
      simp only [List.forall_mem_cons, full, known, not_false_eq_true, true_and]
      exact and_iff_right (.inr ⟨rfl, le_refl _⟩)
    · rw [overflow_of_length_le (by rw [entries_eq, List.length_cons]; omega)]
      simp [full]

end Ranks

section Tabulate

variable {α : Type} {name : α → String} {value : α → ℚ} {rows : List α}
  {distinct : (rows.map name).Nodup} {row : α}

/-- The table of some rows with distinct names, the last row first. -/
def tabulate (name : α → String) (value : α → ℚ) (rows : List α)
    (distinct : (rows.map name).Nodup) : Table where
  entries := (rows.map fun row => (⟨name row, value row⟩ : Sigma fun _ : String => ℚ)).reverse
  nodupKeys := by
    unfold List.NodupKeys List.keys
    rw [List.map_reverse, List.nodup_reverse, List.map_map]
    exact distinct

theorem keys_tabulate : (tabulate name value rows distinct).keys = (rows.map name).reverse := by
  change ((rows.map _).reverse).map Sigma.fst = _
  rw [List.map_reverse, List.map_map]
  rfl

theorem lookup_tabulate (member : row ∈ rows) :
    (tabulate name value rows distinct).lookup (name row) = some (value row) := by
  exact AList.mem_lookup_iff.mpr (List.mem_reverse.mpr (List.mem_map_of_mem member))

theorem lookup_tabulate_isSome {text : String} :
    ((tabulate name value rows distinct).lookup text).isSome = true ↔
      ∃ row ∈ rows, name row = text := by
  rw [AList.lookup_isSome, AList.mem_keys, keys_tabulate, List.mem_reverse, List.mem_map]

/-- The members whose scores pass a test, in the order of the rows. -/
theorem ranked_filter_perm (test : ℚ → Bool) :
    ((tabulate name value rows distinct).ranked.filter fun text =>
      ((tabulate name value rows distinct).lookup text).any test).Perm
        ((rows.filter fun row => test (value row)).map name) := by
  have ranked := (ranked_perm (tabulate name value rows distinct)).trans
    (keys_tabulate ▸ List.reverse_perm _)
  refine (ranked.filter _).trans ?_
  rw [List.filter_map]
  refine List.Perm.of_eq (congrArg (List.map name) (List.filter_congr fun row member => ?_))
  simp [lookup_tabulate member]

theorem insert_tabulate (fresh : ∀ other ∈ rows, name other ≠ name row)
    (distinct' : ((rows ++ [row]).map name).Nodup) :
    (tabulate name value rows distinct).insert (name row) (value row) =
      tabulate name value (rows ++ [row]) distinct' := by
  have absent : name row ∉ tabulate name value rows distinct := by
    rw [AList.mem_keys, keys_tabulate, List.mem_reverse, List.mem_map]
    rintro ⟨other, member, same⟩
    exact fresh other member same
  apply AList.ext
  rw [AList.entries_insert_of_notMem absent]
  simp [tabulate]

theorem without_tabulate {names : List String} {keep : α → Bool}
    (kept : ∀ row ∈ rows, (name row ∈ names ↔ keep row = false))
    (distinct' : ((rows.filter keep).map name).Nodup) :
    without names (tabulate name value rows distinct) =
      tabulate name value (rows.filter keep) distinct' := by
  apply AList.ext
  change ((rows.map _).reverse.filter _) = ((rows.filter keep).map _).reverse
  rw [List.filter_reverse, List.filter_map]
  refine congrArg (fun rows => (List.map _ rows).reverse) (List.filter_congr fun row member => ?_)
  cases decision : keep row with
  | true => simp [mt (kept row member).mp (by simp [decision])]
  | false => simp [(kept row member).mpr decision]

end Tabulate

end Table

namespace Keyspace

def tableAt (kind : TableKind) (key : String) (space : Keyspace) : Option Table :=
  match space key with
  | none => some ∅
  | some (.table held entries) => if held = kind then some entries else none
  | some (.number _) => none

/-- The number a key holds, if it holds anything, and nothing else. -/
def numberAt (key : String) (space : Keyspace) : Option (Option ℚ) :=
  match space key with
  | none => some none
  | some (.number value) => some (some value)
  | some (.table ..) => none

/-- Store a table; an empty one is removed. -/
def putTable (kind : TableKind) (key : String) (entries : Table) (space : Keyspace) : Keyspace :=
  Function.update space key (if entries.entries = [] then none else some (.table kind entries))

abbrev Script := EStateM WrongType Keyspace

/-- What was found under a key, or the error of a key of another kind. -/
def expect {α : Type} (key : String) : Option α → Script α
  | some found => return found
  | none => throw ⟨key⟩

def readTable (kind : TableKind) (key : String) : Script Table := do
  expect key (tableAt kind key (← get))

/-- `ZADD` and `HSET` of one name. -/
def insertEntry (kind : TableKind) (key name : String) (value : ℚ) : Script Unit := do
  let entries ← readTable kind key
  modify (putTable kind key (entries.insert name value))

/-- `ZREM` and `HDEL`. -/
def eraseEntries (kind : TableKind) (key : String) (names : List String) : Script Unit := do
  let entries ← readTable kind key
  modify (putTable kind key (Table.without names entries))

/-- `ZRANGE key 0 -1`. -/
def zrange (key : String) : Script (List String) := Table.ranked <$> readTable .sortedSet key

/-- `ZRANGEBYSCORE`, for the scores which satisfy a test. -/
def zrangeByScore (key : String) (test : ℚ → Bool) : Script (List String) := do
  let scores ← readTable .sortedSet key
  return (Table.ranked scores).filter fun name => (scores.lookup name).any test

def zcard (key : String) : Script Nat := do
  let scores ← readTable .sortedSet key
  return scores.entries.length

def hmget (key : String) (names : List String) : Script (List (Option ℚ)) := do
  let fields ← readTable .hash key
  return names.map fields.lookup

def hexists (key name : String) : Script Bool := do
  let fields ← readTable .hash key
  return (fields.lookup name).isSome

def getNumber (key : String) : Script (Option ℚ) := do
  expect key (numberAt key (← get))

def setNumber (key : String) (value : ℚ) : Script Unit :=
  modify fun space => Function.update space key (some (.number value))

def del (keys : List String) : Script Unit :=
  modify fun space key => if key ∈ keys then none else space key

open EStateM

section Runs

variable {kind : TableKind} {key name : String} {names : List String} {value : ℚ}
  {entries : Table} {space : Keyspace}

@[simp]
theorem tableAt_putTable : tableAt kind key (putTable kind key entries space) = some entries := by
  unfold tableAt putTable
  rw [Function.update_self]
  by_cases empty : entries.entries = []
  · rw [if_pos empty]
    exact congrArg some (AList.ext empty.symm)
  · rw [if_neg empty]
    exact if_pos rfl

theorem putTable_of_ne {other : String} (ne : other ≠ key) :
    putTable kind key entries space other = space other :=
  Function.update_of_ne ne _ _

theorem numberAt_update :
    numberAt key (Function.update space key (some (.number value))) = some (some value) := by
  unfold numberAt
  rw [Function.update_self]

section

variable (found : tableAt kind key space = some entries)
include found

theorem readTable_run :
    readTable kind key space = .ok entries space := by
  unfold readTable
  rw [bind_of_ok (get_run space), found]
  rfl

theorem insertEntry_run :
    insertEntry kind key name value space =
      .ok () (putTable kind key (entries.insert name value) space) := by
  unfold insertEntry
  rw [bind_of_ok (readTable_run found)]
  rfl

theorem eraseEntries_run :
    eraseEntries kind key names space =
      .ok () (putTable kind key (Table.without names entries) space) := by
  unfold eraseEntries
  rw [bind_of_ok (readTable_run found)]
  rfl

end

section

variable (found : tableAt .sortedSet key space = some entries)
include found

theorem zrange_run :
    zrange key space = .ok (Table.ranked entries) space := by
  have run := @map_of_endingIn _ _ _ _ _ Table.ranked space space (.ok entries)
    (readTable_run found)
  exact run

theorem zcard_run :
    zcard key space = .ok entries.entries.length space := by
  unfold zcard
  rw [bind_of_ok (readTable_run found)]
  rfl

theorem zrangeByScore_run {test : ℚ → Bool} :
    zrangeByScore key test space =
      .ok ((Table.ranked entries).filter fun name => (entries.lookup name).any test) space := by
  unfold zrangeByScore
  rw [bind_of_ok (readTable_run found)]
  rfl

end

theorem hmget_run (found : tableAt .hash key space = some entries) :
    hmget key names space = .ok (names.map entries.lookup) space := by
  unfold hmget
  rw [bind_of_ok (readTable_run found)]
  rfl

theorem hexists_run (found : tableAt .hash key space = some entries) :
    hexists key name space = .ok (entries.lookup name).isSome space := by
  unfold hexists
  rw [bind_of_ok (readTable_run found)]
  rfl

theorem getNumber_run {number : Option ℚ} (found : numberAt key space = some number) :
    getNumber key space = .ok number space := by
  unfold getNumber
  rw [bind_of_ok (get_run space), found]
  rfl

end Runs

/-- Two servers which hold the same under some keys. -/
def SameOn (keys : Set String) (left right : Keyspace) : Prop :=
  ∀ key ∈ keys, left key = right key

section Coupling

variable {keys : Set String} {key name : String} {kind : TableKind} {left right : Keyspace}
  {value : ℚ} {names : List String}

theorem tableAt_congr (same : left key = right key) :
    tableAt kind key left = tableAt kind key right := by
  unfold tableAt
  rw [same]

theorem numberAt_congr (same : left key = right key) :
    numberAt key left = numberAt key right := by
  unfold numberAt
  rw [same]

theorem couples_expect {α : Type} (found : Option α) :
    (expect key found).Couples (SameOn keys) := by
  cases found with
  | some value => exact couples_pure value
  | none => exact couples_throw (WrongType.mk key)

theorem couples_readTable (member : key ∈ keys) : (readTable kind key).Couples (SameOn keys) := by
  unfold readTable
  exact couples_get_bind (fun _ _ same => tableAt_congr (same key member)) couples_expect

theorem couples_getNumber (member : key ∈ keys) : (getNumber key).Couples (SameOn keys) := by
  unfold getNumber
  exact couples_get_bind (fun _ _ same => numberAt_congr (same key member)) couples_expect

/-- Writing one value under a key on both sides. -/
theorem SameOn.update (same : SameOn keys left right) (datum : Option Datum) :
    SameOn keys (Function.update left key datum) (Function.update right key datum) := by
  intro other member
  by_cases equal : other = key
  · subst equal
    rw [Function.update_self, Function.update_self]
  · rw [Function.update_of_ne equal, Function.update_of_ne equal, same other member]

section

variable (member : key ∈ keys)
include member

theorem couples_insertEntry :
    (insertEntry kind key name value).Couples (SameOn keys) :=
  (couples_readTable member).bind fun _ => couples_modify fun _ _ same => same.update _

theorem couples_eraseEntries :
    (eraseEntries kind key names).Couples (SameOn keys) :=
  (couples_readTable member).bind fun _ => couples_modify fun _ _ same => same.update _

theorem couples_zrange : (zrange key).Couples (SameOn keys) :=
  (couples_readTable member).map _

theorem couples_zrangeByScore {test : ℚ → Bool} :
    (zrangeByScore key test).Couples (SameOn keys) :=
  (couples_readTable member).bind fun _ => couples_pure _

theorem couples_zcard : (zcard key).Couples (SameOn keys) :=
  (couples_readTable member).bind fun _ => couples_pure _

theorem couples_hmget : (hmget key names).Couples (SameOn keys) :=
  (couples_readTable member).bind fun _ => couples_pure _

theorem couples_hexists : (hexists key name).Couples (SameOn keys) :=
  (couples_readTable member).bind fun _ => couples_pure _

end

theorem couples_setNumber : (setNumber key value).Couples (SameOn keys) :=
  couples_modify fun _ _ same => same.update _

theorem couples_del {removed : List String} : (del removed).Couples (SameOn keys) := by
  refine couples_modify fun left right same other member => ?_
  rw [same other member]

end Coupling

section Frames

variable {keys : Set String} {key name : String} {kind : TableKind} {space : Keyspace}

theorem SameOn.refl (space : Keyspace) : SameOn keys space space := fun _ _ => rfl

theorem SameOn.symm {left right : Keyspace} (same : SameOn keys left right) :
    SameOn keys right left := fun key member => (same key member).symm

theorem SameOn.trans {first second third : Keyspace} (front : SameOn keys first second)
    (back : SameOn keys second third) : SameOn keys first third :=
  fun key member => (front key member).trans (back key member)

theorem ends_readTable {returns : Table → Keyspace → Prop} {raises : WrongType → Keyspace → Prop} :
    (readTable kind key).Ends space returns raises ↔
      match tableAt kind key space with
      | some entries => returns entries space
      | none => raises ⟨key⟩ space := by
  unfold readTable
  rw [ends_bind, ends_get]
  cases tableAt kind key space with
  | some entries | none => rfl

theorem within_readTable_bind {α : Type} {relation : Keyspace → Keyspace → Prop}
    (reflexive : ∀ space, relation space space) {next : Table → Script α}
    (back : ∀ entries, (next entries).Within relation) :
    (readTable kind key >>= next).Within relation := by
  rw [within_iff_ends]
  intro space
  rw [ends_bind, ends_readTable]
  cases tableAt kind key space with
  | some entries => exact within_iff_ends.mp (back entries) space
  | none => exact reflexive space

section Reads

variable {relation : Keyspace → Keyspace → Prop} (reflexive : ∀ space, relation space space)
include reflexive

theorem within_zrange : (zrange key).Within relation := by
  rw [within_iff_ends]
  intro space
  unfold zrange
  rw [ends_map, ends_readTable]
  cases tableAt .sortedSet key space with
  | some entries | none => exact reflexive space

theorem within_zrangeByScore {test : ℚ → Bool} : (zrangeByScore key test).Within relation :=
  within_readTable_bind reflexive fun _ => within_pure reflexive _

theorem within_zcard : (zcard key).Within relation :=
  within_readTable_bind reflexive fun _ => within_pure reflexive _

theorem within_hmget {names : List String} : (hmget key names).Within relation :=
  within_readTable_bind reflexive fun _ => within_pure reflexive _

theorem within_hexists : (hexists key name).Within relation :=
  within_readTable_bind reflexive fun _ => within_pure reflexive _

theorem within_getNumber : (getNumber key).Within relation := by
  rw [within_iff_ends]
  intro space
  unfold getNumber
  rw [ends_bind, ends_get]
  cases numberAt key space with
  | some number | none => exact reflexive space

end Reads

theorem sameOn_update {datum : Option Datum} (foreign : key ∉ keys) :
    SameOn keys space (Function.update space key datum) := by
  intro other member
  have ne : other ≠ key := by
    rintro rfl
    exact foreign member
  rw [Function.update_of_ne ne]

end Frames

end Keyspace
