import GlassBox.Adapters.Redis.LimitStore

/-!
# The Redis limit store as a family of counters

The three keys of a counter hold its admissions by time, its admissions by cost and its cooldown.
While they do, each script changes the counter the way `LimitCounter` says, and no other key.
-/

namespace GlassBox

open EStateM

open Keyspace SlidingWindow

namespace RedisLimitStore

namespace CounterKeys

structure Distinct (keys : CounterKeys) : Prop where
  window_cost : keys.window ≠ keys.cost
  window_cooldown : keys.window ≠ keys.cooldown
  cost_cooldown : keys.cost ≠ keys.cooldown

def others (keys : CounterKeys) : Set String :=
  {key | key ≠ keys.window ∧ key ≠ keys.cost ∧ key ≠ keys.cooldown}

theorem notMem_others {keys : CounterKeys} {key : String} :
    key ∉ keys.others ↔ key = keys.window ∨ key = keys.cost ∨ key = keys.cooldown := by
  simp only [others, Set.mem_ofPred_eq]
  tauto

end CounterKeys

structure Holds (keys : CounterKeys) (counter : LimitCounter) (space : Keyspace) : Prop where
  distinct : (counter.admissions.map Admission.member).Nodup
  window : tableAt .sortedSet keys.window space =
    some (Table.tabulate Admission.member Admission.timestamp counter.admissions distinct)
  cost : tableAt .hash keys.cost space =
    some (Table.tabulate Admission.member Admission.cost counter.admissions distinct)
  cooldown : numberAt keys.cooldown space = some counter.cooldown

theorem holds_empty {keys : CounterKeys} {space : Keyspace} (window : space keys.window = none)
    (cost : space keys.cost = none) (cooldown : space keys.cooldown = none) :
    Holds keys {} space where
  distinct := List.nodup_nil
  window := by
    unfold tableAt
    rw [window]
    rfl
  cost := by
    unfold tableAt
    rw [cost]
    rfl
  cooldown := by
    unfold numberAt
    rw [cooldown]

variable {keys : CounterKeys} {counter : LimitCounter} {space : Keyspace} {left right : String}

section

variable (holds : Holds keys counter space)
include holds

theorem Holds.congr {after : Keyspace}
    (window : after keys.window = space keys.window) (cost : after keys.cost = space keys.cost)
    (cooldown : after keys.cooldown = space keys.cooldown) : Holds keys counter after where
  distinct := holds.distinct
  window := (tableAt_congr window).trans holds.window
  cost := (tableAt_congr cost).trans holds.cost
  cooldown := (numberAt_congr cooldown).trans holds.cooldown

theorem sumCosts_run {members : List String}
    {chosen : List Admission} (subset : chosen ⊆ counter.admissions)
    (perm : members.Perm (chosen.map Admission.member)) :
    sumCosts keys.cost members space = .ok (total Admission.cost chosen) space := by
  unfold sumCosts
  by_cases empty : members = []
  · rw [if_pos empty]
    rw [empty, List.nil_perm, List.map_eq_nil_iff] at perm
    rw [perm]
    rfl
  · rw [if_neg empty, bind_of_ok (hmget_run holds.cost)]
    have costs : (chosen.map Admission.member).map
        (Table.tabulate Admission.member Admission.cost counter.admissions holds.distinct).lookup =
          (chosen.map Admission.cost).map some := by
      rw [List.map_map, List.map_map]
      exact List.map_congr_left fun row member => Table.lookup_tabulate (subset member)
    have found := (perm.map (Table.tabulate Admission.member Admission.cost counter.admissions
      holds.distinct).lookup).filterMap id
    have present : ((chosen.map Admission.cost).map some).filterMap id =
        chosen.map Admission.cost := by simp
    rw [costs, present] at found
    exact congrArg (fun cost => EStateM.Result.ok cost space) found.sum_eq

theorem observed_run :
    observed keys space = .ok (total Admission.cost counter.admissions) space := by
  unfold observed
  rw [bind_of_ok (zrange_run holds.window)]
  exact sumCosts_run holds (List.Subset.refl _)
    ((Table.ranked_perm _).trans (Table.keys_tabulate ▸ List.reverse_perm _))

theorem cumulativeScript_run (horizon : ℚ) :
    cumulativeScript keys horizon space = .ok (counter.cumulative horizon) space := by
  unfold cumulativeScript
  rw [bind_of_ok (zrangeByScore_run holds.window)]
  exact sumCosts_run holds List.filter_sublist.subset (Table.ranked_filter_perm _)

theorem Holds.cost_putWindow (apart : keys.Distinct) (scores : Table) :
    tableAt .hash keys.cost (putTable .sortedSet keys.window scores space) =
      some (Table.tabulate Admission.member Admission.cost counter.admissions holds.distinct) :=
  (tableAt_congr (putTable_of_ne apart.window_cost.symm)).trans holds.cost

theorem Holds.putTables (apart : keys.Distinct)
    {admissions : List Admission} (distinct : (admissions.map Admission.member).Nodup) :
    Holds keys { counter with admissions }
      (putTable .hash keys.cost (Table.tabulate Admission.member Admission.cost admissions distinct)
        (putTable .sortedSet keys.window
          (Table.tabulate Admission.member Admission.timestamp admissions distinct) space)) where
  distinct := distinct
  window := by rw [tableAt_congr (putTable_of_ne apart.window_cost), tableAt_putTable]
  cost := tableAt_putTable
  cooldown := by
    rw [numberAt_congr (putTable_of_ne apart.cost_cooldown.symm),
      numberAt_congr (putTable_of_ne apart.window_cooldown.symm), holds.cooldown]

end

theorem sameOn_putTables {costs scores : Table} :
    SameOn keys.others space
      (putTable .hash keys.cost costs (putTable .sortedSet keys.window scores space)) := by
  intro other foreign
  rw [putTable_of_ne foreign.2.1, putTable_of_ne foreign.1]

section

variable (apart : keys.Distinct)
include apart

theorem removeMembers_run (holds : Holds keys counter space)
    {members : List String} {chosen : Admission → Bool}
    (perm : members.Perm ((counter.admissions.filter chosen).map Admission.member)) :
    ∃ after, removeMembers keys members space = .ok () after ∧
      Holds keys { counter with admissions := counter.admissions.filter fun row => !chosen row }
        after ∧ SameOn keys.others space after := by
  have kept : ∀ row ∈ counter.admissions,
      (row.member ∈ members ↔ (!chosen row) = false) := by
    intro row row_mem
    rw [perm.mem_iff, List.mem_map]
    constructor
    · rintro ⟨other, other_mem, same⟩
      obtain ⟨other_mem, selected⟩ := List.mem_filter.mp other_mem
      rw [List.inj_on_of_nodup_map holds.distinct row_mem other_mem same.symm, selected]
      rfl
    · intro selected
      exact ⟨row, List.mem_filter.mpr ⟨row_mem, by simpa using selected⟩, rfl⟩
  have distinct : ((counter.admissions.filter fun row => !chosen row).map
      Admission.member).Nodup := holds.distinct.sublist (List.filter_sublist.map _)
  unfold removeMembers
  by_cases empty : members = []
  · have all : (counter.admissions.filter fun row => !chosen row) = counter.admissions := by
      refine List.filter_eq_self.mpr fun row row_mem => ?_
      have absent := mt (kept row row_mem).mpr (by simp [empty])
      simpa using absent
    rw [if_pos empty]
    refine ⟨space, rfl, ?_, SameOn.refl space⟩
    simp only [all]
    exact holds
  · have window := @eraseEntries_run .sortedSet keys.window members _ space holds.window
    rw [Table.without_tabulate kept distinct] at window
    have cost := @eraseEntries_run .hash keys.cost members _ _ (holds.cost_putWindow apart
      (Table.tabulate Admission.member Admission.timestamp _ distinct))
    rw [Table.without_tabulate kept distinct] at cost
    rw [if_neg empty, bind_of_ok window, cost]
    exact ⟨_, rfl, holds.putTables apart distinct, sameOn_putTables⟩

theorem releaseScript_run (holds : Holds keys counter space) (suffix : String) :
    ∃ after, releaseScript keys suffix space = .ok () after ∧
      Holds keys (counter.release suffix) after ∧ SameOn keys.others space after := by
  unfold releaseScript
  rw [bind_of_ok (zrange_run holds.window)]
  refine @removeMembers_run keys counter space apart holds _
    (fun row => suffix.toList.isSuffixOf row.member.toList) ?_
  have ranked := (Table.ranked_perm (Table.tabulate Admission.member Admission.timestamp
    counter.admissions holds.distinct)).trans (Table.keys_tabulate ▸ List.reverse_perm _)
  refine (ranked.filter _).trans (List.Perm.of_eq ?_)
  rw [List.filter_map]
  rfl

theorem judgeAdmission_run {entries : List Admission}
    (holds : Holds keys ⟨entries, none⟩ space) {horizon now ceiling cooldownSeconds cost : ℚ}
    {member : String} (trimmed : behind Admission.timestamp horizon entries = entries) :
    ∃ after, judgeAdmission keys now member cost ceiling cooldownSeconds space =
        .ok (LimitCounter.consume ceiling cooldownSeconds horizon now member cost
          ⟨entries, none⟩).1 after ∧
      Holds keys (LimitCounter.consume ceiling cooldownSeconds horizon now member cost
        ⟨entries, none⟩).2 after ∧ SameOn keys.others space after := by
  unfold LimitCounter.consume judgeAdmission
  simp only [trimmed]
  rw [bind_of_ok (hexists_run holds.cost)]
  by_cases known : ∃ entry ∈ entries, entry.member = member
  · have found : entries.any (·.member = member) = true := by simpa using known
    have listed := (@Table.lookup_tabulate_isSome _ _ Admission.cost _ holds.distinct _).mpr known
    rw [if_pos listed, bind_of_ok (observed_run holds), if_pos found]
    exact ⟨space, rfl, holds, SameOn.refl space⟩
  · have missing : ¬ entries.any (·.member = member) = true := by simpa using known
    have unlisted := mt (@Table.lookup_tabulate_isSome _ _ Admission.cost _ holds.distinct _).mp
      known
    rw [if_neg unlisted, bind_of_ok (observed_run holds), if_neg missing]
    by_cases beyond : ceiling < total Admission.cost entries + cost
    · rw [if_pos beyond, if_pos beyond]
      refine ⟨_, rfl, ⟨holds.distinct, ?_, ?_, ?_⟩, ?_⟩
      · exact (tableAt_congr (Function.update_of_ne apart.window_cooldown _ _)).trans holds.window
      · exact (tableAt_congr (Function.update_of_ne apart.cost_cooldown _ _)).trans holds.cost
      · exact numberAt_update
      · intro other foreign
        exact (Function.update_of_ne foreign.2.2 _ _).symm
    · let row : Admission := ⟨now, member, cost⟩
      have fresh : ∀ other ∈ entries, other.member ≠ row.member :=
        fun other other_mem same => known ⟨other, other_mem, same⟩
      have distinct : ((entries ++ [row]).map Admission.member).Nodup := by
        rw [List.map_append, List.nodup_append]
        refine ⟨holds.distinct, List.nodup_singleton _, ?_⟩
        intro name name_mem other other_mem
        obtain ⟨entry, entry_mem, rfl⟩ := List.mem_map.mp name_mem
        rw [List.mem_singleton.mp other_mem]
        exact fresh entry entry_mem
      have window := @insertEntry_run .sortedSet keys.window row.member row.timestamp _ space
        holds.window
      rw [Table.insert_tabulate fresh distinct] at window
      have cost := @insertEntry_run .hash keys.cost row.member row.cost _ _
        (holds.cost_putWindow apart
          (Table.tabulate Admission.member Admission.timestamp _ distinct))
      rw [Table.insert_tabulate fresh distinct] at cost
      rw [if_neg beyond, if_neg beyond, bind_of_ok window, bind_of_ok cost]
      exact ⟨_, rfl, holds.putTables apart distinct, sameOn_putTables⟩

theorem Holds.clearCooldown (holds : Holds keys counter space) :
    ∃ after, del [keys.cooldown] space = .ok () after ∧
      Holds keys ⟨counter.admissions, none⟩ after ∧ SameOn keys.others space after := by
  have left_alone : ∀ key ≠ keys.cooldown,
      (if key ∈ [keys.cooldown] then none else space key) = space key :=
    fun key ne => if_neg (mt List.mem_singleton.mp ne)
  refine ⟨fun key => if key ∈ [keys.cooldown] then none else space key, rfl,
    ⟨holds.distinct, ?_, ?_, ?_⟩, ?_⟩
  · exact (tableAt_congr (left_alone _ apart.window_cooldown)).trans holds.window
  · exact (tableAt_congr (left_alone _ apart.cost_cooldown)).trans holds.cost
  · unfold numberAt
    simp only [List.mem_singleton, if_true]
  · exact fun other foreign => (left_alone other foreign.2.2).symm

theorem consumeScript_run (holds : Holds keys counter space)
    (horizon now ceiling cooldownSeconds cost : ℚ) (member : String) :
    ∃ after, consumeScript keys now horizon member cost ceiling cooldownSeconds space =
        .ok (counter.consume ceiling cooldownSeconds horizon now member cost).1 after ∧
      Holds keys (counter.consume ceiling cooldownSeconds horizon now member cost).2 after ∧
      SameOn keys.others space after := by
  let entries := behind Admission.timestamp horizon counter.admissions
  have expired := @Table.ranked_filter_perm _ Admission.member Admission.timestamp
    counter.admissions holds.distinct fun time => time ≤ horizon
  obtain ⟨trimmed, trim_run, trim_holds, trim_frame⟩ := @removeMembers_run keys counter space apart
    holds _ (fun row => row.timestamp ≤ horizon) expired
  have entries_eq : (counter.admissions.filter fun row => !decide (row.timestamp ≤ horizon)) =
      entries := List.filter_congr fun row _ => by
        rw [← decide_not, decide_eq_decide, not_le]
  rw [entries_eq] at trim_holds
  unfold consumeScript
  rw [bind_of_ok (zrangeByScore_run holds.window), bind_of_ok trim_run,
    bind_of_ok (getNumber_run trim_holds.cooldown)]
  cases held : counter.cooldown with
  | none =>
    have free : counter.cooldown.filter (now < ·) = none := by rw [held]; rfl
    rw [held] at trim_holds
    rw [LimitCounter.consume_of_free free]
    obtain ⟨after, run, after_holds, frame⟩ := judgeAdmission_run apart trim_holds
      (behind_behind (le_refl horizon))
    exact ⟨after, run, after_holds, trim_frame.trans frame⟩
  | some bound =>
    by_cases early : now < bound
    · rw [LimitCounter.consume_of_held held early]
      rw [held] at trim_holds
      refine ⟨trimmed, ?_, trim_holds, trim_frame⟩
      dsimp only
      rw [if_pos early, bind_of_ok (observed_run trim_holds)]
      rfl
    · have free : counter.cooldown.filter (now < ·) = none := by
        rw [held]
        simpa using not_lt.mp early
      rw [LimitCounter.consume_of_free free]
      obtain ⟨cleared, cleared_run, cleared_holds, cleared_frame⟩ :=
        trim_holds.clearCooldown apart
      obtain ⟨after, run, after_holds, frame⟩ := judgeAdmission_run apart cleared_holds
        (behind_behind (le_refl horizon))
      refine ⟨after, ?_, after_holds, trim_frame.trans (cleared_frame.trans frame)⟩
      dsimp only
      rw [if_neg early, bind_of_ok cleared_run]
      exact run

end

/-- A relation between servers which allows anything to be written under the keys. -/
structure CounterKeys.Allows (keys : CounterKeys) (relation : Keyspace → Keyspace → Prop) :
    Prop where
  refl : ∀ space, relation space space
  trans : ∀ {first second third}, relation first second → relation second third →
    relation first third
  update : ∀ key, key = keys.window ∨ key = keys.cost ∨ key = keys.cooldown → ∀ datum space,
    relation space (Function.update space key datum)

/-- A counter leaves every other key alone. -/
theorem CounterKeys.allows_sameOn_others (keys : CounterKeys) :
    keys.Allows (SameOn keys.others) where
  refl := SameOn.refl
  trans := SameOn.trans
  update := by
    intro key own datum space
    exact sameOn_update (notMem_others.mpr own)

section Touches

variable {relation : Keyspace → Keyspace → Prop} (allows : keys.Allows relation)
include allows

theorem CounterKeys.Allows.bind {α β : Type} {program : Script β} {next : β → Script α}
    (front : program.Within relation) (back : ∀ value, (next value).Within relation) :
    (program >>= next).Within relation :=
  @EStateM.Within.bind _ _ _ _ relation allows.trans _ _ front back

theorem CounterKeys.Allows.pure {α : Type} (value : α) : (pure value : Script α).Within relation :=
  within_pure allows.refl value

variable {members : List String} {now cost ceiling seconds : ℚ} {member : String} {horizon : ℚ}

theorem within_sumCosts : (sumCosts keys.cost members).Within relation := by
  unfold sumCosts
  split
  · exact allows.pure _
  · exact allows.bind (within_hmget allows.refl) fun _ => allows.pure _

theorem within_observed : (observed keys).Within relation :=
  allows.bind (within_zrange allows.refl) fun _ => within_sumCosts allows

theorem within_removeMembers : (removeMembers keys members).Within relation := by
  unfold removeMembers
  split
  · exact allows.pure _
  · refine allows.bind ?_ fun _ => ?_
    · exact within_readTable_bind allows.refl fun _ _ => allows.update _ (.inl rfl) _ _
    · exact within_readTable_bind allows.refl fun _ _ => allows.update _ (.inr (.inl rfl)) _ _

theorem within_judgeAdmission :
    (judgeAdmission keys now member cost ceiling seconds).Within relation := by
  refine allows.bind (within_hexists allows.refl) fun known => ?_
  split
  · exact allows.bind (within_observed allows) fun _ => allows.pure _
  · refine allows.bind (within_observed allows) fun current => ?_
    split
    · exact allows.bind (fun _ => allows.update _ (.inr (.inr rfl)) _ _) fun _ => allows.pure _
    · refine allows.bind ?_ fun _ => allows.bind ?_ fun _ => allows.pure _
      · exact within_readTable_bind allows.refl fun _ _ => allows.update _ (.inl rfl) _ _
      · exact within_readTable_bind allows.refl fun _ _ => allows.update _ (.inr (.inl rfl)) _ _

theorem within_clearCooldown : (del [keys.cooldown]).Within relation := by
  intro space
  have cleared : (del [keys.cooldown]).after space = Function.update space keys.cooldown none := by
    funext key
    change (if key ∈ [keys.cooldown] then none else space key) = _
    simp only [Function.update_apply, List.mem_singleton]
  rw [cleared]
  exact allows.update _ (.inr (.inr rfl)) _ _

theorem within_consumeScript :
    (consumeScript keys now horizon member cost ceiling seconds).Within relation := by
  refine allows.bind (within_zrangeByScore allows.refl) fun expired => ?_
  refine allows.bind (within_removeMembers allows) fun _ => ?_
  refine allows.bind (within_getNumber allows.refl) fun cooldown => ?_
  cases cooldown with
  | none => exact within_judgeAdmission allows
  | some bound =>
    dsimp only
    split
    · exact allows.bind (within_observed allows) fun _ => allows.pure _
    · exact allows.bind (within_clearCooldown allows) fun _ => within_judgeAdmission allows

theorem within_cumulativeScript : (cumulativeScript keys horizon).Within relation :=
  allows.bind (within_zrangeByScore allows.refl) fun _ => within_sumCosts allows

theorem within_releaseScript {suffix : String} : (releaseScript keys suffix).Within relation :=
  allows.bind (within_zrange allows.refl) fun _ => within_removeMembers allows

end Touches

theorem distinct_keysUnder (prefixed : String) : (keysUnder prefixed).Distinct := by
  have differ : ∀ left right : String, left ≠ right → prefixed ++ left ≠ prefixed ++ right :=
    fun left right ne same => ne (String.append_right_inj prefixed |>.mp same)
  exact ⟨differ ":w" ":c" (by decide), differ ":w" ":cd" (by decide), differ ":c" ":cd" (by decide)⟩

theorem append_ne_of_getLast {left' right' : String}
    (ends : right.toList.getLast?.isSome = true ∧ right'.toList.getLast?.isSome = true)
    (differ : right.toList.getLast? ≠ right'.toList.getLast?) :
    left ++ right ≠ left' ++ right' := by
  intro same
  have last := congrArg (fun text => text.toList.getLast?) same
  simp only [String.toList_append, List.getLast?_append] at last
  obtain ⟨char, char_eq⟩ := Option.isSome_iff_exists.mp ends.1
  obtain ⟨char', char_eq'⟩ := Option.isSome_iff_exists.mp ends.2
  rw [char_eq, char_eq'] at last differ
  exact differ last

theorem keysUnder_mem_others (ne : left ≠ right) :
    (keysUnder left).window ∈ (keysUnder right).others ∧
      (keysUnder left).cost ∈ (keysUnder right).others ∧
      (keysUnder left).cooldown ∈ (keysUnder right).others := by
  have same_end : ∀ suffix : String, left ++ suffix ≠ right ++ suffix :=
    fun suffix same => ne (String.append_left_inj suffix |>.mp same)
  refine ⟨⟨same_end ":w", ?_, ?_⟩, ⟨?_, same_end ":c", ?_⟩, ⟨?_, ?_, same_end ":cd"⟩⟩ <;>
    exact append_ne_of_getLast (by decide) (by decide)

theorem mem_others_of_ne {key : String} (ne : left ≠ right) (own : key ∉ (keysUnder left).others) :
    key ∈ (keysUnder right).others := by
  obtain ⟨window, cost, cooldown⟩ := keysUnder_mem_others ne
  obtain rfl | rfl | rfl := CounterKeys.notMem_others.mp own
  · exact window
  · exact cost
  · exact cooldown

variable (store : RedisLimitStore)

/-- The tag of a tenant is followed by one rest only. -/
theorem tag_append_inj {left right : Identifier} {rest rest' : String}
    (same : store.tag left ++ rest = store.tag right ++ rest') : left = right ∧ rest = rest' := by
  have brace : ∀ tenant : Identifier, '\x7d' ∉ tenant.val.toList :=
    Identifier.notMem (by decide) (by decide)
  have chars := congrArg String.toList same
  simp only [tag, String.toList_append, List.append_assoc, List.append_cancel_left_eq] at chars
  obtain ⟨tenant, tail⟩ := append_mark_inj (brace left) (brace right) chars
  exact ⟨Subtype.ext (String.toList_inj.mp tenant), String.toList_inj.mp (List.cons.inj tail).2⟩

theorem prefixed_injective : Function.Injective store.prefixed := by
  intro left right same
  exact LimitKey.canonicalKey_injective (store.tag_append_inj same).2

end RedisLimitStore

end GlassBox
