import GlassBox.Adapters.Redis.TenantIsolation
import GlassBox.Foundation.Runs

/-!
# The quota of a tenant

Every subject with keys is listed for its tenant, and the list is cut to the quota before a counter
is consumed from, the subjects touched first going first.  A subject which is cut by its own call
gets its keys all the same.
-/

namespace GlassBox

open EStateM

open Keyspace

namespace RedisLimitStore

structure Evicted (subjectsKey : String) (listed : Table) (evicted : List String)
    (before after : Keyspace) : Prop where
  index : tableAt .sortedSet subjectsKey after = some (Table.without evicted listed)
  deleted : ∀ subject ∈ evicted, ∀ key ∉ (keysUnder subject).others, after key = none
  kept : ∀ key ≠ subjectsKey, (∀ subject ∈ evicted, key ∈ (keysUnder subject).others) →
    after key = before key

section Script

variable {subjectsKey : String} {listed : Table} {space : Keyspace}

theorem evictSubject_run (found : tableAt .sortedSet subjectsKey space = some listed)
    {subject : String} (apart : subjectsKey ∈ (keysUnder subject).others) :
    ∃ after, evictSubject subjectsKey subject space = .ok () after ∧
      Evicted subjectsKey listed [subject] space after := by
  let keys := keysUnder subject
  let cleared : Keyspace := fun key =>
    if key ∈ [keys.window, keys.cost, keys.cooldown] then none else space key
  have listed_iff : ∀ key, key ∈ [keys.window, keys.cost, keys.cooldown] ↔ key ∉ keys.others := by
    intro key
    rw [CounterKeys.notMem_others]
    simp only [List.mem_cons, List.not_mem_nil, or_false]
  have found' : tableAt .sortedSet subjectsKey cleared = some listed :=
    (tableAt_congr (if_neg fun member => (listed_iff _).mp member apart)).trans found
  refine ⟨_, (bind_of_ok (rfl : del _ space = .ok () cleared)).trans
    (eraseEntries_run found'), tableAt_putTable, ?_, ?_⟩
  · intro other member key own
    obtain rfl := List.mem_singleton.mp member
    have ne : key ≠ subjectsKey := fun same => own (same ▸ apart)
    rw [putTable_of_ne ne]
    exact if_pos ((listed_iff key).mpr own)
  · intro key ne foreign
    rw [putTable_of_ne ne]
    exact if_neg fun member => (listed_iff key).mp member
      (foreign subject (List.mem_singleton.mpr rfl))

theorem evictSubjects_run (apart : ∀ subject, subjectsKey ∈ (keysUnder subject).others)
    (found : tableAt .sortedSet subjectsKey space = some listed) (evicted : List String) :
    ∃ after, evicted.forM (evictSubject subjectsKey) space = .ok PUnit.unit after ∧
      Evicted subjectsKey listed evicted space after := by
  induction evicted generalizing space listed with
  | nil =>
    refine ⟨space, rfl, ?_, fun _ member => absurd member List.not_mem_nil, fun _ _ _ => rfl⟩
    rw [found]
    exact congrArg some (AList.ext (by simp [Table.without]))
  | cons subject rest ih =>
    obtain ⟨middle, first_run, first⟩ := evictSubject_run found (apart subject)
    obtain ⟨after, rest_run, others⟩ := ih first.index
    refine ⟨after, (bind_of_ok first_run).trans rest_run, ?_, ?_, ?_⟩
    · rw [others.index, Table.without_without]
      rfl
    · -- what the first eviction deleted is deleted again or left alone by the others
      intro other member key own
      by_cases foreign : ∀ later ∈ rest, key ∈ (keysUnder later).others
      · obtain rfl | later := List.mem_cons.mp member
        · rw [others.kept key (fun same => own (same ▸ apart other)) foreign]
          exact first.deleted other (List.mem_singleton.mpr rfl) key own
        · exact absurd (foreign other later) own
      · push Not at foreign
        obtain ⟨later, later_mem, own'⟩ := foreign
        exact others.deleted later later_mem key own'
    · intro key ne foreign
      rw [others.kept key ne fun later member => foreign later (List.mem_cons_of_mem _ member)]
      refine first.kept key ne fun other member => ?_
      obtain rfl := List.mem_singleton.mp member
      exact foreign other List.mem_cons_self

theorem tenantQuotaScript_run (apart : ∀ subject, subjectsKey ∈ (keysUnder subject).others)
    (found : tableAt .sortedSet subjectsKey space = some listed) {bound : Nat}
    (positive : 0 < bound) (now : ℚ) (subject : String) :
    ∃ after, tenantQuotaScript subjectsKey now subject bound space = .ok () after ∧
      Evicted subjectsKey (listed.insert subject now)
        (Table.overflow bound (listed.insert subject now)) space after := by
  let touched := putTable .sortedSet subjectsKey (listed.insert subject now) space
  have found' : tableAt .sortedSet subjectsKey touched = some (listed.insert subject now) :=
    tableAt_putTable
  obtain ⟨after, run, evicted⟩ := evictSubjects_run apart found'
    (Table.overflow bound (listed.insert subject now))
  have bounded : ¬ (bound : Int) ≤ 0 := by omega
  refine ⟨after, ?_, evicted.index, evicted.deleted, ?_⟩
  · unfold tenantQuotaScript
    rw [bind_of_ok (insertEntry_run found), if_neg bounded, bind_of_ok (zcard_run found')]
    by_cases beyond : (bound : Int) < (listed.insert subject now).entries.length
    · rw [if_pos beyond, bind_of_ok (zrange_run found'), Int.toNat_natCast]
      exact run
    · rw [Table.overflow_of_length_le (by omega)] at run
      rw [if_neg beyond]
      exact run
  · intro key ne foreign
    rw [evicted.kept key ne foreign]
    exact putTable_of_ne ne

end Script

variable (store : RedisLimitStore)

/-- The counter has a key on the server. -/
def Live (key : LimitKey) (space : Keyspace) : Prop :=
  ∃ name ∉ (store.keys key).others, space name ≠ none

/-- The quota of every tenant bounds its subjects which have keys. -/
def WithinQuota (space : Keyspace) : Prop :=
  ∀ tenantId : Identifier, ∀ subjects : List LimitKey, subjects.Nodup →
    (∀ key ∈ subjects, key.tenantId = tenantId ∧ store.Live key space) →
      (subjects.length : Int) ≤ store.maxTenantSubjects

/-- The subjects of a tenant which have keys are listed, and the list is within the quota. -/
structure Accounts (tenantId : Identifier) (space : Keyspace) (listed : Table) : Prop where
  found : tableAt .sortedSet (store.subjectsKey tenantId) space = some listed
  bounded : (listed.entries.length : Int) ≤ store.maxTenantSubjects
  owned : ∀ subject ∈ listed, subject ∈ store.tenantKeys tenantId
  live : ∀ key : LimitKey, key.tenantId = tenantId → store.Live key space →
    store.prefixed key ∈ listed

variable {store} {space : Keyspace}

theorem subjectsKey_mem_others (tenantId : Identifier) (subject : String) :
    store.subjectsKey tenantId ∈ (keysUnder subject).others := by
  refine ⟨?_, ?_, ?_⟩ <;> exact append_ne_of_getLast (by decide) (by decide)

theorem withinQuota_of_accounts
    (accounts : ∀ tenantId, ∃ listed, store.Accounts tenantId space listed) :
    store.WithinQuota space := by
  intro tenantId subjects distinct live
  obtain ⟨listed, account⟩ := accounts tenantId
  have contained : subjects.map store.prefixed ⊆ listed.keys := by
    intro subject member
    obtain ⟨key, key_mem, rfl⟩ := List.mem_map.mp member
    exact AList.mem_keys.mp (account.live key (live key key_mem).1 (live key key_mem).2)
  have fewer := (distinct.map store.prefixed_injective).subperm contained |>.length_le
  rw [List.length_map] at fewer
  have keys_length : listed.keys.length = listed.entries.length := List.length_map _
  have bounded := account.bounded
  omega

section Calls

variable {key : LimitKey} {space : Keyspace} {listed : Table}

/-- If the list of the tenant is full without the subject, a listed subject was touched earlier, or
at the same time under a smaller key. -/
def Outranked (store : RedisLimitStore) (key : LimitKey) (now : ℚ) (space : Keyspace) : Prop :=
  ∀ listed, tableAt .sortedSet (store.subjectsKey key.tenantId) space = some listed →
    store.maxTenantSubjects ≤ listed.entries.length → store.prefixed key ∉ listed →
      ∃ other ∈ listed.entries,
        other.2 < now ∨ (other.2 = now ∧ other.1 < store.prefixed key)

/-- The quota step of a call keeps the subject listed and its keys as they are. -/
def Spares (store : RedisLimitStore) (key : LimitKey) (moment : Timestamp) (space : Keyspace) :
    Prop :=
  (∀ name ∉ (store.keys key).others, (store.touchSubject key moment).after space name =
      space name) ∧
    ∃ listed, tableAt .sortedSet (store.subjectsKey key.tenantId)
        ((store.touchSubject key moment).after space) = some listed ∧
      store.prefixed key ∈ listed

/-- The list of subjects after a subject was touched, before it is cut. -/
def touchedList (store : RedisLimitStore) (key : LimitKey) (moment : Timestamp) (listed : Table) :
    Table := listed.insert (store.prefixed key) moment.val

/-- The subjects which the quota step of a call cuts from the list. -/
def cut (store : RedisLimitStore) (key : LimitKey) (moment : Timestamp) (listed : Table) :
    List String :=
  Table.overflow store.maxTenantSubjects.toNat (store.touchedList key moment listed)

theorem touchSubject_run (positive : 0 < store.maxTenantSubjects)
    (accounts : store.Accounts key.tenantId space listed) (moment : Timestamp) :
    ∃ after, store.touchSubject key moment space = .ok () after ∧
      Evicted (store.subjectsKey key.tenantId) (store.touchedList key moment listed)
        (store.cut key moment listed) space after := by
  obtain ⟨after, run, evicted⟩ := tenantQuotaScript_run
    (subjectsKey_mem_others key.tenantId) accounts.found
    (Int.lt_toNat.mpr positive : 0 < store.maxTenantSubjects.toNat) moment.val (store.prefixed key)
  refine ⟨after, ?_, evicted⟩
  unfold touchSubject
  rw [if_neg positive.ne']
  rw [Int.toNat_of_nonneg positive.le] at run
  exact run

theorem outranked_iff_notMem_cut (positive : 0 < store.maxTenantSubjects)
    (accounts : store.Accounts key.tenantId space listed) (moment : Timestamp) :
    store.Outranked key moment.val space ↔
      store.prefixed key ∉ store.cut key moment listed := by
  have fits : listed.entries.length ≤ store.maxTenantSubjects.toNat := by
    have bounded := accounts.bounded
    omega
  have cut_iff := @Table.mem_overflow_insert_iff listed ⟨store.prefixed key, moment.val⟩ _ fits
  unfold Outranked cut touchedList
  rw [cut_iff, accounts.found]
  constructor
  · rintro outranked ⟨full, unlisted, first⟩
    obtain ⟨other, member, before⟩ := outranked listed rfl (by omega) unlisted
    exact Table.not_ranks_iff.mpr before (first other member)
  · rintro kept _ ⟨⟩ full unlisted
    by_contra none_before
    push Not at none_before
    refine kept ⟨by omega, unlisted, fun other member => ?_⟩
    by_contra later
    obtain less | ⟨same, less⟩ := Table.not_ranks_iff.mp later
    · exact (none_before other member).1.not_gt less
    · exact ((none_before other member).2 same).not_gt less

/-- Keys of a counter which is not cut stay as they are. -/
theorem Evicted.kept_of_notMem {subjects : Table} {evicted : List String} {after : Keyspace}
    (effect : Evicted (store.subjectsKey key.tenantId) subjects evicted space after)
    (kept : store.prefixed key ∉ evicted) {name : String} (own : name ∉ (store.keys key).others) :
    after name = space name := by
  refine effect.kept name (fun same => own (same ▸ subjectsKey_mem_others _ _)) ?_
  intro subject member
  have ne : store.prefixed key ≠ subject := by
    rintro rfl
    exact kept member
  exact mem_others_of_ne ne own

/-- A call which keeps its own subject listed accounts for every subject of the tenant. -/
theorem Accounts.consume (positive : 0 < store.maxTenantSubjects)
    (accounts : store.Accounts key.tenantId space listed) {moment : Timestamp}
    (kept : store.prefixed key ∉ store.cut key moment listed) (cost : ℚ) (member : String) :
    store.Accounts key.tenantId ((store.consumeWithQuota key cost member moment).after space)
      (Table.without (store.cut key moment listed) (store.touchedList key moment listed)) := by
  obtain ⟨touched, run, effect⟩ := touchSubject_run positive accounts moment
  have after_eq : (store.consumeWithQuota key cost member moment).after space =
      (consumeScript (store.keys key) moment.val (key.window.startOf moment) member cost
        (store.ceiling key.canonicalKey) store.cooldownSeconds).after touched := by
    unfold consumeWithQuota
    rw [EStateM.after, bind_of_ok run]
    rfl
  have consumed : SameOn (store.keys key).others touched
      ((store.consumeWithQuota key cost member moment).after space) := by
    rw [after_eq]
    exact within_consumeScript (store.keys key).allows_sameOn_others touched
  have mem_touched : ∀ subject, subject ∈ store.touchedList key moment listed ↔
      subject = store.prefixed key ∨ subject ∈ listed := fun subject => AList.mem_insert listed
  refine ⟨?_, ?_, ?_, ?_⟩
  · rw [← tableAt_congr (consumed _ (subjectsKey_mem_others key.tenantId _))]
    exact effect.index
  · have bounded := Table.length_without_overflow_le store.maxTenantSubjects.toNat
      (store.touchedList key moment listed)
    unfold cut
    omega
  · intro subject left
    obtain rfl | earlier := (mem_touched subject).mp (Table.mem_without.mp left).1
    · exact ⟨key.canonicalKey, rfl⟩
    · exact accounts.owned subject earlier
  · intro other tenant live
    rw [Table.mem_without, mem_touched]
    by_cases same : other = key
    · subst same
      exact ⟨.inl rfl, kept⟩
    · -- another subject with keys had them before the call, and was not cut
      obtain ⟨name, own, present⟩ := live
      have foreign : name ∈ (store.keys key).others :=
        mem_others_of_ne (fun prefixes => same (store.prefixed_injective prefixes)) own
      rw [← consumed name foreign] at present
      have uncut : store.prefixed other ∉ store.cut key moment listed :=
        fun evicted => present (effect.deleted _ evicted name own)
      have effect' : Evicted (store.subjectsKey other.tenantId) _ _ space touched := tenant ▸ effect
      rw [effect'.kept_of_notMem uncut own] at present
      exact ⟨.inr (accounts.live other tenant ⟨name, own, present⟩), uncut⟩

/-- The quota step spares the subject exactly when it is outranked. -/
theorem Accounts.spares_iff (positive : 0 < store.maxTenantSubjects)
    (accounts : store.Accounts key.tenantId space listed) (moment : Timestamp) :
    store.Spares key moment space ↔ store.Outranked key moment.val space := by
  obtain ⟨touched, run, effect⟩ := touchSubject_run positive accounts moment
  rw [outranked_iff_notMem_cut positive accounts]
  unfold Spares
  rw [after_of_ok run, effect.index]
  constructor
  · rintro ⟨-, _, ⟨⟩, left⟩
    exact (Table.mem_without.mp left).2
  · intro kept
    refine ⟨fun name own => effect.kept_of_notMem kept own, _, rfl, Table.mem_without.mpr
      ⟨?_, kept⟩⟩
    exact (AList.mem_insert listed).mpr (.inl rfl)

end Calls

def Accounted (store : RedisLimitStore) (space : Keyspace) : Prop :=
  ∀ tenantId, ∃ listed, store.Accounts tenantId space listed

theorem Accounted.indexed (accounted : store.Accounted space) :
    store.Indexed space := by
  intro tenantId subjects found subject member
  obtain ⟨listed, accounts⟩ := accounted tenantId
  cases Option.some.inj (accounts.found.symm.trans found)
  exact accounts.owned subject (AList.mem_keys.mpr member)

theorem Accounts.congr {tenantId : Identifier} {before after : Keyspace} {listed : Table}
    (accounts : store.Accounts tenantId before listed)
    (same : SameOn (store.tenantKeys tenantId) before after) :
    store.Accounts tenantId after listed where
  found := (tableAt_congr (same _ ⟨_, rfl⟩)).symm.trans accounts.found
  bounded := accounts.bounded
  owned := accounts.owned
  live := by
    rintro key rfl ⟨name, own, present⟩
    have owned := owned_keys store key
    have member : name ∈ store.tenantKeys key.tenantId := by
      obtain rfl | rfl | rfl := CounterKeys.notMem_others.mp own
      · exact owned.window.1
      · exact owned.cost.1
      · exact owned.cooldown.1
    rw [← same name member] at present
    exact accounts.live key rfl ⟨name, own, present⟩

theorem accounted_empty (nonneg : 0 ≤ store.maxTenantSubjects) :
    store.Accounted fun _ => none := by
  intro tenantId
  refine ⟨∅, rfl, nonneg, fun _ member => absurd member (AList.notMem_empty _), ?_⟩
  rintro key - ⟨name, -, present⟩
  exact absurd rfl present

structure Server where
  space : Keyspace
  clock : ℚ

def Server.empty (clock : ℚ) : Server := ⟨fun _ => none, clock⟩

section Runs

variable [Runtime]

def serve (store : RedisLimitStore) (call : LimitCall) (server : Server) : Server where
  space := (store.meter.step call server.space).2
  clock := call.clock server.clock

/-- The calls consume, at non-decreasing times. -/
def Consumes (call : LimitCall) (server : Server) : Prop :=
  server.clock ≤ call.clock server.clock ∧
    match call with
    | .tryConsume .. => True
    | _ => False

def OutranksSubject (store : RedisLimitStore) (call : LimitCall) (server : Server) : Prop :=
  match call with
  | .tryConsume key _ _ now => store.Outranked key now server.space
  | _ => True

/-- What a call leaves of the server: what was there, or what its scripts leave. -/
theorem space_tryConsume (store : RedisLimitStore) (key : LimitKey) (cost : ℚ)
    (decisionId : String) (now : ℚ) (space : Keyspace) :
    (store.meter.step (.tryConsume key cost decisionId now) space).2 = space ∨
      ∃ (moment : Timestamp) (member : String), moment.val = now ∧
        (store.meter.step (.tryConsume key cost decisionId now) space).2 =
          (store.consumeWithQuota key cost member moment).after space := by
  have after_eq : (store.meter.step (.tryConsume key cost decisionId now) space).2 =
      (store.tryConsume key cost decisionId now).after space := by
    rw [LimitMeter.step_snd]
    exact after_map _ _ space
  rw [after_eq]
  unfold tryConsume
  cases named : LimitKey.memberFor decisionId now with
  | error error => exact .inl rfl
  | ok member =>
    cases stamped : requireTimestamp now "now" with
    | error error => exact .inl rfl
    | ok moment =>
      refine .inr ⟨moment, member, requireTimestamp_eq_ok_iff.mp stamped, ?_⟩
      exact (after_bind_ofExcept _ _ space).trans (after_guarded key _ space)

theorem Accounted.serve (positive : 0 < store.maxTenantSubjects) {call : LimitCall}
    {server : Server} (accounted : store.Accounted server.space) (consumes : Consumes call server)
    (outranks : store.OutranksSubject call server) :
    store.Accounted (store.serve call server).space := by
  intro tenantId
  by_cases own : call.key.tenantId = tenantId
  · subst own
    cases call with
    | tryConsume key cost decisionId now =>
      obtain ⟨listed, accounts⟩ := accounted key.tenantId
      obtain same | ⟨moment, member, rfl, after_eq⟩ :=
        store.space_tryConsume key cost decisionId now server.space
      · unfold RedisLimitStore.serve
        rw [same]
        exact ⟨listed, accounts⟩
      · have kept := (outranked_iff_notMem_cut positive accounts moment).mp outranks
        unfold RedisLimitStore.serve
        rw [after_eq]
        exact ⟨_, accounts.consume positive kept cost member⟩
    | release key decisionId | cumulative key window now => exact consumes.2.elim
  · obtain ⟨listed, accounts⟩ := accounted tenantId
    exact ⟨listed, accounts.congr (store.step_of_other own accounted.indexed).2⟩

/-- While every call finds its subject outranked, the quota bounds the subjects of every tenant, and
the quota step of the next call spares its own subject exactly when it is outranked as well. -/
theorem within_quota_of_run (positive : 0 < store.maxTenantSubjects) {clock : ℚ} {server : Server}
    (run : Reaches (fun call server => Consumes call server ∧ store.OutranksSubject call server)
      store.serve (Server.empty clock) server) :
    store.WithinQuota server.space ∧ ∀ key (moment : Timestamp),
      store.Spares key moment server.space ↔ store.Outranked key moment.val server.space := by
  have accounted : store.Accounted server.space :=
    run.invariant (fun server => store.Accounted server.space) (accounted_empty positive.le)
      fun call before permitted accounted =>
        accounted.serve positive permitted.1 permitted.2
  refine ⟨withinQuota_of_accounts accounted, fun key moment => ?_⟩
  obtain ⟨listed, accounts⟩ := accounted key.tenantId
  exact accounts.spares_iff positive moment

end Runs

def oneSubject : RedisLimitStore := { maxTenantSubjects := 1 }

/-- Another subject of the same tenant, whose key comes later. -/
def laterLimitKey : LimitKey := { sampleLimitKey with subject := ⟨"broker", by decide⟩ }

/-- A second subject comes when the quota is used up. -/
def touchedInTurn : List LimitCall :=
  [.tryConsume sampleLimitKey 1 "decision-1" 0, .tryConsume laterLimitKey 1 "decision-2" 1]

def takenOver [Runtime] : Server := runAll oneSubject.serve touchedInTurn (Server.empty 0)

attribute [local instance] plainRuntime

theorem within_quota_of_run_takenOver :
    oneSubject.WithinQuota takenOver.space ∧ oneSubject.Live laterLimitKey takenOver.space := by
  have full : (tableAt .sortedSet (oneSubject.subjectsKey acme)
      (oneSubject.serve (.tryConsume sampleLimitKey 1 "decision-1" 0) (Server.empty 0)).space).map
        (fun listed => listed.entries.any fun other => decide (other.2 < 1)) = some true := by
    decide +kernel
  have outranks : oneSubject.OutranksSubject (.tryConsume laterLimitKey 1 "decision-2" 1)
      (oneSubject.serve (.tryConsume sampleLimitKey 1 "decision-1" 0) (Server.empty 0)) := by
    intro listed found _ _
    change tableAt _ (oneSubject.subjectsKey acme) _ = _ at found
    rw [found, Option.map_some, Option.some.injEq] at full
    obtain ⟨other, member, older⟩ := List.any_eq_true.mp full
    exact ⟨other, member, .inl (of_decide_eq_true older)⟩
  have permits : Permits (fun call server => Consumes call server ∧
      oneSubject.OutranksSubject call server) oneSubject.serve touchedInTurn (Server.empty 0) := by
    refine ⟨⟨⟨le_refl _, trivial⟩, ?_⟩, ⟨⟨zero_le_one, trivial⟩, outranks⟩, trivial⟩
    rintro listed ⟨⟩ unlisted
    exact absurd unlisted (by decide)
  refine ⟨(@within_quota_of_run oneSubject _ (by decide) 0 takenOver permits.reaches).1, ?_⟩
  refine ⟨(oneSubject.keys laterLimitKey).window, CounterKeys.notMem_others.mpr (.inl rfl), ?_⟩
  exact Option.isSome_iff_ne_none.mp (by decide +kernel)

/-- Two subjects are touched at the same time, the one with the smaller key last. -/
def touchedTogether : List LimitCall :=
  [.tryConsume laterLimitKey 1 "decision-1" 0, .tryConsume sampleLimitKey 1 "decision-2" 0]

def crowdedServer [Runtime] : Server :=
  runAll oneSubject.serve touchedTogether (Server.empty 0)

/-- The second subject is cut from the list by its own call, has keys beyond the quota, and loses
them in the quota step of its next call. -/
theorem own_subject_is_cut :
    (¬ ∀ server, Reaches Consumes oneSubject.serve (Server.empty 0) server →
      oneSubject.WithinQuota server.space) ∧
    ¬ ∀ server, Reaches Consumes oneSubject.serve (Server.empty 0) server →
      ∀ key (moment : Timestamp), server.clock ≤ moment.val →
        oneSubject.Spares key moment server.space := by
  have run : Permits Consumes oneSubject.serve touchedTogether (Server.empty 0) :=
    ⟨⟨le_refl _, trivial⟩, ⟨le_refl _, trivial⟩, trivial⟩
  have reached : Reaches Consumes oneSubject.serve (Server.empty 0) crowdedServer := run.reaches
  have window_own : ∀ key, (oneSubject.keys key).window ∉ (oneSubject.keys key).others :=
    fun key => CounterKeys.notMem_others.mpr (.inl rfl)
  have kept : (crowdedServer.space (oneSubject.keys sampleLimitKey).window).isSome = true ∧
      (crowdedServer.space (oneSubject.keys laterLimitKey).window).isSome = true := by
    decide +kernel
  have lost : ((oneSubject.touchSubject sampleLimitKey ⟨0, by decide⟩).after crowdedServer.space
      (oneSubject.keys sampleLimitKey).window).isSome = false := by
    decide +kernel
  constructor
  · intro claim
    have live : ∀ key ∈ [sampleLimitKey, laterLimitKey],
        key.tenantId = acme ∧ oneSubject.Live key crowdedServer.space := by
      intro key member
      simp only [List.mem_cons, List.not_mem_nil, or_false] at member
      obtain rfl | rfl := member
      · exact ⟨rfl, _, window_own _, Option.isSome_iff_ne_none.mp kept.1⟩
      · exact ⟨rfl, _, window_own _, Option.isSome_iff_ne_none.mp kept.2⟩
    exact absurd (claim _ reached acme _ (by decide +kernel) live) (by decide)
  · intro claim
    have spared := (claim _ reached sampleLimitKey ⟨0, by decide⟩ (le_refl _)).1 _
      (window_own sampleLimitKey)
    rw [spared, kept.1] at lost
    cases lost

end RedisLimitStore

end GlassBox
