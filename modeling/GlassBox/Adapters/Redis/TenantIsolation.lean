import GlassBox.Adapters.Redis.LimitCounters
import GlassBox.Domain.Sample

/-!
# Tenants do not meet in the limit store

Every key which a call touches begins with the hash tag of its tenant, and no key begins with the
tags of two tenants.  What a tenant is told depends on its own calls only.
-/

namespace GlassBox

open EStateM

open Keyspace

namespace RedisLimitStore

variable (store : RedisLimitStore)

def tenantKeys (tenantId : Identifier) : Set String :=
  {key | ∃ rest, key = store.tag tenantId ++ rest}

/-- The key of the list of the subjects of a tenant. -/
def subjectsKey (tenantId : Identifier) : String := store.tag tenantId ++ "tenant_subjects"

/-- Every list of subjects holds only keys of its tenant. -/
def Indexed (space : Keyspace) : Prop :=
  ∀ tenantId subjects,
    tableAt .sortedSet (store.subjectsKey tenantId) space = some subjects →
      ∀ subject ∈ subjects.keys, subject ∈ store.tenantKeys tenantId

/-- A step of one tenant: the lists of subjects stay sound and the keys of other tenants stay as
they are. -/
def Confined (tenantId : Identifier) (before after : Keyspace) : Prop :=
  store.Indexed before → store.Indexed after ∧
    ∀ other ≠ tenantId, SameOn (store.tenantKeys other) before after

variable {store} {tenantId : Identifier} {α : Type} {key : String} {removed : List String}
  {subject : String} {now : ℚ}

theorem Confined.refl (space : Keyspace) : store.Confined tenantId space space :=
  fun indexed => ⟨indexed, fun _ _ => SameOn.refl space⟩

theorem Confined.trans {first second third : Keyspace}
    (front : store.Confined tenantId first second)
    (back : store.Confined tenantId second third) : store.Confined tenantId first third := by
  intro indexed
  obtain ⟨indexed, same⟩ := front indexed
  obtain ⟨indexed, same'⟩ := back indexed
  exact ⟨indexed, fun other ne => (same other ne).trans (same' other ne)⟩

theorem confined_bind {ε β : Type} {program : EStateM ε Keyspace β}
    {next : β → EStateM ε Keyspace α} (front : program.Within (store.Confined tenantId))
    (back : ∀ value, (next value).Within (store.Confined tenantId)) :
    (program >>= next).Within (store.Confined tenantId) :=
  @EStateM.Within.bind _ _ _ _ (store.Confined tenantId) Confined.trans _ _ front back

theorem confined_pure (value : α) : (pure value : Script α).Within (store.Confined tenantId) :=
  within_pure Confined.refl value

/-- No key belongs to two tenants. -/
theorem notMem_tenantKeys {other : Identifier} (ne : other ≠ tenantId)
    (own : key ∈ store.tenantKeys tenantId) : key ∉ store.tenantKeys other := by
  rintro ⟨rest, rfl⟩
  obtain ⟨rest', same⟩ := own
  exact ne (store.tag_append_inj same).1

/-- Writing under a key of the tenant.  A list of subjects may only get keys of the tenant. -/
theorem confined_update (own : key ∈ store.tenantKeys tenantId) {datum : Option Datum}
    {space : Keyspace} (listed : key = store.subjectsKey tenantId → store.Indexed space →
      ∀ subjects, tableAt .sortedSet key (Function.update space key datum) = some subjects →
        ∀ subject ∈ subjects.keys, subject ∈ store.tenantKeys tenantId) :
    store.Confined tenantId space (Function.update space key datum) := by
  intro indexed
  refine ⟨?_, fun other ne => sameOn_update (notMem_tenantKeys ne own)⟩
  intro other subjects found
  by_cases same : store.subjectsKey other = key
  · have tenant_eq : other = tenantId := by
      obtain ⟨rest, key_eq⟩ := own
      exact (store.tag_append_inj (same.trans key_eq)).1
    subst tenant_eq
    rw [same] at found
    exact listed same.symm indexed subjects found
  · rw [tableAt_congr (Function.update_of_ne same _ _)] at found
    exact indexed other subjects found

def CounterKey (store : RedisLimitStore) (tenantId : Identifier) (key : String) : Prop :=
  key ∈ store.tenantKeys tenantId ∧ key ≠ store.subjectsKey tenantId

structure Owned (store : RedisLimitStore) (tenantId : Identifier) (keys : CounterKeys) : Prop where
  window : CounterKey store tenantId keys.window
  cost : CounterKey store tenantId keys.cost
  cooldown : CounterKey store tenantId keys.cooldown

theorem owned_keys (store : RedisLimitStore) (key : LimitKey) :
    Owned store key.tenantId (store.keys key) := by
  have counter : ∀ suffix : String,
      CounterKey store key.tenantId (store.prefixed key ++ suffix) := by
    intro suffix
    refine ⟨⟨key.canonicalKey ++ suffix, String.append_assoc⟩, ?_⟩
    intro same
    rw [prefixed, String.append_assoc] at same
    have chars := congrArg String.toList (store.tag_append_inj same).2
    rw [String.toList_append, LimitKey.canonicalKey, String.toList_intercalate] at chars
    have first := congrArg List.head? chars
    simp [List.intercalate] at first
  exact ⟨counter ":w", counter ":c", counter ":cd"⟩

theorem Owned.allows {keys : CounterKeys} (owned : Owned store tenantId keys) :
    keys.Allows (store.Confined tenantId) where
  refl := Confined.refl
  trans := Confined.trans
  update := by
    rintro key (rfl | rfl | rfl) datum space
    · exact confined_update owned.window.1 fun same => absurd same owned.window.2
    · exact confined_update owned.cost.1 fun same => absurd same owned.cost.2
    · exact confined_update owned.cooldown.1 fun same => absurd same owned.cooldown.2

theorem within_del (own : ∀ key ∈ removed, key ∈ store.tenantKeys tenantId) :
    (del removed).Within (store.Confined tenantId) := by
  intro space indexed
  refine ⟨?_, ?_⟩
  · intro other subjects found subject listed
    by_cases gone : store.subjectsKey other ∈ removed
    · have empty : (del removed).after space (store.subjectsKey other) = none :=
        if_pos gone
      unfold tableAt at found
      rw [empty] at found
      cases found
      cases listed
    · have kept : (del removed).after space (store.subjectsKey other) =
          space (store.subjectsKey other) := if_neg gone
      rw [tableAt_congr kept] at found
      exact indexed other subjects found subject listed
  · intro other ne key member
    exact (if_neg fun listed => notMem_tenantKeys ne (own key listed) member).symm

/-- The list of the tenant is rewritten with subjects it had and keys of the tenant. -/
theorem within_relist {rewritten : Table → Table}
    (own : ∀ subjects : Table, ∀ subject ∈ (rewritten subjects).keys,
      subject ∈ subjects.keys ∨ subject ∈ store.tenantKeys tenantId) : (do
      let subjects ← readTable .sortedSet (store.subjectsKey tenantId)
      modify (putTable .sortedSet (store.subjectsKey tenantId) (rewritten subjects)) :
        Script Unit).Within (store.Confined tenantId) := by
  rw [within_iff_ends]
  intro space
  rw [ends_bind, ends_readTable]
  cases found : tableAt .sortedSet (store.subjectsKey tenantId) space with
  | none => exact Confined.refl space
  | some subjects =>
    refine confined_update ⟨_, rfl⟩ fun _ indexed listed listed_eq => ?_
    have written := @tableAt_putTable .sortedSet (store.subjectsKey tenantId)
      (rewritten subjects) space
    cases Option.some.inj (written.symm.trans listed_eq)
    exact fun subject member => (own subjects subject member).elim
      (indexed tenantId subjects found subject) id

theorem within_listSubject (own : subject ∈ store.tenantKeys tenantId) :
    (insertEntry .sortedSet (store.subjectsKey tenantId) subject now).Within
      (store.Confined tenantId) := by
  refine within_relist fun subjects other member => ?_
  rcases (AList.mem_insert subjects).mp (AList.mem_keys.mpr member) with rfl | member
  · exact .inr own
  · exact .inl (AList.mem_keys.mp member)

theorem within_unlistSubjects :
    (eraseEntries .sortedSet (store.subjectsKey tenantId) removed).Within
      (store.Confined tenantId) :=
  within_relist fun _ _ member => .inl ((List.filter_sublist.map Sigma.fst).subset member)

theorem within_evictSubject (own : subject ∈ store.tenantKeys tenantId) :
    (evictSubject (store.subjectsKey tenantId) subject).Within
      (store.Confined tenantId) := by
  obtain ⟨rest, rfl⟩ := own
  refine confined_bind (within_del ?_) fun _ => within_unlistSubjects
  intro key listed
  have behind_tag : ∀ suffix : String,
      store.tag tenantId ++ rest ++ suffix ∈ store.tenantKeys tenantId :=
    fun suffix => ⟨rest ++ suffix, String.append_assoc⟩
  simp only [List.mem_cons, List.not_mem_nil, or_false] at listed
  rcases listed with rfl | rfl | rfl
  · exact behind_tag ":w"
  · exact behind_tag ":c"
  · exact behind_tag ":cd"

theorem within_evictSubjects {subjects : List String}
    (own : ∀ subject ∈ subjects, subject ∈ store.tenantKeys tenantId) :
    (subjects.forM (evictSubject (store.subjectsKey tenantId))).Within
      (store.Confined tenantId) := by
  induction subjects with
  | nil => exact confined_pure (PUnit.unit : PUnit)
  | cons subject subjects ih =>
    exact confined_bind (within_evictSubject (own subject List.mem_cons_self)) fun _ =>
      ih fun other member => own other (List.mem_cons_of_mem _ member)

/-- The evicted subjects are read from the list of the tenant, so they are its own. -/
theorem within_evictOldest {bound : Nat} : (do
      let members ← zrange (store.subjectsKey tenantId)
      (members.take bound).forM (evictSubject (store.subjectsKey tenantId)) :
        Script PUnit).Within (store.Confined tenantId) := by
  rw [within_iff_ends]
  intro space
  by_cases indexed : store.Indexed space
  · unfold zrange
    rw [ends_bind, ends_map, ends_readTable]
    cases found : tableAt .sortedSet (store.subjectsKey tenantId) space with
    | none => exact Confined.refl space
    | some subjects =>
      refine within_iff_ends.mp (within_evictSubjects ?_) space
      intro subject member
      have listed : subject ∈ subjects.keys :=
        (Table.ranked_perm subjects).subset (List.mem_of_mem_take member)
      exact indexed tenantId subjects found subject listed
  · exact ends_of_forall (fun _ _ absent => absurd absent indexed)
      (fun _ _ absent => absurd absent indexed)

theorem within_tenantQuotaScript {maxSubjects : Int} (own : subject ∈ store.tenantKeys tenantId) :
    (tenantQuotaScript (store.subjectsKey tenantId) now subject maxSubjects).Within
      (store.Confined tenantId) := by
  refine confined_bind (within_listSubject own) fun _ => ?_
  split
  · exact confined_pure ()
  · refine confined_bind (within_zcard Confined.refl) fun count => ?_
    split
    · exact within_evictOldest
    · exact confined_pure ()

theorem after_guarded (key : LimitKey) (script : Script α) (space : Keyspace) :
    (guarded key script).after space = script.after space := by
  unfold EStateM.after guarded
  cases script space <;> rfl

theorem within_guarded {key : LimitKey} {script : Script α}
    (within : script.Within (store.Confined tenantId)) :
    (guarded key script).Within (store.Confined tenantId) := by
  intro space
  rw [after_guarded]
  exact within space

theorem within_ofExcept (result : Except PyError α) :
    (ofExcept result : EStateM PyError Keyspace α).Within (store.Confined tenantId) := by
  intro space
  cases result <;> exact Confined.refl space

theorem within_call [Runtime] (store : RedisLimitStore) (call : LimitCall) :
    (store.meter.call call).Within (store.Confined call.key.tenantId) := by
  cases call with
  | tryConsume key cost decisionId now =>
    refine EStateM.Within.map (confined_bind (within_ofExcept _) fun member =>
      confined_bind (within_ofExcept _) fun moment =>
        confined_bind (within_guarded (confined_bind ?_ fun _ => ?_)) fun _ =>
          within_ofExcept _) _
    · unfold touchSubject
      split
      · exact confined_pure ()
      · exact within_tenantQuotaScript ⟨key.canonicalKey, rfl⟩
    · exact within_consumeScript (owned_keys store key).allows
  | release key decisionId =>
    exact (within_guarded (within_releaseScript (owned_keys store key).allows)).map _
  | cumulative key window now =>
    exact EStateM.Within.map (confined_bind (within_ofExcept _) fun _ =>
      within_guarded (within_cumulativeScript (owned_keys store _).allows)) _

section Couplings

variable {keys : CounterKeys} {own : Set String}

def CounterKeys.Among (keys : CounterKeys) (own : Set String) : Prop :=
  keys.window ∈ own ∧ keys.cost ∈ own ∧ keys.cooldown ∈ own

section

variable (among : keys.Among own)
include among

theorem couples_sumCosts (members : List String) :
    (sumCosts keys.cost members).Couples (SameOn own) := by
  unfold sumCosts
  split
  · exact couples_pure _
  · exact (couples_hmget among.2.1).bind fun _ => couples_pure _

theorem couples_observed : (observed keys).Couples (SameOn own) :=
  (couples_zrange among.1).bind (couples_sumCosts among)

theorem couples_removeMembers (members : List String) :
    (removeMembers keys members).Couples (SameOn own) := by
  unfold removeMembers
  split
  · exact couples_pure ()
  · exact (couples_eraseEntries among.1).bind fun _ => couples_eraseEntries among.2.1

theorem couples_judgeAdmission (now cost ceiling seconds : ℚ) (member : String) :
    (judgeAdmission keys now member cost ceiling seconds).Couples (SameOn own) := by
  refine (couples_hexists among.2.1).bind fun known => ?_
  split
  · exact (couples_observed among).bind fun _ => couples_pure _
  · refine (couples_observed among).bind fun current => ?_
    split
    · exact couples_setNumber.bind fun _ => couples_pure _
    · exact (couples_insertEntry among.1).bind fun _ =>
        (couples_insertEntry among.2.1).bind fun _ => couples_pure _

theorem couples_consumeScript (now horizon cost ceiling seconds : ℚ) (member : String) :
    (consumeScript keys now horizon member cost ceiling seconds).Couples (SameOn own) := by
  refine (couples_zrangeByScore among.1).bind fun expired =>
    (couples_removeMembers among expired).bind fun _ =>
      (couples_getNumber among.2.2).bind fun cooldown => ?_
  cases cooldown with
  | none => exact couples_judgeAdmission among _ _ _ _ _
  | some bound =>
    dsimp only
    split
    · exact (couples_observed among).bind fun _ => couples_pure _
    · exact couples_del.bind fun _ => couples_judgeAdmission among _ _ _ _ _

end

theorem couples_tenantQuotaScript {subjectsKey : String} (member : subjectsKey ∈ own) (now : ℚ)
    (subject : String) (maxSubjects : Int) :
    (tenantQuotaScript subjectsKey now subject maxSubjects).Couples (SameOn own) := by
  refine (couples_insertEntry member).bind fun _ => ?_
  split
  · exact couples_pure ()
  · refine (couples_zcard member).bind fun count => ?_
    split
    · exact (couples_zrange member).bind fun _ => couples_forM fun _ =>
        couples_del.bind fun _ => couples_eraseEntries member
    · exact couples_pure ()

theorem couples_guarded {key : LimitKey} {script : Script α} {relation : Keyspace → Keyspace → Prop}
    (coupled : script.Couples relation) :
    (guarded key script).Couples relation := by
  intro left right related
  obtain ⟨result, left', right', left_run, right_run, related'⟩ := coupled left right related
  unfold guarded
  rw [left_run, right_run]
  cases result with
  | ok value => exact ⟨.ok value, left', right', rfl, rfl, related'⟩
  | error error => exact ⟨.error _, left', right', rfl, rfl, related'⟩

end Couplings

theorem couples_call [Runtime] (store : RedisLimitStore) (call : LimitCall) :
    (store.meter.call call).Couples (SameOn (store.tenantKeys call.key.tenantId)) := by
  have among : ∀ key, (store.keys key).Among (store.tenantKeys key.tenantId) := fun key =>
    ⟨(owned_keys store key).window.1, (owned_keys store key).cost.1,
      (owned_keys store key).cooldown.1⟩
  cases call with
  | tryConsume key cost decisionId now =>
    refine EStateM.Couples.map ((couples_ofExcept _).bind fun member =>
      (couples_ofExcept _).bind fun moment =>
        (couples_guarded (EStateM.Couples.bind ?_ fun _ => ?_)).bind fun _ =>
          couples_ofExcept _) _
    · unfold touchSubject
      split
      · exact couples_pure ()
      · have listed : store.tenantSubjectsKey key ∈ store.tenantKeys key.tenantId := ⟨_, rfl⟩
        exact couples_tenantQuotaScript listed _ _ _
    · exact couples_consumeScript (among key) _ _ _ _ _ _
  | release key decisionId =>
    refine EStateM.Couples.map (couples_guarded ?_) _
    exact (couples_zrange (among key).1).bind fun _ => couples_removeMembers (among key) _
  | cumulative key window now =>
    refine EStateM.Couples.map ((couples_ofExcept _).bind fun moment =>
      couples_guarded ?_) _
    exact (couples_zrangeByScore (among key).1).bind (couples_sumCosts (among key))

section Runs

variable [Runtime] {space : Keyspace} {left right : Keyspace}

/-- A call of another tenant leaves the keys of the tenant alone. -/
theorem step_of_other (store : RedisLimitStore) {call : LimitCall}
    (other : call.key.tenantId ≠ tenantId) (indexed : store.Indexed space) :
    store.Indexed (store.meter.step call space).2 ∧
      SameOn (store.tenantKeys tenantId) space (store.meter.step call space).2 := by
  obtain ⟨indexed', same⟩ := within_call store call space indexed
  rw [LimitMeter.step_snd]
  exact ⟨indexed', same tenantId other.symm⟩

/-- A call of the tenant is answered the same on servers which agree on its keys. -/
theorem step_of_own (store : RedisLimitStore) (call : LimitCall)
    (same : SameOn (store.tenantKeys call.key.tenantId) left right) :
    (store.meter.step call left).1 = (store.meter.step call right).1 ∧
      SameOn (store.tenantKeys call.key.tenantId) (store.meter.step call left).2
        (store.meter.step call right).2 := by
  obtain ⟨result, left', right', left_run, right_run, same'⟩ := couples_call store call left right
    same
  rw [LimitMeter.step_of_endingIn left_run, LimitMeter.step_of_endingIn right_run]
  exact ⟨rfl, same'⟩

theorem indexed_step (store : RedisLimitStore) (call : LimitCall) (indexed : store.Indexed space) :
    store.Indexed (store.meter.step call space).2 := by
  rw [LimitMeter.step_snd]
  exact (within_call store call space indexed).1

/-- Leaving out the calls of other tenants changes nothing for the tenant. -/
theorem trace_filter (store : RedisLimitStore) (tenantId : Identifier) (calls : List LimitCall)
    (left_indexed : store.Indexed left) (same : SameOn (store.tenantKeys tenantId) left right) :
    (store.meter.trace calls left).filter (·.1.key.tenantId = tenantId) =
      store.meter.trace (calls.filter (·.key.tenantId = tenantId)) right := by
  induction calls generalizing left right with
  | nil => rfl
  | cons call calls ih =>
    rw [LimitMeter.trace_cons]
    by_cases own : call.key.tenantId = tenantId
    · subst own
      obtain ⟨replied, same'⟩ := store.step_of_own call same
      rw [List.filter_cons_of_pos (by simp), List.filter_cons_of_pos (by simp),
        LimitMeter.trace_cons, replied, ih (store.indexed_step call left_indexed) same']
    · obtain ⟨indexed, untouched⟩ := store.step_of_other own left_indexed
      rw [List.filter_cons_of_neg (by simpa using own),
        List.filter_cons_of_neg (by simpa using own)]
      exact ih indexed (untouched.symm.trans same)

/-- Two sequences of calls which agree on the calls of a tenant agree on what it is told. -/
theorem tenant_told_the_same (store : RedisLimitStore) (tenantId : Identifier)
    (left right : List LimitCall)
    (same : left.filter (·.key.tenantId = tenantId) = right.filter (·.key.tenantId = tenantId)) :
    (store.meter.trace left (fun _ => none)).filter (·.1.key.tenantId = tenantId) =
      (store.meter.trace right (fun _ => none)).filter (·.1.key.tenantId = tenantId) := by
  have empty : store.Indexed fun _ => none := by
    intro tenant subjects found subject listed
    cases found
    cases listed
  rw [store.trace_filter tenantId left empty (SameOn.refl _), same,
    ← store.trace_filter tenantId right empty (SameOn.refl _)]

end Runs

/-- Another tenant with the same agent uses its budget first. -/
theorem tenant_told_the_same_acme :
    letI := plainRuntime
    ((meter { defaultLimit := 1, maxTenantSubjects := 1 }).trace
        [.tryConsume { sampleLimitKey with tenantId := ⟨"other", by decide⟩ } 1 "decision-0" 0,
          .tryConsume sampleLimitKey 1 "decision-1" 0] (fun _ => none)).filter
        (·.1.key.tenantId = acme) =
      ((meter { defaultLimit := 1, maxTenantSubjects := 1 }).trace
        [.tryConsume sampleLimitKey 1 "decision-1" 0] (fun _ => none)).filter
        (·.1.key.tenantId = acme) := by
  let _ := plainRuntime
  exact tenant_told_the_same _ acme _ _ rfl

end RedisLimitStore

end GlassBox
