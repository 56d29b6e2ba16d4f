import GlassBox.Adapters.Memory.LimitCounters
import GlassBox.Adapters.Redis.LimitCounters
import GlassBox.Domain.Sample
import GlassBox.Foundation.Runs

/-!
# The two limit stores agree

A Redis store without a tenant quota and an in-memory store without evictions, configured alike,
answer every sequence of calls alike, through the counter that both of them refine.
-/

namespace GlassBox

open EStateM

open Keyspace SlidingWindow

namespace RedisLimitStore

theorem guarded_run {α : Type} {key : LimitKey} {script : Script α} {value : α}
    {space after : Keyspace} (run : script space = .ok value after) :
    guarded key script space = .ok value after := by
  unfold guarded
  rw [run]

section Calls

variable [Runtime] {store : RedisLimitStore} {key : LimitKey} {cost now : ℚ} {decisionId : String}
  {counter : LimitCounter} {space : Keyspace}

theorem step_tryConsume {member : String} (unlimited : store.maxTenantSubjects = 0)
    (named : LimitKey.memberFor decisionId now = .ok member)
    (holds : Holds (store.keys key) counter space) :
    ∃ after, store.meter.step (.tryConsume key cost decisionId now) space =
        (((counter.consume (store.ceiling key.canonicalKey) store.cooldownSeconds
          (now - key.window.seconds) now member cost).1.verdict key
            (store.ceiling key.canonicalKey) now).map .verdict, after) ∧
      Holds (store.keys key) (counter.consume (store.ceiling key.canonicalKey)
        store.cooldownSeconds (now - key.window.seconds) now member cost).2 after ∧
      SameOn (store.keys key).others space after := by
  obtain ⟨-, stamped, -⟩ := LimitKey.memberFor_eq_ok_iff.mp named
  have moment : requireTimestamp now "now" = .ok ⟨now, stamped⟩ :=
    requireTimestamp_eq_ok_iff.mpr rfl
  obtain ⟨after, run, after_holds, frame⟩ := consumeScript_run (distinct_keysUnder _) holds
    (now - key.window.seconds) now (store.ceiling key.canonicalKey) store.cooldownSeconds cost
      member
  have scripts : store.consumeWithQuota key cost member ⟨now, stamped⟩ space =
      .ok (counter.consume (store.ceiling key.canonicalKey) store.cooldownSeconds
        (now - key.window.seconds) now member cost).1 after := by
    unfold consumeWithQuota touchSubject
    rw [if_pos unlimited]
    exact run
  refine ⟨after, LimitMeter.step_of_endingIn (map_of_endingIn ?_), after_holds, frame⟩
  change store.tryConsume key cost decisionId now space = _
  unfold tryConsume
  rw [bind_of_ok (ofExcept_run named space), bind_of_ok (ofExcept_run moment space),
    bind_of_ok (guarded_run scripts)]
  exact ofExcept_eq_endingIn _ _

theorem step_tryConsume_of_unnamed {error : PyError}
    (unnamed : LimitKey.memberFor decisionId now = .error error) :
    store.meter.step (.tryConsume key cost decisionId now) space = (.error error, space) := by
  refine LimitMeter.step_of_endingIn (@map_of_endingIn _ _ _ _ _ LimitReply.verdict space
    space (.error error) ?_)
  change store.tryConsume key cost decisionId now space = _
  unfold tryConsume
  rw [unnamed]
  rfl

theorem step_release (holds : Holds (store.keys key) counter space) :
    ∃ after, store.meter.step (.release key decisionId) space = (.ok .released, after) ∧
      Holds (store.keys key) (counter.release (":" ++ decisionId)) after ∧
      SameOn (store.keys key).others space after := by
  obtain ⟨after, run, after_holds, frame⟩ := releaseScript_run (distinct_keysUnder _) holds
    (":" ++ decisionId)
  exact ⟨after, LimitMeter.step_of_endingIn (@map_of_endingIn _ _ _ _ _
    (fun _ => LimitReply.released) space after (.ok ()) (guarded_run run)), after_holds, frame⟩

theorem step_cumulative {window : Window} (holds : Holds (store.keys key) counter space) :
    store.meter.step (.cumulative key window now) space =
      (((requireTimestamp now "now").map fun moment =>
        counter.cumulative (window.startOf moment)).map .consumed, space) := by
  refine LimitMeter.step_of_endingIn (map_of_endingIn ?_)
  change store.cumulative key window now space = _
  unfold cumulative
  cases stamped : requireTimestamp now "now" with
  | error error => rfl
  | ok moment => exact guarded_run (cumulativeScript_run holds (window.startOf moment))

end Calls

/-- The two stores are configured alike, and each counter of one behaves as it does in the other. -/
structure Agrees (store : RedisLimitStore) (clock : ℚ) (memory : InMemoryLimitStore)
    (space : Keyspace) : Prop where
  available : memory.available = true
  ceiling : memory.ceiling = store.ceiling
  cooldownSeconds : memory.cooldownSeconds = store.cooldownSeconds
  counters : ∀ key : LimitKey, ∃ counter, Holds (store.keys key) counter space ∧
    (memory.counter key.canonicalKey).AgreesBehind (clock - key.window.seconds) counter

theorem Agrees.replace {store : RedisLimitStore} {clock later : ℚ}
    {memory memory' : InMemoryLimitStore} {space space' : Keyspace}
    (agrees : store.Agrees clock memory space) (forward : clock ≤ later) {key : LimitKey}
    {counter : LimitCounter} (settings : memory'.settings = memory.settings)
    (memory_others : ∀ other ≠ key.canonicalKey, memory'.counter other = memory.counter other)
    (space_others : SameOn (store.keys key).others space space')
    (holds : Holds (store.keys key) counter space')
    (agreed : (memory'.counter key.canonicalKey).AgreesBehind (later - key.window.seconds)
      counter) :
    store.Agrees later memory' space' where
  available := (InMemoryLimitStore.available_of_settings settings).trans agrees.available
  ceiling := (InMemoryLimitStore.ceiling_of_settings settings).trans agrees.ceiling
  cooldownSeconds :=
    (InMemoryLimitStore.cooldownSeconds_of_settings settings).trans agrees.cooldownSeconds
  counters := by
    intro other
    by_cases same : other = key
    · subst same
      exact ⟨counter, holds, agreed⟩
    · obtain ⟨held, other_holds, other_agreed⟩ := agrees.counters other
      obtain ⟨window, cost, cooldown⟩ :=
        keysUnder_mem_others fun equal => same (store.prefixed_injective equal)
      refine ⟨held, other_holds.congr (space_others _ window).symm (space_others _ cost).symm
        (space_others _ cooldown).symm, ?_⟩
      rw [memory_others _ fun equal => same (LimitKey.canonicalKey_injective equal)]
      exact other_agreed.mono (sub_le_sub_right forward _)

section Runs

variable [Runtime]

def advance (call : LimitCall) (state : ℚ × InMemoryLimitStore) : ℚ × InMemoryLimitStore :=
  (call.clock state.1, (InMemoryLimitStore.meter.step call state.2).2)

/-- The calls are made at non-decreasing times, the in-memory store has room for the window of the
counter, and consumption is asked for in that window. -/
def Comparable (call : LimitCall) (state : ℚ × InMemoryLimitStore) : Prop :=
  state.1 ≤ call.clock state.1 ∧
    match call with
    | .tryConsume key .. => state.2.windows.Fits state.2.maxSubjects key.canonicalKey
    | .cumulative key window _ => window = key.window
    | .release .. => True

theorem Agrees.step {store : RedisLimitStore} (unlimited : store.maxTenantSubjects = 0) {clock : ℚ}
    {memory : InMemoryLimitStore} {space : Keyspace} (agrees : store.Agrees clock memory space)
    {call : LimitCall} (comparable : Comparable call (clock, memory)) :
    (InMemoryLimitStore.meter.step call memory).1 = (store.meter.step call space).1 ∧
      store.Agrees (call.clock clock) (InMemoryLimitStore.meter.step call memory).2
        (store.meter.step call space).2 := by
  obtain ⟨forward, comparable⟩ := comparable
  change clock ≤ call.clock clock at forward
  cases call with
  | tryConsume key cost decisionId now =>
    change clock ≤ now at forward
    obtain ⟨counter, holds, agreed⟩ := agrees.counters key
    cases named : LimitKey.memberFor decisionId now with
    | error error =>
      rw [InMemoryLimitStore.step_tryConsume_of_unnamed agrees.available named,
        step_tryConsume_of_unnamed named]
      exact ⟨rfl, agrees.replace forward rfl (fun _ _ => rfl) (SameOn.refl space) holds
        (agreed.mono (sub_le_sub_right forward _))⟩
    | ok member =>
      obtain ⟨memory', memory_run, updates⟩ := @InMemoryLimitStore.step_tryConsume _ key cost now
        decisionId memory member agrees.available comparable named
      obtain ⟨space', space_run, holds', frame⟩ := @step_tryConsume _ store key cost now
        decisionId counter space member unlimited named holds
      have same := (agreed.mono (sub_le_sub_right forward _)).consume_eq
        (store.ceiling key.canonicalKey) store.cooldownSeconds now member cost
      rw [InMemoryLimitStore.consumed, agrees.ceiling, agrees.cooldownSeconds, same]
        at memory_run updates
      rw [memory_run, space_run]
      exact ⟨rfl, agrees.replace forward updates.settings updates.others frame holds'
        updates.agrees⟩
  | release key decisionId =>
    obtain ⟨counter, holds, agreed⟩ := agrees.counters key
    obtain ⟨memory', memory_run, released, settings, others⟩ :=
      @InMemoryLimitStore.step_release _ key decisionId memory agrees.available
    obtain ⟨space', space_run, holds', frame⟩ := @step_release _ store key decisionId counter
      space holds
    rw [memory_run, space_run]
    refine ⟨rfl, agrees.replace forward settings others frame holds' ?_⟩
    rw [released]
    exact agreed.release _
  | cumulative key window now =>
    change clock ≤ now at forward
    change window = key.window at comparable
    subst comparable
    obtain ⟨counter, holds, agreed⟩ := agrees.counters key
    rw [InMemoryLimitStore.step_cumulative agrees.available, step_cumulative holds]
    refine ⟨?_, agrees.replace forward rfl (fun _ _ => rfl) (SameOn.refl space) holds
      (agreed.mono (sub_le_sub_right forward _))⟩
    cases stamped : requireTimestamp now "now" with
    | error error => rfl
    | ok moment =>
      have moment_eq := requireTimestamp_eq_ok_iff.mp stamped
      have equal := LimitCounter.AgreesBehind.cumulative_eq
        (agreed.mono (sub_le_sub_right (moment_eq ▸ forward) _))
      exact congrArg (fun cost => Except.ok (LimitReply.consumed cost)) equal

/-- Configured alike, the two stores answer every comparable sequence of calls alike. -/
theorem trace_eq_memory {limits : String → Option ℚ} {defaultLimit cooldownSeconds clock : ℚ}
    {maxSubjects : Nat} {keyPrefix : String} {calls : List LimitCall}
    (comparable : Permits Comparable advance calls
      (clock, InMemoryLimitStore.new limits defaultLimit cooldownSeconds maxSubjects)) :
    InMemoryLimitStore.meter.trace calls
        (InMemoryLimitStore.new limits defaultLimit cooldownSeconds maxSubjects) =
      (meter { limits, defaultLimit, cooldownSeconds, keyPrefix, maxTenantSubjects := 0 }).trace
        calls (fun _ => none) := by
  let store : RedisLimitStore :=
    { limits, defaultLimit, cooldownSeconds, keyPrefix, maxTenantSubjects := 0 }
  have lockstep : ∀ (calls : List LimitCall) (clock : ℚ) (memory : InMemoryLimitStore)
      (space : Keyspace), store.Agrees clock memory space →
        Permits Comparable advance calls (clock, memory) →
          InMemoryLimitStore.meter.trace calls memory = store.meter.trace calls space := by
    intro calls
    induction calls with
    | nil => exact fun _ _ _ _ _ => rfl
    | cons call calls ih =>
      rintro clock memory space agrees ⟨comparable, rest⟩
      obtain ⟨same, agrees'⟩ := agrees.step rfl comparable
      rw [LimitMeter.trace_cons, LimitMeter.trace_cons, same, ih _ _ _ agrees' rest]
  refine lockstep calls clock _ _ ⟨rfl, rfl, rfl, fun key => ⟨{}, ?_, rfl, rfl⟩⟩ comparable
  exact holds_empty rfl rfl rfl

end Runs

/-- A budget of one is used, refused and returned. -/
def sampleLimitCalls : List LimitCall :=
  [.tryConsume sampleLimitKey 1 "decision-1" 0, .tryConsume sampleLimitKey 1 "decision-2" 1,
    .release sampleLimitKey "decision-1", .cumulative sampleLimitKey sampleLimitKey.window 2]

theorem trace_eq_memory_sampleLimitCalls :
    letI := plainRuntime
    InMemoryLimitStore.meter.trace sampleLimitCalls
        (InMemoryLimitStore.new (fun _ => none) 1 300 10) =
      (meter { defaultLimit := 1 }).trace sampleLimitCalls (fun _ => none) := by
  let _ := plainRuntime
  have comparable : Permits Comparable advance sampleLimitCalls
      (0, InMemoryLimitStore.new (fun _ => none) 1 300 10) :=
    ⟨⟨le_refl _, Or.inr (by decide)⟩, ⟨by decide, Or.inr (by decide +kernel)⟩,
      ⟨le_refl _, trivial⟩, ⟨by decide, rfl⟩, trivial⟩
  exact trace_eq_memory comparable

end RedisLimitStore

end GlassBox
