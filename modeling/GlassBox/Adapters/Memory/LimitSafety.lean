import GlassBox.Adapters.Memory.LimitCounters
import GlassBox.Domain.Sample
import GlassBox.Foundation.Runs

/-!
# Limit safety

The callers of a limit store keep an account of admissions and releases.  As long as no release
takes back an admission of another decision, every window stays within its ceiling, and a tripped
counter stays tripped until its cooldown is over.
-/

namespace GlassBox

open SlidingWindow
open InMemoryLimitStore (available_of_settings belongsTo ceiling_of_settings consumed meter new
  step_cumulative step_release step_tryConsume step_tryConsume_of_unnamed)

/-- An admission as its caller knows it. -/
structure Grant where
  moment : ℚ
  decisionId : String
  cost : ℚ

/-- The entry a store keeps for a grant. -/
def Grant.admission [Runtime] (grant : Grant) : Admission where
  timestamp := grant.moment
  member := Runtime.reprFloat grant.moment ++ ":" ++ grant.decisionId
  cost := grant.cost

open Admission (timestamp)
open Grant (admission moment)

/-- A limit store, the time, and the distinct admissions which have not been released. -/
structure LimitAccount where
  store : InMemoryLimitStore
  clock : ℚ
  grants : LimitKey → List Grant := fun _ => []

namespace LimitAccount

/-- What a call and its reply change in the account.  A repeated decision at the same time is the
same admission. -/
def book (call : LimitCall) (reply : Except PyError LimitReply) (grants : LimitKey → List Grant) :
    LimitKey → List Grant :=
  match call, reply with
  | .tryConsume key cost decisionId now, .ok (.verdict verdict) =>
    if verdict.admitted = true ∧
        ¬ ∃ grant ∈ grants key, grant.moment = now ∧ grant.decisionId = decisionId then
      Function.update grants key (grants key ++ [⟨now, decisionId, cost⟩])
    else grants
  | .release key decisionId, .ok _ =>
    Function.update grants key ((grants key).filter (·.decisionId ≠ decisionId))
  | _, _ => grants

section Booking

variable {key : LimitKey} {cost now ceiling observed : ℚ} {decisionId : String}
  {grants : LimitKey → List Grant}

/-- A refusal leaves the account alone, whether or not it can be reported. -/
theorem book_of_refused {retry : Option (ℚ × ℚ)} :
    book (.tryConsume key cost decisionId now)
      (((⟨false, observed, retry⟩ : LimitAnswer).verdict key ceiling now).map .verdict) grants =
      grants := by
  cases made : (⟨false, observed, retry⟩ : LimitAnswer).verdict key ceiling now with
  | error error => rfl
  | ok verdict =>
    have refused : verdict.admitted = false := (LimitVerdict.of_make made).1
    refine if_neg ?_
    rw [refused]
    rintro ⟨admitted, -⟩
    cases admitted

theorem book_of_repeated {answer : LimitAnswer}
    (known : ∃ grant ∈ grants key, grant.moment = now ∧ grant.decisionId = decisionId) :
    book (.tryConsume key cost decisionId now)
      ((answer.verdict key ceiling now).map .verdict) grants = grants := by
  cases answer.verdict key ceiling now with
  | error error => rfl
  | ok verdict => exact if_neg fun fresh => fresh.2 known

theorem book_of_granted (budget : 0 ≤ ceiling) (nonneg : 0 ≤ observed)
    (stamped : 0 ≤ now ∧ now ≤ maxTimestamp) (affordable : observed ≤ ceiling)
    (unknown : ¬ ∃ grant ∈ grants key, grant.moment = now ∧ grant.decisionId = decisionId) :
    book (.tryConsume key cost decisionId now)
      (((⟨true, observed, none⟩ : LimitAnswer).verdict key ceiling now).map .verdict) grants =
      Function.update grants key (grants key ++ [⟨now, decisionId, cost⟩]) := by
  obtain ⟨verdict, made⟩ := @LimitVerdict.exists_make true key ceiling observed now none budget
    nonneg stamped (fun _ absent => by cases absent) (fun _ => affordable)
  have made' : (⟨true, observed, none⟩ : LimitAnswer).verdict key ceiling now = .ok verdict := made
  rw [made']
  exact if_pos ⟨(LimitVerdict.of_make made).1, unknown⟩

end Booking

section Accounts

variable [Runtime] {account : LimitAccount} {key : LimitKey} {clock : ℚ} {decisionId : String}
  {cost now : ℚ} {call : LimitCall} {bound : Timestamp}

def step (call : LimitCall) (account : LimitAccount) : LimitAccount where
  store := (meter.step call account.store).2
  clock := call.clock account.clock
  grants := book call (meter.step call account.store).1 account.grants

/-- The calls are made at non-decreasing times for non-negative costs, and the store has room for
the window of the counter. -/
def Orderly (call : LimitCall) (account : LimitAccount) : Prop :=
  account.clock ≤ call.clock account.clock ∧
    match call with
    | .tryConsume key cost _ _ =>
      0 ≤ cost ∧ account.store.windows.Fits account.store.maxSubjects key.canonicalKey
    | _ => True

/-- A release takes back admissions of the released decision only. -/
def ReleasesOwn (call : LimitCall) (account : LimitAccount) : Prop :=
  match call with
  | .release key decisionId =>
    ∀ entry ∈ account.store.admissions key.canonicalKey,
      belongsTo decisionId entry = true →
        entry.member = Runtime.reprFloat entry.timestamp ++ ":" ++ decisionId
  | _ => True

def WithinCeilings (account : LimitAccount) : Prop :=
  ∀ key : LimitKey, Within moment Grant.cost (key.window.seconds : ℚ)
    (account.store.ceiling key.canonicalKey) (account.grants key)

/-- The store keeps what still counts of the account, and the account is within its bounds. -/
structure Sound (account : LimitAccount) : Prop where
  available : account.store.available = true
  budget : ∀ canonical, 0 ≤ account.store.ceiling canonical
  kept : ∀ key : LimitKey,
    behind timestamp (account.clock - key.window.seconds)
        (account.store.admissions key.canonicalKey) =
      behind timestamp (account.clock - key.window.seconds) ((account.grants key).map admission)
  nonneg : ∀ key, ∀ grant ∈ account.grants key, 0 ≤ grant.cost
  within : account.WithinCeilings

theorem behind_map_admission (horizon : ℚ) (grants : List Grant) :
    behind timestamp horizon (grants.map admission) =
      (behind moment horizon grants).map admission := by
  unfold behind
  rw [List.filter_map]
  rfl

theorem total_map_admission (grants : List Grant) :
    total Admission.cost (grants.map admission) = total Grant.cost grants := by
  unfold total
  rw [List.map_map]
  rfl

/-- Time passes and one counter changes with its account. -/
theorem Sound.replace (sound : account.Sound) {store : InMemoryLimitStore} {grants : List Grant}
    (forward : account.clock ≤ clock) (settings : store.settings = account.store.settings)
    (others : ∀ other ≠ key.canonicalKey, store.counter other = account.store.counter other)
    (kept : behind timestamp (clock - key.window.seconds)
        (store.admissions key.canonicalKey) =
      behind timestamp (clock - key.window.seconds) (grants.map admission))
    (nonneg : ∀ grant ∈ grants, 0 ≤ grant.cost)
    (within : Within moment Grant.cost (key.window.seconds : ℚ)
      (account.store.ceiling key.canonicalKey) grants) :
    Sound ⟨store, clock, Function.update account.grants key grants⟩ := by
  have ceiling := ceiling_of_settings settings
  refine ⟨?_, ?_, ?_, ?_, ?_⟩
  · rw [available_of_settings settings]
    exact sound.available
  · rw [ceiling]
    exact sound.budget
  · intro other
    by_cases same : other = key
    · subst same
      simpa using kept
    · have apart : other.canonicalKey ≠ key.canonicalKey :=
        fun equal => same (LimitKey.canonicalKey_injective equal)
      have held : store.admissions other.canonicalKey =
          account.store.admissions other.canonicalKey :=
        congrArg LimitCounter.admissions (others _ apart)
      simp only [Function.update_of_ne same, held]
      exact behind_eq_mono (sub_le_sub_right forward _) (sound.kept other)
  · intro other
    by_cases same : other = key
    · subst same
      simpa using nonneg
    · simpa [Function.update_of_ne same] using sound.nonneg other
  · intro other
    rw [ceiling]
    by_cases same : other = key
    · subst same
      simpa using within
    · simpa [Function.update_of_ne same] using sound.within other

theorem Sound.refresh {account : LimitAccount} (sound : account.Sound) {key : LimitKey}
    {clock : ℚ} {store : InMemoryLimitStore} (forward : account.clock ≤ clock)
    (settings : store.settings = account.store.settings)
    (others : ∀ other ≠ key.canonicalKey, store.counter other = account.store.counter other)
    (kept : behind timestamp (clock - key.window.seconds)
        (store.admissions key.canonicalKey) =
      behind timestamp (clock - key.window.seconds)
        (account.store.admissions key.canonicalKey)) :
    Sound ⟨store, clock, account.grants⟩ := by
  have replaced := sound.replace forward settings others
    (kept.trans (behind_eq_mono (sub_le_sub_right forward _) (sound.kept key)))
    (sound.nonneg key) (sound.within key)
  rwa [Function.update_eq_self] at replaced

theorem Sound.tryConsume (sound : account.Sound)
    (orderly : Orderly (.tryConsume key cost decisionId now) account) :
    Sound (step (.tryConsume key cost decisionId now) account) := by
  obtain ⟨forward, cost_nonneg, fits⟩ := orderly
  cases named : LimitKey.memberFor decisionId now with
  | error error =>
    have run := @step_tryConsume_of_unnamed _ key cost now decisionId _ _
      sound.available named
    unfold step
    rw [run]
    exact @Sound.refresh _ _ sound key _ _ forward rfl (fun _ _ => rfl) rfl
  | ok member =>
    obtain ⟨-, stamped, rfl⟩ := LimitKey.memberFor_eq_ok_iff.mp named
    obtain ⟨after, run, updates⟩ := @step_tryConsume _ key cost now decisionId
      _ _ sound.available fits named
    have kept : behind timestamp (now - key.window.seconds)
        (account.store.admissions key.canonicalKey) =
          (behind moment (now - key.window.seconds) (account.grants key)).map admission :=
      (behind_eq_mono (sub_le_sub_right forward _) (sound.kept key)).trans
        (behind_map_admission _ _)
    have consumed := account.store.consumed_cases key now
      (Runtime.reprFloat now ++ ":" ++ decisionId) cost
    unfold step
    rw [run]
    generalize account.store.consumed key now (Runtime.reprFloat now ++ ":" ++ decisionId) cost =
      result at consumed updates ⊢
    obtain ⟨answer, next⟩ := result
    have agrees := updates.agrees.1
    cases consumed with
    | refused =>
      dsimp only
      rw [book_of_refused]
      exact sound.refresh forward updates.settings updates.others
        (agrees.trans (behind_behind (le_refl _)))
    | repeated known =>
      dsimp only
      rw [book_of_repeated]
      · exact sound.refresh forward updates.settings updates.others
          (agrees.trans (behind_behind (le_refl _)))
      · rw [kept] at known
        obtain ⟨entry, entry_mem, same⟩ := known
        obtain ⟨grant, grant_mem, rfl⟩ := List.mem_map.mp entry_mem
        exact ⟨grant, (mem_behind.mp grant_mem).1, LimitKey.member_injective same⟩
    | granted unknown affordable =>
      rw [kept] at unknown affordable agrees
      have costs : ∀ grant ∈ behind moment (now - key.window.seconds)
          (account.grants key), 0 ≤ grant.cost :=
        fun grant member => sound.nonneg key grant (mem_behind.mp member).1
      have fresh : ¬ ∃ grant ∈ account.grants key,
          grant.moment = now ∧ grant.decisionId = decisionId := by
        rintro ⟨grant, member, rfl, rfl⟩
        have width : (0 : ℚ) < key.window.seconds := Nat.cast_pos.mpr key.window.positive
        have counts : grant ∈ behind moment (grant.moment - key.window.seconds)
            (account.grants key) := mem_behind.mpr ⟨member, sub_lt_self _ width⟩
        exact unknown _ (List.mem_map_of_mem counts) rfl
      rw [total_map_admission] at affordable
      dsimp only
      rw [kept, total_map_admission, book_of_granted (sound.budget _)
        (add_nonneg (total_nonneg costs) cost_nonneg) stamped affordable fresh]
      refine sound.replace forward updates.settings updates.others ?_ ?_ ?_
      · refine agrees.trans ?_
        dsimp only
        rw [← behind_map_admission, List.map_append, behind_append, behind_append,
          behind_behind (le_refl _)]
        rfl
      · intro grant member
        rcases List.mem_append.mp member with member | member
        · exact sound.nonneg key grant member
        · rw [List.mem_singleton.mp member]
          exact cost_nonneg
      · exact (sound.within key).concat (sound.nonneg key) affordable

/-- The suffix test of a release finds the entries of its own decision. -/
theorem belongsTo_admission (grant : Grant) :
    belongsTo grant.decisionId grant.admission = true := by
  unfold belongsTo
  rw [List.isSuffixOf_iff_suffix]
  exact ⟨(Runtime.reprFloat grant.moment).toList, by simp [admission]⟩

/-- A release of its own admissions keeps the account sound. -/
theorem Sound.release (sound : account.Sound)
    (own : ReleasesOwn (.release key decisionId) account) :
    Sound (step (.release key decisionId) account) := by
  obtain ⟨after, run, counter, settings, others⟩ :=
    @step_release _ key decisionId _ sound.available
  unfold step
  rw [run]
  refine sound.replace (le_refl _) settings others ?_ ?_ ?_
  · have released : after.admissions key.canonicalKey =
        (account.store.admissions key.canonicalKey).filter fun entry =>
          !belongsTo decisionId entry :=
      congrArg LimitCounter.admissions counter
    have kept := (sound.kept key).trans (behind_map_admission _ _)
    rw [released, behind_filter, behind_map_admission, behind_filter]
    change (behind timestamp (account.clock - _) _).filter _ =
      ((behind moment (account.clock - _) _).filter _).map _
    rw [kept, List.filter_map]
    refine congrArg (List.map admission) (List.filter_congr fun grant member => ?_)
    have stored : grant.admission ∈ account.store.admissions key.canonicalKey := by
      have entry := List.mem_map_of_mem (f := admission) member
      rw [← kept] at entry
      exact (mem_behind.mp entry).1
    have own_iff : belongsTo decisionId grant.admission = true ↔
        grant.decisionId = decisionId := by
      constructor
      · intro belongs
        exact (LimitKey.member_injective (own _ stored belongs)).2
      · rintro rfl
        exact belongsTo_admission grant
    by_cases same : grant.decisionId = decisionId
    · simp [own_iff.mpr same, same]
    · have other : belongsTo decisionId grant.admission = false :=
        Bool.eq_false_iff.mpr fun belongs => same (own_iff.mp belongs)
      simp [other, same]
  · intro grant member
    exact sound.nonneg key grant (List.mem_of_mem_filter member)
  · exact (sound.within key).sublist List.filter_sublist (sound.nonneg key)

theorem Sound.step (sound : account.Sound) (orderly : Orderly call account)
    (own : ReleasesOwn call account) :
    Sound (step call account) := by
  cases call with
  | tryConsume key cost decisionId now => exact sound.tryConsume orderly
  | release key decisionId => exact sound.release own
  | cumulative key window now =>
    unfold LimitAccount.step
    rw [step_cumulative sound.available]
    exact @Sound.refresh _ _ sound key _ _ orderly.1 rfl (fun _ _ => rfl) rfl

/-- The cooldown of the counter is in force until a time. -/
def Tripped (key : LimitKey) (bound : ℚ) (account : LimitAccount) : Prop :=
  account.clock < bound → account.store.cooldowns key.canonicalKey = some bound

theorem Tripped.step {bound : ℚ} (tripped : Tripped key bound account)
    (available : account.store.available = true) (orderly : Orderly call account) :
    Tripped key bound (step call account) := by
  intro early
  have forward : account.clock ≤ call.clock account.clock := orderly.1
  have held := tripped (lt_of_le_of_lt forward early)
  cases call with
  | tryConsume other cost decisionId now =>
    change now < bound at early
    unfold LimitAccount.step
    cases named : LimitKey.memberFor decisionId now with
    | error error =>
      rw [step_tryConsume_of_unnamed available named]
      exact held
    | ok member =>
      obtain ⟨after, run, updates⟩ := @step_tryConsume _ other cost now
        decisionId _ _ available orderly.2.2 named
      rw [run]
      by_cases same : key.canonicalKey = other.canonicalKey
      · rw [same] at held ⊢
        have expected := updates.agrees.2
        rw [consumed, LimitCounter.consume_of_held held early] at expected
        exact expected
      · exact (congrArg LimitCounter.cooldown (updates.others _ same)).trans held
  | release other decisionId =>
    obtain ⟨after, run, counter, -, others⟩ :=
      @step_release _ other decisionId _ available
    unfold LimitAccount.step
    rw [run]
    by_cases same : key.canonicalKey = other.canonicalKey
    · rw [same] at held ⊢
      exact (congrArg LimitCounter.cooldown counter).trans held
    · exact (congrArg LimitCounter.cooldown (others _ same)).trans held
  | cumulative other window now =>
    unfold LimitAccount.step
    rw [step_cumulative available]
    exact held

def RefusesUntil (key : LimitKey) (bound : Timestamp) (account : LimitAccount) : Prop :=
  ∀ cost decisionId now, Orderly (.tryConsume key cost decisionId now) account →
    isIdentifier decisionId = true → now < bound.val →
      ∃ verdict, (meter.step (.tryConsume key cost decisionId now)
          account.store).1 = .ok (.verdict verdict) ∧
        verdict.admitted = false ∧ verdict.cooldownUntil = some bound

theorem refusesUntil_of_tripped (sound : account.Sound) (tripped : Tripped key bound.val account)
    (started : 0 ≤ account.clock) :
    RefusesUntil key bound account := by
  intro cost decisionId now orderly identified early
  have forward : account.clock ≤ now := orderly.1
  have stamped : 0 ≤ now ∧ now ≤ maxTimestamp :=
    ⟨started.trans forward, early.le.trans bound.property.2⟩
  have named : LimitKey.memberFor decisionId now = .ok _ :=
    LimitKey.memberFor_eq_ok_iff.mpr ⟨identified, stamped, rfl⟩
  obtain ⟨after, run, -⟩ := @step_tryConsume _ key cost now
    decisionId _ _ sound.available orderly.2.2 named
  have held : (account.store.counter key.canonicalKey).cooldown = some bound.val :=
    tripped (lt_of_le_of_lt forward early)
  rw [consumed, LimitCounter.consume_of_held held early] at run
  have observed : 0 ≤ total Admission.cost (behind timestamp (now - key.window.seconds)
      (account.store.admissions key.canonicalKey)) := by
    rw [behind_eq_mono (sub_le_sub_right forward _) (sound.kept key), behind_map_admission,
      total_map_admission]
    exact total_nonneg fun grant member => sound.nonneg key grant (mem_behind.mp member).1
  obtain ⟨verdict, made⟩ := @LimitVerdict.exists_make false key
    (account.store.ceiling key.canonicalKey) _ now (some (bound.val - now, bound.val))
    (sound.budget _) observed stamped
    (by rintro pair ⟨⟩; exact ⟨sub_nonneg.mpr early.le, bound.property⟩)
    (fun admitted => by cases admitted)
  obtain ⟨refused, reported⟩ := LimitVerdict.of_make made
  refine ⟨verdict, ?_, refused, ?_⟩
  · rw [run]
    exact congrArg (Except.map LimitReply.verdict) made
  · cases cooldown : verdict.cooldownUntil with
    | none => simp [cooldown] at reported
    | some reportedBound =>
      rw [cooldown] at reported
      exact congrArg some (Subtype.ext (Option.some.inj reported))

theorem tripped_of_refused (sound : account.Sound) {verdict : LimitVerdict}
    (orderly : Orderly (.tryConsume key cost decisionId now) account)
    (replied : (meter.step (.tryConsume key cost decisionId now)
      account.store).1 = .ok (.verdict verdict)) (reported : verdict.cooldownUntil = some bound) :
    0 ≤ now ∧ Tripped key bound.val (step (.tryConsume key cost decisionId now) account) := by
  cases named : LimitKey.memberFor decisionId now with
  | error error =>
    rw [step_tryConsume_of_unnamed sound.available named] at replied
    cases replied
  | ok member =>
    obtain ⟨-, stamped, -⟩ := LimitKey.memberFor_eq_ok_iff.mp named
    obtain ⟨after, run, updates⟩ := @step_tryConsume _ key cost now
      decisionId _ _ sound.available orderly.2.2 named
    refine ⟨stamped.1, fun _ => ?_⟩
    rw [run] at replied
    obtain ⟨made, made_eq, same⟩ := Except.map_eq_ok_iff.mp replied
    cases same
    have retry := (LimitVerdict.of_make made_eq).2
    rw [reported] at retry
    unfold LimitAccount.step
    rw [run]
    refine updates.agrees.2.trans ?_
    have consumed := account.store.consumed_cases key now member cost
    generalize account.store.consumed key now member cost = result at consumed retry ⊢
    obtain ⟨answer, next⟩ := result
    cases consumed with
    | refused => exact retry.symm
    | repeated | granted => cases retry

/-- In every run whose releases take back only admissions of the released decision, every window of
every counter stays within its ceiling, and a reported cooldown is kept. -/
theorem safe_of_run_releasing_own {limits : String → Option ℚ}
    {defaultLimit cooldownSeconds clock : ℚ} {maxSubjects : Nat} {account : LimitAccount}
    (budget : ∀ canonical, 0 ≤ (new limits defaultLimit cooldownSeconds
      maxSubjects).ceiling canonical)
    (run : Reaches (fun call account => Orderly call account ∧ ReleasesOwn call account) step
      ⟨new limits defaultLimit cooldownSeconds maxSubjects, clock, fun _ => []⟩
      account) :
    account.WithinCeilings ∧
      ∀ key cost decisionId now verdict bound,
        Orderly (.tryConsume key cost decisionId now) account →
        (meter.step (.tryConsume key cost decisionId now) account.store).1 =
          .ok (.verdict verdict) →
        verdict.admitted = false → verdict.cooldownUntil = some bound →
        ∀ later, Reaches (fun call account => Orderly call account ∧ ReleasesOwn call account) step
          (step (.tryConsume key cost decisionId now) account) later →
            RefusesUntil key bound later := by
  have sound : account.Sound := run.invariant Sound
    { available := rfl
      budget := budget
      kept := fun _ => rfl
      nonneg := fun _ _ member => absurd member List.not_mem_nil
      within := fun key => within_nil (budget key.canonicalKey) }
    fun call before permitted sound => sound.step permitted.1 permitted.2
  refine ⟨sound.within, ?_⟩
  intro key cost decisionId now verdict bound orderly replied refused reported later continued
  obtain ⟨started, tripped⟩ := tripped_of_refused sound orderly replied reported
  have kept : later.Sound ∧ Tripped key bound.val later ∧ 0 ≤ later.clock := by
    refine continued.invariant (fun account => account.Sound ∧ Tripped key bound.val account ∧
      0 ≤ account.clock) ⟨sound.step orderly trivial, tripped, started⟩ ?_
    rintro call before ⟨orderly, own⟩ ⟨sound, tripped, started⟩
    exact ⟨sound.step orderly own, tripped.step sound.available orderly, started.trans orderly.1⟩
  exact refusesUntil_of_tripped kept.1 kept.2.1 kept.2.2

end Accounts

/-- A store which admits a cost of one in every window. -/
def singleBudget : LimitAccount where
  store := new (fun _ => none) 1 300 10
  clock := 0

/-- A decision is admitted and released, and its budget is given to another. -/
def releasedOwn : List LimitCall :=
  [.tryConsume sampleLimitKey 1 "decision-1" 0, .release sampleLimitKey "decision-1",
    .tryConsume sampleLimitKey 1 "decision-2" 0]

attribute [local instance] plainRuntime

theorem safe_of_run_releasing_own_released :
    WithinCeilings (runAll step releasedOwn singleBudget) ∧
      ((runAll step releasedOwn singleBudget).grants sampleLimitKey).map Grant.decisionId =
        ["decision-2"] := by
  have own : ReleasesOwn (.release sampleLimitKey "decision-1")
      (step (.tryConsume sampleLimitKey 1 "decision-1" 0) singleBudget) := by
    unfold ReleasesOwn
    decide +kernel
  have permits : Permits (fun call account => Orderly call account ∧ ReleasesOwn call account) step
      releasedOwn singleBudget :=
    ⟨⟨⟨le_refl _, zero_le_one, .inr (by decide)⟩, trivial⟩, ⟨⟨le_refl _, trivial⟩, own⟩,
      ⟨⟨le_refl _, zero_le_one, .inr (by decide +kernel)⟩, trivial⟩, trivial⟩
  exact ⟨(safe_of_run_releasing_own (fun _ => zero_le_one) permits.reaches).1, by decide +kernel⟩

/-- The decision `a:b` is admitted, the decision `b` is released, and the budget of the first is
given to a third. -/
def releasedForAnother : List LimitCall :=
  [.tryConsume sampleLimitKey 1 "a:b" 0, .release sampleLimitKey "b",
    .tryConsume sampleLimitKey 1 "c" 0]

/-- Two admissions of cost one which were never released share a window of ceiling one. -/
theorem release_frees_other_decision :
    ¬ ∀ account, Reaches Orderly step singleBudget account → account.WithinCeilings := by
  intro claim
  have run : Permits Orderly step releasedForAnother singleBudget := by
    refine ⟨⟨le_refl _, zero_le_one, Or.inr (by decide)⟩, ⟨le_refl _, trivial⟩,
      ⟨le_refl _, zero_le_one, Or.inr (by decide +kernel)⟩, trivial⟩
  have both : total Grant.cost (window moment 60 0
      ((runAll step releasedForAnother singleBudget).grants sampleLimitKey)) = 2 := by
    decide +kernel
  have bounded := claim _ run.reaches sampleLimitKey 0
  have one : (runAll step releasedForAnother singleBudget).store.ceiling
      sampleLimitKey.canonicalKey = 1 := by
    decide +kernel
  rw [one] at bounded
  change total Grant.cost (window moment 60 0 _) ≤ 1 at bounded
  rw [both] at bounded
  exact absurd bounded (by decide)

end LimitAccount

end GlassBox
