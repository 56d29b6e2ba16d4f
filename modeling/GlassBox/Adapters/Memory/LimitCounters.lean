import GlassBox.Adapters.Memory.GovernanceState

/-!
# The in-memory limit store as a family of counters

While no window is evicted, each call changes one counter the way `LimitCounter` says.  The store
trims a window later than it could, so the counters agree as far as calls can tell.
-/

namespace GlassBox

open EStateM

namespace InMemoryLimitStore

open SlidingWindow

def counter (store : InMemoryLimitStore) (canonical : String) : LimitCounter where
  admissions := store.admissions canonical
  cooldown := store.cooldowns canonical

def settings (store : InMemoryLimitStore) : (String → Option ℚ) × ℚ × ℚ × Nat × Bool :=
  (store.limits, store.defaultLimit, store.cooldownSeconds, store.maxSubjects, store.available)

section Settings

variable {before after : InMemoryLimitStore} (settings : after.settings = before.settings)
include settings

theorem ceiling_of_settings : after.ceiling = before.ceiling := by
  simp only [InMemoryLimitStore.settings, Prod.mk.injEq] at settings
  obtain ⟨limits, default, -⟩ := settings
  funext canonical
  unfold ceiling
  rw [limits, default]

theorem available_of_settings : after.available = before.available := by
  simp only [InMemoryLimitStore.settings, Prod.mk.injEq] at settings
  exact settings.2.2.2.2

theorem cooldownSeconds_of_settings : after.cooldownSeconds = before.cooldownSeconds := by
  simp only [InMemoryLimitStore.settings, Prod.mk.injEq] at settings
  exact settings.2.2.1

end Settings

/-- The call changed one counter, which now behaves as the given one. -/
structure Updates (canonical : String) (horizon : ℚ) (expected : LimitCounter)
    (before after : InMemoryLimitStore) : Prop where
  settings : after.settings = before.settings
  others : ∀ other ≠ canonical, after.counter other = before.counter other
  agrees : (after.counter canonical).AgreesBehind horizon expected

section Frames

variable {store : InMemoryLimitStore} {canonical other : String}

theorem counter_clearCooldown : (clearCooldown canonical store).counter other =
      if other = canonical then ⟨store.admissions canonical, none⟩ else store.counter other := by
  unfold counter clearCooldown admissions
  by_cases same : other = canonical
  · subst same
    simp
  · simp [same]

theorem counter_trip {bound : ℚ} : (trip canonical bound store).counter other =
      if other = canonical then ⟨store.admissions canonical, some bound⟩
      else store.counter other := by
  unfold counter trip admissions
  by_cases same : other = canonical
  · subst same
    simp
  · simp [same]

theorem counter_setWindow {entries : List Admission} :
    (setWindow canonical entries store).counter other =
      if other = canonical then ⟨entries, store.cooldowns canonical⟩ else store.counter other := by
  unfold counter setWindow admissions
  by_cases same : other = canonical
  · subst same
    simp
  · simp [same, AList.lookup_insert_ne same]

/-- Using a window which fits evicts nothing. -/
theorem counter_touch (fits : store.windows.Fits store.maxSubjects canonical) :
    (touch canonical store).counter other = store.counter other := by
  have kept : ¬ (store.windows.lookup canonical = none ∧
      other ∈ (store.windows.insert canonical (store.admissions canonical)).forgotten
        store.maxSubjects) := by
    rintro ⟨missing, evicted⟩
    have absent : canonical ∉ store.windows := AList.lookup_eq_none.mp missing
    rw [AList.forgotten_of_length_le] at evicted
    · cases evicted
    · rw [AList.entries_insert_of_notMem absent, List.length_cons]
      exact fits.resolve_left absent
  refine congrArg₂ LimitCounter.mk ?_ (if_neg kept)
  unfold touch admissions
  simp only [AList.touch_of_fits fits]
  by_cases same : other = canonical
  · subst same
    simp
  · simp [AList.lookup_insert_ne same]

theorem lookup_touch (fits : store.windows.Fits store.maxSubjects canonical) :
    (touch canonical store).windows.lookup canonical = some (store.admissions canonical) := by
  unfold touch admissions
  simp only [AList.touch_of_fits fits, AList.lookup_insert]

end Frames

section Methods

theorem requireAvailable_run {key : LimitKey} {store : InMemoryLimitStore}
    (available : store.available = true) : requireAvailable key store = .ok () store := by
  unfold requireAvailable
  rw [bind_of_ok (get_run store), if_pos available]
  rfl

variable {key : LimitKey} {cost now : ℚ} {member : String} {store : InMemoryLimitStore}

theorem judgeAdmission_run {horizon : ℚ} {entries : List Admission}
    (trimmed : entries = behind Admission.timestamp horizon entries)
    (held : store.counter key.canonicalKey = ⟨entries, none⟩) :
    ∃ after, judgeAdmission key cost member now entries store =
        (((store.counter key.canonicalKey).consume (store.ceiling key.canonicalKey)
          store.cooldownSeconds horizon now member cost).1.verdict key
            (store.ceiling key.canonicalKey) now).endingIn after ∧
      Updates key.canonicalKey horizon ((store.counter key.canonicalKey).consume
        (store.ceiling key.canonicalKey) store.cooldownSeconds horizon now member cost).2
        store after := by
  rw [held]
  unfold LimitCounter.consume
  simp only [← trimmed, Option.filter_none]
  unfold judgeAdmission
  rw [bind_of_ok (get_run store)]
  by_cases known : entries.any (·.member = member) = true
  · simp only [if_pos known]
    exact ⟨store, ofExcept_eq_endingIn _ store, rfl, fun _ _ => rfl, by rw [held]; exact ⟨rfl, rfl⟩⟩
  · simp only [if_neg known]
    by_cases beyond : store.ceiling key.canonicalKey < total entries + cost
    · have beyond' : store.ceiling key.canonicalKey <
          SlidingWindow.total Admission.cost entries + cost := beyond
      simp only [if_pos beyond, if_pos beyond']
      refine ⟨_, (bind_of_ok (modify_run _ store)).trans
        (ofExcept_eq_endingIn _ _), rfl, ?_, ?_⟩
      · intro other ne
        rw [counter_trip, if_neg ne]
      · rw [counter_trip, if_pos rfl]
        exact ⟨by rw [← (LimitCounter.mk.inj held).1], rfl⟩
    · have within : ¬ store.ceiling key.canonicalKey <
          SlidingWindow.total Admission.cost entries + cost := beyond
      simp only [if_neg beyond, if_neg within]
      refine ⟨_, (bind_of_ok (modify_run _ store)).trans
        (ofExcept_eq_endingIn _ _), rfl, ?_, ?_⟩
      · intro other ne
        rw [counter_setWindow, if_neg ne]
      · rw [counter_setWindow, if_pos rfl]
        exact ⟨rfl, (LimitCounter.mk.inj held).2⟩

/-- What the counter of a key answers at a time, and the counter it then is. -/
def consumed (store : InMemoryLimitStore) (key : LimitKey) (now : ℚ) (member : String) (cost : ℚ) :
    LimitAnswer × LimitCounter :=
  (store.counter key.canonicalKey).consume (store.ceiling key.canonicalKey) store.cooldownSeconds
    (now - key.window.seconds) now member cost

theorem consumed_cases (store : InMemoryLimitStore) (key : LimitKey) (now : ℚ) (member : String)
    (cost : ℚ) :
    LimitCounter.Consumed (store.ceiling key.canonicalKey) now member cost
      (behind Admission.timestamp (now - key.window.seconds) (store.admissions key.canonicalKey))
      (store.consumed key now member cost).1 (store.consumed key now member cost).2 :=
  LimitCounter.consumed_consume _ _ _ _ _ _ (store.counter key.canonicalKey)

theorem tryConsume_run [Runtime] {decisionId : String} (available : store.available = true)
    (fits : store.windows.Fits store.maxSubjects key.canonicalKey)
    (named : LimitKey.memberFor decisionId now = .ok member) :
    ∃ after, tryConsume key cost decisionId now store =
        ((store.consumed key now member cost).1.verdict key (store.ceiling key.canonicalKey)
          now).endingIn after ∧
      Updates key.canonicalKey (now - key.window.seconds) (store.consumed key now member cost).2
        store after := by
  obtain ⟨-, stamped, -⟩ := LimitKey.memberFor_eq_ok_iff.mp named
  have moment : requireTimestamp now "now" = .ok ⟨now, stamped⟩ :=
    requireTimestamp_eq_ok_iff.mpr rfl
  unfold tryConsume consumed
  rw [bind_of_ok (requireAvailable_run available), bind_of_ok (ofExcept_run named store),
    bind_of_ok (ofExcept_run moment store), bind_of_ok (get_run store)]
  cases held : store.activeCooldown key.canonicalKey now with
  | some bound =>
    have tripped : (store.counter key.canonicalKey).cooldown.filter (now < ·) = some bound :=
      held
    unfold LimitCounter.consume
    simp only [tripped]
    refine ⟨store, ofExcept_eq_endingIn _ store, rfl, fun _ _ => rfl, ?_⟩
    exact ⟨(behind_behind (le_refl _)).symm, (Option.filter_eq_some_iff.mp tripped).1⟩
  | none =>
    have free : (store.counter key.canonicalKey).cooldown.filter (now < ·) = none := held
    let cleared := clearCooldown key.canonicalKey store
    let entries := behind Admission.timestamp (now - key.window.seconds)
      (store.admissions key.canonicalKey)
    let opened := setWindow key.canonicalKey entries (touch key.canonicalKey cleared)
    have fits' : cleared.windows.Fits cleared.maxSubjects key.canonicalKey := fits
    have opened_counter : opened.counter key.canonicalKey = ⟨entries, none⟩ := by
      have touched := @counter_touch cleared key.canonicalKey key.canonicalKey fits'
      rw [counter_clearCooldown, if_pos rfl] at touched
      rw [counter_setWindow, if_pos rfl]
      exact congrArg (LimitCounter.mk entries) (LimitCounter.mk.inj touched).2
    have opened_other : ∀ other ≠ key.canonicalKey,
        opened.counter other = store.counter other := by
      intro other ne
      rw [counter_setWindow, if_neg ne, counter_touch fits', counter_clearCooldown, if_neg ne]
    obtain ⟨after, run, updates⟩ := @judgeAdmission_run key cost now member opened
      (now - key.window.seconds) entries (behind_behind (le_refl _)).symm opened_counter
    rw [opened_counter] at run updates
    rw [LimitCounter.consume_of_free free]
    refine ⟨after, ?_, updates.settings, ?_, updates.agrees⟩
    · have found : (touch key.canonicalKey (clearCooldown key.canonicalKey store)).windows.lookup
          key.canonicalKey = some (store.admissions key.canonicalKey) := lookup_touch fits'
      refine Eq.trans ?_ run
      simp only
      rw [bind_of_ok (modify_run _ store), bind_of_ok (get_run _), found]
      exact bind_of_ok (modify_run _ _)
    · intro other ne
      rw [updates.others other ne, opened_other other ne]

/-- `try_consume` for an unacceptable id or time raises before it reads the store. -/
theorem tryConsume_of_unnamed [Runtime] {decisionId : String} {error : PyError}
    (available : store.available = true)
    (unnamed : LimitKey.memberFor decisionId now = .error error) :
    tryConsume key cost decisionId now store = .error error store := by
  unfold tryConsume
  rw [bind_of_ok (requireAvailable_run available), unnamed]
  rfl

theorem release_run {decisionId : String} (available : store.available = true) :
    ∃ after, release key decisionId store = .ok () after ∧
      after.counter key.canonicalKey =
        (store.counter key.canonicalKey).release (":" ++ decisionId) ∧
      after.settings = store.settings ∧
      ∀ other ≠ key.canonicalKey, after.counter other = store.counter other := by
  unfold release
  rw [bind_of_ok (requireAvailable_run available), bind_of_ok (get_run store)]
  cases found : store.windows.lookup key.canonicalKey with
  | none =>
    refine ⟨store, rfl, ?_, rfl, fun _ _ => rfl⟩
    simp [counter, LimitCounter.release, admissions, found]
  | some entries =>
    cases entries with
    | nil =>
      refine ⟨store, rfl, ?_, rfl, fun _ _ => rfl⟩
      simp [counter, LimitCounter.release, admissions, found]
    | cons entry entries =>
      have member : key.canonicalKey ∈ store.windows := by
        rw [← AList.lookup_isSome, found]
        rfl
      refine ⟨_, rfl, ?_, rfl, ?_⟩
      · simp only [counter, LimitCounter.release, admissions, found,
          AList.lookup_replace member, Option.getD_some]
        rfl
      · intro other ne
        simp only [counter, admissions, AList.lookup_replace_ne ne]

theorem cumulative_run {window : Window} (available : store.available = true) :
    cumulative key window now store = ((requireTimestamp now "now").map fun moment =>
        (store.counter key.canonicalKey).cumulative (window.startOf moment)).endingIn store := by
  unfold cumulative
  rw [bind_of_ok (requireAvailable_run available), bind_of_ok (get_run store)]
  cases stamped : requireTimestamp now "now" with
  | error error | ok moment => rfl

end Methods

section Calls

variable [Runtime] {key : LimitKey} {cost now : ℚ} {decisionId : String}
  {store : InMemoryLimitStore}

theorem step_tryConsume {member : String} (available : store.available = true)
    (fits : store.windows.Fits store.maxSubjects key.canonicalKey)
    (named : LimitKey.memberFor decisionId now = .ok member) :
    ∃ after, meter.step (.tryConsume key cost decisionId now) store =
        (((store.consumed key now member cost).1.verdict key (store.ceiling key.canonicalKey)
          now).map .verdict, after) ∧
      Updates key.canonicalKey (now - key.window.seconds) (store.consumed key now member cost).2
        store after := by
  obtain ⟨after, run, updates⟩ := tryConsume_run available fits named
  exact ⟨after, LimitMeter.step_of_endingIn (map_of_endingIn run), updates⟩

theorem step_tryConsume_of_unnamed {error : PyError} (available : store.available = true)
    (unnamed : LimitKey.memberFor decisionId now = .error error) :
    meter.step (.tryConsume key cost decisionId now) store = (.error error, store) :=
  LimitMeter.step_of_endingIn (@map_of_endingIn _ _ _ _ _ LimitReply.verdict store store
    (.error error) (tryConsume_of_unnamed available unnamed))

theorem step_release (available : store.available = true) :
    ∃ after, meter.step (.release key decisionId) store = (.ok .released, after) ∧
      after.counter key.canonicalKey =
        (store.counter key.canonicalKey).release (":" ++ decisionId) ∧
      after.settings = store.settings ∧
      ∀ other ≠ key.canonicalKey, after.counter other = store.counter other := by
  obtain ⟨after, run, frames⟩ := @release_run key store decisionId available
  exact ⟨after, LimitMeter.step_of_endingIn (@map_of_endingIn _ _ _ _ _
    (fun _ => LimitReply.released) store after (.ok ()) run), frames⟩

theorem step_cumulative {window : Window} (available : store.available = true) :
    meter.step (.cumulative key window now) store = (((requireTimestamp now "now").map fun moment =>
        (store.counter key.canonicalKey).cumulative (window.startOf moment)).map .consumed,
        store) :=
  LimitMeter.step_of_endingIn (map_of_endingIn (cumulative_run available))

end Calls

end InMemoryLimitStore

end GlassBox
