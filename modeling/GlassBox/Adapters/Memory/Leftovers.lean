import GlassBox.Adapters.Memory.LimitCounters

/-!
# What a call leaves in the in-memory stores

The admissions in the windows of the limit store and the samples of the baseline store, before and
after the methods a decision calls with a cost of one.
-/

namespace GlassBox

open EStateM

open SlidingWindow

namespace InMemoryLimitStore

open Admission (timestamp cost)

/-- The unreleased admissions in the window of a key which ends at a moment. -/
def inWindow (store : InMemoryLimitStore) (key : LimitKey) (moment : ℚ) : List Admission :=
  behind timestamp (moment - key.window.seconds) (store.admissions key.canonicalKey)

def Holds (store : InMemoryLimitStore) (key : LimitKey) (now : ℚ) (member : String) : Prop :=
  ∃ entry ∈ store.inWindow key now, entry.member = member

/-- The window holds an admission which a release for the decision takes out. -/
def HoldsFor (store : InMemoryLimitStore) (key : LimitKey) (now : ℚ) (decisionId : String) : Prop :=
  ∃ entry ∈ store.inWindow key now, belongsTo decisionId entry = true

/-- The window with an admission of cost one, which is added unless it is there. -/
def grown (store : InMemoryLimitStore) (key : LimitKey) (now : ℚ) (member : String) :
    List Admission :=
  if (store.inWindow key now).any (·.member = member) then store.inWindow key now
  else store.inWindow key now ++ [⟨now, member, 1⟩]

/-- The store admits a decision to the window of a key, under this member. -/
structure Affords [Runtime] (store : InMemoryLimitStore) (key : LimitKey) (decisionId : String)
    (now : ℚ) (member : String) : Prop where
  available : store.available = true
  named : LimitKey.memberFor decisionId now = .ok member
  free : store.activeCooldown key.canonicalKey now = none
  within : store.Holds key now member ∨
    SlidingWindow.total cost (store.inWindow key now) + 1 ≤
      store.ceiling key.canonicalKey

/-- The consumption with the admission is one a verdict may report. -/
def Reports (store : InMemoryLimitStore) (key : LimitKey) (now : ℚ) (member : String) : Prop :=
  0 ≤ SlidingWindow.total cost (store.grown key now member) ∧
    SlidingWindow.total cost (store.grown key now member) ≤
      store.ceiling key.canonicalKey

variable {store : InMemoryLimitStore} {key : LimitKey} {now : ℚ} {member : String}
  {decisionId : String} {entries : List Admission} {before after : InMemoryLimitStore}

theorem holds_iff :
    (store.inWindow key now).any (·.member = member) = true ↔ store.Holds key now member := by
  simp [Holds]

theorem mem_grown_iff :
    (∀ entry, entry ∈ store.grown key now member ↔ entry ∈ store.inWindow key now) ↔
      store.Holds key now member := by
  unfold grown
  by_cases known : (store.inWindow key now).any (·.member = member) = true
  · rw [if_pos known]
    exact ⟨fun _ => holds_iff.mp known, fun _ _ => Iff.rfl⟩
  · rw [if_neg known]
    constructor
    · intro same
      exact ⟨_, (same ⟨now, member, 1⟩).mp (by simp), rfl⟩
    · intro held
      exact absurd (holds_iff.mpr held) known

/-- A release takes out the admission of its own decision. -/
theorem belongsTo_of_memberFor [Runtime] {cost : ℚ}
    (named : LimitKey.memberFor decisionId now = .ok member) :
    belongsTo decisionId ⟨now, member, cost⟩ = true := by
  obtain ⟨-, -, rfl⟩ := LimitKey.memberFor_eq_ok_iff.mp named
  unfold belongsTo
  rw [List.isSuffixOf_iff_suffix]
  exact ⟨(Runtime.reprFloat now).toList, by simp⟩

theorem mem_released_iff [Runtime] (named : LimitKey.memberFor decisionId now = .ok member) :
    (∀ entry, entry ∈ (store.grown key now member).filter (fun entry =>
        !belongsTo decisionId entry) ↔ entry ∈ store.inWindow key now) ↔
      ¬ store.HoldsFor key now decisionId := by
  have released : (store.grown key now member).filter (fun entry => !belongsTo decisionId entry) =
      (store.inWindow key now).filter fun entry => !belongsTo decisionId entry := by
    unfold grown
    split
    next => rfl
    next => simp [List.filter_append, belongsTo_of_memberFor named]
  rw [released]
  constructor
  · rintro same ⟨entry, member, belongs⟩
    have left := (List.mem_filter.mp ((same entry).mpr member)).2
    rw [belongs] at left
    cases left
  · intro free entry
    rw [List.mem_filter]
    refine ⟨And.left, fun member => ⟨member, ?_⟩⟩
    have foreign : belongsTo decisionId entry = false :=
      Bool.eq_false_iff.mpr fun belongs => free ⟨entry, member, belongs⟩
    rw [foreign]
    rfl

/-- The window of one key changed to this, and no other one did. -/
structure Rewindowed (key : LimitKey) (now : ℚ) (entries : List Admission)
    (before after : InMemoryLimitStore) : Prop where
  available : after.available = before.available
  window : after.inWindow key now = entries
  others : ∀ other ≠ key, after.inWindow other now = before.inWindow other now

theorem Rewindowed.refl (key : LimitKey) (now : ℚ) (store : InMemoryLimitStore) :
    Rewindowed key now (store.inWindow key now) store store :=
  ⟨rfl, rfl, fun _ _ => rfl⟩

theorem Rewindowed.trans {entries' : List Admission} {middle : InMemoryLimitStore}
    (first : Rewindowed key now entries before middle)
    (second : Rewindowed key now entries' middle after) :
    Rewindowed key now entries' before after where
  available := second.available.trans first.available
  window := second.window
  others := fun other ne => (second.others other ne).trans (first.others other ne)

theorem Rewindowed.mem_iff (rewindowed : Rewindowed key now entries before after) :
    (∀ other entry, entry ∈ after.inWindow other now ↔ entry ∈ before.inWindow other now) ↔
      ∀ entry, entry ∈ entries ↔ entry ∈ before.inWindow key now := by
  constructor
  · intro same entry
    rw [← rewindowed.window]
    exact same key entry
  · intro same other entry
    by_cases own : other = key
    · rw [own, rewindowed.window]
      exact same entry
    · rw [rewindowed.others other own]

section Methods

variable {key : LimitKey} {now : ℚ} {decisionId : String} {store : InMemoryLimitStore}

theorem release_rewindowed (available : store.available = true) :
    ∃ after, release key decisionId store = .ok () after ∧
      Rewindowed key now ((store.inWindow key now).filter fun entry =>
        !belongsTo decisionId entry) store after := by
  obtain ⟨after, run, counter, settings, others⟩ := @release_run key store decisionId available
  have released : after.admissions key.canonicalKey =
      (store.admissions key.canonicalKey).filter fun entry => !belongsTo decisionId entry :=
    congrArg LimitCounter.admissions counter
  refine ⟨after, run, available_of_settings settings, ?_, ?_⟩
  · rw [inWindow, released, behind_filter]
    rfl
  · intro other ne
    have kept := others other.canonicalKey fun same => ne (LimitKey.canonicalKey_injective same)
    unfold inWindow
    rw [show after.admissions other.canonicalKey = store.admissions other.canonicalKey from
      congrArg LimitCounter.admissions kept]

variable {member : String} {after : InMemoryLimitStore}

/-- A call changes no window but the one it is for, and that one as the counter says. -/
theorem Updates.rewindowed {cost : ℚ} {answer : LimitAnswer} {entries : List Admission}
    {cooldown : Option ℚ} (updates : Updates key.canonicalKey (now - key.window.seconds)
      (store.consumed key now member cost).2 store after)
    (consumed : store.consumed key now member cost = (answer, ⟨entries, cooldown⟩))
    (trimmed : behind timestamp (now - key.window.seconds) entries = entries) :
    Rewindowed key now entries store after where
  available := available_of_settings updates.settings
  window := by
    refine updates.agrees.1.trans ?_
    rw [consumed]
    exact trimmed
  others := by
    intro other ne
    have kept := updates.others other.canonicalKey fun same =>
      ne (LimitKey.canonicalKey_injective same)
    unfold inWindow
    rw [show after.admissions other.canonicalKey = store.admissions other.canonicalKey from
      congrArg LimitCounter.admissions kept]

theorem behind_grown (member : String) :
    behind timestamp (now - key.window.seconds) (store.grown key now member) =
      store.grown key now member := by
  have trimmed : behind timestamp (now - key.window.seconds) (store.inWindow key now) =
      store.inWindow key now := behind_behind (le_refl _)
  have recent : now - key.window.seconds < now := by
    have positive : (0 : ℚ) < key.window.seconds := Nat.cast_pos.mpr key.window.positive
    linarith
  unfold grown
  split
  next => exact trimmed
  next =>
    rw [behind_append, trimmed]
    simp [behind, recent]

theorem total_grown (unknown : ¬(store.inWindow key now).any (·.member = member) = true) :
    SlidingWindow.total cost (store.grown key now member) =
      SlidingWindow.total cost (store.inWindow key now) + 1 := by
  rw [grown, if_neg unknown]
  simp [SlidingWindow.total]

section Consume

variable {member : String}
  (free : (store.counter key.canonicalKey).cooldown.filter (now < ·) = none)
include free

/-- A counter outside a cooldown admits what it knows and what it has budget for. -/
theorem consume_of_admitted
    (admitted : (store.inWindow key now).any (·.member = member) = true ∨
      SlidingWindow.total cost (store.inWindow key now) + 1 ≤
        store.ceiling key.canonicalKey) :
    store.consumed key now member 1 =
      (⟨true, SlidingWindow.total cost (store.grown key now member), none⟩,
        ⟨store.grown key now member, none⟩) := by
  unfold consumed LimitCounter.consume
  simp only [free]
  by_cases known : (store.inWindow key now).any (·.member = member) = true
  · rw [grown, if_pos known]
    exact if_pos known
  · have within := not_lt.mpr (admitted.resolve_left known)
    rw [total_grown known, grown, if_neg known]
    exact (if_neg known).trans (if_neg within)

theorem consume_of_refused
    (unknown : ¬(store.inWindow key now).any (·.member = member) = true)
    (beyond : store.ceiling key.canonicalKey <
      SlidingWindow.total cost (store.inWindow key now) + 1) :
    store.consumed key now member 1 =
      (⟨false, SlidingWindow.total cost (store.inWindow key now) + 1,
        some (store.cooldownSeconds, now + store.cooldownSeconds)⟩,
        ⟨store.inWindow key now, some (now + store.cooldownSeconds)⟩) := by
  unfold consumed LimitCounter.consume
  simp only [free]
  exact (if_neg unknown).trans (if_pos beyond)

end Consume

variable [Runtime]

/-- How an attempt to consume one ends. -/
inductive Tried (key : LimitKey) (decisionId : String) (now : ℚ) (before : InMemoryLimitStore) :
    EStateM.Result PyError InMemoryLimitStore LimitVerdict → Prop
  | unavailable {error : PyError} : before.available = false →
      error.isA .limitStoreUnavailable = true →
      Tried key decisionId now before (.error error before)
  /-- The call or the refusal is not well formed. -/
  | raised {error : PyError} {after : InMemoryLimitStore} : before.available = true →
      error.isA .limitStoreUnavailable = false →
      (∀ member, ¬ before.Affords key decisionId now member) →
      Rewindowed key now (before.inWindow key now) before after →
      Tried key decisionId now before (.error error after)
  | refused {verdict : LimitVerdict} {after : InMemoryLimitStore} : before.available = true →
      verdict.admitted = false → (∀ member, ¬ before.Affords key decisionId now member) →
      Rewindowed key now (before.inWindow key now) before after →
      Tried key decisionId now before (.ok verdict after)
  /-- The decision is admitted, but the admission cannot be reported. -/
  | unreported {member : String} {error : PyError} {after : InMemoryLimitStore} :
      error.isA .limitStoreUnavailable = false → before.Affords key decisionId now member →
      ¬ before.Reports key now member →
      Rewindowed key now (before.grown key now member) before after →
      Tried key decisionId now before (.error error after)
  | admitted {member : String} {verdict : LimitVerdict} {after : InMemoryLimitStore} :
      verdict.admitted = true → before.Affords key decisionId now member →
      before.Reports key now member →
      Rewindowed key now (before.grown key now member) before after →
      Tried key decisionId now before (.ok verdict after)

omit [Runtime] in
theorem isA_limitStoreUnavailable_of_cls {error : PyError}
    (invalid : error.cls = .domainValidationError) :
    error.isA .limitStoreUnavailable = false := by
  unfold PyError.isA
  rw [invalid]
  rfl

/-- A refusal is reported by a verdict or by an exception. -/
theorem tried_of_refused {retry : Option (ℚ × ℚ)} {observed : ℚ}
    (available : store.available = true)
    (unaffordable : ∀ member, ¬ store.Affords key decisionId now member)
    (kept : Rewindowed key now (store.inWindow key now) store after) :
    Tried key decisionId now store ((LimitAnswer.verdict ⟨false, observed, retry⟩ key
      (store.ceiling key.canonicalKey) now).endingIn after) := by
  cases made : LimitAnswer.verdict ⟨false, observed, retry⟩ key
      (store.ceiling key.canonicalKey) now with
  | error error =>
    exact .raised available (isA_limitStoreUnavailable_of_cls (LimitVerdict.cls_of_make made))
      unaffordable kept
  | ok verdict => exact .refused available (LimitVerdict.of_make made).1 unaffordable kept

/-- An admission is reported by a verdict if it is one a verdict may report. -/
theorem tried_of_admitted (affords : store.Affords key decisionId now member)
    (grows : Rewindowed key now (store.grown key now member) store after) :
    Tried key decisionId now store ((LimitAnswer.verdict
      ⟨true, SlidingWindow.total cost (store.grown key now member), none⟩ key
      (store.ceiling key.canonicalKey) now).endingIn after) := by
  cases made : LimitAnswer.verdict
      ⟨true, SlidingWindow.total cost (store.grown key now member), none⟩ key
      (store.ceiling key.canonicalKey) now with
  | ok verdict =>
    exact .admitted (LimitVerdict.of_make made).1 affords (LimitVerdict.within_of_make made) grows
  | error error =>
    refine .unreported (isA_limitStoreUnavailable_of_cls (LimitVerdict.cls_of_make made)) affords
      (fun reports => ?_) grows
    obtain ⟨nonneg, within⟩ := reports
    obtain ⟨-, stamped, -⟩ := LimitKey.memberFor_eq_ok_iff.mp affords.named
    obtain ⟨verdict, reported⟩ := @LimitVerdict.exists_make true key _ _ now none
      (nonneg.trans within) nonneg stamped (by simp) fun _ => within
    cases made.symm.trans reported

theorem tryConsume_of_unavailable (down : ¬ store.available = true) :
    ∃ error, tryConsume key 1 decisionId now store = .error error store ∧
      error.isA .limitStoreUnavailable = true := by
  have raises : ∃ error, requireAvailable key store = .error error store ∧
      error.isA .limitStoreUnavailable = true := by
    unfold requireAvailable
    rw [bind_of_ok (get_run store), if_neg down]
    exact ⟨_, rfl, rfl⟩
  obtain ⟨error, run, known⟩ := raises
  refine ⟨error, ?_, known⟩
  unfold tryConsume
  rw [bind_of_error run]

theorem tried_tryConsume (fits : store.windows.Fits store.maxSubjects key.canonicalKey) :
    Tried key decisionId now store (tryConsume key 1 decisionId now store) := by
  by_cases available : store.available = true
  swap
  · obtain ⟨error, run, known⟩ := tryConsume_of_unavailable available
    rw [run]
    exact .unavailable (by simpa using available) known
  cases named : LimitKey.memberFor decisionId now with
  | error error =>
    rw [tryConsume_of_unnamed available named]
    refine .raised available (isA_limitStoreUnavailable_of_cls (LimitKey.cls_of_memberFor named))
      (fun member affords => ?_) (.refl ..)
    cases named.symm.trans affords.named
  | ok member =>
    obtain ⟨after, run, updates⟩ :=
      @tryConsume_run key 1 now member store _ decisionId available fits named
    have trimmed : behind timestamp (now - key.window.seconds)
        (store.inWindow key now) = store.inWindow key now := behind_behind (le_refl _)
    rw [run]
    cases held : store.activeCooldown key.canonicalKey now with
    | some bound =>
      obtain ⟨cooling, early⟩ := Option.filter_eq_some_iff.mp held
      have consumed : store.consumed key now member 1 = _ :=
        LimitCounter.consume_of_held cooling (of_decide_eq_true early)
      rw [consumed]
      refine tried_of_refused available (fun other affords => ?_)
        (updates.rewindowed consumed trimmed)
      cases held.symm.trans affords.free
    | none =>
      by_cases admitted : store.Holds key now member ∨
          SlidingWindow.total cost (store.inWindow key now) + 1 ≤
            store.ceiling key.canonicalKey
      · have consumed := consume_of_admitted held (admitted.imp_left holds_iff.mpr)
        rw [consumed]
        exact tried_of_admitted ⟨available, named, held, admitted⟩
          (updates.rewindowed consumed (behind_grown member))
      · obtain ⟨unknown, beyond⟩ := not_or.mp admitted
        have consumed := consume_of_refused held (mt holds_iff.mp unknown) (not_le.mp beyond)
        rw [consumed]
        refine tried_of_refused available (fun other affords => ?_)
          (updates.rewindowed consumed trimmed)
        cases named.symm.trans affords.named
        exact admitted affords.within

end Methods

end InMemoryLimitStore

namespace InMemoryBaselineStore

variable [Runtime]

theorem evaluate_run (key : BaselineKey) (observation : ℚ) (peerGroup : Identifier)
    (threshold now : ℚ) (store : InMemoryBaselineStore) :
    evaluate key observation peerGroup threshold now store =
      ((evaluate key observation peerGroup threshold now).outcome store).endingIn store := by
  have reads : (evaluate key observation peerGroup threshold now).after store = store := by
    refine after_of_ends (· = store) ?_
    simp only [evaluate, requireAvailable, ends_bind, ends_get]
    by_cases available : store.available = true
    · rw [if_pos available, ends_pure]
      cases store.samples (store.effectiveKey key peerGroup).canonicalKey with
      | nil =>
        dsimp only
        rw [ends_ofExcept]
        split <;> rfl
      | cons sample rest =>
        dsimp only
        rw [ends_bind, ends_ofExcept]
        split
        next =>
          rw [ends_ofExcept]
          split <;> rfl
        next => rfl
    · rw [if_neg available]
      rfl
  have run := run_eq_endingIn (evaluate key observation peerGroup threshold now) store
  rwa [reads] at run

theorem available_of_evaluate {key : BaselineKey} {observation : ℚ} {peerGroup : Identifier}
    {threshold now : ℚ} {store : InMemoryBaselineStore} {verdict : BaselineVerdict}
    (answered : (evaluate key observation peerGroup threshold now).outcome store = .ok verdict) :
    store.available = true := by
  by_contra down
  have raises : ∃ error, requireAvailable key store = .error error store := by
    unfold requireAvailable
    rw [bind_of_ok (get_run store), if_neg down]
    exact ⟨_, rfl⟩
  obtain ⟨error, run⟩ := raises
  have refused : evaluate key observation peerGroup threshold now store = .error error store := by
    unfold evaluate
    rw [bind_of_error run]
  cases answered.symm.trans (outcome_of_error refused)

/-- `observe` adds a sample to the distribution of its key, while no distribution is evicted. -/
theorem observe_run {key : BaselineKey} {observation : ℚ} {store : InMemoryBaselineStore}
    (available : store.available = true)
    (fits : store.observations.Fits store.maxSubjects key.canonicalKey) :
    ∃ after, observe key observation store = .ok () after ∧
      ∀ canonical, after.samples canonical =
        if canonical = key.canonicalKey then
          (store.samples key.canonicalKey ++ [observation]).rtake store.maxSamples
        else store.samples canonical := by
  let touched : InMemoryBaselineStore := { store with
    observations := store.observations.touch store.maxSubjects key.canonicalKey [] }
  have found : touched.observations.lookup key.canonicalKey =
      some (store.samples key.canonicalKey) := by
    simp only [touched, AList.touch_of_fits fits, AList.lookup_insert]
    rfl
  have up : requireAvailable key store = .ok () store := by
    unfold requireAvailable
    rw [bind_of_ok (get_run store), if_pos available]
    rfl
  refine ⟨pushSample key.canonicalKey (store.samples key.canonicalKey) observation touched, ?_, ?_⟩
  · refine (bind_of_ok up).trans ((bind_of_ok (modify_run _ store)).trans
      ((bind_of_ok (get_run touched)).trans ?_))
    rw [found]
    exact modify_run _ touched
  · intro canonical
    unfold pushSample samples
    by_cases same : canonical = key.canonicalKey
    · subst same
      simp [touched]
    · simp [touched, same, AList.lookup_insert_ne same, AList.touch_of_fits fits]

end InMemoryBaselineStore

end GlassBox
