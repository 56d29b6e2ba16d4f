import GlassBox.Adapters.Memory.LimitSafety

/-!
# Charging a decision once

An admission is recognised by its member, made from the time and the id of the decision, and a
release gives back the admissions whose member ends in the id.
-/

namespace GlassBox

open SlidingWindow

structure TimedLimitStore where
  store : InMemoryLimitStore
  clock : ℚ

namespace TimedLimitStore

/-- The unreleased admissions in the window of a key which ends at a moment. -/
def held (timed : TimedLimitStore) (key : LimitKey) (moment : ℚ) : List Admission :=
  behind Admission.timestamp (moment - key.window.seconds)
    (timed.store.admissions key.canonicalKey)

variable {moment later : ℚ}

theorem held_sublist (timed : TimedLimitStore) (key : LimitKey) (forward : moment ≤ later) :
    (timed.held key later).Sublist (timed.held key moment) := by
  unfold held
  rw [← behind_behind (sub_le_sub_right forward _)]
  exact List.filter_sublist

section Charges

variable [Runtime] {decisionId : String} {entry : Admission} {key : LimitKey}
  {timed : TimedLimitStore}

def chargedTo (decisionId : String) (entry : Admission) : Bool :=
  entry.member = Runtime.reprFloat entry.timestamp ++ ":" ++ decisionId

theorem chargedTo_iff :
    chargedTo decisionId entry = true ↔
      entry.member = Runtime.reprFloat entry.timestamp ++ ":" ++ decisionId := by
  simp [chargedTo]

theorem eq_of_chargedTo {other : String} (charged : chargedTo decisionId entry = true)
    (charged_other : chargedTo other entry = true) :
    other = decisionId :=
  (LimitKey.member_injective
    ((chargedTo_iff.mp charged_other).symm.trans (chargedTo_iff.mp charged))).2

def step (call : LimitCall) (timed : TimedLimitStore) : TimedLimitStore where
  store := (InMemoryLimitStore.meter.step call timed.store).2
  clock := call.clock timed.clock

/-- The calls consume from and release to one key at non-decreasing times, and the store has room
for its window. -/
def OnKey (key : LimitKey) (call : LimitCall) (timed : TimedLimitStore) : Prop :=
  timed.clock ≤ call.clock timed.clock ∧
    match call with
    | .tryConsume other _ _ _ =>
      other = key ∧ timed.store.windows.Fits timed.store.maxSubjects key.canonicalKey
    | .release other _ => other = key
    | .cumulative .. => False

/-- A decision with an admission in the window is retried at the time of that admission. -/
def RetriesInPlace (key : LimitKey) (call : LimitCall) (timed : TimedLimitStore) : Prop :=
  match call with
  | .tryConsume _ _ decisionId now =>
    ∀ entry ∈ timed.held key now, chargedTo decisionId entry = true → entry.timestamp = now
  | _ => True

/-- Each decision has at most one admission in every window from now on. -/
def ChargesOnce (key : LimitKey) (timed : TimedLimitStore) : Prop :=
  ∀ decisionId moment, timed.clock ≤ moment →
    (timed.held key moment).countP (chargedTo decisionId) ≤ 1

/-- A release gives back the admissions of its decision and no other. -/
def ReleasesExactly (key : LimitKey) (decisionId : String) (timed : TimedLimitStore) : Prop :=
  (step (.release key decisionId) timed).held key timed.clock =
    (timed.held key timed.clock).filter fun entry => !chargedTo decisionId entry

/-- No other decision in the window has an id which ends in the separator and the given id. -/
def EndsNoOther (key : LimitKey) (decisionId : String) (timed : TimedLimitStore) : Prop :=
  ∀ entry ∈ timed.held key timed.clock, ∀ other, chargedTo other entry = true →
    ¬ (":" ++ decisionId).toList <:+ other.toList

/-- Only the decision itself and those whose id ends in the separator and its id pass the test. -/
theorem belongsTo_iff_of_chargedTo {decisionId other : String} {entry : Admission}
    (charged : chargedTo other entry = true) :
    InMemoryLimitStore.belongsTo decisionId entry = true ↔
      other = decisionId ∨ (":" ++ decisionId).toList <:+ other.toList := by
  have colon : ':' ∉ (Runtime.reprFloat entry.timestamp).toList :=
    fun member => absurd (Runtime.reprFloat_chars _ ':' member) (by decide)
  have written : entry.member.toList =
      (Runtime.reprFloat entry.timestamp).toList ++ ':' :: other.toList := by
    rw [chargedTo_iff.mp charged]
    simp
  have suffix_toList : (":" ++ decisionId).toList = ':' :: decisionId.toList := by simp
  unfold InMemoryLimitStore.belongsTo
  rw [List.isSuffixOf_iff_suffix, written, suffix_toList]
  constructor
  · rintro ⟨before, split⟩
    -- the separator of the suffix is the first one of the member, or lies behind it
    obtain ⟨rest, _, tail⟩ | ⟨rest, head, tail⟩ := List.append_eq_append_iff.mp split
    · cases rest with
      | nil => exact .inl (String.toList_inj.mp (List.cons.inj tail).2.symm)
      | cons mark rest =>
        have inside : ':' ∈ (Runtime.reprFloat entry.timestamp).toList := by
          simp_all
        exact absurd inside colon
    · cases rest with
      | nil => exact .inl (String.toList_inj.mp (List.cons.inj tail).2)
      | cons mark rest => exact .inr ⟨rest, (List.cons.inj tail).2.symm⟩
  · rintro (rfl | ⟨before, split⟩)
    · exact List.suffix_append _ _
    · rw [← split]
      exact ⟨(Runtime.reprFloat entry.timestamp).toList ++ ':' :: before, by simp⟩

/-- A release gives back what passes the suffix test. -/
theorem held_release {key : LimitKey} {decisionId : String} {timed : TimedLimitStore}
    (available : timed.store.available = true) (moment : ℚ) :
    (step (.release key decisionId) timed).store.available = true ∧
      (step (.release key decisionId) timed).held key moment =
        (timed.held key moment).filter fun entry =>
          !InMemoryLimitStore.belongsTo decisionId entry := by
  obtain ⟨after, run, counter, settings, -⟩ :=
    @InMemoryLimitStore.step_release _ key decisionId _ available
  have released : after.admissions key.canonicalKey =
      (timed.store.admissions key.canonicalKey).filter fun entry =>
        !InMemoryLimitStore.belongsTo decisionId entry :=
    congrArg LimitCounter.admissions counter
  unfold step held
  rw [run]
  refine ⟨(InMemoryLimitStore.available_of_settings settings).trans available, ?_⟩
  rw [released, behind_filter]

/-- An attempt adds nothing to the window, or one admission under a new member. -/
theorem held_tryConsume {key : LimitKey} {cost now : ℚ} {decisionId : String}
    {timed : TimedLimitStore} (available : timed.store.available = true)
    (fits : timed.store.windows.Fits timed.store.maxSubjects key.canonicalKey) :
    (step (.tryConsume key cost decisionId now) timed).store.available = true ∧
      ((step (.tryConsume key cost decisionId now) timed).held key now = timed.held key now ∨
        ∃ entry : Admission, entry.timestamp = now ∧ chargedTo decisionId entry = true ∧
          (∀ earlier ∈ timed.held key now, earlier.member ≠ entry.member) ∧
          ((step (.tryConsume key cost decisionId now) timed).held key now).Sublist
            (timed.held key now ++ [entry])) := by
  cases named : LimitKey.memberFor decisionId now with
  | error error =>
    unfold step
    rw [InMemoryLimitStore.step_tryConsume_of_unnamed available named]
    exact ⟨available, .inl rfl⟩
  | ok member =>
    obtain ⟨-, -, written⟩ := LimitKey.memberFor_eq_ok_iff.mp named
    obtain ⟨after, run, updates⟩ := @InMemoryLimitStore.step_tryConsume _ key cost now
      decisionId _ _ available fits named
    have left : behind Admission.timestamp (now - key.window.seconds)
        (after.admissions key.canonicalKey) = _ := updates.agrees.1
    unfold step held
    rw [run]
    refine ⟨(InMemoryLimitStore.available_of_settings updates.settings).trans available, ?_⟩
    simp only [left]
    obtain same | ⟨grown, unknown⟩ := (timed.store.consumed_cases key now member cost).admissions
    · rw [same]
      exact .inl (behind_behind (le_refl _))
    · rw [grown]
      exact .inr ⟨⟨now, member, cost⟩, rfl, chargedTo_iff.mpr written, unknown, List.filter_sublist⟩

/-- What the window holds is charged to decisions, and to each at most once. -/
structure Charged (key : LimitKey) (timed : TimedLimitStore) : Prop where
  available : timed.store.available = true
  named : ∀ entry ∈ timed.held key timed.clock, ∃ decisionId, chargedTo decisionId entry = true
  once : ∀ decisionId, (timed.held key timed.clock).countP (chargedTo decisionId) ≤ 1

section

variable (charged : timed.Charged key)
include charged

theorem Charged.tryConsume {cost now : ℚ} (forward : timed.clock ≤ now)
    (fits : timed.store.windows.Fits timed.store.maxSubjects key.canonicalKey)
    (inPlace : RetriesInPlace key (.tryConsume key cost decisionId now) timed) :
    Charged key (step (.tryConsume key cost decisionId now) timed) := by
  obtain ⟨available, same | ⟨added, stamped, own, fresh, grown⟩⟩ :=
    @held_tryConsume _ key cost now decisionId timed charged.available fits
  · have kept : ((step (.tryConsume key cost decisionId now) timed).held key now).Sublist
        (timed.held key timed.clock) := same ▸ timed.held_sublist key forward
    exact ⟨available, fun entry member => charged.named entry (kept.subset member),
      fun other => kept.countP_le.trans (charged.once other)⟩
  · have kept := timed.held_sublist key forward
    refine ⟨available, fun entry member => ?_, fun other => ?_⟩
    · obtain earlier | last := List.mem_append.mp (grown.subset member)
      · exact charged.named entry (kept.subset earlier)
      · rw [List.mem_singleton.mp last]
        exact ⟨decisionId, own⟩
    · refine grown.countP_le.trans ?_
      rw [List.countP_append]
      by_cases same : other = decisionId
      · -- an earlier admission of the decision would have the time and so the member of this one
        subst same
        have none_before : (timed.held key now).countP (chargedTo other) = 0 := by
          rw [List.countP_eq_zero]
          intro entry member before
          have moment := inPlace entry member before
          refine fresh entry member ?_
          rw [chargedTo_iff.mp before, chargedTo_iff.mp own, moment, stamped]
        rw [none_before, Nat.zero_add]
        exact List.countP_le_length
      · have not_other : chargedTo other added = false :=
          Bool.eq_false_iff.mpr fun charged_other => same (eq_of_chargedTo own charged_other)
        rw [List.countP_singleton, not_other]
        exact kept.countP_le.trans (charged.once other)

theorem Charged.step {call : LimitCall} (onKey : OnKey key call timed)
    (inPlace : RetriesInPlace key call timed) : Charged key (step call timed) := by
  obtain ⟨forward, permitted⟩ := onKey
  cases call with
  | tryConsume other cost decisionId now =>
    obtain ⟨rfl, fits⟩ := permitted
    exact charged.tryConsume forward fits inPlace
  | release other decisionId =>
    obtain rfl : other = key := permitted
    obtain ⟨available, left⟩ := @held_release _ other decisionId timed charged.available
      timed.clock
    have kept : ((TimedLimitStore.step (.release other decisionId) timed).held other
        timed.clock).Sublist (timed.held other timed.clock) := left ▸ List.filter_sublist
    exact ⟨available, fun entry member => charged.named entry (kept.subset member),
      fun id => kept.countP_le.trans (charged.once id)⟩
  | cumulative other window now => exact permitted.elim

theorem Charged.chargesOnce :
    timed.ChargesOnce key := fun decisionId _ forward =>
  (timed.held_sublist key forward).countP_le.trans (charged.once decisionId)

/-- A release is exact as long as no other id in the window ends in the released one. -/
theorem Charged.releasesExactly_iff (decisionId : String) :
    timed.ReleasesExactly key decisionId ↔ timed.EndsNoOther key decisionId := by
  unfold ReleasesExactly
  rw [(held_release charged.available timed.clock).2]
  constructor
  · intro exactly entry member other charged_other ends
    have belongs := (belongsTo_iff_of_chargedTo charged_other).mpr (.inr ends)
    have removed : entry ∉ (timed.held key timed.clock).filter
        fun entry => !chargedTo decisionId entry := by
      rw [← exactly]
      simp [belongs]
    have own : chargedTo decisionId entry = true := by simpa [member] using removed
    have length := ends.length_le
    rw [eq_of_chargedTo own charged_other] at length
    simp at length
  · intro separate
    refine List.filter_congr fun entry member => congrArg not ?_
    obtain ⟨other, charged_other⟩ := charged.named entry member
    have belongs_iff := @belongsTo_iff_of_chargedTo _ decisionId _ _ charged_other
    rw [Bool.eq_iff_iff, belongs_iff, or_iff_left (separate entry member other charged_other)]
    constructor
    · rintro rfl
      exact charged_other
    · intro own
      exact eq_of_chargedTo own charged_other

end

def fresh (limits : String → Option ℚ) (defaultLimit cooldownSeconds : ℚ) (maxSubjects : Nat)
    (clock : ℚ) : TimedLimitStore where
  store := .new limits defaultLimit cooldownSeconds maxSubjects
  clock := clock

/-- In a run which retries a decision at the time of its admission only, every decision is charged
at most once, and a release is exact if and only if no other id in the window ends in it. -/
theorem charged_once_of_run {limits : String → Option ℚ} {defaultLimit cooldownSeconds clock : ℚ}
    {maxSubjects : Nat} {key : LimitKey} {timed : TimedLimitStore}
    (run : Reaches (fun call timed => OnKey key call timed ∧ RetriesInPlace key call timed) step
      (fresh limits defaultLimit cooldownSeconds maxSubjects clock) timed) :
    timed.ChargesOnce key ∧
      ∀ decisionId, timed.ReleasesExactly key decisionId ↔ timed.EndsNoOther key decisionId := by
  have charged : timed.Charged key := by
    refine run.invariant (Charged key) ?_ fun call before permitted charged =>
      charged.step permitted.1 permitted.2
    exact ⟨rfl, fun _ member => absurd member List.not_mem_nil, fun _ => Nat.zero_le 1⟩
  exact ⟨charged.chargesOnce, charged.releasesExactly_iff⟩

end Charges

def roomyStore : TimedLimitStore := fresh (fun _ => none) 100 30 10 0

/-- The decision is tried twice at the same time. -/
def triedTwice : List LimitCall :=
  [.tryConsume sampleLimitKey 1 "decision-1" 0, .tryConsume sampleLimitKey 1 "decision-1" 0]

def retriedInPlace [Runtime] : TimedLimitStore := runAll step triedTwice roomyStore

attribute [local instance] plainRuntime

theorem charged_once_of_run_retried :
    retriedInPlace.ChargesOnce sampleLimitKey ∧
      (retriedInPlace.held sampleLimitKey 0).countP (chargedTo "decision-1") = 1 ∧
      retriedInPlace.ReleasesExactly sampleLimitKey "decision-1" := by
  have inPlace : RetriesInPlace sampleLimitKey (.tryConsume sampleLimitKey 1 "decision-1" 0)
      (step (.tryConsume sampleLimitKey 1 "decision-1" 0) roomyStore) := by
    unfold RetriesInPlace
    decide +kernel
  have permits : Permits (fun call timed => OnKey sampleLimitKey call timed ∧
      RetriesInPlace sampleLimitKey call timed) step triedTwice roomyStore :=
    ⟨⟨⟨le_refl _, rfl, .inr (by decide)⟩, fun _ member => absurd member List.not_mem_nil⟩,
      ⟨⟨le_refl _, rfl, .inr (by decide +kernel)⟩, inPlace⟩, trivial⟩
  obtain ⟨once, exactly⟩ := @charged_once_of_run _ (fun _ => none) 100 30 0 10 sampleLimitKey
    retriedInPlace permits.reaches
  refine ⟨once, by decide +kernel, (exactly _).mpr ?_⟩
  intro entry member other charged ends
  have own : chargedTo "decision-1" entry = true :=
    List.all_eq_true.mp (show (retriedInPlace.held sampleLimitKey retriedInPlace.clock).all
      (chargedTo "decision-1") = true by decide +kernel) entry member
  have length := ends.length_le
  rw [eq_of_chargedTo own charged] at length
  exact absurd length (by decide)

/-- The decision is tried again a second later. -/
def retriedLater : List LimitCall :=
  [.tryConsume sampleLimitKey 1 "decision-1" 0, .tryConsume sampleLimitKey 1 "decision-1" 1]

/-- The decision `a:b` is admitted. -/
def admittedWithSeparator : List LimitCall := [.tryConsume sampleLimitKey 1 "a:b" 0]

/-- A retry at a later time is charged again, and a release of `b` gives back the admission of
`a:b`. -/
theorem later_retry_is_charged_again :
    (¬ ∀ timed, Reaches (OnKey sampleLimitKey) step roomyStore timed →
      timed.ChargesOnce sampleLimitKey) ∧
    ¬ ∀ timed, Reaches (OnKey sampleLimitKey) step roomyStore timed →
      ∀ decisionId, timed.ReleasesExactly sampleLimitKey decisionId := by
  constructor
  · intro claim
    have run : Permits (OnKey sampleLimitKey) step retriedLater roomyStore := by
      refine ⟨⟨le_refl _, rfl, Or.inr (by decide)⟩,
        ⟨zero_le_one, rfl, Or.inr (by decide +kernel)⟩, trivial⟩
    have twice : ((runAll step retriedLater roomyStore).held sampleLimitKey 1).countP
        (chargedTo "decision-1") = 2 := by
      decide +kernel
    have once := claim _ run.reaches "decision-1" 1 (le_refl _)
    rw [twice] at once
    exact absurd once (by decide)
  · intro claim
    have run : Permits (OnKey sampleLimitKey) step admittedWithSeparator roomyStore :=
      ⟨⟨le_refl _, rfl, Or.inr (by decide)⟩, trivial⟩
    have exactly : TimedLimitStore.held _ _ _ = List.filter _ _ := claim _ run.reaches "b"
    exact absurd exactly (by decide +kernel)

end TimedLimitStore

end GlassBox
