import Mathlib

/-!
# Stateful programs that may raise

`EStateM` threads a state which survives a raised exception.  `Ends` describes both ways an
execution can finish, and its equations run through the monad operations.  `zoom` runs a program on
one component of a larger state.  `Within` is the special case in which only the states before and
after matter.
-/

/-- `try` around one call: a caught exception becomes `none`. -/
def attempt {ε α : Type} {m : Type → Type} [Monad m] [MonadExceptOf ε m] (caught : ε → Bool)
    (call : m α) : m (Option α) :=
  tryCatch (some <$> call) fun error => if caught error then pure none else throw error

namespace Except

section Inversion

variable {ε α β : Type} {program : Except ε α} {result : β} {next : α → Except ε β} {change : α → β}
  {error : ε} {caught : ε → Bool} {call : Except ε α} {convert : α → Except ε β}

/-- A sequence returns exactly when each part does. -/
theorem bind_eq_ok_iff :
    program >>= next = .ok result ↔ ∃ value, program = .ok value ∧ next value = .ok result := by
  cases program with
  | error error | ok value => simp [bind, Except.bind]

theorem map_eq_ok_iff :
    program.map change = .ok result ↔ ∃ value, program = .ok value ∧ change value = result := by
  cases program with
  | error error | ok value => simp [Except.map]

/-- A sequence raises exactly when its first part does, or its second part after it. -/
theorem bind_eq_error_iff :
    program >>= next = .error error ↔
      program = .error error ∨ ∃ value, program = .ok value ∧ next value = .error error := by
  cases program with
  | error error | ok value => simp [bind, Except.bind]

theorem map_eq_error_iff :
    program.map change = .error error ↔ program = .error error := by
  cases program with
  | error error | ok value => simp [Except.map]

theorem attempt_error : attempt caught (.error error : Except ε α) =
    if caught error then .ok none else .error error := rfl

/-- A call is answered exactly when it returns. -/
theorem attempt_eq_some_iff {value : α} :
    attempt caught call = .ok (some value) ↔ call = .ok value := by
  cases call with
  | ok answer => simp [attempt, tryCatch, tryCatchThe, MonadExceptOf.tryCatch, Except.tryCatch]
  | error error =>
    rw [attempt_error]
    split <;> simp

/-- A call is not answered exactly when it raises a caught exception. -/
theorem attempt_eq_none_iff :
    attempt caught call = .ok none ↔ ∃ error, call = .error error ∧ caught error = true := by
  cases call with
  | ok answer => simp [attempt, tryCatch, tryCatchThe, MonadExceptOf.tryCatch, Except.tryCatch]
  | error error =>
    rw [attempt_error]
    split <;> simp [*]

theorem attempt_of_uncaught (unknown : ¬ caught error = true) :
    attempt caught (.error error : Except ε α) = .error error := by
  rw [attempt_error, if_neg unknown]

theorem exists_attempt_iff : (∃ answer, attempt caught call = .ok answer) ↔
      ∀ error, call = .error error → caught error = true := by
  constructor
  · rintro ⟨answer, answered⟩ error rfl
    cases answer with
    | some value => cases attempt_eq_some_iff.mp answered
    | none =>
      obtain ⟨error', same, known⟩ := attempt_eq_none_iff.mp answered
      cases same
      exact known
  · intro known
    cases run : call with
    | ok value => exact ⟨some value, attempt_eq_some_iff.mpr rfl⟩
    | error error => exact ⟨none, attempt_eq_none_iff.mpr ⟨error, rfl, known error run⟩⟩

/-- Whatever the program raises meets a condition. -/
def Raises (condition : ε → Prop) (program : Except ε α) : Prop :=
  ∀ error, program = .error error → condition error

variable {condition : ε → Prop}

theorem raises_ok {value : α} : Raises condition (.ok value) := by
  intro error raised
  cases raised

theorem Raises.bind (first : Raises condition program)
    (rest : ∀ value, Raises condition (next value)) : Raises condition (program >>= next) := by
  intro error raised
  rcases bind_eq_error_iff.mp raised with raised | ⟨value, -, raised⟩
  · exact first error raised
  · exact rest value error raised

theorem Raises.mapM {option : Option α} (each : ∀ item, Raises condition (convert item)) :
    Raises condition (option.mapM convert) := by
  cases option with
  | none => exact raises_ok
  | some item =>
    intro error raised
    rw [Option.mapM_some] at raised
    exact each item error (map_eq_error_iff.mp raised)

theorem exists_of_mem_mapM {items : List α} {results : List β}
    (returned : items.mapM convert = .ok results) (member : result ∈ results) :
    ∃ item ∈ items, convert item = .ok result := by
  induction items generalizing results with
  | nil =>
    cases returned
    cases member
  | cons item items ih =>
    rw [List.mapM_cons] at returned
    obtain ⟨first, first_eq, returned⟩ := bind_eq_ok_iff.mp returned
    obtain ⟨rest, rest_eq, returned⟩ := bind_eq_ok_iff.mp returned
    cases returned
    rcases List.mem_cons.mp member with rfl | member
    · exact ⟨item, List.mem_cons_self, first_eq⟩
    · obtain ⟨other, other_mem, other_eq⟩ := ih rest_eq member
      exact ⟨other, List.mem_cons_of_mem _ other_mem, other_eq⟩

end Inversion

/-- The end of an execution which reaches a result in a state. -/
def endingIn {ε σ α : Type} (result : Except ε α) (after : σ) : EStateM.Result ε σ α :=
  match result with
  | .ok returned => .ok returned after
  | .error raised => .error raised after

end Except

namespace EStateM

section Ends

variable {ε σ α β : Type} {returns : α → σ → Prop} {raises : ε → σ → Prop} {program : EStateM ε σ α}
  {before : σ} {value : α} {error : ε} {next : β → EStateM ε σ α} {handler : ε → EStateM ε σ α}
  {returns' : α → σ → Prop} {raises' : ε → σ → Prop} {caught : ε → Bool} {state : σ}

/-- Every way `program` can finish from `before`: a returned value or a raised error. -/
def Ends (program : EStateM ε σ α) (before : σ) (returns : α → σ → Prop)
    (raises : ε → σ → Prop) : Prop :=
  match program before with
  | .ok value after => returns value after
  | .error error after => raises error after

theorem ends_of_ok {after : σ} (run : program before = .ok value after) :
    program.Ends before returns raises ↔ returns value after := by
  simp only [Ends, run]

theorem exists_of_ends (ends : program.Ends before returns fun _ _ => False) :
    ∃ value after, program before = .ok value after ∧ returns value after := by
  unfold Ends at ends
  split at ends
  next value after run => exact ⟨value, after, run, ends⟩
  next => exact ends.elim

theorem eq_ok_iff_ends {after : σ} :
    program before = .ok value after ↔
      program.Ends before (fun result state => result = value ∧ state = after)
        fun _ _ => False := by
  unfold Ends
  cases program before <;> simp

theorem ends_of_error {after : σ} (run : program before = .error error after) :
    program.Ends before returns raises ↔ raises error after := by
  simp only [Ends, run]

theorem get_run (before : σ) : (get : EStateM ε σ σ) before = .ok before before := rfl

theorem modify_run (change : σ → σ) (before : σ) :
    (modify change : EStateM ε σ PUnit) before = .ok ⟨⟩ (change before) := rfl

theorem ofExcept_run {result : Except ε α} (returned : result = .ok value) (before : σ) :
    (ofExcept result : EStateM ε σ α) before = .ok value before := by
  rw [returned]
  rfl

theorem ofExcept_eq_endingIn (result : Except ε α) (before : σ) :
    (ofExcept result : EStateM ε σ α) before = result.endingIn before := by
  cases result <;> rfl

theorem map_of_endingIn {program : EStateM ε σ β} {change : β → α} {before after : σ}
    {result : Except ε β} (run : program before = result.endingIn after) :
    (change <$> program) before = (result.map change).endingIn after := by
  change EStateM.map change program before = _
  cases result with
  | ok value | error error => simp only [EStateM.map, run, Except.endingIn, Except.map]

theorem bind_of_ok {program : EStateM ε σ β} {after : σ} {value : β}
    (run : program before = .ok value after) :
    (program >>= next) before = next value after := by
  change EStateM.bind program next before = _
  simp only [EStateM.bind, run]

theorem bind_of_error {program : EStateM ε σ β} {after : σ}
    (run : program before = .error error after) :
    (program >>= next) before = .error error after := by
  change EStateM.bind program next before = _
  simp only [EStateM.bind, run]

theorem exists_of_bind_eq_ok {program : EStateM ε σ β} {after : σ}
    (run : (program >>= next) before = .ok value after) :
    ∃ first middle, program before = .ok first middle ∧ next first middle = .ok value after := by
  cases started : program before with
  | ok first middle => exact ⟨first, middle, rfl, (bind_of_ok started).symm.trans run⟩
  | error error middle => cases (bind_of_error started).symm.trans run

theorem tryCatch_of_ok {after : σ} (run : program before = .ok value after) :
    tryCatch program handler before = .ok value after := by
  change EStateM.tryCatch program handler before = _
  simp only [EStateM.tryCatch, run]

theorem tryCatch_of_error {after : σ} (run : program before = .error error after) :
    tryCatch program handler before = handler error after := by
  change EStateM.tryCatch program handler before = _
  simp only [EStateM.tryCatch, run]
  rfl

theorem ends_of_forall (returned : ∀ value after, returns value after)
    (raised : ∀ error after, raises error after) :
    program.Ends before returns raises := by
  unfold Ends
  cases program before with
  | ok value after => exact returned value after
  | error error after => exact raised error after

/-- Weaken what is said about a returned value and about a raised error. -/
theorem Ends.mono (ends : program.Ends before returns raises)
    (returned : ∀ value after, returns value after → returns' value after)
    (raised : ∀ error after, raises error after → raises' error after) :
    program.Ends before returns' raises' := by
  unfold Ends at ends ⊢
  cases run : program before with
  | ok value after => exact returned value after (by simpa [run] using ends)
  | error error after => exact raised error after (by simpa [run] using ends)

theorem ends_congr (returned : ∀ value after, returns value after ↔ returns' value after)
    (raised : ∀ error after, raises error after ↔ raises' error after) :
    program.Ends before returns raises ↔ program.Ends before returns' raises' :=
  ⟨fun ends => ends.mono (fun value after => (returned value after).mp)
      fun error after => (raised error after).mp,
    fun ends => ends.mono (fun value after => (returned value after).mpr)
      fun error after => (raised error after).mpr⟩

@[simp]
theorem ends_pure (value : α) (before : σ) :
    (pure value : EStateM ε σ α).Ends before returns raises ↔ returns value before :=
  Iff.rfl

@[simp]
theorem ends_throw (error : ε) (before : σ) :
    (throw error : EStateM ε σ α).Ends before returns raises ↔ raises error before :=
  Iff.rfl

@[simp]
theorem ends_bind (program : EStateM ε σ β) (next : β → EStateM ε σ α) (before : σ) :
    (program >>= next).Ends before returns raises ↔
      program.Ends before (fun value middle => (next value).Ends middle returns raises) raises := by
  change (match EStateM.bind program next before with
    | .ok value after => returns value after
    | .error error after => raises error after) ↔ _
  unfold EStateM.bind Ends
  cases program before <;> rfl

@[simp]
theorem ends_map (change : β → α) (program : EStateM ε σ β) (before : σ) :
    (change <$> program).Ends before returns raises ↔
      program.Ends before (fun value after => returns (change value) after) raises := by
  change (match EStateM.map change program before with
    | .ok value after => returns value after
    | .error error after => raises error after) ↔ _
  unfold EStateM.map Ends
  cases program before <;> rfl

@[simp]
theorem ends_tryCatch (program : EStateM ε σ α) (handler : ε → EStateM ε σ α) (before : σ) :
    (tryCatch program handler).Ends before returns raises ↔
      program.Ends before returns (fun error middle =>
        (handler error).Ends middle returns raises) := by
  change (match EStateM.tryCatch program handler before with
    | .ok value after => returns value after
    | .error error after => raises error after) ↔ _
  unfold EStateM.tryCatch Ends
  cases program before <;> rfl

@[simp]
theorem ends_get {returns : σ → σ → Prop} (before : σ) :
    (get : EStateM ε σ σ).Ends before returns raises ↔ returns before before :=
  Iff.rfl

@[simp]
theorem ends_modify {returns : PUnit → σ → Prop} (change : σ → σ) (before : σ) :
    (modify change : EStateM ε σ PUnit).Ends before returns raises ↔
      returns ⟨⟩ (change before) :=
  Iff.rfl

@[simp]
theorem ends_ofExcept (result : Except ε α) (before : σ) :
    (ofExcept result : EStateM ε σ α).Ends before returns raises ↔
      match result with
      | .ok value => returns value before
      | .error error => raises error before := by
  cases result <;> rfl

/-- A program which only reads. -/
def query (read : σ → Except ε α) : EStateM ε σ α := fun before => (read before).endingIn before

@[simp]
theorem ends_query (read : σ → Except ε α) (before : σ) : (query read).Ends before returns raises ↔
      match read before with
      | .ok value => returns value before
      | .error error => raises error before := by
  unfold Ends query
  cases read before <;> rfl

@[simp]
theorem ends_attempt {returns : Option α → σ → Prop} (caught : ε → Bool) (program : EStateM ε σ α)
    (before : σ) :
    (attempt caught program).Ends before returns raises ↔
      program.Ends before (fun value after => returns (some value) after)
        (fun error after => if caught error then returns none after else raises error after) := by
  change ((tryCatch (some <$> program) fun error =>
    if caught error then pure none else throw error : EStateM ε σ (Option α)).Ends before
      returns raises) ↔ _
  rw [ends_tryCatch, ends_map]
  refine ends_congr (fun _ _ => Iff.rfl) fun error after => ?_
  split <;> rfl

/-- A call with a pure result is survived as that result is. -/
theorem attempt_of_endingIn {caught : ε → Bool} {program : EStateM ε σ α} {before after : σ}
    {result : Except ε α} (run : program before = result.endingIn after) :
    attempt caught program before = (attempt caught result).endingIn after := by
  change (tryCatch (some <$> program) fun error =>
    if caught error then pure none else throw error : EStateM ε σ (Option α)) before = _
  have mapped : (some <$> program) before = (result.map some).endingIn after :=
    map_of_endingIn run
  cases result with
  | ok value => exact tryCatch_of_ok mapped
  | error error =>
    rw [tryCatch_of_error mapped]
    by_cases known : caught error = true
    · rw [if_pos known, Except.attempt_eq_none_iff.mpr ⟨error, rfl, known⟩]
      rfl
    · rw [if_neg known, Except.attempt_of_uncaught known]
      rfl

theorem attempt_of_ok {after : σ} (run : program before = .ok value after) :
    attempt caught program before = .ok (some value) after :=
  @attempt_of_endingIn _ _ _ caught program before after (.ok value) run

theorem attempt_of_caught {after : σ} (run : program before = .error error after)
    (known : caught error = true) :
    attempt caught program before = .ok none after := by
  have survived := @attempt_of_endingIn _ _ _ caught program before after (.error error) run
  rwa [Except.attempt_eq_none_iff.mpr ⟨error, rfl, known⟩] at survived

theorem attempt_of_uncaught {caught : ε → Bool} {program : EStateM ε σ α} {before after : σ}
    {error : ε} (run : program before = .error error after) (unknown : ¬ caught error = true) :
    attempt caught program before = .error error after := by
  have survived := @attempt_of_endingIn _ _ _ caught program before after (.error error) run
  rwa [Except.attempt_of_uncaught unknown] at survived

/-- A stateful call is answered exactly when it returns. -/
theorem attempt_run_some_iff {after : σ} :
    attempt caught program before = .ok (some value) after ↔ program before = .ok value after := by
  constructor
  · intro answered
    have ends : (attempt caught program).Ends before
        (fun answer state => answer = some value → state = after → program before = .ok value after)
        (fun _ _ => True) := by
      rw [ends_attempt]
      cases run : program before with
      | ok result state =>
        refine (ends_of_ok run).mpr ?_
        rintro ⟨⟩ rfl
        rfl
      | error error state =>
        refine (ends_of_error run).mpr ?_
        split
        · nofun
        · trivial
    exact (ends_of_ok answered).mp ends rfl rfl
  · intro run
    exact eq_ok_iff_ends.mpr ((ends_attempt ..).mpr ((ends_of_ok run).mpr ⟨rfl, rfl⟩))

/-- `try … except`: the value, or the error which a clause took. -/
def catching (caught : ε → Bool) (program : EStateM ε σ α) : EStateM ε σ (Except ε α) :=
  tryCatch (Except.ok <$> program) fun error =>
    if caught error then pure (.error error) else throw error

@[simp]
theorem ends_catching {returns : Except ε α → σ → Prop} (caught : ε → Bool)
    (program : EStateM ε σ α) (before : σ) :
    (catching caught program).Ends before returns raises ↔
      program.Ends before (fun value after => returns (.ok value) after)
        (fun error after =>
          if caught error then returns (.error error) after else raises error after) := by
  rw [catching, ends_tryCatch, ends_map]
  refine ends_congr (fun _ _ => Iff.rfl) fun error after => ?_
  split <;> rfl

/-- A program of which every error is taken returns, when what follows returns. -/
theorem returns_bind_catching_iff {next : Except ε α → EStateM ε σ β}
    (returns : ∀ result after, (next result).Ends after (fun _ _ => True) fun _ _ => False) :
    (catching caught program >>= next).Ends before (fun _ _ => True) (fun _ _ => False) ↔
      program.Ends before (fun _ _ => True) fun error _ => caught error = true := by
  rw [ends_bind, ends_catching]
  refine ends_congr (fun value after => iff_true_intro (returns _ _)) fun error after => ?_
  split
  · rename_i taken
    exact iff_of_true (returns _ _) taken
  · rename_i raised
    exact iff_of_false id raised

/-- The state a program leaves, whether it returns or raises. -/
def after (program : EStateM ε σ α) (before : σ) : σ :=
  match program before with
  | .ok _ state => state
  | .error _ state => state

theorem after_of_ok (run : program before = .ok value state) : program.after before = state := by
  simp only [after, run]

theorem after_of_error (run : program before = .error error state) :
    program.after before = state := by
  simp only [after, run]

/-- What a program returns or raises, whatever state it leaves. -/
def outcome (program : EStateM ε σ α) (before : σ) : Except ε α :=
  match program before with
  | .ok value _ => .ok value
  | .error error _ => .error error

theorem outcome_of_ok (run : program before = .ok value state) :
    program.outcome before = .ok value := by
  simp only [outcome, run]

theorem outcome_of_error (run : program before = .error error state) :
    program.outcome before = .error error := by
  simp only [outcome, run]

theorem run_eq_endingIn (program : EStateM ε σ α) (before : σ) :
    program before = (program.outcome before).endingIn (program.after before) := by
  unfold outcome after
  cases program before <;> rfl

theorem outcome_of_ends
    (ends : program.Ends before (fun returned _ => returned = value) fun _ _ => False) :
    program.outcome before = .ok value := by
  obtain ⟨_, _, run, rfl⟩ := exists_of_ends ends
  exact outcome_of_ok run

/-- A description of the final state alone is a description of `after`. -/
theorem ends_iff_after {holds : σ → Prop} :
    program.Ends before (fun _ state => holds state) (fun _ state => holds state) ↔
      holds (program.after before) := by
  unfold Ends after
  cases program before <;> rfl

theorem after_of_ends (holds : σ → Prop)
    (ends : program.Ends before (fun _ state => holds state) (fun _ state => holds state)) :
    holds (program.after before) :=
  ends_iff_after.mp ends

theorem after_bind (program : EStateM ε σ β) (next : β → EStateM ε σ α) (before : σ) :
    (program >>= next).after before = program.after before ∨
      ∃ value, (program >>= next).after before = (next value).after (program.after before) := by
  change EStateM.after (EStateM.bind program next) before = _ ∨
    ∃ value, EStateM.after (EStateM.bind program next) before = _
  unfold after EStateM.bind
  cases program before with
  | ok value middle => exact .inr ⟨value, rfl⟩
  | error error middle => exact .inl rfl

theorem after_bind_of_ok {program : EStateM ε σ β} {middle : σ} {value : β}
    (run : program before = .ok value middle) :
    (program >>= next).after before = (next value).after middle := by
  simp only [after, bind_of_ok run]

theorem after_map (change : β → α) (program : EStateM ε σ β) (before : σ) :
    (change <$> program).after before = program.after before := by
  refine after_of_ends (· = program.after before) ((ends_map change program before).mpr ?_)
  exact ends_iff_after.mpr rfl

theorem after_bind_ofExcept (program : EStateM ε σ β) (report : β → Except ε α) (before : σ) :
    (program >>= fun value => ofExcept (report value)).after before = program.after before := by
  refine after_of_ends (· = program.after before) ((ends_bind _ _ before).mpr ?_)
  refine (ends_iff_after.mpr rfl : program.Ends before (fun _ state => state = _) _).mono ?_ ?_
  · intro value after same
    rw [ends_ofExcept]
    cases report value <;> exact same
  · exact fun _ _ same => same

end Ends

section Zoom

variable {ε ω σ α : Type} {view : ω → σ} {update : σ → ω → ω} {program : EStateM ε σ α} {before : ω}

/-- Run a program on the component of a larger state which `view` reads and `update` writes. -/
def zoom (view : ω → σ) (update : σ → ω → ω) (program : EStateM ε σ α) : EStateM ε ω α :=
  fun before =>
    match program (view before) with
    | .ok value after => .ok value (update after before)
    | .error error after => .error error (update after before)

theorem zoom_of_ok {value : α} {after : σ} (run : program (view before) = .ok value after) :
    zoom view update program before = .ok value (update after before) := by
  simp only [zoom, run]

theorem zoom_of_error {error : ε} {after : σ} (run : program (view before) = .error error after) :
    zoom view update program before = .error error (update after before) := by
  simp only [zoom, run]

@[simp]
theorem ends_zoom (view : ω → σ) (update : σ → ω → ω) (program : EStateM ε σ α) (before : ω)
    {returns : α → ω → Prop} {raises : ε → ω → Prop} :
    (zoom view update program).Ends before returns raises ↔
      program.Ends (view before) (fun value after => returns value (update after before))
        (fun error after => raises error (update after before)) := by
  simp only [Ends, zoom]
  cases program (view before) <;> rfl

@[simp]
theorem after_zoom (view : ω → σ) (update : σ → ω → ω) (program : EStateM ε σ α) (before : ω) :
    (zoom view update program).after before = update (program.after (view before)) before := by
  simp only [after, zoom]
  cases program (view before) <;> rfl

end Zoom

section Within

variable {ε σ α β : Type} {relation : σ → σ → Prop}

/-- The program keeps `relation` between the states before and after, however it ends. -/
def Within (relation : σ → σ → Prop) (program : EStateM ε σ α) : Prop :=
  ∀ before, relation before (program.after before)

theorem within_iff_ends {program : EStateM ε σ α} :
    Within relation program ↔ ∀ before, program.Ends before (fun _ after => relation before after)
      (fun _ after => relation before after) :=
  forall_congr' fun _ => ends_iff_after.symm

theorem within_pure (reflexive : ∀ state, relation state state) (value : α) :
    Within relation (pure value : EStateM ε σ α) := reflexive

theorem within_throw (reflexive : ∀ state, relation state state) (error : ε) :
    Within relation (throw error : EStateM ε σ α) := reflexive

theorem Within.map {program : EStateM ε σ β} (within : Within relation program) (change : β → α) :
    Within relation (change <$> program) := by
  rw [within_iff_ends] at within ⊢
  exact fun before => (ends_map change program before).mpr (within before)

variable (transitive : ∀ {first second third}, relation first second → relation second third →
  relation first third) {program : EStateM ε σ α}
include transitive

theorem Within.bind {next : α → EStateM ε σ β} (front : Within relation program)
    (back : ∀ value, Within relation (next value)) : Within relation (program >>= next) := by
  rw [within_iff_ends] at front ⊢
  intro before
  rw [ends_bind]
  refine (front before).mono (fun value middle kept => ?_) fun _ _ kept => kept
  exact ends_iff_after.mpr (transitive kept (back value middle))

theorem Within.tryCatch {handler : ε → EStateM ε σ α} (front : Within relation program)
    (back : ∀ error, Within relation (handler error)) :
    Within relation (tryCatch program handler) := by
  rw [within_iff_ends] at front ⊢
  intro before
  rw [ends_tryCatch]
  refine (front before).mono (fun _ _ kept => kept) fun error middle kept => ?_
  exact ends_iff_after.mpr (transitive kept (back error middle))

end Within

end EStateM
