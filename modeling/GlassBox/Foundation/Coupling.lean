import GlassBox.Foundation.Program

/-!
# Two executions side by side

`Couples` says that a program, started from two related states, ends the same way and in related
states.  With a relation that forgets part of the state it says that the program neither reads nor
leaks that part.
-/

namespace EStateM

variable {ε σ α β : Type} {relation : σ → σ → Prop}

/-- From related states the program reaches one result and related states. -/
def Couples (relation : σ → σ → Prop) (program : EStateM ε σ α) : Prop :=
  ∀ left right, relation left right →
    ∃ (result : Except ε α) (left' right' : σ), program left = result.endingIn left' ∧
      program right = result.endingIn right' ∧ relation left' right'

theorem couples_pure (value : α) : Couples relation (pure value : EStateM ε σ α) :=
  fun left right related => ⟨.ok value, left, right, rfl, rfl, related⟩

theorem couples_throw (error : ε) : Couples relation (throw error : EStateM ε σ α) :=
  fun left right related => ⟨.error error, left, right, rfl, rfl, related⟩

theorem couples_ofExcept (result : Except ε α) :
    Couples relation (ofExcept result : EStateM ε σ α) :=
  fun left right related =>
    ⟨result, left, right, ofExcept_eq_endingIn _ _, ofExcept_eq_endingIn _ _, related⟩

theorem couples_modify {change : σ → σ}
    (kept : ∀ left right, relation left right → relation (change left) (change right)) :
    Couples relation (modify change : EStateM ε σ PUnit) :=
  fun left right related => ⟨.ok ⟨⟩, change left, change right, rfl, rfl, kept left right related⟩

theorem Couples.bind {program : EStateM ε σ β} {next : β → EStateM ε σ α}
    (front : Couples relation program) (back : ∀ value, Couples relation (next value)) :
    Couples relation (program >>= next) := by
  intro left right related
  obtain ⟨result, left', right', left_run, right_run, related'⟩ := front left right related
  cases result with
  | error error =>
    exact ⟨.error error, left', right', bind_of_error left_run, bind_of_error right_run, related'⟩
  | ok value =>
    obtain ⟨last, left'', right'', left_end, right_end, related''⟩ :=
      back value left' right' related'
    refine ⟨last, left'', right'', ?_, ?_, related''⟩
    · rw [bind_of_ok left_run, left_end]
    · rw [bind_of_ok right_run, right_end]

theorem Couples.map {program : EStateM ε σ β} (coupled : Couples relation program)
    (change : β → α) : Couples relation (change <$> program) := by
  intro left right related
  obtain ⟨result, left', right', left_run, right_run, related'⟩ := coupled left right related
  exact ⟨result.map change, left', right', map_of_endingIn left_run, map_of_endingIn right_run,
    related'⟩

theorem Couples.tryCatch {program : EStateM ε σ α} {handler : ε → EStateM ε σ α}
    (coupled : Couples relation program) (handled : ∀ error, Couples relation (handler error)) :
    Couples relation (tryCatch program handler) := by
  intro left right related
  obtain ⟨result, left', right', left_run, right_run, related'⟩ := coupled left right related
  cases result with
  | ok value =>
    refine ⟨.ok value, left', right', ?_, ?_, related'⟩
    · exact tryCatch_of_ok left_run
    · exact tryCatch_of_ok right_run
  | error error =>
    obtain ⟨last, left'', right'', left_end, right_end, related''⟩ :=
      handled error left' right' related'
    refine ⟨last, left'', right'', ?_, ?_, related''⟩
    · rw [tryCatch_of_error left_run, left_end]
    · rw [tryCatch_of_error right_run, right_end]

theorem couples_forM {items : List β} {body : β → EStateM ε σ PUnit}
    (round : ∀ item, Couples relation (body item)) : Couples relation (items.forM body) := by
  induction items with
  | nil => exact couples_pure (PUnit.unit : PUnit)
  | cons item items ih => exact (round item).bind fun _ => ih

theorem couples_get_bind {view : σ → β} {next : β → EStateM ε σ α}
    (same : ∀ left right, relation left right → view left = view right)
    (back : ∀ value, Couples relation (next value)) :
    Couples relation (do let state ← get; next (view state)) := by
  intro left right related
  obtain ⟨result, left', right', left_run, right_run, related'⟩ :=
    back (view left) left right related
  refine ⟨result, left', right', ?_, ?_, related'⟩
  · rw [bind_of_ok (get_run left), left_run]
  · rw [bind_of_ok (get_run right), ← same left right related, right_run]

end EStateM
