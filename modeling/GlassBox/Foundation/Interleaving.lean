import Mathlib

/-!
# Calls which share a state

Several calls run at once: a step moves one call and may change the shared state.  An invariant has
three parts, about the shared state, about a call and about a pair of calls.
-/

/-- A shared state and the phase of every call. -/
structure Interleaved (ι σ π : Type*) where
  shared : σ
  phases : ι → π

namespace Interleaved

variable {ι σ π : Type*} [DecidableEq ι] {whole : σ → Prop} {own : ι → σ → π → Prop}
  {apart : ι → ι → π → π → Prop} {state : Interleaved ι σ π} {i : ι} {phase : π}

def move (state : Interleaved ι σ π) (i : ι) (shared : σ) (phase : π) : Interleaved ι σ π :=
  ⟨shared, Function.update state.phases i phase⟩

@[simp]
theorem move_shared (state : Interleaved ι σ π) (i : ι) (shared : σ) (phase : π) :
    (state.move i shared phase).shared = shared := rfl

@[simp]
theorem move_phases_self (state : Interleaved ι σ π) (i : ι) (shared : σ) (phase : π) :
    (state.move i shared phase).phases i = phase := by
  simp only [move, Function.update_self]

theorem move_phases_of_ne (state : Interleaved ι σ π) {i j : ι} (other : j ≠ i) (shared : σ)
    (phase : π) : (state.move i shared phase).phases j = state.phases j := by
  simp only [move, Function.update_of_ne other]

/-- An invariant of the shared state, of every call and of every two calls. -/
structure Invariant (whole : σ → Prop) (own : ι → σ → π → Prop)
    (apart : ι → ι → π → π → Prop) (state : Interleaved ι σ π) : Prop where
  whole : whole state.shared
  own : ∀ i, own i state.shared (state.phases i)
  apart : ∀ i j, i ≠ j → apart i j (state.phases i) (state.phases j)

/-- A move keeps the invariant when the moved call meets it and the change of the shared state does
not disturb the others. -/
theorem Invariant.move (invariant : state.Invariant whole own apart)
    (symmetric : ∀ i j phase phase', apart i j phase phase' → apart j i phase' phase) {shared : σ}
    (whole' : whole shared) (own' : own i shared phase)
    (stable : ∀ j, j ≠ i → own j shared (state.phases j))
    (apart' : ∀ j, j ≠ i → apart i j phase (state.phases j)) :
    (state.move i shared phase).Invariant whole own apart where
  whole := whole'
  own := by
    intro j
    by_cases same : j = i
    · subst same
      simpa using own'
    · simpa [move_phases_of_ne state same] using stable j same
  apart := by
    intro j k different
    by_cases left : j = i
    · subst left
      simpa [move_phases_of_ne state different.symm] using apart' k different.symm
    · rw [move_phases_of_ne state left]
      by_cases right : k = i
      · subst right
        simpa using symmetric _ _ _ _ (apart' j left)
      · rw [move_phases_of_ne state right]
        exact invariant.apart j k different

/-- A move which leaves the shared state alone. -/
theorem Invariant.move_phase (invariant : state.Invariant whole own apart)
    (symmetric : ∀ i j phase phase', apart i j phase phase' → apart j i phase' phase)
    (own' : own i state.shared phase) (apart' : ∀ j, j ≠ i → apart i j phase (state.phases j)) :
    (state.move i state.shared phase).Invariant whole own apart :=
  invariant.move symmetric invariant.whole own' (fun j _ => invariant.own j) apart'

end Interleaved
