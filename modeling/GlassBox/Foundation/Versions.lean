import GlassBox.Foundation.Runs

/-!
# Versioned registers

A register holds one entry under each key.  It advances from one state to another if no entry gave
way to one of a lower version, which a write ensures by replacing nothing newer.
-/

/-- Every entry is still there, or one which is not older has taken its place. -/
def Advances {Key Entry : Type*} (version : Entry → Nat) (before after : Key → Option Entry) :
    Prop :=
  ∀ key old, before key = some old → ∃ new, after key = some new ∧ version old ≤ version new

namespace Advances

variable {Key Entry : Type*} {version : Entry → Nat} {first second third : Key → Option Entry}

theorem refl (entries : Key → Option Entry) : Advances version entries entries :=
  fun _ old found => ⟨old, found, le_refl _⟩

theorem trans (earlier : Advances version first second) (later : Advances version second third) :
    Advances version first third := by
  intro key old found
  obtain ⟨middle, kept, older⟩ := earlier key old found
  obtain ⟨new, last, newer⟩ := later key middle kept
  exact ⟨new, last, older.trans newer⟩

theorem update [DecidableEq Key] {key : Key} {new : Entry}
    (newer : ∀ old, first key = some old → version old ≤ version new) :
    Advances version first (Function.update first key (some new)) := by
  intro other old found
  by_cases same : other = key
  · subst same
    exact ⟨new, Function.update_self .., newer old found⟩
  · exact ⟨old, by rwa [Function.update_of_ne same], le_refl _⟩

/-- A run advances the register if each of its steps does. -/
theorem runAll {Op State : Type*} {permitted : Op → State → Prop} {step : Op → State → State}
    (entries : State → Key → Option Entry) (advances : ∀ op state, permitted op state →
      Advances version (entries state) (entries (step op state)))
    {ops : List Op} {start : State} (permits : Permits permitted step ops start) :
    Advances version (entries start) (entries (runAll step ops start)) := by
  induction ops generalizing start with
  | nil => exact refl _
  | cons op ops ih => exact (advances op start permits.1).trans (ih permits.2)

end Advances
