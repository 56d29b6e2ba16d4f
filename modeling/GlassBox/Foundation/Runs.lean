import Mathlib

/-!
# Runs of a system

`Reaches permitted step` relates the states joined by a finite run in which every operation is
permitted in the state it starts from.  An invariant of the permitted steps holds in every state of
such a run.
-/

section Runs

variable {Op State : Type*} {step : Op → State → State} {start : State} {ops : List Op}
  {permitted : Op → State → Prop}

def PermittedStep (permitted : Op → State → Prop) (step : Op → State → State)
    (before after : State) : Prop :=
  ∃ op, permitted op before ∧ step op before = after

/-- A finite run of permitted operations. -/
def Reaches (permitted : Op → State → Prop) (step : Op → State → State) :
    State → State → Prop :=
  Relation.ReflTransGen (PermittedStep permitted step)

namespace Reaches

variable {permitted : Op → State → Prop} {step : Op → State → State} {start state : State}

/-- What holds at the start and is kept by every permitted operation holds along the run. -/
theorem invariant (run : Reaches permitted step start state) (holds : State → Prop)
    (initial : holds start)
    (kept : ∀ op before, permitted op before → holds before → holds (step op before)) :
    holds state := by
  induction run with
  | refl => exact initial
  | tail _ last ih =>
    obtain ⟨op, allowed, rfl⟩ := last
    exact kept op _ allowed ih

end Reaches

/-- The state after a list of operations. -/
def runAll (step : Op → State → State) (ops : List Op) (start : State) : State :=
  ops.foldl (fun state op => step op state) start

/-- What every operation of the list keeps is kept by the list. -/
theorem runAll_invariant (holds : State → Prop) (initial : holds start)
    (kept : ∀ op ∈ ops, ∀ state, holds state → holds (step op state)) :
    holds (runAll step ops start) := by
  induction ops generalizing start with
  | nil => exact initial
  | cons op ops ih =>
    refine ih (kept op List.mem_cons_self start initial) ?_
    exact fun other member => kept other (List.mem_cons_of_mem op member)

/-- Every operation of the list is permitted in the state it starts from. -/
def Permits (permitted : Op → State → Prop) (step : Op → State → State) : List Op → State → Prop
  | [], _ => True
  | op :: ops, state => permitted op state ∧ Permits permitted step ops (step op state)

instance Permits.decidable (permitted : Op → State → Prop)
    [∀ op state, Decidable (permitted op state)] (step : Op → State → State) :
    ∀ ops start, Decidable (Permits permitted step ops start)
  | [], _ => inferInstanceAs (Decidable True)
  | op :: ops, state =>
    have := Permits.decidable permitted step ops (step op state)
    inferInstanceAs (Decidable (_ ∧ _))

theorem runAll_append (step : Op → State → State) (first second : List Op) (start : State) :
    runAll step (first ++ second) start = runAll step second (runAll step first start) :=
  List.foldl_append

theorem permits_append_iff {first second : List Op} :
    Permits permitted step (first ++ second) start ↔
      Permits permitted step first start ∧
      Permits permitted step second (runAll step first start) := by
  induction first generalizing start with
  | nil => simp [Permits, runAll]
  | cons op first ih =>
    simp only [List.cons_append, Permits, ih, and_assoc, runAll, List.foldl_cons]

/-- A list of permitted operations is a run. -/
theorem Permits.reaches (permits : Permits permitted step ops start) :
    Reaches permitted step start (runAll step ops start) := by
  induction ops generalizing start with
  | nil => exact .refl
  | cons op ops ih => exact .head ⟨op, permits.1, rfl⟩ (ih permits.2)

/-- Without a condition every list of operations is a run. -/
theorem permits_of_forall (always : ∀ op state, permitted op state) (ops : List Op)
    (start : State) : Permits permitted step ops start := by
  induction ops generalizing start with
  | nil => trivial
  | cons op ops ih => exact ⟨always op start, ih (step op start)⟩

end Runs
