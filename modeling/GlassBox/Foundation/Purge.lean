import Mathlib

/-!
# Operations without influence

Some operations of a system leave the state as it was, up to an equivalence which every answer
respects.  Purging them from a sequence then changes neither the other answers nor the last state.
-/

section Purge

variable {Op State Response : Type*} (respond : Op → State → Response × State)

/-- The answers to a sequence of operations, each with its operation, and the state it leaves. -/
def serve : List Op → State → List (Op × Response) × State
  | [], state => ([], state)
  | op :: ops, state =>
    ((op, (respond op state).1) :: (serve ops (respond op state).2).1,
      (serve ops (respond op state).2).2)

theorem serve_cons (op : Op) (ops : List Op) (state : State) :
    serve respond (op :: ops) state =
      ((op, (respond op state).1) :: (serve respond ops (respond op state).2).1,
        (serve respond ops (respond op state).2).2) := rfl

/-- States are alike when every operation answers them alike and keeps them alike, and operations
which are not seen leave a state like the one they found, as long as they are quiet. -/
structure Unwinding (seen : Op → Bool) (quiet : Op → Prop) (alike : State → State → Prop) :
    Prop where
  equivalence : Equivalence alike
  consistent : ∀ op state other, alike state other →
    (respond op state).1 = (respond op other).1 ∧
      alike (respond op state).2 (respond op other).2
  silent : ∀ op state, seen op = false → quiet op → alike (respond op state).2 state

namespace Unwinding

variable {respond} {seen : Op → Bool} {quiet : Op → Prop} {alike : State → State → Prop}

/-- The operations which are not seen can be purged from a sequence. -/
theorem purge (unwinding : Unwinding respond seen quiet alike) {ops : List Op}
    (silent : ∀ op ∈ ops, seen op = false → quiet op) {state other : State}
    (related : alike state other) :
    ((serve respond ops state).1.filter fun answer => seen answer.1) =
        (serve respond (ops.filter seen) other).1 ∧
      alike (serve respond ops state).2 (serve respond (ops.filter seen) other).2 := by
  induction ops generalizing state other with
  | nil => exact ⟨rfl, related⟩
  | cons op ops ih =>
    have later := fun next member => silent next (List.mem_cons_of_mem op member)
    by_cases visible : seen op = true
    · obtain ⟨answered, kept⟩ := unwinding.consistent op state other related
      obtain ⟨answers, last⟩ := ih later kept
      rw [List.filter_cons_of_pos visible, serve_cons, serve_cons]
      refine ⟨?_, last⟩
      calc
        _ = (op, (respond op state).1) ::
            (serve respond ops (respond op state).2).1.filter fun answer => seen answer.1 :=
          List.filter_cons_of_pos (p := fun answer : Op × Response => seen answer.1) visible
        _ = _ := by rw [answered, answers]
    · have hidden : seen op = false := by simpa using visible
      have kept := unwinding.silent op state hidden (silent op List.mem_cons_self hidden)
      obtain ⟨answers, last⟩ := ih later (unwinding.equivalence.trans kept related)
      rw [List.filter_cons_of_neg visible, serve_cons]
      refine ⟨?_, last⟩
      exact (List.filter_cons_of_neg (p := fun answer : Op × Response => seen answer.1)
        visible).trans answers

/-- Two sequences with the same seen operations get the same answers to them and leave states which
are alike. -/
theorem noninterference (unwinding : Unwinding respond seen quiet alike) {left right : List Op}
    (same : left.filter seen = right.filter seen)
    (left_quiet : ∀ op ∈ left, seen op = false → quiet op)
    (right_quiet : ∀ op ∈ right, seen op = false → quiet op) (state : State) :
    ((serve respond left state).1.filter fun answer => seen answer.1) =
        ((serve respond right state).1.filter fun answer => seen answer.1) ∧
      alike (serve respond left state).2 (serve respond right state).2 := by
  obtain ⟨left_answers, left_last⟩ :=
    unwinding.purge left_quiet (unwinding.equivalence.refl state)
  obtain ⟨right_answers, right_last⟩ :=
    unwinding.purge right_quiet (unwinding.equivalence.refl state)
  rw [same] at left_answers left_last
  refine ⟨left_answers.trans right_answers.symm, ?_⟩
  exact unwinding.equivalence.trans left_last (unwinding.equivalence.symm right_last)

end Unwinding

end Purge
