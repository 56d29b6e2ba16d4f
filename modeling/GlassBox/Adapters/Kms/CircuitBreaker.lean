import GlassBox.Domain.Errors
import GlassBox.Foundation.Runs

/-!
# The circuit breaker of the key service

`CircuitBreaker` of `adapters/outbound/kms/signer.py`, called by any number of callers at once.  An
open circuit keeps no mark of a probe in flight, so a second caller passes before the first records.
-/

namespace GlassBox

/-- `CircuitBreaker`: it opens after so many consecutive failures. -/
structure CircuitBreaker where
  failureThreshold : ℕ := 5
  resetAfterS : ℚ := 10
  failures : ℕ := 0
  openedAt : Option ℚ := none

namespace CircuitBreaker

variable (breaker : CircuitBreaker) (now : ℚ)

/-- `_ready_to_probe`: whether the open period has elapsed. -/
def readyToProbe : Bool :=
  match breaker.openedAt with
  | none => true
  | some openedAt => breaker.resetAfterS ≤ now - openedAt

/-- `before_call`: raise instead of attempting while the circuit is open. -/
def beforeCall : Except PyError Unit :=
  if breaker.openedAt.isSome && !breaker.readyToProbe now then
    .error {
      cls := .other "KmsUnavailableError"
      message := "key service circuit is open; failing closed"
      context := [("consecutive_failures", .ofNat breaker.failures)] }
  else .ok ()

/-- `record_success` closes the circuit. -/
def recordSuccess : CircuitBreaker := { breaker with failures := 0, openedAt := none }

/-- `record_failure`: at the threshold the circuit opens, or stays open from now on. -/
def recordFailure : CircuitBreaker :=
  { breaker with
    failures := breaker.failures + 1
    openedAt :=
      if breaker.failureThreshold ≤ breaker.failures + 1 then some now else breaker.openedAt }

end CircuitBreaker

/-- A call of one method by a caller. -/
inductive BreakerStep (ι : Type)
  | beforeCall (caller : ι)
  | recordSuccess (caller : ι)
  | recordFailure (caller : ι)

/-- The breaker among its callers. -/
structure BreakerRun (ι : Type) where
  breaker : CircuitBreaker
  clock : ℚ
  /-- The callers which passed and did not record yet. -/
  inFlight : List ι := []
  /-- When callers passed since the last record. -/
  passes : List ℚ := []
  lastFailure : Option ℚ := none

namespace BreakerRun

variable {ι : Type} [DecidableEq ι]

/-- A call at a time; a caller which passes is in flight until it records. -/
def step : BreakerStep ι × ℚ → BreakerRun ι → BreakerRun ι
  | (.beforeCall caller, now), run =>
    match run.breaker.beforeCall now with
    | .error _ => { run with clock := now }
    | .ok _ =>
      { run with clock := now, inFlight := caller :: run.inFlight, passes := now :: run.passes }
  | (.recordSuccess caller, now), run =>
    { run with
      breaker := run.breaker.recordSuccess
      clock := now
      inFlight := run.inFlight.erase caller
      passes := [] }
  | (.recordFailure caller, now), run =>
    { breaker := run.breaker.recordFailure now
      clock := now
      inFlight := run.inFlight.erase caller
      lastFailure := some now }

/-- The clock does not go back, and a caller records once for each call it passed. -/
def Orderly : BreakerStep ι × ℚ → BreakerRun ι → Prop
  | (.beforeCall caller, now), run => run.clock ≤ now ∧ caller ∉ run.inFlight
  | (.recordSuccess caller, now), run | (.recordFailure caller, now), run =>
    run.clock ≤ now ∧ caller ∈ run.inFlight

/-- An open circuit opened with the last failure, after enough of them in a row, and nobody passed
it before the open period was over. -/
structure ProbesWait (run : BreakerRun ι) : Prop where
  opened : ∀ opened ∈ run.breaker.openedAt, run.lastFailure = some opened ∧
    run.breaker.failureThreshold ≤ run.breaker.failures
  waited : ∀ opened ∈ run.breaker.openedAt, ∀ pass ∈ run.passes,
    opened + run.breaker.resetAfterS ≤ pass

variable {run : BreakerRun ι} {op : BreakerStep ι × ℚ}

theorem ProbesWait.step (waits : run.ProbesWait) : (step op run).ProbesWait := by
  obtain ⟨kind, now⟩ := op
  cases kind with
  | recordSuccess caller => exact ⟨nofun, nofun⟩
  | recordFailure caller =>
    refine ⟨fun opened member => ?_, nofun⟩
    dsimp only [BreakerRun.step, CircuitBreaker.recordFailure] at member ⊢
    split at member
    next reached =>
      cases member
      exact ⟨rfl, reached⟩
    next missed =>
      -- a circuit which is open stays over its threshold
      have reached := (waits.opened opened member).2
      omega
  | beforeCall caller =>
    cases passing : run.breaker.beforeCall now with
    | error error =>
      simp only [BreakerRun.step, passing]
      exact ⟨waits.opened, waits.waited⟩
    | ok =>
      simp only [BreakerRun.step, passing]
      refine ⟨waits.opened, fun opened (isOpen : opened ∈ run.breaker.openedAt) => ?_⟩
      refine List.forall_mem_cons.mpr ⟨?_, waits.waited opened isOpen⟩
      simp [CircuitBreaker.beforeCall, CircuitBreaker.readyToProbe, Option.mem_def.mp isOpen]
        at passing
      linarith

/-- A breaker which opens with the first failure. -/
def fragileRun : BreakerRun Bool := ⟨{ failureThreshold := 1 }, 0, [], [], none⟩

def probeSteps : List (BreakerStep Bool × ℚ) :=
  [(.beforeCall true, 0), (.recordFailure true, 0), (.beforeCall true, 10)]

/-- How many pass is not bounded: two callers do, once the open period is over. -/
theorem second_probe_passes :
    let steps := probeSteps ++ [(.beforeCall false, 10)]
    Permits Orderly step steps fragileRun ∧
      (runAll step steps fragileRun).breaker.openedAt = some 0 ∧
      (runAll step steps fragileRun).passes = [10, 10] := by
  refine ⟨?_, by decide +kernel⟩
  simp [Permits, probeSteps, fragileRun, Orderly, step, CircuitBreaker.beforeCall,
    CircuitBreaker.recordFailure, CircuitBreaker.readyToProbe]

end BreakerRun

end GlassBox
