import GlassBox.Foundation.SlidingWindow
import GlassBox.Ports.Governance

/-!
# Counters behind the limit port

`ports/limits.py`.  `LimitCounter` says what the methods of the port do to one counter, whatever
the store keeps it in; the adapters are compared with it.
-/

namespace GlassBox

/-- One admission: when, under which member, and for how much. -/
structure Admission where
  timestamp : ℚ
  member : String
  cost : ℚ
  deriving DecidableEq

/-- What a store answers to an attempt to consume, before it is written as a verdict. -/
structure LimitAnswer where
  admitted : Bool
  observed : ℚ
  /-- `retry_after_s` and `cooldown_until`. -/
  retry : Option (ℚ × ℚ) := none

def LimitAnswer.verdict (answer : LimitAnswer) (key : LimitKey) (ceiling now : ℚ) :
    Except PyError LimitVerdict :=
  LimitVerdict.make answer.admitted key ceiling answer.observed now answer.retry

/-- What a limit store holds for one key. -/
structure LimitCounter where
  admissions : List Admission := []
  cooldown : Option ℚ := none

namespace LimitCounter

open SlidingWindow
open Admission (timestamp)

def consume (ceiling cooldownSeconds horizon now : ℚ) (member : String) (cost : ℚ)
    (counter : LimitCounter) : LimitAnswer × LimitCounter :=
  let entries := behind timestamp horizon counter.admissions
  let observed := total Admission.cost entries
  match counter.cooldown.filter (now < ·) with
  | some bound => (⟨false, observed, some (bound - now, bound)⟩, ⟨entries, some bound⟩)
  | none =>
    if entries.any (·.member = member) then (⟨true, observed, none⟩, ⟨entries, none⟩)
    else if ceiling < observed + cost then
      (⟨false, observed + cost, some (cooldownSeconds, now + cooldownSeconds)⟩,
        ⟨entries, some (now + cooldownSeconds)⟩)
    else (⟨true, observed + cost, none⟩, ⟨entries ++ [⟨now, member, cost⟩], none⟩)

variable {horizon : ℚ} {ceiling now cost : ℚ} {member : String} {counter : LimitCounter}
  {left right : LimitCounter}

/-- Outside a cooldown a counter is judged by what still counts. -/
theorem consume_of_free {cooldownSeconds : ℚ} (free : counter.cooldown.filter (now < ·) = none) :
    counter.consume ceiling cooldownSeconds horizon now member cost =
      consume ceiling cooldownSeconds horizon now member cost
        ⟨behind timestamp horizon counter.admissions, none⟩ := by
  unfold consume
  simp only [free, Option.filter_none, behind_behind (le_refl horizon)]

/-- A counter in a cooldown refuses and keeps it. -/
theorem consume_of_held {ceiling cooldownSeconds horizon now bound : ℚ} {member : String}
    {cost : ℚ} {counter : LimitCounter} (held : counter.cooldown = some bound)
    (early : now < bound) :
    counter.consume ceiling cooldownSeconds horizon now member cost =
      (⟨false, total Admission.cost (behind timestamp horizon counter.admissions),
        some (bound - now, bound)⟩,
        ⟨behind timestamp horizon counter.admissions, some bound⟩) := by
  have active : counter.cooldown.filter (now < ·) = some bound :=
    Option.filter_eq_some_iff.mpr ⟨held, decide_eq_true early⟩
  unfold consume
  rw [active]

/-- How an attempt to consume can end. -/
inductive Consumed (ceiling now : ℚ) (member : String) (cost : ℚ) (entries : List Admission) :
    LimitAnswer → LimitCounter → Prop
  /-- The counter is in a cooldown, or has just tripped. -/
  | refused {observed wait bound : ℚ} :
      Consumed ceiling now member cost entries ⟨false, observed, some (wait, bound)⟩
        ⟨entries, some bound⟩
  /-- The admission is already there. -/
  | repeated (known : ∃ entry ∈ entries, entry.member = member) :
      Consumed ceiling now member cost entries ⟨true, total Admission.cost entries, none⟩
        ⟨entries, none⟩
  | granted (unknown : ∀ entry ∈ entries, entry.member ≠ member)
      (affordable : total Admission.cost entries + cost ≤ ceiling) :
      Consumed ceiling now member cost entries ⟨true, total Admission.cost entries + cost, none⟩
        ⟨entries ++ [⟨now, member, cost⟩], none⟩

theorem consumed_consume (ceiling cooldownSeconds horizon now : ℚ) (member : String) (cost : ℚ)
    (counter : LimitCounter) :
    Consumed ceiling now member cost (behind timestamp horizon counter.admissions)
      (counter.consume ceiling cooldownSeconds horizon now member cost).1
      (counter.consume ceiling cooldownSeconds horizon now member cost).2 := by
  unfold consume
  split
  next bound held => exact .refused
  next free =>
    dsimp only
    split
    next known => exact .repeated (by simpa using known)
    next unknown =>
      split
      next beyond => exact .refused
      next within =>
        simp only [List.any_eq_true, decide_eq_true_eq, not_exists, not_and] at unknown
        exact .granted unknown (not_lt.mp within)

/-- An attempt adds nothing to what still counts, or one admission under a new member. -/
theorem Consumed.admissions {entries : List Admission} {answer : LimitAnswer}
    (consumed : Consumed ceiling now member cost entries answer counter) :
    counter.admissions = entries ∨
      counter.admissions = entries ++ [⟨now, member, cost⟩] ∧
        ∀ entry ∈ entries, entry.member ≠ member := by
  cases consumed with
  | refused | repeated known => exact .inl rfl
  | granted unknown affordable => exact .inr ⟨rfl, unknown⟩

/-- Give back the admissions whose member ends as given. -/
def release (suffix : String) (counter : LimitCounter) : LimitCounter :=
  { counter with
    admissions := counter.admissions.filter fun entry =>
      !suffix.toList.isSuffixOf entry.member.toList }

def cumulative (horizon : ℚ) (counter : LimitCounter) : ℚ :=
  total Admission.cost (behind timestamp horizon counter.admissions)

/-- Two counters which no call behind the horizon can tell apart. -/
def AgreesBehind (horizon : ℚ) (left right : LimitCounter) : Prop :=
  behind timestamp horizon left.admissions =
    behind timestamp horizon right.admissions ∧ left.cooldown = right.cooldown

section

variable (agrees : left.AgreesBehind horizon right)
include agrees

theorem AgreesBehind.mono {later : ℚ} (forward : horizon ≤ later) :
    left.AgreesBehind later right :=
  ⟨behind_eq_mono forward agrees.1, agrees.2⟩

theorem AgreesBehind.consume_eq (ceiling cooldownSeconds now : ℚ) (member : String) (cost : ℚ) :
    left.consume ceiling cooldownSeconds horizon now member cost =
      right.consume ceiling cooldownSeconds horizon now member cost := by
  unfold consume
  rw [agrees.1, agrees.2]

theorem AgreesBehind.cumulative_eq :
    left.cumulative horizon = right.cumulative horizon := by
  unfold cumulative
  rw [agrees.1]

theorem AgreesBehind.release (suffix : String) :
    (left.release suffix).AgreesBehind horizon (right.release suffix) := by
  refine ⟨?_, agrees.2⟩
  unfold LimitCounter.release
  rw [behind_filter, behind_filter, agrees.1]

end

end LimitCounter

/-- `LimitStore` with its read-only method. -/
structure LimitMeter (ℓ : Type) extends LimitStore ℓ where
  /-- Consumption within a window. -/
  cumulative : LimitKey → Window → ℚ → EStateM PyError ℓ ℚ

inductive LimitCall
  | tryConsume (key : LimitKey) (cost : ℚ) (decisionId : String) (now : ℚ)
  | release (key : LimitKey) (decisionId : String)
  | cumulative (key : LimitKey) (window : Window) (now : ℚ)

namespace LimitCall

def key : LimitCall → LimitKey
  | tryConsume key .. | release key _ | cumulative key .. => key

def time : LimitCall → Option ℚ
  | tryConsume _ _ _ now | cumulative _ _ now => some now
  | release .. => none

def clock (call : LimitCall) (before : ℚ) : ℚ := call.time.getD before

end LimitCall

/-- What a call of the limit port returns. -/
inductive LimitReply
  | verdict (verdict : LimitVerdict)
  | released
  | consumed (cost : ℚ)

namespace LimitMeter

variable {ℓ : Type} (meter : LimitMeter ℓ)

def call : LimitCall → EStateM PyError ℓ LimitReply
  | .tryConsume key cost decisionId now => .verdict <$> meter.tryConsume key cost decisionId now
  | .release key decisionId => (fun _ => .released) <$> meter.release key decisionId
  | .cumulative key window now => .consumed <$> meter.cumulative key window now

def step (call : LimitCall) (store : ℓ) : Except PyError LimitReply × ℓ :=
  match meter.call call store with
  | .ok reply after => (.ok reply, after)
  | .error error after => (.error error, after)

variable {meter} in
theorem step_of_endingIn {call : LimitCall} {store after : ℓ} {result : Except PyError LimitReply}
    (run : meter.call call store = result.endingIn after) :
    meter.step call store = (result, after) := by
  unfold step
  rw [run]
  cases result <;> rfl

theorem step_snd (call : LimitCall) (store : ℓ) :
    (meter.step call store).2 = (meter.call call).after store := by
  unfold step EStateM.after
  cases meter.call call store <;> rfl

/-- The answers to a sequence of calls, each beside its call. -/
def trace : List LimitCall → ℓ → List (LimitCall × Except PyError LimitReply)
  | [], _ => []
  | call :: calls, store =>
    (call, (meter.step call store).1) :: trace calls (meter.step call store).2

theorem trace_cons (call : LimitCall) (calls : List LimitCall) (store : ℓ) :
    meter.trace (call :: calls) store =
      (call, (meter.step call store).1) :: meter.trace calls (meter.step call store).2 := rfl

end LimitMeter

end GlassBox
