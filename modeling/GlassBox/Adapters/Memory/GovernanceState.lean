import GlassBox.Foundation.RecentDict
import GlassBox.Ports.Limits

/-!
# In-memory limits and baselines

`adapters/outbound/memory/governance_state.py`.  Every method runs under one lock, so it is one
step on the store.  The `OrderedDict`s of the source are dictionaries bounded by recency, most
recent key first.
-/

namespace GlassBox

/-- Sliding windows and cooldowns by key. -/
structure InMemoryLimitStore where
  windows : AList (fun _ : String => List Admission) := ∅
  cooldowns : String → Option ℚ := fun _ => none
  limits : String → Option ℚ := fun _ => none
  defaultLimit : ℚ := 100
  cooldownSeconds : ℚ := 300
  maxSubjects : Nat := 10000
  available : Bool := true

namespace InMemoryLimitStore

def new (limits : String → Option ℚ) (defaultLimit cooldownSeconds : ℚ) (maxSubjects : Nat) :
    InMemoryLimitStore := { limits, defaultLimit, cooldownSeconds, maxSubjects }

def admissions (store : InMemoryLimitStore) (canonical : String) : List Admission :=
  (store.windows.lookup canonical).getD []

def ceiling (store : InMemoryLimitStore) (canonical : String) : ℚ :=
  (store.limits canonical).getD store.defaultLimit

/-- `sum(entry[2] for entry in entries)`. -/
def total (entries : List Admission) : ℚ := SlidingWindow.total Admission.cost entries

/-- The admissions behind the horizon of a window. -/
def current (window : Window) (moment : Timestamp) (entries : List Admission) : List Admission :=
  SlidingWindow.behind Admission.timestamp (window.startOf moment) entries

def activeCooldown (store : InMemoryLimitStore) (canonical : String) (now : ℚ) : Option ℚ :=
  (store.cooldowns canonical).filter fun bound => now < bound

/-- `del _cooldowns[canonical]`, if it is there. -/
def clearCooldown (canonical : String) (store : InMemoryLimitStore) : InMemoryLimitStore :=
  { store with cooldowns := Function.update store.cooldowns canonical none }

/-- Create a missing window, evicting the oldest ones with their cooldowns, and use it. -/
def touch (canonical : String) (store : InMemoryLimitStore) : InMemoryLimitStore :=
  let created := store.windows.insert canonical (store.admissions canonical)
  { store with
    windows := store.windows.touch store.maxSubjects canonical []
    cooldowns := fun key =>
      if store.windows.lookup canonical = none ∧ key ∈ created.forgotten store.maxSubjects then none
      else store.cooldowns key }

/-- The admissions of the most recent window change. -/
def setWindow (canonical : String) (entries : List Admission) (store : InMemoryLimitStore) :
    InMemoryLimitStore :=
  { store with windows := store.windows.insert canonical entries }

def trip (canonical : String) (bound : ℚ) (store : InMemoryLimitStore) : InMemoryLimitStore :=
  { store with cooldowns := Function.update store.cooldowns canonical (some bound) }

def belongsTo (decisionId : String) (entry : Admission) : Bool :=
  (":" ++ decisionId).toList.isSuffixOf entry.member.toList

/-- A store out of reach fails closed. -/
def requireAvailable (key : LimitKey) : EStateM PyError InMemoryLimitStore Unit := do
  if (← get).available then return ()
  else
    throw {
      cls := .limitStoreUnavailable
      message := "limit store is unreachable"
      context := [("key", .str key.canonicalKey), ("adapter", .str "InMemoryLimitStore")] }

section Methods

variable [Runtime]

/-- The verdict on an admission of `cost` to a window with the given current entries. -/
def judgeAdmission (key : LimitKey) (cost : ℚ) (member : String) (now : ℚ)
    (entries : List Admission) : EStateM PyError InMemoryLimitStore LimitVerdict := do
  let store ← get
  let canonical := key.canonicalKey
  let ceiling := store.ceiling canonical
  if entries.any (·.member = member) then
    ofExcept (LimitVerdict.make true key ceiling (total entries) now none)
  else if ceiling < total entries + cost then
    modify (trip canonical (now + store.cooldownSeconds))
    ofExcept (LimitVerdict.make false key ceiling (total entries + cost) now
      (some (store.cooldownSeconds, now + store.cooldownSeconds)))
  else
    modify (setWindow canonical (entries ++ [⟨now, member, cost⟩]))
    ofExcept (LimitVerdict.make true key ceiling (total entries + cost) now none)

/-- A cooldown refuses before the budget does. -/
def tryConsume (key : LimitKey) (cost : ℚ) (decisionId : String) (now : ℚ) :
    EStateM PyError InMemoryLimitStore LimitVerdict := do
  requireAvailable key
  let member ← ofExcept (LimitKey.memberFor decisionId now)
  let moment ← ofExcept (requireTimestamp now "now")
  let store ← get
  let canonical := key.canonicalKey
  match store.activeCooldown canonical now with
  | some bound =>
    ofExcept (LimitVerdict.make false key (store.ceiling canonical)
      (total (current key.window moment (store.admissions canonical))) now
      (some (bound - now, bound)))
  | none =>
    modify fun store => touch canonical (clearCooldown canonical store)
    match (← get).windows.lookup canonical with
    | none => throw { cls := .other "KeyError", message := Runtime.reprStr canonical }
    | some entries =>
      let entries := current key.window moment entries
      modify (setWindow canonical entries)
      judgeAdmission key cost member now entries

end Methods

/-- Drops the entries of a decision. -/
def release (key : LimitKey) (decisionId : String) : EStateM PyError InMemoryLimitStore Unit := do
  requireAvailable key
  match (← get).windows.lookup key.canonicalKey with
  | none | some [] => return ()
  | some entries =>
    modify fun store =>
      { store with
        windows := store.windows.replace key.canonicalKey
          (entries.filter fun entry => !belongsTo decisionId entry) }

/-- What was admitted in a window. -/
def cumulative (key : LimitKey) (window : Window) (now : ℚ) :
    EStateM PyError InMemoryLimitStore ℚ := do
  requireAvailable key
  let store ← get
  let moment ← ofExcept (requireTimestamp now "now")
  return total (current window moment (store.admissions key.canonicalKey))

def port [Runtime] : LimitStore InMemoryLimitStore where
  tryConsume := tryConsume
  release := release

def meter [Runtime] : LimitMeter InMemoryLimitStore :=
  { port with cumulative }

end InMemoryLimitStore

/-- `Baseline`: a summarised distribution. -/
structure Baseline where
  key : BaselineKey
  sampleCount : Nat
  mean : ℚ
  stddev : Amount
  updatedAt : Timestamp

namespace Baseline

/-- `summarise`: mean and population standard deviation. -/
def summarise [Runtime] (key : BaselineKey) (samples : List ℚ) (now : ℚ) :
    Except PyError Baseline := do
  let mean := samples.sum / samples.length
  let variance := (samples.map fun value => (value - mean) * (value - mean)).sum / samples.length
  let updatedAt ← requireTimestamp now "updated_at"
  return {
    key := key
    sampleCount := samples.length
    mean := mean
    stddev := ⟨Runtime.sqrt variance, Runtime.sqrt_nonneg variance⟩
    updatedAt := updatedAt }

/-- Off a constant baseline it is infinite. -/
def zScore (baseline : Baseline) (observation : ℚ) : PyFloat :=
  if baseline.stddev.val = 0 then
    if observation = baseline.mean then .finite 0 else .posInf
  else .finite ((observation - baseline.mean) / baseline.stddev.val)

end Baseline

/-- `abs(score) > threshold`. -/
def exceedsThreshold (threshold : ℚ) : PyFloat → Bool
  | .finite value => threshold < |value|
  | .nan => false
  | .posInf | .negInf => true

def BaselineVerdict.make (anomalous : Bool) (key : BaselineKey) (observation : ℚ)
    (zScore : PyFloat) (threshold : ℚ) (sampleCount : Nat) (usedPeerPrior : Bool) :
    Except PyError BaselineVerdict := do
  let threshold ← requireNonNegative threshold "threshold"
  return {
    anomalous := anomalous
    key := key
    observation := observation
    zScore := zScore
    threshold := threshold.val
    sampleCount := sampleCount
    usedPeerPrior := usedPeerPrior }

structure InMemoryBaselineStore where
  observations : AList (fun _ : String => List ℚ) := ∅
  minSamples : Nat := 30
  maxSamples : Nat := 512
  maxSubjects : Nat := 10000
  available : Bool := true

namespace InMemoryBaselineStore

/-- The samples of one distribution, oldest first. -/
def samples (store : InMemoryBaselineStore) (canonical : String) : List ℚ :=
  (store.observations.lookup canonical).getD []

def requireAvailable (key : BaselineKey) : EStateM PyError InMemoryBaselineStore Unit := do
  if (← get).available then return ()
  else
    throw {
      cls := .baselineStoreUnavailable
      message := "baseline store is unreachable"
      context := [("key", .str key.canonicalKey), ("adapter", .str "InMemoryBaselineStore")] }

/-- Whether a subject has too little history of its own. -/
def lacksHistory (store : InMemoryBaselineStore) (key : BaselineKey) : Bool :=
  match store.observations.lookup key.canonicalKey with
  | none => true
  | some samples => samples.length < store.minSamples

/-- The key whose samples an observation is compared with. -/
def effectiveKey (store : InMemoryBaselineStore) (key : BaselineKey) (peerGroup : Identifier) :
    BaselineKey :=
  if store.lacksHistory key then key.peerGroupFallback peerGroup else key

section Methods

variable [Runtime]

/-- `evaluate`, which only reads the store. -/
def evaluate (key : BaselineKey) (observation : ℚ) (peerGroup : Identifier) (threshold now : ℚ) :
    EStateM PyError InMemoryBaselineStore BaselineVerdict := do
  requireAvailable key
  let store ← get
  let effective := store.effectiveKey key peerGroup
  match store.samples effective.canonicalKey with
  | [] =>
    ofExcept (BaselineVerdict.make true effective observation .posInf threshold 0
      (store.lacksHistory key))
  | sample :: rest =>
    let baseline ← ofExcept (Baseline.summarise effective (sample :: rest) now)
    let zScore := baseline.zScore observation
    ofExcept (BaselineVerdict.make (exceedsThreshold threshold zScore) effective observation
      zScore threshold baseline.sampleCount (store.lacksHistory key))

/-- A new sample behind the others; a full deque loses its oldest one. -/
def pushSample (canonical : String) (samples : List ℚ) (observation : ℚ)
    (store : InMemoryBaselineStore) : InMemoryBaselineStore :=
  { store with
    observations := (store.observations.insert canonical
      ((samples ++ [observation]).rtake store.maxSamples)) }

/-- Adds an observation to its key. -/
def observe (key : BaselineKey) (observation : ℚ) :
    EStateM PyError InMemoryBaselineStore Unit := do
  requireAvailable key
  let canonical := key.canonicalKey
  modify fun store =>
    { store with observations := store.observations.touch store.maxSubjects canonical [] }
  match (← get).observations.lookup canonical with
  | none => throw { cls := .other "KeyError", message := Runtime.reprStr canonical }
  | some samples => modify (pushSample canonical samples observation)

def port : BaselineStore InMemoryBaselineStore where
  evaluate := evaluate
  observe := fun key observation _ => observe key observation

end Methods

end InMemoryBaselineStore

end GlassBox
