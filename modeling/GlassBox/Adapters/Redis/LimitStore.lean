import GlassBox.Foundation.Keyspace
import GlassBox.Ports.Limits

/-!
# The Redis limit store

`adapters/outbound/redis/limits.py`.  The Lua scripts are programs on a keyspace.  Numbers survive
their text form, keys do not expire, and a script which fails leaves what it has done so far.
-/

namespace GlassBox

open Keyspace

/-- `RedisLimitStore`: its settings; the counters live in the keyspace. -/
structure RedisLimitStore where
  limits : String → Option ℚ := fun _ => none
  defaultLimit : ℚ := 100
  cooldownSeconds : ℚ := 300
  keyPrefix : String := ""
  maxTenantSubjects : Int := 0

namespace RedisLimitStore

structure CounterKeys where
  window : String
  cost : String
  cooldown : String

/-- The costs found under the given members. -/
def sumCosts (costKey : String) (members : List String) : Script ℚ := do
  if members = [] then return 0
  else
    let costs ← hmget costKey members
    return costs.reduceOption.sum

/-- `observed` of the consume script. -/
def observed (keys : CounterKeys) : Script ℚ := do
  let members ← zrange keys.window
  sumCosts keys.cost members

/-- Remove members from both tables of a counter, if there are any. -/
def removeMembers (keys : CounterKeys) (members : List String) : Script Unit := do
  if members = [] then return ()
  else
    eraseEntries .sortedSet keys.window members
    eraseEntries .hash keys.cost members

/-- The end of the consume script, outside a cooldown. -/
def judgeAdmission (keys : CounterKeys) (now : ℚ) (member : String)
    (cost ceiling cooldownSeconds : ℚ) : Script LimitAnswer := do
  if ← hexists keys.cost member then
    let current ← observed keys
    return ⟨true, current, none⟩
  else
    let current ← observed keys
    if ceiling < current + cost then
      setNumber keys.cooldown (now + cooldownSeconds)
      return ⟨false, current + cost, some (cooldownSeconds, now + cooldownSeconds)⟩
    else
      insertEntry .sortedSet keys.window member now
      insertEntry .hash keys.cost member cost
      return ⟨true, current + cost, none⟩

def consumeScript (keys : CounterKeys) (now horizon : ℚ) (member : String)
    (cost ceiling cooldownSeconds : ℚ) : Script LimitAnswer := do
  let expired ← zrangeByScore keys.window (· ≤ horizon)
  removeMembers keys expired
  match ← getNumber keys.cooldown with
  | none => judgeAdmission keys now member cost ceiling cooldownSeconds
  | some bound =>
    if now < bound then
      let current ← observed keys
      return ⟨false, current, some (bound - now, bound)⟩
    else
      del [keys.cooldown]
      judgeAdmission keys now member cost ceiling cooldownSeconds

def cumulativeScript (keys : CounterKeys) (horizon : ℚ) : Script ℚ := do
  let members ← zrangeByScore keys.window (horizon < ·)
  sumCosts keys.cost members

def releaseScript (keys : CounterKeys) (suffix : String) : Script Unit := do
  let members ← zrange keys.window
  removeMembers keys (members.filter fun member => suffix.toList.isSuffixOf member.toList)

def keysUnder (prefixed : String) : CounterKeys where
  window := prefixed ++ ":w"
  cost := prefixed ++ ":c"
  cooldown := prefixed ++ ":cd"

def evictSubject (subjectsKey subject : String) : Script Unit := do
  let keys := keysUnder subject
  del [keys.window, keys.cost, keys.cooldown]
  eraseEntries .sortedSet subjectsKey [subject]

def tenantQuotaScript (subjectsKey : String) (now : ℚ) (subject : String) (maxSubjects : Int) :
    Script Unit := do
  insertEntry .sortedSet subjectsKey subject now
  if maxSubjects ≤ 0 then return ()
  else
    let count ← zcard subjectsKey
    if maxSubjects < count then
      let members ← zrange subjectsKey
      (members.take (count - maxSubjects.toNat)).forM (evictSubject subjectsKey)
    else return ()

variable (store : RedisLimitStore)

def tag (tenantId : Identifier) : String :=
  store.keyPrefix ++ "\x7b" ++ tenantId.val ++ "\x7d:"

/-- The key under the tag of its tenant. -/
def prefixed (key : LimitKey) : String := store.tag key.tenantId ++ key.canonicalKey

/-- The names of a counter's three keys. -/
def keys (key : LimitKey) : CounterKeys := keysUnder (store.prefixed key)

/-- Where the subjects of a tenant are listed. -/
def tenantSubjectsKey (key : LimitKey) : String := store.tag key.tenantId ++ "tenant_subjects"

def ceiling (canonical : String) : ℚ := (store.limits canonical).getD store.defaultLimit

/-- Any failure of the server fails closed. -/
def guarded {α : Type} (key : LimitKey) (script : Script α) : EStateM PyError Keyspace α :=
  fun space =>
    match script space with
    | .ok value after => .ok value after
    | .error _ after =>
      .error {
        cls := .limitStoreUnavailable
        message := "redis limit store is unreachable"
        context := [("key", .str key.canonicalKey), ("adapter", .str "RedisLimitStore")] } after

def touchSubject (key : LimitKey) (moment : Timestamp) : Script Unit :=
  if store.maxTenantSubjects = 0 then return ()
  else
    tenantQuotaScript (store.tenantSubjectsKey key) moment.val (store.prefixed key)
      store.maxTenantSubjects

def consumeWithQuota (key : LimitKey) (cost : ℚ) (member : String) (moment : Timestamp) :
    Script LimitAnswer := do
  store.touchSubject key moment
  consumeScript (store.keys key) moment.val (key.window.startOf moment) member cost
    (store.ceiling key.canonicalKey) store.cooldownSeconds

/-- The quota step comes before the counter. -/
def tryConsume [Runtime] (key : LimitKey) (cost : ℚ) (decisionId : String) (now : ℚ) :
    EStateM PyError Keyspace LimitVerdict := do
  let member ← ofExcept (LimitKey.memberFor decisionId now)
  let moment ← ofExcept (requireTimestamp now "now")
  let answer ← guarded key (store.consumeWithQuota key cost member moment)
  ofExcept (answer.verdict key (store.ceiling key.canonicalKey) now)

def cumulative (key : LimitKey) (window : Window) (now : ℚ) : EStateM PyError Keyspace ℚ := do
  let moment ← ofExcept (requireTimestamp now "now")
  guarded key (cumulativeScript (store.keys key) (window.startOf moment))

/-- Drops the entries of a decision. -/
def release (key : LimitKey) (decisionId : String) : EStateM PyError Keyspace Unit :=
  guarded key (releaseScript (store.keys key) (":" ++ decisionId))

/-- The store with every method of its port. -/
def meter [Runtime] : LimitMeter Keyspace where
  tryConsume := store.tryConsume
  release := store.release
  cumulative := store.cumulative

end RedisLimitStore

end GlassBox
