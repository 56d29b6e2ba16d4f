import GlassBox.App.Sample
import GlassBox.Foundation.Versions

/-!
# The in-memory mandate store

`InMemoryMandateStore` of `adapters/outbound/memory/governance_state.py`.  `put` replaces the
mandate of an agent whatever its version is, and takes the agent off the deny list.
-/

namespace GlassBox

open DecisionService (sampleMandate)

/-- `InMemoryMandateStore`; a key is a tenant and an agent. -/
structure InMemoryMandateStore where
  mandates : String × String → Option Mandate := fun _ => none
  revoked : String × String → Bool := fun _ => false
  available : Bool := true

namespace InMemoryMandateStore

def keyOf (mandate : Mandate) : String × String := (mandate.tenantId.val, mandate.agentRef.val)

/-- A new mandate ends a revocation. -/
def put (mandate : Mandate) (store : InMemoryMandateStore) : InMemoryMandateStore :=
  { store with
    mandates := Function.update store.mandates (keyOf mandate) (some mandate)
    revoked := Function.update store.revoked (keyOf mandate) false }

def revoke (key : String × String) (store : InMemoryMandateStore) : InMemoryMandateStore :=
  { store with revoked := Function.update store.revoked key true }

/-- An agent without a mandate counts as revoked. -/
def isRevoked (store : InMemoryMandateStore) (key : String × String) (now : ℚ) :
    Except PyError Bool :=
  if store.available then
    if store.revoked key then .ok true
    else
      match store.mandates key with
      | none => .ok true
      | some mandate => (requireTimestamp now "now").map mandate.isRevokedAt
  else
    .error {
      cls := .mandateError
      message := "mandate store is unreachable"
      context := [("tenant_id", .str key.1), ("agent_ref", .str key.2),
        ("adapter", .str "InMemoryMandateStore")] }

inductive Write
  | put (mandate : Mandate)
  | revoke (key : String × String)

def Write.step : Write → InMemoryMandateStore → InMemoryMandateStore
  | put mandate => InMemoryMandateStore.put mandate
  | revoke key => InMemoryMandateStore.revoke key

/-- A mandate which is put is not older than the stored one, and newer while the agent is on the
deny list. -/
def Write.Newer : Write → InMemoryMandateStore → Prop
  | put mandate, store => ∀ stored, store.mandates (keyOf mandate) = some stored →
      stored.version ≤ mandate.version ∧
        (store.revoked (keyOf mandate) = true → stored.version < mandate.version)
  | revoke _, _ => True

/-- After a revocation the agent stays revoked, unless a mandate is put which is newer than all
that were put before the revocation. -/
def Survives (front : List Write) (key : String × String) (back : List Write) : Prop :=
  (∀ mandate, .put mandate ∈ back → keyOf mandate = key →
    ∃ earlier, .put earlier ∈ front ∧ keyOf earlier = key ∧ mandate.version ≤ earlier.version) →
  ∀ now, (runAll Write.step (front ++ .revoke key :: back) {}).isRevoked key now = .ok true

/-- The version stored for an agent never decreases over the writes. -/
def NeverOlder (writes : List Write) : Prop :=
  ∀ front back, writes = front ++ back →
    Advances Mandate.version (runAll Write.step front {}).mandates
      (runAll Write.step writes {}).mandates

variable {writes : List Write} {key : String × String} {start : InMemoryMandateStore}

theorem Write.advances (write : Write) (store : InMemoryMandateStore) (newer : write.Newer store) :
    Advances Mandate.version store.mandates (write.step store).mandates := by
  cases write with
  | put mandate => exact .update fun stored found => (newer stored found).1
  | revoke key => exact .refl _

/-- An agent stays on the deny list until a mandate newer than the stored one is put. -/
theorem revoked_runAll (permits : Permits Write.Newer Write.step writes start)
    (revoked : start.revoked key = true)
    (known : ∀ mandate, .put mandate ∈ writes → keyOf mandate = key →
      ∃ stored, start.mandates key = some stored ∧ mandate.version ≤ stored.version) :
    (runAll Write.step writes start).revoked key = true := by
  induction writes generalizing start with
  | nil => exact revoked
  | cons write writes ih =>
    have known' : ∀ mandate, .put mandate ∈ writes → keyOf mandate = key →
        ∃ stored, start.mandates key = some stored ∧ mandate.version ≤ stored.version :=
      fun mandate member => known mandate (List.mem_cons_of_mem _ member)
    cases write with
    | put mandate =>
      by_cases same : keyOf mandate = key
      · subst same
        obtain ⟨stored, found, older⟩ := known mandate List.mem_cons_self rfl
        exact absurd ((permits.1 stored found).2 revoked) (not_lt.mpr older)
      · have kept : (put mandate start).mandates key = start.mandates key :=
          Function.update_of_ne (Ne.symm same) _ _
        refine ih permits.2 ((Function.update_of_ne (Ne.symm same) _ _).trans revoked) ?_
        intro other member other_key
        obtain ⟨stored, found, older⟩ := known' other member other_key
        exact ⟨stored, kept.trans found, older⟩
    | revoke other =>
      refine ih permits.2 ?_ known'
      by_cases same : key = other
      · exact same ▸ Function.update_self ..
      · exact (Function.update_of_ne same _ _).trans revoked

theorem available_runAll : (runAll Write.step writes start).available = start.available := by
  refine runAll_invariant (fun store : InMemoryMandateStore =>
    store.available = start.available) rfl ?_
  intro write _ store same
  cases write <;> exact same

theorem revocation_survives_of_newer (permits : Permits Write.Newer Write.step writes {}) :
    (∀ front key back, writes = front ++ .revoke key :: back → Survives front key back) ∧
      NeverOlder writes := by
  constructor
  · rintro front key back rfl stale now
    obtain ⟨before, -, after⟩ := permits_append_iff.mp permits
    have known : ∀ mandate, .put mandate ∈ back → keyOf mandate = key →
        ∃ stored, (runAll Write.step front {}).mandates key = some stored ∧
          mandate.version ≤ stored.version := by
      intro mandate member same
      obtain ⟨earlier, put, rfl, older⟩ := stale mandate member same
      obtain ⟨early, late, rfl⟩ := List.mem_iff_append.mp put
      have advances := Advances.runAll InMemoryMandateStore.mandates Write.advances
        (permits_append_iff.mp before).2.2
      obtain ⟨stored, found, newer⟩ := advances _ _ (Function.update_self ..)
      rw [runAll_append]
      exact ⟨stored, found, older.trans newer⟩
    have revoked := revoked_runAll after (Function.update_self ..) known
    unfold isRevoked
    rw [if_pos available_runAll, runAll_append]
    exact if_pos revoked
  · rintro front back rfl
    rw [runAll_append]
    exact Advances.runAll InMemoryMandateStore.mandates Write.advances
      (permits_append_iff.mp permits).2

/-- The agent is revoked, has its mandate renewed and is revoked again, before another agent is
given a mandate. -/
def revokedAgain : List Write :=
  let mandate := sampleMandate
  [.put mandate, .revoke (keyOf mandate),
    .put { mandate with version := mandate.version + 1, version_positive := Nat.le_add_left 1 _ },
    .revoke (keyOf mandate), .put { mandate with agentRef := Sample.account }]

theorem revocation_survives_again :
    (∀ now, (runAll Write.step revokedAgain {}).isRevoked (keyOf sampleMandate) now =
      .ok true) ∧ NeverOlder revokedAgain := by
  have other : keyOf { sampleMandate with agentRef := Sample.account } ≠
      keyOf sampleMandate := by decide +kernel
  have permits : Permits Write.Newer Write.step revokedAgain {} := by
    refine ⟨?_, trivial, ?_, trivial, ?_, trivial⟩
    · rintro stored ⟨⟩
    · rintro stored ⟨⟩
      exact ⟨Nat.le_succ _, fun _ => Nat.lt_succ_self _⟩
    · rintro stored ⟨⟩
  obtain ⟨survives, never⟩ := revocation_survives_of_newer permits
  refine ⟨survives (revokedAgain.take 3) _ (revokedAgain.drop 4) rfl ?_, never⟩
  intro mandate member same
  cases List.mem_singleton.mp member
  exact absurd same other

/-- The mandate is delivered once more after the revocation. -/
theorem redelivery_lifts_revocation :
    ¬ Survives [.put sampleMandate] (keyOf sampleMandate)
      [.put sampleMandate] := by
  intro claim
  have revoked := congrArg Except.toOption (claim ?_ 0)
  · revert revoked
    decide +kernel
  · rintro mandate member -
    cases List.mem_singleton.mp member
    exact ⟨_, List.mem_singleton_self _, rfl, le_refl _⟩

end InMemoryMandateStore

end GlassBox
