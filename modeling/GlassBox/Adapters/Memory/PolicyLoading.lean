import GlassBox.Adapters.Memory.Policy
import GlassBox.Domain.Sample
import GlassBox.Foundation.Versions
import GlassBox.Ports.Evidence

/-!
# Loading policy bundles

`load_bundle` signs a bundle and activates it, `load_signed_bundle` activates one whose signature
verifies.  Neither looks at the version of the bundle it replaces.
-/

namespace GlassBox

open EStateM

namespace PolicyLoading

/-- Make a bundle the one which decides for its tenant. -/
def activate (signed : SignedPolicyBundle) (point : DeclarativePolicyDecisionPoint) :
    DeclarativePolicyDecisionPoint :=
  { point with bundles := Function.update point.bundles signed.bundle.tenantId.val (some signed) }

/-- The bundle was made active, or nothing happened. -/
def Activates (bundle : PolicyBundle) (before after : DeclarativePolicyDecisionPoint) : Prop :=
  after = before ∨ ∃ signed : SignedPolicyBundle, signed.bundle = bundle ∧
    after = activate signed before

inductive Load
  | unsigned (bundle : PolicyBundle)
  | signed (bundle : SignedPolicyBundle)

def Load.subject : Load → PolicyBundle
  | unsigned bundle => bundle
  | signed bundle => bundle.bundle

section Loading

variable [Runtime] {κ : Type} (signer : MacSigner κ)

/-- Signs a bundle and activates it. -/
def loadBundle (bundle : PolicyBundle) :
    EStateM PyError (Signed κ DeclarativePolicyDecisionPoint) SignedPolicyBundle := do
  let payload ← ofExcept bundle.canonicalPayload
  let code ← Signed.onSigner (signer.mac payload)
  if valid : 32 ≤ code.length then
    let keyId := signer.keyId (← get).signer
    let signerKeyId ← ofExcept (requireIdentifier keyId "signer_key_id")
    let signed : SignedPolicyBundle := { bundle, mac := ⟨code, valid⟩, signerKeyId }
    Signed.modifyStore (activate signed)
    return signed
  else
    throw (.validation "mac must be at least 32 bytes" "mac" [("offending_type", .str "bytes")])

/-- Activates a bundle whose signature holds. -/
def loadSignedBundle (signed : SignedPolicyBundle) :
    EStateM PyError (Signed κ DeclarativePolicyDecisionPoint) Unit := do
  let payload ← ofExcept signed.bundle.canonicalPayload
  let context := [("tenant_id", .str signed.bundle.tenantId.val),
    ("bundle_id", .str signed.bundle.bundleId.val)]
  match signer.verify (← get).signer payload signed.mac.val signed.signerKeyId.val with
  | .error error =>
    if error.isA .signingUnavailableError then
      throw {
        cls := .policyBundleUnavailableError
        message := "policy bundle signer could not be verified"
        context := context }
    else throw error
  | .ok false =>
    throw {
      cls := .policyBundleSignatureError
      message := "policy bundle failed signature verification"
      context := context }
  | .ok true => Signed.modifyStore (activate signed)

/-- What is left after a call, whether it returned or raised. -/
def Load.step (load : Load) (state : Signed κ DeclarativePolicyDecisionPoint) :
    Signed κ DeclarativePolicyDecisionPoint :=
  match load with
  | unsigned bundle => (loadBundle signer bundle).after state
  | signed bundle => (loadSignedBundle signer bundle).after state

/-- The bundle in force for the tenant is not newer than the one which is loaded. -/
def Load.NotOlder (load : Load) (state : Signed κ DeclarativePolicyDecisionPoint) : Prop :=
  ∀ active, state.store.bundles load.subject.tenantId.val = some active →
    active.bundle.version ≤ load.subject.version

theorem ends_loadSignedBundle (signed : SignedPolicyBundle)
    (state : Signed κ DeclarativePolicyDecisionPoint) :
    (loadSignedBundle signer signed).Ends state
      (fun _ after => after.store = activate signed state.store)
      (fun _ after => after.store = state.store) := by
  simp only [loadSignedBundle, ends_bind, ends_ofExcept]
  cases signed.bundle.canonicalPayload with
  | error error => trivial
  | ok payload =>
    simp only [ends_get]
    split
    · split <;> exact rfl
    · exact rfl
    · exact rfl

theorem Load.activates_step (load : Load) (state : Signed κ DeclarativePolicyDecisionPoint) :
    Activates load.subject state.store (load.step signer state).store := by
  cases load with
  | unsigned bundle =>
    refine after_of_ends (fun after => Activates bundle state.store (Signed.store after)) ?_
    simp only [loadBundle, ends_bind, ends_ofExcept]
    cases bundle.canonicalPayload with
    | error error => exact .inl rfl
    | ok payload =>
      simp only [Signed.onSigner, ends_zoom]
      refine ends_of_forall (fun code key => ?_) fun _ _ => .inl rfl
      split
      · simp only [ends_bind, ends_get, ends_ofExcept]
        cases requireIdentifier (signer.keyId key) "signer_key_id" with
        | error error => exact .inl rfl
        | ok signerKeyId => exact .inr ⟨_, rfl, rfl⟩
      · exact .inl rfl
  | signed signed =>
    refine after_of_ends
      (fun after => Activates signed.bundle state.store (Signed.store after)) ?_
    exact (ends_loadSignedBundle signer signed state).mono
      (fun _ _ activated => .inr ⟨signed, rfl, activated⟩) fun _ _ kept => .inl kept

theorem Load.advances (load : Load) (state : Signed κ DeclarativePolicyDecisionPoint)
    (newer : load.NotOlder state) :
    Advances (fun signed : SignedPolicyBundle => signed.bundle.version) state.store.bundles
      (load.step signer state).store.bundles := by
  rcases load.activates_step signer state with kept | ⟨signed, loaded, changed⟩
  · rw [kept]
    exact .refl _
  · rw [changed]
    refine .update fun active found => ?_
    rw [loaded] at found ⊢
    exact newer active found

variable {signer} {start : Signed κ DeclarativePolicyDecisionPoint} {loads : List Load}

/-- The version of the bundle which decides for a tenant never decreases over the loads. -/
def NeverRollsBack (signer : MacSigner κ) (start : Signed κ DeclarativePolicyDecisionPoint)
    (loads : List Load) : Prop :=
  ∀ front back, loads = front ++ back → ∀ tenantId earlier,
    (runAll (Load.step signer) front start).store.active tenantId = .ok earlier →
    ∃ later, (runAll (Load.step signer) loads start).store.active tenantId = .ok later ∧
      earlier.bundle.version ≤ later.bundle.version

omit [Runtime] in
theorem active_eq_ok_iff {point : DeclarativePolicyDecisionPoint} {tenantId : Identifier}
    {signed : SignedPolicyBundle} :
    point.active tenantId = .ok signed ↔
      point.available = true ∧ point.bundles tenantId.val = some signed := by
  unfold DeclarativePolicyDecisionPoint.active
  split
  · rename_i available
    cases point.bundles tenantId.val <;> simp [available]
  · rename_i unavailable
    simp [unavailable]

theorem available_runAll (loads : List Load) (start : Signed κ DeclarativePolicyDecisionPoint) :
    (runAll (Load.step signer) loads start).store.available = start.store.available := by
  refine runAll_invariant (fun state : Signed κ DeclarativePolicyDecisionPoint =>
    state.store.available = start.store.available) rfl ?_
  intro load _ state same
  rcases load.activates_step signer state with kept | ⟨signed, -, changed⟩
  · rwa [kept]
  · rwa [changed]

end Loading

def emptyBundle (version : Nat) : PolicyBundle where
  bundleId := Sample.bundle
  tenantId := acme
  version := version
  createdAt := Timestamp.epoch
  rules_length := by decide
  names_nodup := by simp
  rules_sorted := by simp

attribute [local instance] plainRuntime

/-- The version in force for the sample tenant after some loads. -/
def versionAfter (loads : List Load) : Option Nat :=
  ((runAll (Load.step MacSigner.counter) loads ⟨0, {}⟩).store.bundles acme.val).map fun signed =>
    signed.bundle.version

end PolicyLoading

end GlassBox
